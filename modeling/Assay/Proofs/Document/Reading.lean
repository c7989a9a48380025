import Assay.Load
import Assay.Proofs.Dictionary
import Assay.Proofs.Fallible

/-!
# Reading documents

What is known of a document, or of its parts, once it has been read.
-/

namespace Assay

namespace Document

open List (Forall₂)

variable {α : Type} {read : Node → Except Error α}

theorem Source.read_eq_ok_iff {s : Source} {a : α} :
    s.read read = .ok a ↔ read s.root = .ok a ∧ s.complete = true := by
  unfold Source.read
  cases read s.root <;> cases s.complete <;> simp [bind, Except.bind, pure, Except.pure]

namespace Node

/-- Whatever is read from a list has been read from one of its items. -/
theorem exists_read_of_items {n : Node} {as : List α} (h : n.items read = .ok as) {a : α}
    (ha : a ∈ as) : ∃ m, read m = .ok a := by
  unfold items at h
  split at h
  · split at h <;> cases h
    cases ha
  · split at h
    · cases h
    · rename_i ns form _
      rcases mapM_except_cases read ns with ⟨as', hmap, hall⟩ | ⟨_, _, _, _, _, _, _, hmap⟩
      · obtain rfl : as' = as := Except.ok.inj (hmap.symm.trans h)
        obtain ⟨i, hi, rfl⟩ := List.getElem_of_mem ha
        exact ⟨_, (List.forall₂_iff_get.mp hall).2 i (hall.length_eq ▸ hi) hi⟩
      · rw [hmap] at h
        cases h
  · cases h

/-- A value that is there has been read. -/
theorem read_of_optional {n : Node} {a : α} (h : n.optional read = .ok (some a)) :
    read n = .ok a := by
  have hsome : (do return some (← read n) : Except Error (Option α)) = .ok (some a) →
      read n = .ok a := by
    intro h
    obtain ⟨a', ha', hsome⟩ := bind_eq_ok h
    cases hsome
    exact ha'
  unfold optional at h
  split at h
  · obtain ⟨absent, -, h⟩ := bind_eq_ok h
    cases absent with
    | true => cases h
    | false => exact hsome h
  · exact hsome h

theorem require_eq_ok_iff {o : Option α} {a : α} : require o = .ok a ↔ o = some a := by
  cases o <;> simp [require]

theorem lt_of_uint64 {n : Node} {k : Nat} (h : n.uint64 = .ok k) : k < Number.words64 := by
  obtain ⟨s, -, h⟩ := bind_eq_ok h
  have hfilter := Option.filter_eq_some_iff.mp (require_eq_ok_iff.mp h)
  exact of_decide_eq_true hfilter.2

/-! ## Entries -/

/-- Entries whose values are read one by one. -/
def ReadAs (read : Node → Except Error α) (e : Node × Node) (kv : String × α) : Prop :=
  e.1.text = .ok kv.1 ∧ read e.2 = .ok kv.2

theorem dictionary_table_eq_ok_iff {es : List (Node × Node)} {d : Dictionary α} :
    (table es {}).dictionary read = .ok d ↔
      ∃ kvs, Forall₂ (ReadAs read) es kvs ∧ Dictionary.ofList kvs = d := by
  suffices hfold : ∀ d₀ : Dictionary α, es.foldlM (fun d e => do
      return d.insert (← e.1.text) (← read e.2)) d₀ = .ok d ↔
      ∃ kvs, Forall₂ (ReadAs read) es kvs ∧ d₀.insertAll kvs = d from hfold ∅
  induction es with
  | nil => simp [Dictionary.insertAll, pure, Except.pure]
  | cons e es ih =>
    intro d₀
    rw [List.foldlM_cons]
    constructor
    · intro h
      obtain ⟨d₁, hd₁, h⟩ := bind_eq_ok h
      obtain ⟨k, hk, hd₁⟩ := bind_eq_ok hd₁
      obtain ⟨v, hv, hd₁⟩ := bind_eq_ok hd₁
      cases hd₁
      obtain ⟨kvs, hkvs, rfl⟩ := (ih _).mp h
      exact ⟨(k, v) :: kvs, .cons ⟨hk, hv⟩ hkvs, rfl⟩
    · rintro ⟨_, hall, rfl⟩
      cases hall with
      | cons hkv hkvs =>
        rw [hkv.1, hkv.2]
        exact (ih _).mpr ⟨_, hkvs, rfl⟩

theorem jsonEntries_of_forall₂ {es : List (Node × Node)} {fs : List (String × Json)}
    (h : Forall₂ (ReadAs json) es fs) : jsonEntries es = .ok fs := by
  induction h with
  | nil => rfl
  | cons hf _ ih =>
    rw [jsonEntries, hf.1, hf.2, ih]
    rfl

/-! ## Records -/

section Records

variable {names : List (List String)} {readField : α → Nat → Node → Except Error α}

/-- One entry of a record is taken: which fields were seen and what was read, before and after. -/
inductive Takes (names : List (List String)) (readField : α → Nat → Node → Except Error α)
    (e : Node × Node) (s : List Nat × α) : List Nat × α → Prop
  /-- An entry that is no field is passed over. -/
  | other (key : String) (hkey : e.1.text = .ok key)
      (hname : (names.findIdx? fun ns => ns.contains key) = none) (hskip : e.2.skip = .ok ()) :
      Takes names readField e s s
  /-- A field is read that was not seen before. -/
  | field (key : String) (i : Nat) (a : α) (hkey : e.1.text = .ok key)
      (hname : (names.findIdx? fun ns => ns.contains key) = some i) (hnew : i ∉ s.1)
      (hread : readField s.2 i e.2 = .ok a) : Takes names readField e s (i :: s.1, a)

theorem named_cons_eq_ok_iff {e : Node × Node} {es : List (Node × Node)} {s : List Nat × α}
    {b : α} :
    record.named names readField s.1 s.2 (e :: es) = .ok b ↔
      ∃ s', Takes names readField e s s' ∧
        record.named names readField s'.1 s'.2 es = .ok b := by
  obtain ⟨k, v⟩ := e
  constructor
  · intro h
    rw [record.named] at h
    obtain ⟨key, hkey, h⟩ := bind_eq_ok h
    split at h
    · rename_i hname
      obtain ⟨_, hskip, h⟩ := bind_eq_ok h
      exact ⟨s, .other key hkey hname hskip, h⟩
    · rename_i i hname
      split at h
      · cases h
      · rename_i hnew
        obtain ⟨a, hread, h⟩ := bind_eq_ok h
        exact ⟨(i :: s.1, a), .field key i a hkey hname (by simpa using hnew) hread, h⟩
  · rintro ⟨s', htakes, h⟩
    cases htakes with
    | other key hkey hname hskip =>
      show (k.text).bind _ = _
      rw [hkey]
      simp only [Except.bind, hname]
      show (v.skip).bind _ = _
      rw [hskip]
      exact h
    | field key i a hkey hname hnew hread =>
      show (k.text).bind _ = _
      rw [hkey]
      simp only [Except.bind, hname]
      rw [if_neg (by simpa using hnew)]
      show (readField s.2 i v).bind _ = _
      rw [hread]
      exact h

/-- What is taken when more fields were seen is taken. -/
theorem Takes.mono {e : Node × Node} {s s' : List Nat × α} (h : Takes names readField e s s')
    {seen : List Nat} (hsub : seen ⊆ s.1) :
    ∃ seen', Takes names readField e (seen, s.2) (seen', s'.2) ∧ seen' ⊆ s'.1 := by
  cases h with
  | other key hkey hname hskip => exact ⟨seen, .other key hkey hname hskip, hsub⟩
  | field key i a hkey hname hnew hread =>
    exact ⟨i :: seen, .field key i a hkey hname (fun hmem => hnew (hsub hmem)) hread,
      List.cons_subset_cons i hsub⟩

theorem named_mono {es : List (Node × Node)} {seen : List Nat} {s : List Nat × α} {b : α}
    (hsub : seen ⊆ s.1) (h : record.named names readField s.1 s.2 es = .ok b) :
    record.named names readField seen s.2 es = .ok b := by
  induction es generalizing seen s with
  | nil => exact h
  | cons e es ih =>
    obtain ⟨s', htakes, h⟩ := named_cons_eq_ok_iff.mp h
    obtain ⟨seen', htakes, hsub⟩ := htakes.mono hsub
    exact named_cons_eq_ok_iff.mpr ⟨(seen', s'.2), htakes, ih (s := s') hsub h⟩

/-- Reading a record keeps to what reading each of its fields keeps to. -/
theorem record_induction {motive : α → Prop} {initial a : α} {n : Node}
    (step : ∀ {a i n a'}, motive a → readField a i n = .ok a' → motive a')
    (hinitial : motive initial) (h : n.record names readField initial = .ok a) : motive a := by
  have hpositional : ∀ (count i : Nat) (a : α) (ns : List Node) {b : α}, motive a →
      record.positional readField count i a ns = .ok b → motive b := by
    intro count i a ns
    induction ns generalizing i a with
    | nil =>
      intro b ha hb
      cases hb
      exact ha
    | cons n ns ih =>
      intro b ha hb
      rw [record.positional] at hb
      split at hb
      · obtain ⟨a', hread, hb⟩ := bind_eq_ok hb
        exact ih _ _ (step ha hread) hb
      · cases hb
  have hnamed : ∀ (es : List (Node × Node)) (s : List Nat × α) {b : α}, motive s.2 →
      record.named names readField s.1 s.2 es = .ok b → motive b := by
    intro es
    induction es with
    | nil =>
      intro s b ha hb
      cases hb
      exact ha
    | cons e es ih =>
      intro s b ha hb
      obtain ⟨s', htakes, hb⟩ := named_cons_eq_ok_iff.mp hb
      refine ih s' ?_ hb
      cases htakes with
      | other => exact ha
      | field key i a' hkey hname hnew hread => exact step ha hread
  unfold record at h
  split at h
  · split at h
    · exact hpositional _ _ _ _ hinitial h
    · cases h
  · obtain ⟨es, -, h⟩ := bind_eq_ok h
    exact hnamed es ([], initial) hinitial h

end Records

end Node

end Document

theorem Load.document_eq_ok_iff {α : Type} {read : Document.Node → Except Document.Error α}
    {files : Files} {path : String} {a : α} :
    Load.document read files path = .ok a ↔ ∃ text, files.read path = .ok text ∧
      read (Load.source path text).root = .ok a ∧ (Load.source path text).complete = true := by
  have hsource : ∀ text, ((Load.source path text).read read).mapError (Load.Error.document path) =
      .ok a ↔ read (Load.source path text).root = .ok a ∧ (Load.source path text).complete = true :=
    fun text => mapError_eq_ok_iff.trans Document.Source.read_eq_ok_iff
  constructor
  · intro h
    obtain ⟨text, htext, h⟩ := bind_eq_ok h
    exact ⟨text, mapError_eq_ok_iff.mp htext, (hsource text).mp h⟩
  · rintro ⟨text, htext, h⟩
    rw [Load.document, Load.content, htext]
    exact (hsource text).mpr h

end Assay
