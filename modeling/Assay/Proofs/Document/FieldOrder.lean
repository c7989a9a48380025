import Assay.Proofs.Document.Writing

/-!
# The order of fields

An object may be written with its fields in any order. What a reader takes from a document does not
depend on it: not in dictionaries, since their keys differ, and not in records whose fields can be
read one before the other as well as the other way round.
-/

namespace Assay.Json

open Document (Node)
open Document.Node (ReadAs Takes dictionary_table_eq_ok_iff named_cons_eq_ok_iff named_mono)
open List (Forall₂)

variable {α β : Type}

/-! ## Documents that are not damaged -/

theorem intactEntries_eq (es : List (Node × Node)) :
    Node.intactEntries es = es.all fun e => e.1.intact && e.2.intact := by
  induction es with
  | nil => rfl
  | cons e es ih => rw [Node.intactEntries, ih, List.all_cons]

mutual

/-- What holds a value is not damaged. -/
theorem HeldBy.intact : ∀ {j : Json} {n : Node}, j.HeldBy n → n.intact = true
  | .null, _, rfl | .bool _, _, rfl | .whole _, _, rfl | .real _, _, rfl | .text _, _, rfl => rfl
  | .list _, _, ⟨_, hitems, rfl⟩ => HeldByItems.intact hitems
  | .object _, _, ⟨_, es', hfields, hperm, rfl⟩ => by
    show Node.intactEntries es' = true
    rw [intactEntries_eq, hperm.all_eq, ← intactEntries_eq]
    exact HeldByFields.intact hfields

theorem HeldByItems.intact : ∀ {js : List Json} {ns : List Node}, HeldByItems js ns →
    Node.intactItems ns = true
  | [], _, rfl => rfl
  | _ :: _, _, ⟨_, _, hitem, hitems, rfl⟩ => by
    rw [Node.intactItems, hitem.intact, HeldByItems.intact hitems]
    rfl

theorem HeldByFields.intact : ∀ {fs : List (String × Json)} {es : List (Node × Node)},
    HeldByFields fs es → Node.intactEntries es = true
  | [], _, rfl => rfl
  | (_, _) :: _, _, ⟨_, _, hitem, hfields, rfl⟩ => by
    rw [Node.intactEntries, hitem.intact, HeldByFields.intact hfields]
    rfl

end

/-! ## Readers -/

/-- Whether a reader finds the same in every document that holds a value. -/
def OrderBlind (read : Node → Except Document.Error α) : Prop :=
  ∀ (j : Json) (n : Node) (a : α), j.Canonical → j.HeldBy n → read j.node = .ok a → read n = .ok a

variable {read : Node → Except Document.Error α}

/-- There is only one way to write a scalar, so it comes down to lists and objects. -/
theorem orderBlind_of_compound
    (hlist : ∀ js ns a, CanonicalItems js → HeldByItems js ns → read (list js).node = .ok a →
      read (.list ns { positional := true }) = .ok a)
    (hobject : ∀ fs es es' a, (object fs).Canonical → HeldByFields fs es → es'.Perm es →
      read (object fs).node = .ok a → read (.table es' {}) = .ok a) :
    OrderBlind read := by
  intro j n a hj hn hread
  cases j with
  | list js =>
    obtain ⟨ns, hns, rfl⟩ := hn
    exact hlist js ns a hj hns hread
  | object fs =>
    obtain ⟨es, es', hes, hperm, rfl⟩ := hn
    exact hobject fs es es' a hj hes hperm hread
  | null | bool | whole | real | text =>
    obtain rfl := hn
    exact hread

theorem orderBlind_of_scalar (h : ∀ n a, read n = .ok a → ∃ s, n = .scalar s) :
    OrderBlind read := by
  refine orderBlind_of_compound (fun js ns a _ _ hread => ?_) fun fs es es' a _ _ _ hread => ?_
  · obtain ⟨s, hs⟩ := h _ _ hread
    cases hs
  · obtain ⟨s, hs⟩ := h _ _ hread
    cases hs

theorem exists_scalar_of_bind {f : Document.Scalar → Except Document.Error α} {n : Node} {a : α}
    (h : n.scalar?.bind f = .ok a) : ∃ s, n = .scalar s := by
  cases n with
  | scalar s => exact ⟨s, rfl⟩
  | list | table | broken => cases h

theorem orderBlind_uint64 : OrderBlind Node.uint64 :=
  orderBlind_of_scalar fun _ _ => exists_scalar_of_bind

theorem orderBlind_atom : OrderBlind Node.atom :=
  orderBlind_of_scalar fun _ _ => exists_scalar_of_bind

/-- What is read may be worked on. -/
theorem OrderBlind.bind (h : OrderBlind read) (f : α → Except Document.Error β) :
    OrderBlind fun n => (read n).bind f := by
  intro j n b hj hn hread
  obtain ⟨a, ha, hf⟩ := bind_eq_ok hread
  show (read n).bind f = .ok b
  rw [h j n a hj hn ha]
  exact hf

/-- Lists and objects are never absent. -/
theorem OrderBlind.optional (h : OrderBlind read) : OrderBlind (Node.optional read) := by
  have hsome := h.bind fun a => .ok (some a)
  exact orderBlind_of_compound
    (fun js ns a hjs hns => hsome (list js) _ a hjs ⟨ns, hns, rfl⟩)
    fun fs es es' a hfs hes hperm => hsome (object fs) _ a hfs ⟨es, es', hes, hperm, rfl⟩

theorem orderBlind_lenientOption : OrderBlind Node.lenientOption :=
  (orderBlind_atom.bind fun a => Node.require a.text?).optional

theorem orderBlind_lenient : OrderBlind Node.lenient :=
  orderBlind_lenientOption.bind fun o => .ok (o.getD "")

theorem OrderBlind.items (h : OrderBlind read) : OrderBlind (Node.items read) := by
  have hitems : ∀ (js : List Json) (ns : List Node) (as : List α), CanonicalItems js →
      HeldByItems js ns → (nodeItems js).mapM read = .ok as → ns.mapM read = .ok as := by
    intro js
    induction js with
    | nil =>
      rintro _ as - rfl hread
      exact hread
    | cons j js ih =>
      rintro _ as hjs ⟨n, ns, hn, hns, rfl⟩ hread
      rw [nodeItems, List.mapM_cons] at hread
      obtain ⟨a, ha, hread⟩ := bind_eq_ok hread
      obtain ⟨as', has, hread⟩ := bind_eq_ok hread
      cases hread
      rw [List.mapM_cons, h j n a hjs.1 hn ha, ih ns as' hjs.2 hns has]
      rfl
  refine orderBlind_of_compound hitems fun fs es es' as _ _ _ hread => ?_
  cases hread

/-! ## Dictionaries and values of any shape -/

theorem keys_of_readAs {fs : List (String × Json)} {kvs : List (String × α)}
    (h : Forall₂ (ReadAs read) (nodeFields fs) kvs) : kvs.map Prod.fst = fs.map Prod.fst := by
  induction fs generalizing kvs with
  | nil =>
    cases h
    rfl
  | cons f fs ih =>
    cases h with
    | cons hkv hkvs =>
      have hkey : f.1 = _ := Except.ok.inj hkv.1
      rw [List.map_cons, List.map_cons, ih hkvs, hkey]

/-- **The entries of whatever holds an object** are read as its fields, in some order. -/
theorem OrderBlind.entries (h : OrderBlind read) {fs : List (String × Json)}
    {es es' : List (Node × Node)} {kvs : List (String × α)} (hfs : CanonicalFields fs)
    (hes : HeldByFields fs es) (hperm : es'.Perm es)
    (hread : Forall₂ (ReadAs read) (nodeFields fs) kvs) :
    ∃ kvs', Forall₂ (ReadAs read) es' kvs' ∧ kvs'.Perm kvs := by
  -- the entries that stand in the order of the fields are read as the fields are
  suffices hsame : Forall₂ (ReadAs read) es kvs from List.perm_comp_forall₂ hperm hsame
  clear hperm
  induction fs generalizing es kvs with
  | nil =>
    obtain rfl := hes
    exact hread
  | cons f fs ih =>
    obtain ⟨n, es, hn, hes, rfl⟩ := hes
    cases hread with
    | cons hkv hkvs => exact .cons ⟨hkv.1, h _ _ _ hfs.1 hn hkv.2⟩ (ih hfs.2 hes hkvs)

theorem OrderBlind.dictionary (h : OrderBlind read) : OrderBlind (Node.dictionary read) := by
  refine orderBlind_of_compound (fun js ns d _ _ hread => ?_)
    fun fs es es' d hfs hes hperm hread => ?_
  · cases hread
  · obtain ⟨kvs, hkvs, rfl⟩ := dictionary_table_eq_ok_iff.mp hread
    obtain ⟨kvs', hkvs', hsame⟩ := h.entries hfs.2 hes hperm hkvs
    refine dictionary_table_eq_ok_iff.mpr ⟨kvs', hkvs', Dictionary.ofList_perm hsame ?_⟩
    rw [keys_of_readAs hkvs]
    exact Dictionary.nodup_keys ⟨fs, hfs.1⟩

theorem orderBlind_lenientDictionary : OrderBlind Node.lenientDictionary :=
  orderBlind_lenient.dictionary.optional.bind fun o => .ok (o.getD ∅)

theorem orderBlind_json : OrderBlind Node.json := by
  intro j n a hj hn hread
  rw [json_node hj] at hread
  exact hread ▸ hn.json hj

/-! ## Records -/

section Records

variable {names : List (List String)} {readField : α → Nat → Node → Except Document.Error α}

/-- Whether two fields of a record can be read in either order. -/
def Interchange (count : Nat) (readField : α → Nat → Node → Except Document.Error α) : Prop :=
  ∀ (a a' b : α) (i k : Nat) (m n : Node), i < count → k < count → i ≠ k →
    readField a i m = .ok a' → readField a' k n = .ok b →
      ∃ a'', readField a k n = .ok a'' ∧ readField a'' i m = .ok b

/-- Two entries can be taken in either order. -/
theorem takes_swap (hread : Interchange names.length readField) {e e' : Node × Node}
    {s s₁ s₂ : List Nat × α} (h : Takes names readField e s s₁)
    (h' : Takes names readField e' s₁ s₂) :
    ∃ s₁' seen, Takes names readField e' s s₁' ∧ Takes names readField e s₁' (seen, s₂.2) ∧
      seen ⊆ s₂.1 := by
  cases h with
  | other key hkey hname hskip =>
    exact ⟨s₂, s₂.1, h', .other key hkey hname hskip, List.Subset.refl _⟩
  | field key i a hkey hname hnew hi =>
    cases h' with
    | other key' hkey' hname' hskip' =>
      exact ⟨s, i :: s.1, .other key' hkey' hname' hskip', .field key i a hkey hname hnew hi,
        List.Subset.refl _⟩
    | field key' k b hkey' hname' hnew' hk =>
      -- the second field was new after the first one, so they are different fields
      rw [List.mem_cons, not_or] at hnew'
      have hlt : ∀ {key : String} {i : Nat},
          (names.findIdx? fun ns => ns.contains key) = some i → i < names.length :=
        fun h => (List.findIdx?_eq_some_iff_findIdx_eq.mp h).1
      obtain ⟨a', hk', hi'⟩ := hread _ _ _ _ _ _ _ (hlt hname) (hlt hname') (Ne.symm hnew'.1) hi hk
      refine ⟨(k :: s.1, a'), i :: k :: s.1, .field key' k a' hkey' hname' hnew'.2 hk',
        .field key i b hkey hname ?_ hi', ?_⟩
      · rw [List.mem_cons, not_or]
        exact ⟨Ne.symm hnew'.1, hnew⟩
      · intro l hl
        simp only [List.mem_cons] at hl ⊢
        tauto

theorem named_perm (hread : Interchange names.length readField) {es es' : List (Node × Node)}
    (hperm : es.Perm es') {s : List Nat × α} {b : α}
    (h : Node.record.named names readField s.1 s.2 es = .ok b) :
    Node.record.named names readField s.1 s.2 es' = .ok b := by
  induction hperm generalizing s with
  | nil => exact h
  | cons e _ ih =>
    obtain ⟨s', htakes, h⟩ := named_cons_eq_ok_iff.mp h
    exact named_cons_eq_ok_iff.mpr ⟨s', htakes, ih h⟩
  | swap e e' es =>
    -- what is seen in the other order is the same, so the rest is taken as before
    obtain ⟨s₁, htakes, h⟩ := named_cons_eq_ok_iff.mp h
    obtain ⟨s₂, htakes', h⟩ := named_cons_eq_ok_iff.mp h
    obtain ⟨s₁', seen, hfirst, hsecond, hsub⟩ := takes_swap hread htakes htakes'
    exact named_cons_eq_ok_iff.mpr ⟨s₁', hfirst,
      named_cons_eq_ok_iff.mpr ⟨(seen, s₂.2), hsecond, named_mono (s := s₂) hsub h⟩⟩
  | trans _ _ ih ih' => exact ih' (ih h)

/-- **A record does not depend on the order of its fields**, if none of its readers does. -/
theorem orderBlind_record (hread : Interchange names.length readField)
    (hblind : ∀ a i, OrderBlind (readField a i)) (initial : α) :
    OrderBlind (Node.record names readField initial) := by
  have hpositional : ∀ (js : List Json) (ns : List Node) (count i : Nat) (a b : α),
      CanonicalItems js → HeldByItems js ns →
      Node.record.positional readField count i a (nodeItems js) = .ok b →
      Node.record.positional readField count i a ns = .ok b := by
    intro js
    induction js with
    | nil =>
      rintro _ count i a b - rfl h
      exact h
    | cons j js ih =>
      rintro _ count i a b hjs ⟨n, ns, hn, hns, rfl⟩ h
      rw [nodeItems, Node.record.positional] at h
      rw [Node.record.positional]
      split at h
      · rename_i hlt
        obtain ⟨a', ha, h⟩ := bind_eq_ok h
        rw [if_pos hlt, hblind a i j n a' hjs.1 hn ha]
        exact ih ns _ _ _ _ hjs.2 hns h
      · cases h
  have hnamed : ∀ (fs : List (String × Json)) (es : List (Node × Node)) (s : List Nat × α) (b : α),
      CanonicalFields fs → HeldByFields fs es →
      Node.record.named names readField s.1 s.2 (nodeFields fs) = .ok b →
      Node.record.named names readField s.1 s.2 es = .ok b := by
    intro fs
    induction fs with
    | nil =>
      rintro _ s b - rfl h
      exact h
    | cons f fs ih =>
      rintro _ s b hfs ⟨n, es, hn, hes, rfl⟩ h
      obtain ⟨s', htakes, h⟩ := named_cons_eq_ok_iff.mp h
      refine named_cons_eq_ok_iff.mpr ⟨s', ?_, ih es s' b hfs.2 hes h⟩
      cases htakes with
      | other key hkey hname _ => exact .other key hkey hname (if_pos hn.intact)
      | field key i a hkey hname hnew hi =>
        exact .field key i a hkey hname hnew (hblind s.2 i f.2 n a hfs.1 hn hi)
  exact orderBlind_of_compound (fun js ns => hpositional js ns names.length 0 initial)
    fun fs es es' a hfs hes hperm h =>
      named_perm hread hperm.symm (hnamed fs es ([], initial) a hfs.2 hes h)

end Records

end Assay.Json
