import Assay.Document.Lenient
import Assay.Json.Scalar
import Assay.Proofs.Document.Reading
import Mathlib.Data.List.Perm.Basic

/-!
# Reading what was written

A JSON value is a document, and a reader takes back from it what the value was made from: texts,
lists, dictionaries, the fields of records, and values of any shape.
-/

namespace Assay.Json

open Document (Node)
open Document.Node (ReadAs)
open List (Forall₂)

variable {α β : Type}

/-! ## Scalars and lists -/

@[simp]
theorem text_node (s : String) : (text s).node.text = .ok s := rfl

@[simp]
theorem lenient_node (s : String) : (text s).node.lenient = .ok s := rfl

theorem uint64_node {n : Nat} (h : n < Number.words64) : (whole n).node.uint64 = .ok n := by
  have hfilter : (some n).filter (· < Number.words64) = some n := by simp [Option.filter, h]
  show Node.require ((some n).filter (· < Number.words64)) = .ok n
  rw [hfilter]
  rfl

theorem optional_uint64_node {n : Nat} (h : n < Number.words64) :
    (whole n).node.optional Node.uint64 = .ok (some n) := by
  show (do return some (← (whole n).node.uint64)) = .ok (some n)
  rw [uint64_node h]
  rfl

theorem nodeItems_eq (js : List Json) : nodeItems js = js.map node := by
  induction js with
  | nil => rfl
  | cons j js ih => rw [nodeItems, ih, List.map_cons]

theorem nodeFields_eq (fs : List (String × Json)) :
    nodeFields fs = fs.map fun f => ((text f.1).node, f.2.node) := by
  induction fs with
  | nil => rfl
  | cons f fs ih =>
    rw [nodeFields, ih, List.map_cons]
    rfl

/-- A list is read back item by item. -/
theorem items_node {read : Node → Except Document.Error α} (write : α → Json) (as : List α)
    (h : ∀ a ∈ as, read (write a).node = .ok a) :
    (list (as.map write)).node.items read = .ok as := by
  have hmap : (as.map fun a => (write a).node).mapM read = .ok as := by
    induction as with
    | nil => rfl
    | cons a as ih =>
      rw [List.map_cons, List.mapM_cons, h a List.mem_cons_self,
        ih fun a' ha' => h a' (List.mem_cons_of_mem _ ha')]
      rfl
  simpa [node, Node.items, nodeItems_eq, Function.comp_def] using hmap

/-! ## Objects -/

theorem ofFields_eq (fs : List (String × Json)) :
    ofFields fs = object (Dictionary.ofList fs).entries := by
  suffices h : ∀ d : Dictionary Json,
      fs.foldl (fun es f => Dictionary.insertEntry f.1 f.2 es) d.entries =
        (fs.foldl (fun d f => d.insert f.1 f.2) d).entries from congrArg object (h .empty)
  induction fs with
  | nil => exact fun d => rfl
  | cons f fs ih => exact fun d => ih (d.insert f.1 f.2)

/-- Fields that ascend are those of the object that is made of them. -/
theorem ofFields_of_sorted {fs : List (String × Json)}
    (h : fs.Pairwise fun a b => compare a.1 b.1 = .lt) : ofFields fs = object fs := by
  rw [ofFields_eq, Dictionary.ofList_entries ⟨fs, h⟩]

/-- A dictionary of texts is read back entry by entry. -/
theorem lenientDictionary_node (d : Dictionary String) :
    (ofTexts d).node.lenientDictionary = .ok d := by
  have hentries : Forall₂ (ReadAs Node.lenient) (nodeFields (d.map text).entries) d.entries := by
    rw [nodeFields_eq, Dictionary.map, List.map_map, List.forall₂_map_left_iff, List.forall₂_same]
    exact fun e _ => ⟨rfl, rfl⟩
  have hread : (ofTexts d).node.dictionary Node.lenient = .ok d :=
    Node.dictionary_table_eq_ok_iff.mpr ⟨d.entries, hentries, d.ofList_entries⟩
  show (do return (← (do return some (← (ofTexts d).node.dictionary Node.lenient))).getD ∅) = .ok d
  rw [hread]
  rfl

/-! ## Records -/

section Records

variable {names : List (List String)} {read : α → Nat → Node → Except Document.Error α}
  {seen : List Nat} {a a' b : α} {i : Nat} {key : String} {j : Json} {fs : List (String × Json)}

/-- Fields of an object that take a record, of which some fields were seen, to another one. -/
def Fills (names : List (List String)) (read : α → Nat → Node → Except Document.Error α)
    (seen : List Nat) (a : α) (fs : List (String × Json)) (b : α) : Prop :=
  Node.record.named names read seen a (nodeFields fs) = .ok b

theorem record_of_fills (h : Fills names read [] a fs b) :
    (object fs).node.record names read a = .ok b := h

theorem Fills.nil : Fills names read seen a [] a := rfl

theorem Fills.cons (i : Nat) (hi : (names.findIdx? fun ns => ns.contains key) = some i)
    (hnew : seen.contains i = false) (hread : read a i j.node = .ok a')
    (h : Fills names read (i :: seen) a' fs b) : Fills names read seen a ((key, j) :: fs) b :=
  (Node.named_cons_eq_ok_iff (s := (seen, a))).mpr
    ⟨(i :: seen, a'), .field key i a' rfl hi (by simpa using hnew) hread, h⟩

/-- A field that is left out under a condition. -/
theorem Fills.unless {absent : Prop} [Decidable absent] (i : Nat)
    (hi : (names.findIdx? fun ns => ns.contains key) = some i) (hnew : seen.contains i = false)
    (habsent : absent → a = a') (hread : ¬ absent → read a i j.node = .ok a')
    (h : Fills names read (i :: seen) a' fs b) :
    Fills names read seen a ((if absent then [] else [(key, j)]) ++ fs) b := by
  split
  · rename_i hc
    rw [habsent hc]
    exact Node.named_mono (s := (i :: seen, a')) (List.subset_cons_self i seen) h
  · rename_i hc
    exact .cons i hi hnew (hread hc) h

/-- A field is set to what is read. -/
theorem set_ok {x : Except Document.Error β} {y : β} (h : x = .ok y) (set : β → α) :
    (do return set (← x)) = (.ok (set y) : Except Document.Error α) := by
  rw [h]
  rfl

theorem eq_set_of_ok {x : Except Document.Error β} {set : β → α} {a : α}
    (h : (do return set (← x)) = .ok a) : ∃ v, x = .ok v ∧ a = set v := by
  obtain ⟨v, hv, h⟩ := bind_eq_ok h
  exact ⟨v, hv, (Except.ok.inj h).symm⟩

end Records

/-! ## Values of any shape -/

mutual

/-- Whether a value is written in one way only: its numbers are finite, and the fields of its
objects ascend. -/
def Canonical : Json → Prop
  | .real x => ∃ negative units, x = .finite negative units
  | .list items => CanonicalItems items
  | .object fields => fields.Pairwise (fun a b => compare a.1 b.1 = .lt) ∧ CanonicalFields fields
  | _ => True

/-- The same for all items of a list. -/
def CanonicalItems : List Json → Prop
  | [] => True
  | j :: js => j.Canonical ∧ CanonicalItems js

/-- The same for all fields of an object. -/
def CanonicalFields : List (String × Json) → Prop
  | [] => True
  | (_, j) :: fs => j.Canonical ∧ CanonicalFields fs

end

theorem canonicalItems_iff {js : List Json} : CanonicalItems js ↔ ∀ j ∈ js, j.Canonical := by
  induction js with
  | nil => simp [CanonicalItems]
  | cons j js ih => simp [CanonicalItems, ih]

theorem canonicalFields_iff {fs : List (String × Json)} :
    CanonicalFields fs ↔ ∀ f ∈ fs, f.2.Canonical := by
  induction fs with
  | nil => simp [CanonicalFields]
  | cons f fs ih => simp [CanonicalFields, ih]

theorem canonical_ofFields {fs : List (String × Json)} (h : ∀ f ∈ fs, f.2.Canonical) :
    (ofFields fs).Canonical := by
  rw [ofFields_eq]
  refine ⟨(Dictionary.ofList fs).sorted, canonicalFields_iff.mpr ?_⟩
  suffices hall : ∀ d : Dictionary Json, (∀ f ∈ d.entries, f.2.Canonical) →
      ∀ f ∈ (fs.foldl (fun d f => d.insert f.1 f.2) d).entries, f.2.Canonical from
    hall .empty (by simp [Dictionary.empty])
  induction fs with
  | nil => exact fun d hd => hd
  | cons f fs ih =>
    intro d hd
    exact ih (fun f' hf' => h f' (List.mem_cons_of_mem _ hf')) _
      (Dictionary.forall_insertEntry hd (h f List.mem_cons_self))

theorem canonical_ofTexts (d : Dictionary String) : (ofTexts d).Canonical := by
  refine ⟨(d.map text).sorted, canonicalFields_iff.mpr fun f hf => ?_⟩
  obtain ⟨e, -, rfl⟩ := List.mem_map.mp hf
  trivial

mutual

/-- Whether a document holds a value. The fields of an object may come in any order. -/
def HeldBy : Json → Node → Prop
  | .list items, n => ∃ ns, HeldByItems items ns ∧ n = .list ns { positional := true }
  | .object fields, n => ∃ es es', HeldByFields fields es ∧ es'.Perm es ∧ n = .table es' {}
  | j, n => n = j.node

/-- The same for all items of a list. -/
def HeldByItems : List Json → List Node → Prop
  | [], ns => ns = []
  | j :: js, ns => ∃ n ns', j.HeldBy n ∧ HeldByItems js ns' ∧ ns = n :: ns'

/-- The same for all fields of an object, in their order. -/
def HeldByFields : List (String × Json) → List (Node × Node) → Prop
  | [], es => es = []
  | (k, j) :: fs, es => ∃ n es', j.HeldBy n ∧ HeldByFields fs es' ∧ es = ((text k).node, n) :: es'

end

mutual

theorem heldBy_node : ∀ j : Json, j.HeldBy j.node
  | .null | .bool _ | .whole _ | .real _ | .text _ => rfl
  | .list items => ⟨nodeItems items, heldByItems_nodeItems items, rfl⟩
  | .object fields => ⟨nodeFields fields, _, heldByFields_nodeFields fields, .refl _, rfl⟩

theorem heldByItems_nodeItems : ∀ js : List Json, HeldByItems js (nodeItems js)
  | [] => rfl
  | j :: js => ⟨j.node, nodeItems js, heldBy_node j, heldByItems_nodeItems js, rfl⟩

theorem heldByFields_nodeFields : ∀ fs : List (String × Json), HeldByFields fs (nodeFields fs)
  | [] => rfl
  | (_, j) :: fs => ⟨j.node, nodeFields fs, heldBy_node j, heldByFields_nodeFields fs, rfl⟩

end

mutual

/-- A value is read back from whatever holds it. -/
theorem HeldBy.json : ∀ {j : Json} {n : Node}, j.Canonical → j.HeldBy n → n.json = .ok j
  | .null, _, _, rfl | .bool _, _, _, rfl | .whole _, _, _, rfl | .text _, _, _, rfl => rfl
  | .real _, _, ⟨_, _, rfl⟩, rfl => rfl
  | .list items, _, h, ⟨ns, hns, rfl⟩ => by
    show (do return list (← Node.jsonItems ns)) = .ok (list items)
    rw [HeldByItems.json h hns]
    rfl
  | .object fs, _, h, ⟨es, es', hes, hperm, rfl⟩ => by
    -- in whatever order the fields are read, they make up the same dictionary
    obtain ⟨fs', hread, hfs'⟩ := List.perm_comp_forall₂ hperm (HeldByFields.json h.2 hes)
    have hsame : Dictionary.ofList fs' = ⟨fs, h.1⟩ :=
      (Dictionary.ofList_perm hfs' (Dictionary.nodup_keys ⟨fs, h.1⟩)).trans
        (Dictionary.ofList_entries ⟨fs, h.1⟩)
    show (do return ofFields (← Node.jsonEntries es')) = .ok (object fs)
    rw [Node.jsonEntries_of_forall₂ hread]
    show Except.ok (ofFields fs') = .ok (object fs)
    rw [ofFields_eq, hsame]

theorem HeldByItems.json : ∀ {js : List Json} {ns : List Node}, CanonicalItems js →
    HeldByItems js ns → Node.jsonItems ns = .ok js
  | [], _, _, rfl => rfl
  | _ :: _, _, h, ⟨_, _, hn, hns, rfl⟩ => by
    rw [Node.jsonItems, hn.json h.1, HeldByItems.json h.2 hns]
    rfl

theorem HeldByFields.json : ∀ {fs : List (String × Json)} {es : List (Node × Node)},
    CanonicalFields fs → HeldByFields fs es → Forall₂ (ReadAs Node.json) es fs
  | [], _, _, rfl => .nil
  | (_, _) :: _, _, h, ⟨_, _, hn, hes, rfl⟩ => .cons ⟨rfl, hn.json h.1⟩ (HeldByFields.json h.2 hes)

end

/-- **A value is read back as itself.** -/
theorem json_node {j : Json} (h : j.Canonical) : j.node.json = .ok j :=
  (heldBy_node j).json h

mutual

/-- Whatever is read as a value is canonical. -/
theorem canonical_of_json : ∀ {n : Node} {j : Json}, n.json = .ok j → j.Canonical
  | .scalar s, j, h => by
    obtain ⟨a, -, ha⟩ := bind_eq_ok h
    cases ha
    cases a with
    | real x =>
      cases x with
      | finite negative units => exact ⟨negative, units, rfl⟩
      | nan | infinite => trivial
    | null | bool | whole | text => trivial
  | .list items form, j, h => by
    rw [Node.json] at h
    split at h
    · cases h
    · obtain ⟨js, hjs, hj⟩ := bind_eq_ok h
      cases hj
      exact canonicalItems_of_jsonItems hjs
  | .table entries form, j, h => by
    rw [Node.json] at h
    split at h
    · cases h
    · obtain ⟨fs, hfs, hj⟩ := bind_eq_ok h
      cases hj
      exact canonical_ofFields (canonicalFields_iff.mp (canonicalFields_of_jsonEntries hfs))
  | .broken, j, h => by cases h

theorem canonicalItems_of_jsonItems : ∀ {ns : List Node} {js : List Json},
    Node.jsonItems ns = .ok js → CanonicalItems js
  | [], js, h => by
    cases h
    trivial
  | n :: ns, js, h => by
    rw [Node.jsonItems] at h
    obtain ⟨j, hj, h⟩ := bind_eq_ok h
    obtain ⟨js', hjs, h⟩ := bind_eq_ok h
    cases h
    exact ⟨canonical_of_json hj, canonicalItems_of_jsonItems hjs⟩

theorem canonicalFields_of_jsonEntries : ∀ {es : List (Node × Node)} {fs : List (String × Json)},
    Node.jsonEntries es = .ok fs → CanonicalFields fs
  | [], fs, h => by
    cases h
    trivial
  | (k, v) :: es, fs, h => by
    rw [Node.jsonEntries] at h
    obtain ⟨key, -, h⟩ := bind_eq_ok h
    obtain ⟨j, hj, h⟩ := bind_eq_ok h
    obtain ⟨fs', hfs, h⟩ := bind_eq_ok h
    cases h
    exact ⟨canonical_of_json hj, canonicalFields_of_jsonEntries hfs⟩

end

end Assay.Json
