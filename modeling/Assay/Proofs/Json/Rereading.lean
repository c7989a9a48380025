import Assay.Proofs.Document.Writing

/-!
# Reading a written value again

Where the text of a value is read, the same lists, objects, texts and words are found at the same
places. What a number comes to is up to its digits, and what nests too deeply can only be passed
over. So a text that holds the value it was written from holds it as its own document.
-/

namespace Assay.Json

open Document (Node Scalar)

/-- A scalar that stands for one value whichever way it is read, or for none. -/
def Plain (s : Scalar) : Prop :=
  s = unreadable ∨ ∃ a, s = scalarOf a

mutual

/-- Whether a value that is written at a depth may be read as a document: as itself, but its
numbers as any numbers. -/
def RereadAs (depth : Nat) : Json → Node → Prop
  | .whole _, n => ∃ s, Plain s ∧ n = .scalar s
  | .real _, n => ∃ s, Plain s ∧ n = .scalar s
  | .list items, n => ∃ ns, RereadItems (depth + 1) items ns ∧
    n = .list ns { positional := true, sealed := depthLimit ≤ depth }
  | .object fields, n => ∃ es, RereadFields (depth + 1) fields es ∧
    n = .table es { sealed := depthLimit ≤ depth }
  | j, n => n = j.node

/-- The same for all items of a list. -/
def RereadItems (depth : Nat) : List Json → List Node → Prop
  | [], ns => ns = []
  | j :: js, ns => ∃ n ns', RereadAs depth j n ∧ RereadItems depth js ns' ∧ ns = n :: ns'

/-- The same for all fields of an object. -/
def RereadFields (depth : Nat) : List (String × Json) → List (Node × Node) → Prop
  | [], es => es = []
  | (k, j) :: fs, es => ∃ n es', RereadAs depth j n ∧ RereadFields depth fs es' ∧
    es = ((text k).node, n) :: es'

end

/-- A plain scalar that holds a value is its document, unless it is a number that no value has. -/
theorem Plain.eq_node {s : Scalar} (h : Plain s) {j : Json} (hj : Node.json (.scalar s) = .ok j)
    (hne : j ≠ .null) : Node.scalar s = j.node := by
  rcases h with rfl | ⟨a, rfl⟩
  · cases hj
  · have hatom : Node.jsonOfAtom a = j := by
      cases a <;> exact Except.ok.inj hj
    subst hatom
    cases a with
    | real x =>
      cases x with
      | finite => rfl
      | nan | infinite => exact absurd rfl hne
    | null | bool | whole | text => rfl

/-- The names of fields are read again as they were. -/
theorem keys_of_rereadFields {depth : Nat} : ∀ {fs fs' : List (String × Json)}
    {es : List (Node × Node)}, RereadFields depth fs es → Node.jsonEntries es = .ok fs' →
      fs'.map Prod.fst = fs.map Prod.fst
  | [], _, _, rfl, h => by
    cases h
    rfl
  | (k, j) :: fs, _, _, ⟨n, es, _, hes, rfl⟩, h => by
    rw [Node.jsonEntries] at h
    obtain ⟨key, hkey, h⟩ := bind_eq_ok h
    obtain ⟨j', -, h⟩ := bind_eq_ok h
    obtain ⟨fs', hfs', h⟩ := bind_eq_ok h
    cases h
    obtain rfl : k = key := Except.ok.inj hkey
    rw [List.map_cons, List.map_cons, keys_of_rereadFields hes hfs']

mutual

/-- **What reads as the value that was written is its document.** -/
theorem RereadAs.eq_node {depth : Nat} : ∀ {j : Json} {n : Node}, RereadAs depth j n →
    j.Canonical → n.json = .ok j → n = j.node
  | .null, _, rfl, _, _ | .bool _, _, rfl, _, _ | .text _, _, rfl, _, _ => rfl
  | .whole _, _, ⟨_, hs, rfl⟩, _, h => hs.eq_node h (by simp)
  | .real _, _, ⟨_, hs, rfl⟩, _, h => hs.eq_node h (by simp)
  | .list items, _, ⟨ns, hns, rfl⟩, hcanonical, h => by
    rw [Node.json] at h
    split at h
    · cases h
    · rename_i hopen
      obtain ⟨js, hjs, hlist⟩ := bind_eq_ok h
      cases hlist
      have hshallow : decide (depthLimit ≤ depth) = false := by simpa using hopen
      rw [hns.eq_nodeItems hcanonical hjs, hshallow]
      rfl
  | .object fields, _, ⟨es, hes, rfl⟩, hcanonical, h => by
    rw [Node.json] at h
    split at h
    · cases h
    · rename_i hopen
      obtain ⟨fs, hfs, hobject⟩ := bind_eq_ok h
      have hsorted : fs.Pairwise fun a b => compare a.1 b.1 = .lt := by
        have hkeys : (fields.map Prod.fst).Pairwise fun a b => compare a b = .lt :=
          List.pairwise_map.mpr hcanonical.1
        rw [← keys_of_rereadFields hes hfs] at hkeys
        exact List.pairwise_map.mp hkeys
      have hsame := Except.ok.inj hobject
      rw [ofFields_of_sorted hsorted] at hsame
      cases hsame
      have hshallow : decide (depthLimit ≤ depth) = false := by simpa using hopen
      rw [hes.eq_nodeFields hcanonical.2 hfs, hshallow]
      rfl

theorem RereadItems.eq_nodeItems {depth : Nat} : ∀ {js : List Json} {ns : List Node},
    RereadItems depth js ns → CanonicalItems js → Node.jsonItems ns = .ok js → ns = nodeItems js
  | [], _, rfl, _, _ => rfl
  | j :: js, _, ⟨n, ns, hn, hns, rfl⟩, hcanonical, h => by
    rw [Node.jsonItems] at h
    obtain ⟨j', hj, h⟩ := bind_eq_ok h
    obtain ⟨js', hjs, h⟩ := bind_eq_ok h
    cases h
    rw [nodeItems, hn.eq_node hcanonical.1 hj, hns.eq_nodeItems hcanonical.2 hjs]

theorem RereadFields.eq_nodeFields {depth : Nat} : ∀ {fs : List (String × Json)}
    {es : List (Node × Node)}, RereadFields depth fs es → CanonicalFields fs →
      Node.jsonEntries es = .ok fs → es = nodeFields fs
  | [], _, rfl, _, _ => rfl
  | (k, j) :: fs, _, ⟨n, es, hn, hes, rfl⟩, hcanonical, h => by
    rw [Node.jsonEntries] at h
    obtain ⟨key, -, h⟩ := bind_eq_ok h
    obtain ⟨j', hj, h⟩ := bind_eq_ok h
    obtain ⟨fs', hfs, h⟩ := bind_eq_ok h
    cases h
    rw [nodeFields, hn.eq_node hcanonical.1 hj, hes.eq_nodeFields hcanonical.2 hfs]
    rfl

end

end Assay.Json
