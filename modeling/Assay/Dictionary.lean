/-!
# Dictionaries

A finite map from texts to values, kept in ascending order of its keys (by code point). Two
dictionaries with the same contents are equal, so a dictionary can be compared, printed and used
as a key itself.
-/

namespace Assay

/-- Entries in strictly ascending key order. -/
structure Dictionary (α : Type) where
  /-- The entries, by ascending key. -/
  entries : List (String × α)
  sorted : entries.Pairwise (fun a b => compare a.1 b.1 = .lt)

namespace Dictionary

variable {α β : Type}

instance [DecidableEq α] : DecidableEq (Dictionary α) := fun a b =>
  if h : a.entries = b.entries then
    .isTrue (by cases a; cases b; simp_all)
  else .isFalse (by intro e; exact h (by rw [e]))

/-- The dictionary without entries. -/
def empty : Dictionary α :=
  ⟨[], .nil⟩

instance : EmptyCollection (Dictionary α) := ⟨empty⟩

instance : Inhabited (Dictionary α) := ⟨empty⟩

/-- The number of keys. -/
def size (d : Dictionary α) : Nat :=
  d.entries.length

/-- Whether there is no entry. -/
def isEmpty (d : Dictionary α) : Bool :=
  d.entries.isEmpty

/-- The value under `key`, if there is one. -/
def get? (d : Dictionary α) (key : String) : Option α :=
  d.entries.lookup key

/-- Whether there is an entry under `key`. -/
def contains (d : Dictionary α) (key : String) : Bool :=
  (d.get? key).isSome

/-- Puts an entry into a list in ascending key order, in place of the entry under its key. -/
def insertEntry (key : String) (value : α) : List (String × α) → List (String × α)
  | [] => [(key, value)]
  | e :: es =>
    match compare key e.1 with
    | .lt => (key, value) :: e :: es
    | .eq => (key, value) :: es
    | .gt => e :: insertEntry key value es

theorem forall_insertEntry {p : String × α → Prop} {key : String} {value : α}
    {es : List (String × α)} (h : ∀ e ∈ es, p e) (hk : p (key, value)) :
    ∀ e ∈ insertEntry key value es, p e := by
  induction es with
  | nil => simpa [insertEntry] using hk
  | cons a es ih =>
    have ha := h a (by simp)
    have hes := fun e he => h e (List.mem_cons_of_mem _ he)
    unfold insertEntry
    split <;> simp_all

theorem pairwise_insertEntry {key : String} {value : α} {es : List (String × α)}
    (h : es.Pairwise (fun a b => compare a.1 b.1 = .lt)) :
    (insertEntry key value es).Pairwise (fun a b => compare a.1 b.1 = .lt) := by
  induction es with
  | nil => simp [insertEntry]
  | cons a es ih =>
    rw [List.pairwise_cons] at h
    unfold insertEntry
    split
    · rename_i hlt
      refine List.pairwise_cons.2 ⟨fun b hb => ?_, List.pairwise_cons.2 h⟩
      rcases List.mem_cons.1 hb with rfl | hb
      · exact hlt
      · exact Std.TransCmp.lt_trans hlt (h.1 b hb)
    · rename_i heq
      refine List.pairwise_cons.2 ⟨fun b hb => ?_, h.2⟩
      rw [Std.LawfulEqCmp.eq_of_compare heq]
      exact h.1 b hb
    · rename_i hgt
      exact List.pairwise_cons.2
        ⟨forall_insertEntry h.1 (Std.OrientedCmp.lt_of_gt hgt), ih h.2⟩

/-- The dictionary with `value` under `key`; an earlier value under that key is dropped. -/
def insert (d : Dictionary α) (key : String) (value : α) : Dictionary α :=
  ⟨insertEntry key value d.entries, pairwise_insertEntry d.sorted⟩

/-- The dictionary without the entry under `key`. -/
def erase (d : Dictionary α) (key : String) : Dictionary α :=
  ⟨d.entries.filter (fun e => e.1 != key), d.sorted.filter _⟩

/-- Every value changed, the keys kept. -/
def map (f : α → β) (d : Dictionary α) : Dictionary β :=
  ⟨d.entries.map fun e => (e.1, f e.2), by
    simpa [List.pairwise_map] using d.sorted⟩

/-- The entries of a list, the later of two under one key winning. -/
def ofList (entries : List (String × α)) : Dictionary α :=
  entries.foldl (fun d e => d.insert e.1 e.2) empty

end Dictionary

end Assay
