import Assay.Dictionary
import Mathlib.Data.List.Induction
import Mathlib.Data.List.Nodup
import Mathlib.Data.List.Sort

/-!
# Dictionaries as finite maps

What a look-up finds after each operation, and that a dictionary is settled by what look-ups find.
-/

namespace Assay

namespace Dictionary

variable {α : Type}

/-! ## Look-ups in the list of entries -/

theorem lookup_cons_ite (e : String × α) (es : List (String × α)) (k : String) :
    (e :: es).lookup k = if k = e.1 then some e.2 else es.lookup k := by
  rw [List.lookup_cons]
  by_cases hk : k = e.1
  · simp [hk]
  · simp [hk, beq_eq_false_iff_ne.mpr hk]

theorem lookup_insertEntry (key k : String) (value : α) (es : List (String × α)) :
    (insertEntry key value es).lookup k = if k = key then some value else es.lookup k := by
  induction es with
  | nil => rw [insertEntry, lookup_cons_ite]
  | cons e es ih =>
    unfold insertEntry
    split
    · rw [lookup_cons_ite]
    · rename_i heq
      have hkey : key = e.1 := Std.LawfulEqCmp.eq_of_compare heq
      simp only [lookup_cons_ite, ← hkey]
      split <;> rfl
    · rename_i hgt
      have hne : key ≠ e.1 := by
        intro hkey
        rw [hkey] at hgt
        exact absurd hgt (by simp)
      rw [lookup_cons_ite, lookup_cons_ite, ih]
      by_cases hk : k = e.1
      · rw [if_pos hk, if_pos hk, if_neg (hk ▸ Ne.symm hne)]
      · rw [if_neg hk, if_neg hk]

theorem insertEntry_nil (key : String) (value : α) :
    insertEntry key value [] = [(key, value)] := rfl

theorem insertEntry_of_lt {key k : String} (h : compare key k = .lt) (value v : α)
    (es : List (String × α)) :
    insertEntry key value ((k, v) :: es) = (key, value) :: (k, v) :: es := by
  simp only [insertEntry, h]

theorem insertEntry_of_gt {key k : String} (h : compare key k = .gt) (value v : α)
    (es : List (String × α)) :
    insertEntry key value ((k, v) :: es) = (k, v) :: insertEntry key value es := by
  simp only [insertEntry, h]

theorem lookup_filter_ne (key k : String) (es : List (String × α)) :
    (es.filter fun e => e.1 != key).lookup k = if k = key then none else es.lookup k := by
  induction es with
  | nil => simp
  | cons e es ih =>
    rw [List.filter_cons, lookup_cons_ite]
    by_cases hkey : e.1 = key
    · rw [if_neg (by simpa using hkey), ih, hkey]
      by_cases hk : k = key <;> simp [hk]
    · rw [if_pos (by simpa using hkey), lookup_cons_ite, ih]
      by_cases hk : k = e.1
      · rw [if_pos hk, if_pos hk, if_neg (hk ▸ hkey)]
      · rw [if_neg hk, if_neg hk]

theorem lookup_eq_none {es : List (String × α)} {k : String} (h : k ∉ es.map Prod.fst) :
    es.lookup k = none := by
  induction es with
  | nil => rfl
  | cons e es ih =>
    rw [List.map_cons, List.mem_cons, not_or] at h
    rw [lookup_cons_ite, if_neg h.1, ih h.2]

/-- With distinct keys, an entry is what a look-up under its key finds. -/
theorem mem_iff_lookup {es : List (String × α)} (h : (es.map Prod.fst).Nodup) (e : String × α) :
    e ∈ es ↔ es.lookup e.1 = some e.2 := by
  induction es with
  | nil => simp
  | cons a es ih =>
    rw [List.map_cons, List.nodup_cons] at h
    rw [List.mem_cons, lookup_cons_ite, ih h.2]
    by_cases hk : e.1 = a.1
    · rw [if_pos hk, hk, lookup_eq_none h.1]
      simp [Prod.ext_iff, hk, eq_comm]
    · rw [if_neg hk]
      simp [Prod.ext_iff, hk]

/-! ## Look-ups in a dictionary -/

@[simp]
theorem get?_empty (k : String) : (∅ : Dictionary α).get? k = none := rfl

theorem get?_insert (d : Dictionary α) (key k : String) (value : α) :
    (d.insert key value).get? k = if k = key then some value else d.get? k :=
  lookup_insertEntry key k value d.entries

@[simp]
theorem get?_insert_self (d : Dictionary α) (key : String) (value : α) :
    (d.insert key value).get? key = some value := by
  simp [get?_insert]

theorem get?_erase (d : Dictionary α) (key k : String) :
    (d.erase key).get? k = if k = key then none else d.get? k :=
  lookup_filter_ne key k d.entries

theorem nodup_keys (d : Dictionary α) : (d.entries.map Prod.fst).Nodup := by
  rw [List.Nodup, List.pairwise_map]
  refine d.sorted.imp fun {a b} hlt heq => ?_
  rw [heq] at hlt
  exact absurd hlt (by simp)

theorem mem_entries_iff (d : Dictionary α) (e : String × α) :
    e ∈ d.entries ↔ d.get? e.1 = some e.2 :=
  mem_iff_lookup d.nodup_keys e

theorem forall_mem_entries_iff (d : Dictionary α) {p : String → α → Prop} :
    (∀ e ∈ d.entries, p e.1 e.2) ↔ ∀ k v, d.get? k = some v → p k v :=
  ⟨fun h k v hv => h (k, v) ((d.mem_entries_iff (k, v)).mpr hv),
    fun h e he => h e.1 e.2 ((d.mem_entries_iff e).mp he)⟩

theorem get?_eq_none_iff (d : Dictionary α) (k : String) :
    d.get? k = none ↔ k ∉ d.entries.map Prod.fst := by
  refine ⟨fun h hk => ?_, lookup_eq_none⟩
  obtain ⟨e, he, rfl⟩ := List.mem_map.mp hk
  rw [(d.mem_entries_iff e).mp he] at h
  cases h

/-- **A dictionary is what look-ups find in it.** -/
theorem ext_get? {d d' : Dictionary α} (h : ∀ k, d.get? k = d'.get? k) : d = d' := by
  have hperm : d.entries.Perm d'.entries := by
    refine (List.perm_ext_iff_of_nodup d.nodup_keys.of_map d'.nodup_keys.of_map).mpr ?_
    intro e
    rw [mem_entries_iff, mem_entries_iff, h]
  have heq : d.entries = d'.entries :=
    hperm.eq_of_pairwise (fun a b _ _ hab hba => by
      rw [Std.OrientedCmp.gt_of_lt hba] at hab
      cases hab) d.sorted d'.sorted
  cases d
  cases d'
  simp_all

/-! ## Keys -/

theorem contains_iff (d : Dictionary α) (k : String) :
    d.contains k = true ↔ k ∈ d.entries.map Prod.fst := by
  rw [contains, Option.isSome_iff_ne_none, ne_eq, get?_eq_none_iff, not_not]

theorem contains_of_get? {d : Dictionary α} {k : String} {v : α} (h : d.get? k = some v) :
    d.contains k = true := by
  rw [contains, h, Option.isSome_some]

theorem exists_get?_of_contains {d : Dictionary α} {k : String} (h : d.contains k = true) :
    ∃ v, d.get? k = some v :=
  Option.isSome_iff_exists.mp h

section

variable {β : Type} {d : Dictionary α} {d' : Dictionary β}

theorem subperm_keys (h : ∀ k, d.contains k = true → d'.contains k = true) :
    (d.entries.map Prod.fst).Subperm (d'.entries.map Prod.fst) :=
  List.subperm_of_subset d.nodup_keys fun k hk =>
    (d'.contains_iff k).mp (h k ((d.contains_iff k).mpr hk))

/-- A dictionary with all the keys of another one is at least as large. -/
theorem size_le_of_contains (h : ∀ k, d.contains k = true → d'.contains k = true) :
    d.size ≤ d'.size := by
  simpa [size] using (subperm_keys h).length_le

/-- If it is not larger, it has no further keys. -/
theorem contains_of_size_le (h : ∀ k, d.contains k = true → d'.contains k = true)
    (hsize : d'.size ≤ d.size) {k : String} (hk : d'.contains k = true) : d.contains k = true := by
  have hperm : (d.entries.map Prod.fst).Perm (d'.entries.map Prod.fst) :=
    (subperm_keys h).perm_of_length_le (by simpa [size] using hsize)
  rw [contains_iff] at hk ⊢
  exact hperm.mem_iff.mpr hk

end

/-- Erasing a key that was just added leaves what was there before. -/
theorem erase_insert {d : Dictionary α} {key : String} (h : d.get? key = none) (value : α) :
    (d.insert key value).erase key = d := by
  refine ext_get? fun k => ?_
  rw [get?_erase, get?_insert]
  split
  · rename_i hk
    rw [hk, h]
  · rfl

/-! ## Several entries at once -/

/-- The dictionary with the entries of a list, one after the other. -/
def insertAll (d : Dictionary α) (es : List (String × α)) : Dictionary α :=
  es.foldl (fun d e => d.insert e.1 e.2) d

theorem insertAll_cons (d : Dictionary α) (e : String × α) (es : List (String × α)) :
    d.insertAll (e :: es) = (d.insert e.1 e.2).insertAll es := rfl

theorem insertAll_append (d : Dictionary α) (es es' : List (String × α)) :
    d.insertAll (es ++ es') = (d.insertAll es).insertAll es' := by
  simp [insertAll]

theorem ofList_eq_insertAll (es : List (String × α)) : ofList es = (∅ : Dictionary α).insertAll es :=
  rfl

theorem get?_insertAll {es : List (String × α)} (hes : (es.map Prod.fst).Nodup)
    (d : Dictionary α) (k : String) :
    (d.insertAll es).get? k = (es.lookup k).or (d.get? k) := by
  induction es generalizing d with
  | nil => rfl
  | cons e es ih =>
    rw [List.map_cons, List.nodup_cons] at hes
    rw [insertAll_cons, ih hes.2, get?_insert, lookup_cons_ite]
    by_cases hk : k = e.1
    · rw [if_pos hk, if_pos hk, hk, lookup_eq_none hes.1]
      rfl
    · rw [if_neg hk, if_neg hk]

/-- Entries under different keys may be added in any order. -/
theorem ofList_perm {es es' : List (String × α)} (h : es'.Perm es) (hes : (es.map Prod.fst).Nodup) :
    ofList es' = ofList es := by
  have hes' : (es'.map Prod.fst).Nodup := (h.map Prod.fst).nodup_iff.mpr hes
  refine ext_get? fun k => ?_
  rw [ofList_eq_insertAll, ofList_eq_insertAll, get?_insertAll hes', get?_insertAll hes]
  refine congrArg (Option.or · _) (Option.ext fun v => ?_)
  rw [← mem_iff_lookup hes' (k, v), ← mem_iff_lookup hes (k, v), h.mem_iff]

/-- What stands last under a key. -/
def last? {κ : Type} [DecidableEq κ] (es : List (κ × α)) (k : κ) : Option α :=
  es.reverse.lookup k

theorem last?_concat {κ : Type} [DecidableEq κ] (es : List (κ × α)) (e : κ × α) (k : κ) :
    last? (es ++ [e]) k = if k = e.1 then some e.2 else last? es k := by
  rw [last?, List.reverse_concat, List.lookup_cons]
  by_cases hk : k = e.1
  · simp [hk]
  · simp [hk, beq_eq_false_iff_ne.mpr hk, last?]

/-- Of two entries under one key, the later one counts. -/
theorem get?_insertAll_eq_last? (d : Dictionary α) (es : List (String × α)) (k : String) :
    (d.insertAll es).get? k = (last? es k).or (d.get? k) := by
  induction es using List.reverseRecOn with
  | nil => rfl
  | append_singleton es e ih =>
    rw [insertAll_append, last?_concat, insertAll_cons]
    show ((d.insertAll es).insert e.1 e.2).get? k = _
    rw [get?_insert, ih]
    split <;> rfl

/-- Entries under other keys make no difference to a look-up. -/
theorem get?_insertAll_of_forall_ne {es : List (String × α)} {k : String} (h : ∀ e ∈ es, e.1 ≠ k)
    (d : Dictionary α) : (d.insertAll es).get? k = d.get? k := by
  induction es generalizing d with
  | nil => rfl
  | cons e es ih =>
    rw [List.forall_mem_cons] at h
    rw [insertAll_cons, ih h.2, get?_insert, if_neg h.1.symm]

theorem size_le_insertAll (d : Dictionary α) (es : List (String × α)) :
    d.size ≤ (d.insertAll es).size := by
  refine size_le_of_contains fun k hk => ?_
  rw [contains, get?_insertAll_eq_last?, Option.isSome_or, Bool.or_eq_true]
  exact .inr hk

/-- **A dictionary is rebuilt from its entries.** -/
theorem ofList_entries (d : Dictionary α) : ofList d.entries = d := by
  refine ext_get? fun k => ?_
  rw [ofList_eq_insertAll, get?_insertAll d.nodup_keys, get?_empty, Option.or_none]
  rfl

end Dictionary

end Assay
