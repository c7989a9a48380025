import Mathlib.Data.List.Induction
import Mathlib.Data.List.Nodup

/-!
# Groups of a list

The elements of a list are put into groups by a key, and something is built of each group. Groups
come in order of their first element, and elements keep their order in a group. One more element
changes what is built of its group, or adds a group at the end; so groups can be kept up to date
while a list is read.
-/

namespace Assay

variable {α β κ : Type} [DecidableEq κ]

/-! ## First occurrences -/

theorem eraseDups_concat (ks : List κ) (k : κ) :
    (ks ++ [k]).eraseDups = if k ∈ ks then ks.eraseDups else ks.eraseDups ++ [k] := by
  rw [List.eraseDups_append]
  by_cases hk : k ∈ ks
  · simp [List.removeAll, hk]
  · simp [List.removeAll, hk, List.eraseDups_cons]

theorem nodup_eraseDups (ks : List κ) : ks.eraseDups.Nodup := by
  induction ks using List.reverseRecOn with
  | nil => exact List.nodup_nil
  | append_singleton ks k ih =>
    rw [eraseDups_concat]
    split
    · exact ih
    · rename_i hk
      refine ih.append (List.nodup_singleton k) fun a ha ha' => ?_
      rw [List.mem_singleton.mp ha', List.mem_eraseDups] at ha
      exact hk ha

/-! ## Positions of keys -/

theorem idxOf?_concat (ks : List κ) (k a : κ) :
    (ks ++ [k]).idxOf? a = (ks.idxOf? a).or (if k = a then some ks.length else none) := by
  rw [List.idxOf?, List.findIdx?_append]
  by_cases h : k = a <;> simp [h]

theorem getElem?_of_idxOf? {key : β → κ} {ys : List β} {k : κ} {i : Nat}
    (h : (ys.map key).idxOf? k = some i) : ∃ y, ys[i]? = some y ∧ key y = k := by
  obtain ⟨hlt, hget, -⟩ := List.idxOf?_eq_some_iff.mp h
  rw [List.length_map] at hlt
  exact ⟨ys[i], List.getElem?_eq_getElem hlt, by simpa using hget⟩

/-- Where keys differ, the position of a key is the one place where it stands. -/
theorem idxOf?_map_eq_some_iff {key : β → κ} {ys : List β} (h : (ys.map key).Nodup) {k : κ}
    {i : Nat} : (ys.map key).idxOf? k = some i ↔ ∃ y, ys[i]? = some y ∧ key y = k := by
  refine ⟨getElem?_of_idxOf?, ?_⟩
  rintro ⟨y, hy, rfl⟩
  obtain ⟨hlt, rfl⟩ := List.getElem?_eq_some_iff.mp hy
  rw [List.idxOf?_eq_some_iff]
  refine ⟨by simpa using hlt, by simp, fun j hj heq => ?_⟩
  rw [← List.getElem_map key (h := by simpa using hlt)] at heq
  exact absurd (h.getElem_inj_iff.mp heq) (Nat.ne_of_lt hj)

omit [DecidableEq κ] in
/-- Keys stay if an element is replaced by one of the same key. -/
theorem map_set_of_eq {key : β → κ} {ys : List β} {i : Nat} {y y' : β} (hy : ys[i]? = some y)
    (hkey : key y' = key y) : (ys.set i y').map key = ys.map key := by
  obtain ⟨hlt, rfl⟩ := List.getElem?_eq_some_iff.mp hy
  rw [List.map_set, hkey]
  apply List.ext_getElem?
  intro n
  by_cases hn : i = n
  · subst hn
    simp [hlt]
  · rw [List.getElem?_set_ne hn]

/-! ## Groups -/

/-- What is built of the groups of a list, in order of their first elements. -/
def gather (key : α → κ) (build : κ → List α → β) (xs : List α) : List β :=
  (xs.map key).eraseDups.map fun k => build k (xs.filter (key · = k))

/-- Changes the first entry of a key. If there is none, a fresh one is changed and added. -/
def upsert (key : β → κ) (k : κ) (fresh : β) (change : β → β) (ys : List β) : List β :=
  match (ys.map key).idxOf? k with
  | some i => ys.modify i change
  | none => ys ++ [change fresh]

variable {key : α → κ} {build : κ → List α → β} {keyOf : β → κ}

theorem upsert_of_some {k : κ} {i : Nat} {ys : List β} {y : β}
    (hi : (ys.map keyOf).idxOf? k = some i) (hy : ys[i]? = some y) (fresh : β) (change : β → β) :
    upsert keyOf k fresh change ys = ys.set i (change y) := by
  rw [upsert, hi]
  show ys.modify i change = _
  rw [List.modify_eq_set_getElem?, hy]
  rfl

theorem upsert_of_none {k : κ} {ys : List β} (hi : (ys.map keyOf).idxOf? k = none) (fresh : β)
    (change : β → β) :
    upsert keyOf k fresh change ys = (ys ++ [fresh]).set ys.length (change fresh) := by
  rw [upsert, hi]
  simp

/-- What holds of all entries goes on to hold if it survives the change. -/
theorem forall_mem_upsert {p : β → Prop} {k : κ} {fresh : β} {change : β → β}
    {ys : List β} (h : ∀ y ∈ ys, p y) (hfresh : p fresh) (hchange : ∀ y, p y → p (change y)) :
    ∀ y ∈ upsert keyOf k fresh change ys, p y := by
  intro y hy
  unfold upsert at hy
  split at hy
  · rename_i i hi
    obtain ⟨z, hz, -⟩ := getElem?_of_idxOf? hi
    rw [List.modify_eq_set_getElem?, hz] at hy
    rcases List.mem_or_eq_of_mem_set hy with hy | rfl
    · exact h y hy
    · exact hchange z (h z (List.mem_of_getElem? hz))
  · rcases List.mem_append.mp hy with hy | hy
    · exact h y hy
    · rw [List.mem_singleton.mp hy]
      exact hchange fresh hfresh

theorem map_gather (hkey : ∀ k as, keyOf (build k as) = k) (xs : List α) :
    (gather key build xs).map keyOf = (xs.map key).eraseDups := by
  rw [gather, List.map_map]
  conv_rhs => rw [← List.map_id (xs.map key).eraseDups]
  exact List.map_congr_left fun k _ => hkey k _

theorem mem_gather {xs : List α} {y : β} (h : y ∈ gather key build xs) :
    ∃ k ∈ xs.map key, y = build k (xs.filter (key · = k)) := by
  obtain ⟨k, hk, rfl⟩ := List.mem_map.mp h
  exact ⟨k, List.mem_eraseDups.mp hk, rfl⟩

theorem gather_congr {build' : κ → List α → β} {xs : List α}
    (h : ∀ k ∈ xs.map key, build k = build' k) : gather key build xs = gather key build' xs := by
  apply List.map_congr_left
  intro k hk
  rw [h k (List.mem_eraseDups.mp hk)]

/-- Where keys differ, a change that concerns one key is a change at one place. -/
theorem map_eq_modify {ks : List κ} (hks : ks.Nodup) {k : κ} {i : Nat}
    (hi : ks.idxOf? k = some i) {f g : κ → β} {change : β → β} (hk : g k = change (f k))
    (hother : ∀ k' ≠ k, g k' = f k') : ks.map g = (ks.map f).modify i change := by
  obtain ⟨hlt, hget, -⟩ := List.idxOf?_eq_some_iff.mp hi
  refine List.ext_getElem? fun n => ?_
  rw [List.getElem?_modify, List.getElem?_map, List.getElem?_map]
  by_cases hn : n < ks.length
  · simp only [List.getElem?_eq_getElem hn, Option.map_some, Option.map_eq_map]
    by_cases hin : i = n
    · subst hin
      rw [if_pos rfl, hget, hk]
    · rw [if_neg hin, hother]
      intro heq
      exact hin (hks.getElem_inj_iff.mp (hget.trans heq.symm))
  · simp [List.getElem?_eq_none (Nat.le_of_not_lt hn)]

theorem filter_concat_of_ne {xs : List α} {x : α} {k : κ} (hk : k ≠ key x) :
    (xs ++ [x]).filter (key · = k) = xs.filter (key · = k) := by
  simp [Ne.symm hk]

theorem filter_concat_self (xs : List α) (x : α) :
    (xs ++ [x]).filter (key · = key x) = xs.filter (key · = key x) ++ [x] := by
  simp

/-- **One more element** changes its group, or makes up a new one. -/
theorem gather_concat (hkey : ∀ k as, keyOf (build k as) = k) {x : α} {change : β → β}
    (hchange : ∀ as, build (key x) (as ++ [x]) = change (build (key x) as)) (xs : List α) :
    gather key build (xs ++ [x]) =
      upsert keyOf (key x) (build (key x) []) change (gather key build xs) := by
  rw [upsert, map_gather hkey]
  cases hi : (xs.map key).eraseDups.idxOf? (key x) with
  | some i =>
    -- the element joins a group that is there
    have hmem : key x ∈ xs.map key := by
      obtain ⟨hlt, hget, -⟩ := List.idxOf?_eq_some_iff.mp hi
      exact List.mem_eraseDups.mp (hget ▸ List.getElem_mem hlt)
    rw [gather, List.map_append, List.map_singleton, eraseDups_concat, if_pos hmem]
    refine map_eq_modify (nodup_eraseDups _) hi ?_ fun k hk => ?_
    · rw [filter_concat_self, hchange]
    · rw [filter_concat_of_ne hk]
  | none =>
    -- the element is the first of its group
    have hnew : key x ∉ xs.map key := by
      rw [List.idxOf?_eq_none_iff, List.mem_eraseDups] at hi
      exact hi
    have hempty : xs.filter (key · = key x) = [] := by
      refine List.filter_eq_nil_iff.mpr fun a ha heq => hnew ?_
      exact List.mem_map.mpr ⟨a, ha, by simpa using heq⟩
    rw [gather, List.map_append, List.map_singleton, eraseDups_concat, if_neg hnew,
      List.map_append, List.map_singleton, filter_concat_self, hempty, hchange]
    refine congrArg (· ++ _) (List.map_congr_left fun k hk => ?_)
    have hne : k ≠ key x := fun heq => hnew (heq ▸ List.mem_eraseDups.mp hk)
    rw [filter_concat_of_ne hne]

end Assay
