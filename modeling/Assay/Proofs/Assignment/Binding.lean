import Assay.Proofs.Assignment.Choice
import Mathlib.Data.List.FinRange
import Mathlib.Data.List.Forall2
import Mathlib.Data.List.NodupEquivFin
import Mathlib.Data.List.Perm.Subperm
import Mathlib.Data.Fintype.EquivFin

/-!
# Binding lists

The entities of a list are bound to entities of another list, each to one of its own that it
accepts. Entities count by position, so equal ones are bound separately. Whether there is a binding
does not depend on the order of either list, and it is what an assignment of slots decides when the
candidates are the positions that are accepted.
-/

namespace Assay

variable {α β : Type} {r : α → β → Prop} {xs xs' : List α} {ys ys' : List β}

/-- In a list with positions those in front of an entry are lower and those behind it higher. -/
theorem of_zipIdx_eq_append {front back : List (α × Nat)} {x : α} {i : Nat}
    (hsplit : xs.zipIdx = front ++ (x, i) :: back) :
    xs[i]? = some x ∧ (∀ k (hk : k < xs.length), k < i → (xs[k], k) ∈ front) ∧
      ∀ k (hk : k < xs.length), i < k → (xs[k], k) ∈ back := by
  have hmem : ∀ p : α × Nat, p ∈ front ++ (x, i) :: back ↔ xs[p.2]? = some p.1 := by
    intro p
    rw [← hsplit, List.mk_mem_zipIdx_iff_getElem?]
  have hsorted : ((front ++ (x, i) :: back).map Prod.snd).Pairwise (· < ·) := by
    rw [← hsplit, List.zipIdx_map_snd]
    exact List.pairwise_lt_range'
  rw [List.map_append, List.pairwise_append, List.map_cons, List.pairwise_cons] at hsorted
  obtain ⟨-, ⟨hbehind, -⟩, hacross⟩ := hsorted
  have hwhere : ∀ k (hk : k < xs.length), k ≠ i → (xs[k], k) ∈ front ∨ (xs[k], k) ∈ back := by
    intro k hk hne
    have hin := (hmem (xs[k], k)).mpr (List.getElem?_eq_getElem hk)
    rcases List.mem_append.mp hin with hfront | hin
    · exact .inl hfront
    · exact .inr ((List.mem_cons.mp hin).resolve_left fun heq => hne (congrArg Prod.snd heq))
  refine ⟨(hmem (x, i)).mp (by simp), fun k hk hlt => ?_, fun k hk hlt => ?_⟩
  · refine (hwhere k hk (Nat.ne_of_lt hlt)).resolve_right fun hback => ?_
    exact Nat.lt_asymm hlt (hbehind k (List.mem_map_of_mem hback))
  · refine (hwhere k hk (Nat.ne_of_gt hlt)).resolve_left fun hfront => ?_
    exact Nat.lt_asymm hlt (hacross k (List.mem_map_of_mem hfront) i List.mem_cons_self)

/-- Every entity of the first list can be bound to one of the second list that it accepts, and no
two to the same. -/
def Bindable (r : α → β → Prop) (xs : List α) (ys : List β) : Prop :=
  ∃ f : Fin xs.length → Fin ys.length, Function.Injective f ∧ ∀ i, r xs[i] ys[f i]

/-- Entities of other lists are bound as those that they come from. -/
theorem bindable_map_iff {α' β' : Type} {r : α' → β' → Prop} {f : α → α'} {g : β → β'} :
    Bindable r (xs.map f) (ys.map g) ↔ Bindable (fun x y => r (f x) (g y)) xs ys := by
  -- either way the binding is the same up to the lengths of the lists
  constructor <;>
  · rintro ⟨h, hinj, hr⟩
    refine ⟨fun i => (h (i.cast (by simp))).cast (by simp), fun i k hik => ?_, fun i => ?_⟩
    · simpa [Fin.ext_iff] using hinj (Fin.cast_injective _ hik)
    · simpa using hr (i.cast (by simp))

/-- A reordering of a list moves its positions. -/
theorem exists_equiv_of_perm (h : xs.Perm xs') :
    ∃ σ : Fin xs.length ≃ Fin xs'.length, ∀ i, xs'[σ i] = xs[i] := by
  let at' (i : Fin xs'.length) (x : α) : Prop := xs'[i] = x
  have hrange : List.Forall₂ at' (List.finRange xs'.length) xs' := by
    rw [List.forall₂_iff_get]
    simp [at']
  obtain ⟨is, hperm, hall⟩ : ∃ is, (List.finRange xs'.length).Perm is ∧ List.Forall₂ at' is xs := by
    have hcomp := List.forall₂_comp_perm_eq_perm_comp_forall₂ (r := at')
    exact (congrFun (congrFun hcomp _) _).mp ⟨xs', hrange, h.symm⟩
  have hnodup : is.Nodup := hperm.nodup_iff.mp (List.nodup_finRange _)
  have hlen : is.length = xs.length := hall.length_eq
  let σ (i : Fin xs.length) : Fin xs'.length := is[i]
  have hinj : Function.Injective σ := by
    intro i j hij
    exact Fin.ext ((hnodup.getElem_inj_iff).mp hij)
  have hbij : Function.Bijective σ := by
    refine (Fintype.bijective_iff_injective_and_card σ).mpr ⟨hinj, ?_⟩
    simpa using h.length_eq
  refine ⟨Equiv.ofBijective σ hbij, fun i => ?_⟩
  exact (List.forall₂_iff_get.mp hall).2 i (by omega) i.isLt

theorem Bindable.perm (h : Bindable r xs ys) (hx : xs.Perm xs') (hy : ys.Perm ys') :
    Bindable r xs' ys' := by
  obtain ⟨f, hinj, hr⟩ := h
  obtain ⟨σ, hσ⟩ := exists_equiv_of_perm hx.symm
  obtain ⟨τ, hτ⟩ := exists_equiv_of_perm hy
  refine ⟨fun i => τ (f (σ i)), ?_, fun i => ?_⟩
  · exact τ.injective.comp (hinj.comp σ.injective)
  · rw [hτ, ← hσ i]
    exact hr (σ i)

/-- The order of neither list counts. -/
theorem bindable_perm_iff (hx : xs.Perm xs') (hy : ys.Perm ys') :
    Bindable r xs ys ↔ Bindable r xs' ys' :=
  ⟨fun h => h.perm hx hy, fun h => h.perm hx.symm hy.symm⟩

/-- Lists of one length are bound one to one. -/
theorem bindable_iff_equiv (h : xs.length = ys.length) :
    Bindable r xs ys ↔ ∃ f : Fin xs.length ≃ Fin ys.length, ∀ i, r xs[i] ys[f i] := by
  constructor
  · rintro ⟨f, hinj, hr⟩
    have hbij : Function.Bijective f :=
      (Fintype.bijective_iff_injective_and_card f).mpr ⟨hinj, by simpa using h⟩
    exact ⟨.ofBijective f hbij, hr⟩
  · rintro ⟨f, hr⟩
    exact ⟨f, f.injective, hr⟩

/-- What accepts itself can be bound to itself. -/
theorem bindable_self {r : α → α → Prop} (h : ∀ x ∈ xs, r x x) : Bindable r xs xs :=
  ⟨id, Function.injective_id, fun _ => h _ (List.getElem_mem _)⟩

/-- Whoever is bound accepts something. -/
theorem Bindable.exists_of_mem (h : Bindable r xs ys) {x : α} (hx : x ∈ xs) :
    ∃ y ∈ ys, r x y := by
  obtain ⟨f, -, hr⟩ := h
  obtain ⟨i, hi, rfl⟩ := List.getElem_of_mem hx
  exact ⟨_, List.getElem_mem _, hr ⟨i, hi⟩⟩

/-- What can be bound as a whole can be bound in part. -/
theorem Bindable.take (h : Bindable r xs ys) (count : Nat) : Bindable r (xs.take count) ys := by
  obtain ⟨f, hinj, hr⟩ := h
  have hle : (xs.take count).length ≤ xs.length := List.length_take_le' _ _
  refine ⟨fun i => f (Fin.castLE hle i), ?_, fun i => ?_⟩
  · exact hinj.comp (Fin.castLE_injective hle)
  · simpa using hr (Fin.castLE hle i)

/-- Different positions of a list can be brought to its front. -/
theorem exists_perm_map_append {is : List (Fin ys.length)} (h : is.Nodup) :
    ∃ rest : List (Fin ys.length), (is ++ rest).Nodup ∧
      ys.Perm (is.map (ys[·]) ++ rest.map (ys[·])) := by
  classical
  let rest := (List.finRange ys.length).filter (· ∉ is)
  have hnodup : (is ++ rest).Nodup := by
    refine h.append ((List.nodup_finRange _).filter _) fun k hk hr => ?_
    simp [rest, hk] at hr
  have hperm : (List.finRange ys.length).Perm (is ++ rest) := by
    refine (List.perm_ext_iff_of_nodup (List.nodup_finRange _) hnodup).mpr fun k => ?_
    by_cases hk : k ∈ is <;> simp [rest, hk]
  refine ⟨rest, hnodup, ?_⟩
  simpa using hperm.map (ys[·])

/-- The entities that others are bound to can be brought to the front, in the order of the ones
that are bound to them. -/
theorem Bindable.exists_perm (h : Bindable r xs ys) :
    ∃ own rest, ys.Perm (own ++ rest) ∧ List.Forall₂ r xs own := by
  obtain ⟨f, hinj, hr⟩ := h
  obtain ⟨rest, -, hperm⟩ := exists_perm_map_append (List.nodup_ofFn.mpr hinj)
  refine ⟨_, _, hperm, List.forall₂_iff_get.mpr ⟨by simp, fun i hi hi' => ?_⟩⟩
  simpa using hr ⟨i, hi⟩

/-- What is added to a list is left over. -/
theorem Bindable.sublist (h : Bindable r xs ys) (hy : ys.Sublist ys') : Bindable r xs ys' := by
  obtain ⟨f, hinj, hr⟩ := h
  obtain ⟨g, hg⟩ := List.sublist_iff_exists_fin_orderEmbedding_get_eq.mp hy
  refine ⟨fun i => g (f i), g.injective.comp hinj, fun i => ?_⟩
  show r xs[i] (ys'.get (g (f i)))
  rw [← hg]
  exact hr i

/-- Wherever something is added to a list, it is left over. -/
theorem Bindable.subperm (h : Bindable r xs ys) (hy : ys.Subperm ys') : Bindable r xs ys' := by
  obtain ⟨part, hperm, hsub⟩ := hy
  exact (h.perm (.refl _) hperm.symm).sublist hsub

/-- Entities that are met one by one by a part of a list are bound to that part. -/
theorem Bindable.of_sublist {own : List β} (h : List.Forall₂ r xs own) (hown : own.Sublist ys) :
    Bindable r xs ys := by
  have hone : Bindable r xs own := by
    refine ⟨fun i => i.cast h.length_eq, Fin.cast_injective _, fun i => ?_⟩
    exact (List.forall₂_iff_get.mp h).2 i i.isLt (h.length_eq ▸ i.isLt)
  exact hone.sublist hown

namespace Assignment

/-- The candidates of an entity are the positions of what it accepts. -/
def Offers (r : α → β → Prop) (ys : List β) (x : α) (slots : List Nat) : Prop :=
  ∀ s, s ∈ slots ↔ ∃ y, ys[s]? = some y ∧ r x y

variable {candidates : List (List Nat)}

theorem inPool_of_offers (h : List.Forall₂ (Offers r ys) xs candidates) :
    InPool candidates ys.length := by
  intro slots hslots s hs
  obtain ⟨i, hi, rfl⟩ := List.getElem_of_mem hslots
  have hoffers := (List.forall₂_iff_get.mp h).2 i (h.length_eq ▸ hi) hi
  obtain ⟨y, hy, -⟩ := (hoffers s).mp hs
  exact (List.getElem?_eq_some_iff.mp hy).1

/-- Entities can be served exactly if they can be bound. -/
theorem assignable_iff_bindable (h : List.Forall₂ (Offers r ys) xs candidates) {count : Nat}
    (hcount : count ≤ xs.length) :
    Assignable candidates count ↔ Bindable r (xs.take count) ys := by
  have hlen : (xs.take count).length = count := by simpa using hcount
  have hoffers : ∀ e (he : e < count) s, s ∈ candidates.getD e [] ↔
      ∃ y, ys[s]? = some y ∧ r (xs.take count)[e] y := by
    intro e he s
    have hec : e < candidates.length := by
      have := h.length_eq
      omega
    have hget := (List.forall₂_iff_get.mp h).2 e (by omega) hec
    simpa [List.getD_eq_getElem?_getD, hec] using hget s
  constructor
  · rintro ⟨pick, hmem, hinj⟩
    have hlt : ∀ i : Fin (xs.take count).length, i.val < count := fun i => by omega
    have hpick : ∀ i : Fin (xs.take count).length, ∃ y, ys[pick i]? = some y ∧
        r (xs.take count)[i] y :=
      fun i => (hoffers i (hlt i) _).mp (hmem i (hlt i))
    have hinto : ∀ i : Fin (xs.take count).length, pick i < ys.length := by
      intro i
      obtain ⟨y, hy, -⟩ := hpick i
      exact (List.getElem?_eq_some_iff.mp hy).1
    refine ⟨fun i => ⟨pick i, hinto i⟩, fun i j hij => ?_, fun i => ?_⟩
    · exact Fin.ext (hinj (hlt i) (hlt j) (by simpa using hij))
    · obtain ⟨y, hy, hacc⟩ := hpick i
      obtain ⟨_, rfl⟩ := List.getElem?_eq_some_iff.mp hy
      exact hacc
  · rintro ⟨f, hinj, hr⟩
    let pick (e : Nat) : Nat := if he : e < (xs.take count).length then f ⟨e, he⟩ else 0
    refine ⟨pick, fun e he => ?_, fun e he e' he' heq => ?_⟩
    · rw [hoffers e he]
      refine ⟨ys[f ⟨e, hlen.symm ▸ he⟩], ?_, hr ⟨e, hlen.symm ▸ he⟩⟩
      simp [pick, hlen, he]
    · have he : e < (xs.take count).length := hlen.symm ▸ he
      have he' : e' < (xs.take count).length := hlen.symm ▸ he'
      simp only [pick, he, he', dif_pos] at heq
      simpa using hinj (Fin.ext heq)

/-- An assignment of what is accepted binds everything. -/
theorem bindable_of_assign (h : List.Forall₂ (Offers r ys) xs candidates) {picked : List Nat}
    (hok : assign candidates ys.length = .ok picked) : Bindable r xs ys := by
  have hserved := (assign_ok_iff (inPool_of_offers h)).mp ⟨picked, hok⟩
  rw [← h.length_eq, assignable_iff_bindable h (Nat.le_refl _), List.take_length] at hserved
  exact hserved

/-- The entity that is named is the first that cannot be bound together with those before it. -/
theorem unbound_of_assign (h : List.Forall₂ (Offers r ys) xs candidates) {k : Nat}
    (herr : assign candidates ys.length = .error k) :
    k < xs.length ∧ (∀ m ≤ k, Bindable r (xs.take m) ys) ∧
      ¬ Bindable r (xs.take (k + 1)) ys := by
  obtain ⟨hk, hbefore, hnow⟩ := of_assign_error (inPool_of_offers h) herr
  rw [← h.length_eq] at hk
  refine ⟨hk, fun m hm => ?_, fun hb => hnow ((assignable_iff_bindable h hk).mpr hb)⟩
  exact (assignable_iff_bindable h (by omega)).mp (hbefore.mono hm)

end Assignment

end Assay
