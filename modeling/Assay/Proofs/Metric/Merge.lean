import Assay.Metric.Match
import Assay.Proofs.Assignment.Binding
import Mathlib.Data.String.Basic

/-!
# Merging families in order of their names

Expected and actual families, both in order of their names, are run through side by side, and what
is behind on the actual side is never looked at again. Success always comes from a part of the
actual list that meets the expected one family by family. How far the merge gets is settled for two
kinds of actual lists: those in which no two families share name and kind, and those in which no two
share their name.
-/

namespace Assay

open Assay.Metric

/-- What families are told apart by. -/
def Metric.Family.key (f : Family) : String × Kind :=
  (f.name, f.kind)

namespace Judge

open List (Forall₂)

variable {j : Judge} {a e : Family} {actual expected rest : List Family}

/-- An actual family meets an expected one if it has its name and its kind, and its samples
satisfy the expected ones. -/
structure Meets (j : Judge) (expected actual : Family) : Prop where
  name : actual.name = expected.name
  kind : actual.kind = expected.kind
  samples : j.family expected actual = .ok ()

/-- Families by ascending name. -/
def Ascending (fs : List Family) : Prop :=
  fs.Pairwise fun a b => a.name ≤ b.name

theorem Meets.key (h : j.Meets e a) : a.key = e.key :=
  Prod.ext h.name h.kind

/-! ## One step of a merge -/

/-- An expected family is not found if all actual ones come later. -/
theorem bindFamilies_passed (h : ∀ a ∈ actual, e.name < a.name) :
    j.bindFamilies actual (e :: rest) = .error (.familyNotFound e.name e.kind) := by
  cases actual with
  | nil => rfl
  | cons a actual =>
    have hgt : compare a.name e.name = .gt := compare_gt_iff_gt.mpr (h a List.mem_cons_self)
    rw [bindFamilies, if_pos hgt]

/-- Actual families of other names or kinds are left behind. -/
theorem bindFamilies_skip (hle : a.name ≤ e.name) (hkey : a.key ≠ e.key) :
    j.bindFamilies (a :: actual) (e :: rest) = j.bindFamilies actual (e :: rest) := by
  have hgt : ¬ compare a.name e.name = .gt := fun h => absurd (compare_gt_iff_gt.mp h) (not_lt.mpr hle)
  have hno : ¬ (a.name = e.name ∧ a.kind = e.kind) := fun h => hkey (Prod.ext h.1 h.2)
  rw [bindFamilies, if_neg hgt, if_neg hno]

/-- The first actual family of the expected name and kind settles whether the merge goes on. -/
theorem bindFamilies_key (hkey : a.key = e.key) :
    j.bindFamilies (a :: actual) (e :: rest) =
      match j.family e a with
      | .ok _ => j.bindFamilies actual rest
      | .error cause => .error (.family e.name cause) := by
  obtain ⟨hname, hkind⟩ : a.name = e.name ∧ a.kind = e.kind := Prod.ext_iff.mp hkey
  have hgt : ¬ compare a.name e.name = .gt := by simp [hname]
  rw [bindFamilies, if_neg hgt, if_pos ⟨hname, hkind⟩]
  cases j.family e a <;> rfl

theorem bindFamilies_meets (h : j.Meets e a) :
    j.bindFamilies (a :: actual) (e :: rest) = j.bindFamilies actual rest := by
  rw [bindFamilies_key h.key, h.samples]

/-! ## What a successful merge has found -/

/-- **A merge that succeeds has found a part of the actual families** that meet the expected ones
one by one. -/
theorem exists_sublist_of_bindFamilies (h : j.bindFamilies actual expected = .ok ()) :
    ∃ own, own.Sublist actual ∧ Forall₂ j.Meets expected own := by
  induction actual generalizing expected with
  | nil =>
    cases expected with
    | nil => exact ⟨[], .slnil, .nil⟩
    | cons e rest => cases h
  | cons a actual ih =>
    cases expected with
    | nil => exact ⟨[], List.nil_sublist _, .nil⟩
    | cons e rest =>
      by_cases hkey : a.key = e.key
      · rw [bindFamilies_key hkey] at h
        cases hfamily : j.family e a with
        | error cause => simp [hfamily] at h
        | ok u =>
          rw [hfamily] at h
          obtain ⟨own, hown, hall⟩ := ih h
          have hmeets : j.Meets e a := ⟨congrArg Prod.fst hkey, congrArg Prod.snd hkey, hfamily⟩
          exact ⟨a :: own, hown.cons_cons a, .cons hmeets hall⟩
      · rcases lt_or_ge e.name a.name with hlt | hle
        · have hgt : compare a.name e.name = .gt := compare_gt_iff_gt.mpr hlt
          rw [bindFamilies, if_pos hgt] at h
          cases h
        · rw [bindFamilies_skip hle hkey] at h
          obtain ⟨own, hown, hall⟩ := ih h
          exact ⟨own, hown.cons a, hall⟩

/-- **With distinct keys a merge finds what there is**: the one family of the expected name and kind
is the one that the part holds. -/
theorem bindFamilies_of_sublist (hactual : Ascending actual) (hkeys : (actual.map Family.key).Nodup)
    {own : List Family} (hown : own.Sublist actual) (hall : Forall₂ j.Meets expected own) :
    j.bindFamilies actual expected = .ok () := by
  induction hown generalizing expected with
  | slnil =>
    cases hall
    rfl
  | @cons own actual a hown ih =>
    rw [Ascending, List.pairwise_cons] at hactual
    rw [List.map_cons, List.nodup_cons] at hkeys
    cases hall with
    | nil => cases actual <;> rfl
    | @cons e o rest own hmeets hall =>
      have ho : o ∈ actual := hown.subset List.mem_cons_self
      have hle : a.name ≤ e.name := hmeets.name ▸ hactual.1 o ho
      have hkey : a.key ≠ e.key := by
        intro heq
        apply hkeys.1
        rw [heq, ← hmeets.key]
        exact List.mem_map_of_mem ho
      rw [bindFamilies_skip hle hkey]
      exact ih hactual.2 hkeys.2 (.cons hmeets hall)
  | @cons_cons own actual a hown ih =>
    rw [Ascending, List.pairwise_cons] at hactual
    rw [List.map_cons, List.nodup_cons] at hkeys
    cases hall with
    | cons hmeets hall =>
      rw [bindFamilies_meets hmeets]
      exact ih hactual.2 hkeys.2 hall

/-! ## Where a merge stops if no two actual families share their name -/

/-- Every expected family is met, and no two by the same: they differ in name. -/
structure Matched (j : Judge) (actual expected : List Family) : Prop where
  distinct : (expected.map Family.name).Nodup
  met : ∀ e ∈ expected, ∃ a ∈ actual, j.Meets e a

/-- What is told of an expected family that is not met: it is missing if those before it have used
up its name or there is none of its kind, and else something is wrong with its samples. -/
inductive Refusal (j : Judge) (actual front : List Family) (e : Family) : Discrepancy → Prop where
  | missing (h : e.name ∈ front.map Family.name ∨ ∀ a ∈ actual, a.key ≠ e.key) :
    Refusal j actual front e (.familyNotFound e.name e.kind)
  | unfit {a : Family} {cause : Discrepancy} (ha : a ∈ actual) (hkey : a.key = e.key)
      (h : j.family e a = .error cause) : Refusal j actual front e (.family e.name cause)

theorem matched_nil (j : Judge) (actual : List Family) : j.Matched actual [] :=
  ⟨List.nodup_nil, by simp⟩

theorem Matched.perm {actual' expected' : List Family} (h : j.Matched actual expected)
    (ha : actual.Perm actual') (he : expected.Perm expected') : j.Matched actual' expected' where
  distinct := (he.map _).nodup_iff.mp h.distinct
  met e hmem := by
    obtain ⟨a, hmem', hmeets⟩ := h.met e (he.mem_iff.mpr hmem)
    exact ⟨a, ha.mem_iff.mp hmem', hmeets⟩

theorem Matched.sublist {part : List Family} (h : j.Matched actual expected)
    (hpart : part.Sublist expected) : j.Matched actual part where
  distinct := h.distinct.sublist (hpart.map _)
  met e he := h.met e (hpart.subset he)

theorem Matched.cons_actual (h : j.Matched actual expected) (a : Family) :
    j.Matched (a :: actual) expected where
  distinct := h.distinct
  met e he := by
    obtain ⟨b, hb, hmeets⟩ := h.met e he
    exact ⟨b, List.mem_cons_of_mem _ hb, hmeets⟩

/-- The family that is refused spoils what is matched before it. -/
theorem Refusal.not_matched {front : List Family} {d : Discrepancy} (h : j.Refusal actual front e d)
    (hnames : (actual.map Family.name).Nodup) : ¬ j.Matched actual (front ++ [e]) := by
  intro hmatched
  obtain ⟨a, ha, hmeets⟩ := hmatched.met e (by simp)
  cases h with
  | missing h =>
    rcases h with hused | hnone
    · have hdistinct := hmatched.distinct
      rw [List.map_append, List.nodup_append] at hdistinct
      exact hdistinct.2.2 _ hused _ (by simp) rfl
    · exact hnone a ha hmeets.key
  | @unfit b cause hb hkey hfamily =>
    have hname : b.name = a.name := (congrArg Prod.fst hkey).trans hmeets.name.symm
    obtain rfl : b = a := List.inj_on_of_nodup_map hnames hb ha hname
    rw [hmeets.samples] at hfamily
    cases hfamily

/-- How far a merge gets: it matches all expected families, or those before the first that is
refused. -/
inductive Merged (j : Judge) (actual expected : List Family) : Except Discrepancy Unit → Prop where
  | complete (h : j.Matched actual expected) : Merged j actual expected (.ok ())
  | stopped {front back : List Family} {e : Family} {d : Discrepancy}
      (hsplit : expected = front ++ e :: back) (hfront : j.Matched actual front)
      (h : j.Refusal actual front e d) : Merged j actual expected (.error d)

variable {result : Except Discrepancy Unit}

/-- The order of the actual families does not count. -/
theorem Merged.perm_actual {actual' : List Family} (h : j.Merged actual expected result)
    (ha : actual.Perm actual') : j.Merged actual' expected result := by
  cases h with
  | complete h => exact .complete (h.perm ha (.refl _))
  | stopped hsplit hfront h =>
    refine .stopped hsplit (hfront.perm ha (.refl _)) ?_
    cases h with
    | missing h => exact .missing (h.imp_right fun hnone a hmem => hnone a (ha.mem_iff.mpr hmem))
    | unfit hmem hkey hfamily => exact .unfit (ha.mem_iff.mp hmem) hkey hfamily

/-- A merge does not stop if all expected families are met. -/
theorem Merged.eq_ok (h : j.Merged actual expected result)
    (hnames : (actual.map Family.name).Nodup) (hmatched : j.Matched actual expected) :
    result = .ok () := by
  cases h with
  | complete _ => rfl
  | stopped hsplit _ h =>
    refine absurd (hmatched.sublist ?_) (h.not_matched hnames)
    rw [hsplit]
    exact (List.singleton_sublist.mpr List.mem_cons_self).append_left _

/-- The first expected family is refused. -/
theorem merged_of_refusal {d : Discrepancy} (h : j.Refusal actual [] e d) :
    j.Merged actual (e :: rest) (.error d) :=
  .stopped (List.nil_append _).symm (matched_nil j actual) h

/-- The first expected family is missing. -/
theorem merged_of_missing (h : ∀ a ∈ actual, a.key ≠ e.key) :
    j.Merged actual (e :: rest) (.error (.familyNotFound e.name e.kind)) :=
  merged_of_refusal (.missing (.inr h))

/-- An actual family that nobody expects has no part in the merge. -/
theorem Merged.skip (h : j.Merged actual expected result)
    (hother : ∀ e ∈ expected, a.key ≠ e.key) : j.Merged (a :: actual) expected result := by
  cases h with
  | complete h => exact .complete (h.cons_actual a)
  | @stopped front back e d hsplit hfront h =>
    refine .stopped hsplit (hfront.cons_actual a) ?_
    cases h with
    | missing h =>
      refine .missing (h.imp_right fun hnone b hb => ?_)
      rcases List.mem_cons.mp hb with rfl | hb
      · exact hother e (by simp [hsplit])
      · exact hnone b hb
    | unfit hmem hkey hfamily => exact .unfit (List.mem_cons_of_mem _ hmem) hkey hfamily

/-- Nobody who is met later has the name that is used up. -/
theorem Matched.bind (h : j.Matched actual expected) (hmeets : j.Meets e a)
    (hlater : ∀ b ∈ actual, a.name < b.name) : j.Matched (a :: actual) (e :: expected) where
  distinct := by
    refine List.nodup_cons.mpr ⟨fun hmem => ?_, h.distinct⟩
    obtain ⟨e', he', hname⟩ := List.mem_map.mp hmem
    obtain ⟨b, hb, hmeets'⟩ := h.met e' he'
    have hlt := hlater b hb
    rw [hmeets'.name, hname, hmeets.name] at hlt
    exact lt_irrefl _ hlt
  met e' he' := by
    rcases List.mem_cons.mp he' with rfl | he'
    · exact ⟨a, List.mem_cons_self, hmeets⟩
    · exact (h.cons_actual a).met e' he'

/-- A family that has been bound is used up for those that follow. -/
theorem Merged.bind (h : j.Merged actual rest result) (hmeets : j.Meets e a)
    (hlater : ∀ b ∈ actual, a.name < b.name) : j.Merged (a :: actual) (e :: rest) result := by
  cases h with
  | complete h => exact .complete (h.bind hmeets hlater)
  | @stopped front back e' d hsplit hfront h =>
    refine .stopped (congrArg (e :: ·) hsplit) (hfront.bind hmeets hlater) ?_
    cases h with
    | missing h =>
      refine .missing ?_
      by_cases hused : e'.name ∈ (e :: front).map Family.name
      · exact .inl hused
      · rw [List.map_cons, List.mem_cons, not_or] at hused
        refine .inr fun b hb hkey => ?_
        rcases List.mem_cons.mp hb with rfl | hb
        · exact hused.1 ((congrArg Prod.fst hkey).symm.trans hmeets.name)
        · exact h.resolve_left hused.2 b hb hkey
    | unfit hmem hkey hfamily => exact .unfit (List.mem_cons_of_mem _ hmem) hkey hfamily

/-- The next actual family has the name of the expected one or a later name, but is another one. -/
theorem merged_of_le (hlater : ∀ b ∈ actual, a.name < b.name) (hle : e.name ≤ a.name)
    (hkey : a.key ≠ e.key) :
    j.Merged (a :: actual) (e :: rest) (j.bindFamilies (a :: actual) (e :: rest)) := by
  -- all that follow have later names, so the expected one is missing
  have hpassed : ∀ b ∈ actual, e.name < b.name := fun b hb => lt_of_le_of_lt hle (hlater b hb)
  have hnone : ∀ b ∈ a :: actual, b.key ≠ e.key := by
    intro b hb heq
    rcases List.mem_cons.mp hb with rfl | hb
    · exact hkey heq
    · exact absurd (congrArg Prod.fst heq) (ne_of_gt (hpassed b hb))
  have hstop : j.bindFamilies (a :: actual) (e :: rest) =
      .error (.familyNotFound e.name e.kind) := by
    rcases lt_or_eq_of_le hle with hlt | heq
    · refine bindFamilies_passed fun b hb => ?_
      rcases List.mem_cons.mp hb with rfl | hb
      · exact hlt
      · exact hpassed b hb
    · rw [bindFamilies_skip (le_of_eq heq.symm) hkey, bindFamilies_passed hpassed]
  rw [hstop]
  exact merged_of_missing hnone

/-- **With distinct names a merge matches all expected families**, or stops at the first that is
refused. -/
theorem bindFamilies_merged (hactual : actual.Pairwise fun a b => a.name < b.name)
    (hexpected : Ascending expected) :
    j.Merged actual expected (j.bindFamilies actual expected) := by
  induction actual generalizing expected with
  | nil =>
    cases expected with
    | nil => exact .complete (matched_nil j [])
    | cons e rest => exact merged_of_missing (by simp)
  | cons a actual ih =>
    cases expected with
    | nil => exact .complete (matched_nil j _)
    | cons e rest =>
      obtain ⟨hlater, hactual⟩ := List.pairwise_cons.mp hactual
      have hrest := List.pairwise_cons.mp hexpected
      by_cases hkey : a.key = e.key
      · rw [bindFamilies_key hkey]
        cases hfamily : j.family e a with
        | error cause =>
          exact merged_of_refusal (.unfit List.mem_cons_self hkey hfamily)
        | ok u =>
          have hmeets : j.Meets e a := ⟨congrArg Prod.fst hkey, congrArg Prod.snd hkey, hfamily⟩
          exact (ih hactual hrest.2).bind hmeets hlater
      · rcases lt_or_ge a.name e.name with hlt | hge
        · rw [bindFamilies_skip (le_of_lt hlt) hkey]
          apply (ih hactual hexpected).skip
          intro e' he' heq
          rcases List.mem_cons.mp he' with rfl | he'
          · exact hkey heq
          · have hname : a.name = e'.name := congrArg Prod.fst heq
            exact absurd (hname ▸ hrest.1 e' he') (not_le.mpr hlt)
        · exact merged_of_le hlater hge hkey

end Judge

end Assay
