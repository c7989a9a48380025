import Assay.Judge
import Assay.Proofs.Predicate.Sharing
import Assay.Shared

/-!
# Judging with shared predicates

What a comparison with shared predicates may come to is what the judge who reads every predicate
anew says: one outcome as long as no comparisons are made side by side, and otherwise one for each
choice among their failures. The laws of `run` take a comparison apart where the comparison of the
judge is taken apart.
-/

namespace Assay.Shared

open Predicate (Work)
open SideBySide (Pick Settles)

variable {engine : Regex.Engine}

section Laws

variable {ε α β : Type}

/-- What goes on with a value, where a failure stays as it is. -/
def onward (f : α → List (Except ε β)) : Except ε α → List (Except ε β)
  | .ok a => f a
  | .error e => [.error e]

@[simp] theorem onward_singleton (f : α → Except ε β) (r : Except ε α) :
    onward (fun a => [f a]) r = [r >>= f] := by
  cases r <;> rfl

@[simp] theorem outcomes_run_mk (w : Work (Except ε α)) :
    (ExceptT.mk w).run.outcomes engine = w.outcomes engine :=
  rfl

@[simp] theorem outcomes_run_lift (x : Except ε α) :
    (liftM x : ExceptT ε Work α).run.outcomes engine = [x] :=
  rfl

@[simp] theorem outcomes_run_bind (x : ExceptT ε Work α) (f : α → ExceptT ε Work β) :
    (x >>= f).run.outcomes engine =
      (x.run.outcomes engine).flatMap (onward fun a => (f a).run.outcomes engine) := by
  show ((x.run >>= ExceptT.bindCont f : Work _)).outcomes engine = _
  rw [Work.outcomes_bind]
  refine congrArg (List.flatMap · _) (funext fun r => ?_)
  cases r <;> rfl

/-- Comparisons that have one outcome each come side by side to all that these may come to. -/
theorem mem_outcomes_forEach {f : α → ExceptT ε Work β} {g : α → Except ε β}
    (h : ∀ a, (f a).run.outcomes engine = [g a]) {as : List α} {r : Except ε (List β)} :
    r ∈ (forEach f as).run.outcomes engine ↔ Settles (as.map g) r := by
  rw [forEach, outcomes_run_mk, Work.mem_outcomes_inParallel]
  simp only [h, List.mem_singleton]
  constructor
  · rintro (⟨bs, rfl, hall⟩ | ⟨a, ha, e, rfl, he⟩)
    · exact .ok (SideBySide.map_eq_map_ok_iff.mpr (hall.imp fun _ _ => Eq.symm))
    · exact .error (List.mem_map.mpr ⟨a, ha, he.symm⟩)
  · intro hsettles
    cases hsettles with
    | ok hbs => exact .inl ⟨_, rfl, (SideBySide.map_eq_map_ok_iff.mp hbs).imp fun _ _ => Eq.symm⟩
    | error he =>
      obtain ⟨a, ha, he⟩ := List.mem_map.mp he
      exact .inr ⟨a, ha, _, rfl, he.symm⟩

end Laws

variable (env : Environment) (pick : Pick Discrepancy)

theorem outcomes_accepts (expected actual : String) :
    (accepts expected actual).outcomes engine =
      [Judge.accepts { env, engine, pick } expected actual] := by
  rw [accepts, Work.outcomes_bind, Work.outcomes_evaluate, List.flatMap_singleton]
  simp only [Judge.accepts]
  cases Predicate.check engine expected actual <;> rfl

theorem outcomes_field (name expected actual : String) :
    (field name expected actual).run.outcomes engine =
      [Judge.field { env, engine, pick } name expected actual] := by
  simp [field, Judge.field]

theorem outcomes_value (name expected actual : String) :
    (value name expected actual).run.outcomes engine =
      [Judge.value { env, engine, pick } name expected actual] := by
  simp [value, Judge.value, outcomes_field env pick]

/-! ## Comparisons that leave a choice -/

section Choices

variable {ε ε' α β : Type} {w : Work (Except ε α)} {f : Pick Discrepancy → Except ε α}

/-- Work comes to what a judge says, whatever choice he makes among failures, and to nothing else.
His choice is not asked for where nothing fails. -/
structure UpToPick (engine : Regex.Engine) (w : Work (Except ε α))
    (f : Pick Discrepancy → Except ε α) : Prop where
  mem_outcomes_iff (r : Except ε α) : r ∈ w.outcomes engine ↔ ∃ pick, f pick = r
  agree (pick pick' : Pick Discrepancy) (a : α) : f pick = .ok a → f pick' = .ok a

theorem UpToPick.of_outcomes (h : ∀ pick, w.outcomes engine = [f pick]) : UpToPick engine w f where
  mem_outcomes_iff r := by
    constructor
    · intro hr
      rw [h .first, List.mem_singleton] at hr
      exact ⟨.first, hr.symm⟩
    · rintro ⟨pick, rfl⟩
      rw [h pick]
      exact List.mem_singleton_self _
  agree pick pick' a ha := by
    rw [← List.singleton_inj.mp ((h pick).symm.trans (h pick')), ha]

/-- Where one choice meets a failure, no choice meets a success. -/
theorem UpToPick.fails_again (h : UpToPick engine w f) {pick : Pick Discrepancy} {e : ε}
    (hf : f pick = .error e) (pick' : Pick Discrepancy) : ∃ e', f pick' = .error e' := by
  cases hf' : f pick' with
  | error e' => exact ⟨e', rfl⟩
  | ok a => simp [h.agree pick' pick a hf'] at hf

/-- Work that follows on other work comes to what it comes to after some outcome of it. -/
theorem UpToPick.followed (h : UpToPick engine w f) {next : Except ε α → Work (Except ε' β)}
    {g : Pick Discrepancy → Except ε' β}
    (hnext : ∀ r, ∃ g', UpToPick engine (next r) g' ∧ (∀ pick, f pick = r → g pick = g' pick) ∧
      ∀ pick pick', f pick = r → ∃ pick'', g pick'' = g' pick')
    (hagree : ∀ pick pick' b, g pick = .ok b → g pick' = .ok b) :
    UpToPick engine (w >>= next) g where
  mem_outcomes_iff r := by
    rw [Work.outcomes_bind, List.mem_flatMap]
    constructor
    · rintro ⟨s, hs, hr⟩
      obtain ⟨pick, hpick⟩ := (h.mem_outcomes_iff s).mp hs
      obtain ⟨g', hg', -, hmet⟩ := hnext s
      obtain ⟨pick', rfl⟩ := (hg'.mem_outcomes_iff r).mp hr
      exact hmet pick pick' hpick
    · rintro ⟨pick, rfl⟩
      obtain ⟨g', hg', hsame, -⟩ := hnext (f pick)
      exact ⟨f pick, (h.mem_outcomes_iff _).mpr ⟨pick, rfl⟩,
        (hg'.mem_outcomes_iff _).mpr ⟨pick, (hsame pick rfl).symm⟩⟩
  agree := hagree

/-- **What goes on only where other work succeeds** asks for no choice that has been made before. -/
theorem UpToPick.andThen (h : UpToPick engine w f) {next : Except ε α → Work (Except ε' β)}
    {g : Pick Discrepancy → Except ε' β}
    (hok : ∀ a, ∃ g', UpToPick engine (next (.ok a)) g' ∧ ∀ pick, f pick = .ok a → g pick = g' pick)
    (herror : ∀ e, ∃ e', (next (.error e)).outcomes engine = [.error e'] ∧
      ∀ pick, f pick = .error e → g pick = .error e') :
    UpToPick engine (w >>= next) g := by
  refine h.followed (fun r => ?_) fun pick pick' b hb => ?_
  · cases r with
    | ok a =>
      obtain ⟨g', hg', hsame⟩ := hok a
      -- the later choice is kept, as the earlier one was not asked for
      exact ⟨g', hg', hsame, fun pick pick' hf => ⟨pick', hsame pick' (h.agree pick pick' a hf)⟩⟩
    | error e =>
      obtain ⟨e', hends, hsame⟩ := herror e
      exact ⟨fun _ => .error e', .of_outcomes fun _ => hends, hsame,
        fun pick _ hf => ⟨pick, hsame pick hf⟩⟩
  · cases hf : f pick with
    | ok a =>
      obtain ⟨g', hg', hsame⟩ := hok a
      rw [hsame pick hf] at hb
      rw [hsame pick' (h.agree pick pick' a hf)]
      exact hg'.agree pick pick' b hb
    | error e =>
      obtain ⟨e', -, hsame⟩ := herror e
      rw [hsame pick hf] at hb
      cases hb

/-- **What goes on only where other work fails**, and does not tell of that failure, asks for no
choice that has been made before. -/
theorem UpToPick.orElse (h : UpToPick engine w f) {next : Except ε α → Work (Except ε' β)}
    {g : Pick Discrepancy → Except ε' β}
    (hok : ∀ a, ∃ b, (next (.ok a)).outcomes engine = [.ok b] ∧
      ∀ pick, f pick = .ok a → g pick = .ok b)
    (herror : ∀ e, ∃ g', UpToPick engine (next (.error e)) g' ∧
      ∀ pick e', f pick = .error e' → g pick = g' pick) :
    UpToPick engine (w >>= next) g := by
  refine h.followed (fun r => ?_) fun pick pick' b hb => ?_
  · cases r with
    | ok a =>
      obtain ⟨b, hends, hsame⟩ := hok a
      exact ⟨fun _ => .ok b, .of_outcomes fun _ => hends, hsame,
        fun pick _ hf => ⟨pick, hsame pick hf⟩⟩
    | error e =>
      obtain ⟨g', hg', hsame⟩ := herror e
      refine ⟨g', hg', fun pick => hsame pick e, fun pick pick' hf => ?_⟩
      -- as the earlier failure is not told, the later choice may be made there as well
      obtain ⟨e', hf'⟩ := h.fails_again hf pick'
      exact ⟨pick', hsame pick' e' hf'⟩
  · cases hf : f pick with
    | ok a =>
      obtain ⟨b', -, hsame⟩ := hok a
      rw [hsame pick' (h.agree pick pick' a hf), ← hsame pick hf, hb]
    | error e =>
      obtain ⟨g', hg', hsame⟩ := herror e
      obtain ⟨e', hf'⟩ := h.fails_again hf pick'
      rw [hsame pick e hf] at hb
      rw [hsame pick' e' hf']
      exact hg'.agree pick pick' b hb

theorem UpToPick.bind {x : ExceptT ε Work α} (h : UpToPick engine x.run f)
    {next : α → ExceptT ε Work β} {g : α → Pick Discrepancy → Except ε β}
    (hnext : ∀ a, UpToPick engine (next a).run (g a)) :
    UpToPick engine (x >>= next).run fun pick => f pick >>= fun a => g a pick :=
  h.andThen (fun a => ⟨g a, hnext a, fun pick hf => by rw [hf]; rfl⟩)
    fun e => ⟨e, rfl, fun pick hf => by rw [hf]; rfl⟩

theorem UpToPick.mapError (h : UpToPick engine w f) (m : ε → ε') :
    UpToPick engine (do return (← w).mapError m) fun pick => (f pick).mapError m :=
  h.andThen (fun a => ⟨fun _ => .ok a, .of_outcomes fun _ => rfl, fun pick hf => by rw [hf]; rfl⟩)
    fun e => ⟨m e, rfl, fun pick hf => by rw [hf]; rfl⟩

/-- **Comparisons made side by side** leave the choice among their failures. -/
theorem UpToPick.forEach {f : α → ExceptT Discrepancy Work β}
    {g : Pick Discrepancy → α → Except Discrepancy β}
    (h : ∀ pick a, (f a).run.outcomes engine = [g pick a]) (as : List α) :
    UpToPick engine (forEach f as).run fun pick => pick.settle (as.map (g pick)) := by
  have hsame : ∀ pick, g pick = g .first := fun pick =>
    funext fun a => List.singleton_inj.mp ((h pick a).symm.trans (h .first a))
  refine ⟨fun r => ?_, fun pick pick' bs hbs => ?_⟩
  · rw [mem_outcomes_forEach (h .first), SideBySide.settles_iff]
    simp only [hsame]
  · rw [hsame, Pick.settle_eq_ok_iff] at hbs ⊢
    exact hbs

end Choices

end Assay.Shared
