import Assay.Proofs.Run.Interleaving

/-!
# Cancelled runs

A concurrent run is cancelled only if it is to stop at its first failure and a case has failed. From
then on no case gets past another look at the cancellation: whatever order the moves come in, each
case has at most the one attempt that is under way or about to start, and is not tried again.
Nothing is assumed of what attempts come to, so it may depend on all that happened before.
-/

namespace Assay.Run

variable {σ : Type}

/-! ## Attempts of a course -/

/-- The attempt that a task is about to make, if it is: the number of retries before it, and what it
comes to. -/
def Task.attempt? (bench : Bench σ) (c : Case) (world : σ) : Task → Option (Nat × Attempt)
  | .trying retries => some (retries, bench.attempt world c retries)
  | _ => none

namespace Round

variable {rules : Rules σ} {r : Round σ} {i : Nat} {c : Case} {task : Task} {m : Move}

/-- The attempt that a move makes at the case at a position, if it makes one. -/
def attempt? (rules : Rules σ) (i : Nat) (r : Round σ) (m : Move) : Option (Nat × Attempt) :=
  if m = .advance i then r.tasks[i]?.bind fun t => t.2.attempt? rules.bench t.1 r.world else none

/-- The attempts that a course makes at the case at a position, in their order. -/
def attemptsAt (rules : Rules σ) (i : Nat) : Round σ → List Move → List (Nat × Attempt)
  | _, [] => []
  | r, m :: moves => (r.attempt? rules i m).toList ++ attemptsAt rules i (r.move rules m) moves

theorem attemptsAt_append (r : Round σ) (moves moves' : List Move) :
    attemptsAt rules i r (moves ++ moves') =
      attemptsAt rules i r moves ++ attemptsAt rules i (r.play rules moves) moves' := by
  induction moves generalizing r with
  | nil => rfl
  | cons m moves ih =>
    rw [List.cons_append, attemptsAt, attemptsAt, ih, List.append_assoc]
    rfl

/-- What a move does to a task, and the attempt that it makes at the case of the task. -/
inductive Shift (rules : Rules σ) (r : Round σ) (c : Case) (task : Task) :
    Option (Nat × Attempt) → Task → Prop where
  | own : Shift rules r c task (task.attempt? rules.bench c r.world)
      (task.advance rules.bench rules.attempts c r.cancelled r.world).task
  | collected {result : Result} {crashed : Bool} (h : task = .ended result crashed) :
    Shift rules r c task none (.collected result)
  | none : Shift rules r c task none task

theorem exists_shift (rules : Rules σ) (hi : r.tasks[i]? = some (c, task)) (m : Move) :
    ∃ attempt task', r.attempt? rules i m = attempt ∧
      (r.move rules m).tasks[i]? = some (c, task') ∧ Shift rules r c task attempt task' := by
  have hlt := (List.getElem?_eq_some_iff.mp hi).1
  cases m with
  | advance k =>
    by_cases hk : k = i
    · subst hk
      refine ⟨_, _, ?_, ?_, .own⟩
      · simp [attempt?, hi]
      · simp [move, advance, hi, List.getElem?_set_self hlt]
    · refine ⟨.none, task, by simp [attempt?, hk], ?_, .none⟩
      simp only [move, advance]
      split
      · exact hi
      · exact (List.getElem?_set_ne hk).trans hi
  | collect k =>
    have hattempt : r.attempt? rules i (.collect k) = .none := by simp [attempt?]
    simp only [move, collect]
    split
    · rename_i c' result crashed hk'
      by_cases hk : k = i
      · subst hk
        obtain ⟨rfl, rfl⟩ := Prod.mk.inj (Option.some.inj (hk'.symm.trans hi))
        exact ⟨_, .collected result, hattempt, List.getElem?_set_self hlt, .collected rfl⟩
      · exact ⟨_, task, hattempt, (List.getElem?_set_ne hk).trans hi, .none⟩
    · exact ⟨_, task, hattempt, hi, .none⟩

end Round

/-! ## Attempts are numbered -/

namespace Task

variable {bench : Bench σ} {attempts : Nat} {c : Case} {cancelled : Bool} {task : Task} {world : σ}
  {made : List (Nat × Attempt)}

/-- The number of attempts that have been made at a case that has no result yet. -/
def sofar? : Task → Option Nat
  | .waiting => some 0
  | .entered => some 0
  | .trying retries => some retries
  | .pausing retry => some retry
  | _ => none

theorem sofar?_of_attempt? {retries : Nat} {outcome : Attempt}
    (h : task.attempt? bench c world = some (retries, outcome)) : task.sofar? = some retries := by
  cases task with
  | trying n =>
    obtain ⟨rfl, -⟩ := Prod.mk.inj (Option.some.inj h)
    rfl
  | _ => cases h

/-- A step without a result has raised the number of attempts by those that it made. -/
theorem sofar?_advance {n : Nat}
    (h : (advance bench attempts c cancelled task world).task.sofar? = some n) :
    ∃ k, task.sofar? = some k ∧ n = k + (task.attempt? bench c world).toList.length := by
  cases task with
  | waiting => cases cancelled <;> simp_all [advance, done, sofar?, attempt?]
  | entered =>
    simp only [advance, start] at h
    split at h
    · cases h
    · split at h <;> simp_all [done, sofar?, attempt?]
  | trying retries =>
    simp only [advance, fail] at h
    repeat' split at h
    all_goals simp_all [done, dead, sofar?, attempt?]
  | pausing retry => cases cancelled <;> simp_all [advance, done, sofar?, attempt?]
  | settled r => cases h
  | ended r crashed => cases h
  | collected r => cases h

/-- The attempts that have been made at a case are numbered one after the other, and there are as
many as its task says. -/
structure Counted (task : Task) (made : List (Nat × Attempt)) : Prop where
  numbered : made.map Prod.fst = List.range made.length
  sofar : ∀ n, task.sofar? = some n → made.length = n

theorem Counted.advance (h : task.Counted made) :
    (advance bench attempts c cancelled task world).task.Counted
      (made ++ (task.attempt? bench c world).toList) := by
  refine ⟨?_, fun n hn => ?_⟩
  · cases hattempt : task.attempt? bench c world with
    | none => simpa using h.numbered
    | some attempt =>
      obtain ⟨retries, outcome⟩ := attempt
      have hlength := h.sofar retries (sofar?_of_attempt? hattempt)
      simp [h.numbered, hlength, List.range_succ]
  · obtain ⟨k, hk, rfl⟩ := sofar?_advance hn
    rw [List.length_append, h.sofar k hk]

end Task

theorem Task.counted_waiting : Counted .waiting [] where
  numbered := rfl
  sofar := by
    rintro n ⟨⟩
    rfl

namespace Round

variable {rules : Rules σ} {r : Round σ} {i : Nat} {c : Case} {task : Task}

/-- **Every course numbers the attempts at each case**, and its tasks keep to their places. -/
theorem exists_counted (rules : Rules σ) {made : List (Nat × Attempt)}
    (hi : r.tasks[i]? = some (c, task))
    (h : task.Counted made) (moves : List Move) :
    ∃ task', (r.play rules moves).tasks[i]? = some (c, task') ∧
      task'.Counted (made ++ attemptsAt rules i r moves) := by
  induction moves generalizing r task made with
  | nil => exact ⟨task, hi, by simpa [attemptsAt] using h⟩
  | cons m moves ih =>
    obtain ⟨attempt, next, hattempt, hnext, hshift⟩ := exists_shift rules hi m
    have hcounted : next.Counted (made ++ attempt.toList) := by
      cases hshift with
      | own => exact h.advance
      | collected hended =>
        subst hended
        exact ⟨by simpa using h.numbered, by rintro n ⟨⟩⟩
      | none => simpa using h
    obtain ⟨task', hi', hcounted'⟩ := ih hnext hcounted
    rw [attemptsAt, hattempt, ← List.append_assoc]
    exact ⟨task', hi', hcounted'⟩

theorem length_tasks_move (rules : Rules σ) (r : Round σ) (m : Move) :
    (r.move rules m).tasks.length = r.tasks.length := by
  cases m with
  | advance k =>
    simp only [move, advance]
    split <;> simp
  | collect k =>
    simp only [move, collect]
    split <;> simp

theorem length_tasks_play (rules : Rules σ) (r : Round σ) (moves : List Move) :
    (r.play rules moves).tasks.length = r.tasks.length := by
  induction moves generalizing r with
  | nil => rfl
  | cons m moves ih => exact (ih (r.move rules m)).trans (length_tasks_move rules r m)

theorem counted_of_initial {cases : List Case} {world : σ} {moves : List Move}
    (hi : ((initial cases world).play rules moves).tasks[i]? = some (c, task)) :
    task.Counted (attemptsAt rules i (initial cases world) moves) := by
  have hlt := (List.getElem?_eq_some_iff.mp hi).1
  rw [length_tasks_play] at hlt
  have hlt' : i < cases.length := by simpa [initial] using hlt
  have hfresh : (initial cases world).tasks[i]? = some (cases[i], .waiting) := by
    simp [initial, hlt']
  obtain ⟨task', hi', hcounted⟩ := exists_counted rules hfresh Task.counted_waiting moves
  obtain ⟨-, rfl⟩ := Prod.mk.inj (Option.some.inj (hi.symm.trans hi'))
  exact hcounted

end Round

/-! ## After the cancellation -/

/-- Whether a task stands before a look at the cancellation. -/
def Task.Looks : Task → Prop
  | .waiting => True
  | .pausing _ => True
  | _ => False

/-- The result of a case whose task died. -/
def Result.ofDeath (c : Case) (message : String) : Result :=
  ⟨c.displayName, .aborted (.crashed c.displayName message)⟩

/-- How a case ends in a run that is cancelled: where its task stood, the attempts that are made
from there on, and the result. -/
inductive Task.WindsUp (rules : Rules σ) (c : Case) :
    Task → List (Nat × Attempt) → Result → Prop where
  /-- A result stays what it is. -/
  | kept {task : Task} {result : Result} (h : task.result? = some result) :
    WindsUp rules c task [] result
  /-- The next look at the cancellation is the last. -/
  | stopped {task : Task} (h : task.Looks) : WindsUp rules c task [] (.skipped c)
  | passed {retries : Nat} {world : σ} (h : rules.bench.attempt world c retries = .passed) :
    WindsUp rules c (.trying retries) [(retries, .passed)] ⟨c.displayName, .passed retries⟩
  /-- The attempt was the last one that is permitted. -/
  | exhausted {retries : Nat} {cause : Failure} {world : σ}
    (h : rules.bench.attempt world c retries = .failed cause)
    (hlast : rules.attempts ≤ retries + 1) :
    WindsUp rules c (.trying retries) [(retries, .failed cause)]
      ⟨c.displayName, .exhausted retries cause⟩
  /-- There would have been another attempt. -/
  | cut {retries : Nat} {cause : Failure} {world : σ}
    (h : rules.bench.attempt world c retries = .failed cause)
    (hmore : retries + 1 < rules.attempts) :
    WindsUp rules c (.trying retries) [(retries, .failed cause)] (.skipped c)
  | crashed {retries : Nat} {message : String} {world : σ}
    (h : rules.bench.attempt world c retries = .crashed message) :
    WindsUp rules c (.trying retries) [(retries, .crashed message)] (.ofDeath c message)
  /-- The task died when it was about to tell of a retry. -/
  | died {retries : Nat} {cause : Failure} {message : String} {world : σ}
    (h : rules.bench.attempt world c retries = .failed cause) (hmore : retries + 1 < rules.attempts)
    (hlistener : rules.bench.retrying world c (retries + 1) = .error message) :
    WindsUp rules c (.trying retries) [(retries, .failed cause)] (.ofDeath c message)
  /-- The task died when it was about to tell of its start. -/
  | undone {message : String} {world : σ} (h : rules.bench.started world c = .error message) :
    WindsUp rules c .entered [] (.ofDeath c message)
  | invalid {cause : Case.Error} (h : c.validate = .error cause) :
    WindsUp rules c .entered [] ⟨c.displayName, .aborted (.invalid cause)⟩
  | started {made : List (Nat × Attempt)} {result : Result} (hvalid : c.validate = .ok ())
    (h : WindsUp rules c (.trying 0) made result) : WindsUp rules c .entered made result

namespace Task

variable {rules : Rules σ} {c : Case} {task : Task} {made : List (Nat × Attempt)} {result : Result}

theorem WindsUp.of_result (h : WindsUp rules c task made result) {old : Result}
    (hold : task.result? = some old) : made = [] ∧ result = old := by
  cases h with
  | kept h => exact ⟨rfl, Option.some.inj (h.symm.trans hold)⟩
  | stopped h => cases task <;> simp_all [Looks, result?]
  | _ => cases hold

/-- A step in a cancelled run brings a case closer to the end that it comes to. -/
theorem WindsUp.of_advance {world : σ}
    (h : WindsUp rules c (task.advance rules.bench rules.attempts c true world).task made result) :
    WindsUp rules c task ((task.attempt? rules.bench c world).toList ++ made) result := by
  cases task with
  | waiting =>
    obtain ⟨rfl, rfl⟩ := h.of_result rfl
    exact .stopped trivial
  | pausing retry =>
    obtain ⟨rfl, rfl⟩ := h.of_result rfl
    exact .stopped trivial
  | entered =>
    simp only [advance, start] at h
    split at h
    · rename_i message hstarted
      obtain ⟨rfl, rfl⟩ := h.of_result rfl
      exact .undone hstarted
    · split at h
      · rename_i cause hinvalid
        obtain ⟨rfl, rfl⟩ := h.of_result rfl
        exact .invalid hinvalid
      · rename_i hvalid
        exact .started hvalid h
  | trying retries =>
    simp only [advance] at h
    simp only [attempt?]
    split at h
    · rename_i hattempt
      obtain ⟨rfl, rfl⟩ := h.of_result rfl
      rw [hattempt]
      exact .passed hattempt
    · rename_i cause hattempt
      rw [hattempt]
      unfold fail at h
      split at h
      · rename_i hlast
        obtain ⟨rfl, rfl⟩ := h.of_result rfl
        exact .exhausted hattempt hlast
      · rename_i hmore
        dsimp only at h
        split at h
        · rename_i message hlistener
          obtain ⟨rfl, rfl⟩ := h.of_result rfl
          exact .died hattempt (by omega) hlistener
        · -- the pause ends with a look at the cancellation
          cases h with
          | kept h => cases h
          | stopped h => exact .cut hattempt (by omega)
    · rename_i message hattempt
      obtain ⟨rfl, rfl⟩ := h.of_result rfl
      rw [hattempt]
      exact .crashed hattempt
  | settled r =>
    obtain ⟨rfl, rfl⟩ := h.of_result rfl
    exact .kept rfl
  | ended r crashed =>
    obtain ⟨rfl, rfl⟩ := h.of_result rfl
    exact .kept rfl
  | collected r =>
    obtain ⟨rfl, rfl⟩ := h.of_result rfl
    exact .kept rfl

theorem WindsUp.length_le_one (h : WindsUp rules c task made result) :
    made.length ≤ 1 ∧ (task.Looks → made = []) := by
  induction h with
  | kept h => exact ⟨Nat.zero_le _, fun _ => rfl⟩
  | stopped h => exact ⟨Nat.zero_le _, fun _ => rfl⟩
  | started hvalid h ih => exact ⟨ih.1, by rintro ⟨⟩⟩
  | undone | invalid => exact ⟨Nat.zero_le _, fun _ => rfl⟩
  | passed | exhausted | cut | crashed | died => exact ⟨Nat.le_refl _, by rintro ⟨⟩⟩

end Task

namespace Round

variable {rules : Rules σ} {r : Round σ} {i : Nat} {c : Case} {task : Task}

theorem cancelled_move (h : r.cancelled = true) (m : Move) : (r.move rules m).cancelled = true := by
  cases m with
  | advance k =>
    simp only [move, advance]
    split <;> simp [h]
  | collect k =>
    simp only [move, collect]
    split <;> simp [h]

/-- A task that stands before a look at the cancellation stays there, or its case is skipped. -/
theorem stays_of_shift {looking task' : Task} {attempt : Option (Nat × Attempt)}
    (hcancelled : r.cancelled = true) (hlooks : looking.Looks)
    (h : task = looking ∨ task.result? = some (.skipped c))
    (hshift : Shift rules r c task attempt task') :
    task' = looking ∨ task'.result? = some (.skipped c) := by
  rcases h with rfl | hskipped
  · cases hshift with
    | own =>
      rw [hcancelled]
      cases task with
      | waiting | pausing => exact .inr rfl
      | _ => cases hlooks
    | collected hended =>
      subst hended
      cases hlooks
    | none => exact .inl rfl
  · cases hshift with
    | own => exact .inr (Task.advance_result hskipped)
    | collected hended =>
      subst hended
      exact .inr hskipped
    | none => exact .inr hskipped

/-- **No case gets past another look at the cancellation.** -/
theorem stays_play {looking task' : Task} (hcancelled : r.cancelled = true)
    (hi : r.tasks[i]? = some (c, task)) (hlooks : looking.Looks)
    (h : task = looking ∨ task.result? = some (.skipped c)) (moves : List Move)
    (hi' : (r.play rules moves).tasks[i]? = some (c, task')) :
    task' = looking ∨ task'.result? = some (.skipped c) := by
  induction moves generalizing r task with
  | nil =>
    obtain ⟨-, rfl⟩ := Prod.mk.inj (Option.some.inj (hi.symm.trans hi'))
    exact h
  | cons m moves ih =>
    obtain ⟨_, next, -, hnext, hshift⟩ := exists_shift rules hi m
    exact ih (cancelled_move hcancelled m) hnext (stays_of_shift hcancelled hlooks h hshift) hi'

/-- **Every case winds up.** -/
theorem windsUp_play {task' : Task} {result : Result} (hcancelled : r.cancelled = true)
    (hi : r.tasks[i]? = some (c, task)) (moves : List Move)
    (hi' : (r.play rules moves).tasks[i]? = some (c, task'))
    (hresult : task'.result? = some result) :
    Task.WindsUp rules c task (attemptsAt rules i r moves) result := by
  induction moves generalizing r task with
  | nil =>
    obtain ⟨-, rfl⟩ := Prod.mk.inj (Option.some.inj (hi.symm.trans hi'))
    exact .kept hresult
  | cons m moves ih =>
    obtain ⟨attempt, next, hattempt, hnext, hshift⟩ := exists_shift rules hi m
    have hrest := ih (cancelled_move hcancelled m) hnext hi'
    rw [attemptsAt, hattempt]
    cases hshift with
    | own =>
      rw [hcancelled] at hrest
      exact hrest.of_advance
    | collected hended =>
      subst hended
      obtain ⟨hnone, rfl⟩ := hrest.of_result rfl
      rw [hnone]
      exact .kept rfl
    | none => exact hrest

/-! ## What cancels a run -/

/-- Every task that died has failed. -/
def DeadFailed (r : Round σ) : Prop :=
  ∀ t ∈ r.tasks, ∀ result, t.2 = .ended result true → result.isFailure = true

/-- There is a result that is a failure. -/
def HasFailure (r : Round σ) : Prop :=
  ∃ t ∈ r.tasks, ∃ result, t.2.result? = some result ∧ result.isFailure = true

theorem deadFailed_initial (cases : List Case) (world : σ) : (initial cases world).DeadFailed := by
  intro t ht
  obtain ⟨c, -, rfl⟩ := List.mem_map.mp ht
  rintro result ⟨⟩

theorem DeadFailed.move (h : r.DeadFailed) (m : Move) : (r.move rules m).DeadFailed := by
  intro t ht
  obtain ⟨i, hi⟩ := List.mem_iff_getElem?.mp ht
  have hlt := (List.getElem?_eq_some_iff.mp hi).1
  rw [length_tasks_move] at hlt
  have hold : r.tasks[i]? = some (r.tasks[i].1, r.tasks[i].2) := List.getElem?_eq_getElem hlt
  obtain ⟨_, task', -, hi', hshift⟩ := exists_shift rules hold m
  obtain rfl : t = (r.tasks[i].1, task') := Option.some.inj (hi.symm.trans hi')
  have hdead := h _ (List.mem_of_getElem? hold)
  cases hshift with
  | own => exact Task.advance_crashed hdead
  | collected hended => rintro result ⟨⟩
  | none => exact hdead

/-- A move cancels a run only after a failure. -/
theorem hasFailure_of_move {m : Move} (h : r.DeadFailed) (hbefore : r.cancelled = false)
    (hafter : (r.move rules m).cancelled = true) : rules.failFast = true ∧ r.HasFailure := by
  cases m with
  | advance k =>
    simp only [Round.move, advance] at hafter
    split at hafter
    · simp [hbefore] at hafter
    · rename_i c task hk
      simp only [hbefore, Bool.false_or, Bool.and_eq_true] at hafter
      obtain ⟨hfast, htells⟩ := hafter
      refine ⟨hfast, (c, task), List.mem_of_getElem? hk, ?_⟩
      cases task with
      | settled result => exact ⟨result, rfl, htells⟩
      | _ => cases htells
  | collect k =>
    simp only [Round.move, collect] at hafter
    split at hafter
    · rename_i c result crashed hk
      simp only [hbefore, Bool.false_or, Bool.and_eq_true] at hafter
      obtain ⟨hfast, rfl⟩ := hafter
      have hmem := List.mem_of_getElem? hk
      exact ⟨hfast, _, hmem, result, rfl, h _ hmem result rfl⟩
    · simp [hbefore] at hafter

/-- **A run that is cancelled was cancelled after a failure**, and not before it. -/
theorem exists_failure_before {moves : List Move} (h : r.DeadFailed) (hbefore : r.cancelled = false)
    (hafter : (r.play rules moves).cancelled = true) :
    rules.failFast = true ∧ ∃ front m back, moves = front ++ m :: back ∧
      (r.play rules front).cancelled = false ∧ (r.play rules front).HasFailure := by
  induction moves generalizing r with
  | nil => simp [play, hbefore] at hafter
  | cons m moves ih =>
    cases hmove : (r.move rules m).cancelled with
    | true =>
      obtain ⟨hfast, hfailure⟩ := hasFailure_of_move h hbefore hmove
      exact ⟨hfast, [], m, moves, rfl, hbefore, hfailure⟩
    | false =>
      obtain ⟨hfast, front, m', back, rfl, hclear, hfailure⟩ := ih (h.move m) hmove hafter
      exact ⟨hfast, m :: front, m', back, rfl, hclear, hfailure⟩

end Round

/-! ## Courses of a run -/

section Courses

variable (rules : Rules σ) (cases : List Case) (world : σ)

/-- Where a run stands after a course. -/
def Round.after (moves : List Move) : Round σ :=
  (initial cases world).play rules moves

/-- The attempts at the case at a position in a course of a run. -/
def Round.attemptsAfter (i : Nat) (moves : List Move) : List (Nat × Attempt) :=
  attemptsAt rules i (initial cases world) moves

variable {rules cases world}

theorem Round.after_append (moves moves' : List Move) :
    after rules cases world (moves ++ moves') = (after rules cases world moves).play rules moves' :=
  play_append rules (initial cases world) moves moves'

theorem Round.exists_isOver (rules : Rules σ) (cases : List Case) (world : σ) (moves : List Move) :
    ∃ more, (after rules cases world (moves ++ more)).isOver = true := by
  obtain ⟨more, hmore⟩ := reaches_finish rules (after rules cases world moves)
  refine ⟨more, ?_⟩
  rw [after_append, hmore]
  exact isOver_finish _ _

/-- The task at a position of a run that is over has the result that the run reports. -/
theorem Round.results_getElem {r : Round σ} {i : Nat} {c : Case} {task : Task}
    (hover : r.isOver = true) (hi : r.tasks[i]? = some (c, task)) :
    ∃ result, task.result? = some result ∧ r.results[i]? = some result := by
  obtain ⟨result, rfl, -⟩ := results_of_isOver hover (c, task) (List.mem_of_getElem? hi)
  exact ⟨result, rfl, by simp [results, hi]⟩

/-- **No case has more than one attempt in a run that is cancelled**, though the run need not be
over: it could be brought to its end, and no attempt is lost on the way. -/
theorem Round.length_attempts_le_one {moves : List Move} {i : Nat} {c : Case} {task : Task}
    (h : (after rules cases world moves).cancelled = true)
    (hi : (after rules cases world moves).tasks[i]? = some (c, task)) (more : List Move) :
    (attemptsAt rules i (after rules cases world moves) more).length ≤ 1 ∧
      (task.Looks → attemptsAt rules i (after rules cases world moves) more = []) := by
  obtain ⟨last, hover⟩ := exists_isOver rules cases world (moves ++ more)
  rw [List.append_assoc, after_append] at hover
  obtain ⟨made, hi', -⟩ := exists_counted rules hi (counted_of_initial hi) (more ++ last)
  obtain ⟨result, hresult, -⟩ := results_getElem hover hi'
  have hend := (windsUp_play h hi (more ++ last) hi' hresult).length_le_one
  rw [attemptsAt_append, List.length_append] at hend
  exact ⟨by omega, fun hlooks => (List.append_eq_nil_iff.mp (hend.2 hlooks)).1⟩

end Courses

/-- **A cancelled run winds up.** It was cancelled after a failure, if it is to stop at its first
one. Whatever moves follow, the run can still be brought to its end; each case has at most one more
attempt, and none if it stands before a look at the cancellation, where it stays until it is
skipped; and each result is one that `Task.WindsUp` allows. -/
theorem cancelled_windsUp (rules : Rules σ) (cases : List Case) (world : σ) (moves : List Move)
    (h : (Round.after rules cases world moves).cancelled = true) :
    (rules.failFast = true ∧ ∃ front m back, moves = front ++ m :: back ∧
      (Round.after rules cases world front).cancelled = false ∧
      (Round.after rules cases world front).HasFailure) ∧
    ∀ more,
      (∃ last, (Round.after rules cases world (moves ++ more ++ last)).isOver = true) ∧
      ∀ (i : Nat) (c : Case) (task : Task),
        (Round.after rules cases world moves).tasks[i]? = some (c, task) →
        (task = .waiting → Round.attemptsAfter rules cases world i moves = []) ∧
        ∃ made task',
          Round.attemptsAfter rules cases world i (moves ++ more) =
            Round.attemptsAfter rules cases world i moves ++ made ∧
          (Round.after rules cases world (moves ++ more)).tasks[i]? = some (c, task') ∧
          task'.Counted (Round.attemptsAfter rules cases world i (moves ++ more)) ∧
          made.length ≤ 1 ∧
          (task.Looks → made = [] ∧ (task' = task ∨ task'.result? = some (.skipped c))) ∧
          (∀ result, task'.result? = some result → task.WindsUp rules c made result) ∧
          ((Round.after rules cases world (moves ++ more)).isOver = true →
            ∃ result, (Round.after rules cases world (moves ++ more)).results[i]? = some result ∧
              task.WindsUp rules c made result) := by
  refine ⟨Round.exists_failure_before (Round.deadFailed_initial cases world) rfl h,
    fun more => ⟨Round.exists_isOver rules cases world _, fun i c task hi => ⟨?_, ?_⟩⟩⟩
  · rintro rfl
    exact List.length_eq_zero_iff.mp ((Round.counted_of_initial hi).sofar 0 rfl)
  · obtain ⟨task', hi', hcounted⟩ :=
      Round.exists_counted rules hi (Round.counted_of_initial hi) more
    obtain ⟨hone, hnone⟩ := Round.length_attempts_le_one h hi more
    have happend : Round.attemptsAfter rules cases world i (moves ++ more) =
        Round.attemptsAfter rules cases world i moves ++
          Round.attemptsAt rules i (Round.after rules cases world moves) more :=
      Round.attemptsAt_append _ _ _
    have hwinds : ∀ result, task'.result? = some result → task.WindsUp rules c
        (Round.attemptsAt rules i (Round.after rules cases world moves) more) result :=
      fun result => Round.windsUp_play h hi more hi'
    rw [happend, Round.after_append]
    refine ⟨_, task', rfl, hi', hcounted, hone, fun hlooks => ⟨hnone hlooks, ?_⟩, hwinds,
      fun hover => ?_⟩
    · exact Round.stays_play h hi hlooks (.inl rfl) more hi'
    · obtain ⟨result, hresult, hi''⟩ := Round.results_getElem hover hi'
      exact ⟨result, hi'', hwinds result hresult⟩

/-- Two attempts at each case, and a stop at the first failure. -/
def Rules.hasty : Rules Unit :=
  { bench := .shaky, attempts := 2, failFast := true }

/-- The course in which a case fails while the first attempt at another one is about to start. -/
def Round.overtaking : List Move :=
  List.replicate 5 (.advance 0) ++ List.replicate 2 (.advance 1) ++ [.advance 0]

theorem cancelled_windsUp_overtaking :
    (Round.after .hasty
        [{ name := "broken", expected := "e", actual := "a" },
          { name := "slow", expected := "e", actual := "a" }] () Round.overtaking).cancelled = true ∧
    ∃ made,
      Round.attemptsAfter .hasty
          [{ name := "broken", expected := "e", actual := "a" },
            { name := "slow", expected := "e", actual := "a" }] () 1
          (Round.overtaking ++ [.advance 1, .advance 1]) = [] ++ made ∧
      Task.WindsUp .hasty { name := "slow", expected := "e", actual := "a" } (.trying 0) made
        (.skipped { name := "slow", expected := "e", actual := "a" }) := by
  refine ⟨by decide +kernel, ?_⟩
  obtain ⟨-, hall⟩ := cancelled_windsUp .hasty
    [{ name := "broken", expected := "e", actual := "a" },
      { name := "slow", expected := "e", actual := "a" }] () Round.overtaking (by decide +kernel)
  obtain ⟨-, hcase⟩ := hall [.advance 1, .advance 1]
  obtain ⟨-, made, task', hmade, htask', -, -, -, hwinds, -⟩ :=
    hcase 1 { name := "slow", expected := "e", actual := "a" } (.trying 0) (by decide +kernel)
  have hskipped : (Round.after .hasty
      [{ name := "broken", expected := "e", actual := "a" },
        { name := "slow", expected := "e", actual := "a" }] ()
      (Round.overtaking ++ [.advance 1, .advance 1])).tasks[1]? =
      some ({ name := "slow", expected := "e", actual := "a" },
        .settled (.skipped { name := "slow", expected := "e", actual := "a" })) := by
    decide +kernel
  obtain ⟨-, rfl⟩ := Prod.mk.inj (Option.some.inj (hskipped.symm.trans htask'))
  exact ⟨made, hmade, hwinds _ rfl⟩

end Assay.Run
