import Assay.Proofs.Run.Course
import Assay.Run.Basic
import Mathlib.Data.List.Forall2

/-!
# Runs come to the same in every order

If attempts depend on nothing but the case and its number of retries, then a case that is not
skipped comes to what it comes to alone, in whatever order the tasks of a concurrent run make their
steps and whenever the run is cancelled. `Task.Sound` and `Round.Sound` are what every move keeps
to, and `Faithful` is what they leave of a run that is over.
-/

namespace Assay.Run

variable {σ : Type}

/-! ## Tallies -/

namespace Tally

theorem foldl_add (rs : List Result) (t : Tally) :
    rs.foldl add t =
      ⟨t.passed + rs.countP (·.isPassed), t.failed + rs.countP (·.isFailure),
        t.skipped + rs.countP (·.isSkipped)⟩ := by
  induction rs generalizing t with
  | nil => rfl
  | cons r rs ih =>
    rw [List.foldl_cons, ih]
    obtain ⟨shown, verdict⟩ := r
    cases verdict <;>
      simp [add, Result.isPassed, Result.isFailure, Result.isSkipped,
        Verdict.failure?] <;> omega

/-- A tally counts the results of each kind. -/
theorem ofResults_eq (rs : List Result) :
    ofResults rs =
      ⟨rs.countP (·.isPassed), rs.countP (·.isFailure), rs.countP (·.isSkipped)⟩ := by
  simp [ofResults, foldl_add]

end Tally

namespace Result

@[simp]
theorem isSkipped_skipped (c : Case) : (skipped c).isSkipped = true := rfl

@[simp]
theorem isFailure_skipped (c : Case) : (skipped c).isFailure = false := rfl

theorem isSkipped_of_isFailure {r : Result} (h : r.isFailure = true) : r.isSkipped = false := by
  obtain ⟨shown, verdict⟩ := r
  cases verdict <;> simp_all [isFailure, isSkipped, Verdict.failure?]

/-- A result that is neither a failure nor skipped is a pass. -/
theorem isPassed_iff (r : Result) :
    r.isPassed = true ↔ r.isFailure = false ∧ r.isSkipped = false := by
  obtain ⟨shown, verdict⟩ := r
  cases verdict <;> simp [isPassed, isFailure, isSkipped, Verdict.failure?]

end Result

theorem Report.outcome_ok_iff (report : Report) :
    (∃ t, report.outcome = .ok t) ↔ ∀ r ∈ report.results, r.isFailure = false := by
  have hcount : report.results.countP (·.isFailure) = 0 ↔
      ∀ r ∈ report.results, r.isFailure = false := by
    simp [List.countP_eq_zero]
  rw [← hcount]
  simp only [Report.outcome, Tally.ofResults_eq]
  split <;> simp_all

theorem Report.eq_of_outcome {report : Report} {t : Tally} (h : report.outcome = .ok t) :
    t = Tally.ofResults report.results := by
  simp only [Report.outcome] at h
  split at h
  · exact (Except.ok.inj h).symm
  · cases h

/-! ## Attempts that depend on the case alone -/

/-- Neither what an attempt comes to nor whether a listener dies depends on what happened
before. -/
structure Bench.Steady (bench : Bench σ) : Prop where
  attempt : ∀ world world' c retries,
    bench.attempt world c retries = bench.attempt world' c retries
  started : ∀ world world' c,
    (bench.started world c).map (fun _ => ()) = (bench.started world' c).map (fun _ => ())
  retrying : ∀ world world' c retry,
    (bench.retrying world c retry).map (fun _ => ()) =
      (bench.retrying world' c retry).map (fun _ => ())

namespace Task

variable {bench : Bench σ} {attempts : Nat} {c : Case} {task : Task}

theorem start_congr (h : bench.Steady) (world world' : σ) :
    (start bench c world).task = (start bench c world').task := by
  have hs := h.started world world' c
  unfold start
  cases h₁ : bench.started world c <;> cases h₂ : bench.started world' c <;>
    simp_all [Except.map]
  split <;> rfl

theorem fail_congr (h : bench.Steady) (retries : Nat) (cause : Failure) (world world' : σ) :
    (fail bench attempts c retries cause world).task =
      (fail bench attempts c retries cause world').task := by
  have hs := h.retrying world world' c (retries + 1)
  unfold fail
  split
  · rfl
  · cases h₁ : bench.retrying world c (retries + 1) <;>
      cases h₂ : bench.retrying world' c (retries + 1) <;> simp_all [Except.map]

/-- Where a step leads does not depend on the world. -/
theorem advance_congr (h : bench.Steady) (cancelled : Bool) (world world' : σ) :
    (advance bench attempts c cancelled task world).task =
      (advance bench attempts c cancelled task world').task := by
  cases task with
  | waiting => rfl
  | entered => exact start_congr h world world'
  | trying retries =>
    simp only [advance, h.attempt world world' c retries]
    split
    · rfl
    · exact fail_congr h retries _ world world'
    · rfl
  | pausing retry => rfl
  | settled r => rfl
  | ended r crashed => rfl
  | collected r => rfl

theorem settle_of_result {result : Result} (h : task.result? = some result) (world : σ) :
    (settle bench attempts c task world).result = result := by
  rw [settle]
  split <;> simp_all

theorem settle_of_none (h : task.result? = none) (world : σ) :
    (settle bench attempts c task world).result =
      (settle bench attempts c (advance bench attempts c false task world).task
        (advance bench attempts c false task world).world).result := by
  rw [settle]
  split <;> simp_all

/-- What a task settles on does not depend on the world. -/
theorem settle_congr (h : bench.Steady) (world world' : σ) :
    (settle bench attempts c task world).result =
      (settle bench attempts c task world').result := by
  induction task, world using settle.induct bench attempts c generalizing world' with
  | case1 task world result hresult =>
    rw [settle_of_result hresult, settle_of_result hresult]
  | case2 task world hnone next ih =>
    rw [settle_of_none hnone world, settle_of_none hnone world',
      advance_congr h false world' world]
    exact ih _

/-- A step that is not cut short does not change what a task settles on. -/
theorem settle_advance (h : bench.Steady) (world world' : σ) :
    (settle bench attempts c (advance bench attempts c false task world).task world').result =
      (settle bench attempts c task world').result := by
  cases hresult : task.result? with
  | some result => rw [settle_of_result (advance_result hresult), settle_of_result hresult]
  | none =>
    rw [settle_of_none hresult world', advance_congr h false world world']
    exact settle_congr h _ _

/-! ## Results of a case by itself -/

/-- What a step that is not cut short may lead to: no result yet, or one of two kinds. -/
theorem advance_outcome (bench : Bench σ) (attempts : Nat) (c : Case) (world : σ)
    (h : task.result? = none) :
    (advance bench attempts c false task world).task.result? = none ∨
    (∃ message, (advance bench attempts c false task world).task = dead c message) ∨
    ∃ v, v ≠ .skipped ∧ (advance bench attempts c false task world).task = done c v := by
  cases task with
  | waiting => exact .inl rfl
  | entered =>
    simp only [advance, start]
    split
    · exact .inr (.inl ⟨_, rfl⟩)
    · split
      · exact .inr (.inr ⟨_, by simp, rfl⟩)
      · exact .inl rfl
  | trying retries =>
    simp only [advance, fail]
    split
    · exact .inr (.inr ⟨_, by simp, rfl⟩)
    · split
      · exact .inr (.inr ⟨_, by simp, rfl⟩)
      · split
        · exact .inr (.inl ⟨_, rfl⟩)
        · exact .inl rfl
    · exact .inr (.inl ⟨_, rfl⟩)
  | pausing retry => exact .inl rfl
  | settled r => cases h
  | ended r crashed => cases h
  | collected r => cases h

/-- If a task has a result, then it carries the name of its case and is no skipped one. -/
def Own (c : Case) (task : Task) : Prop :=
  ∀ result, task.result? = some result →
    result.shown = c.displayName ∧ result.isSkipped = false

/-- Only a cancelled run skips a case. -/
theorem Own.advance (h : Own c task) (world : σ) :
    Own c (advance bench attempts c false task world).task := by
  cases hresult : task.result? with
  | some old =>
    -- a result stays as it is
    intro result hr
    rw [advance_result hresult] at hr
    exact h result (hresult.trans hr)
  | none =>
    rcases advance_outcome bench attempts c world hresult with hnone | ⟨message, hdead⟩ |
      ⟨v, hv, hdone⟩
    · simp [Own, hnone]
    · rw [hdead]
      rintro result ⟨⟩
      exact ⟨rfl, rfl⟩
    · rw [hdone]
      rintro result ⟨⟩
      refine ⟨rfl, ?_⟩
      cases v <;> simp_all [Result.isSkipped]

theorem Own.settle (h : Own c task) (world : σ) :
    (settle bench attempts c task world).result.shown = c.displayName ∧
    (settle bench attempts c task world).result.isSkipped = false := by
  induction task, world using settle.induct bench attempts c with
  | case1 task world result hresult =>
    rw [settle_of_result hresult]
    exact h result hresult
  | case2 task world hnone next ih =>
    rw [settle_of_none hnone world]
    exact ih (h.advance world)

/-- What becomes of a case by itself carries its name, and the case is not skipped. -/
theorem alone_own (bench : Bench σ) (attempts : Nat) (c : Case) (world : σ) :
    (alone bench attempts c world).result.shown = c.displayName ∧
    (alone bench attempts c world).result.isSkipped = false :=
  Own.settle (by rintro result ⟨⟩) world

/-! ## What every step of a task keeps to -/

/-- A cancelled run cuts a task short, or makes no difference to it. -/
theorem advance_cases (bench : Bench σ) (attempts : Nat) (c : Case) (cancelled : Bool)
    (task : Task) (world : σ) :
    (advance bench attempts c cancelled task world).task =
        (advance bench attempts c false task world).task ∨
      cancelled = true ∧
        (advance bench attempts c cancelled task world).task = done c .skipped := by
  cases cancelled with
  | false => exact .inl rfl
  | true =>
    cases task with
    | waiting => exact .inr ⟨rfl, rfl⟩
    | pausing retry => exact .inr ⟨rfl, rfl⟩
    | entered => exact .inl rfl
    | trying retries => exact .inl rfl
    | settled r => exact .inl rfl
    | ended r crashed => exact .inl rfl
    | collected r => exact .inl rfl

/-- **The invariant of a task**: it is bound for what its case comes to alone, or was skipped in a
run that is cancelled. -/
structure Sound (bench : Bench σ) (attempts : Nat) (world : σ) (cancelled : Bool) (c : Case)
    (task : Task) : Prop where
  bound : (settle bench attempts c task world).result = (alone bench attempts c world).result ∨
    task.result? = some (.skipped c)
  cancelled : task.result? = some (.skipped c) → cancelled = true
  /-- A task that died has failed. -/
  crashed : ∀ result, task = .ended result true → result.isFailure = true

theorem sound_waiting (bench : Bench σ) (attempts : Nat) (world : σ) (c : Case) :
    Sound bench attempts world false c .waiting where
  bound := .inl rfl
  cancelled := by rintro ⟨⟩
  crashed := by rintro result ⟨⟩

theorem Sound.mono {world : σ} {cancelled cancelled' : Bool}
    (h : Sound bench attempts world cancelled c task)
    (hle : cancelled = true → cancelled' = true) : Sound bench attempts world cancelled' c task :=
  { h with cancelled := fun hs => hle (h.cancelled hs) }

/-- A task dies with a failure. -/
theorem advance_crashed {cancelled : Bool} {world : σ}
    (h : ∀ result, task = .ended result true → result.isFailure = true) (result : Result)
    (hnext : (advance bench attempts c cancelled task world).task = .ended result true) :
    result.isFailure = true := by
  rcases advance_cases bench attempts c cancelled task world with hsame | ⟨_, hcut⟩
  · rw [hsame] at hnext
    cases hold : task.result? with
    | none =>
      rcases advance_outcome bench attempts c world hold with hnone | ⟨message, hdead⟩ |
        ⟨v, _, hdone⟩
      · rw [hnext] at hnone
        cases hnone
      · rw [hdead] at hnext
        cases hnext
        rfl
      · rw [hdone] at hnext
        cases hnext
    | some old =>
      -- of the tasks with a result only one that died before is a dead one after
      cases task with
      | ended r crashed => exact h result hnext
      | settled r => cases hnext
      | collected r => cases hnext
      | waiting => cases hold
      | entered => cases hold
      | trying retries => cases hold
      | pausing retry => cases hold
  · rw [hcut] at hnext
    cases hnext

/-- Every step keeps to the invariant. -/
theorem Sound.advance {world : σ} {cancelled : Bool} (hsteady : bench.Steady)
    (h : Sound bench attempts world cancelled c task) (world' : σ) :
    Sound bench attempts world cancelled c
      (advance bench attempts c cancelled task world').task := by
  rcases advance_cases bench attempts c cancelled task world' with hnext | ⟨hcancelled, hnext⟩
  · refine ⟨?_, fun hs => ?_, advance_crashed h.crashed⟩
    · rw [hnext]
      rcases h.bound with hbound | hskipped
      · exact .inl ((settle_advance hsteady world' world).trans hbound)
      · exact .inr (advance_result hskipped)
    · -- a step that is not cut short skips no case, so the task was skipped before
      rw [hnext] at hs
      cases hresult : task.result? with
      | some result =>
        rw [advance_result hresult] at hs
        exact h.cancelled (hresult.trans hs)
      | none =>
        have hown : Own c task := by simp [Own, hresult]
        exact absurd (hown.advance world' _ hs).2 (by simp)
  · refine ⟨.inr ?_, fun _ => hcancelled, advance_crashed h.crashed⟩
    rw [hnext]
    rfl

end Task

/-! ## What every move of a run keeps to -/

namespace Round

variable {rules : Rules σ} {cases : List Case} {world : σ} {r : Round σ}

/-- **The invariant of a run**: its tasks are those of its cases, each keeps to its own
invariant, and only a failure cancels a run, if that is asked for. -/
structure Sound (rules : Rules σ) (cases : List Case) (world : σ) (r : Round σ) : Prop where
  cases_eq : r.tasks.map Prod.fst = cases
  task : ∀ t ∈ r.tasks, Task.Sound rules.bench rules.attempts world r.cancelled t.1 t.2
  blamed : r.cancelled = true → rules.failFast = true ∧
    ∃ t ∈ r.tasks, ∃ result, t.2.result? = some result ∧ result.isFailure = true

theorem sound_initial (rules : Rules σ) (cases : List Case) (world : σ) :
    Sound rules cases world (initial cases world) where
  cases_eq := by simp [initial, Function.comp_def]
  task := by
    intro t ht
    obtain ⟨c, _, rfl⟩ := List.mem_map.mp ht
    exact Task.sound_waiting rules.bench rules.attempts world c
  blamed := by rintro ⟨⟩

/-- One task goes on, and the run is cancelled on its account at most. -/
theorem Sound.set {r' : Round σ} {i : Nat} {c : Case} {task task' : Task}
    (h : Sound rules cases world r) (hi : r.tasks[i]? = some (c, task))
    (htasks : r'.tasks = r.tasks.set i (c, task'))
    (hsound : Task.Sound rules.bench rules.attempts world r.cancelled c task')
    (hkeeps : ∀ result, task.result? = some result → task'.result? = some result)
    (hle : r.cancelled = true → r'.cancelled = true)
    (hblamed : r'.cancelled = true → r.cancelled = true ∨
      rules.failFast = true ∧
        ∃ result, task'.result? = some result ∧ result.isFailure = true) :
    Sound rules cases world r' := by
  have hlt := (List.getElem?_eq_some_iff.mp hi).1
  have hmem : (c, task') ∈ r'.tasks := by
    rw [htasks]
    exact List.mem_set hlt _
  refine ⟨?_, fun t ht => ?_, fun hc => ?_⟩
  · have hcase : (r.tasks.map Prod.fst)[i]? = some c := by simp [hi]
    obtain ⟨hlt', hc⟩ := List.getElem?_eq_some_iff.mp hcase
    rw [htasks, List.map_set, ← h.cases_eq]
    change (r.tasks.map Prod.fst).set i c = _
    rw [← hc, List.set_getElem_self]
  · rw [htasks] at ht
    rcases List.mem_or_eq_of_mem_set ht with hold | rfl
    · exact (h.task t hold).mono hle
    · exact hsound.mono hle
  · rcases hblamed hc with hold | ⟨hfast, hfailed⟩
    · obtain ⟨hfast, t, ht, result, hresult, hfailed⟩ := h.blamed hold
      refine ⟨hfast, ?_⟩
      -- the failing task is the one that goes on, or it is as before
      obtain ⟨k, hk⟩ := List.mem_iff_getElem?.mp ht
      by_cases hik : i = k
      · subst hik
        obtain rfl : (c, task) = t := Option.some.inj (hi.symm.trans hk)
        exact ⟨(c, task'), hmem, result, hkeeps result hresult, hfailed⟩
      · refine ⟨t, ?_, result, hresult, hfailed⟩
        rw [htasks]
        exact List.mem_of_getElem? ((List.getElem?_set_ne hik).trans hk)
    · exact ⟨hfast, (c, task'), hmem, hfailed⟩

theorem Sound.advance (hsteady : rules.bench.Steady) (h : Sound rules cases world r) (i : Nat) :
    Sound rules cases world (r.advance rules i) := by
  cases hi : r.tasks[i]? with
  | none => simpa [Round.advance, hi] using h
  | some t =>
    obtain ⟨c, task⟩ := t
    have hmem := List.mem_of_getElem? hi
    have hnext := (h.task _ hmem).advance hsteady r.world
    rw [Round.advance, hi]
    refine h.set hi rfl hnext (fun result hr => Task.advance_result hr) ?_ ?_
    · simp +contextual
    · intro hc
      simp only [Bool.or_eq_true, Bool.and_eq_true] at hc
      rcases hc with hold | ⟨hfast, htells⟩
      · exact .inl hold
      · refine .inr ⟨hfast, ?_⟩
        cases task <;> simp_all [Task.tellsFailure, Task.advance, Task.result?]

theorem Sound.collect (h : Sound rules cases world r) (i : Nat) :
    Sound rules cases world (r.collect rules i) := by
  unfold Round.collect
  split
  · rename_i c result crashed hi
    have hold := h.task _ (List.mem_of_getElem? hi)
    refine h.set hi rfl ⟨?_, hold.cancelled, by rintro _ ⟨⟩⟩ (fun _ hr => hr) ?_ ?_
    · have hbound := hold.bound
      rw [Task.settle_of_result rfl] at hbound ⊢
      exact hbound
    · simp +contextual
    · intro hc
      simp only [Bool.or_eq_true, Bool.and_eq_true] at hc
      rcases hc with hc | ⟨hfast, rfl⟩
      · exact .inl hc
      · exact .inr ⟨hfast, result, rfl, hold.crashed result rfl⟩
  · exact h

/-- **Every course keeps to the invariant.** -/
theorem Sound.play (hsteady : rules.bench.Steady) (h : Sound rules cases world r)
    (moves : List Move) : Sound rules cases world (r.play rules moves) := by
  induction moves generalizing r with
  | nil => exact h
  | cons m moves ih =>
    cases m with
    | advance i => exact ih (h.advance hsteady i)
    | collect i => exact ih (h.collect i)

end Round

/-! ## What a run that is over leaves -/

/-- Every case came to what it comes to alone or was skipped, and cases are skipped on account of a
failure only, if that is asked for. -/
structure Faithful (alone : Case → Result) (failFast : Bool) (cases : List Case)
    (results : List Result) : Prop where
  each : List.Forall₂ (fun c r => r = alone c ∨ r = .skipped c) cases results
  blamed : ∀ r ∈ results, r.isSkipped = true →
    failFast = true ∧ ∃ r' ∈ results, r'.isFailure = true

namespace Faithful

variable {alone : Case → Result} {failFast : Bool} {cases : List Case} {results : List Result}

/-- Without a failure, every case came to what it comes to alone. -/
theorem results_eq (h : Faithful alone failFast cases results)
    (hok : ∀ r ∈ results, r.isFailure = false) : results = cases.map alone := by
  have hskipped : ∀ r ∈ results, r.isSkipped = false := by
    intro r hr
    by_contra hs
    obtain ⟨_, r', hr', hfailed⟩ := h.blamed r hr (by simpa using hs)
    simp [hok r' hr'] at hfailed
  have heach := h.each
  clear h hok
  induction heach with
  | nil => rfl
  | cons hc _ ih =>
    rw [List.map_cons, ← ih fun r hr => hskipped r (List.mem_cons_of_mem _ hr)]
    rcases hc with rfl | rfl
    · rfl
    · exact absurd (hskipped _ List.mem_cons_self) (by simp)

/-- Every result is that of some case. -/
theorem exists_case (h : Faithful alone failFast cases results) {r : Result} (hr : r ∈ results) :
    ∃ c ∈ cases, r = alone c ∨ r = .skipped c := by
  have heach := h.each
  clear h
  induction heach with
  | nil => simp at hr
  | @cons c r' cases' results' hc _ ih =>
    rcases List.mem_cons.mp hr with rfl | hr
    · exact ⟨c, List.mem_cons_self, hc⟩
    · obtain ⟨c', hc', hr'⟩ := ih hr
      exact ⟨c', List.mem_cons_of_mem _ hc', hr'⟩

/-- No case failed if and only if every case passes alone. -/
theorem isFailure_iff (h : Faithful alone failFast cases results)
    (hown : ∀ c, (alone c).isSkipped = false) :
    (∀ r ∈ results, r.isFailure = false) ↔ ∀ c ∈ cases, (alone c).isPassed = true := by
  constructor
  · intro hok c hc
    have hmem : alone c ∈ results := by
      rw [h.results_eq hok]
      exact List.mem_map_of_mem hc
    exact (Result.isPassed_iff _).mpr ⟨hok _ hmem, hown c⟩
  · intro hpassed r hr
    obtain ⟨c, hc, rfl | rfl⟩ := h.exists_case hr
    · exact ((Result.isPassed_iff _).mp (hpassed c hc)).1
    · exact Result.isFailure_skipped c

/-- If every case passes alone, then the tally counts that many passes and nothing else. -/
theorem ofResults_eq (h : Faithful alone failFast cases results)
    (hown : ∀ c, (alone c).isSkipped = false) (hok : ∀ r ∈ results, r.isFailure = false) :
    Tally.ofResults results = ⟨cases.length, 0, 0⟩ := by
  have hpassed := (h.isFailure_iff hown).mp hok
  rw [Tally.ofResults_eq, h.results_eq hok]
  simp only [List.countP_map, Tally.mk.injEq]
  refine ⟨?_, ?_, ?_⟩
  · exact List.countP_eq_length.mpr hpassed
  · exact List.countP_eq_zero.mpr fun c hc => by
      simp [((Result.isPassed_iff _).mp (hpassed c hc)).1]
  · exact List.countP_eq_zero.mpr fun c hc => by simp [hown c]

end Faithful

/-- The results of a concurrent run that is over are those of its tasks. -/
theorem Round.results_of_isOver {r : Round σ} (hover : r.isOver = true) :
    ∀ t ∈ r.tasks, ∃ result, t.2 = .collected result ∧ result ∈ r.results := by
  intro t ht
  have hcollected : ∃ result, t.2 = .collected result := by
    have hover' := List.all_eq_true.mp hover t ht
    revert hover'
    cases t.2 <;> simp
  obtain ⟨result, hresult⟩ := hcollected
  refine ⟨result, hresult, List.mem_map.mpr ⟨t, ht, ?_⟩⟩
  rw [hresult]

theorem Round.Sound.faithful {rules : Rules σ} {cases : List Case} {world : σ} {r : Round σ}
    (h : Round.Sound rules cases world r) (hover : r.isOver = true) :
    Faithful (fun c => (Task.alone rules.bench rules.attempts c world).result) rules.failFast
      cases r.results := by
  have hall := Round.results_of_isOver hover
  constructor
  · rw [← h.cases_eq, Round.results, List.forall₂_map_left_iff, List.forall₂_map_right_iff,
      List.forall₂_same]
    intro t ht
    obtain ⟨result, hresult, _⟩ := hall t ht
    have hbound := (h.task t ht).bound
    rw [hresult, Task.settle_of_result rfl] at hbound
    simpa [hresult, Task.result?] using hbound
  · intro r' hr' hskipped
    obtain ⟨t, ht, rfl⟩ := List.mem_map.mp hr'
    obtain ⟨result, hresult, _⟩ := hall t ht
    have hbound := (h.task t ht).bound
    rw [hresult] at hskipped
    rw [hresult, Task.settle_of_result rfl] at hbound
    rcases hbound with rfl | hbound
    · -- what a case comes to alone is not skipped
      have hown := (Task.alone_own rules.bench rules.attempts t.1 world).2
      exact absurd hskipped (by simp [hown])
    · have hcancelled := (h.task t ht).cancelled (by rw [hresult]; exact hbound)
      obtain ⟨hfast, t', ht', failed, hfailed, hfailure⟩ := h.blamed hcancelled
      obtain ⟨result', hresult', hmem⟩ := hall t' ht'
      rw [hresult'] at hfailed
      obtain rfl : result' = failed := Option.some.inj hfailed
      exact ⟨hfast, result', hmem, hfailure⟩

/-! ## One case after the other -/

theorem inTurn_faithful (rules : Rules σ) (hsteady : rules.bench.Steady) (world₀ : σ)
    (cases : List Case) (world : σ) :
    Faithful (fun c => (Task.alone rules.bench rules.attempts c world₀).result) rules.failFast
      cases (inTurn rules cases world).results := by
  induction cases generalizing world with
  | nil => exact ⟨.nil, by rintro r ⟨⟩⟩
  | cons c cases ih =>
    have hfirst : (Task.alone rules.bench rules.attempts c world).result =
        (Task.alone rules.bench rules.attempts c world₀).result :=
      Task.settle_congr hsteady world world₀
    rw [inTurn]
    split
    · rename_i hstop
      rw [Bool.and_eq_true] at hstop
      refine ⟨.cons (.inl hfirst) ?_, fun r _ _ => ⟨hstop.1, _, List.mem_cons_self, hstop.2⟩⟩
      rw [List.forall₂_map_right_iff, List.forall₂_same]
      exact fun c' _ => .inr rfl
    · have hrest := ih (Task.alone rules.bench rules.attempts c world).world
      refine ⟨.cons (.inl hfirst) hrest.each, fun r hr hskipped => ?_⟩
      rcases List.mem_cons.mp hr with rfl | hr
      · have hown := (Task.alone_own rules.bench rules.attempts c world).2
        exact absurd hskipped (by simp [hown])
      · obtain ⟨hfast, r', hr', hfailed⟩ := hrest.blamed r hr hskipped
        exact ⟨hfast, r', List.mem_cons_of_mem _ hr', hfailed⟩

/-- A run in turn that stops at its first failure skips what comes after it, and nothing else. -/
theorem inTurn_isSkipped_iff {rules : Rules σ} (hfast : rules.failFast = true)
    {cases : List Case} {world : σ} {i : Nat} {r : Result}
    (h : (inTurn rules cases world).results[i]? = some r) :
    r.isSkipped = true ↔
      ∃ r' ∈ (inTurn rules cases world).results.take i, r'.isFailure = true := by
  induction cases generalizing world i with
  | nil => simp [inTurn] at h
  | cons c cases ih =>
    rw [inTurn] at h ⊢
    split at h
    · rename_i hstop
      rw [if_pos hstop]
      rw [Bool.and_eq_true] at hstop
      cases i with
      | zero =>
        obtain rfl := Option.some.inj h
        simp [(Task.alone_own rules.bench rules.attempts c world).2]
      | succ i =>
        rw [List.getElem?_cons_succ, List.getElem?_map] at h
        obtain ⟨c', _, rfl⟩ := Option.map_eq_some_iff.mp h
        simp [hstop.2]
    · rename_i hgo
      rw [if_neg hgo]
      have hpassed : (Task.alone rules.bench rules.attempts c world).result.isFailure = false := by
        simpa [hfast] using hgo
      cases i with
      | zero =>
        obtain rfl := Option.some.inj h
        simp [(Task.alone_own rules.bench rules.attempts c world).2]
      | succ i => simpa [hpassed] using ih h

/-! ## All runs -/

/-- The reports that a run may come to: of cases one after the other there is one, and of cases at
the same time one for each course to the end. -/
inductive Executes (bench : Bench σ) (options : Options) (cases : List Case) (world : σ) :
    Report → Prop where
  | inTurn (h : options.concurrent = false) :
    Executes bench options cases world (inTurn (options.rules bench) cases world)
  | together (h : options.concurrent = true) (moves : List Move)
      (hover : ((Round.initial cases world).play (options.rules bench) moves).isOver = true) :
    Executes bench options cases world
      ⟨((Round.initial cases world).play (options.rules bench) moves).results,
        ((Round.initial cases world).play (options.rules bench) moves).log.reverse⟩

theorem executes_execute (bench : Bench σ) (options : Options) (cases : List Case) (world : σ) :
    Executes bench options cases world (execute bench options cases world) := by
  unfold execute
  split
  · rename_i hconcurrent
    obtain ⟨moves, hmoves⟩ := Round.reaches_finish (options.rules bench) (.initial cases world)
    have hover := Round.isOver_finish (options.rules bench) (.initial cases world)
    rw [together, ← hmoves]
    exact .together hconcurrent moves (hmoves ▸ hover)
  · rename_i hconcurrent
    exact .inTurn (by simpa using hconcurrent)

theorem Executes.faithful {bench : Bench σ} {options : Options} {cases : List Case} {world : σ}
    {report : Report} (hsteady : bench.Steady) (h : Executes bench options cases world report) :
    Faithful (fun c => (Task.alone bench options.retry.attempts c world).result)
      options.failFast cases report.results := by
  cases h with
  | inTurn hconcurrent => exact inTurn_faithful (options.rules bench) hsteady world cases world
  | together hconcurrent moves hover =>
    have hsound := Round.sound_initial (options.rules bench) cases world
    exact (hsound.play hsteady moves).faithful hover

/-- **Every run comes to what its cases come to alone.** There is one result for each case, in
their order and under their names, and each is that of the case alone or a skipped one. Only with
fail-fast is a case skipped, and only beside a failure; of cases one after the other those after the
first failure are. So a run succeeds if and only if every case passes alone, and then its tally
says so. A run comes to an end, whatever course it has taken. -/
theorem executes_faithful (bench : Bench σ) (hsteady : bench.Steady) (options : Options)
    (cases : List Case) (world : σ) :
    Executes bench options cases world (execute bench options cases world) ∧
    (∀ moves, ∃ more, ((Round.initial cases world).play (options.rules bench)
      (moves ++ more)).isOver = true) ∧
    ∀ report, Executes bench options cases world report →
      List.Forall₂ (fun c r => r.shown = c.displayName ∧
        (r = (Task.alone bench options.retry.attempts c world).result ∨ r = .skipped c))
        cases report.results ∧
      (options.failFast = false → ∀ r ∈ report.results, r.isSkipped = false) ∧
      (∀ (i : Nat) (r : Result), report.results[i]? = some r → r.isSkipped = true →
        ∃ (k : Nat) (r' : Result), k ≠ i ∧ report.results[k]? = some r' ∧ r'.isFailure = true) ∧
      (options.concurrent = false → options.failFast = true →
        ∀ (i : Nat) (r : Result), report.results[i]? = some r →
          (r.isSkipped = true ↔ ∃ r' ∈ report.results.take i, r'.isFailure = true)) ∧
      ((∃ t, report.outcome = .ok t) ↔
        ∀ c ∈ cases, (Task.alone bench options.retry.attempts c world).result.isPassed = true) ∧
      ∀ t, report.outcome = .ok t → t = ⟨cases.length, 0, 0⟩ := by
  refine ⟨executes_execute bench options cases world, fun moves => ?_, fun report h => ?_⟩
  · obtain ⟨more, hmore⟩ := Round.reaches_finish (options.rules bench)
      ((Round.initial cases world).play (options.rules bench) moves)
    refine ⟨more, ?_⟩
    rw [Round.play_append, hmore]
    exact Round.isOver_finish _ _
  have hfaithful := h.faithful hsteady
  have hown := fun c => Task.alone_own bench options.retry.attempts c world
  have hskipped := fun c => (hown c).2
  refine ⟨?_, fun hslow r hr => ?_, fun i r hi hs => ?_, fun hserial hfast i r hi => ?_, ?_,
    fun t ht => ?_⟩
  · refine hfaithful.each.imp fun c r hr => And.intro ?_ hr
    rcases hr with rfl | rfl
    · exact (hown c).1
    · rfl
  · by_contra hs
    have hfast := (hfaithful.blamed r hr (by simpa using hs)).1
    simp [hslow] at hfast
  · obtain ⟨_, r', hr', hfailed⟩ := hfaithful.blamed r (List.mem_of_getElem? hi) hs
    obtain ⟨k, hk⟩ := List.mem_iff_getElem?.mp hr'
    refine ⟨k, r', ?_, hk, hfailed⟩
    -- a skipped result is no failure
    rintro rfl
    obtain rfl : r = r' := Option.some.inj (hi.symm.trans hk)
    exact absurd hs (by simp [Result.isSkipped_of_isFailure hfailed])
  · cases h with
    | inTurn _ => exact inTurn_isSkipped_iff hfast hi
    | together hconcurrent _ _ => simp [hserial] at hconcurrent
  · rw [report.outcome_ok_iff]
    exact hfaithful.isFailure_iff hskipped
  · have hok := report.outcome_ok_iff.mp ⟨t, ht⟩
    rw [Report.eq_of_outcome ht]
    exact hfaithful.ofResults_eq hskipped hok

/-- A bench on which a case named `broken` fails, and every other case on its first attempt. -/
def Bench.shaky : Bench Unit where
  attempt _ c retries :=
    if c.name = "broken" ∨ retries = 0 then .failed (.discrepancy .noReferences)
    else .passed

theorem shaky_faithful :
    Bench.shaky.Steady ∧ ∀ report,
      Executes Bench.shaky { failFast := true, concurrent := true }
        [{ name := "slow", expected := "e", actual := "a" },
          { name := "broken", expected := "e", actual := "a" }] () report →
      ¬ ∃ t, report.outcome = .ok t := by
  have hsteady : Bench.shaky.Steady :=
    ⟨fun _ _ _ _ => rfl, fun _ _ _ => rfl, fun _ _ _ _ => rfl⟩
  refine ⟨hsteady, fun report h => ?_⟩
  obtain ⟨_, _, hall⟩ := executes_faithful Bench.shaky hsteady
    { failFast := true, concurrent := true }
    [{ name := "slow", expected := "e", actual := "a" },
      { name := "broken", expected := "e", actual := "a" }] ()
  obtain ⟨_, _, _, _, hok, _⟩ := hall report h
  rw [hok]
  decide +kernel

end Assay.Run
