import Assay.Proofs.Run.Interleaving

/-!
# When a case passes

On a bench where attempts depend on nothing but the case and its number of retries, a case that is
run by itself passes if it can be run and one of its attempts passes, with failures before it and
nothing worse.
-/

namespace Assay.Run

variable {attempts retries : Nat} {c : Case}

/-- There is an attempt that passes, from a number of retries on, and those before it fail. -/
def PassesFrom (attempt : Nat → Attempt) (attempts retries : Nat) : Prop :=
  ∃ n, retries ≤ n ∧ n < attempts ∧ attempt n = .passed ∧
    ∀ k, retries ≤ k → k < n → ∃ cause, attempt k = .failed cause

/-- A case passes within a number of attempts. -/
def Passes (attempt : Case → Nat → Attempt) (attempts : Nat) (c : Case) : Prop :=
  c.validate = .ok () ∧ PassesFrom (attempt c) attempts 0

section PassesFrom

variable {attempt : Nat → Attempt}

theorem passesFrom_of_passed (h : attempt retries = .passed) (hlt : retries < attempts) :
    PassesFrom attempt attempts retries :=
  ⟨retries, Nat.le_refl _, hlt, h, fun k hle hlt => absurd hlt (by omega)⟩

theorem passesFrom_of_failed {cause : Failure} (h : attempt retries = .failed cause) :
    PassesFrom attempt attempts retries ↔ PassesFrom attempt attempts (retries + 1) := by
  constructor
  · rintro ⟨n, hle, hlt, hpassed, hbefore⟩
    have hne : retries ≠ n := by
      rintro rfl
      simp [h] at hpassed
    exact ⟨n, by omega, hlt, hpassed, fun k hk => hbefore k (by omega)⟩
  · rintro ⟨n, hle, hlt, hpassed, hbefore⟩
    refine ⟨n, by omega, hlt, hpassed, fun k hk hkn => ?_⟩
    rcases Nat.eq_or_lt_of_le hk with rfl | hk
    · exact ⟨cause, h⟩
    · exact hbefore k hk hkn

theorem not_passesFrom_of_crashed {message : String} (h : attempt retries = .crashed message) :
    ¬ PassesFrom attempt attempts retries := by
  rintro ⟨n, hle, hlt, hpassed, hbefore⟩
  rcases Nat.eq_or_lt_of_le hle with rfl | hlt'
  · simp [h] at hpassed
  · obtain ⟨cause, hfailed⟩ := hbefore retries (Nat.le_refl _) hlt'
    simp [h] at hfailed

end PassesFrom

variable {attempt : Case → Nat → Attempt}

/-- What becomes of a case from an attempt on. -/
theorem settle_trying_isPassed_iff (hlt : retries < attempts) :
    (Task.settle (.ofAttempts attempt) attempts c (.trying retries) ()).result.isPassed = true ↔
      PassesFrom (attempt c) attempts retries := by
  induction hleft : attempts - retries generalizing retries with
  | zero => omega
  | succ left ih =>
    rw [Task.settle_of_none rfl]
    simp only [Task.advance, Bench.ofAttempts]
    split
    · rename_i hpassed
      rw [Task.settle_of_result rfl]
      exact iff_of_true rfl (passesFrom_of_passed hpassed hlt)
    · rename_i cause hfailed
      rw [passesFrom_of_failed hfailed]
      unfold Task.fail
      split
      · rename_i hlast
        rw [Task.settle_of_result rfl]
        refine iff_of_false (by simp [Result.isPassed]) ?_
        rintro ⟨n, hle, hn, -⟩
        omega
      · -- the pause ends, since nothing is cancelled
        rw [Task.settle_of_none rfl]
        exact ih (by omega) (by omega)
    · rename_i message hcrashed
      rw [Task.settle_of_result rfl]
      exact iff_of_false (by simp [Result.isPassed]) (not_passesFrom_of_crashed hcrashed)

/-- **A case passes by itself if and only if it can be run and one of its attempts passes** after
others that have failed. -/
theorem alone_isPassed_iff (hpos : 0 < attempts) :
    (Task.alone (.ofAttempts attempt) attempts c ()).result.isPassed = true ↔
      Passes attempt attempts c := by
  rw [Task.alone, Task.settle_of_none rfl]
  simp only [Task.advance, Bool.false_eq_true, if_false]
  rw [Task.settle_of_none rfl]
  simp only [Task.advance, Task.start, Bench.ofAttempts]
  split
  · rename_i cause hinvalid
    rw [Task.settle_of_result rfl, Passes, hinvalid]
    simp [Result.isPassed]
  · rename_i hvalid
    rw [Passes, hvalid]
    exact (settle_trying_isPassed_iff hpos).trans (and_iff_right rfl).symm

/-- If every attempt comes to the same, then a single one decides. -/
theorem passes_ofExcept_iff {outcome : Case → Except Failure Unit} (hpos : 0 < attempts) :
    Passes (fun c _ => .ofExcept (outcome c)) attempts c ↔
      c.validate = .ok () ∧ outcome c = .ok () := by
  refine and_congr_right fun _ => ?_
  dsimp only
  cases outcome c with
  | ok u => exact iff_of_true (passesFrom_of_passed rfl hpos) rfl
  | error cause => simp [PassesFrom, Attempt.ofExcept]

end Assay.Run
