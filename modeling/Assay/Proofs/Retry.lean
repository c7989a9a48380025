import Assay.Proofs.Fallible
import Assay.Retry

/-!
# How many attempts a setting allows

A count that a word of 32 bits holds is taken as it is, and the attempts it allows are counted up to
the largest number of such a word. Any other count stands for one retry, one that is too large as
well. So more retries never mean fewer attempts as long as the larger count is still held.
-/

namespace Assay.Retry

variable {c d : Int} {r : Retry} {nanos : Nat}

/-! ## One setting -/

/-- There is a policy as soon as the interval can be read. The count is never refused. -/
theorem policy_of_nanos (h : policyNanos r.interval = .ok nanos) :
    r.policy = .ok { count := policyCount r.count, nanos } := by
  rw [policy, h]
  rfl

/-- The attempts that a count allows if it is taken as it is. -/
theorem attempts_of_counted (hpos : 0 < c) (hheld : c < Number.words32) :
    ({ count := policyCount c, nanos } : Policy).attempts = min (c.toNat + 1) maxAttempts := by
  have hcount : policyCount c = c.toNat := by
    rw [policyCount, if_pos]
    simp only [Number.isUInt32, Bool.and_eq_true, decide_eq_true_eq]
    omega
  rw [Policy.attempts, hcount]

/-- A count of one allows two attempts, and so does every count that is not taken as it is. -/
theorem attempts_eq_two (h : c ≤ 1 ∨ Number.words32 ≤ c) :
    ({ count := policyCount c, nanos } : Policy).attempts = 2 := by
  have hcount : policyCount c = 1 := by
    by_cases hone : c = 1
    · rw [hone]
      rfl
    · rw [policyCount, if_neg]
      simp only [Number.isUInt32, Bool.and_eq_true, decide_eq_true_eq]
      omega
  rw [Policy.attempts, hcount]
  rfl

theorem two_le_attempts (c : Int) (nanos : Nat) :
    2 ≤ ({ count := policyCount c, nanos } : Policy).attempts := by
  by_cases h : 0 < c ∧ c < Number.words32
  · rw [attempts_of_counted h.1 h.2, maxAttempts, Number.words32]
    omega
  · exact Nat.le_of_eq (attempts_eq_two (by omega)).symm

/-! ## Two settings -/

/-- Up to the largest count that is held, more retries never mean fewer attempts. -/
theorem attempts_mono (h : c ≤ d) (hheld : d < Number.words32) :
    ({ count := policyCount c, nanos } : Policy).attempts ≤
      ({ count := policyCount d, nanos } : Policy).attempts := by
  by_cases hpos : 0 < c
  · have hcounts : c.toNat ≤ d.toNat := by omega
    rw [attempts_of_counted hpos (by omega), attempts_of_counted (by omega) hheld]
    omega
  · rw [attempts_eq_two (by omega)]
    exact two_le_attempts d nanos

/-- **When more retries mean at least as many attempts**: two settings with the same interval both
lead to a policy, and the higher count allows no fewer attempts just if it is still held, or the
lower one already stands for one retry. -/
theorem attempts_le_iff {low high : Retry} (hsame : high.interval = low.interval)
    (hinterval : policyNanos low.interval = .ok nanos) (hle : low.count ≤ high.count) :
    ∃ p q, low.policy = .ok p ∧ high.policy = .ok q ∧ p.nanos = nanos ∧ q.nanos = nanos ∧
      (p.attempts ≤ q.attempts ↔
        high.count < Number.words32 ∨ low.count ≤ 1 ∨ Number.words32 ≤ low.count) := by
  refine ⟨_, _, policy_of_nanos hinterval, policy_of_nanos (hsame ▸ hinterval), rfl, rfl, ?_⟩
  constructor
  · intro hattempts
    by_contra hdrop
    -- the lower count is taken as it is, the higher one stands for one retry
    rw [attempts_eq_two (c := high.count) (by omega), attempts_of_counted (by omega) (by omega),
      maxAttempts, Number.words32] at hattempts
    omega
  · rintro (hheld | hlow)
    · exact attempts_mono hle hheld
    · rw [attempts_eq_two hlow]
      exact two_le_attempts _ nanos

/-- The largest count that is held, and the one behind it. -/
theorem attempts_le_iff_limit :
    policyNanos (some (.text "1m30s")) = .ok 90000000000 ∧
      ∃ p q, policy { count := 4294967295, interval := some (.text "1m30s") } = .ok p ∧
        policy { count := 4294967296, interval := some (.text "1m30s") } = .ok q ∧
        p.nanos = 90000000000 ∧ q.nanos = 90000000000 ∧
        (p.attempts ≤ q.attempts ↔ (4294967296 : Int) < Number.words32 ∨ (4294967295 : Int) ≤ 1 ∨
          Number.words32 ≤ (4294967295 : Int)) :=
  have hnanos : policyNanos (some (.text "1m30s")) = .ok 90000000000 := by decide +kernel
  ⟨hnanos, attempts_le_iff rfl hnanos (by decide)⟩

/-- One retry more than the largest count that is held leaves two attempts of four thousand
million. -/
theorem attempts_drop :
    (4294967295 : Int) ≤ 4294967296 ∧ Number.isInt64 4294967296 = true ∧
      ∃ p q, policy { count := 4294967295 } = .ok p ∧ policy { count := 4294967296 } = .ok q ∧
        p.nanos = q.nanos ∧ p.attempts = 4294967295 ∧ q.attempts = 2 := by
  refine ⟨by decide, by decide, _, _, rfl, rfl, rfl, ?_, ?_⟩ <;> decide +kernel

end Assay.Retry
