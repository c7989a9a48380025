import Assay.Proofs.Exposition.Values
import Assay.Proofs.Predicate.Outcome

/-!
# Scraped values can be compared

A scrape accepts a value exactly if a numeric predicate can read it. Since what is stored of a text
was accepted as a value on some line, a numeric predicate whose own operand is a number is at fault
for none of it: it holds or it fails.
-/

namespace Assay

namespace Predicate

variable {engine : Regex.Engine} {p : Predicate} {actual : String} {x y : Binary64}

/-- Two numbers are always compared. -/
theorem evaluate_of_numbers (hnumeric : p.operator.Numeric)
    (hx : Number.literal actual.toList = .ok x) (hy : Number.literal p.operand.toList = .ok y) :
    p.evaluate engine actual = if compares p.operator x y then .ok ()
      else .error (.mismatch p.operator p.operand actual) := by
  have hholds : compares p.operator x y = true ↔ Holds engine p actual :=
    compares_iff_holds hnumeric hx hy
  rcases evaluate_cases engine p actual with ⟨e, hfault, -⟩ | ⟨-, ⟨hyes, he⟩ | ⟨hno, he⟩⟩
  · -- each fault needs a text that is no number
    cases hfault with
    | operand _ hbad => simp [hy] at hbad
    | actual _ _ hbad => simp [hx] at hbad
    | pattern hsearch => exact absurd hsearch hnumeric.ne_regexp
  · rw [he, if_pos (hholds.mpr hyes)]
  · rw [he, if_neg (mt hholds.mp hno)]

end Predicate

namespace Metric

/-- The values in a sample. A sum or a count that is missing is none. -/
def Sample.values : Sample → List String
  | .plain s => [s.value]
  | .summary s => s.quantiles.entries.map Prod.snd ++ [s.sum, s.count].filter (· ≠ "")
  | .histogram s => s.buckets.entries.map Prod.snd ++ [s.sum, s.count].filter (· ≠ "")

end Metric

namespace Exposition

open Assay.Metric

theorem Folded.Numeric.values {m : Folded} (h : m.Numeric) :
    ∀ v ∈ m.entries.entries.map Prod.snd ++ [m.sum, m.count].filter (· ≠ ""), IsValueText v := by
  intro v hv
  rcases List.mem_append.mp hv with hv | hv
  · obtain ⟨e, he, rfl⟩ := List.mem_map.mp hv
    exact h.entries e he
  · obtain ⟨hv, hne⟩ := List.mem_filter.mp hv
    replace hne : v ≠ "" := by simpa using hne
    rcases List.mem_pair.mp hv with rfl | rfl
    · exact h.sum hne
    · exact h.count hne

theorem values_of_numeric {s : Sample} (h : SampleNumeric s) : ∀ v ∈ s.values, IsValueText v := by
  cases s with
  | plain s =>
    intro v hv
    rw [List.mem_singleton.mp hv]
    exact h
  | summary s => exact Folded.Numeric.values h
  | histogram s => exact Folded.Numeric.values h

/-- **What is scraped can be compared.** Each side of a numeric comparison is read exactly if it
would be accepted as a value. So whatever is stored of a text is a number, and every numeric
predicate with a number for its operand is decided by comparing the two. -/
theorem stored_compared :
    (∀ side value, (∃ x, Predicate.number side value = .ok x) ↔ isValue value.toList = true) ∧
    ∀ text fs, parse text = .ok fs → ∀ f ∈ fs, ∀ s ∈ f.samples, ∀ v ∈ s.values,
      ∃ x, Number.literal v.toList = .ok x ∧
        ∀ engine asked y, (Predicate.parse asked).operator.Numeric →
          Number.literal (Predicate.parse asked).operand.toList = .ok y →
          Predicate.check engine asked v =
            if Predicate.compares (Predicate.parse asked).operator x y then .ok ()
            else .error (.mismatch (Predicate.parse asked).operator
              (Predicate.parse asked).operand v) := by
  constructor
  · intro side value
    rw [isValue_iff, Predicate.number]
    cases Number.literal value.toList <;> simp
  · intro text fs hparse f hf s hs v hv
    have htext := values_of_numeric ((sound_of_parse hparse).numeric f hf s hs) v hv
    obtain ⟨x, hx⟩ := isValue_iff.mp htext.1
    exact ⟨x, hx, fun _ _ _ hnumeric hy => Predicate.evaluate_of_numbers hnumeric hx hy⟩

/-- A histogram with infinite bounds and values, of which the sum is missing. -/
def infiniteText : String :=
  "# TYPE t histogram\nt_bucket\x7ble=\"+Inf\"\x7d +Inf\nt_count 4e1\n"

/-- The family of that text. -/
def infiniteFamily : Family :=
  { name := "t", kind := .histogram,
    samples := [.histogram { buckets := .ofList [("+Inf", "+Inf")], count := "4e1" }] }

theorem stored_compared_infinite :
    parse infiniteText = .ok [infiniteFamily] ∧
    (∀ s ∈ infiniteFamily.samples, s.values = ["+Inf", "4e1"]) ∧
    (Predicate.parse "gt 1e3").operator.Numeric ∧
    Number.literal (Predicate.parse "gt 1e3").operand.toList = .ok (.ofNat false 1000) ∧
    Predicate.check .standard "gt 1e3" "+Inf" = .ok () ∧
    Predicate.check .standard "gt 1e3" "4e1" = .error (.mismatch .gt "1e3" "4e1") := by
  have hparse : parse infiniteText = .ok [infiniteFamily] := by decide +kernel
  have hvalues : ∀ s ∈ infiniteFamily.samples, s.values = ["+Inf", "4e1"] := by decide +kernel
  have hasked : Predicate.parse "gt 1e3" = ⟨.gt, "1e3"⟩ := by decide +kernel
  have hnumeric : (Predicate.parse "gt 1e3").operator.Numeric := hasked ▸ .gt
  have hoperand : Number.literal (Predicate.parse "gt 1e3").operand.toList =
      .ok (.ofNat false 1000) := by decide +kernel
  -- both values of the one sample are compared with the operand
  have hcompared : ∀ v ∈ ["+Inf", "4e1"], ∃ x, Number.literal v.toList = .ok x ∧
      Predicate.check .standard "gt 1e3" v =
        if Predicate.compares .gt x (.ofNat false 1000) then .ok ()
        else .error (.mismatch .gt "1e3" v) := by
    intro v hv
    have hsample := List.mem_singleton_self (Sample.histogram
      { buckets := .ofList [("+Inf", "+Inf")], count := "4e1" })
    obtain ⟨x, hx, hcheck⟩ := stored_compared.2 _ _ hparse _ (List.mem_singleton_self _) _ hsample v
      (hvalues _ hsample ▸ hv)
    have hsame := hcheck .standard _ _ hnumeric hoperand
    rw [hasked] at hsame
    exact ⟨x, hx, hsame⟩
  refine ⟨hparse, hvalues, hnumeric, hoperand, ?_, ?_⟩
  · obtain ⟨x, hx, hcheck⟩ := hcompared "+Inf" (by decide)
    have hread : Number.literal "+Inf".toList = .ok (.infinite false) := by decide +kernel
    have hmore : Predicate.compares .gt (.infinite false) (.ofNat false 1000) = true := by
      decide +kernel
    rw [Except.ok.inj (hx.symm.trans hread), if_pos hmore] at hcheck
    exact hcheck
  · obtain ⟨x, hx, hcheck⟩ := hcompared "4e1" (by decide)
    have hread : Number.literal "4e1".toList = .ok (.ofNat false 40) := by decide +kernel
    have hless : ¬ Predicate.compares .gt (.ofNat false 40) (.ofNat false 1000) = true := by
      decide +kernel
    rw [Except.ok.inj (hx.symm.trans hread), if_neg hless] at hcheck
    exact hcheck

end Exposition

end Assay
