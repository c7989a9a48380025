import Assay.Proofs.Metric.Lookup
import Assay.Proofs.Metric.Samples
import Assay.Proofs.Trace.Fields
import Assay.Proofs.Trace.Order

/-!
# Ill-formed expectations

Much that a comparison finds out on its way is not told: spans are chosen by their names first,
references and samples are tried until one fits, and of several discrepancies only one is kept. Yet
every predicate of an expectation that is met has accepted some text. So an expectation that holds
an ill-formed predicate is not met by any actual data.
-/

namespace Assay

open Assay.Metric

namespace Judge

open Predicate (IllFormed)

variable {j : Judge}

/-! ## What success has evaluated -/

theorem accepts_of_traces {expected actual : List Trace} (h : j.traces expected actual = .ok ()) :
    ∀ t ∈ expected, ∀ s ∈ t.spans, ∀ text ∈ s.texts j.tagPredicate,
      ∃ v, j.accepts text v = true := by
  intro t ht s hs
  obtain ⟨t', -, hmatch⟩ := (bindable_of_traces h).exists_of_mem ht
  obtain ⟨-, hspans⟩ := (spans_eq_ok_iff j t t').mp hmatch
  obtain ⟨s', -, hadmits⟩ := hspans.exists_of_mem hs
  exact (admits_iff.mp hadmits).accepts

theorem accepts_of_metrics {expected actual : List Family}
    (h : j.metrics expected actual = .ok ()) :
    ∀ f ∈ required expected, ∀ s ∈ f.samples, ∀ text ∈ s.texts, ∃ v, j.accepts text v = true := by
  intro f hf s hs
  obtain ⟨f', -, hmeets⟩ := (bindable_of_metrics h).exists_of_mem hf
  obtain ⟨s', -, hholds⟩ := (family_eq_ok_iff.mp hmeets.samples).exists_of_mem hs
  exact hholds.accepts

/-! ## Expectations that are never met -/

/-- A trace with a span that holds an ill-formed predicate, be it for a field, a tag or a reference.
References to the environment are replaced first where they count. -/
def SpoiltTrace (j : Judge) (t : Trace) : Prop :=
  ∃ s ∈ t.spans, ∃ text ∈ s.texts j.tagPredicate, IllFormed j.engine (Predicate.parse text)

/-- A family with a sample that holds an ill-formed predicate, be it for a label, a value, a count,
a sum, a quantile or a bucket. -/
def SpoiltFamily (engine : Regex.Engine) (f : Family) : Prop :=
  ∃ s ∈ f.samples, ∃ text ∈ s.texts, IllFormed engine (Predicate.parse text)

/-- A family whose name gives a pattern that is no regular expression. -/
def SpoiltPattern (engine : Regex.Engine) (f : Family) : Prop :=
  ∃ pattern, absencePattern? f = some pattern ∧ engine.matcher? pattern = none

variable {env : Environment} {engine : Regex.Engine} {pick : SideBySide.Pick Discrepancy}

theorem traces_ne_ok {expected actual : List Trace} {t : Trace} (ht : t ∈ expected)
    (hspoilt : SpoiltTrace { env, engine } t) :
    traces { env, engine, pick } expected actual ≠ .ok () := by
  intro hok
  obtain ⟨s, hs, text, htext, hill⟩ := hspoilt
  obtain ⟨v, hv⟩ := accepts_of_traces hok t ht s hs text htext
  rw [accepts_illFormed hill] at hv
  cases hv

theorem metrics_ne_ok {expected actual : List Family} {f : Family} (hf : f ∈ required expected)
    (hspoilt : SpoiltFamily engine f) :
    metrics { env, engine, pick } expected actual ≠ .ok () := by
  intro hok
  obtain ⟨s, hs, text, htext, hill⟩ := hspoilt
  obtain ⟨v, hv⟩ := accepts_of_metrics hok f hf s hs text htext
  rw [accepts_illFormed hill] at hv
  cases hv

theorem metrics_ne_ok_of_pattern {expected actual : List Family} {f : Family} (hf : f ∈ expected)
    (hspoilt : SpoiltPattern j.engine f) : j.metrics expected actual ≠ .ok () := by
  intro hok
  obtain ⟨pattern, hpattern, hnone⟩ := hspoilt
  obtain ⟨-, hclear⟩ := clear_of_metrics hok
  obtain ⟨accepts, haccepts, -⟩ := hclear f hf pattern hpattern
  rw [hnone] at haccepts
  cases haccepts

/-- **No ill-formed predicate is passed over.** Expected traces of which one is spoilt fail against
all actual traces, and so do expected families if one that is required is spoilt, or one gives a
pattern that is no regular expression. -/
theorem illFormed_refused (env : Environment) (engine : Regex.Engine)
    (pick : SideBySide.Pick Discrepancy) :
    (∀ expected : List Trace, (∃ t ∈ expected, SpoiltTrace { env, engine } t) →
      ∀ actual, ∃ d, traces { env, engine, pick } expected actual = .error d) ∧
    (∀ expected : List Family,
      (∃ f ∈ required expected, SpoiltFamily engine f) ∨
        (∃ f ∈ expected, SpoiltPattern engine f) →
      ∀ actual, ∃ d, metrics { env, engine, pick } expected actual = .error d) := by
  refine ⟨fun expected hspoilt actual => ?_, fun expected hspoilt actual => ?_⟩
  · obtain ⟨t, ht, hspoilt⟩ := hspoilt
    exact exists_error_of_ne_ok (traces_ne_ok ht hspoilt)
  · rcases hspoilt with ⟨f, hf, hspoilt⟩ | ⟨f, hf, hspoilt⟩
    · exact exists_error_of_ne_ok (metrics_ne_ok hf hspoilt)
    · exact exists_error_of_ne_ok (metrics_ne_ok_of_pattern hf hspoilt)

/-- An environment in which a limit is set to a word. -/
def wordyLimit : Environment :=
  fun name => if name = "LIMIT" then some "ten" else none

/-- The second trace compares with that limit, which is no number. -/
def limitTraces : List Trace :=
  [{ spans := [{ operationName := "A" }] },
   { spans := [{ tags := .ofList [(urlTag, "ge $LIMIT")] }] }]

/-- A quantile is compared with what is no number. -/
def wordyQuantile : List Family :=
  [{ name := "t", kind := .summary,
     samples := [.summary { quantiles := .ofList [("0.5", "lt one")] }] }]

/-- A pattern that is not closed. -/
def openPattern : List Family :=
  [{ name := "notContains (" }]

theorem illFormed_refused_limits :
    (∃ t ∈ limitTraces, SpoiltTrace { env := wordyLimit } t) ∧
    (∃ f ∈ required wordyQuantile, SpoiltFamily .standard f) ∧
    (∃ f ∈ openPattern, SpoiltPattern .standard f) ∧
    (∀ actual, ∃ d, traces { env := wordyLimit } limitTraces actual = .error d) ∧
    (∀ actual, ∃ d, metrics { env := wordyLimit } wordyQuantile actual = .error d) ∧
    (∀ actual, ∃ d, metrics { env := wordyLimit } openPattern actual = .error d) := by
  have hten : IllFormed .standard (Predicate.parse "ge ten") := by
    rw [show Predicate.parse "ge ten" = ⟨.ge, "ten"⟩ by decide +kernel]
    exact .number rfl (show Number.literal _ = .error .malformed by decide)
  have hone : IllFormed .standard (Predicate.parse "lt one") := by
    rw [show Predicate.parse "lt one" = ⟨.lt, "one"⟩ by decide +kernel]
    exact .number rfl (show Number.literal _ = .error .malformed by decide)
  have htrace : ∃ t ∈ limitTraces, SpoiltTrace { env := wordyLimit } t :=
    ⟨_, List.mem_cons_of_mem _ List.mem_cons_self, _, List.mem_cons_self, "ge ten",
      by decide +kernel, hten⟩
  have hfamily : ∃ f ∈ required wordyQuantile, SpoiltFamily .standard f := by
    rw [show required wordyQuantile = wordyQuantile by decide +kernel]
    exact ⟨_, List.mem_cons_self, _, List.mem_cons_self, "lt one", by decide +kernel, hone⟩
  have hpattern : ∃ f ∈ openPattern, SpoiltPattern .standard f :=
    ⟨_, List.mem_cons_self, "(", by decide +kernel,
      Option.isNone_iff_eq_none.mp (by decide +kernel)⟩
  obtain ⟨htraces, hmetrics⟩ := illFormed_refused wordyLimit .standard .first
  exact ⟨htrace, hfamily, hpattern, htraces _ htrace, hmetrics _ (.inl hfamily),
    hmetrics _ (.inr hpattern)⟩

end Judge

end Assay
