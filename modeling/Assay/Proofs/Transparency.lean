import Assay.Proofs.Metric.Shared
import Assay.Proofs.Trace.Shared

/-!
# Shared predicates never show

The main statement follows a cache from its first entry on, through every course that any work on it
may take. What is matched with such a cache, whatever it holds and whoever else uses it, comes to
what matching comes to where every predicate is read anew. Which of several failures is told of is
the only thing that a course may settle.
-/

namespace Assay

open Predicate

/-- **A cache with any number of users is as good as none.** In every course of work on a cache that
begins without entries, no text is parsed twice; all calls for a text obtain one entry, which says of
every actual text what the predicate says; entries stay as and where they are; there are as many as
texts were inserted, well formed or not; and the work comes to its end, with something that it may
come to without a cache. Whatever the cache then holds, no application of a predicate shows it, and
no matching does: on every course it comes to what the judge says, for some choice among failures,
and for none of them is the verdict another. -/
theorem shared_cache_transparent {α : Type} (engine : Regex.Engine) (work : Work α)
    (schedule : List (List Part)) :
    let s := (Sharing.start work).run engine schedule
    let answers := s.history.filterMap Event.answer?
    (s.history.filterMap Event.parsed?).Nodup ∧
    (∀ text i p i' p', (text, i, p) ∈ answers → (text, i', p') ∈ answers → i = i' ∧ p = p') ∧
    (∀ text i p, (text, i, p) ∈ answers →
      ∀ actual, p.evaluate actual = check engine text actual) ∧
    (∀ more, (s.run engine more).cache.Extends s.cache) ∧
    s.cache.size = (s.history.filterMap Event.inserted?).toFinset.card ∧
    s.history.length ≤ work.cost engine ∧
    (∀ a, s.work = .done a → a ∈ work.outcomes engine) ∧
    (∃ a ∈ work.outcomes engine, ∃ more, (s.run engine more).work = .done a) ∧
    (∀ text actual, (s.cache.evaluate text actual engine).2 = check engine text actual ∧
      (Work.evaluate text actual).ComesTo engine s.cache (· = check engine text actual)) ∧
    (∀ env expected actual,
      (Shared.traces env expected actual).run.ComesTo engine s.cache
        (fun result => ∃ pick, Judge.traces { env, engine, pick } expected actual = result) ∧
      ∀ pick pick', Judge.traces { env, engine, pick } expected actual = .ok () →
        Judge.traces { env, engine, pick := pick' } expected actual = .ok ()) ∧
    (∀ env expected actual,
      (Shared.metrics engine expected actual).run.ComesTo engine s.cache
        (fun result => ∃ pick, Judge.metrics { env, engine, pick } expected actual = result) ∧
      ∀ pick pick', Judge.metrics { env, engine, pick } expected actual = .ok () →
        Judge.metrics { env, engine, pick := pick' } expected actual = .ok ()) := by
  intro s answers
  have haccounts : Accounts engine s.history s.cache := Sharing.accounts_run .empty schedule
  have hbecomes : (Sharing.start work).Becomes engine s :=
    Sharing.becomes_run Cache.sound_empty schedule
  have hsound := hbecomes.sound
  refine ⟨haccounts.nodup_parsed, ?_, ?_, fun more => (Sharing.becomes_run hsound more).grows,
    haccounts.size_eq, ?_, ?_, ?_, ?_, ?_, ?_⟩
  · intro text i p i' p' h h'
    obtain ⟨hi, hp⟩ := haccounts.answers text i p h
    obtain ⟨hi', hp'⟩ := haccounts.answers text i' p' h'
    rw [hi] at hi'
    exact ⟨Option.some.inj hi', hp.trans hp'.symm⟩
  · intro text i p h actual
    rw [(haccounts.answers text i p h).2]
    rfl
  · have hcost := hbecomes.cost
    simp only [Sharing.start, List.length_nil] at hcost
    omega
  · intro a ha
    exact Sharing.mem_outcomes_of_done Cache.sound_empty schedule ha
  · obtain ⟨a, ha⟩ := List.exists_mem_of_ne_nil _ (Work.outcomes_ne_nil engine s.work)
    exact ⟨a, hbecomes.outcomes ha, Sharing.exists_run_done hsound ha⟩
  · intro text actual
    refine ⟨by rw [hsound.evaluate], hsound.comesTo fun result => ?_⟩
    rw [Work.outcomes_evaluate, List.mem_singleton]
  · intro env expected actual
    have hchoice : Shared.UpToPick engine _ _ := Shared.upToPick_traces env expected actual
    exact ⟨hsound.comesTo hchoice.mem_outcomes_iff,
      fun pick pick' => hchoice.agree pick pick' ()⟩
  · intro env expected actual
    have hchoice : Shared.UpToPick engine _ _ := Shared.upToPick_metrics env expected actual
    exact ⟨hsound.comesTo hchoice.mem_outcomes_iff,
      fun pick pick' => hchoice.agree pick pick' ()⟩

/-- Two users look a malformed text up before either inserts it: both insert, one of them parses. -/
theorem shared_cache_transparent_race :
    let s := (Sharing.start ((Work.evaluate "regexp (" "x").alongside
      (Work.evaluate "regexp (" "y"))).run .standard [[.left], [.right], [.right], [.left]]
    s.history.filterMap Event.inserted? = ["regexp (", "regexp ("] ∧
    s.history.filterMap Event.parsed? = ["regexp ("] ∧
    s.cache.size = (s.history.filterMap Event.inserted?).toFinset.card := by
  refine ⟨by decide +kernel, by decide +kernel, ?_⟩
  exact (shared_cache_transparent _ _ _).2.2.2.2.1

end Assay
