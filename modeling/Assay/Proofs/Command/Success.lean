import Assay.Command.Basic
import Assay.Proofs.Fallible
import Assay.Proofs.Run.Passing

/-!
# When a command succeeds

A command succeeds if and only if every case that it is about passes: the single case of the command
line, or the cases of a configuration that is sound as a whole and whose trigger has ended well.
`Ends` is every way in which a command may end, one for each course of its run, so nothing depends
on the order in which cases that run at the same time take their steps.
-/

namespace Assay.Command

open Run (Passes)

variable {w : World} {a : Arguments} {p : Plan} {config : Config} {ending : Ending}

/-- The ways in which a command may end. -/
inductive Ends (w : World) (a : Arguments) : Ending → Prop where
  /-- There is nothing that could be carried out. -/
  | refused {e : Error} (h : plan w a = .error e) : Ends w a (.unrun e)
  /-- The trigger has failed. -/
  | halted {p : Plan} {e : Error} (h : plan w a = .ok p) (hwait : p.wait? w = some (.error e)) :
    Ends w a (.unrun e)
  /-- The cases were run, in some order of their steps. -/
  | ran {p : Plan} {report : Run.Report} (h : plan w a = .ok p) (hwait : p.wait? w = some (.ok ()))
    (hreport : Run.Executes w.bench p.options p.cases () report) : Ends w a (.ofReport report)

/-- What has to hold of the configuration before its cases are run. -/
structure Ready (w : World) (a : Arguments) (config : Config) (options : Run.Options) : Prop where
  loaded : Config.load w.env w.files a.config = .ok config
  options : Run.Options.ofSuite config.suite = .ok options
  /-- The trigger, if there is one, can be built and ends well. -/
  trigger : ∀ s, config.trigger = some s → ∃ t, Trigger.ofSettings w.env s = .ok t ∧
    t.outcome? (w.signals t) = some (.ok ())

/-- What it takes for a command to succeed. -/
def Succeeds (w : World) (a : Arguments) : Prop :=
  (∃ c, a.singleCase? = some c ∧ Passes w.attempt (Run.Options.retry {}).attempts c) ∨
  (a.expected = none ∧ ∃ config options, Ready w a config options ∧
    ∀ c ∈ config.suite.cases, Passes w.attempt options.retry.attempts c)

/-! ## Plans -/

theorem plan_of_singleCase {c : Case} (h : a.singleCase? = some c) :
    plan w a = .ok { cases := [c] } := by
  simp [plan, h]

/-- With a configuration that is loaded and has sound options, all hinges on its trigger. -/
theorem plan_of_loaded {options : Run.Options} (h : a.expected = none)
    (hloaded : Config.load w.env w.files a.config = .ok config)
    (hoptions : Run.Options.ofSuite config.suite = .ok options) :
    plan w a = ((config.trigger.mapM (Trigger.ofSettings w.env)).mapError .trigger).map fun t? =>
      { options, cases := config.suite.cases, trigger := t? } := by
  simp only [plan, Arguments.singleCase?, h, Option.map_none, hloaded, Except.mapError,
    Plan.ofConfig, hoptions, bind, Except.bind, pure, Except.pure]
  cases config.trigger.mapM (Trigger.ofSettings w.env) <;> rfl

theorem exists_loaded_of_plan (h : a.expected = none) (hp : plan w a = .ok p) :
    ∃ config options, Config.load w.env w.files a.config = .ok config ∧
      Run.Options.ofSuite config.suite = .ok options := by
  simp only [plan, Arguments.singleCase?, h, Option.map_none] at hp
  obtain ⟨config, hloaded, hp⟩ := bind_eq_ok hp
  obtain ⟨options, hoptions, hp⟩ := bind_eq_ok hp
  exact ⟨config, options, mapError_eq_ok_iff.mp hloaded, mapError_eq_ok_iff.mp hoptions⟩

/-- A configuration that is ready leads to a plan whose trigger ends well. -/
theorem Ready.exists_plan {options : Run.Options} (h : a.expected = none)
    (hready : Ready w a config options) :
    ∃ p, plan w a = .ok p ∧ p.wait? w = some (.ok ()) ∧ p.options = options ∧
      p.cases = config.suite.cases := by
  rw [plan_of_loaded h hready.loaded hready.options]
  cases hs : config.trigger with
  | none => exact ⟨_, rfl, rfl, rfl, rfl⟩
  | some s =>
    obtain ⟨t, ht, hended⟩ := hready.trigger s hs
    refine ⟨{ options, cases := config.suite.cases, trigger := some t }, ?_, ?_, rfl, rfl⟩
    · simp [ht, Except.mapError, Except.map, Functor.map]
    · simp [Plan.wait?, hended, Except.mapError]

/-- A plan of a configuration whose trigger ends well is that of one that is ready. -/
theorem ready_of_plan (h : a.expected = none) (hp : plan w a = .ok p)
    (hwait : p.wait? w = some (.ok ())) :
    ∃ config, Ready w a config p.options ∧ p.cases = config.suite.cases := by
  obtain ⟨config, options, hloaded, hoptions⟩ := exists_loaded_of_plan h hp
  rw [plan_of_loaded h hloaded hoptions] at hp
  obtain ⟨t?, ht?, rfl⟩ := map_eq_ok hp
  rw [mapError_eq_ok_iff] at ht?
  refine ⟨config, ⟨hloaded, hoptions, fun s hs => ?_⟩, rfl⟩
  rw [hs] at ht?
  obtain ⟨t, ht, rfl⟩ := map_eq_ok ht?
  obtain ⟨outcome, houtcome, hok⟩ := Option.map_eq_some_iff.mp hwait
  exact ⟨t, ht, houtcome.trans (congrArg some (mapError_eq_ok_iff.mp hok))⟩

/-- Whether a command succeeds is a matter of its cases, once there is a plan whose trigger ends
well, and without one it does not. -/
theorem succeeds_iff_exists_plan : Succeeds w a ↔ ∃ p, plan w a = .ok p ∧
    p.wait? w = some (.ok ()) ∧ ∀ c ∈ p.cases, Passes w.attempt p.options.retry.attempts c := by
  constructor
  · rintro (⟨c, hc, hpasses⟩ | ⟨hnone, config, options, hready, hpasses⟩)
    · exact ⟨_, plan_of_singleCase hc, rfl, by simpa using hpasses⟩
    · obtain ⟨p, hp, hwait, rfl, hcases⟩ := hready.exists_plan hnone
      exact ⟨p, hp, hwait, hcases ▸ hpasses⟩
  · rintro ⟨p, hp, hwait, hpasses⟩
    cases hc : a.singleCase? with
    | some c =>
      rw [plan_of_singleCase hc] at hp
      cases hp
      exact .inl ⟨c, hc, hpasses c List.mem_cons_self⟩
    | none =>
      have hnone : a.expected = none := Option.map_eq_none_iff.mp hc
      obtain ⟨config, hready, hcases⟩ := ready_of_plan hnone hp hwait
      exact .inr ⟨hnone, config, p.options, hready, hcases ▸ hpasses⟩

/-! ## Endings -/

theorem ends_of_ending? (h : ending? w a = some ending) : Ends w a ending := by
  unfold ending? at h
  split at h
  · rename_i p hp
    obtain ⟨outcome, hwait, rfl⟩ := Option.map_eq_some_iff.mp h
    split
    · exact .ran hp hwait (Run.executes_execute w.bench p.options p.cases ())
    · exact .halted hp hwait
  · rename_i e hp
    cases h
    exact .refused hp

/-- A command that does not end waits for its trigger. -/
theorem exists_waiting_of_ending? (h : ending? w a = none) :
    ∃ p t, plan w a = .ok p ∧ p.trigger = some t ∧ t.outcome? (w.signals t) = none := by
  unfold ending? at h
  split at h
  · rename_i p hp
    have hwait : p.wait? w = none := Option.map_eq_none_iff.mp h
    unfold Plan.wait? at hwait
    split at hwait
    · cases hwait
    · rename_i t ht
      exact ⟨p, t, hp, ht, Option.map_eq_none_iff.mp hwait⟩
  · cases h

theorem outcome_ofReport_eq_ok_iff (report : Run.Report) :
    (Ending.ofReport report).outcome = .ok () ↔ ∃ t, report.outcome = .ok t := by
  cases h : report.outcome <;> simp [Ending.ofReport, h]

theorem steady_bench (w : World) : w.bench.Steady :=
  ⟨fun _ _ _ _ => rfl, fun _ _ _ => rfl, fun _ _ _ _ => rfl⟩

/-- A run succeeds if and only if every case passes, and then there is no other result. -/
theorem outcome_of_executes {report : Run.Report}
    (h : Run.Executes w.bench p.options p.cases () report) :
    ((Ending.ofReport report).outcome = .ok () ↔
      ∀ c ∈ p.cases, Passes w.attempt p.options.retry.attempts c) ∧
    ((Ending.ofReport report).outcome = .ok () → ∀ r ∈ report.results, r.isPassed = true) := by
  have hfaithful := h.faithful (steady_bench w)
  have hskipped := fun c => (Run.Task.alone_own w.bench p.options.retry.attempts c ()).2
  have hpasses : ∀ c,
      (Run.Task.alone w.bench p.options.retry.attempts c ()).result.isPassed = true ↔
        Passes w.attempt p.options.retry.attempts c :=
    fun c => Run.alone_isPassed_iff p.options.retry.attempts_pos
  rw [outcome_ofReport_eq_ok_iff, report.outcome_ok_iff]
  refine ⟨?_, fun hok r hr => ?_⟩
  · rw [hfaithful.isFailure_iff hskipped]
    exact forall₂_congr fun c _ => hpasses c
  · have hall := (hfaithful.isFailure_iff hskipped).mp hok
    rw [hfaithful.results_eq hok] at hr
    obtain ⟨c, hc, rfl⟩ := List.mem_map.mp hr
    exact hall c hc

/-- **However a command ends, it has succeeded if and only if it was to.** -/
theorem Ends.outcome_iff (h : Ends w a ending) : ending.outcome = .ok () ↔ Succeeds w a := by
  rw [succeeds_iff_exists_plan]
  cases h with
  | refused hp => simp [Ending.unrun, hp]
  | halted hp hwait => simp [Ending.unrun, hp, hwait]
  | ran hp hwait hreport => simp [hp, hwait, (outcome_of_executes hreport).1]

/-- A command that is to succeed comes to an end. -/
theorem Succeeds.exists_ending (h : Succeeds w a) : ∃ ending, ending? w a = some ending := by
  obtain ⟨p, hp, hwait, -⟩ := succeeds_iff_exists_plan.mp h
  refine ⟨.ofReport (Run.execute w.bench p.options p.cases ()), ?_⟩
  simp only [ending?, hp, Plan.ending?, hwait, Option.map_some]

theorem ends_singleCase_iff {c : Case} (h : a.singleCase? = some c) :
    Ends w a ending ↔ ∃ report, Run.Executes w.bench {} [c] () report ∧
      ending = .ofReport report := by
  have hplan := plan_of_singleCase (w := w) h
  constructor
  · intro hends
    cases hends with
    | refused hp => simp [hplan] at hp
    | halted hp hwait =>
      obtain rfl := Except.ok.inj (hplan.symm.trans hp)
      cases hwait
    | ran hp hwait hreport =>
      obtain rfl := Except.ok.inj (hplan.symm.trans hp)
      exact ⟨_, hreport, rfl⟩
  · rintro ⟨report, hreport, rfl⟩
    exact .ran hplan rfl hreport

theorem ends_refused_iff {e : Error} (h : plan w a = .error e) :
    Ends w a ending ↔ ending = .unrun e := by
  constructor
  · intro hends
    cases hends with
    | refused hp => rw [Except.error.inj (hp.symm.trans h)]
    | halted hp | ran hp => simp [h] at hp
  · rintro rfl
    exact .refused h

theorem ends_halted_iff {e : Error} (h : plan w a = .ok p) (hwait : p.wait? w = some (.error e)) :
    Ends w a ending ↔ ending = .unrun e := by
  constructor
  · intro hends
    cases hends with
    | refused hp => simp [h] at hp
    | halted hp hwait' =>
      obtain rfl := Except.ok.inj (h.symm.trans hp)
      rw [Except.error.inj (Option.some.inj (hwait'.symm.trans hwait))]
    | ran hp hwait' =>
      obtain rfl := Except.ok.inj (h.symm.trans hp)
      simp [hwait] at hwait'
  · rintro rfl
    exact .halted h hwait

/-! ## Exit codes -/

theorem exitCode_eq_zero_iff {outcome : Except Error Unit} :
    exitCode outcome = 0 ↔ outcome = .ok () := by
  cases outcome <;> simp [exitCode]

theorem exitCode?_eq_zero_iff {words : List String} (h : parse words = .ok a) :
    exitCode? w words = some 0 ↔ ∃ ending, ending? w a = some ending ∧ ending.outcome = .ok () := by
  simp [exitCode?, h, outcome?, exitCode_eq_zero_iff]

/-- A trigger that cannot be built or has failed is what the command fails with. -/
theorem ends_trigger_iff {options : Run.Options} {s : Trigger.Settings} {e : Trigger.Error}
    (h : a.expected = none) (hloaded : Config.load w.env w.files a.config = .ok config)
    (hoptions : Run.Options.ofSuite config.suite = .ok options) (hs : config.trigger = some s)
    (hfailed : Trigger.ofSettings w.env s = .error e ∨ ∃ t, Trigger.ofSettings w.env s = .ok t ∧
      t.outcome? (w.signals t) = some (.error e)) :
    Ends w a ending ↔ ending = .unrun (.trigger e) := by
  have hplan := plan_of_loaded h hloaded hoptions
  rw [hs] at hplan
  rcases hfailed with hunbuilt | ⟨t, ht, hended⟩
  · refine ends_refused_iff ?_
    rw [hplan]
    simp [hunbuilt, Except.mapError, Except.map, Functor.map]
  · refine ends_halted_iff (p := { options, cases := config.suite.cases, trigger := some t }) ?_ ?_
    · rw [hplan]
      simp [ht, Except.mapError, Except.map, Functor.map]
    · simp [Plan.wait?, hended, Except.mapError]

/-- **A command succeeds if and only if all that it is about passes**, and this is what its exit
code says, in whatever order the steps of its run come. A single case is run by itself under the
default options, and nothing is asked of a configuration. A trigger that cannot be built or that has
failed is what the command fails with, and then no case is run. -/
theorem succeeds_iff (w : World) {words : List String} (h : parse words = .ok a) :
    (exitCode? w words = some 0 ↔ Succeeds w a) ∧
    (∀ ending, Ends w a ending → (ending.outcome = .ok () ↔ Succeeds w a) ∧
      (ending.outcome = .ok () → ∃ report, ending.report = some report ∧
        ∀ r ∈ report.results, r.isPassed = true)) ∧
    (∀ c, a.singleCase? = some c → ∀ ending, Ends w a ending ↔
      ∃ report, Run.Executes w.bench {} [c] () report ∧ ending = .ofReport report) ∧
    (∀ config options s e, a.expected = none →
      Config.load w.env w.files a.config = .ok config →
      Run.Options.ofSuite config.suite = .ok options → config.trigger = some s →
      (Trigger.ofSettings w.env s = .error e ∨ ∃ t, Trigger.ofSettings w.env s = .ok t ∧
        t.outcome? (w.signals t) = some (.error e)) →
      ∀ ending, Ends w a ending ↔ ending = .unrun (.trigger e)) ∧
    (∀ ending, ending? w a = some ending → Ends w a ending) ∧
    (ending? w a = none →
      ∃ p t, plan w a = .ok p ∧ p.trigger = some t ∧ t.outcome? (w.signals t) = none) ∧
    (∀ j : Judge, (w.attempt = fun c _ => .ofExcept (Run.compare j w.files c)) →
      ∀ c attempts, 0 < attempts → (Passes w.attempt attempts c ↔
        c.validate = .ok () ∧ Run.compare j w.files c = .ok ())) := by
  refine ⟨?_, fun ending hends => ⟨hends.outcome_iff, fun hok => ?_⟩,
    fun c hc ending => ends_singleCase_iff hc,
    fun config options s e hnone hloaded hoptions hs hfailed ending =>
      ends_trigger_iff hnone hloaded hoptions hs hfailed,
    fun ending => ends_of_ending?, exists_waiting_of_ending?, fun j hfiles c attempts hpos => ?_⟩
  · rw [exitCode?_eq_zero_iff h]
    constructor
    · rintro ⟨ending, hending, hok⟩
      exact (ends_of_ending? hending).outcome_iff.mp hok
    · intro hsucceeds
      obtain ⟨ending, hending⟩ := hsucceeds.exists_ending
      exact ⟨ending, hending, (ends_of_ending? hending).outcome_iff.mpr hsucceeds⟩
  · cases hends with
    | refused | halted => cases hok
    | ran hp hwait hreport => exact ⟨_, rfl, (outcome_of_executes hreport).2 hok⟩
  · rw [hfiles]
    exact Run.passes_ofExcept_iff hpos

/-- A configuration with a trigger, which makes one request at most, and with one case. -/
def triggered (action : String) : Config where
  trigger := some { action, interval := "1s", times := 1, url := "u" }
  suite.cases := [{ expected := "e.yml", actual := "a.json" }]

/-- The trigger of that configuration. -/
def onceGet : Trigger :=
  { nanos := 1000000000, times := 1,
    request := { url := "u", method := "GET", body := "", headers := [] } }

/-- A world in which that configuration is written and a case passes on its second attempt. -/
def triggeredWorld (action : String) (signals : List Trigger.Signal) : World where
  env := fun _ => none
  files := { files := [(["e2e.yaml"], .text ("trigger: \x7baction: " ++ action ++
    ", interval: 1s, times: 1, url: u\x7d\nassert:\n  cases:\n" ++
    "  - expected: e.yml\n    actual: a.json\n"))] }
  signals := fun _ => signals
  attempt := fun _ retries =>
    if retries = 0 then .failed (.discrepancy .noReferences) else .passed

theorem load_triggeredWorld (signals : List Trigger.Signal) : ∀ action ∈ ["http", "ftp"],
    Config.load (fun _ => none) (triggeredWorld action signals).files "e2e.yaml" =
      .ok (triggered action) := by
  show ∀ action ∈ ["http", "ftp"],
    Config.load (fun _ => none) (triggeredWorld action []).files "e2e.yaml" = .ok (triggered action)
  decide +kernel
/-- The case of the command line passes on its second attempt, and so does that of a configuration
once the trigger has been answered. A trigger that is not answered, or that cannot be built, is what
the command fails with. -/
theorem succeeds_iff_second_attempt :
    parse ["assert", "--expected", "e.yml", "--actual", "a.json"] =
        .ok { expected := some "e.yml", actual := some "a.json" } ∧ parse ["assert"] = .ok {} ∧
      exitCode? (triggeredWorld "ftp" []) ["assert", "--expected", "e.yml", "--actual", "a.json"] =
        some 0 ∧
      exitCode? (triggeredWorld "http" [.tick (.status 200)]) ["assert"] = some 0 ∧
      (∀ ending, Ends (triggeredWorld "http" [.tick .unreachable]) {} ending ↔
        ending = .unrun (.trigger (.unreachable "u"))) ∧
      ∀ ending, Ends (triggeredWorld "ftp" []) {} ending ↔
        ending = .unrun (.trigger (.unknownAction "ftp")) := by
  have hsingle : parse ["assert", "--expected", "e.yml", "--actual", "a.json"] =
      .ok { expected := some "e.yml", actual := some "a.json" } := by
    decide +kernel
  have hsuite : parse ["assert"] = .ok {} := by decide +kernel
  -- the one case is the same for both, and it passes in each of these worlds
  have hpasses (action : String) (signals : List Trigger.Signal) :
      Passes (triggeredWorld action signals).attempt (Run.Options.retry {}).attempts
        { expected := "e.yml", actual := "a.json" } := by
    refine ⟨by decide +kernel, 1, by decide, by decide +kernel, rfl, fun k _ hk => ?_⟩
    exact ⟨.discrepancy .noReferences, by simp [triggeredWorld, Nat.lt_one_iff.mp hk]⟩
  have hload (action : String) (signals : List Trigger.Signal) (h : action ∈ ["http", "ftp"]) :
      Config.load (triggeredWorld action signals).env (triggeredWorld action signals).files
        "e2e.yaml" = .ok (triggered action) :=
    load_triggeredWorld signals action h
  have hbuilt : Trigger.ofSettings (fun _ => none)
      { action := "http", interval := "1s", times := 1, url := "u" } = .ok onceGet := by
    decide +kernel
  refine ⟨hsingle, hsuite, ?_, ?_, ?_, ?_⟩
  · exact (succeeds_iff _ hsingle).1.mpr (.inl ⟨_, rfl, hpasses _ _⟩)
  · refine (succeeds_iff _ hsuite).1.mpr (.inr ⟨rfl, triggered "http", {}, ?_, ?_⟩)
    · refine ⟨hload _ _ (by decide), rfl, fun s hs => ?_⟩
      cases hs
      exact ⟨onceGet, hbuilt, rfl⟩
    · rintro c hc
      obtain rfl := List.mem_singleton.mp hc
      exact hpasses _ _
  · obtain ⟨-, -, -, hfailed, -⟩ := succeeds_iff (triggeredWorld "http" [.tick .unreachable]) hsuite
    exact hfailed _ _ _ _ rfl (hload _ _ (by decide)) rfl rfl (.inr ⟨onceGet, hbuilt, rfl⟩)
  · obtain ⟨-, -, -, hfailed, -⟩ := succeeds_iff (triggeredWorld "ftp" []) hsuite
    exact hfailed _ _ _ _ rfl (hload _ _ (by decide)) rfl rfl (.inl (by decide +kernel))

end Assay.Command
