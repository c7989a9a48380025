import Assay.Proofs.Exposition.Collecting

/-!
# The books of a scrape

A scrape keeps positions of families and of folded samples beside the families themselves. They are
right after every line, whatever the order of the lines: each name and each set of labels leads to
the one place where it stands. So a line is always stored at a place that exists, in a sample of the
shape for its family, and the complaint about a series that does not fit its family never comes up.
-/

namespace Assay

open Assay.Metric

namespace Exposition

variable {s s' : Scrape} {l : Line} {lines : List Line}

/-! ## Books in order -/

/-- A scrape whose books are in order. -/
structure WellKept (s : Scrape) : Prop where
  /-- No two families share a name. -/
  distinct : (s.families.map Family.name).Nodup
  /-- Just the names of the families have positions, and these are theirs. -/
  positions : ∀ name i, s.positions.get? name = some i ↔
    ∃ f, s.families[i]? = some f ∧ f.name = name
  /-- A family is there only if it has a sample. -/
  nonempty : ∀ f ∈ s.families, f.samples ≠ []
  /-- The kind of a family is the declared one. -/
  kinds : ∀ f ∈ s.families, f.kind = (s.types.get? f.name).getD .untyped
  shaped : ∀ f ∈ s.families, f.wellShaped = true
  /-- Just the labels of the samples of folded families have positions, and these are theirs. -/
  series : ∀ i labels k, s.series.lookup (i, labels) = some k ↔
    ∃ f m, s.families[i]? = some f ∧ isFolded f.kind = true ∧ f.samples[k]? = some m ∧
      m.labels = labels
  /-- No two sets of labels lead to one sample. -/
  apart : ∀ i labels labels' k, s.series.lookup (i, labels) = some k →
    s.series.lookup (i, labels') = some k → labels = labels'

theorem fits_sample {kind : Kind} (hfolded : isFolded kind = true) (m : Folded) :
    (m.sample kind).fits kind = true := by
  cases kind <;> first | rfl | cases hfolded

theorem fits_blankSample {kind : Kind} (hfolded : isFolded kind = true) (labels : Labels) :
    (Scrape.blankSample kind labels).fits kind = true := by
  cases kind <;> first | rfl | cases hfolded

theorem fits_plain {kind : Kind} (hplain : isFolded kind = false) (p : Plain) :
    (Sample.plain p).fits kind = true := by
  cases kind <;> first | rfl | cases hplain

theorem fits_of_mem_samplesOf {kind : Kind} {own : List Line} {m : Sample}
    (hm : m ∈ samplesOf kind own) : m.fits kind = true := by
  unfold samplesOf at hm
  split at hm
  · rename_i hfolded
    obtain ⟨labels, -, rfl⟩ := mem_gather hm
    exact fits_sample hfolded _
  · rename_i hplain
    obtain ⟨l, -, rfl⟩ := List.mem_map.mp hm
    exact fits_plain (by simpa using hplain) _

/-- Lines make up at least one sample. -/
theorem samplesOf_ne_nil {kind : Kind} {own : List Line} (hown : own ≠ []) :
    samplesOf kind own ≠ [] := by
  obtain ⟨l, hl⟩ := List.exists_mem_of_ne_nil own hown
  cases hfolded : isFolded kind with
  | false => simpa [samplesOf, hfolded] using hown
  | true =>
    intro hnil
    have hlabels := labels_samplesOf hfolded own
    rw [hnil] at hlabels
    have hmem : l.labels ∈ (own.map Line.labels).eraseDups :=
      List.mem_eraseDups.mpr (List.mem_map_of_mem hl)
    rw [← hlabels] at hmem
    cases hmem

/-- **A scrape that has gathered lines has its books in order.** -/
theorem Gathered.wellKept (h : Gathered s lines) : WellKept s := by
  have hdistinct : (s.families.map Family.name).Nodup := h.names ▸ nodup_eraseDups _
  have hsamples : ∀ f ∈ s.families,
      f.samples = samplesOf f.kind (lines.filter (·.family = f.name)) := by
    intro f hf
    rw [h.consistent.kinds f hf]
    exact congrArg Family.samples (h.familyOf_of_mem hf)
  -- in a folded family no two samples share their labels
  have hlabels : ∀ f ∈ s.families, isFolded f.kind = true →
      (f.samples.map Sample.labels).Nodup := by
    intro f hf hfolded
    rw [hsamples f hf, labels_samplesOf hfolded]
    exact nodup_eraseDups _
  have hseries : ∀ i labels k, s.series.lookup (i, labels) = some k ↔
      ∃ f m, s.families[i]? = some f ∧ isFolded f.kind = true ∧ f.samples[k]? = some m ∧
        m.labels = labels := by
    intro i labels k
    rw [h.consistent.series, Option.bind_eq_some_iff]
    refine exists_congr fun f => ?_
    rw [exists_and_left, exists_and_left]
    refine and_congr_right fun hf => ?_
    split
    · rename_i hfolded
      rw [idxOf?_map_eq_some_iff (hlabels f (List.mem_of_getElem? hf) hfolded)]
      simp [hfolded]
    · rename_i hplain
      simp [hplain]
  refine ⟨hdistinct, fun name i => ?_, fun f hf => ?_, h.consistent.kinds, fun f hf => ?_, hseries,
    fun i labels labels' k hk hk' => ?_⟩
  · rw [h.consistent.positions, idxOf?_map_eq_some_iff hdistinct]
  · -- a family has the line that it was added for
    have hname : f.name ∈ lines.map Line.family := by
      rw [← List.mem_eraseDups, ← h.names]
      exact List.mem_map_of_mem hf
    obtain ⟨l, hl, hfamily⟩ := List.mem_map.mp hname
    rw [hsamples f hf]
    refine samplesOf_ne_nil (List.ne_nil_of_mem (a := l) ?_)
    exact List.mem_filter.mpr ⟨hl, by simpa using hfamily⟩
  · refine List.all_eq_true.mpr fun m hm => ?_
    rw [hsamples f hf] at hm
    exact fits_of_mem_samplesOf hm
  · obtain ⟨f, m, hf, -, hm, rfl⟩ := (hseries i labels k).mp hk
    obtain ⟨f', m', hf', -, hm', rfl⟩ := (hseries i labels' k).mp hk'
    obtain rfl : f = f' := Option.some.inj (hf.symm.trans hf')
    obtain rfl : m = m' := Option.some.inj (hm.symm.trans hm')
    rfl

/-! ## Storing a line always succeeds -/

/-- The positions at which a line is stored are those of a family and of a sample in it. -/
structure InBounds (s : Scrape) (l : Line) : Prop where
  family : ∀ t i, s.locate l.family = (t, i) → i < t.families.length
  sample : l.part ≠ .plain → ∀ t i u k, s.locate l.family = (t, i) →
    t.slot i (s.kindOf l.family) l.labels = (u, k) →
    ∃ f, u.families[i]? = some f ∧ k < f.samples.length

/-- A part goes into a sample of the shape for its kind. -/
theorem exists_fill {kind : Kind} {m : Sample} (hfits : m.fits kind = true)
    (hbelongs : belongs kind l.part = true) (hpart : l.part ≠ .plain) :
    ∃ filled, Scrape.fill m l = .ok filled := by
  obtain ⟨name, part, labels, value, timestamp⟩ := l
  cases m with
  | plain p => cases kind <;> cases part <;> simp_all [belongs, isFolded, Sample.fits]
  | summary m =>
    cases kind <;> simp only [Sample.fits, Bool.false_eq_true] at hfits
    cases part <;> simp_all [belongs, Scrape.fill]
  | histogram m =>
    cases kind <;> simp only [Sample.fits, Bool.false_eq_true] at hfits
    cases part <;> simp_all [belongs, Scrape.fill]

/-- An entry that was found or added is one of the old ones or the fresh one. -/
theorem of_upsert_eq {β κ : Type} [DecidableEq κ] {key : β → κ} {p : β → Prop} {k : κ} {i : Nat}
    {fresh y : β} {ys zs : List β} (hupsert : ∀ change, upsert key k fresh change ys = zs.set i (change y))
    (hget : zs[i]? = some y) (h : ∀ z ∈ ys, p z) (hfresh : p fresh) : p y := by
  have hsame : upsert key k fresh id ys = zs := by
    obtain ⟨hlt, rfl⟩ := List.getElem?_eq_some_iff.mp hget
    rw [hupsert id]
    exact List.set_getElem_self hlt
  have hmem : y ∈ upsert key k fresh id ys := hsame ▸ List.mem_of_getElem? hget
  exact forall_mem_upsert h hfresh (fun _ hz => hz) y hmem

/-- **Every line can be stored**, at a place that exists. -/
theorem WellKept.record (h : WellKept s) (hconsistent : Consistent s)
    (hbelongs : belongs (s.kindOf l.family) l.part = true) :
    InBounds s l ∧ ∃ s', s.record l = .ok s' := by
  obtain ⟨t, i, f, hlocate, ht⟩ := hconsistent.locate l.family
  have hkind : f.kind = s.kindOf l.family := by
    rw [ht.consistent.kinds f (List.mem_of_getElem? ht.get), ht.name_eq, kindOf_eq ht.types]
  have hshaped : f.wellShaped = true :=
    of_upsert_eq (p := fun g => g.wellShaped = true) ht.upsert_eq ht.get h.shaped rfl
  have hlt := (List.getElem?_eq_some_iff.mp ht.get).1
  by_cases hpart : l.part = .plain
  · refine ⟨⟨fun t' i' heq => ?_, fun hne => absurd hpart hne⟩, ?_⟩
    · obtain ⟨rfl, rfl⟩ := Prod.mk.inj (hlocate.symm.trans heq)
      exact hlt
    · simp only [Scrape.record, hpart, if_true]
      exact ⟨_, rfl⟩
  · have hfolded : isFolded f.kind = true := by
      rw [hkind, isFolded_of_belongs hbelongs]
      simpa using hpart
    obtain ⟨u, k, ms, m, hslot, hu⟩ := ht.consistent.slot ht.get hfolded l.labels
    have hall : ∀ m ∈ f.samples, m.fits f.kind = true := List.all_eq_true.mp hshaped
    have hfits : m.fits f.kind = true :=
      of_upsert_eq (p := fun m => m.fits f.kind = true) hu.upsert_eq hu.get hall
        (fits_blankSample hfolded l.labels)
    obtain ⟨filled, hfill⟩ := exists_fill hfits (hkind ▸ hbelongs) hpart
    rw [hkind] at hslot
    refine ⟨⟨fun t' i' heq => ?_, fun _ t' i' u' k' heq heq' => ?_⟩, ?_⟩
    · obtain ⟨rfl, rfl⟩ := Prod.mk.inj (hlocate.symm.trans heq)
      exact hlt
    · obtain ⟨rfl, rfl⟩ := Prod.mk.inj (hlocate.symm.trans heq)
      obtain ⟨rfl, rfl⟩ := Prod.mk.inj (hslot.symm.trans heq')
      exact ⟨_, hu.get_family, (List.getElem?_eq_some_iff.mp hu.get).1⟩
    · simp only [Scrape.record, hlocate, if_neg hpart, hslot, samplesAt_eq hu.get_family, hu.get, hfill]
      exact ⟨_, rfl⟩

/-! ## The complaint about a misfit -/

theorem bind_ne_misfit {α β : Type} {x : Except LineError α} {f : α → Except LineError β}
    (hx : x ≠ .error .misfit) (hf : ∀ a, x = .ok a → f a ≠ .error .misfit) :
    x.bind f ≠ .error .misfit := by
  cases x with
  | ok a => exact hf a rfl
  | error e => simpa [Except.bind] using hx

theorem checkName_ne_misfit (name : List Char) : checkName name ≠ .error .misfit := by
  unfold checkName
  split <;> simp

theorem labelPair_ne_misfit (cs : List Char) : labelPair cs ≠ .error .misfit := by
  unfold labelPair
  dsimp only
  repeat' split
  all_goals simp

theorem labelsFrom_ne_misfit (labels : Labels) (cs : List Char) :
    labelsFrom labels cs ≠ .error .misfit := by
  fun_induction labelsFrom labels cs with
  | case1 => simp
  | case2 labels cs _ e hpair =>
    have h := labelPair_ne_misfit (Text.trimStart cs)
    rw [hpair] at h
    simpa using h
  | case3 => simp
  | case4 _ _ _ _ _ _ _ _ _ _ ih => exact ih
  | case5 => simp
  | case6 => simp

theorem valueAndTime_ne_misfit (name : String) (cs : List Char) :
    Scrape.valueAndTime name cs ≠ .error .misfit := by
  unfold Scrape.valueAndTime
  repeat' split
  all_goals simp

theorem resolve_ne_misfit (s : Scrape) (name : List Char) (labels : Labels) :
    s.resolve name labels ≠ .error .misfit := by
  unfold Scrape.resolve
  dsimp only
  repeat' split
  all_goals simp

theorem parseLine_ne_misfit (s : Scrape) (cs : List Char) : s.parseLine cs ≠ .error .misfit := by
  unfold Scrape.parseLine
  dsimp only
  split
  · simp [throw, throwThe, MonadExceptOf.throw, bind, Except.bind]
  · refine bind_ne_misfit (checkName_ne_misfit _) fun _ _ => ?_
    -- with labels in braces or without
    split
    all_goals
      refine bind_ne_misfit ?_ fun _ _ => ?_
      · first | exact labelsFrom_ne_misfit _ _ | simp
      refine bind_ne_misfit (valueAndTime_ne_misfit _ _) fun _ _ => ?_
      refine bind_ne_misfit (resolve_ne_misfit s _ _) fun _ _ => ?_
      simp [pure, Except.pure]

theorem sentence_ne_misfit (cs : List Char) : sentence cs ≠ .error .misfit := by
  unfold sentence
  dsimp only
  split
  · simp
  split
  · unfold commentSentence
    dsimp only
    split
    · exact bind_ne_misfit (checkName_ne_misfit _) fun _ _ => by simp [pure, Except.pure]
    split
    · refine bind_ne_misfit (checkName_ne_misfit _) fun _ _ => ?_
      split <;> simp [throw, throwThe, MonadExceptOf.throw, pure, Except.pure]
    · simp
  · simp

/-- A line is read without the complaint. -/
theorem Gathered.line_ne_misfit (h : Gathered s lines) (cs : List Char) :
    s.line cs ≠ .error .misfit := by
  rw [line_eq]
  refine bind_ne_misfit (sentence_ne_misfit cs) fun said _ => ?_
  cases said with
  | nothing | help => simp [Scrape.take]
  | declaration name kind =>
    simp only [Scrape.take]
    repeat' split
    all_goals simp
  | value text =>
    refine bind_ne_misfit (parseLine_ne_misfit s text) fun l hl => ?_
    obtain ⟨-, s', hs'⟩ := h.wellKept.record h.consistent (belongs_of_parseLine hl)
    simp [hs']

theorem Gathered.readLines_ne_misfit (h : Gathered s lines) (css : List (List Char))
    (number number' : Nat) : s.readLines number css ≠ .error (number', .misfit) := by
  induction css generalizing s lines number with
  | nil => simp [Scrape.readLines]
  | cons cs css ih =>
    rw [Scrape.readLines]
    cases hline : s.line cs with
    | error e =>
      have hne := h.line_ne_misfit cs
      rw [hline] at hne
      simpa using fun _ => hne
    | ok t =>
      have hread : s.readLines number [cs] = .ok t := by
        rw [Scrape.readLines, hline]
        rfl
      obtain ⟨more, -, ht, -⟩ := h.readLines hread
      exact ih ht (number + 1)

/-- **The books are in order after every line**: whatever lines have been read, every name and every
set of labels leads to the one place where it stands, and the line that comes next is stored at a
place that exists. No line of any text is taken for a misfit. -/
theorem books_in_order :
    (∀ css s, Scrape.readLines {} 1 css = .ok s →
      WellKept s ∧ ∀ cs l, s.parseLine cs = .ok l → InBounds s l) ∧
    ∀ text number, parse text ≠ .error (number, .misfit) := by
  refine ⟨fun css s hread => ?_, fun text number hparse => ?_⟩
  · obtain ⟨lines, -, hgathered, -⟩ := Gathered.nothing.readLines hread
    have hkept := hgathered.wellKept
    exact ⟨hkept, fun cs l hl => (hkept.record hgathered.consistent (belongs_of_parseLine hl)).1⟩
  · have hne := Gathered.nothing.readLines_ne_misfit (Text.lines text.toList) 1 number
    unfold parse at hparse
    cases hread : Scrape.readLines {} 1 (Text.lines text.toList) with
    | ok s =>
      rw [hread] at hparse
      cases hparse
    | error e =>
      rw [hread] at hparse hne
      cases hparse
      exact hne rfl

/-- A summary with two series, declared in front of them, and a family between the two. -/
def summaryLines : List (List Char) :=
  ["# TYPE t summary", "t\x7bquantile=\"0.5\"\x7d 1", "up 2", "t_count\x7bzone=\"b\"\x7d 4"].map
    String.toList

/-- The sum of the first series. -/
def sumLine : List Char :=
  "t_sum 3".toList

/-- The books are in order once these lines are read, and there is a place for the sum of the first
series. -/
theorem books_in_order_summary :
    ∃ s l, Scrape.readLines {} 1 summaryLines = .ok s ∧
      s.families.map (fun f => (f.name, f.samples.length)) = [("t", 2), ("up", 1)] ∧
      s.parseLine sumLine = .ok l ∧ WellKept s ∧ InBounds s l := by
  have hread : ((Scrape.readLines {} 1 summaryLines).toOption.bind fun s =>
      (s.parseLine sumLine).toOption.map fun _ =>
        s.families.map fun f => (f.name, f.samples.length)) = some [("t", 2), ("up", 1)] := by
    decide +kernel
  cases hs : Scrape.readLines {} 1 summaryLines with
  | error e => simp [hs, Except.toOption] at hread
  | ok s =>
    cases hl : s.parseLine sumLine with
    | error e => simp [hs, hl, Except.toOption] at hread
    | ok l =>
      obtain ⟨hkept, hplace⟩ := books_in_order.1 _ _ hs
      exact ⟨s, l, rfl, by simpa [hs, hl, Except.toOption] using hread, hl, hkept, hplace _ _ hl⟩

end Exposition

end Assay
