import Assay.Proofs.Exposition.Collecting

/-!
# What is stored

Whatever a text holds, what is read of it is in order: every value is a number, wherever it is
stored, and the names of the families hold no blank and are all different. A line is in order since
it was checked when it was read, and what is made up of lines holds their values.
-/

namespace Assay

open Assay.Metric

namespace Exposition

/-! ## Lines -/

/-- A line in order: the name of its family holds no blank, and its value is a number. -/
structure Line.Sound (l : Line) : Prop where
  family : ∀ c ∈ l.family.toList, Text.isBlank c = false
  value : IsValueText l.value

theorem isValueText_of_valueAndTime {name value : String} {timestamp : Option String}
    {cs : List Char} (h : Scrape.valueAndTime name cs = .ok (value, timestamp)) :
    IsValueText value := by
  unfold Scrape.valueAndTime at h
  split at h
  · cases h
  · -- the value is the first word, whatever stands behind it
    rename_i word more hwords
    split at h
    · cases h
    · rename_i hvalue
      have hword : Text.IsWord word :=
        Text.isWord_of_mem_words (by rw [hwords]; exact List.mem_cons_self)
      have htext : IsValueText (String.ofList word) := by
        rw [IsValueText, String.toList_ofList]
        exact ⟨by simpa using hvalue, ((Text.isWord_iff word).mp hword).2⟩
      split at h
      · cases h
        exact htext
      · split at h
        · cases h
        · split at h
          · cases h
            exact htext
          · cases h

variable {s : Scrape}

theorem prefix_of_suffixed? {name : List Char} {base ending : String}
    (h : s.suffixed? name = some (base, ending)) : base.toList <+: name := by
  obtain ⟨e, -, -, rfl, -⟩ := suffixed?_eq_some_iff.mp h
  exact List.prefix_append _ _

/-- The name of a family stands in front in the names of its series. -/
theorem prefix_of_resolve {name : List Char} {labels rest : Labels} {family : String} {part : Part}
    (h : s.resolve name labels = .ok (family, part, rest)) : family.toList <+: name := by
  have hown : (String.ofList name).toList <+: name := by simp
  unfold Scrape.resolve at h
  dsimp only at h
  -- a series is named like its family, or it has an ending
  split at h
  · split at h <;> cases h
    exact hown
  · cases h
  · split at h
    · cases h
      exact hown
    · rename_i hseries
      split at h <;> cases h
      exact prefix_of_suffixed? hseries
    · rename_i hseries
      cases h
      exact prefix_of_suffixed? hseries
    · rename_i hseries
      cases h
      exact prefix_of_suffixed? hseries

theorem sound_of_parseLine {cs : List Char} {l : Line} (h : s.parseLine cs = .ok l) : l.Sound := by
  obtain ⟨hname, labels, rest, hvalue, hresolve⟩ := exists_series_of_parseLine h
  refine ⟨fun c hc => ?_, isValueText_of_valueAndTime hvalue⟩
  exact (isWord_of_isMetricName hname).2 c ((prefix_of_resolve hresolve).subset hc)

theorem sound_of_mem_valueLines {types : Dictionary Kind} {css : List (List Char)}
    {lines : List Line} (h : valueLines types css = .ok lines) : ∀ l ∈ lines, l.Sound := by
  -- which kinds are declared in front of a line does not matter here
  induction css generalizing types lines with
  | nil =>
    cases h
    simp
  | cons cs css ih =>
    rw [valueLines] at h
    obtain ⟨said, -, h⟩ := bind_eq_ok h
    cases said with
    | nothing => exact ih h
    | help name text => exact ih h
    | declaration name kind => exact ih h
    | value text =>
      obtain ⟨l, hl, h⟩ := bind_eq_ok h
      obtain ⟨more, hmore, h⟩ := bind_eq_ok h
      cases h
      exact List.forall_mem_cons.mpr ⟨sound_of_parseLine hl, ih hmore⟩

/-! ## Samples -/

/-- A folded sample in which every text but the labels is a number. Its sum and its count may be
missing. -/
structure Folded.Numeric (m : Folded) : Prop where
  entries : ∀ e ∈ m.entries.entries, IsValueText e.2
  sum : m.sum ≠ "" → IsValueText m.sum
  count : m.count ≠ "" → IsValueText m.count

/-- A sample in which every text but the labels is a number. -/
def SampleNumeric : Sample → Prop
  | .plain s => IsValueText s.value
  | .summary m => (Folded.ofSummary m).Numeric
  | .histogram m => (Folded.ofHistogram m).Numeric

theorem Folded.Numeric.sample {m : Folded} (h : m.Numeric) (kind : Kind) :
    SampleNumeric (m.sample kind) := by
  unfold Folded.sample
  split <;> exact h

theorem exists_of_lastValue? {own : List Line} {part : Part} {v : String}
    (h : lastValue? own part = some v) : ∃ l ∈ own, l.value = v := by
  induction own using List.reverseRecOn with
  | nil => cases h
  | append_singleton own l ih =>
    rw [lastValue?_concat] at h
    split at h
    · exact ⟨l, by simp, Option.some.inj h⟩
    · obtain ⟨l', hl', hv⟩ := ih h
      exact ⟨l', by simp [hl'], hv⟩

theorem Folded.MadeOf.numeric {kind : Kind} {own : List Line} {m : Folded} (h : m.MadeOf kind own)
    (hown : ∀ l ∈ own, l.Sound) : m.Numeric := by
  have hlast : ∀ part v, lastValue? own part = some v → IsValueText v := by
    intro part v hv
    obtain ⟨l, hl, rfl⟩ := exists_of_lastValue? hv
    exact (hown l hl).value
  have htotal : ∀ part, (lastValue? own part).getD "" ≠ "" →
      IsValueText ((lastValue? own part).getD "") := by
    intro part hne
    cases hv : lastValue? own part with
    | none => simp [hv] at hne
    | some v => exact hlast part v hv
  refine ⟨fun e he => ?_, ?_, ?_⟩
  · rw [Dictionary.mem_entries_iff, h.entries] at he
    exact hlast _ _ he
  · rw [h.sum]
    exact htotal .sum
  · rw [h.count]
    exact htotal .count

theorem MadeOf.numeric {css : List (List Char)} {own : List Line} {f : Family}
    (h : MadeOf css own f) (hown : ∀ l ∈ own, l.Sound) : ∀ s ∈ f.samples, SampleNumeric s := by
  intro s hs
  cases hfolded : isFolded f.kind with
  | false =>
    rw [h.plain hfolded, List.mem_map] at hs
    obtain ⟨l, hl, rfl⟩ := hs
    exact (hown l hl).value
  | true =>
    obtain ⟨m, rfl, hm⟩ := h.folded hfolded s hs
    exact (hm.numeric fun l hl => hown l (List.mem_of_mem_filter hl)).sample f.kind

/-! ## Families -/

/-- Families in order: their names hold no blank and are all different, and every text in their
samples but the labels is a number. -/
structure FamiliesSound (fs : List Family) : Prop where
  names : ∀ f ∈ fs, ∀ c ∈ f.name.toList, Text.isBlank c = false
  distinct : (fs.map Family.name).Nodup
  numeric : ∀ f ∈ fs, ∀ s ∈ f.samples, SampleNumeric s

/-- The families of a text are those of the scrape that reading its lines ends with. -/
theorem exists_readLines_of_parse {text : String} {fs : List Family} (h : parse text = .ok fs) :
    ∃ s, Scrape.readLines {} 1 (Text.lines text.toList) = .ok s ∧ fs = s.finish := by
  unfold parse at h
  cases hread : Scrape.readLines {} 1 (Text.lines text.toList) with
  | error e =>
    rw [hread] at h
    cases h
  | ok s =>
    rw [hread] at h
    cases h
    exact ⟨s, rfl, rfl⟩

/-- The families of a text are those of a scrape that has gathered its value lines. -/
theorem gathered_of_parse {text : String} {fs : List Family} (h : parse text = .ok fs) :
    ∃ s lines, fs = s.finish ∧ valueLines ∅ (Text.lines text.toList) = .ok lines ∧
      Gathered s lines ∧ ∀ f ∈ fs,
        MadeOf (Text.lines text.toList) (lines.filter (·.family = f.name)) f := by
  obtain ⟨s, hread, rfl⟩ := exists_readLines_of_parse h
  obtain ⟨lines, hlines, hgathered, htypes, hhelp⟩ := Gathered.nothing.readLines hread
  rw [List.nil_append] at hgathered
  exact ⟨s, lines, rfl, hlines, hgathered, fun f hf => hgathered.madeOf htypes hhelp hf⟩

theorem map_name_finish (s : Scrape) : s.finish.map Family.name = s.families.map Family.name := by
  rw [Scrape.finish, List.map_map]
  rfl

/-- **The families of a text are in order.** -/
theorem sound_of_parse {text : String} {fs : List Family} (h : parse text = .ok fs) :
    FamiliesSound fs := by
  obtain ⟨s, lines, rfl, hlines, hgathered, hmade⟩ := gathered_of_parse h
  have hsound := sound_of_mem_valueLines hlines
  have hnames : s.finish.map Family.name = (lines.map Line.family).eraseDups := by
    rw [map_name_finish, hgathered.names]
  refine ⟨fun f hf => ?_, hnames ▸ nodup_eraseDups _, fun f hf => ?_⟩
  · -- every family has a line, which names it
    have hname : f.name ∈ (lines.map Line.family).eraseDups := hnames ▸ List.mem_map_of_mem hf
    rw [List.mem_eraseDups, List.mem_map] at hname
    obtain ⟨l, hl, hfamily⟩ := hname
    exact hfamily ▸ (hsound l hl).family
  · exact (hmade f hf).numeric fun l hl => hsound l (List.mem_of_mem_filter hl)

end Exposition

end Assay
