import Assay.Proofs.Exposition.Holds

/-!
# Written families are read back

Every line that is written for a family takes a scrape that holds the families in front of it one
step further, so that reading the whole text gives all families back.
-/

namespace Assay

open Assay.Metric

namespace Exposition

/-! ## Reading line by line -/

/-- Reading lines leads from one scrape to another. -/
inductive Reads : Scrape → List (List Char) → Scrape → Prop where
  | nil (s : Scrape) : Reads s [] s
  | cons {s s' s'' : Scrape} {l : List Char} {ls : List (List Char)} (hl : s.line l = .ok s')
      (h : Reads s' ls s'') : Reads s (l :: ls) s''

variable {s s' s'' : Scrape}

theorem Reads.append {ls ls' : List (List Char)} (h : Reads s ls s') (h' : Reads s' ls' s'') :
    Reads s (ls ++ ls') s'' := by
  induction h with
  | nil => exact h'
  | cons hl _ ih => exact .cons hl (ih h')

theorem Reads.readLines {ls : List (List Char)} (h : Reads s ls s') (number : Nat) :
    s.readLines number ls = .ok s' := by
  induction h generalizing number with
  | nil => rfl
  | cons hl _ ih =>
    rw [Scrape.readLines, hl]
    exact ih (number + 1)

/-- Only the first line depends on where reading starts. -/
theorem Reads.of_line_eq {t : Scrape} {l : List Char} {ls : List (List Char)}
    (heq : s.line l = t.line l) (h : Reads t (l :: ls) s') : Reads s (l :: ls) s' := by
  cases h with
  | cons hl hrest => exact .cons (heq.trans hl) hrest

variable {F : List Family} {f : Family} {ms : List Sample}

/-! ## Reading samples -/

theorem LineFits.part_ne_plain {kind : Kind} {name : String} {labels : Labels} {l : Line}
    (h : LineFits kind name labels l) (hfolded : isFolded kind = true) : l.part ≠ .plain := by
  intro heq
  have hpart := h.part
  simp [heq, belongs, hfolded] at hpart

section Samples

variable (hnew : ∀ g ∈ F, g.name ≠ f.name) (hapart : Apart (F ++ [f]))

include hnew hapart

/-- Lines go on filling the last sample. -/
theorem reads_fill (hfolded : isFolded f.kind = true) {ls : List Line} {m m' : Sample}
    (h : Holds s (reading F f (ms ++ [m]))) (hnone : m.labels ∉ ms.map Sample.labels)
    (hfits : ∀ l ∈ ls, LineFits f.kind f.name m.labels l)
    (hfill : ls.foldlM Scrape.fill m = .ok m') :
    ∃ s', Reads s (ls.map Line.text) s' ∧ Holds s' (reading F f (ms ++ [m'])) := by
  induction ls generalizing s m with
  | nil =>
    obtain rfl : m = m' := Except.ok.inj hfill
    exact ⟨s, .nil s, h⟩
  | cons l ls ih =>
    rw [List.forall_mem_cons] at hfits
    obtain ⟨hl, hls⟩ := hfits
    rw [List.foldlM_cons] at hfill
    cases hfilled : Scrape.fill m l with
    | error e =>
      rw [hfilled] at hfill
      cases hfill
    | ok m₁ =>
      rw [hfilled] at hfill
      have hkeeps := fill_labels hfilled
      obtain ⟨s₁, hrecord, hholds⟩ := h.record_fill hnew hfolded hnone hl.family
        (hl.part_ne_plain hfolded) hl.labels hfilled hkeeps
      obtain ⟨s', hreads, hend⟩ := ih hholds (hkeeps ▸ hnone) (hkeeps ▸ hls) hfill
      exact ⟨s', .cons ((h.line hnew hapart hl).trans hrecord) hreads, hend⟩

/-- **The lines of a sample store it behind the samples before it.** -/
theorem reads_sample (h : Holds s (reading F f ms)) (hname : isMetricName f.name.toList = true)
    {m : Sample} (hfits : m.fits f.kind = true) (hm : SampleWritable m)
    (hnone : isFolded f.kind = true → m.labels ∉ ms.map Sample.labels) :
    ∃ s', Reads s ((sampleLines f.name m).map Line.text) s' ∧
      Holds s' (reading F f (ms ++ [m])) := by
  rcases sample_cases hfits hm with ⟨hplain, p, rfl, hp⟩ | ⟨hfolded, m, rfl, hm, hlines⟩
  · have hl := plainLine_fits hplain hp hname
    obtain ⟨s', hrecord, hholds⟩ := h.record_plain hnew hplain hl.family rfl
    exact ⟨s', .cons ((h.line hnew hapart hl).trans hrecord) (.nil s'), hholds⟩
  · have hnone := hnone hfolded
    rw [Folded.labels_sample] at hnone
    rw [hlines]
    have hall := Folded.lines_fit hfolded hm hname
    have hfill := Folded.fill_lines hm f.name
    have hslot := h.slot hfolded hnone
    obtain ⟨s', hreads, hholds⟩ := reads_fill hnew hapart hfolded hslot
      (by simpa using hnone) (by simpa using hall) hfill
    refine ⟨s', ?_, hholds⟩
    cases hcons : m.lines f.kind f.name with
    | nil => exact absurd hcons (Folded.lines_ne_nil hm)
    | cons l ls =>
      -- the sample is added when its first line is stored
      have hl := hall l (by simp [hcons])
      rw [hcons, List.map_cons] at hreads
      refine .of_line_eq ?_ hreads
      have hadd := h.record_slot hnew hfolded hl.family (hl.part_ne_plain hfolded)
        (by rw [hl.labels]; exact hnone)
      rw [hl.labels] at hadd
      rw [h.line hnew hapart hl, hslot.line hnew hapart hl, hadd]

/-- The lines of samples store them behind the samples before them. -/
theorem reads_samples (hf : FamilyWritable f) {done rest : List Sample}
    (hsamples : f.samples = done ++ rest) (h : Holds s (reading F f done)) :
    ∃ s', Reads s ((rest.flatMap (sampleLines f.name)).map Line.text) s' ∧
      Holds s' (reading F f f.samples) := by
  induction rest generalizing s done with
  | nil =>
    rw [List.append_nil] at hsamples
    exact ⟨s, .nil s, hsamples ▸ h⟩
  | cons m rest ih =>
    have hmem : m ∈ f.samples := by simp [hsamples]
    have hnone : isFolded f.kind = true → m.labels ∉ done.map Sample.labels := by
      intro hfolded hlabels
      have hdistinct := hf.distinct hfolded
      rw [hsamples, List.map_append, List.map_cons, List.nodup_append] at hdistinct
      exact hdistinct.2.2 _ hlabels _ List.mem_cons_self rfl
    obtain ⟨s₁, hreads₁, h₁⟩ := reads_sample hnew hapart h hf.name
      (List.all_eq_true.mp hf.shaped m hmem) (hf.samples m hmem) hnone
    obtain ⟨s', hreads, h'⟩ := ih (by simp [hsamples]) h₁
    refine ⟨s', ?_, h'⟩
    rw [List.flatMap_cons, List.map_append]
    exact hreads₁.append hreads

end Samples

/-! ## Reading comment lines -/

theorem nextWord_append {w : List Char} (hw : ∀ c ∈ w, Text.isBlank c = false) (rest : List Char) :
    Scrape.nextWord (w ++ ' ' :: rest) = (w, rest) :=
  nextWord_word hw (by simp [show Text.isBlank ' ' = true by decide])

theorem line_commentText {keyword rest : List Char} (hkeyword : Text.IsWord keyword)
    (hrest : rest ≠ []) (htrim : Text.trim rest = rest) (s : Scrape) (name : List Char) :
    s.line (commentText keyword name rest) =
      s.comment (keyword ++ ' ' :: (name ++ ' ' :: rest)) := by
  have hsplit : commentText keyword name rest =
      ('#' :: ' ' :: (keyword ++ ' ' :: (name ++ [' ']))) ++ rest := by
    simp [commentText]
  have htext : Text.trim (commentText keyword name rest) = commentText keyword name rest := by
    refine Text.trim_eq_self (fun c hc => ?_) fun c hc => ?_
    · obtain rfl : '#' = c := by simpa [commentText] using hc
      decide
    · rw [hsplit, List.getLast?_append, Option.or_of_isSome (by simpa using hrest)] at hc
      exact (Text.ends_of_trim htrim).2 c hc
  have hstart : Text.trimStart (' ' :: (keyword ++ ' ' :: (name ++ ' ' :: rest))) =
      keyword ++ ' ' :: (name ++ ' ' :: rest) := by
    obtain ⟨hne, hblank⟩ := hkeyword
    cases keyword with
    | nil => exact absurd rfl hne
    | cons c keyword =>
      rw [Text.trimStart, List.dropWhile_cons_of_pos (by decide)]
      exact Text.trimStart_cons (hblank c List.mem_cons_self) _
  rw [Scrape.line, htext, commentText]
  simp only [hstart]

theorem isWord_help : Text.IsWord "HELP".toList := by
  decide

theorem isWord_type : Text.IsWord "TYPE".toList := by
  decide

/-- A help line is stored. -/
theorem line_help {f : Family} (hf : FamilyWritable f) (hhelp : f.help ≠ "") (s : Scrape) :
    s.line (commentText "HELP".toList f.name.toList (escape false f.help.toList)) =
      .ok { s with help := s.help.insert f.name f.help } := by
  have htrim := trim_escape hf.help false
  have hne : escape false f.help.toList ≠ [] := by
    intro hnil
    have hempty := unescapeHelp_escape f.help.toList
    rw [hnil, unescapeHelp] at hempty
    exact hhelp (String.toList_inj.mp hempty.symm)
  have hname := (isWord_of_isMetricName hf.name).2
  rw [line_commentText isWord_help hne htrim, Scrape.comment, nextWord_append isWord_help.2]
  simp only [nextWord_append hname, htrim, String.ofList_toList]
  simp [checkName, hf.name, unescapeHelp_escape]

theorem isWord_kind (kind : Kind) : Text.IsWord (Text.lowered kind.name).toList := by
  cases kind <;> decide

theorem ofName_lowered (kind : Kind) : Kind.ofName (Text.lowered kind.name) = .ok kind := by
  cases kind <;> decide

/-- A line that declares a kind is stored, if the family has neither lines nor a kind yet. -/
theorem line_type {f : Family} (hf : FamilyWritable f) {s : Scrape}
    (hposition : s.positions.get? f.name = none) (htype : s.types.get? f.name = none) :
    s.line (commentText "TYPE".toList f.name.toList (Text.lowered f.kind.name).toList) =
      .ok { s with types := s.types.insert f.name f.kind } := by
  have hkind := isWord_kind f.kind
  have hname := (isWord_of_isMetricName hf.name).2
  rw [line_commentText isWord_type hkind.1 (hkind.trim), Scrape.comment,
    nextWord_append isWord_type.2]
  simp only [nextWord_append hname, hkind.trim, String.ofList_toList]
  simp only [checkName, hf.name, if_true, Scrape.declareType, String.ofList_toList,
    ofName_lowered, Dictionary.contains, hposition, htype]
  rfl

/-- The scrape in which a family has been declared and stands without samples. -/
def opened (s : Scrape) (f : Family) : Scrape where
  families := s.families ++ [{ name := f.name, kind := f.kind }]
  positions := s.positions.insert f.name s.families.length
  types := s.types.insert f.name f.kind
  help := if f.help = "" then s.help else s.help.insert f.name f.help
  series := s.series

theorem holds_opened (h : Holds s F) (hnew : ∀ g ∈ F, g.name ≠ f.name) :
    Holds (opened s f) (reading F f []) := by
  have hindex := findIdx?_new hnew
  have hfind := find?_new hnew
  constructor
  · rw [opened, h.families, reading, List.map_append]
    rfl
  · intro name
    simp only [opened, Dictionary.get?_insert, h.positions, h.families, List.length_map]
    rw [findIdx?_reading (· = name)]
    by_cases hname : name = f.name
    · rw [if_pos hname, hname, hindex]
      simp
    · simp [hname, Ne.symm hname]
  · intro name
    simp only [opened, Dictionary.get?_insert, h.types]
    rw [find?_reading (· = name)]
    by_cases hname : name = f.name
    · rw [if_pos hname, hname, hfind]
      simp
    · simp [hname, Ne.symm hname]
  · intro name
    simp only [opened]
    rw [find?_reading (· = name)]
    have hold := h.help name
    by_cases hname : name = f.name
    · rw [hname, hfind] at hold ⊢
      by_cases hempty : f.help = ""
      · rw [if_pos hempty, hold]
        simp [hempty]
      · rw [if_neg hempty, Dictionary.get?_insert_self]
        simp
    · have hsame : (if f.help = "" then s.help else s.help.insert f.name f.help).get? name =
          s.help.get? name := by
        split
        · rfl
        · rw [Dictionary.get?_insert, if_neg hname]
      rw [hsame, hold]
      simp [Ne.symm hname]
  · intro i labels
    rw [opened, h.series]
    by_cases hi : i = F.length
    · rw [hi, getElem?_reading_length, List.getElem?_eq_none (Nat.le_refl _)]
      simp
    · rw [getElem?_reading_ne hi]

/-- **The comment lines of a family declare it.** The first line of a sample then opens it. -/
theorem reads_header (h : Holds s F) (hf : FamilyWritable f) (hnew : ∀ g ∈ F, g.name ≠ f.name) :
    ∃ s₁, Reads s (headerTexts f) s₁ ∧ s₁.types = (opened s f).types ∧
      s₁.locate f.name = (opened s f, F.length) := by
  have hposition : s.positions.get? f.name = none := by
    rw [h.positions, findIdx?_new hnew]
  have htype : s.types.get? f.name = none := by
    rw [h.types, find?_new hnew]
    rfl
  have hlength : s.families.length = F.length := by rw [h.families, List.length_map]
  by_cases hhelp : f.help = ""
  · refine ⟨{ s with types := s.types.insert f.name f.kind }, ?_, rfl, ?_⟩
    · rw [headerTexts, if_pos hhelp]
      exact .cons (line_type hf hposition htype) (.nil _)
    · simp [Scrape.locate, hposition, opened, hhelp, hlength, Scrape.kindOf, Scrape.declared?]
  · refine ⟨{ s with
      types := s.types.insert f.name f.kind
      help := s.help.insert f.name f.help }, ?_, rfl, ?_⟩
    · rw [headerTexts, if_neg hhelp]
      exact .cons (line_help hf hhelp s) (.cons (line_type hf hposition htype) (.nil _))
    · simp [Scrape.locate, hposition, opened, hhelp, hlength, Scrape.kindOf, Scrape.declared?]

theorem record_locate {t : Scrape} {l : Line} {i : Nat} (htypes : s.types = t.types)
    (hlocate : s.locate l.family = (t, i)) (hsame : t.locate l.family = (t, i)) :
    s.record l = t.record l := by
  have hkind : s.kindOf l.family = t.kindOf l.family := by
    rw [Scrape.kindOf, Scrape.kindOf, Scrape.declared?, Scrape.declared?, htypes]
  rw [Scrape.record, Scrape.record, hkind, hlocate, hsame]

/-- **The text of a family adds it** to the families that are read before. -/
theorem reads_family (h : Holds s F) (hf : FamilyWritable f) (hnew : ∀ g ∈ F, g.name ≠ f.name)
    (hapart : Apart (F ++ [f])) :
    ∃ s', Reads s (familyTexts f) s' ∧ Holds s' (F ++ [f]) := by
  obtain ⟨s₁, hheader, htypes, hlocate⟩ := reads_header h hf hnew
  have hopened := holds_opened h hnew
  obtain ⟨s', hreads, hholds⟩ := reads_samples hnew hapart hf rfl hopened
  refine ⟨s', hheader.append ?_, hholds⟩
  cases hlines : familyLines f with
  | nil => exact absurd hlines (familyLines_ne_nil hf)
  | cons l ls =>
    -- the first line finds the family declared only, and opens it
    obtain ⟨m, hm, hl⟩ := List.mem_flatMap.mp
      (show l ∈ f.samples.flatMap (sampleLines f.name) by
        rw [← familyLines, hlines]
        exact List.mem_cons_self)
    have hfits := familyLines_fit hf hm l hl
    have hresolve := hopened.resolve hnew hapart hfits
    rw [resolve_types, ← htypes, ← resolve_types] at hresolve
    have hrecord : s₁.record l = (opened s f).record l :=
      record_locate htypes (hfits.family ▸ hlocate) (hfits.family ▸ hopened.locate hnew)
    rw [← familyLines, hlines, List.map_cons] at hreads
    refine .of_line_eq ?_ hreads
    rw [Line.line_text hfits.writable hresolve, hrecord, hopened.line hnew hapart hfits]

/-- The text of several families adds all of them. -/
theorem reads_families {before rest : List Family} (hall : Writable (before ++ rest))
    (h : Holds s before) :
    ∃ s', Reads s (rest.flatMap familyTexts) s' ∧ Holds s' (before ++ rest) := by
  induction rest generalizing s before with
  | nil => exact ⟨s, .nil s, by rwa [List.append_nil]⟩
  | cons f rest ih =>
    have hmem : ∀ g ∈ before ++ [f], g ∈ before ++ f :: rest := by
      intro g hg
      simp only [List.mem_append, List.mem_cons] at hg ⊢
      tauto
    have hnew : ∀ g ∈ before, g.name ≠ f.name := by
      intro g hg
      have hnames := hall.names
      rw [List.map_append, List.map_cons, List.nodup_append] at hnames
      exact hnames.2.2 _ (List.mem_map_of_mem hg) _ List.mem_cons_self
    have hapart : Apart (before ++ [f]) := fun g hg g' hg' => hall.apart g (hmem g hg) g' (hmem g' hg')
    obtain ⟨s₁, hreads₁, h₁⟩ := reads_family h (hall.each f (by simp)) hnew hapart
    have hsplit : before ++ f :: rest = before ++ [f] ++ rest := by simp
    rw [hsplit] at hall ⊢
    obtain ⟨s', hreads, h'⟩ := ih hall h₁
    refine ⟨s', ?_, h'⟩
    rw [List.flatMap_cons]
    exact hreads₁.append hreads

/-! ## The whole text -/

theorem newline_notMem_commentText {keyword name rest : List Char} (hkeyword : '\n' ∉ keyword)
    (hname : '\n' ∉ name) (hrest : '\n' ∉ rest) : '\n' ∉ commentText keyword name rest := by
  simp [commentText, hkeyword, hname, hrest]

theorem newline_notMem_familyTexts (hf : FamilyWritable f) : ∀ l ∈ familyTexts f, '\n' ∉ l := by
  have hname : '\n' ∉ f.name.toList := by
    intro hmem
    exact absurd ((isWord_of_isMetricName hf.name).2 _ hmem) (by decide)
  have hkind : '\n' ∉ (Text.lowered f.kind.name).toList := by
    intro hmem
    exact absurd ((isWord_kind f.kind).2 _ hmem) (by decide)
  intro l hl
  rw [familyTexts, headerTexts, List.mem_append, List.mem_append] at hl
  rcases hl with (hl | hl) | hl
  · split at hl
    · cases hl
    · rw [List.mem_singleton.mp hl]
      exact newline_notMem_commentText (by decide) hname (newline_notMem_escape false _)
  · rw [List.mem_singleton.mp hl]
    exact newline_notMem_commentText (by decide) hname hkind
  · obtain ⟨line, hline, rfl⟩ := List.mem_map.mp hl
    obtain ⟨m, hm, hline⟩ := List.mem_flatMap.mp hline
    exact Line.newline_notMem_text (familyLines_fit hf hm line hline).writable

/-- **Families that are written and read again are the same.** -/
theorem parse_write (fs : List Family) (h : Writable fs) : parse (write fs) = .ok fs := by
  have hlines : Text.lines (write fs).toList = fs.flatMap familyTexts ++ [[]] := by
    rw [write, String.toList_ofList]
    refine Text.lines_joined fun l hl => ?_
    obtain ⟨f, hf, hl⟩ := List.mem_flatMap.mp hl
    exact newline_notMem_familyTexts (h.each f hf) l hl
  have hstart : Writable ([] ++ fs) := h
  obtain ⟨s, hreads, hholds⟩ := reads_families hstart holds_nil
  -- behind the last line feed there is an empty line
  have hlast : s.line [] = .ok s := rfl
  have hall := (hreads.append (.cons hlast (.nil s))).readLines 1
  rw [parse, hlines, hall]
  exact congrArg Except.ok (hholds.finish h.names)

/-- Families of three kinds, with what has to be escaped and what is left out. -/
def exampleFamilies : List Family :=
  [{ name := "requests_total", help := "a\\b\nc", kind := .counter,
     samples := [.plain
      { labels := .ofList [("path", "a\"\x7d\n")], timestamp := some "-5", value := "1e3" }] },
   { name := "latency", kind := .summary,
     samples := [.summary
      { timestamp := some "1", quantiles := .ofList [("0.5", "+Inf")], count := "3" }] },
   { name := "size", kind := .histogram,
     samples := [.histogram { buckets := .ofList [("1", "2"), ("+Inf", "3")], sum := "4" },
       .histogram { labels := .ofList [("le_", "")], count := "0" }] }]

theorem parse_write_exampleFamilies :
    Writable exampleFamilies ∧ parse (write exampleFamilies) = .ok exampleFamilies :=
  ⟨by decide +kernel, parse_write exampleFamilies (by decide +kernel)⟩

end Exposition

end Assay
