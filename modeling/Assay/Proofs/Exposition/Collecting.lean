import Assay.Proofs.Exposition.Sentence
import Assay.Proofs.Exposition.Storing

/-!
# What is collected of a text

The lines of many series may stand in any order. Reading them gathers the lines of each family, and
in a folded family those of each set of labels, so that the families of a text can be told from its
value lines: nothing is lost, and nothing is there twice. The invariant is that this holds of the
lines that have been read so far.
-/

namespace Assay

open Assay.Metric Dictionary

namespace Exposition

/-! ## What lines give -/

/-- The key of an entry of a folded sample. -/
def Part.key? : Part → Option String
  | .quantile q => some q
  | .bucket bound => some bound
  | _ => none

theorem key?_entryPart (kind : Kind) (key : String) : (entryPart kind key).key? = some key := by
  unfold entryPart
  split <;> rfl

theorem entryPart_inj {kind : Kind} {key key' : String} :
    entryPart kind key = entryPart kind key' ↔ key = key' := by
  refine ⟨fun h => ?_, congrArg _⟩
  have hkeys := congrArg Part.key? h
  rwa [key?_entryPart, key?_entryPart, Option.some.injEq] at hkeys

theorem eq_entryPart {kind : Kind} {part : Part} {key : String}
    (hbelongs : belongs kind part = true) (hkey : part.key? = some key) :
    part = entryPart kind key := by
  cases part <;> simp_all [belongs, entryPart, Part.key?]

/-- The entry of a folded sample that a line gives. -/
def Line.entry? (l : Line) : Option (String × String) :=
  l.part.key?.map fun key => (key, l.value)

/-- The timestamp that a line gives to a folded sample. Sums and counts give none. -/
def Line.entryTime? (l : Line) : Option String :=
  l.part.key?.bind fun _ => l.timestamp

/-- The value that the last of the lines for a part gives. -/
def lastValue? (own : List Line) (part : Part) : Option String :=
  last? (own.map fun l => (l.part, l.value)) part

theorem lastValue?_concat (own : List Line) (l : Line) (part : Part) :
    lastValue? (own ++ [l]) part = if part = l.part then some l.value else lastValue? own part := by
  rw [lastValue?, List.map_append, List.map_singleton, last?_concat]
  rfl

/-! ## Folded samples -/

/-- A folded sample is made up of lines if each of its parts is what the last line for it gives,
and its timestamp is that of the last line for an entry that has one. -/
structure Folded.MadeOf (kind : Kind) (own : List Line) (m : Folded) : Prop where
  entries : ∀ key, m.entries.get? key = lastValue? own (entryPart kind key)
  sum : m.sum = (lastValue? own .sum).getD ""
  count : m.count = (lastValue? own .count).getD ""
  timestamp : m.timestamp = (own.filterMap Line.entryTime?).getLast?

namespace Folded

/-- The folded sample that lines make up. -/
def ofLines (labels : Labels) (own : List Line) : Folded where
  labels := labels
  timestamp := (own.filterMap Line.entryTime?).getLast?
  entries := .ofList (own.filterMap Line.entry?)
  sum := (lastValue? own .sum).getD ""
  count := (lastValue? own .count).getD ""

variable {kind : Kind} {l : Line} {own : List Line} {labels : Labels}

theorem ofLines_concat_entry {key : String} (hkey : l.part.key? = some key) :
    ofLines labels (own ++ [l]) =
      { ofLines labels own with
        entries := (ofLines labels own).entries.insert key l.value
        timestamp := l.timestamp <|> (ofLines labels own).timestamp } := by
  have hother : ∀ part : Part, part.key? = none → part ≠ l.part := by
    rintro part hnone rfl
    rw [hnone] at hkey
    cases hkey
  have htime : ((own ++ [l]).filterMap Line.entryTime?).getLast? =
      (l.timestamp <|> (own.filterMap Line.entryTime?).getLast?) := by
    rw [List.filterMap_append, List.getLast?_append]
    cases ht : l.timestamp <;> simp [Line.entryTime?, hkey, ht]
  have hentries : Dictionary.ofList ((own ++ [l]).filterMap Line.entry?) =
      (Dictionary.ofList (own.filterMap Line.entry?)).insert key l.value := by
    rw [List.filterMap_append, ofList_eq_insertAll, insertAll_append]
    simp [Line.entry?, hkey, insertAll, ofList_eq_insertAll]
  simp only [ofLines, htime, hentries, lastValue?_concat, if_neg (hother .sum rfl),
    if_neg (hother .count rfl)]

theorem ofLines_concat_total (hkey : l.part.key? = none) :
    ofLines labels (own ++ [l]) =
      { ofLines labels own with
        sum := if l.part = .sum then l.value else (ofLines labels own).sum
        count := if l.part = .count then l.value else (ofLines labels own).count } := by
  have htime : l.entryTime? = none := by rw [Line.entryTime?, hkey]; rfl
  have hentry : l.entry? = none := by rw [Line.entry?, hkey]; rfl
  simp only [ofLines, List.filterMap_append, List.filterMap_cons, htime, hentry, List.filterMap_nil,
    List.append_nil, lastValue?_concat, eq_comm (b := l.part)]
  congr 1 <;> split <;> rfl

/-- **One more line** goes into the sample that the lines before it make up. -/
theorem fill_ofLines (hbelongs : belongs kind l.part = true) (hpart : l.part ≠ .plain) :
    Scrape.fill ((ofLines labels own).sample kind) l =
      .ok ((ofLines labels (own ++ [l])).sample kind) := by
  obtain ⟨name, part, labels', value, timestamp⟩ := l
  cases part with
  | plain => exact absurd rfl hpart
  | quantile q =>
    obtain rfl : kind = .summary := by simpa [belongs] using hbelongs
    rw [ofLines_concat_entry rfl]
    exact fill_entry .summary _ name q value labels' timestamp
  | bucket bound =>
    obtain rfl : kind = .histogram := by simpa [belongs] using hbelongs
    rw [ofLines_concat_entry rfl]
    exact fill_entry .histogram _ name bound value labels' timestamp
  | sum =>
    rw [ofLines_concat_total rfl]
    exact fill_sum kind _ name value labels' timestamp
  | count =>
    rw [ofLines_concat_total rfl]
    exact fill_count kind _ name value labels' timestamp

/-- The sample that lines make up is made up of them, if they give parts that it has. -/
theorem madeOf_ofLines (hown : ∀ l ∈ own, belongs kind l.part = true) :
    (ofLines labels own).MadeOf kind own where
  sum := rfl
  count := rfl
  timestamp := rfl
  entries key := by
    induction own using List.reverseRecOn with
    | nil => rfl
    | append_singleton own l ih =>
      have hbefore := ih fun l' hl' => hown l' (by simp [hl'])
      rw [lastValue?_concat, ← hbefore]
      cases hkey : l.part.key? with
      | some key' =>
        have hpart := eq_entryPart (hown l (by simp)) hkey
        rw [ofLines_concat_entry hkey, hpart]
        show ((ofLines labels own).entries.insert key' l.value).get? key = _
        rw [get?_insert]
        simp only [entryPart_inj]
      | none =>
        have hne : entryPart kind key ≠ l.part := by
          intro heq
          rw [← heq, key?_entryPart] at hkey
          cases hkey
        rw [ofLines_concat_total hkey, if_neg hne]

end Folded

/-! ## Samples of a family -/

/-- The samples that the lines of a family make up. -/
def samplesOf (kind : Kind) (own : List Line) : List Sample :=
  if isFolded kind then gather Line.labels (fun labels ls => (Folded.ofLines labels ls).sample kind) own
  else own.map Line.plain

theorem store_samplesOf {kind : Kind} {l : Line} (hbelongs : belongs kind l.part = true)
    (own : List Line) : store kind l (samplesOf kind own) = samplesOf kind (own ++ [l]) := by
  have hfolded := isFolded_of_belongs hbelongs
  by_cases hpart : l.part = .plain
  · simp [store, samplesOf, hpart, hfolded]
  · have hput : ∀ ls, (Folded.ofLines l.labels (ls ++ [l])).sample kind =
        put l ((Folded.ofLines l.labels ls).sample kind) := by
      intro ls
      rw [put, Folded.fill_ofLines hbelongs hpart]
    have hblank : (Folded.ofLines l.labels []).sample kind = Scrape.blankSample kind l.labels := by
      unfold Folded.sample Scrape.blankSample
      split <;> rfl
    simp only [hpart, ne_eq, not_false_eq_true, decide_true] at hfolded
    rw [store, if_neg hpart, samplesOf, samplesOf, if_pos hfolded, if_pos hfolded, ← hblank]
    exact (gather_concat (fun _ _ => Folded.labels_sample _ _) hput own).symm

theorem labels_samplesOf {kind : Kind} (hfolded : isFolded kind = true) (own : List Line) :
    (samplesOf kind own).map Sample.labels = (own.map Line.labels).eraseDups := by
  rw [samplesOf, if_pos hfolded]
  exact map_gather (fun _ _ => Folded.labels_sample _ _) own

theorem madeOf_of_mem_samplesOf {kind : Kind} (hfolded : isFolded kind = true) {own : List Line}
    (hown : ∀ l ∈ own, belongs kind l.part = true) {s : Sample} (hs : s ∈ samplesOf kind own) :
    ∃ m : Folded, s = m.sample kind ∧ m.MadeOf kind (own.filter (·.labels = s.labels)) := by
  rw [samplesOf, if_pos hfolded] at hs
  obtain ⟨labels, -, rfl⟩ := mem_gather hs
  rw [Folded.labels_sample]
  refine ⟨_, rfl, Folded.madeOf_ofLines ?_⟩
  intro l hl
  exact hown l (List.mem_of_mem_filter hl)

/-! ## What a scrape has gathered -/

/-- The family that lines make up, without its help text. -/
def familyOf (s : Scrape) (name : String) (own : List Line) : Family :=
  { name, kind := s.kindOf name, samples := samplesOf (s.kindOf name) own }

/-- **A scrape has gathered lines** if its families are those that the lines make up. -/
structure Gathered (s : Scrape) (lines : List Line) : Prop where
  consistent : Consistent s
  families : s.families = gather Line.family (familyOf s) lines
  belong : ∀ l ∈ lines, belongs (s.kindOf l.family) l.part = true

namespace Gathered

variable {s s' : Scrape} {lines : List Line} {l : Line}

theorem nothing : Gathered {} [] where
  consistent := consistent_empty
  families := rfl
  belong _ h := by cases h

theorem names (h : Gathered s lines) :
    s.families.map Family.name = (lines.map Line.family).eraseDups := by
  rw [h.families]
  exact map_gather (fun _ _ => rfl) lines

theorem contains_positions (h : Gathered s lines) (name : String) :
    s.positions.contains name = true ↔ name ∈ lines.map Line.family := by
  rw [Dictionary.contains, h.consistent.positions, h.names, List.isSome_idxOf?, List.mem_eraseDups]

/-- A help text changes nothing yet. -/
theorem help (h : Gathered s lines) (texts : Dictionary String) :
    Gathered { s with help := texts } lines where
  consistent := ⟨h.consistent.kinds, h.consistent.positions, h.consistent.series⟩
  families := h.families
  belong := h.belong

/-- A kind is declared for a family that has no line. -/
theorem declare (h : Gathered s lines) {name : String} (hnew : name ∉ lines.map Line.family)
    (kind : Kind) : Gathered { s with types := s.types.insert name kind } lines := by
  have hkind : ∀ name' ∈ lines.map Line.family,
      Scrape.kindOf { s with types := s.types.insert name kind } name' = s.kindOf name' := by
    intro name' hmem
    have hne : name' ≠ name := fun heq => hnew (heq ▸ hmem)
    simp only [Scrape.kindOf, Scrape.declared?, get?_insert, if_neg hne]
  refine ⟨⟨fun f hf => ?_, h.consistent.positions, h.consistent.series⟩, ?_, fun l hl => ?_⟩
  · have hname : f.name ∈ lines.map Line.family := by
      rw [← List.mem_eraseDups, ← h.names]
      exact List.mem_map_of_mem hf
    rw [hkind _ hname]
    exact h.consistent.kinds f hf
  · refine h.families.trans (gather_congr fun name' hname => ?_)
    funext own
    rw [familyOf, familyOf, hkind _ hname]
  · rw [hkind _ (List.mem_map_of_mem hl)]
    exact h.belong l hl

/-- A line is gathered. -/
theorem record (h : Gathered s lines) (hbelongs : belongs (s.kindOf l.family) l.part = true)
    (hrecord : s.record l = .ok s') : Gathered s' (lines ++ [l]) := by
  have hstored := h.consistent.record hbelongs hrecord
  have hkind : s'.kindOf = s.kindOf := funext (kindOf_eq hstored.types)
  refine ⟨hstored.consistent, ?_, fun l' hl' => ?_⟩
  · have hbuild : familyOf s' = familyOf s := by
      funext name own
      rw [familyOf, familyOf, hkind]
    have hchange : ∀ own, familyOf s l.family (own ++ [l]) =
        { familyOf s l.family own with
          samples := store (s.kindOf l.family) l (familyOf s l.family own).samples } := by
      intro own
      simp only [familyOf, store_samplesOf hbelongs]
    have hnew : familyOf s l.family [] = newFamily s l.family := by
      simp [familyOf, newFamily, samplesOf, gather]
    rw [hbuild, hstored.families, h.families, ← hnew]
    exact (gather_concat (fun _ _ => rfl) hchange lines).symm
  · rw [hkind]
    rcases List.mem_append.mp hl' with hl' | hl'
    · exact h.belong l' hl'
    · rw [List.mem_singleton.mp hl']
      exact hbelongs

/-- **Reading on gathers the value lines** of what is read, and keeps the kinds and help texts. -/
theorem readLines (h : Gathered s lines) {number : Nat} {css : List (List Char)}
    (hread : s.readLines number css = .ok s') :
    ∃ more, valueLines s.types css = .ok more ∧ Gathered s' (lines ++ more) ∧
      s'.types = s.types.insertAll (css.filterMap declaration?) ∧
      s'.help = s.help.insertAll (css.filterMap help?) := by
  induction css generalizing s number lines with
  | nil =>
    cases hread
    exact ⟨[], rfl, by simpa using h, rfl, rfl⟩
  | cons cs css ih =>
    rw [Scrape.readLines] at hread
    cases hline : s.line cs with
    | error e =>
      rw [hline] at hread
      cases hread
    | ok t =>
      rw [hline] at hread
      rw [line_eq] at hline
      obtain ⟨said, hsaid, htake⟩ := bind_eq_ok hline
      simp only [valueLines, List.filterMap_cons, declaration?, help?, hsaid]
      cases said with
      | nothing =>
        cases htake
        exact ih h hread
      | help name text =>
        cases htake
        exact ih (h.help _) hread
      | declaration name kind =>
        rw [Scrape.take] at htake
        split at htake
        · cases htake
        · rename_i hnew
          rw [h.contains_positions] at hnew
          split at htake
          · cases htake
          · cases htake
            exact ih (h.declare hnew kind) hread
      | value text =>
        -- whose the line is depends on the kinds only, so it is read alike without the scrape
        obtain ⟨l, hparse, hrecord⟩ := bind_eq_ok htake
        have hbelongs := belongs_of_parseLine hparse
        have hstored := h.consistent.record hbelongs hrecord
        obtain ⟨more, hmore, hgathered, htypes, hhelp⟩ := ih (h.record hbelongs hrecord) hread
        rw [hstored.types] at hmore htypes
        rw [hstored.help] at hhelp
        rw [parseLine_types] at hparse
        refine ⟨l :: more, ?_, by simpa using hgathered, htypes, hhelp⟩
        simp only [bind, Except.bind, hparse, hmore]
        rfl

end Gathered

/-! ## The families of a text -/

/-- A family is made up of lines of its own, in a text that may give its kind and help text. -/
structure MadeOf (css : List (List Char)) (own : List Line) (f : Family) : Prop where
  kind : f.kind = (last? (css.filterMap declaration?) f.name).getD .untyped
  /-- The help text that counts is the last one. -/
  help : f.help = (last? (css.filterMap help?) f.name).getD ""
  belong : ∀ l ∈ own, belongs f.kind l.part = true
  /-- The samples of a plain family are its lines. -/
  plain : isFolded f.kind = false → f.samples = own.map Line.plain
  /-- A folded family has one sample for each set of labels. -/
  labels : isFolded f.kind = true → f.samples.map Sample.labels = (own.map Line.labels).eraseDups
  /-- A folded sample is made up of the lines that have its labels. -/
  folded : isFolded f.kind = true → ∀ s ∈ f.samples, ∃ m : Folded, s = m.sample f.kind ∧
    m.MadeOf f.kind (own.filter (·.labels = s.labels))

variable {s : Scrape} {lines : List Line} {css : List (List Char)}

theorem Gathered.familyOf_of_mem (h : Gathered s lines) {f : Family} (hf : f ∈ s.families) :
    f = familyOf s f.name (lines.filter (·.family = f.name)) := by
  rw [h.families] at hf
  obtain ⟨name, -, hf⟩ := mem_gather hf
  have hname : f.name = name := by
    rw [hf]
    rfl
  rw [hname]
  exact hf

/-- In the end each family is made up of its lines. -/
theorem Gathered.madeOf (h : Gathered s lines)
    (htypes : s.types = (∅ : Dictionary Kind).insertAll (css.filterMap declaration?))
    (hhelp : s.help = (∅ : Dictionary String).insertAll (css.filterMap help?)) {f : Family}
    (hf : f ∈ s.finish) : MadeOf css (lines.filter (·.family = f.name)) f := by
  obtain ⟨g, hg, rfl⟩ := List.mem_map.mp hf
  have hkind := h.consistent.kinds g hg
  have hmade := h.familyOf_of_mem hg
  have hsamples : g.samples = samplesOf g.kind (lines.filter (·.family = g.name)) := by
    rw [hkind]
    exact congrArg Family.samples hmade
  have hbelong : ∀ l ∈ lines.filter (·.family = g.name), belongs g.kind l.part = true := by
    intro l hl
    rw [List.mem_filter, decide_eq_true_eq] at hl
    rw [hkind, ← hl.2]
    exact h.belong l hl.1
  refine ⟨?_, ?_, hbelong, fun hplain => ?_, fun hfolded => ?_, fun hfolded m hm => ?_⟩
  · show g.kind = _
    rw [hkind, Scrape.kindOf, Scrape.declared?, htypes, get?_insertAll_eq_last?, get?_empty,
      Option.or_none]
  · show (s.help.get? g.name).getD g.help = _
    have hnone : g.help = "" := congrArg Family.help hmade
    rw [hhelp, get?_insertAll_eq_last?, get?_empty, Option.or_none, hnone]
  · show g.samples = _
    rw [hsamples, samplesOf, hplain]
    rfl
  · show g.samples.map Sample.labels = _
    rw [hsamples, labels_samplesOf hfolded]
  · exact madeOf_of_mem_samplesOf hfolded hbelong (hsamples ▸ hm)

/-- **Nothing is lost and nothing is there twice.** The families of a text are those that its value
lines belong to, in order of their first lines, and each of them is made up of its own lines. -/
theorem parse_collects {text : String} {fs : List Family} (h : parse text = .ok fs) :
    ∃ lines, valueLines ∅ (Text.lines text.toList) = .ok lines ∧
      fs.map Family.name = (lines.map Line.family).eraseDups ∧
      ∀ f ∈ fs, MadeOf (Text.lines text.toList) (lines.filter (·.family = f.name)) f := by
  unfold parse at h
  cases hread : Scrape.readLines {} 1 (Text.lines text.toList) with
  | error e =>
    rw [hread] at h
    cases h
  | ok s =>
    rw [hread] at h
    cases h
    obtain ⟨lines, hlines, hgathered, htypes, hhelp⟩ := Gathered.nothing.readLines hread
    rw [List.nil_append] at hgathered
    refine ⟨lines, hlines, ?_, fun f hf => hgathered.madeOf htypes hhelp hf⟩
    rw [← hgathered.names, Scrape.finish, List.map_map]
    rfl

/-- A text in which the lines of two families stand among each other, and some say a thing anew. -/
def interleavedText : String :=
  "# TYPE t summary\nt\x7bquantile=\"0.5\"\x7d 1 7\nup 1\nt_sum 3\n# HELP up old\n" ++
    "t\x7bquantile=\"0.5\"\x7d 2\n# HELP up new\n"

/-- The families of that text. -/
def interleavedFamilies : List Family :=
  [{ name := "t", kind := .summary,
     samples := [.summary
       { timestamp := some "7", quantiles := .ofList [("0.5", "2")], sum := "3" }] },
   { name := "up", help := "new", samples := [.plain { value := "1" }] }]

theorem parse_collects_interleaved :
    parse interleavedText = .ok interleavedFamilies ∧
      ∃ lines, valueLines ∅ (Text.lines interleavedText.toList) = .ok lines ∧
        interleavedFamilies.map Family.name = (lines.map Line.family).eraseDups ∧
        ∀ f ∈ interleavedFamilies, MadeOf (Text.lines interleavedText.toList)
          (lines.filter (·.family = f.name)) f :=
  ⟨by decide +kernel, parse_collects (by decide +kernel)⟩

end Exposition

end Assay
