import Assay.Proofs.Exposition.Grammar

/-!
# Writing exposition text

Families are written as an endpoint presents them: the help text, the kind, and one line for each
value. `Line.text` writes the line that gives a part of a sample, and reading it gives that part
back, whatever the labels hold.
-/

namespace Assay

namespace Exposition

open Assay.Metric

/-! ## Help texts -/

/-- A help text is read as it was before it was escaped. -/
theorem unescapeHelp_escape (cs : List Char) : unescapeHelp (escape false cs) = cs := by
  induction cs with
  | nil => rfl
  | cons c cs ih =>
    rw [escape, List.flatMap_cons]
    rw [escape] at ih
    rcases escapeChar_cases false c with ⟨d, hd, hc, _⟩ | ⟨hc, hslash, _, _⟩
    · rw [hd]
      simp [unescapeHelp, ih, hc]
    · rw [hc, List.singleton_append, unescapeHelp, ih]
      · intro heq _
        exact hslash heq
      · intro _ _ heq _
        exact hslash heq

theorem newline_notMem_escape (quoted : Bool) (cs : List Char) : '\n' ∉ escape quoted cs := by
  rw [escape, List.mem_flatMap]
  rintro ⟨c, _, hc⟩
  rcases escapeChar_cases quoted c with ⟨d, hd, _, _, hne⟩ | ⟨hd, _, hne, _⟩
  · rw [hd] at hc
    simp [Ne.symm hne] at hc
  · rw [hd, List.mem_singleton] at hc
    exact hne hc.symm

theorem trim_escape {cs : List Char} (h : Text.trim cs = cs) (quoted : Bool) :
    Text.trim (escape quoted cs) = escape quoted cs := by
  obtain ⟨hfirst, hlast⟩ := Text.ends_of_trim h
  refine Text.trim_eq_self (fun d hd => ?_) fun d hd => ?_
  · cases cs with
    | nil => simp [escape] at hd
    | cons c cs =>
      rw [escape, List.flatMap_cons] at hd
      rcases escapeChar_cases quoted c with ⟨e, he, _⟩ | ⟨he, _⟩
      · obtain rfl : '\\' = d := by simpa [he] using hd
        decide
      · obtain rfl : c = d := by simpa [he] using hd
        exact hfirst c rfl
  · rcases List.eq_nil_or_concat cs with rfl | ⟨front, c, hcs⟩
    · simp [escape] at hd
    · rw [List.concat_eq_append] at hcs
      subst hcs
      rw [escape, List.flatMap_append, List.flatMap_singleton] at hd
      rcases escapeChar_cases quoted c with ⟨e, he, _, hblank, _⟩ | ⟨he, _⟩
      · obtain rfl : e = d := by simpa [he] using hd
        exact hblank
      · obtain rfl : c = d := by simpa [he] using hd
        exact hlast c (by simp)

/-! ## Words -/

/-- A word with blanks or nothing behind it is the next one. One blank is lost. -/
theorem nextWord_word {w rest : List Char} (hw : ∀ c ∈ w, Text.isBlank c = false)
    (hrest : ∀ c ∈ rest.head?, Text.isBlank c = true) :
    Scrape.nextWord (w ++ rest) = (w, rest.tail) := by
  cases rest with
  | nil => rw [List.append_nil, Scrape.nextWord, Text.cut_eq_none hw]; rfl
  | cons c rest => rw [Scrape.nextWord, Text.cut_append hw (hrest c rfl)]; rfl

/-! ## Values and timestamps -/

/-- **Values are number literals**, since the spellings that are values as they stand are literals
as well. -/
theorem isValue_iff {cs : List Char} : isValue cs = true ↔ ∃ x, Number.literal cs = .ok x := by
  have hnamed : namedValues.contains (String.ofList cs) = true →
      ∃ x, Number.literal cs = .ok x := by
    intro h
    have hall : ∀ v ∈ namedValues, (Number.literal v.toList).toOption.isSome = true := by decide
    have hread := hall _ (List.contains_iff_mem.mp h)
    rw [String.toList_ofList] at hread
    cases hx : Number.literal cs with
    | ok x => exact ⟨x, rfl⟩
    | error e => simp [hx, Except.toOption] at hread
  unfold isValue
  cases hx : Number.literal cs with
  | ok x => simp
  | error e =>
    rw [hx] at hnamed
    simpa using hnamed

/-- A text that is written as a value: it is read as one and holds no blank. -/
def IsValueText (s : String) : Prop :=
  isValue s.toList = true ∧ s.toList.any Text.isBlank = false

/-- A text that is written as a timestamp. -/
def IsTimestamp (s : String) : Prop :=
  (Number.int64? s.toList).isSome = true

instance (s : String) : Decidable (IsValueText s) :=
  inferInstanceAs (Decidable (_ ∧ _))

instance (s : String) : Decidable (IsTimestamp s) :=
  inferInstanceAs (Decidable (_ = true))

theorem IsValueText.isWord {s : String} (h : IsValueText s) : Text.IsWord s.toList := by
  refine (Text.isWord_iff _).mpr ⟨fun hnil => ?_, h.2⟩
  have hvalue := h.1
  rw [hnil] at hvalue
  exact absurd hvalue (by decide)

theorem visible_of_foldlM {radix n : Nat} {cs : List Char}
    (h : (cs.foldlM (fun n c => do
      let d ← Number.digitValue? c
      if d < radix then some (n * radix + d) else none) n).isSome = true) :
    ∀ c ∈ cs, Text.isBlank c = false := by
  induction cs generalizing n with
  | nil => simp
  | cons c cs ih =>
    rw [List.foldlM_cons] at h
    cases hd : Number.digitValue? c with
    | none => simp [hd] at h
    | some d =>
      rw [hd] at h
      simp only [Option.bind_eq_bind, Option.bind_some] at h
      split at h
      · refine List.forall_mem_cons.mpr ⟨?_, ih h⟩
        -- every digit is visible, those of other radices too
        unfold Number.digitValue? at hd
        refine Text.isBlank_of_visible ?_ ?_ <;> (dsimp only at hd; split at hd <;> grind)
      · simp at h

theorem isWord_of_natural? {radix : Nat} {cs : List Char}
    (h : (Number.natural? radix cs).isSome = true) : Text.IsWord cs := by
  unfold Number.natural? at h
  split at h
  · simp at h
  · rename_i hne
    exact ⟨by simpa using hne, visible_of_foldlM h⟩

theorem IsTimestamp.isWord {s : String} (h : IsTimestamp s) : Text.IsWord s.toList := by
  rw [IsTimestamp, Number.int64?] at h
  have hint : (Number.integer? 10 s.toList).isSome = true := by
    cases hi : Number.integer? 10 s.toList with
    | none => simp [hi] at h
    | some i => rfl
  have hsign : ∀ (c : Char) (cs : List Char), Text.isBlank c = false →
      (Number.natural? 10 cs).isSome = true → Text.IsWord (c :: cs) := by
    intro c cs hc hcs
    exact ⟨by simp, List.forall_mem_cons.mpr ⟨hc, (isWord_of_natural? hcs).2⟩⟩
  unfold Number.integer? at hint
  split at hint
  · rename_i cs heq
    rw [heq]
    exact hsign '+' cs (by decide) (by simpa using hint)
  · rename_i cs heq
    rw [heq]
    exact hsign '-' cs (by decide) (by simpa using hint)
  · exact isWord_of_natural? (by simpa using hint)

/-! ## Lines -/

namespace Line

/-- The name of the series that a line belongs to. -/
def seriesName (l : Line) : String :=
  match l.part with
  | .plain => l.family
  | .quantile _ => l.family
  | .bucket _ => l.family ++ "_bucket"
  | .sum => l.family ++ "_sum"
  | .count => l.family ++ "_count"

/-- The labels that are written on a line: those of the sample, and the one that says which
quantile or bucket it is. -/
def writtenLabels (l : Line) : List (String × String) :=
  match l.part with
  | .quantile q => l.labels.entries ++ [("quantile", q)]
  | .bucket bound => l.labels.entries ++ [("le", bound)]
  | _ => l.labels.entries

/-- The value and the timestamp. -/
def words (l : Line) : List (List Char) :=
  (l.value :: l.timestamp.toList).map String.toList

/-- A line as it is written. -/
def text (l : Line) : List Char :=
  l.seriesName.toList ++ labelsText l.writtenLabels ++ l.words.flatMap (' ' :: ·)

example : text ⟨"size", .bucket "1", ∅, "2", some "9"⟩ = "size_bucket\x7ble=\"1\"\x7d 2 9".toList := by
  decide

/-- A line that can be written. -/
structure Writable (l : Line) : Prop where
  name : isMetricName l.seriesName.toList = true
  labels : ∀ e ∈ l.writtenLabels, isLabelName e.1.toList = true
  distinct : (l.writtenLabels.map Prod.fst).Nodup
  value : IsValueText l.value
  timestamp : ∀ t, l.timestamp = some t → IsTimestamp t

variable {l : Line}

theorem Writable.isWord (h : l.Writable) : ∀ w ∈ l.words, Text.IsWord w := by
  intro w hw
  obtain ⟨s, hs, rfl⟩ := List.mem_map.mp hw
  rcases List.mem_cons.mp hs with rfl | hs
  · exact h.value.isWord
  · exact (h.timestamp s (by simpa using hs)).isWord

/-- The value and the timestamp are read back. -/
theorem valueAndTime_words (h : l.Writable) (name : String) :
    Scrape.valueAndTime name (l.words.flatMap (' ' :: ·)) = .ok (l.value, l.timestamp) := by
  rw [Scrape.valueAndTime, Text.words_spaced h.isWord, words, List.map_cons]
  cases htime : l.timestamp with
  | none => simp [h.value.1]
  | some t =>
    have ht : Number.int64? t.toList ≠ none := by
      simpa [IsTimestamp, Option.isSome_iff_ne_none] using h.timestamp t htime
    simp [h.value.1, ht]

/-- The written labels are read behind the name of the series. -/
theorem labelsBehind_text (h : l.Writable) :
    ∃ c back, l.text = l.seriesName.toList ++ c :: back ∧ endsName c = true ∧
      labelsBehind (c :: back) = .ok (.ofList l.writtenLabels, l.words.flatMap (' ' :: ·)) := by
  rw [text, List.append_assoc]
  cases hlabels : l.writtenLabels with
  | nil => exact ⟨' ', _, rfl, by decide, labelsBehind_cons (by decide) _⟩
  | cons e es =>
    have hnames : ∀ a ∈ e :: es, isLabelName a.1.toList = true := hlabels ▸ h.labels
    have hfront := labelsFront_labelsText hnames rfl (l.words.flatMap (' ' :: ·))
    exact ⟨'\x7b', _, rfl, by decide,
      labels_eq_ok_iff.mpr ⟨_, hfront, hlabels ▸ h.distinct, rfl⟩⟩

/-- **A line is read back**, if the name of its series leads to its family and part. -/
theorem parseLine_text (h : l.Writable) {s : Scrape}
    (hresolve : s.resolve l.seriesName.toList
      (.ofList l.writtenLabels) = .ok (l.family, l.part, l.labels)) :
    s.parseLine l.text = .ok l := by
  obtain ⟨c, back, htext, hc, hlabels⟩ := labelsBehind_text h
  have hvalue := valueAndTime_words h (String.ofList l.seriesName.toList)
  rw [htext, parseLine_append h.name hc, hlabels]
  simp only [bind, Except.bind, hvalue, hresolve]
  rfl

theorem text_ends (h : l.Writable) :
    (∃ c cs, l.text = c :: cs ∧ Text.isBlank c = false ∧ c ≠ '#') ∧
    ∀ c ∈ l.text.getLast?, Text.isBlank c = false := by
  constructor
  · obtain ⟨hne, hall⟩ := visible_of_isMetricName h.name
    cases hname : l.seriesName.toList with
    | nil => exact absurd hname hne
    | cons c name =>
      have hmem : c ∈ l.seriesName.toList := by simp [hname]
      exact ⟨c, name ++ labelsText l.writtenLabels ++ l.words.flatMap (' ' :: ·),
        by simp [text, hname], (isWord_of_isMetricName h.name).2 c hmem, (hall c hmem).2.2⟩
  · intro c hc
    obtain ⟨front, w, hwords⟩ : ∃ front w, l.words = front ++ [w] :=
      ⟨l.words.dropLast, l.words.getLast (by simp [words]), (List.dropLast_append_getLast _).symm⟩
    have hw := h.isWord w (by simp [hwords])
    obtain ⟨cs, d, hd⟩ : ∃ cs d, w = cs ++ [d] :=
      ⟨w.dropLast, w.getLast hw.1, (List.dropLast_append_getLast hw.1).symm⟩
    have htext : l.text = (l.seriesName.toList ++ labelsText l.writtenLabels ++
        front.flatMap (' ' :: ·) ++ ' ' :: cs) ++ [d] := by simp [text, hwords, hd]
    rw [htext, List.getLast?_concat, Option.mem_some_iff] at hc
    exact hw.2 c (by simp [hd, hc])

/-- A written line is taken as a line that gives a value, and stored as such. -/
theorem line_text (h : l.Writable) {s : Scrape}
    (hresolve : s.resolve l.seriesName.toList
      (.ofList l.writtenLabels) = .ok (l.family, l.part, l.labels)) :
    s.line l.text = s.record l := by
  obtain ⟨⟨c, cs, htext, hblank, hhash⟩, hlast⟩ := text_ends h
  have htrim : Text.trim l.text = l.text :=
    Text.trim_eq_self (fun d hd => by
      obtain rfl : c = d := by simpa [htext] using hd
      exact hblank) hlast
  have hparse := parseLine_text h hresolve
  rw [Scrape.line, htrim]
  rw [htext] at hparse ⊢
  split
  · rename_i heq
    cases heq
  · rename_i rest heq
    exact absurd (List.cons.inj heq).1 hhash
  · rw [hparse]
    rfl

theorem newline_notMem_text (h : l.Writable) : '\n' ∉ l.text := by
  have hlabel : ∀ e ∈ l.writtenLabels, '\n' ∉ labelText e := by
    intro e he hmem
    rw [labelText, List.mem_append] at hmem
    rcases hmem with hmem | hmem
    · exact absurd ((isWord_of_isLabelName (h.labels e he)).2 _ hmem) (by decide)
    · simp [newline_notMem_escape] at hmem
  have hlabels : '\n' ∉ labelsText l.writtenLabels := by
    cases hwritten : l.writtenLabels with
    | nil => simp [labelsText]
    | cons e es =>
      rw [hwritten, List.forall_mem_cons] at hlabel
      simp only [labelsText, List.mem_cons, List.mem_append, List.mem_flatMap, List.mem_nil_iff]
      rintro (hmem | (hmem | ⟨a, ha, hmem | hmem⟩) | hmem | hmem)
      · exact absurd hmem (by decide)
      · exact hlabel.1 hmem
      · exact absurd hmem (by decide)
      · exact hlabel.2 a ha hmem
      · exact absurd hmem (by decide)
      · exact hmem
  rw [text, List.mem_append, List.mem_append]
  rintro ((hmem | hmem) | hmem)
  · exact absurd ((isWord_of_isMetricName h.name).2 _ hmem) (by decide)
  · exact hlabels hmem
  · obtain ⟨w, hw, hmem⟩ := List.mem_flatMap.mp hmem
    rcases List.mem_cons.mp hmem with hmem | hmem
    · exact absurd hmem (by decide)
    · exact absurd ((h.isWord w hw).2 _ hmem) (by decide)

end Line

end Exposition

end Assay
