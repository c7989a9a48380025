import Assay.Proofs.Exposition.Grammar
import Assay.Proofs.Exposition.Sentence

/-!
# Blanks between words

How many blanks keep two words of a line apart makes no difference, with one exception: the name
that a comment gives help or a kind for is what stands between the first two blanks behind the
keyword. If these stand side by side, the name is taken to be empty and the line is refused.
-/

namespace Assay

open Text

namespace Exposition

variable {s : Scrape} {cs cs' text rest after front back gap raw v : List Char} {b : Char}
  {e : String × String} {es : List (String × String)}

/-! ## Gaps -/

/-- Blanks within a line. -/
structure IsGap (gap : List Char) : Prop where
  nonempty : gap ≠ []
  blank : AllBlank gap
  inLine : '\n' ∉ gap

theorem isGap_iff (gap : List Char) :
    IsGap gap ↔ gap ≠ [] ∧ gap.all isBlank = true ∧ '\n' ∉ gap := by
  rw [List.all_eq_true]
  exact ⟨fun h => ⟨h.nonempty, h.blank, h.inLine⟩, fun h => ⟨h.1, h.2.1, h.2.2⟩⟩

instance (gap : List Char) : Decidable (IsGap gap) :=
  decidable_of_iff' _ (isGap_iff gap)

/-- Where a reader of a value line stands: outside of quotes, within, or behind a backslash that
counts. -/
inductive Quoting where
  | outside
  | inside
  | escaped
  deriving DecidableEq

/-- Where a reader stands behind one more character. -/
def Quoting.next : Quoting → Char → Quoting
  | .outside, c => if c = '"' then .inside else .outside
  | .inside, c => if c = '"' then .outside else if c = '\\' then .escaped else .inside
  | .escaped, _ => .inside

/-- Whether blanks behind this front of a line only keep words apart: they belong neither to a quoted
value nor to the help text, which begins with the third word of a comment. -/
def keepsApart (front : List Char) : Bool :=
  match trimStart front with
  | '#' :: rest => (words rest).length ≤ 2
  | cs => cs.foldl Quoting.next .outside = .outside

/-- Whether this front of a line is a comment up to the keyword, which has to be followed by the name
that the comment is about. -/
def endsInKeyword (front : List Char) : Bool :=
  match trimStart front with
  | '#' :: rest => words rest = ["HELP".toList] ∨ words rest = ["TYPE".toList]
  | _ => false

/-! ## Wider gaps in a value line -/

/-- Two texts that differ at most in a blank outside of quotes, which is a gap in the other one. -/
inductive Widened : List Char → List Char → Prop where
  | same (cs : List Char) : Widened cs cs
  | here {b : Char} {gap : List Char} (hb : isBlank b = true) (hne : gap ≠ []) (hgap : AllBlank gap)
    (back : List Char) : Widened (b :: back) (gap ++ back)
  | plain {c : Char} {cs cs' : List Char} (hquote : c ≠ '"') (h : Widened cs cs') :
    Widened (c :: cs) (c :: cs')
  | quoted {raw v cs cs' : List Char} (hvalue : Quoted raw v) (h : Widened cs cs') :
    Widened ('"' :: (raw ++ '"' :: cs)) ('"' :: (raw ++ '"' :: cs'))

/-- A reader that comes out of quotes has read a value. -/
theorem exists_quoted_of_inside (h : cs.foldl Quoting.next .inside = .outside) :
    ∃ raw v rest, Quoted raw v ∧ cs = raw ++ '"' :: rest ∧
      rest.foldl Quoting.next .outside = .outside := by
  fun_induction quotedValue? cs with
  | case1 => cases h
  | case2 rest => exact ⟨[], [], rest, .nil, rfl, h⟩
  | case3 => cases h
  | case4 c rest ih =>
    obtain ⟨raw, v, rest', hraw, rfl, hrest⟩ := ih h
    exact ⟨_, _, rest', .escaped c hraw, rfl, hrest⟩
  | case5 c rest hquote hslash hescape ih =>
    have hplain : c ≠ '\\' := by
      intro heq
      cases rest with
      | nil => exact hslash heq rfl
      | cons c' rest' => exact hescape c' rest' heq rfl
    have hstay : Quoting.next .inside c = .inside := by
      rw [Quoting.next, if_neg hquote, if_neg hplain]
    rw [List.foldl_cons, hstay] at h
    obtain ⟨raw, v, rest', hraw, rfl, hrest⟩ := ih h
    exact ⟨_, _, rest', .plain hquote hplain hraw, rfl, hrest⟩

/-- Outside of quotes a blank can be widened. -/
theorem widened_of_outside (h : front.foldl Quoting.next .outside = .outside)
    (hb : isBlank b = true) (hne : gap ≠ []) (hgap : AllBlank gap) (back : List Char) :
    Widened (front ++ b :: back) (front ++ (gap ++ back)) := by
  induction hlength : front.length using Nat.strong_induction_on generalizing front with
  | h n ih =>
    cases front with
    | nil => exact .here hb hne hgap back
    | cons c front =>
      rw [List.length_cons] at hlength
      by_cases hquote : c = '"'
      · subst hquote
        obtain ⟨raw, v, rest, hvalue, rfl, hrest⟩ := exists_quoted_of_inside h
        have hshort : rest.length < n := by
          rw [← hlength, List.length_append, List.length_cons]
          omega
        have hmore := Widened.quoted hvalue (ih _ hshort hrest rfl)
        simpa using hmore
      · have hstay : Quoting.next .outside c = .outside := if_neg hquote
        rw [List.foldl_cons, hstay] at h
        exact .plain hquote (ih _ (by omega) h rfl)

theorem Widened.exists_cons {c : Char} (h : Widened (c :: cs) text) (hquote : c ≠ '"')
    (hc : isBlank c = false) : ∃ cs', text = c :: cs' ∧ Widened cs cs' := by
  cases h with
  | same => exact ⟨cs, rfl, .same cs⟩
  | here hb => simp [hc] at hb
  | plain _ h => exact ⟨_, rfl, h⟩
  | quoted => exact absurd rfl hquote

/-- A word stays as it is. -/
theorem Widened.exists_word {w : List Char} (h : Widened (w ++ cs) text) (hword : IsWord w)
    (hquote : '"' ∉ w) : ∃ cs', text = w ++ cs' ∧ Widened cs cs' := by
  obtain ⟨-, hblank⟩ := hword
  induction w generalizing text with
  | nil => exact ⟨text, rfl, h⟩
  | cons c w ih =>
    rw [List.forall_mem_cons] at hblank
    rw [List.mem_cons, not_or] at hquote
    obtain ⟨back, rfl, hback⟩ := h.exists_cons (Ne.symm hquote.1) hblank.1
    obtain ⟨cs', rfl, hcs⟩ := ih hback hquote.2 hblank.2
    exact ⟨cs', rfl, hcs⟩

/-- Blanks stay blanks. -/
theorem Widened.exists_gap (h : Widened (gap ++ cs) text) (hgap : AllBlank gap) :
    ∃ gap' cs', text = gap' ++ cs' ∧ AllBlank gap' ∧ (gap ≠ [] → gap' ≠ []) ∧ Widened cs cs' := by
  induction gap generalizing text with
  | nil => exact ⟨[], text, rfl, hgap, id, h⟩
  | cons c gap ih =>
    rw [AllBlank, List.forall_mem_cons] at hgap
    obtain ⟨hc, hgap⟩ := hgap
    generalize hback : gap ++ cs = back at ih
    rw [List.cons_append, hback] at h
    cases h with
    | same =>
      exact ⟨c :: gap, cs, by simp [hback], List.forall_mem_cons.mpr ⟨hc, hgap⟩, id, .same cs⟩
    | @here _ wide _ hne hwide =>
      refine ⟨wide ++ gap, cs, by simp [hback], List.forall_mem_append.mpr ⟨hwide, hgap⟩, ?_, .same cs⟩
      intro _
      simp [hne]
    | plain _ h =>
      obtain ⟨gap', cs', rfl, hgap', -, h⟩ := ih h hgap
      exact ⟨c :: gap', cs', rfl, List.forall_mem_cons.mpr ⟨hc, hgap'⟩, by simp, h⟩
    | quoted => exact absurd hc (by decide)

/-- A quoted value stays as it is. -/
theorem Widened.exists_quoted (h : Widened ('"' :: (raw ++ '"' :: cs)) text) (hvalue : Quoted raw v) :
    ∃ cs', text = '"' :: (raw ++ '"' :: cs') ∧ Widened cs cs' := by
  generalize hinside : raw ++ '"' :: cs = inside at h
  cases h with
  | same => exact ⟨cs, by rw [hinside], .same cs⟩
  | here hb => exact absurd hb (by decide)
  | plain hquote => exact absurd rfl hquote
  | @quoted raw' _ _ rest hvalue' h =>
    -- the text tells where the value ends
    have hread := quotedValue?_eq_some_iff.mpr ⟨raw, hvalue, hinside.symm⟩
    rw [quotedValue?_eq_some_iff.mpr ⟨raw', hvalue', rfl⟩] at hread
    obtain ⟨-, rfl⟩ := Prod.mk.inj (Option.some.inj hread)
    obtain rfl : raw = raw' := List.append_cancel_right hinside
    exact ⟨rest, rfl, h⟩

theorem Widened.cases_split (h : Widened cs text) :
    text = cs ∨ ∃ front b gap back, isBlank b = true ∧ gap ≠ [] ∧ AllBlank gap ∧
      cs = front ++ b :: back ∧ text = front ++ (gap ++ back) := by
  induction h with
  | same => exact .inl rfl
  | here hb hne hgap back => exact .inr ⟨[], _, _, back, hb, hne, hgap, rfl, rfl⟩
  | plain _ _ ih =>
    rcases ih with rfl | ⟨front, b, gap, back, hb, hne, hgap, rfl, rfl⟩
    · exact .inl rfl
    · exact .inr ⟨_ :: front, b, gap, back, hb, hne, hgap, rfl, rfl⟩
  | @quoted raw _ _ _ _ _ ih =>
    rcases ih with rfl | ⟨front, b, gap, back, hb, hne, hgap, rfl, rfl⟩
    · exact .inl rfl
    · exact .inr ⟨'"' :: (raw ++ '"' :: front), b, gap, back, hb, hne, hgap, by simp, by simp⟩

/-- The words stay the same. -/
theorem Widened.words_eq (h : Widened cs text) : words text = words cs := by
  rcases h.cases_split with rfl | ⟨front, b, gap, back, hb, hne, hgap, rfl, rfl⟩
  · rfl
  · have hone := words_append_gap (allBlank_singleton hb) (List.cons_ne_nil _ _) front back
    rw [words_append_gap hgap hne, ← hone]
    rfl

/-! ## Value lines -/

theorem quote_notMem_of_isLabelName {name : List Char} (h : isLabelName name = true) :
    '"' ∉ name := by
  intro hquote
  rw [isLabelName, Bool.and_eq_true, List.all_eq_true] at h
  exact absurd (h.2 _ hquote) (by decide)

theorem quote_notMem_of_isMetricName {name : List Char} (h : isMetricName name = true) :
    '"' ∉ name := by
  intro hquote
  cases name with
  | nil => cases h
  | cons c name =>
    rw [isMetricName, Bool.and_eq_true, List.all_eq_true] at h
    rcases List.mem_cons.mp hquote with rfl | hquote
    · exact absurd h.1 (by decide)
    · exact absurd (h.2 _ hquote) (by decide)

/-- A label stays the same. -/
theorem LabelFront.widen (h : LabelFront cs e rest) (hwide : Widened cs text) :
    ∃ rest', LabelFront text e rest' ∧ Widened rest rest' := by
  cases h with
  | intro hgap hgap' hgap'' hname hvalue =>
    obtain ⟨_, _, rfl, hstart, -, hname'⟩ := hwide.exists_gap hgap
    obtain ⟨_, rfl, hbehind⟩ :=
      hname'.exists_word (isWord_of_isLabelName hname) (quote_notMem_of_isLabelName hname)
    obtain ⟨_, _, rfl, hmiddle, -, hequals⟩ := hbehind.exists_gap hgap'
    obtain ⟨_, rfl, hfront⟩ := hequals.exists_cons (by decide) (by decide)
    obtain ⟨_, _, rfl, hend, -, hquoted⟩ := hfront.exists_gap hgap''
    obtain ⟨rest', rfl, hrest⟩ := hquoted.exists_quoted hvalue
    exact ⟨rest', .intro hstart hmiddle hend hname hvalue, hrest⟩

/-- Labels stay the same. -/
theorem LabelsFront.widen (h : LabelsFront cs es after) (hwide : Widened cs text) :
    ∃ after', LabelsFront text es after' ∧ Widened after after' := by
  induction h generalizing text with
  | none hgap =>
    obtain ⟨_, _, rfl, hgap', -, hclose⟩ := hwide.exists_gap hgap
    obtain ⟨after', rfl, hafter⟩ := hclose.exists_cons (by decide) (by decide)
    exact ⟨after', .none hgap', hafter⟩
  | last he hgap =>
    obtain ⟨_, he', hrest⟩ := he.widen hwide
    obtain ⟨_, _, rfl, hgap', -, hclose⟩ := hrest.exists_gap hgap
    obtain ⟨after', rfl, hafter⟩ := hclose.exists_cons (by decide) (by decide)
    exact ⟨after', .last he' hgap', hafter⟩
  | more he hgap _ ih =>
    obtain ⟨_, he', hrest⟩ := he.widen hwide
    obtain ⟨_, _, rfl, hgap', -, hcomma⟩ := hrest.exists_gap hgap
    obtain ⟨_, rfl, hmore⟩ := hcomma.exists_cons (by decide) (by decide)
    obtain ⟨after', hes, hafter⟩ := ih hmore
    exact ⟨after', .more he' hgap' hes, hafter⟩

theorem exists_of_parseLine {l : Line} (h : s.parseLine cs = .ok l) :
    ∃ name c back, cs = name ++ c :: back ∧ isMetricName name = true ∧ endsName c = true := by
  have hname := (exists_series_of_parseLine h).1
  have hsplit : seriesIn cs ++ cs.dropWhile (!endsName ·) = cs := List.takeWhile_append_dropWhile
  cases hdrop : cs.dropWhile (!endsName ·) with
  | nil =>
    have hany : cs.any endsName = false := by
      simpa [List.dropWhile_eq_nil_iff, List.any_eq_false] using hdrop
    unfold endsName at hany
    unfold Scrape.parseLine at h
    simp only [hany, Bool.not_false, if_true] at h
    cases h
  | cons c back =>
    have hc := List.head?_dropWhile_not (!endsName ·) cs
    rw [hdrop] at hc hsplit
    exact ⟨seriesIn cs, c, back, hsplit.symm, hname, by simpa using hc⟩

/-- Behind the name of a series, labels and words stay the same. -/
theorem labelsBehind_widen {c : Char} {d : Dictionary String} (hc : endsName c = true)
    (h : labelsBehind (c :: back) = .ok (d, rest)) (hwide : Widened (c :: back) text) :
    ∃ c' back' rest', text = c' :: back' ∧ endsName c' = true ∧
      labelsBehind (c' :: back') = .ok (d, rest') ∧ words rest' = words rest := by
  by_cases hbrace : c = '\x7b'
  · subst hbrace
    obtain ⟨back', rfl, hback⟩ := hwide.exists_cons (by decide) (by decide)
    obtain ⟨es, hes, hdistinct, rfl⟩ := labels_eq_ok_iff.mp h
    obtain ⟨rest', hes', hrest⟩ := hes.widen hback
    exact ⟨_, back', rest', rfl, hc, labels_eq_ok_iff.mpr ⟨es, hes', hdistinct, rfl⟩, hrest.words_eq⟩
  · have hblank : isBlank c = true := by simpa [endsName, hbrace] using hc
    have hwords := hwide.words_eq
    rw [labelsBehind_cons hbrace] at h
    cases h
    rw [← List.singleton_append] at hwide
    obtain ⟨gap, back', rfl, hgap, hne, -⟩ := hwide.exists_gap (allBlank_singleton hblank)
    obtain ⟨b, gap, rfl⟩ := List.exists_cons_of_ne_nil (hne (List.cons_ne_nil _ _))
    have hb : isBlank b = true := hgap b List.mem_cons_self
    have hplain : b ≠ '\x7b' := by
      rintro rfl
      exact absurd hb (by decide)
    exact ⟨b, gap ++ back', _, rfl, by simp [endsName, hb], labelsBehind_cons hplain _, hwords⟩

/-- **A value line gives the same if a gap is wider.** -/
theorem parseLine_widen {l : Line} (h : s.parseLine cs = .ok l) (hwide : Widened cs text) :
    s.parseLine text = .ok l := by
  obtain ⟨name, c, back, rfl, hname, hc⟩ := exists_of_parseLine h
  obtain ⟨behind, rfl, hbehind⟩ :=
    hwide.exists_word (isWord_of_isMetricName hname) (quote_notMem_of_isMetricName hname)
  rw [parseLine_append hname hc] at h
  obtain ⟨⟨d, rest⟩, hlabels, h⟩ := bind_eq_ok h
  obtain ⟨c', back', rest', rfl, hc', hlabels', hwords⟩ := labelsBehind_widen hc hlabels hbehind
  have hvalue : ∀ name, Scrape.valueAndTime name rest' = Scrape.valueAndTime name rest := by
    intro name
    rw [Scrape.valueAndTime, hwords, ← Scrape.valueAndTime]
  rw [parseLine_append hname hc', hlabels']
  simp only [bind, Except.bind, hvalue]
  exact h

/-! ## Comments -/

/-- At a blank the next word is empty. -/
theorem nextWord_cons (hb : isBlank b = true) (cs : List Char) :
    Scrape.nextWord (b :: cs) = ([], cs) :=
  nextWord_word (w := []) (by simp) (by simpa using hb)

/-- Blanks at the end come behind the next word. -/
theorem nextWord_append_gap (hgap : AllBlank gap) (cs : List Char) :
    ∃ gap', AllBlank gap' ∧
      Scrape.nextWord (cs ++ gap) = ((Scrape.nextWord cs).1, (Scrape.nextWord cs).2 ++ gap') := by
  obtain ⟨w, rest, rfl, hw, hrest⟩ := exists_front cs
  rw [nextWord_word hw hrest, List.append_assoc]
  cases rest with
  | nil =>
    have hhead : ∀ c ∈ gap.head?, isBlank c = true := fun c hc => hgap c (List.mem_of_mem_head? hc)
    exact ⟨gap.tail, fun c hc => hgap c (List.mem_of_mem_tail hc), nextWord_word hw hhead⟩
  | cons b rest => exact ⟨gap, hgap, nextWord_word hw hrest⟩

/-- Only the next two words and what is left of the rest count. -/
theorem commentSentence_congr
    (hkeyword : (Scrape.nextWord cs).1 = (Scrape.nextWord cs').1)
    (hname : (Scrape.nextWord (Scrape.nextWord cs).2).1 =
      (Scrape.nextWord (Scrape.nextWord cs').2).1)
    (hrest : trim (Scrape.nextWord (Scrape.nextWord cs).2).2 =
      trim (Scrape.nextWord (Scrape.nextWord cs').2).2) :
    commentSentence cs = commentSentence cs' := by
  unfold commentSentence
  simp only [hkeyword, hname, hrest]

theorem commentSentence_append_gap (hgap : AllBlank gap) (cs : List Char) :
    commentSentence (cs ++ gap) = commentSentence cs := by
  obtain ⟨gap', hgap', hnext⟩ := nextWord_append_gap hgap cs
  obtain ⟨gap'', hgap'', hnext'⟩ := nextWord_append_gap hgap' (Scrape.nextWord cs).2
  refine commentSentence_congr ?_ ?_ ?_
  · rw [hnext]
  · rw [hnext, hnext']
  · rw [hnext, hnext']
    exact trim_append_right hgap'' _

/-- What a line says that begins with a mark of comments. -/
theorem sentence_of_comment (h : trimStart cs = '#' :: rest) :
    sentence cs = commentSentence (trimStart rest) := by
  have htrim : trim cs = '#' :: trimEnd rest := by
    rw [trim, h, trimEnd_cons (by decide)]
  obtain ⟨gap, hgap, hrest⟩ := exists_trimEnd rest
  rw [sentence, htrim, if_neg (by simp), List.head?_cons, if_pos rfl, List.tail_cons]
  conv_rhs => rw [hrest]
  by_cases hnone : trimStart (trimEnd rest) = []
  · rw [trimStart_append (trimStart_eq_nil_iff.mp hnone), trimStart_eq_nil_iff.mpr hgap, hnone]
  · rw [trimStart_append_of_ne_nil hnone, commentSentence_append_gap hgap]

/-- The keyword of a comment that is about a name. -/
def IsKeyword (w : List Char) : Prop :=
  w = "HELP".toList ∨ w = "TYPE".toList

/-- Other comments say nothing. -/
theorem commentSentence_of_not_isKeyword (h : ¬ IsKeyword (Scrape.nextWord cs).1) :
    commentSentence cs = .ok .nothing := by
  rw [IsKeyword, not_or] at h
  unfold commentSentence
  simp only [← String.toList_inj, String.toList_ofList, h.1, h.2, if_false]

/-- A comment about a name has to give one. -/
theorem commentSentence_nameless (hkeyword : IsKeyword (Scrape.nextWord cs).1)
    (hname : (Scrape.nextWord (Scrape.nextWord cs).2).1 = []) :
    commentSentence cs = .error (.badMetricName "") := by
  unfold commentSentence
  simp only [hname]
  rcases hkeyword with hkeyword | hkeyword <;> rw [hkeyword] <;> rfl

/-- Behind the first word of a comment, blanks are only told from other characters. -/
theorem exists_nextWord_trimStart {w : List Char} {ws : List (List Char)}
    (h : words front = w :: ws) :
    ∃ rest, words rest = ws ∧ (∀ c ∈ rest.head?, isBlank c = true) ∧
      ∀ b cs, isBlank b = true →
        Scrape.nextWord (trimStart (front ++ b :: cs)) = (w, (rest ++ b :: cs).tail) := by
  obtain ⟨gap, rest, rfl, hrest, hgap, hw, hhead⟩ := exists_of_words_eq_cons h
  refine ⟨rest, hrest, hhead, fun b cs hb => ?_⟩
  have hstart : trimStart (gap ++ (w ++ rest) ++ b :: cs) = w ++ (rest ++ b :: cs) := by
    obtain ⟨hne, hw⟩ := hw
    cases w with
    | nil => exact absurd rfl hne
    | cons c w =>
      rw [List.append_assoc, trimStart_append hgap, List.append_assoc, List.cons_append,
        trimStart_cons (hw c List.mem_cons_self)]
  rw [hstart]
  exact nextWord_word hw.2 (head?_append_cons hb hhead cs)

/-- A name behind the keyword of a comment is only seen behind a single blank. -/
theorem eq_nil_of_nextWord_tail (hrest : AllBlank rest) (hb : isBlank b = true)
    (hname : (Scrape.nextWord (rest ++ b :: back).tail).1 ≠ []) : rest = [] := by
  cases rest with
  | nil => rfl
  | cons d rest =>
    have hblank : ∀ c ∈ rest.head?, isBlank c = true := fun c hc =>
      hrest c (List.mem_cons_of_mem d (List.mem_of_mem_head? hc))
    have hnone := nextWord_word (w := []) (by simp) (head?_append_cons hb hblank back)
    refine absurd ?_ hname
    rw [List.cons_append, List.tail_cons]
    exact congrArg Prod.fst hnone

/-- Behind the second word of a comment, blanks make no difference. If there is more than one blank
in front of that word, it is not seen. -/
theorem nextWord_tail_cases {name : List Char} (h : words rest = [name])
    (hhead : ∀ c ∈ rest.head?, isBlank c = true) :
    (∀ b cs, isBlank b = true → (Scrape.nextWord (rest ++ b :: cs).tail).1 = []) ∨
      ∀ b cs, isBlank b = true → (Scrape.nextWord (rest ++ b :: cs).tail).1 = name ∧
        trim (Scrape.nextWord (rest ++ b :: cs).tail).2 = trim cs := by
  cases rest with
  | nil => cases h
  | cons c rest =>
    rw [← List.singleton_append, words_append (allBlank_singleton (hhead c rfl))] at h
    obtain ⟨gap, rest, rfl, hrest, hgap, hname, hbehind⟩ := exists_of_words_eq_cons h
    have hblank := allBlank_of_words_eq_nil hrest
    cases gap with
    | cons d gap => exact .inl fun b cs _ => by simp [nextWord_cons (hgap d List.mem_cons_self)]
    | nil =>
      refine .inr fun b cs hb => ?_
      have hnext : Scrape.nextWord (c :: ([] ++ (name ++ rest)) ++ b :: cs).tail =
          (name, (rest ++ b :: cs).tail) := by
        rw [List.nil_append, List.cons_append, List.tail_cons, List.append_assoc]
        exact nextWord_word hname.2 (head?_append_cons hb hbehind cs)
      rw [hnext]
      refine ⟨rfl, ?_⟩
      cases rest with
      | nil => rfl
      | cons d rest =>
        have hall : AllBlank (rest ++ [b]) := List.forall_mem_append.mpr
          ⟨fun e he => hblank e (List.mem_cons_of_mem d he), by simpa using hb⟩
        simpa using trim_append_left hall cs

/-- **A comment says the same if a gap in front of its text is wider**, unless it is the one between
its keyword and its name. -/
theorem commentSentence_widen {said : Sentence}
    (h : commentSentence (trimStart (front ++ b :: back)) = .ok said) (hb : isBlank b = true)
    (hne : gap ≠ []) (hgap : AllBlank gap) (hwords : (words front).length ≤ 2) :
    commentSentence (trimStart (front ++ (gap ++ back))) =
      if (words front = ["HELP".toList] ∨ words front = ["TYPE".toList]) ∧ 1 < gap.length
      then .error (.badMetricName "") else .ok said := by
  obtain ⟨a, gap, rfl⟩ := List.exists_cons_of_ne_nil hne
  obtain ⟨ha, hgap'⟩ := List.forall_mem_cons.mp hgap
  cases hfront : words front with
  | nil =>
    have hblank := allBlank_of_words_eq_nil hfront
    have hone : trimStart (front ++ b :: back) = trimStart back := by
      rw [trimStart_append hblank]
      exact trimStart_append (allBlank_singleton hb) back
    rw [if_neg (by simp), ← h, hone, trimStart_append hblank, trimStart_append hgap]
  | cons keyword ws =>
    obtain ⟨rest, hrest, hhead, hnext⟩ := exists_nextWord_trimStart hfront
    have hone := hnext b back hb
    have hwide := hnext a (gap ++ back) ha
    rw [List.cons_append]
    by_cases hkeyword : IsKeyword keyword
    · have hname : (Scrape.nextWord (rest ++ b :: back).tail).1 ≠ [] := by
        intro hnone
        rw [commentSentence_nameless (by rwa [hone]) (by rw [hone, hnone])] at h
        cases h
      cases ws with
      | nil =>
        obtain rfl := eq_nil_of_nextWord_tail (allBlank_of_words_eq_nil hrest) hb hname
        rw [List.nil_append, List.tail_cons] at hone hwide
        cases gap with
        | nil =>
          rw [if_neg (by simp), ← h]
          refine commentSentence_congr ?_ ?_ ?_ <;> rw [hone, hwide, List.nil_append]
        | cons c gap =>
          have hnameless : (Scrape.nextWord (c :: gap ++ back)).1 = [] := by
            rw [List.cons_append, nextWord_cons (hgap' c List.mem_cons_self)]
          have hkeyword' : [keyword] = ["HELP".toList] ∨ [keyword] = ["TYPE".toList] := by
            simpa [IsKeyword] using hkeyword
          rw [if_pos ⟨hkeyword', by simp⟩]
          exact commentSentence_nameless (by rwa [hwide]) (by rw [hwide, hnameless])
      | cons name ws =>
        obtain rfl : ws = [] := by simpa [hfront] using hwords
        rcases nextWord_tail_cases hrest hhead with hnone | hsome
        · exact absurd (hnone b back hb) hname
        · obtain ⟨hone₁, hone₂⟩ := hsome b back hb
          obtain ⟨hwide₁, hwide₂⟩ := hsome a (gap ++ back) ha
          rw [if_neg (by simp), ← h]
          refine commentSentence_congr ?_ ?_ ?_
          · rw [hone, hwide]
          · rw [hone, hwide, hone₁, hwide₁]
          · rw [hone, hwide, hone₂, hwide₂, trim_append_left hgap']
    · have hother : ¬ (keyword :: ws = ["HELP".toList] ∨ keyword :: ws = ["TYPE".toList]) := by
        rintro (heq | heq)
        · exact hkeyword (.inl (List.cons.inj heq).1)
        · exact hkeyword (.inr (List.cons.inj heq).1)
      rw [commentSentence_of_not_isKeyword (by rwa [hone])] at h
      rw [commentSentence_of_not_isKeyword (by rwa [hwide]), if_neg fun hboth => hother hboth.1, h]

/-! ## Lines -/

/-- A line counts without the blanks at its ends. -/
theorem line_congr (h : trim cs = trim cs') : s.line cs = s.line cs' := by
  rw [line_eq, line_eq, sentence, sentence, h]

theorem line_of_value {c : Char} (h : trim cs = c :: text) (hc : c ≠ '#') :
    s.line cs = (s.parseLine (c :: text)).bind s.record := by
  have hhead : ¬ (c :: text).head? = some '#' := by simpa using hc
  rw [line_eq, sentence, h, if_neg (List.cons_ne_nil _ _), if_neg hhead]
  rfl

/-- A value line does the same if a gap outside of quotes is wider. -/
theorem line_widen_outside {s' : Scrape} (h : s.line (front ++ b :: back) = .ok s')
    (hb : isBlank b = true) (hne : gap ≠ []) (hgap : AllBlank gap)
    (hplain : ∀ rest, trimStart front ≠ '#' :: rest)
    (houtside : (trimStart front).foldl Quoting.next .outside = .outside) :
    s.line (front ++ (gap ++ back)) = .ok s' := by
  rw [← h]
  by_cases hfront : AllBlank front
  · have hone : trim (b :: back) = trim back := trim_append_left (allBlank_singleton hb) back
    apply line_congr
    rw [trim_append_left hfront, trim_append_left hfront, trim_append_left hgap, hone]
  by_cases hback : AllBlank back
  · apply line_congr
    rw [trim_append_right (List.forall_mem_append.mpr ⟨hgap, hback⟩),
      trim_append_right (List.forall_mem_cons.mpr ⟨hb, hback⟩)]
  have htext : trim (front ++ b :: back) = trimStart front ++ b :: trimEnd back :=
    trim_append_append hfront hback [b]
  have htext' := trim_append_append hfront hback gap
  have hwide := widened_of_outside houtside hb hne hgap (trimEnd back)
  cases hstart : trimStart front with
  | nil => exact absurd (trimStart_eq_nil_iff.mp hstart) hfront
  | cons c cs =>
    have hc : c ≠ '#' := by
      rintro rfl
      exact hplain cs hstart
    rw [hstart, List.cons_append] at htext htext' hwide
    rw [List.cons_append] at hwide
    rw [line_of_value htext hc] at h
    rw [line_of_value htext hc, line_of_value htext' hc]
    obtain ⟨l, hl, -⟩ := bind_eq_ok h
    rw [hl, parseLine_widen hl hwide]

/-- **A line does the same if a gap is wider**, unless it is the one behind the keyword of a
comment. -/
theorem line_widen {s' : Scrape} (h : s.line (front ++ b :: back) = .ok s') (hb : isBlank b = true)
    (hne : gap ≠ []) (hgap : AllBlank gap) (hapart : keepsApart front = true) :
    s.line (front ++ (gap ++ back)) =
      if endsInKeyword front = true ∧ 1 < gap.length then .error (.badMetricName "") else .ok s' := by
  unfold keepsApart at hapart
  split at hapart
  · rename_i rest hstart
    rw [decide_eq_true_eq] at hapart
    have hcomment : ∀ cs, trimStart (front ++ cs) = '#' :: (rest ++ cs) := by
      intro cs
      rw [trimStart_append_of_ne_nil (by simp [hstart]), hstart, List.cons_append]
    rw [line_eq, sentence_of_comment (hcomment _)] at h
    obtain ⟨said, hsaid, htake⟩ := bind_eq_ok h
    rw [line_eq, sentence_of_comment (hcomment _),
      commentSentence_widen hsaid hb hne hgap hapart]
    simp only [endsInKeyword, hstart, decide_eq_true_eq]
    split
    · rfl
    · exact htake
  · rename_i hplain
    rw [decide_eq_true_eq] at hapart
    have hkeyword : endsInKeyword front = false := by
      unfold endsInKeyword
      split
      · rename_i rest hstart
        exact absurd hstart (hplain rest)
      · rfl
    rw [if_neg (by simp [hkeyword])]
    exact line_widen_outside h hb hne hgap hplain hapart

/-! ## Texts -/

/-- **The width of gaps makes no difference.** If a text is accepted, so it is with more blanks in
the place of one that keeps words of a line apart, and it has the same families. Only if that is the
one behind the keyword of a comment, a second blank makes the name empty, and the line is refused. -/
theorem parse_widen {before after front gap : List Char} {b : Char} {done : List (List Char)}
    {families : List Metric.Family}
    (hparse : parse (String.ofList (before ++ b :: after)) = .ok families)
    (hbefore : lines before = done ++ [front]) (hapart : keepsApart front = true) (hb : IsGap [b])
    (hgap : IsGap gap) :
    parse (String.ofList (before ++ (gap ++ after))) =
      if endsInKeyword front = true ∧ 1 < gap.length then .error (done.length + 1, .badMetricName "")
      else .ok families := by
  obtain ⟨back, more, hafter⟩ := exists_split_eq_cons '\n' after
  have hlines : ∀ gap, IsGap gap →
      lines (before ++ (gap ++ after)) = done ++ (front ++ (gap ++ back)) :: more := by
    intro gap hgap
    have hwhole : split '\n' gap = [] ++ [gap] := split_eq_singleton hgap.inLine
    have hbehind : split '\n' (gap ++ after) = (gap ++ back) :: more :=
      split_append_append hwhole hafter
    exact split_append_append hbefore hbehind
  have hblank : isBlank b = true := hb.blank b List.mem_cons_self
  obtain ⟨s, hread, hfinish⟩ := map_eq_ok hparse
  rw [String.toList_ofList, ← List.singleton_append, hlines _ hb, readLines_append,
    List.singleton_append] at hread
  obtain ⟨t, ht, hread⟩ := bind_eq_ok hread
  rw [Scrape.readLines] at hread
  cases hline : t.line (front ++ b :: back) with
  | error e =>
    rw [hline] at hread
    cases hread
  | ok t' =>
    rw [hline] at hread
    have hwide := line_widen hline hblank hgap.nonempty hgap.blank hapart
    rw [parse, String.toList_ofList, hlines _ hgap, readLines_append, ht, Except.bind,
      Scrape.readLines, hwide]
    by_cases hnameless : endsInKeyword front = true ∧ 1 < gap.length
    · rw [if_pos hnameless, if_pos hnameless, Nat.add_comm]
      rfl
    · rw [if_neg hnameless, if_neg hnameless, ← hfinish]
      exact congrArg _ hread

theorem parse_widen_labels :
    parse (String.ofList ("# HELP up a b\nup\x7ba=\"b c\",".toList ++
        ("\t  ".toList ++ "d=\"e\"\x7d 1 2\n".toList))) =
      .ok [{ name := "up", help := "a b", samples :=
        [.plain ⟨.ofList [("a", "b c"), ("d", "e")], some "2", "1"⟩] }] :=
  @parse_widen "# HELP up a b\nup\x7ba=\"b c\",".toList "d=\"e\"\x7d 1 2\n".toList
    "up\x7ba=\"b c\",".toList "\t  ".toList ' ' ["# HELP up a b".toList] _
    (by decide +kernel) (by decide +kernel) (by decide +kernel) (by decide +kernel)
    (by decide +kernel)

/-- A second blank behind the keyword is taken for the end of an empty name. -/
theorem parse_widened_keyword :
    parse "# TYPE up gauge\nup 1\n" =
        .ok [{ name := "up", kind := .gauge, samples := [.plain { value := "1" }] }] ∧
      parse "# TYPE  up gauge\nup 1\n" = .error (1, .badMetricName "") := by
  decide +kernel

end Exposition

end Assay
