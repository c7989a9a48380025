import Assay.Exposition.Scrape
import Assay.Proofs.Dictionary
import Assay.Proofs.Fallible
import Assay.Proofs.Text

/-!
# The grammar of labels

What may stand between the braces of a value line: names with quoted values, commas between them and
one behind the last if you like, and blanks around everything. `LabelsFront` says so without regard
to how it is read. Labels are read just if they are written so and no name is given twice. With them,
a value line is read from its name on.
-/

namespace Assay

open Text

namespace Exposition

/-! ## The grammar -/

/-- What stands between quotes, and what it stands for. The closing quote is the first one without a
backslash in front of it that counts. -/
inductive Quoted : List Char → List Char → Prop where
  | nil : Quoted [] []
  | plain {c : Char} {raw v : List Char} (hquote : c ≠ '"') (hslash : c ≠ '\\')
    (h : Quoted raw v) : Quoted (c :: raw) (c :: v)
  | escaped {raw v : List Char} (c : Char) (h : Quoted raw v) :
    Quoted ('\\' :: c :: raw) (unescaped c :: v)

/-- A label at the front of a text, and the text behind the quote that closes its value. -/
inductive LabelFront : List Char → String × String → List Char → Prop where
  | intro {gap gap' gap'' name raw v rest : List Char} (hgap : AllBlank gap) (hgap' : AllBlank gap')
    (hgap'' : AllBlank gap'') (hname : isLabelName name = true) (hvalue : Quoted raw v) :
    LabelFront (gap ++ (name ++ (gap' ++ '=' :: (gap'' ++ '"' :: (raw ++ '"' :: rest)))))
      (String.ofList name, String.ofList v) rest

/-- Labels at the front of a text, in their order, and the text behind the brace that closes them. -/
inductive LabelsFront : List Char → List (String × String) → List Char → Prop where
  /-- There is none, or none behind the last comma. -/
  | none {gap after : List Char} (hgap : AllBlank gap) : LabelsFront (gap ++ '\x7d' :: after) [] after
  | last {cs gap after : List Char} {e : String × String}
    (he : LabelFront cs e (gap ++ '\x7d' :: after)) (hgap : AllBlank gap) :
    LabelsFront cs [e] after
  | more {cs gap rest after : List Char} {e : String × String} {es : List (String × String)}
    (he : LabelFront cs e (gap ++ ',' :: rest)) (hgap : AllBlank gap)
    (hes : LabelsFront rest es after) : LabelsFront cs (e :: es) after

variable {s : Scrape} {cs rest after raw v : List Char} {e : String × String}
  {es : List (String × String)} {acc d : Dictionary String}

/-! ## Names -/

theorem toNat_of_isAlphanum {c : Char} (h : c.isAlphanum = true) :
    48 ≤ c.toNat ∧ c.toNat ≤ 57 ∨ 65 ≤ c.toNat ∧ c.toNat ≤ 90 ∨ 97 ≤ c.toNat ∧ c.toNat ≤ 122 := by
  have hcodes : 'A'.val.toNat = 65 ∧ 'Z'.val.toNat = 90 ∧ 'a'.val.toNat = 97 ∧
      'z'.val.toNat = 122 ∧ '0'.val.toNat = 48 ∧ '9'.val.toNat = 57 := by decide
  delta Char.isAlphanum Char.isAlpha Char.isUpper Char.isLower Char.isDigit at h
  simp only [Bool.or_eq_true, Bool.and_eq_true, decide_eq_true_eq, ge_iff_le,
    UInt32.le_iff_toNat_le, hcodes] at h
  rw [Char.toNat]
  omega

theorem isLabelChar_visible {c : Char} (h : isLabelChar c = true) :
    0x20 < c.toNat ∧ c.toNat < 0x7B ∧ c ≠ '=' := by
  rw [isLabelChar, Bool.or_eq_true, decide_eq_true_eq] at h
  rcases h with h | rfl
  · have hrange := toNat_of_isAlphanum h
    refine ⟨by omega, by omega, ?_⟩
    rintro rfl
    exact absurd hrange (by decide)
  · decide

theorem isNameChar_visible {first : Bool} {c : Char} (h : isNameChar first c = true) :
    0x20 < c.toNat ∧ c.toNat < 0x7B ∧ c ≠ '#' := by
  have hcases : c.isAlphanum = true ∨ c = '_' ∨ c = ':' := by
    simp only [isNameChar, Bool.or_eq_true, Bool.and_eq_true, decide_eq_true_eq] at h
    rw [Char.isAlphanum, Bool.or_eq_true]
    tauto
  rcases hcases with h | rfl | rfl
  · have hrange := toNat_of_isAlphanum h
    refine ⟨by omega, by omega, ?_⟩
    rintro rfl
    exact absurd hrange (by decide)
  · decide
  · decide

theorem visible_of_isMetricName {cs : List Char} (h : isMetricName cs = true) :
    cs ≠ [] ∧ ∀ c ∈ cs, 0x20 < c.toNat ∧ c.toNat < 0x7B ∧ c ≠ '#' := by
  cases cs with
  | nil => simp [isMetricName] at h
  | cons c cs =>
    rw [isMetricName, Bool.and_eq_true, List.all_eq_true] at h
    refine ⟨by simp, List.forall_mem_cons.mpr ⟨isNameChar_visible h.1, fun d hd => ?_⟩⟩
    exact isNameChar_visible (h.2 d hd)

/-- A metric name holds no blank. -/
theorem isWord_of_isMetricName {cs : List Char} (h : isMetricName cs = true) : IsWord cs := by
  obtain ⟨hne, hall⟩ := visible_of_isMetricName h
  refine ⟨hne, fun c hc => ?_⟩
  obtain ⟨hlo, hhi, _⟩ := hall c hc
  exact isBlank_of_visible hlo (by omega)

theorem visible_of_isLabelName {cs : List Char} (h : isLabelName cs = true) :
    cs ≠ [] ∧ ∀ c ∈ cs, 0x20 < c.toNat ∧ c.toNat < 0x7B ∧ c ≠ '=' := by
  rw [isLabelName, Bool.and_eq_true, List.all_eq_true] at h
  exact ⟨by simpa using h.1, fun c hc => isLabelChar_visible (h.2 c hc)⟩

/-- A label name holds no blank. -/
theorem isWord_of_isLabelName {cs : List Char} (h : isLabelName cs = true) : IsWord cs := by
  obtain ⟨hne, hall⟩ := visible_of_isLabelName h
  refine ⟨hne, fun c hc => ?_⟩
  obtain ⟨hlo, hhi, _⟩ := hall c hc
  exact isBlank_of_visible hlo (by omega)

/-! ## Values -/

/-- **A value is read up to the quote that closes it**, and no further. -/
theorem quotedValue?_eq_some_iff :
    quotedValue? cs = some (v, after) ↔ ∃ raw, Quoted raw v ∧ cs = raw ++ '"' :: after := by
  constructor
  · intro h
    fun_induction quotedValue? cs generalizing v after with
    | case1 => cases h
    | case2 rest =>
      cases h
      exact ⟨[], .nil, rfl⟩
    | case3 => cases h
    | case4 c rest ih =>
      obtain ⟨⟨w, a⟩, hw, heq⟩ := Option.map_eq_some_iff.mp h
      cases heq
      obtain ⟨raw, hraw, rfl⟩ := ih hw
      exact ⟨_, .escaped c hraw, rfl⟩
    | case5 c rest hquote hslash hescape ih =>
      obtain ⟨⟨w, a⟩, hw, heq⟩ := Option.map_eq_some_iff.mp h
      cases heq
      obtain ⟨raw, hraw, hrest⟩ := ih hw
      have hplain : c ≠ '\\' := by
        intro heq
        cases rest with
        | nil => exact hslash heq rfl
        | cons c' rest' => exact hescape c' rest' heq rfl
      exact ⟨_, .plain hquote hplain hraw, by rw [hrest, List.cons_append]⟩
  · rintro ⟨raw, hraw, rfl⟩
    induction hraw with
    | nil => rfl
    | plain hquote hslash _ ih =>
      rw [List.cons_append, quotedValue?, ih]
      · rfl
      · exact hquote
      · intro heq _
        exact hslash heq
      · intro _ _ heq _
        exact hslash heq
    | escaped c _ ih =>
      rw [List.cons_append, List.cons_append, quotedValue?, ih]
      rfl

/-! ## One label -/

theorem ne_equals_of_isBlank {c : Char} (h : isBlank c = true) : c ≠ '=' := by
  rintro rfl
  exact absurd h (by decide)

/-- **One label is read just if it stands at the front.** -/
theorem labelPair_eq_ok_iff : labelPair cs = .ok (e, rest) ↔ LabelFront cs e rest := by
  constructor
  · intro h
    unfold labelPair at h
    split at h
    · cases h
    · rename_i front back hcut
      obtain ⟨c, hc, rfl⟩ := cut_eq_append hcut
      obtain rfl : c = '=' := by simpa using hc
      obtain ⟨gap, gap', hgap, hgap', hfront⟩ := exists_trim front
      obtain ⟨gap'', hgap'', hback⟩ := exists_trimStart back
      dsimp only at h
      split at h
      · cases h
      · rename_i hname
        split at h
        · rename_i inside hinside
          split at h
          · cases h
          · rename_i v after hvalue
            cases h
            obtain ⟨raw, hraw, rfl⟩ := quotedValue?_eq_some_iff.mp hvalue
            rw [hinside] at hback
            have htext : front ++ '=' :: back = gap ++ (trim front ++ (gap' ++
                '=' :: (gap'' ++ '"' :: (raw ++ '"' :: rest)))) := by
              rw [← hback, ← List.append_assoc (trim front), ← List.append_assoc gap, ← hfront]
            rw [htext]
            exact .intro hgap hgap' hgap'' (by simpa using hname) hraw
        · cases h
  · intro h
    obtain @⟨gap, gap', gap'', name, raw, v, _, hgap, hgap', hgap'', hname, hvalue⟩ := h
    have hcut : cut (· = '=')
        (gap ++ (name ++ (gap' ++ '=' :: (gap'' ++ '"' :: (raw ++ '"' :: rest))))) =
        some (gap ++ (name ++ gap'), gap'' ++ '"' :: (raw ++ '"' :: rest)) := by
      rw [← List.append_assoc name, ← List.append_assoc gap]
      refine cut_append (fun c hc => ?_) (by simp) _
      rw [decide_eq_false_iff_not]
      rcases List.mem_append.mp hc with hc | hc
      · exact ne_equals_of_isBlank (hgap c hc)
      · rcases List.mem_append.mp hc with hc | hc
        · exact ((visible_of_isLabelName hname).2 c hc).2.2
        · exact ne_equals_of_isBlank (hgap' c hc)
    have htrim : trim (gap ++ (name ++ gap')) = name := by
      rw [← List.append_assoc, trim_append hgap hgap', (isWord_of_isLabelName hname).trim]
    have hstart : trimStart (gap'' ++ '"' :: (raw ++ '"' :: rest)) = '"' :: (raw ++ '"' :: rest) := by
      rw [trimStart_append hgap'', trimStart_cons (by decide)]
    have hquoted : quotedValue? (raw ++ '"' :: rest) = some (v, rest) :=
      quotedValue?_eq_some_iff.mpr ⟨raw, hvalue, rfl⟩
    rw [labelPair, hcut]
    simp only [htrim, hname, hstart, hquoted, Bool.not_true, Bool.false_eq_true, if_false]

/-- The first character that is not blank is one of the name. -/
theorem LabelFront.start (h : LabelFront cs e rest) :
    ∃ c back, trimStart cs = c :: back ∧ isLabelChar c = true := by
  obtain @⟨gap, gap', gap'', name, raw, v, _, hgap, hgap', hgap'', hname, hvalue⟩ := h
  have hword := isWord_of_isLabelName hname
  rw [trimStart_append hgap]
  rw [isLabelName, Bool.and_eq_true, List.all_eq_true] at hname
  cases name with
  | nil => exact absurd rfl hword.1
  | cons c name =>
    exact ⟨c, _, trimStart_cons (hword.2 c List.mem_cons_self) _, hname.2 c List.mem_cons_self⟩

theorem LabelFront.not_closed (h : LabelFront cs e rest) (after : List Char) :
    trimStart cs ≠ '\x7d' :: after := by
  obtain ⟨c, back, hstart, hc⟩ := h.start
  rw [hstart]
  intro heq
  rw [(List.cons.inj heq).1] at hc
  exact absurd hc (by decide)

/-- Blanks in front of a label make no difference. -/
theorem labelPair_append {gap : List Char} (hgap : AllBlank gap) (cs : List Char) :
    labelPair (gap ++ cs) = labelPair cs := by
  have hequals : ∀ c ∈ gap, decide (c = '=') = false := by
    intro c hc
    rw [decide_eq_false_iff_not]
    exact ne_equals_of_isBlank (hgap c hc)
  unfold labelPair
  rw [cut_append_front hequals]
  cases hcut : cut (· = '=') cs with
  | none => rfl
  | some parts =>
    simp only [Option.map_some, trim_append_left hgap]

theorem labelPair_trimStart (cs : List Char) : labelPair (trimStart cs) = labelPair cs := by
  obtain ⟨gap, hgap, hcs⟩ := exists_trimStart cs
  conv_rhs => rw [hcs, labelPair_append hgap]

/-! ## All labels -/

theorem labelsFrom_close (h : trimStart cs = '\x7d' :: after) :
    labelsFrom acc cs = .ok (acc, after) := by
  rw [labelsFrom]
  split
  · rename_i hclosed
    rw [h] at hclosed
    cases hclosed
    rfl
  · rename_i hopen
    exact absurd h (hopen after)

/-- A label of a new name is added, and what follows it settles how to go on. -/
theorem labelsFrom_pair (h : LabelFront cs e rest) (hnew : acc.get? e.1 = none) :
    labelsFrom acc cs =
      match trimStart rest with
      | ',' :: more => labelsFrom (acc.insert e.1 e.2) more
      | '\x7d' :: after => .ok (acc.insert e.1 e.2, after)
      | _ => .error .labelSeparator := by
  have hpair := labelPair_eq_ok_iff.mpr h
  rw [← labelPair_trimStart] at hpair
  rw [labelsFrom]
  split
  · rename_i hclosed
    exact absurd hclosed (h.not_closed _)
  · split
    · rename_i herror
      rw [hpair] at herror
      cases herror
    · rename_i hread
      rw [hpair] at hread
      cases hread
      rw [if_neg (by simp [Dictionary.contains, hnew])]
      split
      · rename_i hcomma
        simp only [hcomma]
      · rename_i hclose
        simp only [hclose]
      · rename_i hcomma hclose
        split
        · rename_i heq
          exact absurd heq (hcomma _)
        · rename_i heq
          exact absurd heq (hclose _)
        · rfl

/-- **How labels have been read**: either the closing brace was there, or a label of a new name. -/
theorem labelsFrom_cases (h : labelsFrom acc cs = .ok (d, after)) :
    trimStart cs = '\x7d' :: after ∧ d = acc ∨
      ∃ e rest, LabelFront cs e rest ∧ acc.get? e.1 = none := by
  rw [labelsFrom] at h
  split at h
  · rename_i hclosed
    cases h
    exact .inl ⟨hclosed, rfl⟩
  · split at h
    · cases h
    · rename_i name v rest hpair
      rw [labelPair_trimStart, labelPair_eq_ok_iff] at hpair
      split at h
      · cases h
      · rename_i hnew
        refine .inr ⟨(name, v), rest, hpair, ?_⟩
        simpa [Dictionary.contains] using hnew

/-- Names that are given once each and have not been given before. -/
def Fresh (acc : Dictionary String) (es : List (String × String)) : Prop :=
  (es.map Prod.fst).Nodup ∧ ∀ e ∈ es, acc.get? e.1 = none

theorem fresh_nil (acc : Dictionary String) : Fresh acc [] :=
  ⟨.nil, by simp⟩

/-- Names can be given one after the other. -/
theorem fresh_cons_iff :
    Fresh acc (e :: es) ↔ acc.get? e.1 = none ∧ Fresh (acc.insert e.1 e.2) es := by
  simp only [Fresh, List.map_cons, List.nodup_cons, List.forall_mem_cons, Dictionary.get?_insert]
  constructor
  · rintro ⟨⟨hfirst, hdistinct⟩, hnew, hrest⟩
    refine ⟨hnew, hdistinct, fun a ha => ?_⟩
    rw [if_neg, hrest a ha]
    intro hname
    exact hfirst (hname ▸ List.mem_map_of_mem ha)
  · rintro ⟨hnew, hdistinct, hrest⟩
    refine ⟨⟨fun hmem => ?_, hdistinct⟩, hnew, fun a ha => ?_⟩
    · obtain ⟨a, ha, hname⟩ := List.mem_map.mp hmem
      have hget := hrest a ha
      rw [if_pos hname] at hget
      cases hget
    · have hget := hrest a ha
      split at hget
      · cases hget
      · exact hget

/-- Labels that have been read stand at the front. -/
theorem exists_labelsFront {cs after : List Char} {acc d : Dictionary String}
    (h : labelsFrom acc cs = .ok (d, after)) :
    ∃ es, LabelsFront cs es after ∧ Fresh acc es ∧ d = acc.insertAll es := by
  obtain ⟨gap, hgap, hcs⟩ := exists_trimStart cs
  rcases labelsFrom_cases h with ⟨hclosed, rfl⟩ | ⟨e, rest, he, hnew⟩
  · rw [hclosed] at hcs
    exact ⟨[], hcs ▸ .none hgap, fresh_nil d, rfl⟩
  · obtain ⟨gap', hgap', hrest⟩ := exists_trimStart rest
    rw [labelsFrom_pair he hnew] at h
    split at h
    · rename_i more hcomma
      rw [hcomma] at hrest
      rw [hrest] at he
      have hshort : more.length < cs.length := by
        have hlabel := length_lt_of_labelPair (labelPair_eq_ok_iff.mpr he)
        simp only [List.length_append, List.length_cons] at hlabel
        omega
      obtain ⟨es, hes, hfresh, rfl⟩ := exists_labelsFront h
      exact ⟨e :: es, .more he hgap' hes, fresh_cons_iff.mpr ⟨hnew, hfresh⟩, rfl⟩
    · rename_i hclosed
      cases h
      rw [hclosed] at hrest
      rw [hrest] at he
      exact ⟨[e], .last he hgap', fresh_cons_iff.mpr ⟨hnew, fresh_nil _⟩, rfl⟩
    · cases h
  termination_by cs.length
  decreasing_by exact hshort

/-- Labels at the front are read if their names are fresh. -/
theorem LabelsFront.labelsFrom_eq (h : LabelsFront cs es after) (hfresh : Fresh acc es) :
    labelsFrom acc cs = .ok (acc.insertAll es, after) := by
  induction h generalizing acc with
  | none hgap =>
    refine labelsFrom_close ?_
    rw [trimStart_append hgap, trimStart_cons (by decide)]
  | last he hgap =>
    rw [labelsFrom_pair he (fresh_cons_iff.mp hfresh).1, trimStart_append hgap,
      trimStart_cons (by decide)]
    rfl
  | more he hgap _ ih =>
    obtain ⟨hnew, hlater⟩ := fresh_cons_iff.mp hfresh
    rw [labelsFrom_pair he hnew, trimStart_append hgap, trimStart_cons (by decide)]
    exact ih hlater

/-- **Labels are read just if they stand at the front** and no name is given twice. -/
theorem labels_eq_ok_iff :
    labels cs = .ok (d, after) ↔
      ∃ es, LabelsFront cs es after ∧ (es.map Prod.fst).Nodup ∧ d = .ofList es := by
  have hfresh : ∀ es : List (String × String), Fresh ∅ es ↔ (es.map Prod.fst).Nodup := by
    simp [Fresh]
  constructor
  · intro h
    obtain ⟨es, hes, hnames, rfl⟩ := exists_labelsFront h
    exact ⟨es, hes, (hfresh es).mp hnames, rfl⟩
  · rintro ⟨es, hes, hnames, rfl⟩
    exact hes.labelsFrom_eq ((hfresh es).mpr hnames)

/-! ## Labels as they are written -/

/-- A character as it is written, in quotes or not. -/
def escapeChar (quoted : Bool) (c : Char) : List Char :=
  if c = '\\' then ['\\', '\\']
  else if c = '\n' then ['\\', 'n']
  else if quoted && c = '"' then ['\\', '"']
  else [c]

/-- A text as it is written, in quotes or not. -/
def escape (quoted : Bool) (cs : List Char) : List Char :=
  cs.flatMap (escapeChar quoted)

/-- What is written for a character: two characters with a backslash in front, or itself. -/
theorem escapeChar_cases (quoted : Bool) (c : Char) :
    (∃ d, escapeChar quoted c = ['\\', d] ∧ unescaped d = c ∧ isBlank d = false ∧ d ≠ '\n') ∨
      escapeChar quoted c = [c] ∧ c ≠ '\\' ∧ c ≠ '\n' ∧ (quoted = true → c ≠ '"') := by
  unfold escapeChar
  by_cases hslash : c = '\\'
  · subst hslash
    exact .inl ⟨'\\', rfl, by decide, by decide, by decide⟩
  by_cases hfeed : c = '\n'
  · subst hfeed
    exact .inl ⟨'n', rfl, by decide, by decide, by decide⟩
  by_cases hquote : c = '"'
  · subst hquote
    cases quoted with
    | true => exact .inl ⟨'"', rfl, by decide, by decide, by decide⟩
    | false => exact .inr ⟨rfl, by decide, by decide, by simp⟩
  · exact .inr ⟨by simp [hslash, hfeed, hquote], hslash, hfeed, fun _ => hquote⟩

/-- A label as it is written. -/
def labelText (e : String × String) : List Char :=
  e.1.toList ++ '=' :: '"' :: (escape true e.2.toList ++ ['"'])

/-- Labels as they are written, in braces if there are any. -/
def labelsText : List (String × String) → List Char
  | [] => []
  | e :: es => '\x7b' :: (labelText e ++ es.flatMap (',' :: labelText ·) ++ ['\x7d'])

/-- An escaped text stands for itself. -/
theorem quoted_escape (cs : List Char) : Quoted (escape true cs) cs := by
  induction cs with
  | nil => exact .nil
  | cons c cs ih =>
    rw [escape, List.flatMap_cons]
    rw [escape] at ih
    rcases escapeChar_cases true c with ⟨d, hd, hc, _⟩ | ⟨hc, hslash, _, hquote⟩
    · rw [hd, ← hc]
      exact .escaped d ih
    · rw [hc]
      exact .plain (hquote rfl) hslash ih

/-- A written label stands at the front of what it is written in front of. -/
theorem labelFront_labelText (h : isLabelName e.1.toList = true) (rest : List Char) :
    LabelFront (labelText e ++ rest) e rest := by
  have hblank : AllBlank [] := List.forall_mem_nil _
  have hlabel : LabelFront _ _ rest := .intro hblank hblank hblank h (quoted_escape e.2.toList)
  simpa [labelText] using hlabel

/-- Written labels stand behind their opening brace. -/
theorem labelsFront_labelsText (h : ∀ e ∈ es, isLabelName e.1.toList = true)
    (htext : labelsText es = '\x7b' :: cs) (after : List Char) :
    LabelsFront (cs ++ after) es after := by
  have hblank : AllBlank [] := List.forall_mem_nil _
  induction es generalizing cs with
  | nil => cases htext
  | cons e es ih =>
    rw [List.forall_mem_cons] at h
    obtain rfl := (List.cons.inj htext).2
    have hlabel := labelFront_labelText h.1
    cases es with
    | nil => simpa using LabelsFront.last (hlabel ('\x7d' :: after)) hblank
    | cons a es =>
      have hrest := LabelsFront.more (hlabel (',' :: _)) hblank (ih h.2 rfl)
      simpa using hrest

/-- **The grammar of labels.** Labels are read just if they stand behind the opening brace as the
grammar has it, each name given once, and then each name has its value. So escaped values are read
back, and labels are read alike in whatever order they stand. -/
theorem labels_grammar :
    (∀ cs d after, labels cs = .ok (d, after) ↔
      ∃ es, LabelsFront cs es after ∧ (es.map Prod.fst).Nodup ∧
        ∀ k v, d.get? k = some v ↔ (k, v) ∈ es) ∧
    (∀ es cs after, labelsText es = '\x7b' :: cs → (∀ e ∈ es, isLabelName e.1.toList = true) →
      (es.map Prod.fst).Nodup → labels (cs ++ after) = .ok (.ofList es, after)) ∧
    (∀ es es' cs cs' after after', LabelsFront cs es after → LabelsFront cs' es' after' →
      es'.Perm es → (es.map Prod.fst).Nodup →
      ∃ d, labels cs = .ok (d, after) ∧ labels cs' = .ok (d, after')) := by
  refine ⟨fun cs d after => ?_, fun es cs after htext hnames hdistinct => ?_,
    fun es es' cs cs' after after' hes hes' hperm hdistinct => ?_⟩
  · rw [labels_eq_ok_iff]
    refine exists_congr fun es => and_congr_right fun _ => and_congr_right fun hdistinct => ?_
    have hget : ∀ k v, (Dictionary.ofList es).get? k = some v ↔ (k, v) ∈ es := by
      intro k v
      rw [Dictionary.ofList_eq_insertAll, Dictionary.get?_insertAll hdistinct,
        Dictionary.get?_empty, Option.or_none, Dictionary.mem_iff_lookup hdistinct (k, v)]
    constructor
    · rintro rfl
      exact hget
    · intro hd
      refine Dictionary.ext_get? fun k => Option.ext fun v => ?_
      rw [hd k v, hget k v]
  · exact labels_eq_ok_iff.mpr ⟨es, labelsFront_labelsText hnames htext after, hdistinct, rfl⟩
  · have hdistinct' : (es'.map Prod.fst).Nodup := (hperm.map Prod.fst).nodup_iff.mpr hdistinct
    refine ⟨.ofList es, labels_eq_ok_iff.mpr ⟨es, hes, hdistinct, rfl⟩, ?_⟩
    exact labels_eq_ok_iff.mpr ⟨es', hes', hdistinct', (Dictionary.ofList_perm hperm hdistinct).symm⟩

/-- Labels with blanks around their parts, escapes in a value and a comma behind the last. -/
theorem labels_grammar_spaced :
    labels " a = \"\\\"\\n\" ,\tb=\"\",\x7d 1".toList =
        .ok (.ofList [("a", "\"\n"), ("b", "")], " 1".toList) ∧
      ∃ es, LabelsFront " a = \"\\\"\\n\" ,\tb=\"\",\x7d 1".toList es " 1".toList ∧
        (es.map Prod.fst).Nodup ∧
        ∀ k v, (Dictionary.ofList [("a", "\"\n"), ("b", "")]).get? k = some v ↔ (k, v) ∈ es :=
  have hread : labels " a = \"\\\"\\n\" ,\tb=\"\",\x7d 1".toList =
      .ok (.ofList [("a", "\"\n"), ("b", "")], " 1".toList) := by decide +kernel
  ⟨hread, (labels_grammar.1 _ _ _).mp hread⟩

/-! ## Value lines -/

/-- The labels behind the name of a series, if it has some, and what stands behind them. -/
def labelsBehind : List Char → Except LineError (Dictionary String × List Char)
  | '\x7b' :: body => labels body
  | rest => .ok (∅, rest)

theorem labelsBehind_cons {c : Char} (hc : c ≠ '\x7b') (back : List Char) :
    labelsBehind (c :: back) = .ok (∅, c :: back) := by
  rw [labelsBehind]
  rintro body heq
  exact hc (List.cons.inj heq).1

/-- Whether a character ends the name of a series. -/
def endsName (c : Char) : Bool :=
  c = '\x7b' || isBlank c

/-- **What a value line comes to**, once the name of its series is told from what is behind it. -/
theorem parseLine_append {name : List Char} {c : Char} (hname : isMetricName name = true)
    (hc : endsName c = true) (back : List Char) :
    s.parseLine (name ++ c :: back) = (do
      let (labels, rest) ← labelsBehind (c :: back)
      let (value, timestamp) ← Scrape.valueAndTime (String.ofList name) rest
      let (family, part, labels) ← s.resolve name labels
      return ⟨family, part, labels, value, timestamp⟩) := by
  have hgo : ∀ a ∈ name, (!endsName a) = true := by
    intro a ha
    have hbrace : a ≠ '\x7b' := by
      rintro rfl
      exact absurd ((visible_of_isMetricName hname).2 _ ha).2.1 (by decide)
    simp [endsName, hbrace, (isWord_of_isMetricName hname).2 a ha]
  have hany : (name ++ c :: back).any endsName = true := by simp [hc]
  have htake : (name ++ c :: back).takeWhile (!endsName ·) = name := by
    rw [List.takeWhile_append_of_pos hgo, List.takeWhile_cons_of_neg (by simp [hc]),
      List.append_nil]
  unfold endsName at hany htake
  unfold Scrape.parseLine
  simp only [hany, htake, List.drop_left, checkName, hname, Bool.not_true, Bool.false_eq_true,
    if_false, if_true]
  by_cases hbrace : c = '\x7b'
  · subst hbrace
    rfl
  · rw [labelsBehind_cons hbrace]
    split
    · rename_i heq
      exact absurd (List.cons.inj heq).1 hbrace
    · rfl

end Exposition

end Assay
