import Assay.Duration
import Assay.Proofs.Fallible
import Assay.Proofs.Number.Literal

/-!
# The grammar of durations

Behind its sign a duration is a lone `0`, or terms one behind the other with nothing between them.
Each turn of the loop that adds the terms up takes one off the front, so it ends on every text, and
it fails exactly where no term stands in front. Numbers and units are cut where characters of the
other kind begin; this finds the terms again since no unit holds a character of a number.
-/

namespace Assay.Duration

variable {cs number unit rest : List Char} {sum sum' : Binary64}

/-! ## Terms -/

/-- The spellings of the units. -/
def units : List String :=
  ["ns", "us", "\u00b5s", "\u03bcs", "ms", "s", "m", "h"]

/-- A number and a unit right behind it. -/
def IsTerm (cs : List Char) : Prop :=
  ∃ number, Number.IsPlain number ∧ ∃ unit ∈ units, cs = number ++ unit.toList

/-- A sign in front of the rest, or nothing in front of a rest that starts with none. -/
def IsSign (mark rest : List Char) : Prop :=
  mark = ['+'] ∨ mark = ['-'] ∨ mark = [] ∧ ∀ c ∈ rest.head?, c ≠ '+' ∧ c ≠ '-'

/-- One term or more, one behind the other. -/
def IsTerms (cs : List Char) : Prop :=
  ∃ terms : List (List Char), terms ≠ [] ∧ (∀ t ∈ terms, IsTerm t) ∧ terms.flatten = cs

theorem isNumeral_iff {c : Char} : isNumeral c = true ↔ c.isDigit = true ∨ c = '.' := by
  simp [isNumeral]

/-- No unit is empty or holds a character of a number. -/
theorem isNumeral_of_mem_unit : ∀ unit ∈ units,
    unit.toList ≠ [] ∧ ∀ c ∈ unit.toList, isNumeral c = false := by
  have hall : ∀ unit ∈ units,
      unit.toList ≠ [] ∧ (unit.toList.all fun c => !isNumeral c) = true := by decide
  simpa using hall

theorem exists_unitNanos?_iff :
    (∃ nanos, unitNanos? unit = some nanos) ↔ ∃ name ∈ units, unit = name.toList := by
  constructor
  · rintro ⟨nanos, h⟩
    unfold unitNanos? at h
    split at h
    · exact ⟨"ns", by decide, rfl⟩
    · exact ⟨"us", by decide, rfl⟩
    · exact ⟨"\u00b5s", by decide, rfl⟩
    · exact ⟨"\u03bcs", by decide, rfl⟩
    · exact ⟨"ms", by decide, rfl⟩
    · exact ⟨"s", by decide, rfl⟩
    · exact ⟨"m", by decide, rfl⟩
    · exact ⟨"h", by decide, rfl⟩
    · cases h
  · have hall : ∀ name ∈ units, (unitNanos? name.toList).isSome = true := by decide
    rintro ⟨name, hname, rfl⟩
    exact Option.isSome_iff_exists.mp (hall name hname)

theorem term_isOk_iff (h : ∀ c ∈ number, isNumeral c = true) :
    (∃ x, term number unit = .ok x) ↔
      Number.IsPlain number ∧ ∃ name ∈ units, unit = name.toList := by
  rw [← Number.literal_isOk_iff fun c hc => isNumeral_iff.mp (h c hc), ← exists_unitNanos?_iff,
    term]
  cases Number.literal number with
  | error e => simp
  | ok x =>
    cases unitNanos? unit with
    | some nanos => simp
    | none => simp only [reduceCtorEq, exists_false, and_false, iff_false]; split <;> simp

/-! ## One turn of the loop -/

/-- A term is taken off the front of a text and added to a sum. -/
def turn (sum : Binary64) (cs : List Char) : Except Error (Binary64 × List Char) :=
  let number := cs.takeWhile isNumeral
  let rest := cs.dropWhile isNumeral
  if number = [] ∨ number = ['.'] then .error (.numberExpected (String.ofList cs))
  else do
    let value ← term number (rest.takeWhile fun c => !isNumeral c)
    return (sum.add value, rest.dropWhile fun c => !isNumeral c)

/-- The loop makes turns until nothing is left. -/
theorem addTerms_eq (sum : Binary64) (cs : List Char) :
    addTerms sum cs =
      if cs.isEmpty then .ok sum else turn sum cs >>= fun next => addTerms next.1 next.2 := by
  rw [addTerms, turn]
  dsimp only
  split
  · rfl
  · split
    · rfl
    · cases term (cs.takeWhile isNumeral)
        ((cs.dropWhile isNumeral).takeWhile fun c => !isNumeral c) <;> rfl

theorem ne_of_isPlain (h : Number.IsPlain number) : ¬ (number = [] ∨ number = ['.']) := by
  obtain ⟨c, hc, hdigit⟩ := h.someDigit
  rintro (rfl | rfl)
  · cases hc
  · rw [List.mem_singleton.mp hc] at hdigit
    cases hdigit

/-- A turn cuts where characters of the other kind begin. -/
theorem turn_append (hnumber : ∀ c ∈ number, isNumeral c = true)
    (hbehind : ∀ c ∈ (unit ++ rest).head?, isNumeral c = false)
    (hunit : ∀ c ∈ unit, (!isNumeral c) = true)
    (hrest : ∀ c ∈ rest.head?, (!isNumeral c) = false) :
    turn sum (number ++ (unit ++ rest)) =
      if number = [] ∨ number = ['.'] then
        .error (.numberExpected (String.ofList (number ++ (unit ++ rest))))
      else (term number unit).map fun value => (sum.add value, rest) := by
  rw [turn, Text.takeWhile_front hnumber hbehind, Text.dropWhile_front hnumber hbehind,
    Text.takeWhile_front hunit hrest, Text.dropWhile_front hunit hrest]
  cases term number unit <;> rfl

/-- **A turn succeeds exactly on a term** in front of nothing or of another number. -/
theorem turn_isOk_iff :
    (∃ sum', turn sum cs = .ok (sum', rest)) ↔
      ∃ t, IsTerm t ∧ cs = t ++ rest ∧ ∀ c ∈ rest.head?, isNumeral c = true := by
  constructor
  · rintro ⟨sum', h⟩
    obtain ⟨number, behind, rfl, hnumber, hbehind⟩ := Text.exists_span isNumeral cs
    obtain ⟨unit, rest', rfl, hunit, hrest⟩ := Text.exists_span (!isNumeral ·) behind
    rw [turn_append hnumber hbehind hunit hrest] at h
    split at h
    · cases h
    · obtain ⟨x, hx, heq⟩ := map_eq_ok h
      cases heq
      obtain ⟨hplain, name, hname, rfl⟩ := (term_isOk_iff hnumber).mp ⟨x, hx⟩
      exact ⟨_, ⟨number, hplain, name, hname, rfl⟩, by simp, by simpa using hrest⟩
  · rintro ⟨t, ⟨number, hplain, name, hname, rfl⟩, rfl, hrest⟩
    obtain ⟨hne, hunit⟩ := isNumeral_of_mem_unit name hname
    have hnumber : ∀ c ∈ number, isNumeral c = true :=
      fun c hc => isNumeral_iff.mpr (hplain.numerals c hc)
    have hbehind : ∀ c ∈ (name.toList ++ rest).head?, isNumeral c = false := by
      intro c hc
      rw [List.head?_append_of_ne_nil _ hne] at hc
      exact hunit c (List.mem_of_mem_head? hc)
    obtain ⟨x, hx⟩ := (term_isOk_iff hnumber).mpr ⟨hplain, name, hname, rfl⟩
    refine ⟨sum.add x, ?_⟩
    rw [List.append_assoc, turn_append hnumber hbehind (by simpa using hunit)
      (by simpa using hrest), if_neg (ne_of_isPlain hplain), hx]
    rfl

theorem IsTerm.head_isNumeral {t : List Char} (h : IsTerm t) (cs : List Char) :
    t ≠ [] ∧ ∀ c ∈ (t ++ cs).head?, isNumeral c = true := by
  obtain ⟨number, hplain, name, -, rfl⟩ := h
  obtain ⟨c, hc, -⟩ := hplain.someDigit
  have hne := List.ne_nil_of_mem hc
  refine ⟨by simp [hne], fun c hc => ?_⟩
  rw [List.append_assoc, List.head?_append_of_ne_nil _ hne] at hc
  exact isNumeral_iff.mpr (hplain.numerals c (List.mem_of_mem_head? hc))

/-- **The loop ends**: every turn leaves a shorter text. -/
theorem wellFounded_turn :
    WellFounded fun after before : Binary64 × List Char =>
      turn before.1 before.2 = .ok after := by
  refine Subrelation.wf (fun {after before} h => ?_)
    (measure fun state : Binary64 × List Char => state.2.length).wf
  obtain ⟨t, hterm, hcs, -⟩ := turn_isOk_iff.mp ⟨after.1, h⟩
  have hpos := List.length_pos_iff.mpr (hterm.head_isNumeral []).1
  show after.2.length < before.2.length
  rw [hcs, List.length_append]
  omega

/-- No turn fails because of the sum. -/
theorem turn_ne_outOfRange (sum : Binary64) (cs : List Char) :
    turn sum cs ≠ .error .outOfRange := by
  unfold turn term
  dsimp only
  split
  · simp
  · cases Number.literal (cs.takeWhile isNumeral) with
    | error e => simp [bind, Except.bind]
    | ok x => dsimp only; split <;> [skip; split] <;> simp [bind, Except.bind, pure, Except.pure]

/-! ## The whole loop -/

theorem addTerms_ne_outOfRange (sum : Binary64) (cs : List Char) :
    addTerms sum cs ≠ .error .outOfRange := by
  refine wellFounded_turn.induction (C := fun s => addTerms s.1 s.2 ≠ _) (sum, cs) fun s ih => ?_
  rw [addTerms_eq]
  split
  · simp
  · intro h
    rcases bind_eq_error h with h | ⟨next, hnext, h⟩
    · exact turn_ne_outOfRange _ _ h
    · exact ih next hnext h

/-- **The terms of a text are added up exactly if it is made of terms.** -/
theorem addTerms_isOk_iff (sum : Binary64) (cs : List Char) :
    (∃ x, addTerms sum cs = .ok x) ↔
      ∃ terms : List (List Char), (∀ t ∈ terms, IsTerm t) ∧ terms.flatten = cs := by
  constructor
  · refine wellFounded_turn.induction (C := fun s => (∃ x, addTerms s.1 s.2 = .ok x) →
      ∃ terms : List (List Char), (∀ t ∈ terms, IsTerm t) ∧ terms.flatten = s.2)
      (sum, cs) fun s ih => ?_
    rintro ⟨x, hx⟩
    rw [addTerms_eq] at hx
    split at hx
    · rename_i hnil
      exact ⟨[], by simp, (List.isEmpty_iff.mp hnil).symm⟩
    · obtain ⟨next, hnext, hx⟩ := bind_eq_ok hx
      obtain ⟨t, hterm, hcs, -⟩ := turn_isOk_iff.mp ⟨next.1, hnext⟩
      obtain ⟨terms, hterms, hflat⟩ := ih next hnext ⟨x, hx⟩
      exact ⟨t :: terms, List.forall_mem_cons.mpr ⟨hterm, hterms⟩, by
        rw [List.flatten_cons, hflat, hcs]⟩
  · rintro ⟨terms, hterms, rfl⟩
    induction terms generalizing sum with
    | nil => exact ⟨sum, by rw [addTerms_eq]; rfl⟩
    | cons t terms ih =>
      rw [List.forall_mem_cons] at hterms
      have hrest : ∀ c ∈ terms.flatten.head?, isNumeral c = true := by
        cases terms with
        | nil => simp
        | cons t' terms => exact ((hterms.2 t' List.mem_cons_self).head_isNumeral _).2
      obtain ⟨sum', hturn⟩ : ∃ sum', turn sum (t ++ terms.flatten) = .ok (sum', terms.flatten) :=
        turn_isOk_iff.mpr ⟨t, hterms.1, rfl, hrest⟩
      obtain ⟨x, hx⟩ := ih sum' hterms.2
      refine ⟨x, ?_⟩
      rw [List.flatten_cons, addTerms_eq, if_neg (by simp [(hterms.1.head_isNumeral []).1]), hturn]
      exact hx

/-! ## Whole texts -/

/-- The errors are told apart by their wording: only this one starts with its letter. -/
theorem message_eq_outOfRange_iff {e : Error} :
    e.message = "duration out of range" ↔ e = .outOfRange := by
  have hfirst : ∀ (front back : String) (c : Char), front.toList.head? = some c → c ≠ 'd' →
      front ++ back ≠ "duration out of range" := by
    intro front back c hc hne heq
    have hhead := congrArg (fun text => text.toList.head?) heq
    rw [String.toList_append, List.head?_append, hc] at hhead
    exact hne (Option.some.inj hhead)
  constructor
  · intro h
    cases e with
    | outOfRange => rfl
    | empty => exact absurd h (by decide +kernel)
    | numberExpected rest =>
      exact absurd (String.append_assoc.symm.trans h) (hfirst _ _ 'e' rfl (by decide))
    | badNumber number =>
      exact absurd (String.append_assoc.symm.trans h) (hfirst _ _ 'i' rfl (by decide))
    | missingUnit number =>
      exact absurd (String.append_assoc.symm.trans h) (hfirst _ _ 'm' rfl (by decide))
    | unknownUnit name =>
      exact absurd (String.append_assoc.symm.trans h) (hfirst _ _ 'u' rfl (by decide))
  · rintro rfl
    rfl

theorem eq_outOfRange_of_wholeNanos {e : Error} (h : wholeNanos sum = .error e) :
    e = .outOfRange := by
  unfold wholeNanos at h
  split at h
  · split at h <;> cases h
    rfl
  · cases h
    rfl

/-- A text without its sign fails for other reasons than its size exactly if it is not in the
grammar. -/
theorem magnitude_fails_iff (cs : List Char) :
    (∃ e, magnitude cs = .error e ∧ e ≠ .outOfRange) ↔ ¬ (cs = ['0'] ∨ IsTerms cs) := by
  unfold magnitude
  split
  · rename_i hzero
    simp [hzero]
  · rename_i hzero
    split
    · rename_i hnil
      have hno : ¬ IsTerms cs := by
        rintro ⟨terms, hne, hterms, hflat⟩
        obtain ⟨t, ht⟩ := List.exists_mem_of_ne_nil terms hne
        rw [List.isEmpty_iff.mp hnil, List.flatten_eq_nil_iff] at hflat
        exact ((hterms t ht).head_isNumeral []).1 (hflat t ht)
      simp [hzero, hno]
    · rename_i hne
      have hterms : IsTerms cs ↔ ∃ x, addTerms (.finite false 0) cs = .ok x := by
        rw [addTerms_isOk_iff, IsTerms]
        refine exists_congr fun terms => and_iff_right_of_imp ?_
        rintro ⟨-, hflat⟩ rfl
        exact hne (List.isEmpty_iff.mpr hflat.symm)
      rw [hterms]
      cases hadd : addTerms (.finite false 0) cs with
      | error e =>
        have hother := addTerms_ne_outOfRange (.finite false 0) cs
        rw [hadd] at hother
        simpa [hzero, bind, Except.bind] using hother
      | ok x =>
        simpa [hzero, bind, Except.bind] using fun e => eq_outOfRange_of_wholeNanos

/-- The sign in front of a text is cut off, and it counts as negative if it is a minus. -/
theorem exists_sign (text : List Char) :
    ∃ mark cs, text = mark ++ cs ∧ IsSign mark cs ∧ sign text = (decide (mark = ['-']), cs) := by
  unfold sign
  split
  · rename_i cs
    exact ⟨['-'], cs, rfl, .inr (.inl rfl), by simp⟩
  · rename_i cs
    exact ⟨['+'], cs, rfl, .inl rfl, by simp⟩
  · rename_i hminus hplus
    refine ⟨[], text, rfl, .inr (.inr ⟨rfl, fun c hc => ?_⟩), by simp⟩
    obtain ⟨rest, rfl⟩ := List.head?_eq_some_iff.mp hc
    exact ⟨fun h => hplus rest (by rw [h]), fun h => hminus rest (by rw [h])⟩

/-- A text is read as the sign in front and the magnitude behind it. -/
theorem parse_eq (s : String) :
    parse s = (magnitude (sign (Text.trim s.toList)).2).map fun nanos =>
      ⟨(sign (Text.trim s.toList)).1, nanos⟩ := by
  unfold parse
  dsimp only
  cases magnitude (sign (Text.trim s.toList)).2 <;> rfl

/-- **Durations are read by their grammar.** Without the blanks around it and its sign, a text fails
for another reason than its size exactly if it is neither a lone `0` nor made of terms, one or more.
What is read is negative exactly if the sign is a minus. The loop over the terms makes one turn
after the other and ends on every text. -/
theorem parse_grammar :
    (∀ s, ∃ mark cs, Text.trim s.toList = mark ++ cs ∧ IsSign mark cs ∧
      ((∃ e, parse s = .error e ∧ e.message ≠ "duration out of range") ↔
        ¬ (cs = ['0'] ∨ IsTerms cs)) ∧
      ∀ d, parse s = .ok d → (d.negative = true ↔ mark = ['-'])) ∧
    (∀ sum cs, addTerms sum cs =
      if cs.isEmpty then .ok sum else turn sum cs >>= fun next => addTerms next.1 next.2) ∧
    WellFounded fun after before : Binary64 × List Char =>
      turn before.1 before.2 = .ok after := by
  refine ⟨fun s => ?_, addTerms_eq, wellFounded_turn⟩
  obtain ⟨mark, cs, htext, hmark, hsign⟩ := exists_sign (Text.trim s.toList)
  refine ⟨mark, cs, htext, hmark, ?_, fun d hd => ?_⟩
  · rw [← magnitude_fails_iff, parse_eq, hsign]
    refine exists_congr fun e => and_congr ?_ (not_congr message_eq_outOfRange_iff)
    cases magnitude cs <;> simp [Except.map]
  · rw [parse_eq, hsign] at hd
    obtain ⟨nanos, -, rfl⟩ := map_eq_ok hd
    exact decide_eq_true_iff

/-- The minus makes the first text negative, and the blank between its terms makes the second
invalid. -/
theorem parse_grammar_minutes :
    (∃ d, parse "-1m30.5s" = .ok d ∧ d.nanos = 90500000000 ∧ d.negative = true) ∧
      ¬ IsTerms "1m 30s".toList := by
  constructor
  · have hread : parse "-1m30.5s" = .ok ⟨true, 90500000000⟩ := by decide +kernel
    obtain ⟨mark, cs, htext, hmark, -, hsign⟩ := parse_grammar.1 "-1m30.5s"
    refine ⟨_, hread, rfl, (hsign _ hread).mpr ?_⟩
    have htrim : Text.trim "-1m30.5s".toList = '-' :: "1m30.5s".toList := by decide +kernel
    rw [htrim] at htext
    rcases hmark with rfl | rfl | ⟨rfl, hhead⟩
    · cases htext
    · rfl
    · cases htext
      exact absurd rfl (hhead '-' rfl).2
  · have hread : parse "1m 30s" = .error (.unknownUnit "m ") := by decide +kernel
    obtain ⟨mark, cs, htext, hmark, hfails, -⟩ := parse_grammar.1 "1m 30s"
    have hnone := hfails.mp ⟨_, hread, by decide +kernel⟩
    have htrim : Text.trim "1m 30s".toList = "1m 30s".toList := by decide +kernel
    rw [htrim] at htext
    rcases hmark with rfl | rfl | ⟨rfl, -⟩
    · cases htext
    · cases htext
    · rw [htext]
      exact fun h => hnone (.inr h)

end Assay.Duration
