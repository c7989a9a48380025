import Assay.Proofs.Predicate.Reading

/-!
# Predicates in canonical form

Every text reads as the predicate that some text of the form keyword, space, operand reads as. Such
texts are read back exactly, as long as no blank stands at the end of the operand: the keyword ends
at the first space, and all that follows is the operand, blanks and keywords included. Blanks around
a text never count.
-/

namespace Assay.Predicate

/-! ## Keywords -/

theorem ofKeyword?_keyword (o : Operator) : Operator.ofKeyword? o.keyword = some o := by
  cases o <;> decide

theorem ofKeyword?_eq_some_iff {word : String} {o : Operator} :
    Operator.ofKeyword? word = some o ↔ word = o.keyword := by
  constructor
  · intro h
    have hfound := List.find?_some h
    rw [beq_iff_eq] at hfound
    exact hfound.symm
  · rintro rfl
    exact ofKeyword?_keyword o

/-- Keywords are single words. -/
theorem isWord_keyword (o : Operator) : Text.IsWord o.keyword.toList := by
  cases o <;> decide

theorem ne_space_of_mem_keyword {o : Operator} {c : Char} (hc : c ∈ o.keyword.toList) :
    decide (c = ' ') = false := by
  have hblank := (isWord_keyword o).2 c hc
  rw [decide_eq_false_iff_not]
  rintro rfl
  exact absurd hblank (by decide)

/-! ## Operands -/

/-- A text without a blank at its end, as operands are. -/
def IsOperand (x : String) : Prop :=
  ∀ c ∈ x.toList.getLast?, Text.isBlank c = false

/-- What stands behind a cut ends as the whole text does. -/
theorem isOperand_of_cut {cs front back : List Char}
    (h : ∀ c ∈ cs.getLast?, Text.isBlank c = false)
    (hcut : Text.cut (· = ' ') cs = some (front, back)) : IsOperand (String.ofList back) := by
  obtain ⟨space, -, rfl⟩ := Text.cut_eq_append hcut
  intro c hc
  rw [String.toList_ofList] at hc
  refine h c ?_
  rw [List.getLast?_append, List.getLast?_cons, Option.mem_def.mp hc]
  rfl

/-- **Operands never end with a blank.** -/
theorem isOperand_parse (text : String) : IsOperand (parse text).operand := by
  have hend := Text.getLast?_trim text.toList
  unfold parse
  generalize Text.trim text.toList = cs at hend
  dsimp only
  split
  · simp [IsOperand]
  · cases hcut : Text.cut (· = ' ') cs with
    | none =>
      simp only [Option.getD_none]
      split
      · simp [IsOperand]
      · simpa [IsOperand] using hend
    | some parts =>
      obtain ⟨front, back⟩ := parts
      simp only [Option.getD_some]
      split
      · exact isOperand_of_cut hend hcut
      · simpa [IsOperand] using hend

/-! ## Reading canonical texts -/

/-- Of a keyword, a space and an operand trimming leaves at least the keyword, and a cut at the first
space gives the keyword and the operand back. -/
theorem cut_canonical (o : Operator) {x : String} (h : IsOperand x) {cs : List Char}
    (hcs : Text.trim (o.keyword ++ " " ++ x).toList = cs) :
    cs ≠ [] ∧ (Text.cut (· = ' ') cs).getD (cs, []) = (o.keyword.toList, x.toList) := by
  have hword := isWord_keyword o
  have hletters : ∀ c ∈ o.keyword.toList, decide (c = ' ') = false :=
    fun c hc => ne_space_of_mem_keyword hc
  simp only [String.toList_append] at hcs
  by_cases hx : x.toList = []
  · -- the space is trimmed away
    have hspace : ∀ c ∈ " ".toList, Text.isBlank c = true := List.forall_mem_singleton.mpr rfl
    have hnone : ∀ c ∈ ([] : List Char), Text.isBlank c = true := by simp
    have htrim := Text.trim_append hnone hspace o.keyword.toList
    rw [List.nil_append, hword.trim] at htrim
    rw [hx, List.append_nil, htrim] at hcs
    subst hcs
    exact ⟨hword.1, by rw [Text.cut_eq_none hletters, Option.getD_none, hx]⟩
  · have htrim : Text.trim (o.keyword.toList ++ ' ' :: x.toList) =
        o.keyword.toList ++ ' ' :: x.toList := by
      refine Text.trim_eq_self (fun c hc => ?_) (fun c hc => h c ?_)
      · rw [List.head?_append_of_ne_nil _ hword.1] at hc
        exact hword.2 c (List.mem_of_mem_head? hc)
      · rw [List.getLast?_append, List.getLast?_cons_of_ne_nil hx] at hc
        simpa [List.getLast?_eq_some_getLast hx] using hc
    have hcs : Text.trim (o.keyword.toList ++ ' ' :: x.toList) = cs := by
      simpa using hcs
    rw [htrim] at hcs
    subst hcs
    refine ⟨by simp, ?_⟩
    rw [Text.cut_append hletters (by decide), Option.getD_some]

/-- **A canonical text is read back.** -/
theorem parse_keyword (o : Operator) {x : String} (h : IsOperand x) :
    parse (o.keyword ++ " " ++ x) = ⟨o, x⟩ := by
  obtain ⟨hne, hcut⟩ := cut_canonical o h rfl
  have hempty : (Text.trim (o.keyword ++ " " ++ x).toList).isEmpty = false := by simpa using hne
  rw [parse]
  simp only [hempty, hcut, Bool.false_eq_true, if_false, String.ofList_toList, ofKeyword?_keyword]

/-- Blanks around a text do not count. -/
theorem parse_padded {front back : String} (hfront : ∀ c ∈ front.toList, Text.isBlank c = true)
    (hback : ∀ c ∈ back.toList, Text.isBlank c = true) (text : String) :
    parse (front ++ text ++ back) = parse text := by
  have htrim : Text.trim (front ++ text ++ back).toList = Text.trim text.toList := by
    rw [String.toList_append, String.toList_append, Text.trim_append hfront hback]
  simp only [parse, htrim]

/-- Equality accepts its operand and nothing else. -/
theorem evaluate_eq_iff (engine : Regex.Engine) (x actual : String) :
    evaluate engine ⟨.eq, x⟩ actual = .ok () ↔ actual = x := by
  simp only [evaluate, Prepared.evaluate, Prepared.satisfies, ready, prepare, Operator.isNumeric]
  by_cases h : x = actual
  · simp [h]
  · have hbeq : (x == actual) = false := by simpa using h
    simp [hbeq, Ne.symm h]

/-- **Predicates have a canonical form.** The keyword and the operand that a text is read as, written
with a space in between, are read as the same, so they apply to every actual text in the same way,
and blanks around the text make no difference. Any keyword and any operand make up such a form, if
no blank stands at the end of the operand, and so equality can be asked for with any such text, even
one that begins with a blank or a keyword. -/
theorem parse_canonical (engine : Regex.Engine) :
    (∀ text, parse (written (parse text)) = parse text ∧
      ∀ actual, check engine (written (parse text)) actual = check engine text actual) ∧
    (∀ front text back : String, (∀ c ∈ front.toList, Text.isBlank c = true) →
      (∀ c ∈ back.toList, Text.isBlank c = true) → parse (front ++ text ++ back) = parse text) ∧
    (∀ word o x, Operator.ofKeyword? word = some o → IsOperand x →
      parse (word ++ " " ++ x) = ⟨o, x⟩) ∧
    (∀ x, IsOperand x → ∀ actual, check engine ("eq " ++ x) actual = .ok () ↔ actual = x) := by
  have hself : ∀ text, parse (written (parse text)) = parse text :=
    fun text => parse_keyword (parse text).operator (isOperand_parse text)
  refine ⟨fun text => ⟨hself text, fun actual => ?_⟩,
    fun front text back hfront hback => parse_padded hfront hback text,
    fun word o x hword hx => ?_, fun x hx actual => ?_⟩
  · rw [check, hself text, check]
  · rw [ofKeyword?_eq_some_iff] at hword
    subst hword
    exact parse_keyword o hx
  · rw [check, show "eq " ++ x = Operator.eq.keyword ++ " " ++ x from rfl, parse_keyword .eq hx]
    exact evaluate_eq_iff engine x actual

/-- Equality with a text that begins with a tab and reads as another predicate without it. -/
theorem parse_canonical_nested :
    IsOperand "\tne 1" ∧ check .standard ("eq " ++ "\tne 1") "\tne 1" = .ok () := by
  have hoperand : IsOperand "\tne 1" := by
    have hlast : "\tne 1".toList.getLast? = some '1' := by decide
    rw [IsOperand, hlast]
    rintro c ⟨rfl⟩
    rfl
  exact ⟨hoperand, ((parse_canonical .standard).2.2.2 _ hoperand _).mpr rfl⟩

end Assay.Predicate
