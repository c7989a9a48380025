import Assay.Predicate.Basic
import Assay.Proofs.Text
import Mathlib.Data.List.TakeWhile
import Mathlib.Tactic.MkIffOfInductiveProp

/-!
# Texts as predicates

Of some texts it is clear how they apply before any actual text is known. A literal text asks for
itself, so it accepts itself. An ill-formed predicate has an operand that its operator cannot use,
so it is the same error whatever it is applied to. All of this holds for every engine for regular
expressions.
-/

namespace Assay

namespace Predicate

variable {engine : Regex.Engine}

/-! ## Literal texts -/

/-- The text in front of the first space. -/
def firstWord (s : String) : String :=
  String.ofList (s.toList.takeWhile fun c => !(c = ' '))

/-- A text that stands for itself: it has no blanks at its ends, and unless it is empty it does not
begin with a keyword. -/
@[mk_iff]
structure IsLiteral (s : String) : Prop where
  trimmed : Text.trimmed s = s
  word : s = "" ∨ ∀ o ∈ Operator.all, firstWord s ≠ o.keyword

instance (s : String) : Decidable (IsLiteral s) :=
  decidable_of_iff' _ (isLiteral_iff s)

theorem ofKeyword?_eq_none {word : String} (h : ∀ o ∈ Operator.all, word ≠ o.keyword) :
    Operator.ofKeyword? word = none := by
  rw [Operator.ofKeyword?, List.find?_eq_none]
  intro o ho
  simpa using Ne.symm (h o ho)

/-- The empty text asks for nothing, and any other literal text for equality with itself. -/
theorem IsLiteral.parse_eq {s : String} (h : IsLiteral s) :
    parse s = if s = "" then ⟨.noop, ""⟩ else ⟨.eq, s⟩ := by
  have htrim : Text.trim s.toList = s.toList := by
    have := congrArg String.toList h.trimmed
    rwa [Text.trimmed, String.toList_ofList] at this
  rw [parse]
  simp only [htrim]
  by_cases hs : s = ""
  · subst hs
    rfl
  · have hword := ofKeyword?_eq_none (h.word.resolve_left hs)
    rw [firstWord, ← Text.fst_cut_getD] at hword
    have hempty : s.toList.isEmpty = false := by simpa using hs
    simp only [hempty, hs, if_false, Bool.false_eq_true, String.ofList_toList]
    rw [hword]

/-- **A literal text accepts itself.** -/
theorem IsLiteral.check_self {s : String} (h : IsLiteral s) : check engine s s = .ok () := by
  rw [check, h.parse_eq]
  split
  · rfl
  · simp [evaluate, Prepared.evaluate, Prepared.satisfies, ready, prepare, Operator.isNumeric]

/-- No keyword is a number. -/
theorem literal_keyword : ∀ o ∈ Operator.all,
    Number.literal o.keyword.toList = .error .malformed := by
  decide

/-- A number is literal if it is a single word. -/
theorem isLiteral_of_number {s : String} {x : Binary64} (hword : Text.IsWord s.toList)
    (hnumber : Number.literal s.toList = .ok x) : IsLiteral s := by
  have hall : ∀ c ∈ s.toList, (!decide (c = ' ')) = true := by
    intro c hc
    have hblank := hword.2 c hc
    rw [Bool.not_eq_true', decide_eq_false_iff_not]
    rintro rfl
    exact absurd hblank (by decide)
  refine ⟨?_, .inr fun o ho heq => ?_⟩
  · rw [Text.trimmed, hword.trim, String.ofList_toList]
  · rw [firstWord, List.takeWhile_eq_self_iff.mpr hall, String.ofList_toList] at heq
    rw [heq, literal_keyword o ho] at hnumber
    cases hnumber

/-! ## Ill-formed predicates -/

/-- A predicate whose operand is not what its operator needs. -/
inductive IllFormed (engine : Regex.Engine) : Predicate → Prop where
  /-- Numbers can only be compared with a number. -/
  | number {operator : Operator} {operand : String} {reason : Number.LiteralError}
      (hoperator : operator.isNumeric = true)
      (hoperand : Number.literal operand.toList = .error reason) :
      IllFormed engine ⟨operator, operand⟩
  /-- Only a regular expression can be searched for. -/
  | pattern {operand : String} (hoperand : engine.matcher? operand = none) :
      IllFormed engine ⟨.regexp, operand⟩

theorem IllFormed.prepare {p : Predicate} (h : IllFormed engine p) :
    ∃ e, p.prepare engine = .error e ∧ e.isMalformed = true := by
  cases h with
  | @number operator operand reason hoperator hoperand =>
    refine ⟨.notANumber .expected operand reason, ?_, rfl⟩
    rw [Predicate.prepare, if_pos hoperator, Predicate.number, hoperand]
    rfl
  | @pattern operand hoperand =>
    refine ⟨.badPattern operand, ?_, rfl⟩
    simp [Predicate.prepare, Operator.isNumeric, hoperand]

/-- **An ill-formed predicate accepts nothing**, and the error is the same for every text. -/
theorem IllFormed.check {text : String} (h : IllFormed engine (parse text)) :
    ∃ e, e.isMalformed = true ∧ ∀ actual, Predicate.check engine text actual = .error e := by
  obtain ⟨e, he, hmalformed⟩ := h.prepare
  refine ⟨e, hmalformed, fun actual => ?_⟩
  simp [Predicate.check, evaluate, Prepared.evaluate, Prepared.satisfies, ready, he]

end Predicate

end Assay
