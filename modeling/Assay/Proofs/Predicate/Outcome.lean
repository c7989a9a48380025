import Assay.Proofs.Fallible
import Assay.Proofs.Predicate.Reading

/-!
# What becomes of a predicate

A predicate that is applied to a text is at fault, holds or fails. It is at fault if a side of a
numeric comparison is no number, where the operand is looked at first, or if the operand of a search
is no regular expression. In all other cases it holds if the text is what its operator asks for, and
otherwise it fails.
-/

namespace Assay.Predicate

variable {engine : Regex.Engine} {p : Predicate} {actual : String} {e : Error}

/-! ## What operators ask for -/

/-- Two texts are numbers that stand in one of the given orders. What is not a number has no place
in the order. -/
def Ordered (allowed : List Ordering) (actual operand : String) : Prop :=
  ∃ x y order, Number.literal actual.toList = .ok x ∧ Number.literal operand.toList = .ok y ∧
    Binary64.compare? x y = some order ∧ order ∈ allowed

/-- An actual text is what the operator asks for. -/
def Holds (engine : Regex.Engine) (p : Predicate) (actual : String) : Prop :=
  match p.operator with
  | .noop => True
  | .eq => actual = p.operand
  | .ne => actual ≠ p.operand
  | .ge => Ordered [.gt, .eq] actual p.operand
  | .gt => Ordered [.gt] actual p.operand
  | .le => Ordered [.lt, .eq] actual p.operand
  | .lt => Ordered [.lt] actual p.operand
  | .empty => actual = ""
  | .notEmpty => actual ≠ ""
  | .regexp => ∃ accepts, engine.matcher? p.operand = some accepts ∧ accepts actual = true

/-- The operators that compare numbers. -/
inductive Operator.Numeric : Operator → Prop where
  | ge : Numeric .ge
  | gt : Numeric .gt
  | le : Numeric .le
  | lt : Numeric .lt

theorem isNumeric_iff {o : Operator} : o.isNumeric = true ↔ o.Numeric := by
  constructor
  · intro h
    cases o <;> first | constructor | cases h
  · rintro (_ | _ | _ | _) <;> rfl

theorem Operator.Numeric.ne_regexp {o : Operator} (h : o.Numeric) : o ≠ .regexp := by
  rintro rfl
  cases h

/-- Why a predicate cannot be applied to a text. -/
inductive Fault (engine : Regex.Engine) (p : Predicate) (actual : String) : Error → Prop where
  /-- The operand of a numeric comparison is no number. -/
  | operand {reason : Number.LiteralError} (hnumeric : p.operator.Numeric)
      (hoperand : Number.literal p.operand.toList = .error reason) :
      Fault engine p actual (.notANumber .expected p.operand reason)
  /-- The operand is a number, and the actual text is none. -/
  | actual {y : Binary64} {reason : Number.LiteralError} (hnumeric : p.operator.Numeric)
      (hoperand : Number.literal p.operand.toList = .ok y)
      (hactual : Number.literal actual.toList = .error reason) :
      Fault engine p actual (.notANumber .actual actual reason)
  /-- The operand of a search is no regular expression. -/
  | pattern (hsearch : p.operator = .regexp) (hpattern : engine.matcher? p.operand = none) :
      Fault engine p actual (.badPattern p.operand)

/-- An operand made ready is of the kind that its operator works with. -/
inductive Operand.Suits : Operator → Operand → Prop where
  | text {o : Operator} (hnumeric : ¬ o.Numeric) (hsearch : o ≠ .regexp) : Suits o .text
  | number {o : Operator} {y : Binary64} (hnumeric : o.Numeric) : Suits o (.number y)
  | pattern {accepts : String → Bool} : Suits .regexp (.pattern accepts)

/-! ## Operands made ready -/

theorem prepare_of_numeric (h : p.operator.Numeric) :
    p.prepare engine = (number .expected p.operand).map .number := by
  rw [prepare, if_pos (isNumeric_iff.mpr h)]

theorem prepare_of_search (h : p.operator = .regexp) :
    p.prepare engine = match engine.matcher? p.operand with
      | some accepts => .ok (.pattern accepts)
      | none => .error (.badPattern p.operand) := by
  rw [prepare, if_neg (by simp [h, Operator.isNumeric])]
  exact if_pos h

theorem prepare_of_text (hnumeric : ¬ p.operator.Numeric)
    (hsearch : p.operator ≠ .regexp) : p.prepare engine = .ok .text := by
  rw [prepare, if_neg (isNumeric_iff.not.mpr hnumeric), if_neg hsearch]

/-- **No operator meets an operand that was made ready for another kind of operator.** -/
theorem suits_of_prepare {operand : Operand} (h : p.prepare engine = .ok operand) :
    operand.Suits p.operator := by
  by_cases hnumeric : p.operator.Numeric
  · rw [prepare_of_numeric hnumeric] at h
    obtain ⟨y, -, rfl⟩ := map_eq_ok h
    exact .number hnumeric
  · by_cases hsearch : p.operator = .regexp
    · rw [prepare_of_search hsearch] at h
      rw [hsearch]
      cases hcompile : engine.matcher? p.operand with
      | none => simp [hcompile] at h
      | some accepts =>
        rw [hcompile] at h
        cases h
        exact .pattern
    · rw [prepare_of_text hnumeric hsearch] at h
      cases h
      exact .text hnumeric hsearch

/-! ## Applying prepared predicates -/

/-- A predicate is at fault, or it is found out whether it holds. -/
def Decides (engine : Regex.Engine) (p : Predicate) (actual : String) : Except Error Bool → Prop
  | .error e => Fault engine p actual e
  | .ok b => (∀ e, ¬ Fault engine p actual e) ∧ (b = true ↔ Holds engine p actual)

theorem compares_iff_holds {o : Operator} {operand : String} {x y : Binary64}
    (hnumeric : o.Numeric) (hx : Number.literal actual.toList = .ok x)
    (hy : Number.literal operand.toList = .ok y) :
    compares o x y = true ↔ Holds engine ⟨o, operand⟩ actual := by
  have hordered : ∀ allowed, Ordered allowed actual operand ↔
      ∃ order, Binary64.compare? x y = some order ∧ order ∈ allowed := by
    simp [Ordered, hx, hy]
  cases hnumeric <;>
    simp only [Holds, hordered, compares] <;>
    rcases Binary64.compare? x y with _ | _ | _ | _ <;> simp

theorem decides_of_numeric (hnumeric : p.operator.Numeric) :
    p.Decides engine actual ((p.ready engine).satisfies actual) := by
  obtain ⟨o, operand⟩ := p
  have hready : prepare engine ⟨o, operand⟩ = _ := prepare_of_numeric hnumeric
  cases hy : Number.literal operand.toList with
  | error reason =>
    have hsatisfies : (ready ⟨o, operand⟩ engine).satisfies actual =
        .error (.notANumber .expected operand reason) := by
      simp [ready, Prepared.satisfies, hready, number, hy, Except.map]
    rw [hsatisfies]
    exact .operand hnumeric hy
  | ok y =>
    have hsatisfies : (ready ⟨o, operand⟩ engine).satisfies actual =
        (number .actual actual).map fun x => compares o x y := by
      have hprepared : prepare engine ⟨o, operand⟩ = .ok (.number y) := by
        rw [hready, number, hy]
        rfl
      cases hnumeric <;> simp [ready, Prepared.satisfies, hprepared]
    rw [hsatisfies, number]
    cases hx : Number.literal actual.toList with
    | error reason => exact .actual hnumeric hy hx
    | ok x =>
      refine ⟨?_, compares_iff_holds hnumeric hx hy⟩
      rintro e (⟨-, hbad⟩ | ⟨-, -, hbad⟩ | ⟨hbad, -⟩)
      · rw [hy] at hbad
        cases hbad
      · rw [hx] at hbad
        cases hbad
      · exact hnumeric.ne_regexp hbad

theorem decides_of_value {b : Bool} (hvalue : (p.ready engine).satisfies actual = .ok b)
    (hfault : ∀ e, ¬ Fault engine p actual e) (hholds : b = true ↔ Holds engine p actual) :
    p.Decides engine actual ((p.ready engine).satisfies actual) := by
  rw [hvalue]
  exact ⟨hfault, hholds⟩

theorem decides_of_search (hsearch : p.operator = .regexp) :
    p.Decides engine actual ((p.ready engine).satisfies actual) := by
  obtain ⟨o, operand⟩ := p
  obtain rfl : o = .regexp := hsearch
  have hready : prepare engine ⟨.regexp, operand⟩ = _ := prepare_of_search rfl
  cases hcompile : engine.matcher? operand with
  | none =>
    have hsatisfies : (ready ⟨.regexp, operand⟩ engine).satisfies actual =
        .error (.badPattern operand) := by
      simp [ready, Prepared.satisfies, hready, hcompile]
    rw [hsatisfies]
    exact .pattern rfl hcompile
  | some accepts =>
    refine decides_of_value (b := accepts actual) ?_ ?_ (by simp [Holds, hcompile])
    · simp [ready, Prepared.satisfies, hready, hcompile]
    · rintro e (⟨hnumeric, -⟩ | ⟨hnumeric, -, -⟩ | ⟨-, hbad⟩)
      · cases hnumeric
      · cases hnumeric
      · rw [hcompile] at hbad
        cases hbad

theorem decides_of_text (hnumeric : ¬ p.operator.Numeric) (hsearch : p.operator ≠ .regexp) :
    p.Decides engine actual ((p.ready engine).satisfies actual) := by
  have hfault : ∀ e, ¬ Fault engine p actual e := by
    rintro e (⟨hbad, -⟩ | ⟨hbad, -, -⟩ | ⟨hbad, -⟩)
    · exact hnumeric hbad
    · exact hnumeric hbad
    · exact hsearch hbad
  have hready : p.prepare engine = _ := prepare_of_text hnumeric hsearch
  obtain ⟨o, operand⟩ := p
  cases o with
  | noop =>
    refine decides_of_value (b := true) ?_ hfault (by simp [Holds])
    simp [ready, Prepared.satisfies, hready]
  | eq =>
    refine decides_of_value (b := operand == actual) ?_ hfault ?_
    · simp [ready, Prepared.satisfies, hready]
    · rw [beq_iff_eq]
      exact eq_comm
  | ne =>
    refine decides_of_value (b := operand != actual) ?_ hfault ?_
    · simp [ready, Prepared.satisfies, hready]
    · rw [bne_iff_ne]
      exact ne_comm
  | empty =>
    refine decides_of_value (b := actual.isEmpty) ?_ hfault String.isEmpty_iff
    simp [ready, Prepared.satisfies, hready]
  | notEmpty =>
    refine decides_of_value (b := !actual.isEmpty) ?_ hfault (by simp [Holds])
    simp [ready, Prepared.satisfies, hready]
  | ge => exact absurd .ge hnumeric
  | gt => exact absurd .gt hnumeric
  | le => exact absurd .le hnumeric
  | lt => exact absurd .lt hnumeric
  | regexp => exact absurd rfl hsearch

/-- **A predicate is at fault, or it is found out whether it holds.** -/
theorem decides (engine : Regex.Engine) (p : Predicate) (actual : String) :
    p.Decides engine actual ((p.ready engine).satisfies actual) := by
  by_cases hnumeric : p.operator.Numeric
  · exact decides_of_numeric hnumeric
  · by_cases hsearch : p.operator = .regexp
    · exact decides_of_search hsearch
    · exact decides_of_text hnumeric hsearch

/-! ## Outcomes -/

theorem evaluate_cases (engine : Regex.Engine) (p : Predicate) (actual : String) :
    (∃ e, Fault engine p actual e ∧ evaluate engine p actual = .error e) ∨
    ((∀ e, ¬ Fault engine p actual e) ∧
      (Holds engine p actual ∧ evaluate engine p actual = .ok () ∨
        ¬ Holds engine p actual ∧
          evaluate engine p actual = .error (.mismatch p.operator p.operand actual))) := by
  have hdecides := decides engine p actual
  rw [evaluate, Prepared.evaluate]
  cases hvalue : (p.ready engine).satisfies actual with
  | error e =>
    rw [hvalue] at hdecides
    exact .inl ⟨e, hdecides, rfl⟩
  | ok b =>
    rw [hvalue] at hdecides
    obtain ⟨hfault, hholds⟩ := hdecides
    cases b with
    | true => exact .inr ⟨hfault, .inl ⟨hholds.mp rfl, rfl⟩⟩
    | false => exact .inr ⟨hfault, .inr ⟨fun h => Bool.noConfusion (hholds.mpr h), rfl⟩⟩

theorem Fault.isMalformed (h : Fault engine p actual e) : e.isMalformed = true := by
  cases h <;> rfl

/-- A predicate is at fault in one way. -/
theorem Fault.unique {e' : Error} (h : Fault engine p actual e) (h' : Fault engine p actual e') :
    e = e' := by
  have hclash : p.operator.Numeric → p.operator ≠ .regexp := fun hnumeric => hnumeric.ne_regexp
  cases h <;> cases h' <;> simp_all

theorem evaluate_malformed_iff :
    evaluate engine p actual = .error e ∧ e.isMalformed = true ↔ Fault engine p actual e := by
  rcases evaluate_cases engine p actual with ⟨e', hfault, he⟩ | ⟨hnone, ⟨-, he⟩ | ⟨-, he⟩⟩
  · rw [he]
    constructor
    · rintro ⟨heq, -⟩
      cases heq
      exact hfault
    · intro h
      rw [hfault.unique h]
      exact ⟨rfl, h.isMalformed⟩
  · rw [he]
    exact iff_of_false (by simp) (hnone e)
  · rw [he]
    refine iff_of_false ?_ (hnone e)
    rintro ⟨heq, hmalformed⟩
    cases heq
    cases hmalformed

/-- An error that the operand alone is to blame for. -/
def Error.isOfOperand : Error → Bool
  | .notANumber .expected _ _ => true
  | .badPattern _ => true
  | _ => false

/-- Such an error does not depend on the actual text. -/
theorem Fault.of_isOfOperand (h : Fault engine p actual e) (he : e.isOfOperand = true)
    (actual' : String) :
    Fault engine p actual' e := by
  cases h with
  | operand hnumeric hoperand => exact .operand hnumeric hoperand
  | actual => cases he
  | pattern hsearch hpattern => exact .pattern hsearch hpattern

/-- Which numeric operator is asked for makes no difference to a fault. -/
theorem Fault.of_numeric {p' : Predicate} (h : Fault engine p actual e)
    (hnumeric : p.operator.Numeric) (hnumeric' : p'.operator.Numeric)
    (hoperand : p.operand = p'.operand) : Fault engine p' actual e := by
  cases h with
  | operand _ hbad =>
    rw [hoperand] at hbad ⊢
    exact .operand hnumeric' hbad
  | actual _ hnumber hbad =>
    rw [hoperand] at hnumber
    exact .actual hnumeric' hnumber hbad
  | pattern hsearch => exact absurd hsearch hnumeric.ne_regexp

/-- **A predicate that cannot be applied is told from one that fails.** The error is malformed
exactly if the predicate is at fault. In every other case the predicate succeeds if the text is what
its operator asks for, and fails with its operator, its operand and the text if it is not. An error
that the operand is to blame for is the same for every text, all numeric operators agree on what
cannot be compared, and no operator ever meets an operand that was not made ready for it. -/
theorem check_classified (engine : Regex.Engine) :
    (∀ text actual e, check engine text actual = .error e ∧ e.isMalformed = true ↔
      Fault engine (parse text) actual e) ∧
    (∀ text actual, (∀ e, ¬ Fault engine (parse text) actual e) →
      (check engine text actual = .ok () ↔ Holds engine (parse text) actual) ∧
      (check engine text actual =
          .error (.mismatch (parse text).operator (parse text).operand actual) ↔
        ¬ Holds engine (parse text) actual)) ∧
    (∀ text actual e, check engine text actual = .error e → e.isOfOperand = true →
      ∀ actual', check engine text actual' = .error e) ∧
    (∀ text text' actual e, (parse text).operator.Numeric →
      (parse text').operator.Numeric → (parse text).operand = (parse text').operand →
      e.isMalformed = true →
      (check engine text actual = .error e ↔ check engine text' actual = .error e)) ∧
    (∀ text operand, (parse text).prepare engine = .ok operand →
      operand.Suits (parse text).operator) := by
  have hiff : ∀ text actual e, check engine text actual = .error e ∧ e.isMalformed = true ↔
      Fault engine (parse text) actual e := fun _ _ _ => evaluate_malformed_iff
  refine ⟨hiff, fun text actual hnone => ?_, fun text actual e he hoperand actual' => ?_,
    fun text text' actual e hnumeric hnumeric' hoperand hmalformed => ?_,
    fun text operand h => suits_of_prepare h⟩
  · rcases evaluate_cases engine (parse text) actual with
      ⟨e, hfault, -⟩ | ⟨-, ⟨hholds, he⟩ | ⟨hno, he⟩⟩
    · exact absurd hfault (hnone e)
    · simp [check, he, hholds]
    · simp [check, he, hno]
  · have hmalformed : e.isMalformed = true := by
      cases e <;> first | rfl | cases hoperand
    have hfault := (hiff text actual e).mp ⟨he, hmalformed⟩
    exact ((hiff text actual' e).mpr (hfault.of_isOfOperand hoperand actual')).1
  · have hsame : Fault engine (parse text) actual e ↔ Fault engine (parse text') actual e :=
      ⟨fun h => h.of_numeric hnumeric hnumeric' hoperand,
        fun h => h.of_numeric hnumeric' hnumeric hoperand.symm⟩
    rw [← hiff, ← hiff, and_iff_left hmalformed, and_iff_left hmalformed] at hsame
    exact hsame

/-- A limit that is missed, one that is no number, one that two operators cannot compare with the
same text, and a pattern. -/
theorem check_classified_limits :
    ((∀ e, ¬ Fault .standard (parse "ge 10") "9.5" e) ∧
      (check .standard "ge 10" "9.5" =
          .error (.mismatch (parse "ge 10").operator (parse "ge 10").operand "9.5") ↔
        ¬ Holds .standard (parse "ge 10") "9.5")) ∧
    (check .standard "gt ten" "1" = .error (.notANumber .expected "ten" .malformed) ∧
      ∀ actual, check .standard "gt ten" actual = .error (.notANumber .expected "ten" .malformed)) ∧
    ((parse "gt 10").operator.Numeric ∧ (parse "le 10").operator.Numeric ∧
      (parse "gt 10").operand = (parse "le 10").operand ∧
      (check .standard "gt 10" "abc" = .error (.notANumber .actual "abc" .malformed) ↔
        check .standard "le 10" "abc" = .error (.notANumber .actual "abc" .malformed))) ∧
    ∃ operand, (parse "regexp a+").prepare .standard = .ok operand ∧
      operand.Suits (parse "regexp a+").operator := by
  obtain ⟨-, hclear, hoperand, hnumeric, hsuits⟩ := check_classified .standard
  have hge : parse "ge 10" = ⟨.ge, "10"⟩ := by decide +kernel
  have hnone : ∀ e, ¬ Fault .standard (parse "ge 10") "9.5" e := by
    rw [hge]
    rintro e (⟨-, hbad⟩ | ⟨-, -, hbad⟩ | ⟨hbad, -⟩)
    · cases hbad
    · cases hbad
    · cases hbad
  have hten : check .standard "gt ten" "1" = .error (.notANumber .expected "ten" .malformed) := by
    decide +kernel
  have hgt : parse "gt 10" = ⟨.gt, "10"⟩ := by decide +kernel
  have hle : parse "le 10" = ⟨.le, "10"⟩ := by decide +kernel
  have hgtNumeric : (parse "gt 10").operator.Numeric := hgt ▸ .gt
  have hleNumeric : (parse "le 10").operator.Numeric := hle ▸ .le
  have hsame : (parse "gt 10").operand = (parse "le 10").operand := by rw [hgt, hle]
  obtain ⟨operand, hready⟩ : ∃ operand, (parse "regexp a+").prepare .standard = .ok operand := by
    have hparse : parse "regexp a+" = ⟨.regexp, "a+"⟩ := by decide +kernel
    rw [hparse, prepare_of_search rfl]
    exact ⟨_, rfl⟩
  exact ⟨⟨hnone, (hclear _ _ hnone).2⟩, ⟨hten, hoperand _ _ _ hten rfl⟩,
    ⟨hgtNumeric, hleNumeric, hsame, hnumeric _ _ "abc" _ hgtNumeric hleNumeric hsame rfl⟩,
    operand, hready, hsuits _ _ hready⟩

end Assay.Predicate
