import Assay.Text.Cut

/-!
# Environment variables

A text may refer to variables as `$NAME` or as a name in braces behind a dollar sign. Expansion
reads the text once from left to right: values are not read again, a variable that is not set
stands for nothing, and a dollar sign that begins no reference stands for itself.
-/

namespace Assay

/-- The variables that are set, with their values. -/
abbrev Environment := String → Option String

namespace Environment

/-- The value of a variable, nothing if it is not set. -/
def value (env : Environment) (name : List Char) : List Char :=
  ((env (String.ofList name)).getD "").toList

/-- A character of a name without braces. -/
def isNameChar (c : Char) : Bool :=
  c = '_' || c.isAlphanum

/-- The name at the front of a text, which starts with no digit. -/
def frontName (cs : List Char) : List Char :=
  if (cs.head?.map Char.isDigit).getD false then [] else cs.takeWhile isNameChar

theorem length_lt_of_cut {p : Char → Bool} {cs front back : List Char}
    (h : Text.cut p cs = some (front, back)) : back.length < cs.length := by
  obtain ⟨c, _, rfl⟩ := Text.cut_eq_append h
  simp only [List.length_append, List.length_cons]
  omega

/-- The value of a name in braces at the front of a text, if one is closed, and what follows. -/
def braced? (env : Environment) : List Char → Option (List Char × List Char)
  | '\x7b' :: inside => (Text.cut (· = '\x7d') inside).map fun (name, rest) => (env.value name, rest)
  | _ => none

/-- The value of a name at the front of a text, the dollar sign itself if there is none, and what
follows. -/
def bare (env : Environment) (cs : List Char) : List Char × List Char :=
  if (frontName cs).isEmpty then (['$'], cs)
  else (env.value (frontName cs), cs.drop (frontName cs).length)

/-- What a dollar sign stands for, given the text behind it, and what follows. -/
def reference (env : Environment) (cs : List Char) : List Char × List Char :=
  (env.braced? cs).getD (env.bare cs)

theorem length_reference_le (env : Environment) (cs : List Char) :
    (env.reference cs).2.length ≤ cs.length := by
  unfold reference braced? bare
  split
  · rename_i inside
    cases h : Text.cut (· = '\x7d') inside with
    | none =>
      simp only [Option.map_none, Option.getD_none]
      split <;> simp
    | some r =>
      have := @length_lt_of_cut _ _ r.1 r.2 h
      simp only [Option.map_some, Option.getD_some, List.length_cons]
      omega
  · simp only [Option.getD_none]
    split <;> simp

/-- Replaces every reference by the value of its variable. -/
def expand (env : Environment) : List Char → List Char
  | [] => []
  | c :: cs =>
    if c = '$' then (env.reference cs).1 ++ expand env (env.reference cs).2
    else c :: expand env cs
  termination_by cs => cs.length
  decreasing_by
    · have := length_reference_le env cs
      simp only [List.length_cons]
      omega
    · simp

/-- Without a dollar sign there is nothing to replace. -/
theorem expand_of_notMem (env : Environment) {cs : List Char} (h : '$' ∉ cs) :
    env.expand cs = cs := by
  induction cs with
  | nil => rw [expand]
  | cons c cs ih =>
    rw [List.mem_cons, not_or] at h
    rw [expand, if_neg (Ne.symm h.1), ih h.2]

/-- Replaces every reference in a text by the value of its variable. -/
def expandText (env : Environment) (s : String) : String :=
  String.ofList (env.expand s.toList)

theorem expandText_of_notMem (env : Environment) {s : String} (h : '$' ∉ s.toList) :
    env.expandText s = s := by
  rw [expandText, expand_of_notMem env h, String.ofList_toList]

end Environment

end Assay
