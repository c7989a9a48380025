/-!
# Cutting text at a character

`cut` takes a text apart at the first place where a character of a class stands; `split` cuts at
every place where a character stands. Nothing but the separators is lost.
-/

namespace Assay.Text

/-- The parts before and after the first character that satisfies `p`, if there is one. -/
def cut (p : Char → Bool) : List Char → Option (List Char × List Char)
  | [] => none
  | c :: cs => if p c then some ([], cs) else (cut p cs).map fun (front, back) => (c :: front, back)

/-- The rest of `cs` behind the text `front`, if `cs` starts with it. -/
def dropPrefix? : (front cs : List Char) → Option (List Char)
  | [], cs => some cs
  | _ :: _, [] => none
  | f :: front, c :: cs => if f = c then dropPrefix? front cs else none

/-- The text without its ending `back`, if `cs` ends with it. -/
def dropSuffix? (back cs : List Char) : Option (List Char) :=
  (dropPrefix? back.reverse cs.reverse).map List.reverse

/-- The parts between the places where a character stands. There is always at least one, possibly
empty. -/
def split (separator : Char) : List Char → List (List Char)
  | [] => [[]]
  | c :: cs =>
    if c = separator then [] :: split separator cs
    else
      match split separator cs with
      | [] => [[c]]
      | part :: parts => (c :: part) :: parts

/-- The lines of a text, without their line feeds. -/
def lines (cs : List Char) : List (List Char) :=
  split '\n' cs

/-- ASCII letters in lower case, every other character as it is. -/
def lowered (s : String) : String :=
  String.ofList (s.toList.map Char.toLower)

/-- Equality of two texts when the case of ASCII letters does not count. -/
def sameLetters (s t : String) : Bool :=
  lowered s == lowered t

theorem cut_eq_append {p : Char → Bool} {cs front back : List Char}
    (h : cut p cs = some (front, back)) : ∃ c, p c = true ∧ cs = front ++ c :: back := by
  induction cs generalizing front back with
  | nil => simp [cut] at h
  | cons a cs ih =>
    by_cases ha : p a
    · simp [cut, ha] at h
      exact ⟨a, ha, by simp [h]⟩
    · simp [cut, ha] at h
      obtain ⟨f, hc, hf⟩ := h
      obtain ⟨c, hp, he⟩ := ih hc
      exact ⟨c, hp, by simp [← hf, he]⟩

end Assay.Text
