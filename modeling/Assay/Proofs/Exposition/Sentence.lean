import Assay.Proofs.Dictionary
import Assay.Proofs.Exposition.Holds
import Assay.Proofs.Fallible

/-!
# What the lines of a text say

Most of what a line of exposition text says is settled by the line alone: a help text, a kind, or
that it gives a value. Only whose value it is depends on the kinds that were declared in front of
it. So a text can be told without any scrape: the help texts and kinds in it, and its value lines.
-/

namespace Assay

open Assay.Metric

namespace Exposition

/-! ## Sentences -/

/-- What a line says, whatever stands in front of it. -/
inductive Sentence where
  | nothing
  | help (name text : String)
  | declaration (name : String) (kind : Kind)
  | value (cs : List Char)

/-- What a comment says. -/
def commentSentence (cs : List Char) : Except LineError Sentence :=
  let (keyword, rest) := Scrape.nextWord cs
  let (name, rest) := Scrape.nextWord rest
  let rest := Text.trim rest
  if String.ofList keyword = "HELP" then do
    checkName name
    return .help (String.ofList name) (String.ofList (unescapeHelp rest))
  else if String.ofList keyword = "TYPE" then do
    checkName name
    match Kind.ofName (String.ofList rest) with
    | .error n => throw (.unknownType n)
    | .ok kind => return .declaration (String.ofList name) kind
  else .ok .nothing

/-- What a line says. -/
def sentence (cs : List Char) : Except LineError Sentence :=
  let text := Text.trim cs
  if text = [] then .ok .nothing
  else if text.head? = some '#' then commentSentence (Text.trimStart text.tail)
  else .ok (.value text)

/-- What a scrape makes of a sentence. -/
def Scrape.take (s : Scrape) : Sentence → Except LineError Scrape
  | .nothing => .ok s
  | .help name text => .ok { s with help := s.help.insert name text }
  | .declaration name kind =>
    if s.positions.contains name then .error (.typeAfterSamples name)
    else if s.types.contains name then .error (.secondType name)
    else .ok { s with types := s.types.insert name kind }
  | .value cs => do s.record (← s.parseLine cs)

theorem comment_eq (s : Scrape) (cs : List Char) :
    s.comment cs = (commentSentence cs).bind s.take := by
  unfold Scrape.comment commentSentence
  dsimp only
  split
  · rename_i hkeyword
    rw [if_pos hkeyword]
    cases checkName (Scrape.nextWord (Scrape.nextWord cs).2).1 <;> rfl
  · rename_i hkeyword
    rw [hkeyword, if_neg (by decide), if_pos rfl]
    cases checkName (Scrape.nextWord (Scrape.nextWord cs).2).1 with
    | error e => rfl
    | ok _ =>
      simp only [bind, Except.bind, Scrape.declareType]
      cases Kind.ofName (String.ofList (Text.trim (Scrape.nextWord (Scrape.nextWord cs).2).2)) <;> rfl
  · rename_i hhelp htype
    rw [if_neg hhelp, if_neg htype]
    rfl

/-- **A line is read as a sentence**, and what the sentence does is all that it does. -/
theorem line_eq (s : Scrape) (cs : List Char) : s.line cs = (sentence cs).bind s.take := by
  unfold Scrape.line sentence
  dsimp only
  split
  · rename_i htrim
    rw [if_pos htrim]
    rfl
  · rename_i rest htrim
    rw [htrim, if_neg (by simp), List.head?_cons, if_pos rfl]
    exact comment_eq s _
  · rename_i hempty hcomment
    have hhead : (Text.trim cs).head? ≠ some '#' := by
      intro hhead
      obtain ⟨rest, hrest⟩ := List.head?_eq_some_iff.mp hhead
      exact hcomment rest hrest
    rw [if_neg hempty, if_neg hhead]
    rfl

/-! ## A whole text -/

/-- The kind that a line declares, with the name that it declares it for. -/
def declaration? (cs : List Char) : Option (String × Kind) :=
  match sentence cs with
  | .ok (.declaration name kind) => some (name, kind)
  | _ => none

/-- The help text that a line gives, with the name that it gives it for. -/
def help? (cs : List Char) : Option (String × String) :=
  match sentence cs with
  | .ok (.help name text) => some (name, text)
  | _ => none

/-- The lines of a text that give values, each of them read with the kinds that are declared in
front of it. -/
def valueLines (types : Dictionary Kind) : List (List Char) → Except LineError (List Line)
  | [] => .ok []
  | cs :: css => do
    match ← sentence cs with
    | .declaration name kind => valueLines (types.insert name kind) css
    | .value text => return (← Scrape.parseLine { types } text) :: (← valueLines types css)
    | _ => valueLines types css

theorem readLines_append (s : Scrape) (number : Nat) (front back : List (List Char)) :
    s.readLines number (front ++ back) =
      (s.readLines number front).bind fun t => t.readLines (number + front.length) back := by
  induction front generalizing s number with
  | nil => rfl
  | cons cs front ih =>
    rw [List.cons_append, Scrape.readLines, Scrape.readLines]
    cases s.line cs with
    | error e => rfl
    | ok t =>
      rw [List.length_cons, ← Nat.add_assoc, Nat.add_right_comm]
      exact ih t (number + 1)

/-! ## Whose a line is -/

theorem parseLine_types (s : Scrape) (cs : List Char) :
    s.parseLine cs = Scrape.parseLine { types := s.types } cs := rfl

variable {s : Scrape}

/-- Only folded families have series of other names than their own, and only histograms have
buckets. -/
theorem isFolded_of_suffixes : ∀ e ∈ Scrape.suffixes, ∀ kind ∈ e.2,
    isFolded kind = true ∧ (e.1 = "_bucket" → kind = .histogram) := by
  decide

theorem isFolded_of_suffixed? {name : List Char} {base ending : String}
    (h : s.suffixed? name = some (base, ending)) :
    isFolded (s.kindOf base) = true ∧ (ending = "_bucket" → s.kindOf base = .histogram) := by
  obtain ⟨e, he, rfl, -, kind, hkind, hdeclared⟩ := suffixed?_eq_some_iff.mp h
  have hkindOf : s.kindOf base = kind := by
    rw [Scrape.kindOf, hdeclared]
    rfl
  rw [hkindOf]
  exact isFolded_of_suffixes e he kind hkind

theorem isFolded_kindOf_eq_false {name : String} (hsummary : s.declared? name ≠ some .summary)
    (hhistogram : s.declared? name ≠ some .histogram) : isFolded (s.kindOf name) = false := by
  unfold Scrape.kindOf
  cases hdeclared : s.declared? name with
  | none => rfl
  | some kind =>
    cases kind with
    | summary => exact absurd hdeclared hsummary
    | histogram => exact absurd hdeclared hhistogram
    | counter | gauge | untyped => rfl

/-- A line gives a part that its family has. -/
theorem belongs_of_resolve {name : List Char} {labels rest : Labels} {family : String} {part : Part}
    (h : s.resolve name labels = .ok (family, part, rest)) :
    belongs (s.kindOf family) part = true := by
  unfold Scrape.resolve at h
  dsimp only at h
  split at h
  · rename_i hkind
    split at h
    · cases h
      simp [Scrape.kindOf, hkind, belongs]
    · cases h
  · cases h
  · rename_i hsummary hhistogram
    split at h
    · cases h
      simp [belongs, isFolded_kindOf_eq_false hsummary hhistogram]
    · rename_i hseries
      split at h
      · cases h
        simp [belongs, (isFolded_of_suffixed? hseries).2 rfl]
      · cases h
    · rename_i hseries
      cases h
      exact (isFolded_of_suffixed? hseries).1
    · rename_i hseries
      cases h
      exact (isFolded_of_suffixed? hseries).1

theorem isMetricName_of_checkName {name : List Char} (h : checkName name = .ok ()) :
    isMetricName name = true := by
  unfold checkName at h
  split at h
  · assumption
  · cases h

/-- The name of the series that a value line begins with. -/
def seriesIn (cs : List Char) : List Char :=
  cs.takeWhile fun c => !(c = '\x7b' || Text.isBlank c)

/-- **What a line is read from**: the name of a series, a value and a timestamp, and what the name
and the labels come to. -/
theorem exists_series_of_parseLine {cs : List Char} {l : Line} (h : s.parseLine cs = .ok l) :
    isMetricName (seriesIn cs) = true ∧ ∃ labels rest,
      Scrape.valueAndTime (String.ofList (seriesIn cs)) rest = .ok (l.value, l.timestamp) ∧
      s.resolve (seriesIn cs) labels = .ok (l.family, l.part, l.labels) := by
  unfold Scrape.parseLine at h
  dsimp only at h
  split at h
  · cases h
  · obtain ⟨_, hname, h⟩ := bind_eq_ok h
    -- with labels in braces or without
    split at h
    all_goals
      obtain ⟨⟨labels, rest⟩, -, h⟩ := bind_eq_ok h
      obtain ⟨⟨value, timestamp⟩, hvalue, h⟩ := bind_eq_ok h
      obtain ⟨⟨family, part, remaining⟩, hresolve, h⟩ := bind_eq_ok h
      cases h
      exact ⟨isMetricName_of_checkName hname, labels, rest, hvalue, hresolve⟩

theorem belongs_of_parseLine {cs : List Char} {l : Line} (h : s.parseLine cs = .ok l) :
    belongs (s.kindOf l.family) l.part = true := by
  obtain ⟨-, labels, rest, -, hresolve⟩ := exists_series_of_parseLine h
  exact belongs_of_resolve hresolve

end Exposition

end Assay
