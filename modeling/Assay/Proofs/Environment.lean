import Assay.Environment
import Assay.Proofs.Text

/-!
# How references are read

A text is read once, from left to right, as a sequence of pieces: characters that stand for
themselves and references to variables. `Front` says what the front of a text is read as. Every text
has just one reading, which does not depend on what the variables hold, and the expansion puts the
values in the place of the references.
-/

namespace Assay.Environment

/-- A piece of a text. -/
inductive Piece where
  /-- A character that stands for itself. -/
  | char (c : Char)
  /-- A reference to the variable of a name. -/
  | reference (name : List Char)
  deriving DecidableEq, Repr

/-- What a piece stands for. -/
def Piece.text (env : Environment) : Piece → List Char
  | .char c => [c]
  | .reference name => env.value name

/-- A name without braces: ASCII letters, digits and underscores, the first of them no digit. -/
structure IsBareName (name : List Char) : Prop where
  ne_nil : name ≠ []
  chars : ∀ c ∈ name, isNameChar c = true
  first : ∀ c ∈ name.head?, c.isDigit = false

/-- A dollar sign in front of this text starts a reference: a brace that is closed follows, or the
first character of a name. -/
def StartsReference : List Char → Prop
  | [] => False
  | c :: cs => c = '\x7b' ∧ '\x7d' ∈ cs ∨ c.isAlpha = true ∨ c = '_'

/-- What stands at the front of a text, and the text behind it. -/
inductive Front : List Char → Piece → List Char → Prop where
  | copied {c : Char} {cs : List Char} (h : c ≠ '$') : Front (c :: cs) (.char c) cs
  /-- The name in braces goes up to the first closing brace. -/
  | braced {name rest : List Char} (h : '\x7d' ∉ name) :
    Front ('$' :: '\x7b' :: (name ++ '\x7d' :: rest)) (.reference name) rest
  /-- The name without braces is as long as it can be. -/
  | bare {name rest : List Char} (hname : IsBareName name)
    (hend : ∀ c ∈ rest.head?, isNameChar c = false) :
    Front ('$' :: (name ++ rest)) (.reference name) rest
  | lone {cs : List Char} (h : ¬ StartsReference cs) : Front ('$' :: cs) (.char '$') cs

/-- The pieces that a text is read as, from left to right. -/
inductive Reading : List Char → List Piece → Prop where
  | nil : Reading [] []
  | cons {cs rest : List Char} {p : Piece} {ps : List Piece} (hfront : Front cs p rest)
    (h : Reading rest ps) : Reading cs (p :: ps)

variable {cs rest name : List Char} {p : Piece} {ps : List Piece} {env : Environment}

/-! ## Names -/

theorem isDigit_eq_false_of_isAlpha {c : Char} (h : c.isAlpha = true) : c.isDigit = false := by
  have hcodes : 'A'.val.toNat = 65 ∧ 'Z'.val.toNat = 90 ∧ 'a'.val.toNat = 97 ∧
      'z'.val.toNat = 122 ∧ '0'.val.toNat = 48 ∧ '9'.val.toNat = 57 := by decide
  delta Char.isAlpha Char.isUpper Char.isLower at h
  delta Char.isDigit
  simp only [Bool.or_eq_true, Bool.and_eq_true, decide_eq_true_eq, ge_iff_le,
    UInt32.le_iff_toNat_le, hcodes, Bool.and_eq_false_iff, decide_eq_false_iff_not] at h ⊢
  omega

/-- The characters that a name may start with are those of a name but for the digits. -/
theorem isAlpha_or_underscore_iff (c : Char) :
    (c.isAlpha = true ∨ c = '_') ↔ isNameChar c = true ∧ c.isDigit = false := by
  rw [isNameChar, Char.isAlphanum]
  constructor
  · rintro (halpha | rfl)
    · simp [halpha, isDigit_eq_false_of_isAlpha halpha]
    · decide
  · rintro ⟨hname, hdigit⟩
    simpa [hdigit, or_comm] using hname

theorem ne_brace_of_isNameChar {c : Char} (h : isNameChar c = true) : c ≠ '\x7b' := by
  rintro rfl
  exact absurd h (by decide)

theorem IsBareName.exists_cons (h : IsBareName name) :
    ∃ c cs, name = c :: cs ∧ isNameChar c = true ∧ c.isDigit = false := by
  cases name with
  | nil => exact absurd rfl h.ne_nil
  | cons c cs => exact ⟨c, cs, rfl, h.chars c List.mem_cons_self, h.first c rfl⟩

/-- The name at the front of a text is the longest one. -/
theorem frontName_append (h : IsBareName name) (hend : ∀ c ∈ rest.head?, isNameChar c = false) :
    frontName (name ++ rest) = name := by
  obtain ⟨c, cs, rfl, -, hdigit⟩ := h.exists_cons
  have hrest : rest.takeWhile isNameChar = [] := by
    cases rest with
    | nil => rfl
    | cons d rest => rw [List.takeWhile_cons, hend d rfl]; rfl
  rw [frontName, if_neg (by simpa using hdigit), List.takeWhile_append_of_pos h.chars, hrest,
    List.append_nil]

/-! ## The front of a text -/

theorem reference_braced (h : '\x7d' ∉ name) (rest : List Char) :
    env.reference ('\x7b' :: (name ++ '\x7d' :: rest)) = (env.value name, rest) := by
  have hcut : Text.cut (· = '\x7d') (name ++ '\x7d' :: rest) = some (name, rest) := by
    refine Text.cut_append (fun c hc => ?_) (by simp) rest
    rw [decide_eq_false_iff_not]
    rintro rfl
    exact h hc
  rw [reference, braced?, hcut]
  rfl

theorem braced?_eq_none (h : ∀ inside, cs = '\x7b' :: inside → '\x7d' ∉ inside) :
    env.braced? cs = none := by
  unfold braced?
  split
  · rename_i inside
    have hnone : Text.cut (· = '\x7d') inside = none := by
      refine Text.cut_eq_none fun c hc => ?_
      rw [decide_eq_false_iff_not]
      rintro rfl
      exact h inside rfl hc
    rw [hnone]
    rfl
  · rfl

theorem reference_bare (h : IsBareName name) (hend : ∀ c ∈ rest.head?, isNameChar c = false) :
    env.reference (name ++ rest) = (env.value name, rest) := by
  have hbraced : env.braced? (name ++ rest) = none := by
    obtain ⟨c, cs, rfl, hname, -⟩ := h.exists_cons
    refine braced?_eq_none fun inside heq => ?_
    exact absurd (List.cons.inj heq).1 (ne_brace_of_isNameChar hname)
  rw [reference, hbraced, Option.getD_none, bare, frontName_append h hend,
    if_neg (by simpa using h.ne_nil), List.drop_left]

theorem reference_lone (h : ¬ StartsReference cs) : env.reference cs = (['$'], cs) := by
  have hbraced : env.braced? cs = none := by
    refine braced?_eq_none fun inside heq hmem => h ?_
    rw [heq]
    exact .inl ⟨rfl, hmem⟩
  have hname : frontName cs = [] := by
    cases cs with
    | nil => rfl
    | cons c cs =>
      have hfirst : ¬ (isNameChar c = true ∧ c.isDigit = false) := by
        rw [← isAlpha_or_underscore_iff]
        exact fun hstart => h (.inr hstart)
      rw [frontName, List.head?_cons]
      split
      · rfl
      · rename_i hdigit
        rw [List.takeWhile_cons_of_neg]
        intro hchar
        exact hfirst ⟨hchar, by simpa using hdigit⟩
  rw [reference, hbraced, Option.getD_none, bare, hname]
  rfl

/-- A dollar sign stands for what the piece that it is read as stands for. -/
theorem Front.reference_eq (h : Front ('$' :: cs) p rest) (env : Environment) :
    env.reference cs = (p.text env, rest) := by
  cases h with
  | copied hc => exact absurd rfl hc
  | braced hname => exact reference_braced hname rest
  | bare hname hend => exact reference_bare hname hend
  | lone hno => exact reference_lone hno

/-- **One piece at the front** comes to its text in the expansion, and the rest is expanded by
itself. -/
theorem Front.expand (h : Front cs p rest) (env : Environment) :
    env.expand cs = p.text env ++ env.expand rest := by
  cases cs with
  | nil => cases h
  | cons c cs =>
    by_cases hdollar : c = '$'
    · subst hdollar
      rw [Environment.expand, if_pos rfl, h.reference_eq env]
    · cases h with
      | copied =>
        rw [Environment.expand, if_neg hdollar]
        rfl
      | braced | bare | lone => exact absurd rfl hdollar

theorem Front.length_lt (h : Front cs p rest) : rest.length < cs.length := by
  cases h with
  | copied | lone => simp
  | braced | bare => simp only [List.length_cons, List.length_append]; omega

/-- A name without braces is at the front of what starts with the first character of one. -/
theorem exists_bareName {c : Char} (h : isNameChar c = true ∧ c.isDigit = false)
    (cs : List Char) :
    ∃ name rest, c :: cs = name ++ rest ∧ IsBareName name ∧
      ∀ d ∈ rest.head?, isNameChar d = false := by
  obtain ⟨name, rest, hsplit, hname, hend⟩ := Text.exists_span isNameChar (c :: cs)
  cases name with
  | nil =>
    rw [List.nil_append] at hsplit
    have hstop := hend c (by simp [← hsplit])
    rw [h.1] at hstop
    cases hstop
  | cons d name =>
    obtain ⟨rfl, rfl⟩ := List.cons.inj hsplit
    exact ⟨c :: name, rest, rfl, ⟨List.cons_ne_nil _ _, hname, by simpa using h.2⟩, hend⟩

/-- Every text that is not empty has a front. -/
theorem exists_front (h : cs ≠ []) : ∃ p rest, Front cs p rest := by
  cases cs with
  | nil => exact absurd rfl h
  | cons c cs =>
    by_cases hdollar : c = '$'
    · subst hdollar
      by_cases hstarts : StartsReference cs
      · cases cs with
        | nil => exact hstarts.elim
        | cons c cs =>
          rcases hstarts with ⟨rfl, hclosed⟩ | hfirst
          · obtain ⟨name, rest, rfl, hname⟩ := List.eq_append_cons_of_mem hclosed
            exact ⟨_, _, .braced hname⟩
          · obtain ⟨name, rest, heq, hname, hend⟩ :=
              exists_bareName ((isAlpha_or_underscore_iff c).mp hfirst) cs
            rw [heq]
            exact ⟨_, _, .bare hname hend⟩
      · exact ⟨_, _, .lone hstarts⟩
    · exact ⟨_, _, .copied hdollar⟩

/-- Pieces that stand for the same whatever the variables hold are the same. -/
theorem Piece.eq_of_text {p p' : Piece} (h : ∀ env, p.text env = p'.text env) : p = p' := by
  -- no variable is set, so a reference stands for nothing
  have hunset := h fun _ => none
  cases p with
  | char c =>
    cases p' with
    | char c' => rw [List.singleton_inj.mp hunset]
    | reference name => simp [Piece.text, value] at hunset
  | reference name =>
    cases p' with
    | char c => simp [Piece.text, value] at hunset
    | reference name' =>
      -- only the variable of the first name is set
      have hset := h fun n => if n = String.ofList name then some "x" else none
      by_cases hname : String.ofList name' = String.ofList name
      · rw [String.ofList_injective hname]
      · simp [Piece.text, value, hname] at hset

/-- There is just one thing to read at the front of a text. -/
theorem Front.unique {p' : Piece} {rest' : List Char} (h : Front cs p rest)
    (h' : Front cs p' rest') : p = p' ∧ rest = rest' := by
  cases cs with
  | nil => cases h
  | cons c cs =>
    by_cases hdollar : c = '$'
    · subst hdollar
      have hsame : ∀ env : Environment, (p.text env, rest) = (p'.text env, rest') := fun env =>
        (h.reference_eq env).symm.trans (h'.reference_eq env)
      exact ⟨Piece.eq_of_text fun env => (Prod.mk.inj (hsame env)).1,
        (Prod.mk.inj (hsame fun _ => none)).2⟩
    · cases h with
      | copied =>
        cases h' with
        | copied => exact ⟨rfl, rfl⟩
        | braced | bare | lone => exact absurd rfl hdollar
      | braced | bare | lone => exact absurd rfl hdollar

/-! ## A whole text -/

/-- Every text can be read. -/
theorem exists_reading (cs : List Char) : ∃ ps, Reading cs ps := by
  by_cases hnil : cs = []
  · subst hnil
    exact ⟨[], .nil⟩
  · obtain ⟨p, rest, hfront⟩ := exists_front hnil
    obtain ⟨ps, hrest⟩ := exists_reading rest
    exact ⟨p :: ps, .cons hfront hrest⟩
  termination_by cs.length
  decreasing_by exact hfront.length_lt

/-- A text is read in one way only. -/
theorem Reading.unique {ps' : List Piece} (h : Reading cs ps) (h' : Reading cs ps') : ps = ps' := by
  induction h generalizing ps' with
  | nil =>
    cases h' with
    | nil => rfl
    | cons hfront => cases hfront
  | cons hfront _ ih =>
    cases h' with
    | nil => cases hfront
    | cons hfront' hrest' =>
      obtain ⟨rfl, rfl⟩ := hfront.unique hfront'
      rw [ih hrest']

/-- The expansion puts together what the pieces stand for. -/
theorem Reading.expand (h : Reading cs ps) (env : Environment) :
    env.expand cs = ps.flatMap (Piece.text env) := by
  induction h with
  | nil => rw [Environment.expand, List.flatMap_nil]
  | cons hfront _ ih => rw [hfront.expand env, ih, List.flatMap_cons]

/-- Without a reference every character stands for itself. -/
theorem reading_of_lone (h : ∀ front back, cs = front ++ '$' :: back → ¬ StartsReference back) :
    Reading cs (cs.map .char) := by
  induction cs with
  | nil => exact .nil
  | cons c cs ih =>
    have hrest := ih fun front back heq => h (c :: front) back (by rw [heq, List.cons_append])
    by_cases hdollar : c = '$'
    · subst hdollar
      exact .cons (.lone (h [] cs rfl)) hrest
    · exact .cons (.copied hdollar) hrest

/-- **How a text is expanded.** It is read in just one way, without regard to what the variables
hold; each reference is then replaced by what its variable holds, which is not read again. A text in
which no dollar sign starts a reference stays as it is. -/
theorem expandText_reads (s : String) :
    (∃! ps, Reading s.toList ps) ∧
      (∀ ps, Reading s.toList ps → ∀ env : Environment,
        env.expandText s = String.ofList (ps.flatMap (Piece.text env))) ∧
      ((∀ front back, s.toList = front ++ '$' :: back → ¬ StartsReference back) →
        ∀ env : Environment, env.expandText s = s) := by
  refine ⟨?_, fun ps hps env => ?_, fun hlone env => ?_⟩
  · obtain ⟨ps, hps⟩ := exists_reading s.toList
    exact ⟨ps, hps, fun ps' hps' => hps'.unique hps⟩
  · rw [expandText, hps.expand env]
  · have hself : (s.toList.map Piece.char).flatMap (Piece.text env) = s.toList := by
      rw [List.flatMap_map]
      exact List.flatMap_singleton' s.toList
    rw [expandText, (reading_of_lone hlone).expand env, hself, String.ofList_toList]

/-- A name in front of a sign that is none of its characters, a blank in braces, and a brace that is
not closed. -/
theorem expandText_reads_unclosed :
    Reading "$A1-$\x7b \x7d$\x7b".toList
        [.reference ['A', '1'], .char '-', .reference [' '], .char '$', .char '\x7b'] ∧
      ∀ env : Environment, env.expandText "$A1-$\x7b \x7d$\x7b" =
        String.ofList (env.value ['A', '1'] ++ '-' :: env.value [' '] ++ ['$', '\x7b']) := by
  have htext : "$A1-$\x7b \x7d$\x7b".toList =
      '$' :: (['A', '1'] ++ '-' :: '$' :: '\x7b' :: ([' '] ++ '\x7d' :: ['$', '\x7b'])) := by decide
  have hreading : Reading "$A1-$\x7b \x7d$\x7b".toList
      [.reference ['A', '1'], .char '-', .reference [' '], .char '$', .char '\x7b'] := by
    have hname : IsBareName ['A', '1'] := by
      refine ⟨by decide, List.all_eq_true.mp (by decide), ?_⟩
      rintro _ ⟨⟩
      decide
    rw [htext]
    refine .cons (.bare hname ?_) ?_
    · rintro _ ⟨⟩
      decide
    refine .cons (.copied (by decide)) (.cons (.braced (by decide)) ?_)
    refine .cons (.lone ?_) (.cons (.copied (by decide)) .nil)
    simp [StartsReference]
  refine ⟨hreading, fun env => ?_⟩
  rw [(expandText_reads _).2.1 _ hreading env]
  simp [Piece.text]

end Assay.Environment
