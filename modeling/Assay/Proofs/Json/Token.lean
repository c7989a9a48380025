import Assay.Json.Reader
import Assay.Json.Writer
import Mathlib.Data.List.Induction
import Mathlib.Data.List.TakeDrop

/-!
# Tokens of JSON text

A quoted text is read back as it was, whatever it holds. A number is read up to its end, which is
where something follows that cannot be part of it; what it comes to is left open here.
-/

namespace Assay.Json

open Document (Node Scalar)

/-! ## Quoted texts -/

theorem fourHex?_control : ∀ n < 32,
    fourHex? '0' '0' (hexDigit (n / 16)) (hexDigit (n % 16)) = some n := by
  decide

/-- What is written for a character gives its code. -/
theorem codesRest_escaped (c : Char) (codes : List Nat) (cs : List Char) :
    codesRest codes (escaped c ++ cs) = codesRest (c.toNat :: codes) cs := by
  unfold escaped
  split
  · rfl
  · rfl
  · rfl
  · rfl
  · rfl
  · rfl
  · rfl
  · rename_i hquote hslash _ _ _ _ _
    split
    · rename_i hcontrol
      show (fourHex? _ _ _ _).bind _ = _
      rw [fourHex?_control _ hcontrol]
      rfl
    · rename_i hplain
      rw [List.singleton_append, codesRest]
      · rw [if_neg hplain]
      · exact hquote
      · intro a b c' d rest heq _
        exact hslash heq
      · intro c' rest heq _
        exact hslash heq
      · intro heq
        exact absurd heq hslash

theorem codesRest_quoted (cs : List Char) (codes : List Nat) (rest : List Char) :
    codesRest codes (cs.flatMap escaped ++ '"' :: rest) =
      some ((cs.map Char.toNat).reverse ++ codes, rest) := by
  induction cs generalizing codes with
  | nil => rfl
  | cons c cs ih =>
    rw [List.flatMap_cons, List.append_assoc, codesRest_escaped, ih]
    simp

/-- The code of a character is no half of a surrogate pair. -/
theorem isHalf_toNat (c : Char) : isHighHalf c.toNat = false ∧ isLowHalf c.toNat = false := by
  have hvalid : c.toNat < 0xD800 ∨ 0xDFFF < c.toNat ∧ c.toNat < 0x110000 := c.valid
  simp only [isHighHalf, isLowHalf, Bool.and_eq_false_iff, decide_eq_false_iff_not]
  omega

theorem joinCodes_cons (c : Char) (codes : List Nat) (after : List Char) :
    joinCodes (c.toNat :: codes) after = joinCodes codes (c :: after) := by
  obtain ⟨hhigh, hlow⟩ := isHalf_toNat c
  cases codes with
  | nil => simp [joinCodes, hhigh, hlow]
  | cons m codes => simp [joinCodes, hhigh, hlow]

theorem joinCodes_reverse (cs after : List Char) :
    joinCodes (cs.map Char.toNat).reverse after = some (cs ++ after) := by
  induction cs using List.reverseRecOn generalizing after with
  | nil => rfl
  | append_singleton cs c ih =>
    rw [List.map_append, List.reverse_append, List.map_singleton, List.reverse_singleton,
      List.singleton_append, joinCodes_cons, ih, List.append_assoc, List.singleton_append]

theorem quoted_toList (s : String) :
    (quoted s).toList = '"' :: (s.toList.flatMap escaped ++ ['"']) := by
  simp [quoted, String.toList_append, String.toList_ofList]

/-- **A quoted text is read back.** -/
theorem textNode_quoted (s : String) (rest : List Char) :
    textNode (s.toList.flatMap escaped ++ '"' :: rest) = ((text s).node, some rest) := by
  have hread : textRest (s.toList.flatMap escaped ++ '"' :: rest) = some (some s, rest) := by
    rw [textRest, codesRest_quoted, List.append_nil]
    show some ((joinCodes _ []).map String.ofList, rest) = _
    rw [joinCodes_reverse, List.append_nil, Option.map_some, String.ofList_toList]
  rw [textNode, hread]
  rfl

/-! ## Numbers -/

/-- Whether a number ends where a text goes on like this. -/
def EndsNumber (rest : List Char) : Prop :=
  ∀ c ∈ rest.head?, c.isDigit = false ∧ c ≠ '.' ∧ c ≠ 'e' ∧ c ≠ 'E'

/-- A fraction as it is written, with at least one digit, or none. -/
def FractionForm (cs : List Char) : Prop :=
  cs = [] ∨ ∃ ds, ds ≠ [] ∧ (∀ d ∈ ds, d.isDigit = true) ∧ cs = '.' :: ds

/-- A number as it is written: a sign, digits without a leading zero, and a fraction. -/
def NumberForm (cs : List Char) : Prop :=
  ∃ sign n fraction, (sign = [] ∨ sign = ['-']) ∧ FractionForm fraction ∧
    cs = sign ++ (Nat.toDigits 10 n ++ fraction)

theorem digitsOf_append {ds rest : List Char} (hds : ∀ d ∈ ds, d.isDigit = true)
    (hrest : ∀ c ∈ rest.head?, c.isDigit = false) :
    digitsOf (ds ++ rest) = (ds.map fun c => c.toNat - 48, rest) := by
  have hspan : (ds ++ rest).span Char.isDigit = (ds, rest) := by
    rw [List.span_eq_takeWhile_dropWhile, List.takeWhile_append_of_pos hds,
      List.dropWhile_append_of_pos hds]
    cases rest with
    | nil => simp
    | cons c rest => simp [hrest c rfl]
  rw [digitsOf, hspan]

/-- A positive number has no leading zero. -/
theorem toDigits_leads {n : Nat} (h : 0 < n) :
    ∃ d ds, Nat.toDigits 10 n = d :: ds ∧ d.toNat - 48 ≠ 0 := by
  induction n using Nat.strongRecOn with
  | ind n ih =>
    rcases Nat.lt_or_ge n 10 with hlt | hge
    · have hdigit : ∀ n < 10, 0 < n → (Nat.digitChar n).toNat - 48 ≠ 0 := by decide
      exact ⟨_, [], Nat.toDigits_of_lt_base hlt, hdigit n hlt h⟩
    · obtain ⟨d, ds, hds, hd⟩ := ih (n / 10) (by omega) (by omega)
      exact ⟨d, _, by rw [Nat.toDigits_of_base_le (by decide) hge, hds, List.cons_append], hd⟩

/-- There are digits, and no leading zero. -/
theorem leads_toDigits (n : Nat) {leading : List Nat}
    (h : leading = (Nat.toDigits 10 n).map fun c => c.toNat - 48) :
    (!leading.isEmpty && (leading.head? != some 0 || leading.length = 1)) = true := by
  subst h
  rcases Nat.eq_zero_or_pos n with rfl | hpos
  · decide
  · obtain ⟨d, ds, hds, hd⟩ := toDigits_leads hpos
    simp [hds, hd]

theorem signOf_of_isDigit {c : Char} (h : c.isDigit = true) (cs : List Char) :
    signOf (c :: cs) = (false, c :: cs) := by
  rw [signOf]
  rintro rest heq
  obtain ⟨rfl, -⟩ := List.cons.inj heq
  cases h

theorem fraction?_of_endsNumber {rest : List Char} (h : EndsNumber rest) :
    fraction? rest = some ([], rest) := by
  rw [fraction?]
  rintro rest' rfl
  exact (h '.' rfl).2.1 rfl

theorem exponent?_of_endsNumber {rest : List Char} (h : EndsNumber rest) :
    exponent? rest = some (none, rest) := by
  cases rest with
  | nil => rfl
  | cons c rest =>
    obtain ⟨-, -, he, hE⟩ := h c rfl
    exact if_neg (by simp [he, hE])

theorem isDigit_toDigits (n : Nat) : ∀ d ∈ Nat.toDigits 10 n, d.isDigit = true :=
  fun _ hd => Nat.isDigit_of_mem_toDigits (by decide) (by decide) hd

theorem exists_toDigits_eq_cons (n : Nat) :
    ∃ d ds, Nat.toDigits 10 n = d :: ds ∧ d.isDigit = true := by
  obtain ⟨d, ds, heq⟩ := List.exists_cons_of_ne_nil (Nat.toDigits_ne_nil (n := n) (b := 10))
  exact ⟨d, ds, heq, isDigit_toDigits n d (by simp [heq])⟩

theorem exists_signOf {sign : List Char} (h : sign = [] ∨ sign = ['-']) (n : Nat) :
    ∃ negative, ∀ rest, signOf (sign ++ (Nat.toDigits 10 n ++ rest)) =
      (negative, Nat.toDigits 10 n ++ rest) := by
  rcases h with rfl | rfl
  · obtain ⟨d, ds, heq, hd⟩ := exists_toDigits_eq_cons n
    refine ⟨false, fun rest => ?_⟩
    rw [heq]
    exact signOf_of_isDigit hd (ds ++ rest)
  · exact ⟨true, fun rest => rfl⟩

theorem exists_fraction {fraction : List Char} (h : FractionForm fraction) :
    ∃ ds, ∀ rest, EndsNumber rest → (∀ c ∈ (fraction ++ rest).head?, c.isDigit = false) ∧
      fraction? (fraction ++ rest) = some (ds, rest) := by
  rcases h with rfl | ⟨ds, hne, hds, rfl⟩
  · exact ⟨[], fun rest hrest => ⟨fun c hc => (hrest c hc).1, fraction?_of_endsNumber hrest⟩⟩
  · refine ⟨ds.map fun c => c.toNat - 48, fun rest hrest => ⟨?_, ?_⟩⟩
    · rintro c ⟨⟩
      rfl
    · rw [List.cons_append, fraction?, digitsOf_append hds fun c hc => (hrest c hc).1]
      simp [hne]

/-- **A number is read up to its end.** -/
theorem numberText?_append {cs : List Char} (h : NumberForm cs) :
    ∃ t, ∀ rest, EndsNumber rest → numberText? (cs ++ rest) = some (t, rest) := by
  obtain ⟨sign, n, fraction, hsign, hfraction, rfl⟩ := h
  obtain ⟨negative, hnegative⟩ := exists_signOf hsign n
  obtain ⟨ds, hds⟩ := exists_fraction hfraction
  refine ⟨⟨negative, (Nat.toDigits 10 n).map fun c => c.toNat - 48, ds, none⟩,
    fun rest hrest => ?_⟩
  rw [List.append_assoc, List.append_assoc, numberText?, hnegative]
  simp only [digitsOf_append (isDigit_toDigits n) (hds rest hrest).1, leads_toDigits n rfl, guard,
    if_true, (hds rest hrest).2]
  show (exponent? rest).bind _ = _
  rw [exponent?_of_endsNumber hrest]
  rfl

/-- A number does not start like a word or like anything but a number. -/
theorem NumberForm.head {cs : List Char} (h : NumberForm cs) :
    ∃ c cs', cs = c :: cs' ∧ (c = '-' ∨ c.isDigit = true) := by
  obtain ⟨sign, n, fraction, hsign, -, rfl⟩ := h
  rcases hsign with rfl | rfl
  · obtain ⟨d, ds, heq, hd⟩ := exists_toDigits_eq_cons n
    exact ⟨d, ds ++ fraction, by rw [heq]; rfl, .inr hd⟩
  · exact ⟨'-', _, rfl, .inl rfl⟩

theorem plain?_append {cs : List Char} (h : NumberForm cs) :
    ∃ t, ∀ rest, EndsNumber rest → plain? (cs ++ rest) = some (numberScalar t, rest) := by
  obtain ⟨t, ht⟩ := numberText?_append h
  refine ⟨t, fun rest hrest => ?_⟩
  obtain ⟨c, cs', rfl, hc⟩ := h.head
  have hnumber : plain? (c :: cs' ++ rest) =
      (numberText? (c :: cs' ++ rest)).bind fun r => some (numberScalar r.1, r.2) := by
    rw [List.cons_append, plain?]
    · rfl
    -- no word starts like a number
    all_goals
      rintro rest' heq
      obtain ⟨rfl, -⟩ := List.cons.inj heq
      simp at hc
  rw [hnumber, ht rest hrest]
  rfl

/-! ## Numbers as they are written -/

theorem numberForm_toString (n : Int) : NumberForm (toString n).toList := by
  rw [Int.toString_eq_repr]
  cases n with
  | ofNat m => exact ⟨[], m, [], .inl rfl, .inl rfl, by simp [Int.repr, Nat.toList_repr]⟩
  | negSucc m => exact ⟨['-'], m + 1, [], .inr rfl, .inl rfl, by simp [Int.repr, Nat.toList_repr]⟩

/-- Digits stay digits without the zeros at their end. -/
theorem isDigit_of_trimmed {ds : List Char} (h : ∀ d ∈ ds, d.isDigit = true) {d : Char}
    (hd : d ∈ (ds.reverse.dropWhile (· = '0')).reverse) : d.isDigit = true :=
  h d (List.mem_reverse.mp ((List.dropWhile_sublist _).mem (List.mem_reverse.mp hd)))

theorem isDigit_of_mem_toString {n : Nat} {d : Char} (h : d ∈ (toString n).toList) :
    d.isDigit = true := by
  rw [Nat.toString_eq_repr, Nat.toList_repr] at h
  exact isDigit_toDigits n d h

theorem whole_toList (n : Nat) : (toString n).toList = Nat.toDigits 10 n ++ [] := by
  rw [Nat.toString_eq_repr, Nat.toList_repr, List.append_nil]

theorem fraction_toList (n : Nat) (part : List Char) :
    (toString n ++ "." ++ String.ofList part).toList = Nat.toDigits 10 n ++ '.' :: part := by
  rw [String.toList_append, String.toList_append, whole_toList, String.toList_ofList]
  simp

theorem positional_form (d : Binary64.Decimal) : ∃ n fraction, FractionForm fraction ∧
    d.positional.toList = Nat.toDigits 10 n ++ fraction := by
  unfold Binary64.Decimal.positional
  split
  · exact ⟨_, [], .inl rfl, whole_toList _⟩
  · dsimp only
    split
    · exact ⟨_, [], .inl rfl, whole_toList _⟩
    · rename_i hne
      refine ⟨_, _, .inr ⟨_, fun hnil => hne (List.isEmpty_iff.mpr hnil), fun c => ?_, rfl⟩,
        fraction_toList _ _⟩
      exact isDigit_of_trimmed fun c hc => isDigit_of_mem_toString (List.mem_of_mem_drop hc)

theorem text_form (negative : Bool) (units : Nat) :
    NumberForm (Binary64.finite negative units).text.toList := by
  obtain ⟨n, fraction, hfraction, hdigits⟩ : ∃ n fraction, FractionForm fraction ∧
      (if units = 0 then "0" else (Binary64.shortest units).positional).toList =
        Nat.toDigits 10 n ++ fraction := by
    split
    · exact ⟨0, [], .inl rfl, rfl⟩
    · exact positional_form _
  cases negative with
  | false => exact ⟨[], n, fraction, .inl rfl, hfraction, hdigits⟩
  | true =>
    refine ⟨['-'], n, fraction, .inr rfl, hfraction, ?_⟩
    rw [← hdigits]
    exact String.toList_append

/-- A number with a point has a fraction, so it is not a whole one. -/
theorem numberForm_realText (negative : Bool) (units : Nat) :
    NumberForm (realText (.finite negative units)).toList := by
  have hform := text_form negative units
  unfold realText
  dsimp only
  split
  · exact hform
  · rename_i hpoint
    obtain ⟨sign, n, fraction, hsign, hfraction, htext⟩ := hform
    refine ⟨sign, n, ['.', '0'], hsign,
      .inr ⟨['0'], List.cons_ne_nil _ _, List.forall_mem_singleton.mpr rfl, rfl⟩, ?_⟩
    rcases hfraction with rfl | ⟨ds, -, -, rfl⟩
    · rw [String.toList_append, htext]
      simp
    · rw [String.contains_char_eq, htext] at hpoint
      simp at hpoint

end Assay.Json
