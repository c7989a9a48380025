import Assay.Url.Percent
import Mathlib.Tactic.Ring

/-!
# Colons, bars and percent signs

Wherever a colon stands in the path of an address, a colon, a bar or a percent sign stood in its
text: a bar of a drive becomes a colon, and a percent sign may encode one. Nothing adds to the number
of these marks, neither encoding nor decoding nor reading octets as text.
-/

namespace Assay.Url

/-! ## Marks -/

/-- The code of a colon, of a bar or of a percent sign. -/
def isMark (n : Nat) : Bool :=
  n = 0x3A || n = 0x7C || n = 0x25

/-- How many octets are marks. -/
def octetMarks (ns : List Nat) : Nat :=
  ns.countP isMark

/-- How many characters are marks. -/
def marks (cs : List Char) : Nat :=
  cs.countP fun c => isMark c.toNat

@[simp] theorem octetMarks_append (ns ms : List Nat) :
    octetMarks (ns ++ ms) = octetMarks ns + octetMarks ms :=
  List.countP_append

theorem octetMarks_cons (n : Nat) (ns : List Nat) :
    octetMarks (n :: ns) = octetMarks ns + if isMark n then 1 else 0 :=
  List.countP_cons

@[simp] theorem marks_append (cs ds : List Char) : marks (cs ++ ds) = marks cs + marks ds :=
  List.countP_append

theorem marks_cons (c : Char) (cs : List Char) :
    marks (c :: cs) = marks cs + if isMark c.toNat then 1 else 0 :=
  List.countP_cons

theorem marks_le_of_sublist {cs ds : List Char} (h : cs.Sublist ds) : marks cs ≤ marks ds :=
  h.countP_le

theorem isMark_of_ge {n : Nat} (h : 0x80 ≤ n) : isMark n = false := by
  simp only [isMark, Bool.or_eq_false_iff, decide_eq_false_iff_not]
  omega

theorem utf8_ascii {c : Char} (h : c.toNat < 0x80) : Text.utf8 [c] = [c.toNat] := by
  have hcode : c.val.toNat ≤ 127 := Nat.le_of_lt_succ h
  rw [Text.utf8, List.flatMap_singleton, String.utf8EncodeChar, if_pos hcode]
  simp only [List.map_cons, List.map_nil, UInt8.toNat_ofNat', List.cons.injEq, and_true]
  exact Nat.mod_eq_of_lt (by omega)

/-- No octet of a character that is not ASCII is ASCII. -/
theorem le_of_mem_utf8 {c : Char} (h : 0x80 ≤ c.toNat) {n : Nat} (hn : n ∈ Text.utf8 [c]) :
    0x80 ≤ n := by
  have hcode : ¬ c.val.toNat ≤ 127 := Nat.not_le.mpr h
  rw [Text.utf8, List.flatMap_singleton, String.utf8EncodeChar, if_neg hcode] at hn
  split_ifs at hn <;>
    simp only [List.map_cons, List.map_nil, UInt8.toNat_ofNat', List.mem_cons, List.not_mem_nil,
      or_false] at hn <;> omega

theorem lt_of_mem_utf8 {c : Char} {n : Nat} (h : n ∈ Text.utf8 [c]) : n < 0x100 := by
  rw [Text.utf8, List.flatMap_singleton] at h
  obtain ⟨b, -, rfl⟩ := List.mem_map.mp h
  exact b.toNat_lt

theorem octetMarks_utf8 (c : Char) : octetMarks (Text.utf8 [c]) = marks [c] := by
  rcases Nat.lt_or_ge c.toNat 0x80 with h | h
  · rw [utf8_ascii h, octetMarks_cons, marks_cons]
    rfl
  · rw [marks_cons, isMark_of_ge h, octetMarks, List.countP_eq_zero.mpr]
    · rfl
    · intro n hn
      simp [isMark_of_ge (le_of_mem_utf8 h hn)]

/-! ## Percent encoding -/

theorem decode_cons_of_ne {c : Char} (h : c ≠ '%') (cs : List Char) :
    decode (c :: cs) = Text.utf8 [c] ++ decode cs :=
  decode.eq_3 c cs fun _ _ _ hc _ => h hc

theorem ne_percent_of_digitValue? {c : Char} {n : Nat} (h : Number.digitValue? c = some n) :
    c ≠ '%' := by
  rintro rfl
  exact Option.some_ne_none n (h.symm.trans (by decide))

/-- A character in front of a text adds no more marks to what that stands for than itself. -/
theorem octetMarks_decode_cons_le (c : Char) (cs : List Char) :
    octetMarks (decode (c :: cs)) ≤ marks [c] + octetMarks (decode cs) := by
  by_cases hescape : ∃ a b rest, c = '%' ∧ cs = a :: b :: rest
  · obtain ⟨a, b, rest, rfl, rfl⟩ := hescape
    have hone : marks ['%'] = 1 := by decide
    rw [decode.eq_2, hone]
    split
    · -- a percent sign and two digits, which are no marks, become one octet
      rename_i x y ha hb
      have hdigits : octetMarks (decode rest) ≤ octetMarks (decode (a :: b :: rest)) := by
        rw [decode_cons_of_ne (ne_percent_of_digitValue? ha),
          decode_cons_of_ne (ne_percent_of_digitValue? hb), octetMarks_append, octetMarks_append]
        omega
      rw [octetMarks_cons]
      split_ifs <;> omega
    · rw [octetMarks_cons, if_pos (by decide), Nat.add_comm]
  · rw [decode.eq_3 c cs fun a b rest hc hcs => hescape ⟨a, b, rest, hc, hcs⟩, octetMarks_append,
      octetMarks_utf8]

/-- Two texts one behind the other have no more marks in what they stand for than each has. -/
theorem octetMarks_decode_append_le (cs ds : List Char) :
    octetMarks (decode (cs ++ ds)) ≤ octetMarks (decode cs) + octetMarks (decode ds) := by
  induction cs using decode.induct with
  | case1 => simp [decode]
  | case2 a b cs x y hb ha ih =>
    rw [List.cons_append, List.cons_append, List.cons_append, decode.eq_2, decode.eq_2, ha, hb]
    simp only [octetMarks_cons]
    omega
  | case3 a b cs hdigits ih =>
    rw [List.cons_append, List.cons_append, List.cons_append, decode.eq_2, decode.eq_2]
    split
    · rename_i x y ha hb
      exact absurd hb (hdigits x y ha)
    · simp only [octetMarks_cons]
      rw [List.cons_append, List.cons_append] at ih
      omega
  | case4 c cs hplain ih =>
    have hfront := octetMarks_decode_cons_le c (cs ++ ds)
    rw [decode.eq_3 c cs hplain, octetMarks_append, octetMarks_utf8, List.cons_append]
    omega

theorem digitValue?_hexDigit : ∀ n < 16, Number.digitValue? (hexDigit n) = some n := by
  decide

theorem decode_percentOctet {n : Nat} (h : n < 0x100) (cs : List Char) :
    decode (percentOctet n ++ cs) = n :: decode cs := by
  rw [percentOctet, List.cons_append, List.cons_append, List.cons_append, List.nil_append,
    decode.eq_2, digitValue?_hexDigit _ (by omega), digitValue?_hexDigit _ (by omega)]
  simp only [List.cons.injEq, and_true]
  omega

theorem decode_flatMap_percentOctet {ns : List Nat} (h : ∀ n ∈ ns, n < 0x100) :
    decode (ns.flatMap percentOctet) = ns := by
  induction ns with
  | nil => simp [decode]
  | cons n ns ih =>
    rw [List.forall_mem_cons] at h
    rw [List.flatMap_cons, decode_percentOctet h.1, ih h.2]

/-- Encoding a text adds no marks to what it stands for. -/
theorem octetMarks_decode_encode_le (escaped : String) (cs : List Char) :
    octetMarks (decode (encode escaped cs)) ≤ marks cs := by
  induction cs with
  | nil => simp [encode, decode, octetMarks]
  | cons c cs ih =>
    have hc : octetMarks (decode (encode escaped [c])) ≤ marks [c] := by
      rw [encode, List.flatMap_singleton]
      split
      · have h := octetMarks_decode_cons_le c []
        rwa [decode.eq_1] at h
      · rw [decode_flatMap_percentOctet fun n hn => lt_of_mem_utf8 hn, octetMarks_utf8]
    have hsplit : encode escaped (c :: cs) = encode escaped [c] ++ encode escaped cs := by
      rw [encode, encode, encode, ← List.flatMap_append, List.singleton_append]
    calc octetMarks (decode (encode escaped (c :: cs)))
      _ ≤ octetMarks (decode (encode escaped [c])) + octetMarks (decode (encode escaped cs)) :=
        hsplit ▸ octetMarks_decode_append_le _ _
      _ ≤ marks [c] + marks cs := Nat.add_le_add hc ih
      _ = marks (c :: cs) := by rw [← marks_append, List.singleton_append]

/-! ## Octets read as text -/

/-- Further octets only add bits behind those that are there. -/
theorem le_of_utf8Rest {count low high code c : Nat} {ns : List Nat}
    (h : (Text.utf8Rest count low high code ns).1 = some c) : code * 0x40 ^ count ≤ c := by
  induction count generalizing low high code ns with
  | zero =>
    obtain rfl : code = c := by simpa [Text.utf8Rest] using h
    simp
  | succ count ih =>
    cases ns with
    | nil => simp [Text.utf8Rest] at h
    | cons n ns =>
      rw [Text.utf8Rest] at h
      split at h
      · calc code * 0x40 ^ (count + 1)
          _ = code * 0x40 * 0x40 ^ count := by ring
          _ ≤ (code * 0x40 + (n - 0x80)) * 0x40 ^ count :=
            Nat.mul_le_mul_right _ (Nat.le_add_right _ _)
          _ ≤ c := ih h
      · simp at h

/-- The first octet of several and the range of the second leave no room for an ASCII code. -/
theorem room_of_utf8Lead? {n count low high code : Nat}
    (h : Text.utf8Lead? n = some (count + 1, low, high, code)) :
    0x80 ≤ (code * 0x40 + (low - 0x80)) * 0x40 ^ count := by
  simp only [Text.utf8Lead?] at h
  split_ifs at h <;> cases h <;> omega

/-- What is written with several octets is not ASCII. -/
theorem le_of_utf8Lead? {n count low high code c : Nat} {ns : List Nat}
    (hlead : Text.utf8Lead? n = some (count + 1, low, high, code))
    (h : (Text.utf8Rest (count + 1) low high code ns).1 = some c) : 0x80 ≤ c := by
  cases ns with
  | nil => simp [Text.utf8Rest] at h
  | cons m ns =>
    rw [Text.utf8Rest] at h
    split at h
    · rename_i hm
      calc 0x80
        _ ≤ (code * 0x40 + (low - 0x80)) * 0x40 ^ count := room_of_utf8Lead? hlead
        _ ≤ (code * 0x40 + (m - 0x80)) * 0x40 ^ count :=
          Nat.mul_le_mul_right _ (Nat.add_le_add_left (Nat.sub_le_sub_right hm.1 _) _)
        _ ≤ c := le_of_utf8Rest h
    · simp at h

theorem isMark_ofNat_le (n : Nat) (h : isMark (Char.ofNat n).toNat = true) : isMark n = true := by
  by_cases hn : n.isValidChar
  · rwa [Char.ofNat, dif_pos hn] at h
  · rw [Char.ofNat, dif_neg hn] at h
    exact absurd h (by decide)

/-- A single octet stands for the character of its code. -/
theorem utf8Lead?_zero {n low high code : Nat}
    (h : Text.utf8Lead? n = some (0, low, high, code)) : code = n := by
  simp only [Text.utf8Lead?] at h
  split_ifs at h <;> simp only [Option.some.injEq, Prod.mk.injEq] at h <;> omega

/-- What an octet and those behind it are read as is a mark only if the octet is. -/
theorem isMark_of_utf8Lead? {n count low high code : Nat} {ns : List Nat}
    (hlead : Text.utf8Lead? n = some (count, low, high, code))
    (h : isMark
      (((Text.utf8Rest count low high code ns).1.map Char.ofNat).getD '\uFFFD').toNat = true) :
    isMark n = true := by
  cases hread : (Text.utf8Rest count low high code ns).1 with
  | none =>
    rw [hread] at h
    exact absurd h (by decide)
  | some c =>
    rw [hread] at h
    have hc : isMark c = true := isMark_ofNat_le c h
    cases count with
    | zero =>
      obtain rfl : code = c := by simpa [Text.utf8Rest] using hread
      rwa [utf8Lead?_zero hlead] at hc
    | succ count =>
      rw [isMark_of_ge (le_of_utf8Lead? hlead hread)] at hc
      exact Bool.noConfusion hc

theorem marks_cons_le {c : Char} {cs : List Char} {n : Nat} {ns : List Nat}
    (hfront : isMark c.toNat = true → isMark n = true) (hback : marks cs ≤ octetMarks ns) :
    marks (c :: cs) ≤ octetMarks (n :: ns) := by
  rw [marks_cons, octetMarks_cons]
  refine Nat.add_le_add hback ?_
  split
  · rename_i hc
    rw [if_pos (hfront hc)]
  · exact Nat.zero_le _

/-- What octets are read as has no more marks than they. -/
theorem marks_ofUtf8_le (rounds : Nat) (ns : List Nat) :
    marks ((Text.ofUtf8 rounds ns).map fun c => c.getD '\uFFFD') ≤ octetMarks ns := by
  induction rounds generalizing ns with
  | zero => exact Nat.zero_le _
  | succ rounds ih =>
    cases ns with
    | nil => exact Nat.zero_le _
    | cons n ns =>
      rw [Text.ofUtf8]
      cases hlead : Text.utf8Lead? n with
      | none => exact marks_cons_le (fun h => absurd h (by decide)) (ih ns)
      | some lead =>
        obtain ⟨count, low, high, code⟩ := lead
        exact marks_cons_le (isMark_of_utf8Lead? hlead)
          ((ih _).trans (List.drop_sublist _ ns).countP_le)

end Assay.Url
