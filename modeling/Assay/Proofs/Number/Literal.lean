import Assay.Number.Literal
import Assay.Proofs.Text
import Mathlib.Data.List.TakeDrop

/-!
# Which numbers are literals

A text of digits and points is a number literal exactly if it holds a digit and no second point.
Nothing needs to stand in front of the point or behind it.
-/

namespace Assay

namespace Number

/-! ## Digits and a point -/

/-- Digits, at least one of them, and at most one point anywhere. -/
structure IsPlain (cs : List Char) : Prop where
  numerals : ∀ c ∈ cs, c.isDigit = true ∨ c = '.'
  onePoint : cs.count '.' ≤ 1
  someDigit : ∃ c ∈ cs, c.isDigit = true

variable {ds ds' cs : List Char}

theorem count_point_eq_zero (h : ∀ c ∈ ds, c.isDigit = true) : ds.count '.' = 0 :=
  List.count_eq_zero.mpr fun hmem => absurd (h '.' hmem) (by decide)

theorem isPlain_digits_iff (h : ∀ c ∈ ds, c.isDigit = true) : IsPlain ds ↔ ds ≠ [] := by
  constructor
  · rintro ⟨-, -, c, hc, -⟩
    exact List.ne_nil_of_mem hc
  · intro hne
    obtain ⟨c, hc⟩ := List.exists_mem_of_ne_nil ds hne
    exact ⟨fun c hc => .inl (h c hc), by rw [count_point_eq_zero h]; omega, c, hc, h c hc⟩

theorem isPlain_pointed_iff (h : ∀ c ∈ ds, c.isDigit = true) (h' : ∀ c ∈ ds', c.isDigit = true) :
    IsPlain (ds ++ '.' :: ds') ↔ ds ++ ds' ≠ [] := by
  constructor
  · rintro ⟨-, -, c, hc, hdigit⟩ hnil
    rw [List.append_eq_nil_iff] at hnil
    obtain rfl : c = '.' := by simpa [hnil.1, hnil.2] using hc
    exact absurd hdigit (by decide)
  · intro hne
    obtain ⟨c, hc⟩ := List.exists_mem_of_ne_nil _ hne
    have hall : ∀ c ∈ ds ++ ds', c.isDigit = true := by
      simpa [or_imp, forall_and] using ⟨h, h'⟩
    refine ⟨fun c hc => ?_, ?_, c, ?_, hall c hc⟩
    · rcases List.mem_append.mp hc with hc | hc
      · exact .inl (h c hc)
      · rcases List.mem_cons.mp hc with hc | hc
        · exact .inr hc
        · exact .inl (h' c hc)
    · simp [List.count_append, count_point_eq_zero h, count_point_eq_zero h']
    · rcases List.mem_append.mp hc with hc | hc <;> simp [hc]

theorem not_isPlain_of_points (cs ds ds' : List Char) :
    ¬ IsPlain (ds ++ '.' :: (ds' ++ '.' :: cs)) := by
  intro h
  have hpoints := h.onePoint
  simp only [List.count_append, List.count_cons_self] at hpoints
  omega

/-! ## What literals make of them -/

theorem exists_digitValue? {c : Char} (h : c.isDigit = true) :
    ∃ d, digitValue? c = some d ∧ d < 10 := by
  rw [Char.isDigit, Bool.and_eq_true, decide_eq_true_eq, decide_eq_true_eq] at h
  have hlo : 48 ≤ c.toNat := h.1
  have hhi : c.toNat ≤ 57 := h.2
  refine ⟨c.toNat - 48, ?_, by omega⟩
  simp [digitValue?, hlo, hhi]

theorem exists_natural? (h : ∀ c ∈ ds, c.isDigit = true) (hne : ds ≠ []) :
    ∃ n, natural? 10 ds = some n := by
  have hfold : ∀ n, ∃ m, (ds.foldlM (fun n c => do
      let d ← digitValue? c
      if d < 10 then some (n * 10 + d) else none) n) = some m := by
    clear hne
    induction ds with
    | nil => exact fun n => ⟨n, rfl⟩
    | cons c ds ih =>
      intro n
      rw [List.forall_mem_cons] at h
      obtain ⟨d, hd, hlt⟩ := exists_digitValue? h.1
      obtain ⟨m, hm⟩ := ih h.2 (n * 10 + d)
      exact ⟨m, by simpa [List.foldlM_cons, hd, hlt] using hm⟩
  obtain ⟨n, hn⟩ := hfold 0
  exact ⟨n, by simpa [natural?, hne] using hn⟩

/-- A run of digits ends at what is no digit. -/
theorem span_digits (h : ∀ c ∈ ds, c.isDigit = true) (hrest : ∀ c ∈ cs.head?, c.isDigit = false) :
    (ds ++ cs).span Char.isDigit = (ds, cs) := by
  rw [List.span_eq_takeWhile_dropWhile, Text.takeWhile_front h hrest, Text.dropWhile_front h hrest]

/-- The value of digits with or without a point behind them. -/
theorem decimal?_isSome_iff (negative : Bool) (h : ∀ c ∈ cs, c.isDigit = true ∨ c = '.') :
    (∃ x, decimal? negative cs = some x) ↔ IsPlain cs := by
  have hpoint : ∀ {more : List Char}, ∀ c ∈ ('.' :: more).head?, c.isDigit = false := by
    intro more c hc
    obtain rfl : '.' = c := by simpa using hc
    decide
  have hnext : ∀ {rest : List Char}, (∀ c ∈ rest, c.isDigit = true ∨ c = '.') →
      (∀ c ∈ rest.head?, c.isDigit = false) → rest = [] ∨ ∃ more, rest = '.' :: more := by
    intro rest hrest hhead
    cases rest with
    | nil => exact .inl rfl
    | cons c more =>
      have hc := hhead c rfl
      rcases hrest c List.mem_cons_self with hdigit | rfl
      · rw [hdigit] at hc
        cases hc
      · exact .inr ⟨more, rfl⟩
  obtain ⟨ds, rest, rfl, hds, hhead⟩ := Text.exists_span Char.isDigit cs
  rw [decimal?, span_digits hds hhead]
  rcases hnext (fun c hc => h c (by simp [hc])) hhead with rfl | ⟨more, rfl⟩
  · -- there is no point
    rw [List.append_nil, isPlain_digits_iff hds]
    by_cases hne : ds = []
    · simp [hne, fraction]
    · obtain ⟨n, hn⟩ := exists_natural? hds hne
      simp [fraction, hne, hn, exponent?]
  · obtain ⟨ds', rest', rfl, hds', hhead'⟩ := Text.exists_span Char.isDigit more
    simp only [fraction, span_digits hds' hhead']
    rcases hnext (fun c hc => h c (by simp [hc])) hhead' with rfl | ⟨more, rfl⟩
    · rw [List.append_nil, isPlain_pointed_iff hds hds']
      by_cases hne : ds ++ ds' = []
      · simp [List.append_eq_nil_iff.mp hne]
      · have hall : ∀ c ∈ ds ++ ds', c.isDigit = true := by
          simpa [or_imp, forall_and] using ⟨hds, hds'⟩
        obtain ⟨n, hn⟩ := exists_natural? hall hne
        have hsome : ¬ (ds.isEmpty && ds'.isEmpty) = true := by simpa using hne
        simp [hsome, hn, exponent?, hne]
    · -- nothing but an exponent may follow on the digits behind the point
      have hbad : exponent? ('.' :: more) = none := by simp [exponent?]
      simp [hbad, not_isPlain_of_points]

/-- No digit and no point has another case. -/
theorem toLower_numeral {c : Char} (h : c.isDigit = true ∨ c = '.') : c.toLower = c := by
  rcases h with h | rfl
  · rw [Char.isDigit, Bool.and_eq_true, decide_eq_true_eq, decide_eq_true_eq] at h
    have hhi : c.toNat ≤ 57 := h.2
    refine dif_neg fun hupper => ?_
    have hlo : 65 ≤ c.toNat := hupper.1
    omega
  · rfl

/-- A text that starts with a digit or a point is neither an infinity nor signed. -/
theorem literal_numeral {c : Char} (h : c.isDigit = true ∨ c = '.') (cs : List Char) :
    literal (c :: cs) =
      match decimal? false (c :: cs) with
      | some x => .ok x
      | none => .error .malformed := by
  have hne : ∀ d : Char, ¬ (d.isDigit = true ∨ d = '.') → c ≠ d := by
    rintro d hd rfl
    exact hd h
  have hword : ∀ (d : Char) (ds : List Char), ¬ (d.isDigit = true ∨ d = '.') →
      String.ofList ((c :: cs).map Char.toLower) ≠ String.ofList (d :: ds) := by
    intro d ds hd heq
    rw [String.ofList_inj, List.map_cons, toLower_numeral h, List.cons.injEq] at heq
    exact hne d hd heq.1
  have hmagnitude : magnitude? false (c :: cs) = decimal? false (c :: cs) := by
    have hinf := hword 'i' ['n', 'f'] (by decide)
    have hinfinity := hword 'i' ['n', 'f', 'i', 'n', 'i', 't', 'y'] (by decide)
    have hnan := hword 'n' ['a', 'n'] (by decide)
    rw [magnitude?, if_neg (not_or.mpr ⟨hinf, hinfinity⟩), if_neg hnan]
  rw [← hmagnitude, literal]
  · rfl
  · rintro ds ⟨⟩
    exact hne '-' (by decide) rfl
  · rintro ds ⟨⟩
    exact hne '+' (by decide) rfl

/-- **A text of digits and points is a literal exactly if it is a number.** -/
theorem literal_isOk_iff (h : ∀ c ∈ cs, c.isDigit = true ∨ c = '.') :
    (∃ x, literal cs = .ok x) ↔ IsPlain cs := by
  rw [← decimal?_isSome_iff false h]
  cases cs with
  | nil => simp [literal, decimal?, fraction]
  | cons c cs =>
    rw [literal_numeral (h c List.mem_cons_self)]
    cases decimal? false (c :: cs) <;> simp

end Number

end Assay
