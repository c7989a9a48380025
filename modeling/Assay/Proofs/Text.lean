import Assay.Text.Blank
import Assay.Text.Cut
import Mathlib.Data.List.SplitBy
import Mathlib.Data.List.TakeWhile

/-!
# Texts taken apart again

Trimming, cutting and splitting give back the parts that a text was put together from, as long as
no part contains what separates them.
-/

namespace Assay.Text

/-! ## Blanks -/

/-- No visible ASCII character is blank. -/
theorem isBlank_of_visible {c : Char} (hlo : 0x20 < c.toNat) (hhi : c.toNat < 0x7F) :
    isBlank c = false := by
  simp only [isBlank, Bool.or_eq_false_iff, Bool.and_eq_false_iff, decide_eq_false_iff_not]
  omega

/-- A text without blanks that is not empty. -/
def IsWord (cs : List Char) : Prop :=
  cs ≠ [] ∧ ∀ c ∈ cs, isBlank c = false

theorem isWord_iff (cs : List Char) : IsWord cs ↔ cs ≠ [] ∧ cs.any isBlank = false := by
  simp [IsWord]

instance (cs : List Char) : Decidable (IsWord cs) :=
  decidable_of_iff' _ (isWord_iff cs)

/-- A text of blanks, or none at all. -/
def AllBlank (cs : List Char) : Prop :=
  ∀ c ∈ cs, isBlank c = true

theorem allBlank_singleton {c : Char} (h : isBlank c = true) : AllBlank [c] :=
  List.forall_mem_singleton.mpr h

theorem exists_trimStart (cs : List Char) : ∃ gap, AllBlank gap ∧ cs = gap ++ trimStart cs :=
  ⟨cs.takeWhile isBlank, fun _ hc => List.mem_takeWhile_imp hc,
    List.takeWhile_append_dropWhile.symm⟩

theorem exists_trimEnd (cs : List Char) : ∃ gap, AllBlank gap ∧ cs = trimEnd cs ++ gap := by
  obtain ⟨gap, hgap, heq⟩ := exists_trimStart cs.reverse
  refine ⟨gap.reverse, fun c hc => hgap c (List.mem_reverse.mp hc), ?_⟩
  rw [trimEnd, ← trimStart, ← List.reverse_append, ← heq, List.reverse_reverse]

/-- Nothing but blanks is trimmed. -/
theorem exists_trim (cs : List Char) :
    ∃ front back, AllBlank front ∧ AllBlank back ∧ cs = front ++ (trim cs ++ back) := by
  obtain ⟨front, hfront, hcs⟩ := exists_trimStart cs
  obtain ⟨back, hback, hstart⟩ := exists_trimEnd (trimStart cs)
  exact ⟨front, back, hfront, hback, by rw [trim, ← hstart, ← hcs]⟩

theorem trimStart_cons {c : Char} (h : isBlank c = false) (cs : List Char) :
    trimStart (c :: cs) = c :: cs := by
  simp [trimStart, h]

theorem trimEnd_concat {c : Char} (h : isBlank c = false) (cs : List Char) :
    trimEnd (cs ++ [c]) = cs ++ [c] := by
  simp [trimEnd, h]

theorem trimStart_append {front : List Char} (h : ∀ c ∈ front, isBlank c = true) (cs : List Char) :
    trimStart (front ++ cs) = trimStart cs :=
  List.dropWhile_append_of_pos h

theorem trimEnd_append {back : List Char} (h : ∀ c ∈ back, isBlank c = true) (cs : List Char) :
    trimEnd (cs ++ back) = trimEnd cs := by
  have hback : ∀ c ∈ back.reverse, isBlank c = true := by simpa using h
  rw [trimEnd, List.reverse_append, List.dropWhile_append_of_pos hback, trimEnd]

/-- No blank stands at the front of what trimming leaves there. -/
theorem head?_trimStart (cs : List Char) : ∀ c ∈ (trimStart cs).head?, isBlank c = false := by
  intro c hc
  have hhead := List.head?_dropWhile_not isBlank cs
  rw [← trimStart, Option.mem_def.mp hc] at hhead
  simpa using hhead

theorem trimStart_eq_nil_iff {cs : List Char} : trimStart cs = [] ↔ AllBlank cs :=
  List.dropWhile_eq_nil_iff

theorem trimStart_append_of_ne_nil {front : List Char} (h : trimStart front ≠ [])
    (cs : List Char) : trimStart (front ++ cs) = trimStart front ++ cs := by
  rw [trimStart, List.dropWhile_append, ← trimStart, if_neg (by simpa using h)]

theorem trimEnd_append_of_not_allBlank {back : List Char} (h : ¬ AllBlank back) (cs : List Char) :
    trimEnd (cs ++ back) = cs ++ trimEnd back := by
  have hback : back.reverse.dropWhile isBlank ≠ [] := by
    rw [Ne, List.dropWhile_eq_nil_iff]
    intro hblank
    exact h fun c hc => hblank c (List.mem_reverse.mpr hc)
  rw [trimEnd, List.reverse_append, List.dropWhile_append, if_neg (by simpa using hback),
    List.reverse_append, List.reverse_reverse, trimEnd]

theorem trimEnd_cons {c : Char} (h : isBlank c = false) (cs : List Char) :
    trimEnd (c :: cs) = c :: trimEnd cs := by
  by_cases hblank : AllBlank cs
  · have hnone : trimEnd cs = [] := trimEnd_append hblank []
    have hone : trimEnd (c :: cs) = trimEnd [c] := trimEnd_append hblank [c]
    rw [hone, hnone]
    exact trimEnd_concat h []
  · exact trimEnd_append_of_not_allBlank hblank [c]

theorem trim_append_left {gap : List Char} (h : AllBlank gap) (cs : List Char) :
    trim (gap ++ cs) = trim cs := by
  rw [trim, trimStart_append h, trim]

theorem trim_append_right {gap : List Char} (h : AllBlank gap) (cs : List Char) :
    trim (cs ++ gap) = trim cs := by
  rw [trim, trim]
  by_cases hnone : trimStart cs = []
  · rw [trimStart_append (trimStart_eq_nil_iff.mp hnone), trimStart_eq_nil_iff.mpr h, hnone]
  · rw [trimStart_append_of_ne_nil hnone, trimEnd_append h]

/-- Blanks around a text make no difference to what trimming leaves of it. -/
theorem trim_append {front back : List Char} (hfront : ∀ c ∈ front, isBlank c = true)
    (hback : ∀ c ∈ back, isBlank c = true) (cs : List Char) :
    trim (front ++ cs ++ back) = trim cs := by
  rw [trim_append_right hback, trim_append_left hfront]

/-- Trimming leaves what is between visible characters. -/
theorem trim_append_append {front back : List Char} (hfront : ¬ AllBlank front)
    (hback : ¬ AllBlank back) (cs : List Char) :
    trim (front ++ (cs ++ back)) = trimStart front ++ (cs ++ trimEnd back) := by
  rw [trim, trimStart_append_of_ne_nil (mt trimStart_eq_nil_iff.mp hfront), ← List.append_assoc,
    trimEnd_append_of_not_allBlank hback, List.append_assoc]

/-- No blank stands at the end of what trimming leaves. -/
theorem getLast?_trim (cs : List Char) : ∀ c ∈ (trim cs).getLast?, isBlank c = false := by
  intro c hc
  have hlast := List.head?_dropWhile_not isBlank (trimStart cs).reverse
  have hrev : (trim cs).getLast? = ((trimStart cs).reverse.dropWhile isBlank).head? := by
    simp [trim, trimEnd]
  rw [← hrev] at hlast
  rw [Option.mem_def] at hc
  simpa [hc] using hlast

/-- Trimming changes nothing if no blank stands at either end. -/
theorem trim_eq_self {cs : List Char} (hfirst : ∀ c ∈ cs.head?, isBlank c = false)
    (hlast : ∀ c ∈ cs.getLast?, isBlank c = false) : trim cs = cs := by
  rcases List.eq_nil_or_concat cs with rfl | ⟨front, c, hcs⟩
  · rfl
  · rw [List.concat_eq_append] at hcs
    subst hcs
    have hc : isBlank c = false := hlast c (by simp)
    have hstart : trimStart (front ++ [c]) = front ++ [c] := by
      cases front with
      | nil => exact trimStart_cons hc []
      | cons a front => exact trimStart_cons (hfirst a (by simp)) _
    rw [trim, hstart, trimEnd_concat hc]

theorem IsWord.trim {w : List Char} (h : IsWord w) : Text.trim w = w :=
  trim_eq_self (fun c hc => h.2 c (List.mem_of_mem_head? hc))
    fun c hc => h.2 c (List.mem_of_mem_getLast? hc)

/-- What trimming leaves has no blank at either end. -/
theorem ends_of_trim {cs : List Char} (h : trim cs = cs) :
    (∀ c ∈ cs.head?, isBlank c = false) ∧ ∀ c ∈ cs.getLast?, isBlank c = false := by
  constructor
  · intro c hc
    by_contra hblank
    cases cs with
    | nil => simp at hc
    | cons a cs =>
      obtain rfl : a = c := by simpa using hc
      have hshort : (trim (a :: cs)).length ≤ cs.length := by
        have hstart : trimStart (a :: cs) = trimStart cs := by
          simp [trimStart, Bool.of_not_eq_false hblank]
        rw [trim, hstart, trimEnd, List.length_reverse]
        refine Nat.le_trans (List.dropWhile_sublist _).length_le ?_
        rw [List.length_reverse]
        exact (List.dropWhile_sublist _).length_le
      rw [h, List.length_cons] at hshort
      omega
  · have hlast := getLast?_trim cs
    rwa [h] at hlast

/-! ## Words -/

theorem isWord_of_mem_words {cs w : List Char} (h : w ∈ words cs) : IsWord w := by
  obtain ⟨hrun, hblank⟩ := List.mem_filter.mp h
  refine (isWord_iff w).mpr ⟨fun hnil => ?_, by simpa using hblank⟩
  exact List.nil_notMem_splitBy _ cs (hnil ▸ hrun)

/-- A word at the front of a text, with blanks or nothing behind it, is its first word. -/
theorem words_word {w : List Char} (h : IsWord w) {rest : List Char}
    (hrest : ∀ c ∈ rest.head?, isBlank c = true) : words (w ++ rest) = w :: words rest := by
  obtain ⟨hne, hw⟩ := h
  have hchain : w.IsChain fun a b => (isBlank a == isBlank b) = true := by
    refine List.Pairwise.isChain (List.pairwise_of_forall_mem_list fun a ha b hb => ?_)
    simp [hw a ha, hw b hb]
  have hkeep : (!w.any isBlank) = true := by simpa using hw
  rw [words, List.splitBy_append, List.splitBy_of_isChain hne hchain, List.filter_append]
  · simp [hkeep, words]
  · intro a ha b hb
    simp [hw a (List.mem_of_mem_getLast? ha), hrest b hb]

/-- Blanks in front of a text make no words. -/
theorem words_append {gap : List Char} (hgap : AllBlank gap) (cs : List Char) :
    words (gap ++ cs) = words cs := by
  -- the blanks that the text begins with are in one run with those in front of it
  have hvisible : ∀ gap : List Char, AllBlank gap → words (gap ++ trimStart cs) =
      words (trimStart cs) := by
    intro gap hgap
    by_cases hne : gap = []
    · rw [hne, List.nil_append]
    · have hchain : gap.IsChain fun a b => (isBlank a == isBlank b) = true := by
        refine List.Pairwise.isChain (List.pairwise_of_forall_mem_list fun a ha b hb => ?_)
        simp [hgap a ha, hgap b hb]
      have hdrop : (!gap.any isBlank) = false := by
        obtain ⟨c, hc⟩ := List.exists_mem_of_ne_nil gap hne
        simpa using ⟨c, hc, hgap c hc⟩
      rw [words, List.splitBy_append, List.splitBy_of_isChain hne hchain, List.filter_append]
      · simp [hdrop, words]
      · intro a ha b hb
        simp [hgap a (List.mem_of_mem_getLast? ha), head?_trimStart cs b hb]
  obtain ⟨gap', hgap', hcs⟩ := exists_trimStart cs
  have hboth : AllBlank (gap ++ gap') := List.forall_mem_append.mpr ⟨hgap, hgap'⟩
  conv_lhs => rw [hcs, ← List.append_assoc, hvisible _ hboth]
  conv_rhs => rw [hcs, hvisible _ hgap']

theorem words_cons {w : List Char} (h : IsWord w) {rest : List Char}
    (hrest : ∀ c ∈ rest.head?, isBlank c = true) :
    words (' ' :: (w ++ rest)) = w :: words rest := by
  rw [← words_word h hrest]
  exact words_append (allBlank_singleton (by decide)) _

/-- The front of a text as far as its characters are of a kind. -/
theorem exists_span (p : Char → Bool) (cs : List Char) :
    ∃ front rest, cs = front ++ rest ∧ (∀ c ∈ front, p c = true) ∧ ∀ c ∈ rest.head?, p c = false := by
  refine ⟨cs.takeWhile p, cs.dropWhile p, List.takeWhile_append_dropWhile.symm,
    fun c hc => List.mem_takeWhile_imp hc, fun c hc => ?_⟩
  have hstop := List.head?_dropWhile_not p cs
  rw [Option.mem_def.mp hc] at hstop
  simpa using hstop

/-- What is of a kind is the front of a text that goes on with something else. -/
theorem takeWhile_front {p : Char → Bool} {front rest : List Char} (h : ∀ c ∈ front, p c = true)
    (hrest : ∀ c ∈ rest.head?, p c = false) : (front ++ rest).takeWhile p = front := by
  rw [List.takeWhile_append_of_pos h]
  cases rest with
  | nil => simp
  | cons c rest => simp [hrest c rfl]

theorem dropWhile_front {p : Char → Bool} {front rest : List Char} (h : ∀ c ∈ front, p c = true)
    (hrest : ∀ c ∈ rest.head?, p c = false) : (front ++ rest).dropWhile p = rest := by
  rw [List.dropWhile_append_of_pos h]
  cases rest with
  | nil => rfl
  | cons c rest => simp [hrest c rfl]

/-- The front of a text up to its first blank. -/
theorem exists_front (cs : List Char) :
    ∃ front rest, cs = front ++ rest ∧ (∀ c ∈ front, isBlank c = false) ∧
      ∀ c ∈ rest.head?, isBlank c = true := by
  simpa using exists_span (!isBlank ·) cs

theorem head?_append_cons {b : Char} (hb : isBlank b = true) {rest : List Char}
    (hrest : ∀ c ∈ rest.head?, isBlank c = true) (cs : List Char) :
    ∀ c ∈ (rest ++ b :: cs).head?, isBlank c = true := by
  intro c hc
  cases rest with
  | nil =>
    obtain rfl : b = c := by simpa using hc
    exact hb
  | cons d rest => exact hrest c (by simpa using hc)

/-- **What words a text is made of**: none if it is blank, and otherwise the first one stands behind
blanks and the others behind it. -/
theorem words_cases (cs : List Char) :
    words cs = [] ∧ AllBlank cs ∨
      ∃ gap w rest, cs = gap ++ (w ++ rest) ∧ words cs = w :: words rest ∧ AllBlank gap ∧ IsWord w ∧
        ∀ c ∈ rest.head?, isBlank c = true := by
  obtain ⟨gap, hgap, hcs⟩ := exists_trimStart cs
  have hhead := head?_trimStart cs
  cases hstart : trimStart cs with
  | nil =>
    rw [hstart, List.append_nil] at hcs
    have hnone := words_append hgap []
    rw [List.append_nil] at hnone
    exact .inl ⟨by rw [hcs, hnone]; rfl, hcs ▸ hgap⟩
  | cons c back =>
    obtain ⟨front, rest, rfl, hfront, hrest⟩ := exists_front back
    rw [hstart] at hcs hhead
    have hword : IsWord (c :: front) :=
      ⟨List.cons_ne_nil _ _, List.forall_mem_cons.mpr ⟨hhead c rfl, hfront⟩⟩
    refine .inr ⟨gap, c :: front, rest, hcs, ?_, hgap, hword, hrest⟩
    rw [hcs, words_append hgap, ← words_word hword hrest, List.cons_append]

theorem allBlank_of_words_eq_nil {cs : List Char} (h : words cs = []) : AllBlank cs := by
  rcases words_cases cs with ⟨-, hblank⟩ | ⟨_, _, _, -, hcons, -⟩
  · exact hblank
  · rw [h] at hcons
    cases hcons

/-- The first word stands behind blanks, and the others behind it. -/
theorem exists_of_words_eq_cons {cs w : List Char} {ws : List (List Char)} (h : words cs = w :: ws) :
    ∃ gap rest, cs = gap ++ (w ++ rest) ∧ words rest = ws ∧ AllBlank gap ∧ IsWord w ∧
      ∀ c ∈ rest.head?, isBlank c = true := by
  rcases words_cases cs with ⟨hnil, -⟩ | ⟨gap, w', rest, hcs, hcons, hgap, hword, hrest⟩
  · rw [h] at hnil
    cases hnil
  · rw [h] at hcons
    cases hcons
    exact ⟨gap, rest, hcs, rfl, hgap, hword, hrest⟩

/-- Blanks keep the words in front of them and those behind them apart, however many they are. -/
theorem words_append_gap {gap : List Char} (hgap : AllBlank gap) (hne : gap ≠ [])
    (front back : List Char) : words (front ++ (gap ++ back)) = words front ++ words back := by
  induction hwords : words front generalizing front with
  | nil =>
    have hfront : AllBlank (front ++ gap) :=
      List.forall_mem_append.mpr ⟨allBlank_of_words_eq_nil hwords, hgap⟩
    rw [← List.append_assoc, words_append hfront, List.nil_append]
  | cons w ws ih =>
    obtain ⟨gap', rest, rfl, hws, hgap', hword, hrest⟩ := exists_of_words_eq_cons hwords
    have hbehind : ∀ c ∈ (rest ++ (gap ++ back)).head?, isBlank c = true := by
      obtain ⟨b, gap, rfl⟩ := List.exists_cons_of_ne_nil hne
      exact head?_append_cons (hgap b List.mem_cons_self) hrest _
    rw [List.append_assoc, List.append_assoc, words_append hgap', words_word hword hbehind,
      ih rest hws, List.cons_append]

/-- Words with a blank in front of each are taken apart again. -/
theorem words_spaced {ws : List (List Char)} (h : ∀ w ∈ ws, IsWord w) :
    words (ws.flatMap (' ' :: ·)) = ws := by
  induction ws with
  | nil => rfl
  | cons w ws ih =>
    rw [List.forall_mem_cons] at h
    rw [List.flatMap_cons, List.cons_append, words_cons h.1, ih h.2]
    intro c hc
    cases ws with
    | nil => simp at hc
    | cons w' ws =>
      obtain rfl : ' ' = c := by simpa using hc
      decide

/-! ## Lines -/

theorem split_append {separator : Char} {l : List Char} (h : separator ∉ l) (cs : List Char) :
    split separator (l ++ separator :: cs) = l :: split separator cs := by
  induction l with
  | nil => simp [split]
  | cons c l ih =>
    rw [List.mem_cons, not_or] at h
    rw [List.cons_append, split, if_neg (Ne.symm h.1), ih h.2]

/-- Lines with a line feed behind each are taken apart again. Behind the last one there is an empty
line. -/
theorem lines_joined {ls : List (List Char)} (h : ∀ l ∈ ls, '\n' ∉ l) :
    lines (ls.flatMap (· ++ ['\n'])) = ls ++ [[]] := by
  induction ls with
  | nil => rfl
  | cons l ls ih =>
    rw [List.forall_mem_cons] at h
    rw [List.flatMap_cons, List.append_assoc, lines, List.singleton_append, split_append h.1]
    rw [lines] at ih
    rw [ih h.2, List.cons_append]

theorem exists_split_eq_cons (separator : Char) (cs : List Char) :
    ∃ part parts, split separator cs = part :: parts := by
  cases cs with
  | nil => exact ⟨[], [], rfl⟩
  | cons c cs =>
    rw [split]
    split
    · exact ⟨_, _, rfl⟩
    · split <;> exact ⟨_, _, rfl⟩

theorem split_eq_singleton {separator : Char} {cs : List Char} (h : separator ∉ cs) :
    split separator cs = [cs] := by
  induction cs with
  | nil => rfl
  | cons c cs ih =>
    rw [List.mem_cons, not_or] at h
    rw [split, if_neg (Ne.symm h.1), ih h.2]

/-- **Where two texts meet**, the last part of the one is joined with the first part of the other. -/
theorem split_append_append {separator : Char} {front back l m : List Char}
    {done more : List (List Char)} (hfront : split separator front = done ++ [l])
    (hback : split separator back = m :: more) :
    split separator (front ++ back) = done ++ (l ++ m) :: more := by
  induction front generalizing done l with
  | nil =>
    obtain ⟨rfl, rfl⟩ : done = [] ∧ l = [] := by
      cases done with
      | nil => simpa [split] using hfront.symm
      | cons d done => simp [split] at hfront
    exact hback
  | cons c front ih =>
    rw [split] at hfront
    rw [List.cons_append, split]
    split at hfront
    · rename_i hc
      rw [if_pos hc]
      cases done with
      | nil =>
        obtain ⟨part, parts, hparts⟩ := exists_split_eq_cons separator front
        simp [hparts] at hfront
      | cons d done =>
        obtain ⟨rfl, hrest⟩ := List.cons.inj hfront
        rw [ih hrest]
        rfl
    · rename_i hc
      rw [if_neg hc]
      obtain ⟨part, parts, hparts⟩ := exists_split_eq_cons separator front
      rw [hparts] at hfront
      cases done with
      | nil =>
        obtain ⟨rfl, rfl⟩ : c :: part = l ∧ parts = [] := by simpa using hfront
        have hjoin : split separator (front ++ back) = [] ++ (part ++ m) :: more := ih hparts
        rw [hjoin]
        rfl
      | cons d done =>
        obtain ⟨rfl, rfl⟩ := List.cons.inj hfront
        have hjoin : split separator (front ++ back) = part :: done ++ (l ++ m) :: more := ih hparts
        rw [hjoin]
        rfl

/-! ## Cutting -/

theorem cut_append {p : Char → Bool} {front : List Char} {c : Char}
    (hfront : ∀ a ∈ front, p a = false) (hc : p c = true) (back : List Char) :
    cut p (front ++ c :: back) = some (front, back) := by
  induction front with
  | nil => simp [cut, hc]
  | cons a front ih =>
    rw [List.forall_mem_cons] at hfront
    simp [cut, hfront.1, ih hfront.2]

/-- What is not cut at stays in front. -/
theorem cut_append_front {p : Char → Bool} {front : List Char} (h : ∀ c ∈ front, p c = false)
    (cs : List Char) :
    cut p (front ++ cs) = (cut p cs).map fun parts => (front ++ parts.1, parts.2) := by
  induction front with
  | nil => simp
  | cons a front ih =>
    rw [List.forall_mem_cons] at h
    rw [List.cons_append, cut, if_neg (by simp [h.1]), ih h.2, Option.map_map]
    rfl

/-- There is no cut if nothing is to be cut at. -/
theorem cut_eq_none {p : Char → Bool} {cs : List Char} (h : ∀ c ∈ cs, p c = false) :
    cut p cs = none := by
  induction cs with
  | nil => rfl
  | cons c cs ih =>
    rw [List.forall_mem_cons] at h
    simp [cut, h.1, ih h.2]

/-- A cut leaves in front what comes before the first such character, all if there is none. -/
theorem fst_cut_getD (p : Char → Bool) (cs : List Char) :
    ((cut p cs).getD (cs, [])).1 = cs.takeWhile (!p ·) := by
  induction cs with
  | nil => rfl
  | cons c cs ih =>
    by_cases hc : p c = true
    · simp [cut, hc]
    · rw [List.takeWhile_cons, ← ih]
      cases hcut : cut p cs <;> simp [cut, hc, hcut]

theorem dropPrefix?_eq_some_iff {front cs back : List Char} :
    dropPrefix? front cs = some back ↔ cs = front ++ back := by
  induction front generalizing cs with
  | nil => simp [dropPrefix?]
  | cons f front ih =>
    cases cs with
    | nil => simp [dropPrefix?]
    | cons c cs =>
      rw [dropPrefix?]
      split
      · rename_i heq
        rw [ih, heq]
        simp
      · rename_i hne
        simp [Ne.symm hne]

/-- A text ends with another one if and only if something in front of that makes it up. -/
theorem dropSuffix?_eq_some_iff {front cs back : List Char} :
    dropSuffix? back cs = some front ↔ cs = front ++ back := by
  rw [dropSuffix?, Option.map_eq_some_iff]
  constructor
  · rintro ⟨rest, hrest, rfl⟩
    rw [dropPrefix?_eq_some_iff] at hrest
    rw [← List.reverse_reverse cs, hrest]
    simp
  · rintro rfl
    exact ⟨front.reverse, by rw [dropPrefix?_eq_some_iff]; simp, by simp⟩

end Assay.Text
