import Assay.Proofs.Url.Marks
import Assay.Url.Basic
import Mathlib.Algebra.BigOperators.Group.List.Basic
import Mathlib.Data.List.TakeWhile

/-!
# The path that an address of a file stands for

The path has fewer colons, bars and percent signs than the address, which has a colon behind its
scheme. So the address never stands behind a slash in the path, and whoever puts it there makes it
the path of another file. For a text with a slash in front of its first colon is no address at all.
-/

namespace Assay.Url

/-! ## Names of a path -/

/-- How many marks there are in what the names of a path stand for. -/
def nameMarks (names : List (List Char)) : Nat :=
  (names.map fun name => octetMarks (decode name)).sum

theorem nameMarks_cons (name : List Char) (names : List (List Char)) :
    nameMarks (name :: names) = octetMarks (decode name) + nameMarks names :=
  rfl

theorem nameMarks_reverse (names : List (List Char)) :
    nameMarks names.reverse = nameMarks names := by
  rw [nameMarks, List.map_reverse, List.sum_reverse, nameMarks]

/-- An empty name has no marks, so it makes no difference whether a path is closed by one. -/
theorem nameMarks_close (p : Prop) [Decidable p] (names : List (List Char)) :
    nameMarks (if p then [] :: names else names) = nameMarks names := by
  split
  · rw [nameMarks_cons, decode.eq_1]
    exact Nat.zero_add _
  · rfl

theorem nameMarks_up_le (file : Bool) (names : List (List Char)) :
    nameMarks (up file names) ≤ nameMarks names := by
  match names with
  | [] => exact Nat.le_refl _
  | [name] =>
    rw [up]
    split
    · exact Nat.le_refl _
    · exact Nat.zero_le _
  | name :: next :: names =>
    rw [up, nameMarks_cons name]
    · exact Nat.le_add_left _ _
    · simp

/-- A drive keeps its colon or gets one for its bar. -/
theorem octetMarks_drive_le {name : List Char} (h : isDrive name = true) :
    octetMarks (decode (name.take 1 ++ [':'])) ≤ octetMarks (decode name) := by
  match name with
  | [c, d] =>
    obtain ⟨hletter, hmark⟩ : c.isAlpha = true ∧ (d = ':' ∨ d = '|') := by simpa [isDrive] using h
    have hc : c ≠ '%' := by
      rintro rfl
      exact absurd hletter (by decide)
    have hd : d ≠ '%' := by rcases hmark with rfl | rfl <;> decide
    have hone : marks [d] = marks [':'] := by rcases hmark with rfl | rfl <;> rfl
    rw [List.take_succ_cons, List.take_zero, List.singleton_append, decode_cons_of_ne hc,
      decode_cons_of_ne hc, decode_cons_of_ne hd, decode_cons_of_ne (by decide)]
    simp only [octetMarks_append, octetMarks_utf8, hone, Nat.le_refl]

/-- Adding names to a path adds no more marks than these have. -/
theorem nameMarks_addNames_le (file : Bool) (names parts : List (List Char)) :
    nameMarks (addNames file names parts) ≤ nameMarks names + (parts.map marks).sum := by
  induction parts generalizing names with
  | nil => exact Nat.le_add_right _ _
  | cons name rest ih =>
    rw [List.map_cons, List.sum_cons, addNames]
    dsimp only
    by_cases hup : isDotDot name = true
    · rw [if_pos hup]
      refine (ih _).trans ?_
      have hnames := nameMarks_up_le file names
      rw [nameMarks_close]
      omega
    rw [if_neg hup]
    by_cases hdot : isDot name = true
    · rw [if_pos hdot]
      refine (ih _).trans ?_
      rw [nameMarks_close]
      omega
    rw [if_neg hdot]
    refine (ih _).trans ?_
    have hencoded := octetMarks_decode_encode_le pathSet name
    rw [nameMarks_cons]
    split
    · rename_i hdrive
      have hrenamed := octetMarks_drive_le (Bool.and_eq_true_iff.mp hdrive).2
      omega
    · omega

theorem sum_marks_split (cs : List Char) : ((Text.split '/' cs).map marks).sum = marks cs := by
  induction cs with
  | nil => rfl
  | cons c cs ih =>
    rw [Text.split]
    split
    · rename_i hc
      rw [List.map_cons, List.sum_cons, ih, hc, marks_cons, if_neg (by decide)]
      exact Nat.zero_add _
    · cases hsplit : Text.split '/' cs with
      | nil =>
        rw [hsplit] at ih
        rw [List.map_singleton, List.sum_singleton, marks_cons, marks_cons c cs, ← ih]
        rfl
      | cons part parts =>
        rw [hsplit, List.map_cons, List.sum_cons] at ih
        simp only [List.map_cons, List.sum_cons, marks_cons]
        omega

/-- No slash is a mark, whichever way it leans. -/
theorem marks_slashes (special : Bool) (cs : List Char) :
    marks (if special then cs.map fun c => if c = '\\' then '/' else c else cs) = marks cs := by
  split
  · rw [marks, List.countP_map]
    refine List.countP_congr fun c _ => ?_
    by_cases hc : c = '\\'
    · subst hc
      decide
    · simp [hc]
  · rfl

theorem marks_dropSlash_le (cs : List Char) :
    marks (if cs.head? = some '/' then cs.tail else cs) ≤ marks cs := by
  split
  · exact marks_le_of_sublist (List.tail_sublist cs)
  · exact Nat.le_refl _

theorem nameMarks_pathNames_le (special file : Bool) (cs : List Char) :
    nameMarks (pathNames special file cs) ≤ marks cs := by
  rw [pathNames, nameMarks_reverse]
  refine (nameMarks_addNames_le _ _ _).trans ?_
  have hnone : nameMarks [] = 0 := rfl
  rw [sum_marks_split, hnone, Nat.zero_add]
  exact (marks_dropSlash_le _).trans_eq (marks_slashes _ _)

theorem octetMarks_decode_slash (cs : List Char) :
    octetMarks (decode ('/' :: cs)) = octetMarks (decode cs) := by
  rw [decode_cons_of_ne (by decide), octetMarks_append, octetMarks_utf8]
  exact Nat.zero_add _

theorem octetMarks_decode_pathText_le (names : List (List Char)) :
    octetMarks (decode (pathText names).toList) ≤ nameMarks names := by
  rw [pathText, String.toList_ofList]
  induction names with
  | nil => simp [decode, octetMarks]
  | cons name names ih =>
    rw [List.flatMap_cons, List.cons_append, octetMarks_decode_slash, nameMarks_cons]
    exact (octetMarks_decode_append_le _ _).trans (Nat.add_le_add_left ih _)

/-- Slashes at the front have no marks. -/
theorem octetMarks_decode_dropSlashes (cs : List Char) :
    octetMarks (decode (cs.dropWhile (· = '/'))) = octetMarks (decode cs) := by
  induction cs with
  | nil => rfl
  | cons c cs ih =>
    by_cases hc : c = '/'
    · subst hc
      rw [List.dropWhile_cons_of_pos (by decide), ih, octetMarks_decode_slash]
    · rw [List.dropWhile_cons_of_neg (by simpa using hc)]

/-! ## The path -/

theorem marks_filePath?_le {url : Url} {path : String} (h : url.filePath? = some path) :
    marks path.toList ≤ octetMarks (decode url.path.toList) := by
  simp only [filePath?, Option.bind_eq_bind, Option.bind_eq_some_iff] at h
  obtain ⟨-, -, h⟩ := h
  obtain rfl := Option.some.inj h
  rw [String.toList_ofList]
  refine (marks_ofUtf8_le _ _).trans ?_
  generalize decode url.path.toList = octets
  -- a drive at the end gets a slash, which is no mark
  split_ifs
  · rw [octetMarks_append]
    exact Nat.le_refl _
  · exact Nat.le_refl _

/-- The text of the host of an address of a file, and what follows it. -/
def hostPart (cs : List Char) : List Char × List Char :=
  match cs with
  | a :: b :: more =>
    if isSlash true a && isSlash true b then
      let (h, rest) := more.span fun c => !endsAuthority true c
      if isDrive h then ([], more) else (h, rest)
    else ([], cs)
  | _ => ([], cs)

theorem hostPart_sublist (cs : List Char) : (hostPart cs).2.Sublist cs := by
  unfold hostPart
  split
  · rename_i a b more
    dsimp only
    split_ifs
    · exact (List.sublist_cons_self b more).cons a
    · rw [List.span_eq_takeWhile_dropWhile]
      exact ((List.dropWhile_sublist _).cons b).cons a
    · exact List.Sublist.refl _
  · exact List.Sublist.refl _

/-- The path of an address of a file is made of the names behind the host. -/
theorem path_of_file? {cs : List Char} {url : Url} (h : file? cs = some url) :
    url.path = String.ofList ('/' :: (pathText (pathNames true true
      ((hostPart cs).2.span fun c => c ≠ '?' ∧ c ≠ '#').1)).toList.dropWhile (· = '/')) := by
  unfold file? at h
  change (if (hostPart cs).1.isEmpty then Option.bind _ _ else Option.bind _ _) = some url at h
  split at h <;>
    obtain ⟨host, -, h⟩ := Option.bind_eq_some_iff.mp h <;>
    exact Option.some.inj h ▸ rfl

theorem octetMarks_decode_path_le_of_file? {cs : List Char} {url : Url} (h : file? cs = some url) :
    octetMarks (decode url.path.toList) ≤ marks cs := by
  rw [path_of_file? h, String.toList_ofList, octetMarks_decode_slash, octetMarks_decode_dropSlashes]
  refine (octetMarks_decode_pathText_le _).trans ((nameMarks_pathNames_le _ _ _).trans ?_)
  rw [List.span_eq_takeWhile_dropWhile]
  exact marks_le_of_sublist ((List.takeWhile_sublist _).trans (hostPart_sublist cs))

theorem scheme_of_authority? {scheme : String} {cs : List Char} {url : Url}
    (h : authority? scheme cs = some url) : url.scheme = scheme := by
  unfold authority? at h
  obtain ⟨-, -, h⟩ := Option.bind_eq_some_iff.mp h
  dsimp only at h
  split at h <;>
    obtain ⟨host, -, h⟩ := Option.bind_eq_some_iff.mp h <;>
    obtain ⟨port, -, h⟩ := Option.bind_eq_some_iff.mp h <;>
    exact Option.some.inj h ▸ rfl

/-- An address of a file is read as one. -/
theorem file?_of_parse? {s : String} {url : Url} (h : parse? s = some url)
    (hfile : url.scheme = "file") :
    ∃ rest, scheme? (cleaned s.toList) = some ("file", rest) ∧ file? rest = some url := by
  unfold parse? at h
  cases hscheme : scheme? (cleaned s.toList) with
  | none => simp [hscheme] at h
  | some parts =>
    obtain ⟨scheme, rest⟩ := parts
    rw [hscheme] at h
    dsimp only at h
    by_cases hs : scheme = "file"
    · subst hs
      exact ⟨rest, rfl, by simpa using h⟩
    · have hother : url.scheme = scheme := by
        rw [if_neg hs] at h
        split at h
        · exact scheme_of_authority? h
        · split at h
          · exact scheme_of_authority? h
          · exact Option.some.inj h ▸ rfl
      exact absurd (hother.symm.trans hfile) hs

theorem scheme?_eq_some {cs rest : List Char} {scheme : String}
    (h : scheme? cs = some (scheme, rest)) :
    ∃ name, cs = name ++ ':' :: rest ∧ '/' ∉ name := by
  unfold scheme? at h
  obtain ⟨-, -, h⟩ := Option.bind_eq_some_iff.mp h
  dsimp only at h
  rw [List.span_eq_takeWhile_dropWhile] at h
  dsimp only at h
  split at h
  · rename_i rest' hrest
    obtain ⟨-, rfl⟩ := Prod.mk.inj (Option.some.inj h)
    refine ⟨_, (List.takeWhile_append_dropWhile.symm.trans (congrArg _ hrest)), fun hslash => ?_⟩
    exact absurd (List.mem_takeWhile_imp hslash) (by decide)
  · exact absurd h (by simp)

theorem cleaned_sublist (cs : List Char) : (cleaned cs).Sublist cs := by
  refine List.filter_sublist.trans ?_
  rw [← List.reverse_sublist, List.reverse_reverse]
  exact (List.dropWhile_sublist _).trans (List.reverse_sublist.mpr (List.dropWhile_sublist _))

/-- The path that an address of a file stands for has fewer marks than the address. -/
theorem marks_filePath_lt {s path : String} {url : Url} (h : parse? s = some url)
    (hfile : url.scheme = "file") (hpath : url.filePath? = some path) :
    marks path.toList < marks s.toList := by
  obtain ⟨rest, hscheme, hread⟩ := file?_of_parse? h hfile
  obtain ⟨name, hcleaned, -⟩ := scheme?_eq_some hscheme
  have hcolon : marks (':' :: rest) = marks rest + 1 := marks_cons ':' rest
  calc marks path.toList
    _ ≤ octetMarks (decode url.path.toList) := marks_filePath?_le hpath
    _ ≤ marks rest := octetMarks_decode_path_le_of_file? hread
    _ < marks (name ++ ':' :: rest) := by rw [marks_append]; omega
    _ = marks (cleaned s.toList) := by rw [hcleaned]
    _ ≤ marks s.toList := marks_le_of_sublist (cleaned_sublist _)

/-- No address of a file stands behind a slash in what it stands for. -/
theorem filePath_ne_behind {s : String} {url : Url} (h : parse? s = some url)
    (hfile : url.scheme = "file") (front : List Char) :
    (url.filePath?.getD s).toList ≠ front ++ '/' :: s.toList := by
  intro hbehind
  cases hpath : url.filePath? with
  | none =>
    rw [hpath, Option.getD_none] at hbehind
    have hlonger := congrArg List.length hbehind
    rw [List.length_append, List.length_cons] at hlonger
    omega
  | some path =>
    have hfewer := marks_filePath_lt h hfile hpath
    rw [hpath, Option.getD_some] at hbehind
    rw [hbehind, marks_append] at hfewer
    have hmore := marks_le_of_sublist (List.sublist_cons_self '/' s.toList)
    omega

/-! ## Texts that are no address -/

/-- A character that is not blank keeps its place when the blanks around a text are dropped. -/
theorem cleaned_append_slash (front back : List Char) :
    ∃ front' back', front'.Sublist front ∧
      cleaned (front ++ '/' :: back) = front' ++ '/' :: back' := by
  unfold cleaned
  dsimp only
  generalize hblank : (fun c : Char => decide (c.toNat ≤ 0x20)) = blank
  have hslash : blank '/' = false := by rw [← hblank]; decide
  have hdrop : ∀ xs ys : List Char,
      (xs ++ '/' :: ys).dropWhile blank = xs.dropWhile blank ++ '/' :: ys := by
    intro xs ys
    rw [List.dropWhile_append, List.dropWhile_cons_of_neg (by simp [hslash])]
    split
    · rename_i hnil
      rw [List.isEmpty_iff.mp hnil, List.nil_append]
    · rfl
  rw [hdrop, List.reverse_append, List.reverse_cons, List.append_assoc, List.singleton_append,
    hdrop, List.reverse_append, List.reverse_cons, List.append_assoc, List.singleton_append,
    List.reverse_reverse, List.filter_append, List.filter_cons_of_pos (by decide)]
  exact ⟨_, _, List.filter_sublist.trans (List.dropWhile_sublist _), rfl⟩

/-- A text with a slash in front of every colon is no address. -/
theorem parse?_append_slash {front : List Char} (hfront : ':' ∉ front) (back : List Char) :
    parse? (String.ofList (front ++ '/' :: back)) = none := by
  obtain ⟨front', back', hsub, hcleaned⟩ := cleaned_append_slash front back
  have hnone : scheme? (front' ++ '/' :: back') = none := by
    cases hscheme : scheme? (front' ++ '/' :: back') with
    | none => rfl
    | some parts =>
      obtain ⟨scheme, rest⟩ := parts
      obtain ⟨name, hname, hslash⟩ := scheme?_eq_some hscheme
      -- either the slash stands within the scheme, or the colon in front of the slash
      rcases List.append_eq_append_iff.mp hname with ⟨more, rfl, hmore⟩ | ⟨more, rfl, hmore⟩
      · cases more with
        | nil => simp at hmore
        | cons c more =>
          obtain ⟨rfl, -⟩ := List.cons.inj hmore
          simp at hslash
      · cases more with
        | nil => simp at hmore
        | cons c more =>
          obtain ⟨rfl, -⟩ := List.cons.inj hmore
          exact absurd (hsub.subset (by simp)) hfront
  rw [parse?, String.toList_ofList, hcleaned, hnone]

end Assay.Url
