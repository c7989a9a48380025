import Assay.Proofs.Exposition.Bookkeeping
import Assay.Proofs.Exposition.Values

/-!
# Where series lead

A series belongs to the family of its own name, unless its name extends that of a declared family by
one of the endings of that family's series. Only the kinds declared in front of a line count for it.
So a declaration can lead a series elsewhere from there on, and a family can be left without the
series of its own name. What is said here is just when that happens in a text that is accepted.
-/

namespace Assay

open Assay.Metric Dictionary

namespace Exposition

/-! ## The family of a series -/

/-- With these kinds declared, a series is one of the family whose name it extends by an ending. -/
structure LeadsTo (types : Dictionary Kind) (series base : String) : Prop where
  /-- It is not the series of the quantiles of a summary. -/
  free : types.get? series ≠ some .summary
  ending : ∃ e ∈ Scrape.suffixes, series = base ++ e.1 ∧ ∃ kind ∈ e.2, types.get? base = some kind

/-- With these kinds declared, the lines of a series are those of a family. -/
def GoesTo (types : Dictionary Kind) (series family : String) : Prop :=
  LeadsTo types series family ∨ family = series ∧ ∀ base, ¬ LeadsTo types series base

variable {s : Scrape}

theorem leadsTo_iff {series : List Char} {base : String} :
    LeadsTo s.types (String.ofList series) base ↔
      s.declared? (String.ofList series) ≠ some .summary ∧
        ∃ ending, s.suffixed? series = some (base, ending) := by
  have hname : ∀ ending : String, String.ofList series = base ++ ending ↔
      series = base.toList ++ ending.toList := by
    intro ending
    rw [← String.toList_inj, String.toList_ofList, String.toList_append]
  refine ⟨fun ⟨hfree, e, he, heq, hkind⟩ => ⟨hfree, e.1, ?_⟩, fun ⟨hfree, ending, h⟩ => ⟨hfree, ?_⟩⟩
  · exact suffixed?_eq_some_iff.mpr ⟨e, he, rfl, (hname e.1).mp heq, hkind⟩
  · obtain ⟨e, he, rfl, heq, hkind⟩ := suffixed?_eq_some_iff.mp h
    exact ⟨e, he, (hname e.1).mpr heq, hkind⟩

/-- A series leads to one family at most. -/
theorem LeadsTo.unique {types : Dictionary Kind} {series base base' : String}
    (h : LeadsTo types series base) (h' : LeadsTo types series base') : base = base' := by
  rw [← String.ofList_toList (s := series)] at h h'
  obtain ⟨-, ending, hsome⟩ := (leadsTo_iff (s := { types })).mp h
  obtain ⟨-, ending', hsome'⟩ := (leadsTo_iff (s := { types })).mp h'
  exact (Prod.mk.inj (Option.some.inj (hsome.symm.trans hsome'))).1

theorem GoesTo.unique {types : Dictionary Kind} {series family family' : String}
    (h : GoesTo types series family) (h' : GoesTo types series family') : family = family' := by
  rcases h with h | ⟨rfl, h⟩ <;> rcases h' with h' | ⟨rfl, h'⟩
  · exact h.unique h'
  · exact absurd h (h' _)
  · exact absurd h' (h _)
  · rfl

/-- A line is resolved to the family that its series goes to. -/
theorem goesTo_of_resolve {series : List Char} {labels rest : Labels} {family : String} {part : Part}
    (h : s.resolve series labels = .ok (family, part, rest)) :
    GoesTo s.types (String.ofList series) family := by
  unfold Scrape.resolve at h
  dsimp only at h
  split at h
  · rename_i hsummary
    split at h
    · cases h
      exact .inr ⟨rfl, fun base hleads => hleads.free hsummary⟩
    · cases h
  · cases h
  · rename_i hsummary _
    split at h
    · rename_i hnone
      cases h
      refine .inr ⟨rfl, fun base hleads => ?_⟩
      obtain ⟨-, ending, hsome⟩ := leadsTo_iff.mp hleads
      rw [hnone] at hsome
      cases hsome
    · rename_i hseries
      split at h
      · cases h
        exact .inl (leadsTo_iff.mpr ⟨hsummary, _, hseries⟩)
      · cases h
    all_goals
      rename_i hseries
      cases h
      exact .inl (leadsTo_iff.mpr ⟨hsummary, _, hseries⟩)

/-! ## Lines in a text -/

/-- The name of the series that a line of a text gives a value of. -/
def series? (cs : List Char) : Option String :=
  match sentence cs with
  | .ok (.value text) => some (String.ofList (seriesIn text))
  | _ => none

/-- The kinds that lines declare. -/
def declaredIn (css : List (List Char)) : Dictionary Kind :=
  (∅ : Dictionary Kind).insertAll (css.filterMap declaration?)

/-- What a value line gives behind other lines. -/
def lineAfter (before : List (List Char)) (cs : List Char) : Except LineError Line :=
  Scrape.parseLine { types := declaredIn before } (Text.trim cs)

/-- A line is stored in a family of a text: it is among the lines that the family is made up of. -/
def StoredIn (css : List (List Char)) (l : Line) (f : Family) : Prop :=
  f.name = l.family ∧ ∃ own, MadeOf css own f ∧ l ∈ own

theorem commentSentence_ne_value (cs text : List Char) :
    commentSentence cs ≠ .ok (.value text) := by
  intro h
  unfold commentSentence at h
  dsimp only at h
  split at h
  · obtain ⟨_, -, h⟩ := bind_eq_ok h
    cases h
  split at h
  · obtain ⟨_, -, h⟩ := bind_eq_ok h
    split at h <;> cases h
  · cases h

/-- A line that gives a value is read as it stands, but for the blanks at its ends. -/
theorem eq_trim_of_sentence {cs text : List Char} (h : sentence cs = .ok (.value text)) :
    text = Text.trim cs := by
  unfold sentence at h
  dsimp only at h
  split at h
  · cases h
  split at h
  · exact absurd h (commentSentence_ne_value _ _)
  · cases h
    rfl

theorem sentence_of_series? {cs : List Char} {series : String} (h : series? cs = some series) :
    sentence cs = .ok (.value (Text.trim cs)) ∧ series = String.ofList (seriesIn (Text.trim cs)) := by
  unfold series? at h
  split at h
  · rename_i text hsaid
    obtain rfl := eq_trim_of_sentence hsaid
    exact ⟨hsaid, (Option.some.inj h).symm⟩
  · cases h

theorem declaration?_of_series? {cs : List Char} {series : String} (h : series? cs = some series) :
    declaration? cs = none := by
  rw [declaration?, (sentence_of_series? h).1]

theorem goesTo_of_lineAfter {before : List (List Char)} {cs : List Char} {l : Line} {series : String}
    (hseries : series? cs = some series) (hl : lineAfter before cs = .ok l) :
    GoesTo (declaredIn before) series l.family := by
  obtain ⟨-, labels, rest, -, hresolve⟩ := exists_series_of_parseLine hl
  rw [(sentence_of_series? hseries).2]
  exact goesTo_of_resolve hresolve

/-- Lines are read one part after the other, the second with the kinds declared in the first. -/
theorem exists_of_valueLines_append {types : Dictionary Kind} {front back : List (List Char)}
    {lines : List Line} (h : valueLines types (front ++ back) = .ok lines) :
    ∃ ls ls', valueLines types front = .ok ls ∧
      valueLines (types.insertAll (front.filterMap declaration?)) back = .ok ls' ∧
      lines = ls ++ ls' := by
  induction front generalizing types lines with
  | nil => exact ⟨[], lines, rfl, h, rfl⟩
  | cons cs front ih =>
    rw [List.cons_append, valueLines] at h
    obtain ⟨said, hsaid, h⟩ := bind_eq_ok h
    simp only [valueLines, List.filterMap_cons, declaration?, hsaid]
    cases said with
    | nothing | help | declaration => exact ih h
    | value text =>
      obtain ⟨l, hl, h⟩ := bind_eq_ok h
      obtain ⟨more, hmore, h⟩ := bind_eq_ok h
      cases h
      obtain ⟨ls, ls', hls, hls', rfl⟩ := ih hmore
      refine ⟨l :: ls, ls', ?_, hls', rfl⟩
      simp only [bind, Except.bind, hl, hls]
      rfl

/-- A value line stands in the text, and is read behind the lines in front of it. -/
theorem exists_of_mem_valueLines {types : Dictionary Kind} {css : List (List Char)}
    {lines : List Line} (h : valueLines types css = .ok lines) {l : Line} (hl : l ∈ lines) :
    ∃ before cs after series, css = before ++ cs :: after ∧ series? cs = some series ∧
      Scrape.parseLine { types := types.insertAll (before.filterMap declaration?) } (Text.trim cs) =
        .ok l := by
  induction css generalizing types lines with
  | nil =>
    cases h
    cases hl
  | cons cs css ih =>
    rw [valueLines] at h
    obtain ⟨said, hsaid, h⟩ := bind_eq_ok h
    cases said with
    | nothing | help =>
      have hnone : declaration? cs = none := by rw [declaration?, hsaid]
      obtain ⟨before, cs', after, series, rfl, hseries, hread⟩ := ih h hl
      exact ⟨cs :: before, cs', after, series, rfl, hseries, by rwa [List.filterMap_cons, hnone]⟩
    | declaration name kind =>
      have hdeclared : declaration? cs = some (name, kind) := by rw [declaration?, hsaid]
      obtain ⟨before, cs', after, series, rfl, hseries, hread⟩ := ih h hl
      exact ⟨cs :: before, cs', after, series, rfl, hseries, by rwa [List.filterMap_cons, hdeclared]⟩
    | value text =>
      have hseries : series? cs = some (String.ofList (seriesIn text)) := by rw [series?, hsaid]
      have hnone := declaration?_of_series? hseries
      obtain rfl := eq_trim_of_sentence hsaid
      obtain ⟨l₀, hl₀, h⟩ := bind_eq_ok h
      obtain ⟨more, hmore, h⟩ := bind_eq_ok h
      cases h
      rcases List.mem_cons.mp hl with rfl | hl
      · exact ⟨[], cs, css, _, rfl, hseries, hl₀⟩
      · obtain ⟨before, cs', after, series, rfl, hseries, hread⟩ := ih hmore hl
        exact ⟨cs :: before, cs', after, series, rfl, hseries, by rwa [List.filterMap_cons, hnone]⟩

/-- A line that gives a value of a series is among the value lines. -/
theorem exists_mem_valueLines {before after : List (List Char)} {cs : List Char} {series : String}
    {lines : List Line} (hseries : series? cs = some series)
    (h : valueLines ∅ (before ++ cs :: after) = .ok lines) :
    ∃ l ∈ lines, lineAfter before cs = .ok l := by
  obtain ⟨ls, ls', -, hback, rfl⟩ := exists_of_valueLines_append h
  rw [valueLines, (sentence_of_series? hseries).1] at hback
  obtain ⟨said, hsaid, hback⟩ := bind_eq_ok hback
  cases hsaid
  obtain ⟨l, hl, hback⟩ := bind_eq_ok hback
  obtain ⟨more, -, hback⟩ := bind_eq_ok hback
  cases hback
  exact ⟨l, by simp, hl⟩

/-! ## Where lines are stored -/

variable {text : String} {fs : List Family} {before between after : List (List Char)}

/-- **Every value line of a text is stored** in one of its families. -/
theorem exists_stored (h : parse text = .ok fs) {cs : List Char} {series : String}
    (hsplit : Text.lines text.toList = before ++ cs :: after) (hseries : series? cs = some series) :
    ∃ l, lineAfter before cs = .ok l ∧ ∃ f ∈ fs, StoredIn (Text.lines text.toList) l f := by
  obtain ⟨s, lines, rfl, hlines, hgathered, hmade⟩ := gathered_of_parse h
  rw [hsplit] at hlines
  obtain ⟨l, hl, hread⟩ := exists_mem_valueLines hseries hlines
  have hfamily : l.family ∈ s.finish.map Family.name := by
    rw [map_name_finish, hgathered.names, List.mem_eraseDups]
    exact List.mem_map_of_mem hl
  obtain ⟨f, hf, hname⟩ := List.mem_map.mp hfamily
  refine ⟨l, hread, f, hf, hname, _, hmade f hf, ?_⟩
  exact List.mem_filter.mpr ⟨hl, by simp [hname]⟩

/-! ## What can be declared later -/

theorem exists_of_readLines_append {s u : Scrape} {number : Nat} {front back : List (List Char)}
    (h : s.readLines number (front ++ back) = .ok u) :
    ∃ t number', s.readLines number front = .ok t ∧ t.readLines number' back = .ok u := by
  rw [readLines_append] at h
  obtain ⟨t, ht, hback⟩ := bind_eq_ok h
  exact ⟨t, _, ht, hback⟩

/-- Nothing is declared for a family that has a line, and nothing is declared twice. -/
theorem Gathered.declares_new {s u : Scrape} {lines : List Line} (h : Gathered s lines)
    {number : Nat} {css : List (List Char)} (hread : s.readLines number css = .ok u) :
    (∀ d ∈ css.filterMap declaration?, d.1 ∉ lines.map Line.family ∧ s.types.get? d.1 = none) ∧
      ((css.filterMap declaration?).map Prod.fst).Nodup := by
  induction css generalizing s lines number with
  | nil => simp
  | cons cs css ih =>
    rw [Scrape.readLines] at hread
    cases hline : s.line cs with
    | error e =>
      rw [hline] at hread
      cases hread
    | ok t =>
      rw [hline] at hread
      rw [line_eq] at hline
      obtain ⟨said, hsaid, htake⟩ := bind_eq_ok hline
      simp only [List.filterMap_cons, declaration?, hsaid]
      cases said with
      | nothing =>
        cases htake
        exact ih h hread
      | help name text =>
        cases htake
        have hrest := ih (h.help (s.help.insert name text)) hread
        exact hrest
      | declaration name kind =>
        rw [Scrape.take] at htake
        split at htake
        · cases htake
        · rename_i hnew
          rw [h.contains_positions] at hnew
          split at htake
          · cases htake
          · rename_i hnone
            cases htake
            obtain ⟨hrest, hnodup⟩ := ih (h.declare hnew kind) hread
            have hname : s.types.get? name = none := by simpa [Dictionary.contains] using hnone
            -- what is declared later has another name
            have hlater : ∀ d ∈ css.filterMap declaration?, d.1 ≠ name ∧ s.types.get? d.1 = none := by
              intro d hd
              have hget := (hrest d hd).2
              rw [get?_insert] at hget
              split at hget
              · cases hget
              · rename_i hne
                exact ⟨hne, hget⟩
            refine ⟨List.forall_mem_cons.mpr ⟨⟨hnew, hname⟩, fun d hd => ?_⟩, ?_⟩
            · exact ⟨(hrest d hd).1, (hlater d hd).2⟩
            · rw [List.map_cons, List.nodup_cons]
              refine ⟨fun hmem => ?_, hnodup⟩
              obtain ⟨d, hd, hname⟩ := List.mem_map.mp hmem
              exact (hlater d hd).1 hname
      | value text =>
        obtain ⟨l, hparse, hrecord⟩ := bind_eq_ok htake
        have hbelongs := belongs_of_parseLine hparse
        have hstored := h.consistent.record hbelongs hrecord
        obtain ⟨hrest, hnodup⟩ := ih (h.record hbelongs hrecord) hread
        refine ⟨fun d hd => ⟨fun hmem => (hrest d hd).1 ?_, ?_⟩, hnodup⟩
        · simp [hmem]
        · rw [← hstored.types]
          exact (hrest d hd).2

/-- Behind a value line of a text, nothing is declared for its family, nor for a name for which a
kind was declared in front of it, and nothing twice. -/
theorem declares_new_behind (h : parse text = .ok fs) {cs : List Char} {series : String}
    (hsplit : Text.lines text.toList = before ++ cs :: after) (hseries : series? cs = some series)
    {l : Line} (hl : lineAfter before cs = .ok l) :
    (∀ d ∈ after.filterMap declaration?, d.1 ≠ l.family ∧ (declaredIn before).get? d.1 = none) ∧
      ((after.filterMap declaration?).map Prod.fst).Nodup := by
  obtain ⟨u, hread, -⟩ := exists_readLines_of_parse h
  have hfront : before ++ cs :: after = (before ++ [cs]) ++ after := by simp
  rw [hsplit, hfront] at hread
  obtain ⟨t, number, hread, hrest⟩ := exists_of_readLines_append hread
  obtain ⟨lines, hlines, hgathered, htypes, -⟩ := Gathered.nothing.readLines hread
  rw [List.nil_append] at hgathered
  obtain ⟨l', hmem, hl'⟩ := exists_mem_valueLines hseries hlines
  obtain rfl : l' = l := Except.ok.inj (hl'.symm.trans hl)
  have hdeclared : t.types = declaredIn before := by
    rw [htypes, List.filterMap_append, declaredIn]
    simp [declaration?_of_series? hseries]
  obtain ⟨hnew, hnodup⟩ := hgathered.declares_new hrest
  refine ⟨fun d hd => ⟨fun heq => (hnew d hd).1 ?_, hdeclared ▸ (hnew d hd).2⟩, hnodup⟩
  rw [heq]
  exact List.mem_map_of_mem hmem

/-! ## Declarations that lead a series elsewhere -/

/-- A declaration behind some others that leads a series elsewhere: it makes the series that of the
quantiles of a summary, or that of an ending of the declared family. -/
def Redirects (types : Dictionary Kind) (series : String) (d : String × Kind) : Prop :=
  d = (series, .summary) ∨
    types.get? series ≠ some .summary ∧ ∃ e ∈ Scrape.suffixes, series = d.1 ++ e.1 ∧ d.2 ∈ e.2

section Later

variable {types : Dictionary Kind} {later : List (String × Kind)} {series family family' : String}

/-- What a look-up finds once new names have been declared. -/
theorem get?_insertAll_new (hnew : ∀ d ∈ later, types.get? d.1 = none)
    (hnodup : (later.map Prod.fst).Nodup) {name : String} {kind : Kind} :
    (types.insertAll later).get? name = some kind ↔
      (name, kind) ∈ later ∨ types.get? name = some kind := by
  rw [get?_insertAll hnodup, mem_iff_lookup hnodup]
  cases hlookup : later.lookup name with
  | none => simp
  | some kind' =>
    have hnone := hnew _ ((mem_iff_lookup hnodup (name, kind')).mpr hlookup)
    simp [hnone]

/-- New declarations that do not redirect a series leave it where it is. -/
theorem leadsTo_insertAll (hnew : ∀ d ∈ later, types.get? d.1 = none)
    (hnodup : (later.map Prod.fst).Nodup) (hno : ∀ d ∈ later, ¬ Redirects types series d)
    (base : String) : LeadsTo (types.insertAll later) series base ↔ LeadsTo types series base := by
  have hget := @get?_insertAll_new types later hnew hnodup
  have hown : (series, Kind.summary) ∉ later := fun hmem => hno _ hmem (.inl rfl)
  constructor
  · rintro ⟨hfree, e, he, heq, kind, hkind, hdeclared⟩
    rw [ne_eq, hget, not_or] at hfree
    refine ⟨hfree.2, e, he, heq, kind, hkind, ?_⟩
    rcases hget.mp hdeclared with hmem | hbefore
    · exact absurd (.inr ⟨hfree.2, e, he, heq, hkind⟩) (hno _ hmem)
    · exact hbefore
  · rintro ⟨hfree, e, he, heq, kind, hkind, hdeclared⟩
    refine ⟨?_, e, he, heq, kind, hkind, hget.mpr (.inr hdeclared)⟩
    rw [ne_eq, hget, not_or]
    exact ⟨hown, hfree⟩

/-- **A series changes its family just if a declaration redirects it**, given that nothing is
declared for the family that it had. -/
theorem goesTo_insertAll (hnew : ∀ d ∈ later, d.1 ≠ family ∧ types.get? d.1 = none)
    (hnodup : (later.map Prod.fst).Nodup) (h : GoesTo types series family)
    (h' : GoesTo (types.insertAll later) series family') :
    family = family' ↔ ∀ d ∈ later, ¬ Redirects types series d := by
  have hget := @get?_insertAll_new types later (fun d hd => (hnew d hd).2) hnodup
  constructor
  · rintro rfl d hd hredirects
    by_cases hsummary : (types.insertAll later).get? series = some .summary
    · -- the series has become that of the quantiles of a summary
      have hown : family = series := by
        rcases h' with hleads | ⟨heq, -⟩
        · exact absurd hsummary hleads.free
        · exact heq
      rcases hredirects with rfl | ⟨hfree, -⟩
      · exact (hnew _ hd).1 hown.symm
      · exact (hnew _ ((hget.mp hsummary).resolve_right hfree)).1 hown.symm
    · -- the series extends the name of the family that was declared
      rcases hredirects with rfl | ⟨-, e, he, heq, hkind⟩
      · exact hsummary (hget.mpr (.inl hd))
      · have hleads : LeadsTo (types.insertAll later) series d.1 :=
          ⟨hsummary, e, he, heq, d.2, hkind, hget.mpr (.inl hd)⟩
        exact (hnew d hd).1 (GoesTo.unique (.inl hleads) h')
  · intro hno
    have hleads := leadsTo_insertAll (fun d hd => (hnew d hd).2) hnodup hno
    refine h.unique ?_
    simpa only [GoesTo, hleads] using h'

end Later

/-- **When a series stays in its family**: two lines of one series are stored in the same family of a
text just if no declaration between them leads the series elsewhere. -/
theorem series_settled_iff (h : parse text = .ok fs) {cs cs' : List Char} {series : String}
    (hsplit : Text.lines text.toList = before ++ cs :: (between ++ cs' :: after))
    (hseries : series? cs = some series) (hseries' : series? cs' = some series) :
    ∃ l l' f f', lineAfter before cs = .ok l ∧ lineAfter (before ++ cs :: between) cs' = .ok l' ∧
      f ∈ fs ∧ f' ∈ fs ∧ StoredIn (Text.lines text.toList) l f ∧
      StoredIn (Text.lines text.toList) l' f' ∧
      (f = f' ↔ ∀ d ∈ between.filterMap declaration?, ¬ Redirects (declaredIn before) series d) := by
  obtain ⟨l, hl, f, hf, hstored⟩ := exists_stored h hsplit hseries
  have hsplit' : Text.lines text.toList = (before ++ cs :: between) ++ cs' :: after := by
    simp [hsplit]
  obtain ⟨l', hl', f', hf', hstored'⟩ := exists_stored h hsplit' hseries'
  refine ⟨l, l', f, f', hl, hl', hf, hf', hstored, hstored', ?_⟩
  obtain ⟨hnew, hnodup⟩ := declares_new_behind h hsplit hseries hl
  rw [List.filterMap_append] at hnew hnodup
  rw [List.map_append] at hnodup
  have hgoes' := goesTo_of_lineAfter hseries' hl'
  have hdeclared : declaredIn (before ++ cs :: between) =
      (declaredIn before).insertAll (between.filterMap declaration?) := by
    rw [declaredIn, List.filterMap_append, List.filterMap_cons, declaration?_of_series? hseries,
      insertAll_append]
    rfl
  rw [hdeclared] at hgoes'
  rw [← goesTo_insertAll (fun d hd => hnew d (List.mem_append_left _ hd)) hnodup.of_append_left
    (goesTo_of_lineAfter hseries hl) hgoes', ← hstored.1, ← hstored'.1]
  refine ⟨congrArg _, fun hname => ?_⟩
  exact List.inj_on_of_nodup_map (sound_of_parse h).distinct hf hf' hname

/-- A sum in front of the kind of its summary, and one behind it. -/
def lateKindText : String :=
  "s_sum 1\n# TYPE s summary\ns_sum 2\n"

theorem series_settled_iff_lateKind :
    ∃ fs, parse lateKindText = .ok fs ∧
      Text.lines lateKindText.toList =
        [] ++ "s_sum 1".toList :: (["# TYPE s summary".toList] ++ "s_sum 2".toList :: [[]]) ∧
      series? "s_sum 1".toList = some "s_sum" ∧ series? "s_sum 2".toList = some "s_sum" ∧
      ∃ l l' f f', lineAfter [] "s_sum 1".toList = .ok l ∧
        lineAfter ([] ++ "s_sum 1".toList :: ["# TYPE s summary".toList]) "s_sum 2".toList = .ok l' ∧
        f ∈ fs ∧ f' ∈ fs ∧ StoredIn (Text.lines lateKindText.toList) l f ∧
        StoredIn (Text.lines lateKindText.toList) l' f' ∧
        (f = f' ↔ ∀ d ∈ ["# TYPE s summary".toList].filterMap declaration?,
          ¬ Redirects (declaredIn []) "s_sum" d) :=
  have hparse : parse lateKindText = .ok
      [{ name := "s_sum", samples := [.plain { value := "1" }] },
        { name := "s", kind := .summary, samples := [.summary { sum := "2" }] }] := by decide +kernel
  have hsplit : Text.lines lateKindText.toList =
      [] ++ "s_sum 1".toList :: (["# TYPE s summary".toList] ++ "s_sum 2".toList :: [[]]) := by
    decide +kernel
  have hseries : series? "s_sum 1".toList = some "s_sum" := by decide +kernel
  have hseries' : series? "s_sum 2".toList = some "s_sum" := by decide +kernel
  ⟨_, hparse, hsplit, hseries, hseries', series_settled_iff hparse hsplit hseries hseries'⟩

/-- The two lines of the series are stored in different families. -/
theorem lateKind_splits_series :
    parse lateKindText = .ok
      [{ name := "s_sum", samples := [.plain { value := "1" }] },
        { name := "s", kind := .summary, samples := [.summary { sum := "2" }] }] ∧
    Text.lines lateKindText.toList =
      ["s_sum 1".toList, "# TYPE s summary".toList, "s_sum 2".toList, []] ∧
    series? "s_sum 1".toList = some "s_sum" ∧ series? "s_sum 2".toList = some "s_sum" ∧
    (lineAfter [] "s_sum 1".toList).map Line.family = .ok "s_sum" ∧
    (lineAfter ["s_sum 1".toList, "# TYPE s summary".toList] "s_sum 2".toList).map Line.family =
      .ok "s" := by
  decide +kernel

/-! ## Families that are left without lines -/

/-- A family has the kind that is declared for it anywhere in the text. -/
theorem kind_of_declared (h : parse text = .ok fs) {f : Family} (hf : f ∈ fs) {kind : Kind}
    (hdeclared : (f.name, kind) ∈ (Text.lines text.toList).filterMap declaration?) :
    f.kind = kind := by
  obtain ⟨s, hread, rfl⟩ := exists_readLines_of_parse h
  obtain ⟨-, hnodup⟩ := Gathered.nothing.declares_new hread
  obtain ⟨lines, -, hgathered, htypes, -⟩ := Gathered.nothing.readLines hread
  obtain ⟨g, hg, rfl⟩ := List.mem_map.mp hf
  have hget : s.types.get? g.name = some kind := by
    rw [htypes, get?_insertAll hnodup, (mem_iff_lookup hnodup (g.name, kind)).mp hdeclared]
    rfl
  show g.kind = kind
  rw [hgathered.consistent.kinds g hg, Scrape.kindOf, Scrape.declared?, hget]
  rfl

/-- **When a declared family is kept**: it is there just if a line of its own series stands where that
is not one of another family, or a line of another series stands where that is one of its own. -/
theorem declared_kept_iff (h : parse text = .ok fs) {name : String} {kind : Kind}
    (hdeclared : (name, kind) ∈ (Text.lines text.toList).filterMap declaration?) :
    (∃ f ∈ fs, f.name = name ∧ f.kind = kind) ↔
      ∃ before cs after, Text.lines text.toList = before ++ cs :: after ∧
        ∃ series, series? cs = some series ∧
          (series = name ∧ (∀ base, ¬ LeadsTo (declaredIn before) name base) ∨
            LeadsTo (declaredIn before) series name) := by
  constructor
  · rintro ⟨f, hf, rfl, -⟩
    obtain ⟨s, lines, rfl, hlines, hgathered, -⟩ := gathered_of_parse h
    have hname : f.name ∈ lines.map Line.family := by
      rw [← List.mem_eraseDups, ← hgathered.names, ← map_name_finish]
      exact List.mem_map_of_mem hf
    obtain ⟨l, hl, hfamily⟩ := List.mem_map.mp hname
    obtain ⟨before, cs, after, series, hsplit, hseries, hread⟩ := exists_of_mem_valueLines hlines hl
    refine ⟨before, cs, after, hsplit, series, hseries, ?_⟩
    rw [← hfamily]
    rcases goesTo_of_lineAfter hseries hread with hleads | ⟨heq, hno⟩
    · exact .inr hleads
    · exact .inl ⟨heq.symm, heq ▸ hno⟩
  · rintro ⟨before, cs, after, hsplit, series, hseries, hgoes⟩
    obtain ⟨l, hl, f, hf, hstored⟩ := exists_stored h hsplit hseries
    have hname : f.name = name := by
      rw [hstored.1]
      refine (goesTo_of_lineAfter hseries hl).unique ?_
      rcases hgoes with ⟨rfl, hno⟩ | hleads
      · exact .inr ⟨rfl, hno⟩
      · exact .inl hleads
    subst hname
    exact ⟨f, hf, rfl, kind_of_declared h hf hdeclared⟩

/-- A summary, and a gauge that is named like the series of its sums. -/
def namesakeText : String :=
  "# TYPE s summary\n# TYPE s_sum gauge\ns_sum 1\n"

theorem declared_kept_iff_namesake :
    ∃ fs, parse namesakeText = .ok fs ∧
      ("s", Kind.summary) ∈ (Text.lines namesakeText.toList).filterMap declaration? ∧
      ((∃ f ∈ fs, f.name = "s" ∧ f.kind = .summary) ↔
        ∃ before cs after, Text.lines namesakeText.toList = before ++ cs :: after ∧
          ∃ series, series? cs = some series ∧
            (series = "s" ∧ (∀ base, ¬ LeadsTo (declaredIn before) "s" base) ∨
              LeadsTo (declaredIn before) series "s")) :=
  have hparse : parse namesakeText = .ok
      [{ name := "s", kind := .summary, samples := [.summary { sum := "1" }] }] := by decide +kernel
  have hdeclared : ("s", Kind.summary) ∈
      (Text.lines namesakeText.toList).filterMap declaration? := by decide +kernel
  ⟨_, hparse, hdeclared, declared_kept_iff hparse hdeclared⟩

/-- The gauge has a line of its series and is not there. -/
theorem namesake_dropped :
    parse namesakeText = .ok
      [{ name := "s", kind := .summary, samples := [.summary { sum := "1" }] }] ∧
    ("s_sum", Kind.gauge) ∈ (Text.lines namesakeText.toList).filterMap declaration? ∧
    "s_sum" ∈ (Text.lines namesakeText.toList).filterMap series? := by
  decide +kernel

end Exposition

end Assay
