import Assay.Proofs.Exposition.Family

/-!
# What a scrape holds

`Holds` says what a scrape has stored once it has read some families. Of the family that is being
read, a line is stored with the sample that it belongs to, and the name of its series leads to that
family and no other.
-/

namespace Assay

open Assay.Metric

namespace Exposition

variable {s s' : Scrape}

/-! ## What a scrape holds -/

/-- A family without its help text, which is added in the end. -/
def bare (f : Family) : Family :=
  { f with help := "" }

/-- **A scrape holds families** if they are what it has stored and everything else that it keeps
is about them: where each family stands, its declared kind and help text, and where each folded
sample stands in it. -/
structure Holds (s : Scrape) (F : List Family) : Prop where
  families : s.families = F.map bare
  positions : ∀ name, s.positions.get? name = F.findIdx? fun f => f.name = name
  types : ∀ name, s.types.get? name = (F.find? fun f => f.name = name).map Family.kind
  help : ∀ name, (s.help.get? name).getD "" =
    ((F.find? fun f => f.name = name).map Family.help).getD ""
  series : ∀ i labels, s.series.lookup (i, labels) = F[i]?.bind fun f =>
    if isFolded f.kind then (f.samples.map Sample.labels).findIdx? fun m => m = labels else none

theorem holds_nil : Holds {} [] where
  families := rfl
  positions _ := rfl
  types _ := rfl
  help _ := rfl
  series _ _ := rfl

theorem find?_name {F : List Family} (hnames : (F.map Family.name).Nodup) {f : Family}
    (hf : f ∈ F) : (F.find? fun g => g.name = f.name) = some f := by
  induction F with
  | nil => simp at hf
  | cons g F ih =>
    rw [List.map_cons, List.nodup_cons] at hnames
    rw [List.find?_cons]
    rcases List.mem_cons.mp hf with rfl | hf
    · simp
    · have hne : g.name ≠ f.name := fun heq => hnames.1 (heq ▸ List.mem_map_of_mem hf)
      simpa [hne] using ih hnames.2 hf

/-- In the end every family gets its help text back. -/
theorem Holds.finish {F : List Family} (h : Holds s F) (hnames : (F.map Family.name).Nodup) :
    s.finish = F := by
  rw [Scrape.finish, h.families, List.map_map]
  conv_rhs => rw [← List.map_id F]
  refine List.map_congr_left fun f hf => ?_
  have hhelp := h.help f.name
  rw [find?_name hnames hf] at hhelp
  simp only [Function.comp, bare, Option.map_some, Option.getD_some, id] at hhelp ⊢
  rw [hhelp]

variable {F : List Family} {f : Family} {ms : List Sample}

/-! ## The family that is being read -/

/-- Families that are read, and one of which some samples are. -/
def reading (F : List Family) (f : Family) (ms : List Sample) : List Family :=
  F ++ [{ f with samples := ms }]

theorem find?_new (hnew : ∀ g ∈ F, g.name ≠ f.name) :
    (F.find? fun g => g.name = f.name) = none := by
  simpa [List.find?_eq_none] using hnew

theorem findIdx?_new (hnew : ∀ g ∈ F, g.name ≠ f.name) :
    (F.findIdx? fun g => g.name = f.name) = none := by
  simpa [List.findIdx?_eq_none_iff] using hnew

theorem find?_reading (p : String → Bool) :
    ((reading F f ms).find? fun g => p g.name) =
      (F.find? fun g => p g.name).or (if p f.name then some { f with samples := ms } else none) := by
  rw [reading, List.find?_append, List.find?_singleton]

theorem findIdx?_reading (p : String → Bool) :
    ((reading F f ms).findIdx? fun g => p g.name) =
      (F.findIdx? fun g => p g.name).or (if p f.name then some F.length else none) := by
  rw [reading, List.findIdx?_append]
  simp [List.findIdx?_cons]

theorem getElem?_reading_length : (reading F f ms)[F.length]? = some { f with samples := ms } := by
  simp [reading]

theorem getElem?_reading_ne {i : Nat} (h : i ≠ F.length) : (reading F f ms)[i]? = F[i]? := by
  rcases Nat.lt_or_gt_of_ne h with hlt | hgt
  · exact List.getElem?_append_left hlt
  · have hlen : (reading F f ms).length ≤ i := by
      simp only [reading, List.length_append, List.length_singleton]
      omega
    rw [List.getElem?_eq_none hlen, List.getElem?_eq_none (Nat.le_of_lt hgt)]

theorem modify_concat {α : Type} (as : List α) (a : α) (φ : α → α) :
    (as ++ [a]).modify as.length φ = as ++ [φ a] := by
  induction as with
  | nil => rfl
  | cons b as ih => simp [ih]

theorem findIdx?_labels_eq_none {labels : Labels} (h : labels ∉ ms.map Sample.labels) :
    ((ms.map Sample.labels).findIdx? fun m => m = labels) = none := by
  rw [List.findIdx?_eq_none_iff]
  rintro m hm
  have hne : m ≠ labels := fun heq => h (heq ▸ hm)
  simpa using hne

namespace Holds

theorem families_reading (h : Holds s (reading F f ms)) :
    s.families = F.map bare ++ [bare { f with samples := ms }] := by
  rw [h.families, reading, List.map_append, List.map_singleton]

/-- The samples of the family that is being read change. -/
theorem modifySamples (h : Holds s (reading F f ms)) (φ : List Sample → List Sample) :
    (s.modifySamples F.length φ).families =
      F.map bare ++ [bare { f with samples := φ ms }] := by
  have hlen : F.length = (F.map bare).length := by simp
  rw [Scrape.modifySamples, h.families_reading, hlen, modify_concat]
  rfl

theorem samplesAt (h : Holds s (reading F f ms)) : s.samplesAt F.length = ms := by
  have hget : s.families[F.length]? = some (bare { f with samples := ms }) := by
    rw [h.families_reading]
    simp
  simp [Scrape.samplesAt, hget, bare]

/-- Nothing but the samples of the family that is being read changes. -/
theorem of_samples (h : Holds s (reading F f ms)) {ms' : List Sample}
    (hfamilies : s'.families = F.map bare ++ [bare { f with samples := ms' }])
    (hpositions : s'.positions = s.positions) (htypes : s'.types = s.types)
    (hhelp : s'.help = s.help)
    (hothers : ∀ i labels, i ≠ F.length →
      s'.series.lookup (i, labels) = s.series.lookup (i, labels))
    (hown : ∀ labels, s'.series.lookup (F.length, labels) =
      if isFolded f.kind then (ms'.map Sample.labels).findIdx? fun m => m = labels else none) :
    Holds s' (reading F f ms') where
  families := by rw [hfamilies, reading, List.map_append, List.map_singleton]
  positions name := by
    rw [hpositions, h.positions, findIdx?_reading (· = name), findIdx?_reading (· = name)]
  types name := by
    rw [htypes, h.types, find?_reading (· = name), find?_reading (· = name)]
    cases F.find? fun g => g.name = name <;> by_cases hname : f.name = name <;> simp [hname]
  help name := by
    rw [hhelp, h.help, find?_reading (· = name), find?_reading (· = name)]
    cases F.find? fun g => g.name = name <;> by_cases hname : f.name = name <;> simp [hname]
  series i labels := by
    by_cases hi : i = F.length
    · rw [hi, hown, getElem?_reading_length]
      rfl
    · rw [hothers i labels hi, h.series, getElem?_reading_ne hi, getElem?_reading_ne hi]

theorem own_series (h : Holds s (reading F f ms)) (labels : Labels) :
    s.series.lookup (F.length, labels) =
      if isFolded f.kind then (ms.map Sample.labels).findIdx? fun m => m = labels else none := by
  rw [h.series, getElem?_reading_length]
  rfl

variable (hnew : ∀ g ∈ F, g.name ≠ f.name)

include hnew

theorem locate (h : Holds s (reading F f ms)) : s.locate f.name = (s, F.length) := by
  have hposition : s.positions.get? f.name = some F.length := by
    rw [h.positions, findIdx?_reading (· = f.name), findIdx?_new hnew]
    simp
  rw [Scrape.locate, hposition]

theorem declared (h : Holds s (reading F f ms)) : s.declared? f.name = some f.kind := by
  rw [Scrape.declared?, h.types, find?_reading (· = f.name), find?_new hnew]
  simp

/-- A sample with one value is stored behind the samples before it. -/
theorem record_plain (h : Holds s (reading F f ms)) (hplain : isFolded f.kind = false)
    {l : Line} (hfamily : l.family = f.name) (hpart : l.part = .plain) :
    ∃ s', s.record l = .ok s' ∧
      Holds s' (reading F f (ms ++ [.plain ⟨l.labels, l.timestamp, l.value⟩])) := by
  have hrecord : s.record l = .ok (s.modifySamples F.length
      (· ++ [.plain ⟨l.labels, l.timestamp, l.value⟩])) := by
    rw [Scrape.record, hfamily, h.locate hnew]
    simp only [hpart, if_true]
  refine ⟨_, hrecord, ?_⟩
  refine h.of_samples (h.modifySamples _) rfl rfl rfl (fun _ _ _ => rfl) fun labels => ?_
  have hown := h.own_series labels
  simp only [hplain, Bool.false_eq_true, if_false] at hown ⊢
  exact hown

omit hnew in
/-- The slot of a folded sample that is not there yet. -/
theorem slot_eq (h : Holds s (reading F f ms)) {labels : Labels}
    (hnone : labels ∉ ms.map Sample.labels) (kind : Kind) :
    s.slot F.length kind labels =
      ({ s.modifySamples F.length (· ++ [Scrape.blankSample kind labels]) with
        series := ((F.length, labels), ms.length) :: s.series }, ms.length) := by
  have hlookup : s.series.lookup (F.length, labels) = none := by
    rw [h.own_series, findIdx?_labels_eq_none hnone, ite_self]
  rw [Scrape.slot, hlookup, h.samplesAt]

omit hnew in
/-- A folded sample starts blank, behind the samples before it. -/
theorem slot (h : Holds s (reading F f ms)) (hfolded : isFolded f.kind = true) {labels : Labels}
    (hnone : labels ∉ ms.map Sample.labels) :
    Holds (s.slot F.length f.kind labels).1
      (reading F f (ms ++ [(Folded.blank labels).sample f.kind])) := by
  rw [h.slot_eq hnone]
  refine h.of_samples (h.modifySamples (· ++ [Scrape.blankSample f.kind labels])) rfl rfl rfl
    (fun i labels' hi => ?_) fun labels' => ?_
  · have hne : ((i, labels') == (F.length, labels)) = false := by simp [hi]
    rw [List.lookup_cons, hne]
  · have hown := h.own_series labels'
    rw [hfolded] at hown ⊢
    simp only [if_true] at hown ⊢
    rw [List.lookup_cons, hown, List.map_append, List.findIdx?_append]
    by_cases hlabels : labels' = labels
    · subst hlabels
      rw [findIdx?_labels_eq_none hnone]
      simp [List.findIdx?_cons]
    · have hne : ((F.length, labels') == (F.length, labels)) = false := by simp [hlabels]
      rw [hne]
      simp [List.findIdx?_cons, Ne.symm hlabels]

/-- A part goes into the sample that has its labels. -/
theorem record_fill {m m' : Sample} (h : Holds s (reading F f (ms ++ [m])))
    (hfolded : isFolded f.kind = true) (hnone : m.labels ∉ ms.map Sample.labels) {l : Line}
    (hfamily : l.family = f.name) (hpart : l.part ≠ .plain) (hlabels : l.labels = m.labels)
    (hfill : Scrape.fill m l = .ok m') (hkeeps : m'.labels = m.labels) :
    ∃ s', s.record l = .ok s' ∧ Holds s' (reading F f (ms ++ [m'])) := by
  have hlookup : s.series.lookup (F.length, l.labels) = some ms.length := by
    rw [h.own_series, hfolded, if_pos rfl, List.map_append, List.findIdx?_append, hlabels,
      findIdx?_labels_eq_none hnone]
    simp [List.findIdx?_cons]
  have hslot : s.slot F.length (s.kindOf l.family) l.labels = (s, ms.length) := by
    rw [Scrape.slot, hlookup]
  have hget : (s.samplesAt F.length)[ms.length]? = some m := by
    rw [h.samplesAt]
    simp
  have hrecord : s.record l = .ok (s.modifySamples F.length (·.set ms.length m')) := by
    rw [hfamily] at hslot
    rw [Scrape.record, hfamily, h.locate hnew]
    simp only [if_neg hpart, hslot, hget, hfill]
    rfl
  have hset : (ms ++ [m]).set ms.length m' = ms ++ [m'] := by simp
  refine ⟨_, hrecord, ?_⟩
  refine h.of_samples (hset ▸ h.modifySamples _) rfl rfl rfl (fun _ _ _ => rfl) fun labels => ?_
  refine (h.own_series labels).trans ?_
  simp only [List.map_append, List.map_singleton, hkeeps]

/-- The first line of a folded sample is stored as if the sample stood there blank. -/
theorem record_slot (h : Holds s (reading F f ms)) (hfolded : isFolded f.kind = true) {l : Line}
    (hfamily : l.family = f.name) (hpart : l.part ≠ .plain)
    (hnone : l.labels ∉ ms.map Sample.labels) :
    s.record l = (s.slot F.length f.kind l.labels).1.record l := by
  have hkind : s.kindOf l.family = f.kind := by
    rw [Scrape.kindOf, hfamily, h.declared hnew]
    rfl
  have hnext := h.slot hfolded hnone
  have hslot := h.slot_eq hnone f.kind
  have hkind' : (s.slot F.length f.kind l.labels).1.kindOf l.family = f.kind := by
    rw [Scrape.kindOf, hfamily, hnext.declared hnew]
    rfl
  have hsame : (s.slot F.length f.kind l.labels).1.slot F.length f.kind l.labels =
      s.slot F.length f.kind l.labels := by
    have hlookup : (s.slot F.length f.kind l.labels).1.series.lookup (F.length, l.labels) =
        some ms.length := by
      rw [hslot]
      simp
    rw [Scrape.slot, hlookup, hslot]
  rw [Scrape.record, Scrape.record, hkind, hkind', hfamily, h.locate hnew, hnext.locate hnew]
  simp only [if_neg hpart, hsame]

end Holds

/-! ## Which series a line belongs to -/

theorem resolve_types (s : Scrape) (name : List Char) (labels : Labels) :
    s.resolve name labels = Scrape.resolve { types := s.types } name labels := rfl

/-- A name is that of a series of its own if it is not that of one of a declared family. -/
theorem suffixed?_eq_none {name : List Char}
    (h : ∀ e ∈ Scrape.suffixes, ∀ base kind, name = base ++ e.1.toList →
      s.declared? (String.ofList base) = some kind → kind ∉ e.2) :
    s.suffixed? name = none := by
  rw [Scrape.suffixed?, List.findSome?_eq_none_iff]
  rintro ⟨ending, kinds⟩ he
  simp only [Option.bind_eq_bind, Option.bind_eq_none_iff, List.contains_eq_mem, decide_eq_true_eq,
    ite_eq_right_iff, reduceCtorEq, imp_false]
  intro base hbase kind hkind
  exact h _ he base kind (Text.dropSuffix?_eq_some_iff.mp hbase) hkind

/-- No ending of a series name ends with another one. -/
theorem suffixes_apart : (Scrape.suffixes.map Prod.fst).Nodup ∧
    ∀ e ∈ Scrape.suffixes, ∀ e' ∈ Scrape.suffixes, e.1 ≠ e'.1 →
      ¬ e.1.toList <:+ e'.1.toList := by
  decide

theorem dropSuffix?_ending {e e' : String × List Kind} (he : e ∈ Scrape.suffixes)
    (he' : e' ∈ Scrape.suffixes) (hne : e.1 ≠ e'.1) (front : List Char) :
    Text.dropSuffix? e.1.toList (front ++ e'.1.toList) = none := by
  cases hdrop : Text.dropSuffix? e.1.toList (front ++ e'.1.toList) with
  | none => rfl
  | some base =>
    rw [Text.dropSuffix?_eq_some_iff] at hdrop
    have hends : e.1.toList <:+ front ++ e'.1.toList := ⟨base, hdrop.symm⟩
    rcases List.suffix_or_suffix_of_suffix hends (List.suffix_append front _) with h | h
    · exact absurd h (suffixes_apart.2 e he e' he' hne)
    · exact absurd h (suffixes_apart.2 e' he' e he (Ne.symm hne))

/-- The series of a declared family lead to it. -/
theorem suffixed?_append {e : String × List Kind} (he : e ∈ Scrape.suffixes) {name : String}
    {kind : Kind} (hdeclared : s.declared? name = some kind) (hkind : kind ∈ e.2) :
    s.suffixed? (name.toList ++ e.1.toList) = some (name, e.1) := by
  obtain ⟨before, after, hsplit⟩ := List.append_of_mem he
  have hdistinct := suffixes_apart.1
  rw [hsplit, List.map_append, List.map_cons, List.nodup_append] at hdistinct
  rw [Scrape.suffixed?, List.findSome?_eq_some_iff]
  refine ⟨before, e, after, hsplit, ?_, fun x hx => ?_⟩
  · have hown : Text.dropSuffix? e.1.toList (name.toList ++ e.1.toList) = some name.toList :=
      Text.dropSuffix?_eq_some_iff.mpr rfl
    simp [hown, hdeclared, hkind]
  · have hmem : x ∈ Scrape.suffixes := by simp [hsplit, hx]
    have hne : x.1 ≠ e.1 := hdistinct.2.2 _ (List.mem_map_of_mem hx) _ List.mem_cons_self
    simp [dropSuffix?_ending hmem he hne]

/-- A series has an ending just if its name is that of a declared family with the ending. -/
theorem suffixed?_eq_some_iff {series : List Char} {base ending : String} :
    s.suffixed? series = some (base, ending) ↔
      ∃ e ∈ Scrape.suffixes, e.1 = ending ∧ series = base.toList ++ ending.toList ∧
        ∃ kind ∈ e.2, s.declared? base = some kind := by
  constructor
  · intro h
    obtain ⟨⟨ending', kinds⟩, hmem, hsome⟩ := List.exists_of_findSome?_eq_some h
    simp only [Option.bind_eq_bind, Option.bind_eq_some_iff] at hsome
    obtain ⟨front, hfront, kind, hdeclared, hsome⟩ := hsome
    split at hsome
    · rename_i hcontains
      cases hsome
      refine ⟨_, hmem, rfl, ?_, kind, by simpa using hcontains, hdeclared⟩
      rw [String.toList_ofList]
      exact Text.dropSuffix?_eq_some_iff.mp hfront
    · cases hsome
  · rintro ⟨e, he, rfl, rfl, kind, hkind, hdeclared⟩
    exact suffixed?_append he hdeclared hkind

theorem ofList_entries_concat (d : Dictionary String) (key value : String) :
    Dictionary.ofList (d.entries ++ [(key, value)]) = d.insert key value := by
  rw [Dictionary.ofList_eq_insertAll, Dictionary.insertAll_append, ← Dictionary.ofList_eq_insertAll,
    Dictionary.ofList_entries]
  rfl

/-- **A written line is told whose it is**, if the series of its family is no other family's and
no other family has a series of its name. -/
theorem resolve_line {l : Line} {kind : Kind} {name : String} {labels : Labels}
    (hl : LineFits kind name labels l) (hdeclared : s.declared? name = some kind)
    (hfree : ∀ e ∈ Scrape.suffixes, kind ∈ e.2 → s.declared? (name ++ e.1) = none)
    (hown : isFolded kind = false → s.suffixed? name.toList = none) :
    s.resolve l.seriesName.toList (.ofList l.writtenLabels) = .ok (l.family, l.part, l.labels) := by
  obtain ⟨rfl, _, hpart, hkey, _⟩ := hl
  obtain ⟨name, part, labels', value, timestamp⟩ := l
  have hfolded : ∀ e ∈ Scrape.suffixes, kind ∈ e.2 →
      s.declared? (String.ofList (name.toList ++ e.1.toList)) = none := by
    intro e he hkind
    rw [String.ofList_append, String.ofList_toList, String.ofList_toList]
    exact hfree e he hkind
  cases part with
  | plain =>
    have hplain : isFolded kind = false := by simpa [belongs] using hpart
    simp only [Line.seriesName, Line.writtenLabels, Dictionary.ofList_entries, Scrape.resolve,
      String.ofList_toList, hdeclared, hown hplain]
    cases kind <;> first | rfl | simp [isFolded] at hplain
  | quantile q =>
    obtain rfl : kind = .summary := by simpa [belongs] using hpart
    have hnone : labels'.get? "quantile" = none := hkey rfl
    simp only [Line.seriesName, Line.writtenLabels, ofList_entries_concat, Scrape.resolve,
      String.ofList_toList, hdeclared, Dictionary.get?_insert_self, Dictionary.erase_insert hnone]
  | bucket bound =>
    obtain rfl : kind = .histogram := by simpa [belongs] using hpart
    have hnone : labels'.get? "le" = none := hkey rfl
    have he : ("_bucket", [Kind.histogram]) ∈ Scrape.suffixes := by decide
    have hseries := suffixed?_append he hdeclared (by decide)
    have hno := hfolded _ he (by decide)
    simp only [Line.seriesName, Line.writtenLabels, String.toList_append, ofList_entries_concat,
      Scrape.resolve, hno, hseries, Dictionary.get?_insert_self, Dictionary.erase_insert hnone]
  | sum =>
    have he : ("_sum", [Kind.summary, Kind.histogram]) ∈ Scrape.suffixes := by decide
    have hkind : kind ∈ [Kind.summary, Kind.histogram] := by
      cases kind <;> simp_all [belongs, isFolded]
    have hseries := suffixed?_append he hdeclared hkind
    have hno := hfolded _ he hkind
    simp only [Line.seriesName, Line.writtenLabels, String.toList_append, Dictionary.ofList_entries,
      Scrape.resolve, hno, hseries]
  | count =>
    have he : ("_count", [Kind.summary, Kind.histogram]) ∈ Scrape.suffixes := by decide
    have hkind : kind ∈ [Kind.summary, Kind.histogram] := by
      cases kind <;> simp_all [belongs, isFolded]
    have hseries := suffixed?_append he hdeclared hkind
    have hno := hfolded _ he hkind
    simp only [Line.seriesName, Line.writtenLabels, String.toList_append, Dictionary.ofList_entries,
      Scrape.resolve, hno, hseries]
    rfl

namespace Holds

theorem exists_of_declared (h : Holds s (reading F f ms)) {name : String} {kind : Kind}
    (hdeclared : s.declared? name = some kind) :
    ∃ g ∈ F ++ [f], g.name = name ∧ g.kind = kind := by
  rw [Scrape.declared?, h.types, find?_reading (· = name)] at hdeclared
  cases hfind : F.find? fun g => g.name = name with
  | some g =>
    rw [hfind] at hdeclared
    refine ⟨g, List.mem_append_left _ (List.mem_of_find?_eq_some hfind), ?_, by simpa using hdeclared⟩
    simpa using List.find?_some hfind
  | none =>
    rw [hfind] at hdeclared
    by_cases hname : f.name = name
    · exact ⟨f, by simp, hname, by simpa [hname] using hdeclared⟩
    · simp [hname] at hdeclared

variable (hnew : ∀ g ∈ F, g.name ≠ f.name) (hapart : Apart (F ++ [f]))

include hnew hapart

theorem resolve (h : Holds s (reading F f ms)) {l : Line} {labels : Labels}
    (hl : LineFits f.kind f.name labels l) :
    s.resolve l.seriesName.toList (.ofList l.writtenLabels) = .ok (l.family, l.part, l.labels) := by
  have hf : f ∈ F ++ [f] := by simp
  refine resolve_line hl (h.declared hnew) (fun e he hkind => ?_) fun _ => ?_
  · cases hdeclared : s.declared? (f.name ++ e.1) with
    | none => rfl
    | some kind =>
      obtain ⟨g, hg, hname, _⟩ := h.exists_of_declared hdeclared
      exact absurd hname (hapart g hg f hf e he hkind)
  · refine suffixed?_eq_none fun e he base kind hname hdeclared hkind => ?_
    obtain ⟨g, hg, hbase, rfl⟩ := h.exists_of_declared hdeclared
    refine hapart f hf g hg e he hkind ?_
    rw [hbase, ← String.toList_inj, hname]
    simp

/-- A line of the family that is being read is stored. -/
theorem line (h : Holds s (reading F f ms)) {l : Line} {labels : Labels}
    (hl : LineFits f.kind f.name labels l) : s.line l.text = s.record l :=
  Line.line_text hl.writable (h.resolve hnew hapart hl)

end Holds

end Exposition

end Assay
