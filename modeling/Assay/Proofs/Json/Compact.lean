import Assay.Proofs.Json.Rereading
import Assay.Proofs.Json.Token

/-!
# Compact JSON text

The reader takes back what is written compactly, whatever follows it: lists item by item, objects
field by field, up to what numbers come to. Each value needs at most two rounds for each of its
characters, which is what the reader has.
-/

namespace Assay.Json

open Document (Node)

/-! ## The text of a value -/

theorem compactItems_eq (js : List Json) : compactItems js = js.map compact := by
  induction js with
  | nil => rfl
  | cons j js ih => rw [compactItems, ih, List.map_cons]

/-- A field as it is written. -/
def fieldText (f : String × Json) : String :=
  quoted f.1 ++ ":" ++ f.2.compact

theorem compactFields_eq (fs : List (String × Json)) : compactFields fs = fs.map fieldText := by
  induction fs with
  | nil => rfl
  | cons f fs ih =>
    rw [compactFields, ih, List.map_cons]
    rfl

/-- The texts of the items of a list, with commas between them. -/
def itemsText (js : List Json) : List Char :=
  [','].intercalate (js.map fun j => j.compact.toList)

/-- The texts of the fields of an object, with commas between them. -/
def fieldsText (fs : List (String × Json)) : List Char :=
  [','].intercalate (fs.map fun f => (fieldText f).toList)

theorem itemsText_singleton (j : Json) : itemsText [j] = j.compact.toList :=
  List.intercalate_singleton

theorem itemsText_cons (j : Json) {js : List Json} (h : js ≠ []) :
    itemsText (j :: js) = j.compact.toList ++ ',' :: itemsText js := by
  obtain ⟨j', js, rfl⟩ := List.exists_cons_of_ne_nil h
  simp [itemsText, List.intercalate_cons_cons]

theorem fieldsText_singleton (f : String × Json) : fieldsText [f] = (fieldText f).toList :=
  List.intercalate_singleton

theorem fieldsText_cons (f : String × Json) {fs : List (String × Json)} (h : fs ≠ []) :
    fieldsText (f :: fs) = (fieldText f).toList ++ ',' :: fieldsText fs := by
  obtain ⟨f', fs, rfl⟩ := List.exists_cons_of_ne_nil h
  simp [fieldsText, List.intercalate_cons_cons]

theorem toList_compact_list (js : List Json) :
    (list js).compact.toList = '[' :: (itemsText js ++ [']']) := by
  rw [compact, compactItems_eq, String.toList_append, String.toList_append,
    String.toList_intercalate, List.map_map]
  rfl

theorem toList_compact_object (fs : List (String × Json)) :
    (object fs).compact.toList = '\x7b' :: (fieldsText fs ++ ['\x7d']) := by
  rw [compact, compactFields_eq, String.toList_append, String.toList_append,
    String.toList_intercalate, List.map_map]
  rfl

theorem fieldText_append (f : String × Json) (rest : List Char) :
    (fieldText f).toList ++ rest =
      '"' :: (f.1.toList.flatMap escaped ++ '"' :: ':' :: (f.2.compact.toList ++ rest)) := by
  rw [fieldText, String.toList_append, String.toList_append, quoted_toList]
  simp

theorem length_compact_lt_fieldText (f : String × Json) :
    f.2.compact.toList.length < (fieldText f).toList.length := by
  rw [fieldText, String.toList_append, String.toList_append, quoted_toList, List.length_append,
    List.length_append, List.length_cons]
  omega

/-- A number starts like nothing else. -/
theorem NumberForm.start {cs : List Char} (h : NumberForm cs) :
    ∃ c cs', cs = c :: cs' ∧ isSpace c = false ∧ c ≠ ']' ∧ c ≠ '"' ∧ c ≠ '[' ∧ c ≠ '\x7b' := by
  obtain ⟨c, cs', rfl, hc⟩ := h.head
  refine ⟨c, cs', rfl, ?_⟩
  rcases hc with rfl | hdigit
  · decide
  · have hne : ∀ d : Char, d.isDigit = false → c ≠ d := by
      rintro d hd rfl
      simp [hdigit] at hd
    refine ⟨?_, hne _ rfl, hne _ rfl, hne _ rfl, hne _ rfl⟩
    simp [isSpace, hne ' ' rfl, hne '\n' rfl, hne '\t' rfl, hne '\r' rfl]

/-- The text of a value is not empty, and starts with neither a blank nor a closing bracket. -/
theorem compact_start : ∀ {j : Json}, j.Canonical →
    ∃ c cs, j.compact.toList = c :: cs ∧ isSpace c = false ∧ c ≠ ']'
  | .null, _ => ⟨'n', _, rfl, by decide, by decide⟩
  | .bool true, _ => ⟨'t', _, rfl, by decide, by decide⟩
  | .bool false, _ => ⟨'f', _, rfl, by decide, by decide⟩
  | .whole n, _ => by
    obtain ⟨c, cs, heq, hspace, hclose, -⟩ := (numberForm_toString n).start
    exact ⟨c, cs, heq, hspace, hclose⟩
  | .real _, ⟨negative, units, rfl⟩ => by
    obtain ⟨c, cs, heq, hspace, hclose, -⟩ := (numberForm_realText negative units).start
    exact ⟨c, cs, heq, hspace, hclose⟩
  | .text s, _ => ⟨'"', _, quoted_toList s, by decide, by decide⟩
  | .list js, _ => ⟨'[', _, toList_compact_list js, by decide, by decide⟩
  | .object fs, _ => ⟨'\x7b', _, toList_compact_object fs, by decide, by decide⟩

theorem itemsText_start {js : List Json} (hne : js ≠ []) (h : CanonicalItems js) :
    ∃ c cs, itemsText js = c :: cs ∧ isSpace c = false ∧ c ≠ ']' := by
  obtain ⟨j, js, rfl⟩ := List.exists_cons_of_ne_nil hne
  obtain ⟨c, cs, heq, hspace, hclose⟩ := compact_start h.1
  by_cases hjs : js = []
  · subst hjs
    exact ⟨c, cs, (itemsText_singleton j).trans heq, hspace, hclose⟩
  · refine ⟨c, cs ++ ',' :: itemsText js, ?_, hspace, hclose⟩
    rw [itemsText_cons j hjs, heq, List.cons_append]

theorem fieldsText_start {fs : List (String × Json)} (hne : fs ≠ []) :
    ∃ cs, fieldsText fs = '"' :: cs := by
  obtain ⟨f, fs, rfl⟩ := List.exists_cons_of_ne_nil hne
  by_cases hfs : fs = []
  · subst hfs
    exact ⟨_, by rw [fieldsText_singleton, ← List.append_nil (fieldText f).toList,
      fieldText_append]⟩
  · exact ⟨_, by rw [fieldsText_cons f hfs, fieldText_append]⟩

/-! ## Steps of the reader -/

variable {rounds depth : Nat} {c : Char} {cs rest : List Char} {n k : Node}

theorem skipSpace_cons (h : isSpace c = false) (cs : List Char) :
    skipSpace (c :: cs) = c :: cs := by
  simp [skipSpace, h]

theorem value_number {t : NumberText} (h : isSpace c = false) (hquote : c ≠ '"') (hlist : c ≠ '[')
    (hobject : c ≠ '\x7b') (hplain : plain? (c :: cs) = some (numberScalar t, rest)) :
    value (rounds + 1) depth (c :: cs) = (.scalar (numberScalar t), some rest) := by
  rw [value, skipSpace_cons h]
  split
  · rename_i heq
    exact absurd (List.cons.inj heq).1 hquote
  · rename_i heq
    exact absurd (List.cons.inj heq).1 hlist
  · rename_i heq
    exact absurd (List.cons.inj heq).1 hobject
  · rw [hplain]

theorem value_text (s : String) :
    value (rounds + 1) depth ('"' :: (s.toList.flatMap escaped ++ '"' :: rest)) =
      ((text s).node, some rest) :=
  textNode_quoted s rest

theorem value_list (h : isSpace c = false) (hclose : c ≠ ']') :
    value (rounds + 1) depth ('[' :: c :: cs) =
      (.list (listRest rounds (depth + 1) (c :: cs)).1
        { positional := true, sealed := depthLimit ≤ depth },
        (listRest rounds (depth + 1) (c :: cs)).2) := by
  simp only [value, skipSpace_cons (show isSpace '[' = false from rfl), skipSpace_cons h]
  split
  · rename_i heq
    exact absurd (List.cons.inj heq).1 hclose
  · rfl

theorem value_object :
    value (rounds + 1) depth ('\x7b' :: '"' :: cs) =
      (.table (objectRest rounds (depth + 1) ('"' :: cs)).1 { sealed := depthLimit ≤ depth },
        (objectRest rounds (depth + 1) ('"' :: cs)).2) := rfl

theorem listRest_last (h : value rounds depth cs = (n, some (']' :: rest))) :
    listRest (rounds + 1) depth cs = ([n], some rest) := by
  rw [listRest, h]
  rfl

theorem listRest_more (h : value rounds depth cs = (n, some (',' :: rest))) :
    listRest (rounds + 1) depth cs =
      (n :: (listRest rounds depth rest).1, (listRest rounds depth rest).2) := by
  rw [listRest, h]
  rfl

theorem objectRest_last (hk : textNode cs = (k, some (':' :: cs')))
    (h : value rounds depth cs' = (n, some ('\x7d' :: rest))) :
    objectRest (rounds + 1) depth ('"' :: cs) = ([(k, n)], some rest) := by
  rw [objectRest, skipSpace_cons rfl]
  simp only [hk, skipSpace_cons (show isSpace ':' = false from rfl), h,
    skipSpace_cons (show isSpace '\x7d' = false from rfl)]

theorem objectRest_more {cs' : List Char} (hk : textNode cs = (k, some (':' :: cs')))
    (h : value rounds depth cs' = (n, some (',' :: rest))) :
    objectRest (rounds + 1) depth ('"' :: cs) =
      ((k, n) :: (objectRest rounds depth rest).1, (objectRest rounds depth rest).2) := by
  rw [objectRest, skipSpace_cons rfl]
  simp only [hk, skipSpace_cons (show isSpace ':' = false from rfl), h,
    skipSpace_cons (show isSpace ',' = false from rfl)]

/-! ## Reading the text of a value -/

/-- Whether a text is read as a document at a depth, whatever may follow it. -/
def Reads (depth : Nat) (cs : List Char) (n : Node) : Prop :=
  ∀ rounds rest, 2 * cs.length ≤ rounds → EndsNumber rest →
    value rounds depth (cs ++ rest) = (n, some rest)

/-- A text that is not empty leaves a round for its own value. -/
theorem Reads.of_round (hne : cs ≠ []) (h : ∀ rounds rest, 2 * cs.length ≤ rounds + 1 →
    EndsNumber rest → value (rounds + 1) depth (cs ++ rest) = (n, some rest)) :
    Reads depth cs n := by
  intro rounds rest hrounds hrest
  have hlength : 0 < cs.length := List.length_pos_iff.mpr hne
  obtain ⟨rounds, rfl⟩ : ∃ r, rounds = r + 1 := ⟨rounds - 1, by omega⟩
  exact h rounds rest hrounds hrest

theorem plain_numberScalar (t : NumberText) : Plain (numberScalar t) := by
  unfold numberScalar
  split
  · exact .inr ⟨_, rfl⟩
  · exact .inr ⟨_, rfl⟩
  · exact .inl rfl

theorem exists_reads_number (h : NumberForm cs) :
    ∃ s, Plain s ∧ Reads depth cs (.scalar s) := by
  obtain ⟨t, ht⟩ := plain?_append h
  obtain ⟨c, cs, rfl, hspace, -, hquote, hlist, hobject⟩ := h.start
  exact ⟨numberScalar t, plain_numberScalar t, .of_round (List.cons_ne_nil _ _)
    fun rounds rest _ hrest => value_number hspace hquote hlist hobject (ht rest hrest)⟩

theorem endsNumber_separator {c : Char} (h : c = ',' ∨ c = ']' ∨ c = '\x7d') (rest : List Char) :
    EndsNumber (c :: rest) := by
  rintro d ⟨⟩
  rcases h with rfl | rfl | rfl <;> decide

mutual

/-- **A written value is read again**, up to its numbers. -/
theorem exists_reads : ∀ (j : Json), j.Canonical → ∀ depth, ∃ n, RereadAs depth j n ∧
    Reads depth j.compact.toList n
  | .null, _, _ => ⟨_, rfl, .of_round (by decide) fun _ _ _ _ => rfl⟩
  | .bool true, _, _ => ⟨_, rfl, .of_round (by decide) fun _ _ _ _ => rfl⟩
  | .bool false, _, _ => ⟨_, rfl, .of_round (by decide) fun _ _ _ _ => rfl⟩
  | .whole n, _, _ => by
    obtain ⟨s, hs, hreads⟩ := exists_reads_number (numberForm_toString n)
    exact ⟨.scalar s, ⟨s, hs, rfl⟩, hreads⟩
  | .real _, ⟨negative, units, rfl⟩, _ => by
    obtain ⟨s, hs, hreads⟩ := exists_reads_number (numberForm_realText negative units)
    exact ⟨.scalar s, ⟨s, hs, rfl⟩, hreads⟩
  | .text s, _, _ => by
    refine ⟨_, rfl, ?_⟩
    rw [compact, quoted_toList]
    refine .of_round (List.cons_ne_nil _ _) fun rounds rest _ _ => ?_
    rw [List.cons_append, List.append_assoc, List.singleton_append]
    exact value_text s
  | .list [], _, _ => ⟨_, ⟨[], rfl, rfl⟩, .of_round (by decide) fun _ _ _ _ => rfl⟩
  | .list (j :: js), h, depth => by
    obtain ⟨ns, hns, hitems⟩ := exists_listRest (j :: js) (List.cons_ne_nil _ _) h (depth + 1)
    refine ⟨_, ⟨ns, hns, rfl⟩, ?_⟩
    rw [toList_compact_list]
    refine .of_round (List.cons_ne_nil _ _) fun rounds rest hrounds _ => ?_
    rw [List.length_cons, List.length_append, List.length_singleton] at hrounds
    obtain ⟨c, cs, hstart, hspace, hclose⟩ := itemsText_start (List.cons_ne_nil j js) h
    have hread := hitems rounds rest (by omega)
    rw [List.cons_append, List.append_assoc, List.singleton_append]
    rw [hstart, List.cons_append] at hread ⊢
    rw [value_list hspace hclose, hread]
  | .object [], _, _ => ⟨_, ⟨[], rfl, rfl⟩, .of_round (by decide) fun _ _ _ _ => rfl⟩
  | .object (f :: fs), h, depth => by
    obtain ⟨es, hes, hfields⟩ := exists_objectRest (f :: fs) (List.cons_ne_nil _ _) h.2 (depth + 1)
    refine ⟨_, ⟨es, hes, rfl⟩, ?_⟩
    rw [toList_compact_object]
    refine .of_round (List.cons_ne_nil _ _) fun rounds rest hrounds _ => ?_
    rw [List.length_cons, List.length_append, List.length_singleton] at hrounds
    obtain ⟨cs, hstart⟩ := fieldsText_start (List.cons_ne_nil f fs)
    have hread := hfields rounds rest (by omega)
    rw [List.cons_append, List.append_assoc, List.singleton_append]
    rw [hstart, List.cons_append] at hread ⊢
    rw [value_object, hread]

-- One round is spent on the list and the others on the item, which its separator follows.
theorem exists_listRest : ∀ (js : List Json), js ≠ [] → CanonicalItems js → ∀ depth,
    ∃ ns, RereadItems depth js ns ∧ ∀ rounds rest, 2 * (itemsText js).length + 1 ≤ rounds →
      listRest rounds depth (itemsText js ++ ']' :: rest) = (ns, some rest)
  | j :: js, _, h, depth => by
    obtain ⟨n, hn, hreads⟩ := exists_reads j h.1 depth
    by_cases hjs : js = []
    · subst hjs
      refine ⟨[n], ⟨n, [], hn, rfl, rfl⟩, fun rounds rest hrounds => ?_⟩
      rw [itemsText_singleton] at hrounds ⊢
      obtain ⟨rounds, rfl⟩ : ∃ r, rounds = r + 1 := ⟨rounds - 1, by omega⟩
      exact listRest_last (hreads _ _ (by omega) (endsNumber_separator (.inr (.inl rfl)) _))
    · obtain ⟨ns, hns, hrest⟩ := exists_listRest js hjs h.2 depth
      refine ⟨n :: ns, ⟨n, ns, hn, hns, rfl⟩, fun rounds rest hrounds => ?_⟩
      rw [itemsText_cons j hjs, List.length_append, List.length_cons] at hrounds
      obtain ⟨rounds, rfl⟩ : ∃ r, rounds = r + 1 := ⟨rounds - 1, by omega⟩
      rw [itemsText_cons j hjs, List.append_assoc, List.cons_append,
        listRest_more (hreads _ _ (by omega) (endsNumber_separator (.inl rfl) _)),
        hrest rounds rest (by omega)]

theorem exists_objectRest : ∀ (fs : List (String × Json)), fs ≠ [] → CanonicalFields fs →
    ∀ depth, ∃ es, RereadFields depth fs es ∧ ∀ rounds rest,
      2 * (fieldsText fs).length + 1 ≤ rounds →
        objectRest rounds depth (fieldsText fs ++ '\x7d' :: rest) = (es, some rest)
  | (key, j) :: fs, _, h, depth => by
    obtain ⟨n, hn, hreads⟩ := exists_reads j h.1 depth
    have hlength : j.compact.toList.length < (fieldText (key, j)).toList.length :=
      length_compact_lt_fieldText (key, j)
    by_cases hfs : fs = []
    · subst hfs
      refine ⟨[((text key).node, n)], ⟨n, [], hn, rfl, rfl⟩, fun rounds rest hrounds => ?_⟩
      rw [fieldsText_singleton] at hrounds ⊢
      obtain ⟨rounds, rfl⟩ : ∃ r, rounds = r + 1 := ⟨rounds - 1, by omega⟩
      rw [fieldText_append]
      exact objectRest_last (textNode_quoted key _)
        (hreads _ _ (by omega) (endsNumber_separator (.inr (.inr rfl)) _))
    · obtain ⟨es, hes, hrest⟩ := exists_objectRest fs hfs h.2 depth
      refine ⟨_, ⟨n, es, hn, hes, rfl⟩, fun rounds rest hrounds => ?_⟩
      rw [fieldsText_cons _ hfs, List.length_append, List.length_cons] at hrounds
      obtain ⟨rounds, rfl⟩ : ∃ r, rounds = r + 1 := ⟨rounds - 1, by omega⟩
      rw [fieldsText_cons _ hfs, List.append_assoc, List.cons_append, fieldText_append,
        objectRest_more (textNode_quoted key _)
          (hreads rounds _ (by omega) (endsNumber_separator (.inl rfl) _)),
        hrest rounds rest (by omega)]

end

/-- **The text of a value that it holds is read as the document of that value.** -/
theorem source_compact {j : Json} (hcanonical : j.Canonical) (h : ofText j.compact = .ok j) :
    source j.compact.toList = ⟨j.node, true⟩ := by
  obtain ⟨n, hn, hreads⟩ := exists_reads j hcanonical 0
  have hvalue := hreads (2 * j.compact.toList.length + 2) [] (by omega) (by rintro c ⟨⟩)
  rw [List.append_nil] at hvalue
  have hsource : source j.compact.toList = ⟨n, true⟩ := by
    rw [source, hvalue]
    rfl
  rw [ofText, hsource] at h
  obtain ⟨hjson, -⟩ := (Document.Source.read_eq_ok_iff).mp h
  rw [hsource, hn.eq_node hcanonical hjson]

end Assay.Json
