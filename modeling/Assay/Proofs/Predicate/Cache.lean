import Assay.Predicate.Cache
import Assay.Proofs.Grouping

/-!
# What a cache holds

A sound cache has one entry for each of its texts, and that entry is what the text stands for. The
insertion of a text keeps a cache sound and all its entries in place, so that a sound cache never
shows in what a predicate says of a text.
-/

namespace Assay.Predicate.Cache

variable {engine : Regex.Engine} {c c' c'' : Cache} {text : String} {i : Nat}

/-- The texts that have an entry, in order of insertion. -/
def texts (c : Cache) : List String :=
  c.entries.toList.map (·.1)

/-- Every text has one entry, which is the prepared predicate that it stands for. -/
structure Sound (engine : Regex.Engine) (c : Cache) : Prop where
  nodup : c.texts.Nodup
  ready : ∀ e ∈ c.entries.toList, e.2 = (Predicate.parse e.1).ready engine

/-- The entries of one cache stand in another one where they stood, perhaps with more behind. -/
def Extends (c' c : Cache) : Prop :=
  c.entries.toList <+: c'.entries.toList

theorem length_texts (c : Cache) : c.texts.length = c.size := by
  simp [texts, size]

/-! ## Look-ups -/

theorem find?_eq_idxOf? (c : Cache) (text : String) : c.find? text = c.texts.idxOf? text := by
  rw [find?, texts, List.idxOf?, List.findIdx?_map, ← List.findIdx?_toArray]
  rfl

theorem find?_eq_none_iff : c.find? text = none ↔ text ∉ c.texts := by
  rw [find?_eq_idxOf?, List.idxOf?_eq_none_iff]

theorem mem_texts_of_find? (h : c.find? text = some i) : text ∈ c.texts := by
  by_contra hno
  rw [find?_eq_none_iff.mpr hno] at h
  cases h

/-- A sound cache has for a text what the text stands for. -/
theorem Sound.get?_of_find? (hc : c.Sound engine) (h : c.find? text = some i) :
    c.get? i = some ((Predicate.parse text).ready engine) := by
  rw [find?_eq_idxOf?] at h
  obtain ⟨e, he, rfl⟩ := getElem?_of_idxOf? h
  rw [get?, ← Array.getElem?_toList, he, Option.map_some, hc.ready e (List.mem_of_getElem? he)]

/-! ## Extensions -/

theorem Extends.refl (c : Cache) : c.Extends c :=
  List.prefix_rfl

theorem Extends.trans (h : c'.Extends c) (h' : c''.Extends c') : c''.Extends c :=
  List.IsPrefix.trans h h'

theorem Extends.find? (h : c'.Extends c) (hi : c.find? text = some i) :
    c'.find? text = some i := by
  obtain ⟨more, hmore⟩ := h
  rw [find?_eq_idxOf?] at hi ⊢
  rw [texts, ← hmore, List.map_append, List.idxOf?, List.findIdx?_append]
  exact congrArg (Option.or · _) hi

/-! ## Insertion -/

theorem insertIfAbsent_of_some (h : c.find? text = some i) :
    c.insertIfAbsent text engine = (c, i) := by
  rw [insertIfAbsent, h]

theorem insertIfAbsent_of_none (h : c.find? text = none) :
    c.insertIfAbsent text engine =
      (⟨c.entries.push (text, (Predicate.parse text).ready engine)⟩, c.size) := by
  rw [insertIfAbsent, h]
  rfl

theorem texts_insertIfAbsent_of_none (h : c.find? text = none) :
    (c.insertIfAbsent text engine).1.texts = c.texts ++ [text] := by
  simp [insertIfAbsent_of_none h, texts]

theorem extends_insertIfAbsent (engine : Regex.Engine) (c : Cache) (text : String) :
    (c.insertIfAbsent text engine).1.Extends c := by
  cases h : c.find? text with
  | some i => simpa [insertIfAbsent_of_some h] using Extends.refl c
  | none => simp [insertIfAbsent_of_none h, Extends]

/-- The text is found where the insertion came to. -/
theorem find?_insertIfAbsent (engine : Regex.Engine) (c : Cache) (text : String) :
    (c.insertIfAbsent text engine).1.find? text = some (c.insertIfAbsent text engine).2 := by
  cases h : c.find? text with
  | some i => rw [insertIfAbsent_of_some h, h]
  | none =>
    have hnew : c.texts.idxOf? text = none := by rw [← find?_eq_idxOf?, h]
    rw [find?_eq_idxOf?, texts_insertIfAbsent_of_none h, idxOf?_concat, hnew, if_pos rfl,
      length_texts, insertIfAbsent_of_none h]
    rfl

theorem Sound.insertIfAbsent (hc : c.Sound engine) (text : String) :
    (c.insertIfAbsent text engine).1.Sound engine := by
  cases h : c.find? text with
  | some i => rwa [insertIfAbsent_of_some h]
  | none =>
    refine ⟨?_, fun e he => ?_⟩
    · rw [texts_insertIfAbsent_of_none h]
      refine hc.nodup.append (List.nodup_singleton text) fun t ht ht' => ?_
      rw [List.mem_singleton.mp ht'] at ht
      exact find?_eq_none_iff.mp h ht
    · rw [insertIfAbsent_of_none h, Array.toList_push] at he
      rcases List.mem_append.mp he with he | he
      · exact hc.ready e he
      · rw [List.mem_singleton.mp he]

theorem sound_empty : empty.Sound engine :=
  ⟨List.nodup_nil, fun _ he => absurd he List.not_mem_nil⟩

/-! ## A cache with one user -/

/-- Without other users the two steps of a call are an insertion. -/
theorem parse_eq_insertIfAbsent (engine : Regex.Engine) (c : Cache) (text : String) :
    c.parse text engine = c.insertIfAbsent text engine := by
  cases h : c.find? text with
  | some i => rw [parse, h, insertIfAbsent_of_some h]
  | none => rw [parse, h]

theorem Sound.evaluate (hc : c.Sound engine) (text actual : String) :
    c.evaluate text actual engine =
      ((c.insertIfAbsent text engine).1, Predicate.check engine text actual) := by
  have hget := (hc.insertIfAbsent text).get?_of_find? (find?_insertIfAbsent engine c text)
  rw [Cache.evaluate, parse_eq_insertIfAbsent]
  simp only [hget, Option.getD_some]
  rfl

end Assay.Predicate.Cache
