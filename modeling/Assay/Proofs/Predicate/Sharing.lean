import Assay.Predicate.Sharing
import Assay.Proofs.Predicate.Cache
import Assay.Proofs.SideBySide
import Mathlib.Data.Finset.Card
import Mathlib.Logic.Relation

/-!
# Sharing a cache

One lemma says all that a step can do to a sound cache: it changes nothing, or adds an entry for a
text that has none; the work may still come to nothing that it could not come to before, and less of
it is left to do. Every course of a history follows from that by induction on its schedule. Where
parts of the work race, a step may settle which of them is heard; that any of them can be is shown
by a schedule which lets this one run to its end before all others.
-/

namespace Assay.Predicate

open SideBySide

variable {engine : Regex.Engine} {α β γ ε : Type}

namespace Work

/-! ## What work comes to -/

theorem mem_paired {lefts : List β} {rights : List γ} {p : β × γ} :
    p ∈ paired lefts rights ↔ p.1 ∈ lefts ∧ p.2 ∈ rights := by
  obtain ⟨b, d⟩ := p
  simp [paired]

/-- A race comes to the values of both of its parts, or to the failure of one. -/
theorem mem_raced {lefts : List (Except ε β)} {rights : List (Except ε γ)}
    {r : Except ε (β × γ)} : r ∈ raced lefts rights ↔
      (∃ b d, r = .ok (b, d) ∧ .ok b ∈ lefts ∧ .ok d ∈ rights) ∨
      ∃ e, r = .error e ∧ (.error e ∈ lefts ∨ .error e ∈ rights) := by
  cases r with
  | ok p =>
    obtain ⟨b, d⟩ := p
    simp [raced, mem_paired, mem_values]
  | error e => simp [raced, mem_failures]

theorem paired_subset {lefts lefts' : List β} {rights rights' : List γ} (hl : lefts' ⊆ lefts)
    (hr : rights' ⊆ rights) : paired lefts' rights' ⊆ paired lefts rights := by
  intro p hp
  rw [mem_paired] at hp ⊢
  exact ⟨hl hp.1, hr hp.2⟩

theorem raced_subset {lefts lefts' : List (Except ε β)} {rights rights' : List (Except ε γ)}
    (hl : lefts' ⊆ lefts) (hr : rights' ⊆ rights) : raced lefts' rights' ⊆ raced lefts rights := by
  intro r h
  rw [mem_raced] at h ⊢
  rcases h with ⟨b, d, rfl, hb, hd⟩ | ⟨e, rfl, he⟩
  · exact .inl ⟨b, d, rfl, hl hb, hr hd⟩
  · exact .inr ⟨e, rfl, he.imp (@hl _) (@hr _)⟩

/-- Each of two parts can come to something, so the race can. -/
theorem raced_ne_nil {lefts : List (Except ε β)} {rights : List (Except ε γ)} (hl : lefts ≠ [])
    (hr : rights ≠ []) : raced lefts rights ≠ [] := by
  obtain ⟨l, hl⟩ := List.exists_mem_of_ne_nil lefts hl
  obtain ⟨r, hr⟩ := List.exists_mem_of_ne_nil rights hr
  cases l with
  | error e => exact List.ne_nil_of_mem (mem_raced.mpr (.inr ⟨e, rfl, .inl hl⟩))
  | ok b =>
    cases r with
    | error e => exact List.ne_nil_of_mem (mem_raced.mpr (.inr ⟨e, rfl, .inr hr⟩))
    | ok d => exact List.ne_nil_of_mem (mem_raced.mpr (.inl ⟨b, d, rfl, hl, hr⟩))

@[simp] theorem outcomes_done (a : α) : (done a).outcomes engine = [a] :=
  rfl

theorem outcomes_both (left : Work β) (right : Work γ) (next : β → γ → Work α) :
    (both left right next).outcomes engine =
      (paired (left.outcomes engine) (right.outcomes engine)).flatMap fun p =>
        (next p.1 p.2).outcomes engine :=
  rfl

theorem outcomes_race (left : Work (Except ε β)) (right : Work (Except ε γ))
    (next : Except ε (β × γ) → Work α) :
    (race left right next).outcomes engine =
      (raced (left.outcomes engine) (right.outcomes engine)).flatMap fun r =>
        (next r).outcomes engine :=
  rfl

@[simp] theorem outcomes_pure (a : α) : (pure a : Work α).outcomes engine = [a] :=
  rfl

@[simp] theorem outcomes_bind (w : Work α) (f : α → Work β) :
    (w >>= f).outcomes engine = (w.outcomes engine).flatMap fun a => (f a).outcomes engine := by
  show (w.bind f).outcomes engine = _
  induction w with
  | done a => exact (List.flatMap_singleton ..).symm
  | lookUp text next ih => exact ih _ f
  | insert text next ih => exact ih _ f
  | both left right next _ _ ih =>
    show (both left right fun b d => (next b d).bind f).outcomes engine = _
    simp only [outcomes_both, ih, List.flatMap_assoc]
  | race left right next _ _ ih =>
    show (race left right fun r => (next r).bind f).outcomes engine = _
    simp only [outcomes_race, ih, List.flatMap_assoc]

@[simp] theorem outcomes_evaluate (text actual : String) :
    (evaluate text actual).outcomes engine = [check engine text actual] :=
  rfl

theorem mem_outcomes_alongside {left : Work α} {right : Work β} {p : α × β} :
    p ∈ (left.alongside right).outcomes engine ↔
      p.1 ∈ left.outcomes engine ∧ p.2 ∈ right.outcomes engine := by
  simp [alongside, outcomes_both, mem_paired]

/-- Work can come to something. -/
theorem outcomes_ne_nil (engine : Regex.Engine) (w : Work α) : w.outcomes engine ≠ [] := by
  induction w with
  | done a => exact List.cons_ne_nil a []
  | lookUp text next ih => exact ih _
  | insert text next ih => exact ih _
  | both left right next ihl ihr ih =>
    obtain ⟨b, hb⟩ := List.exists_mem_of_ne_nil _ ihl
    obtain ⟨d, hd⟩ := List.exists_mem_of_ne_nil _ ihr
    have hp : (b, d) ∈ paired (left.outcomes engine) (right.outcomes engine) :=
      mem_paired.mpr ⟨hb, hd⟩
    obtain ⟨a, ha⟩ := List.exists_mem_of_ne_nil _ (ih b d)
    exact List.ne_nil_of_mem (List.mem_flatMap.mpr ⟨_, hp, ha⟩)
  | race left right next ihl ihr ih =>
    obtain ⟨r, hr⟩ := List.exists_mem_of_ne_nil _ (raced_ne_nil ihl ihr)
    obtain ⟨a, ha⟩ := List.exists_mem_of_ne_nil _ (ih r)
    exact List.ne_nil_of_mem (List.mem_flatMap.mpr ⟨_, hr, ha⟩)

/-- **Work side by side** comes to the values of all its parts, or to the failure of one. -/
theorem mem_outcomes_inParallel {f : α → Work (Except ε β)} {as : List α}
    {r : Except ε (List β)} : r ∈ (inParallel f as).outcomes engine ↔
      (∃ bs, r = .ok bs ∧ List.Forall₂ (fun a b => .ok b ∈ (f a).outcomes engine) as bs) ∨
      ∃ a ∈ as, ∃ e, r = .error e ∧ .error e ∈ (f a).outcomes engine := by
  induction as generalizing r with
  | nil => simp [inParallel]
  | cons a as ih =>
    rw [inParallel, outcomes_race, List.mem_flatMap]
    simp only [outcomes_done, List.mem_singleton]
    constructor
    · rintro ⟨s, hs, rfl⟩
      rcases mem_raced.mp hs with ⟨b, bs, rfl, hb, hbs⟩ | ⟨e, rfl, he | he⟩
      · rcases ih.mp hbs with ⟨bs', heq, hall⟩ | ⟨-, -, e, heq, -⟩
        · cases heq
          exact .inl ⟨b :: bs, rfl, .cons hb hall⟩
        · cases heq
      · exact .inr ⟨a, List.mem_cons_self, e, rfl, he⟩
      · rcases ih.mp he with ⟨bs, heq, -⟩ | ⟨a', ha', e', heq, he'⟩
        · cases heq
        · cases heq
          exact .inr ⟨a', List.mem_cons_of_mem a ha', e, rfl, he'⟩
    · rintro (⟨bs, rfl, hall⟩ | ⟨a', ha', e, rfl, he⟩)
      · cases hall with
        | @cons _ b _ bs hb hbs =>
          have hrest := ih.mpr (.inl ⟨bs, rfl, hbs⟩)
          exact ⟨.ok (b, bs), mem_raced.mpr (.inl ⟨b, bs, rfl, hb, hrest⟩), rfl⟩
      · refine ⟨.error e, mem_raced.mpr (.inr ⟨e, rfl, ?_⟩), rfl⟩
        rcases List.mem_cons.mp ha' with rfl | ha'
        · exact .inl he
        · exact .inr (ih.mpr (.inr ⟨a', ha', e, rfl, he⟩))

/-! ## Steps -/

/-- The largest number of a list. -/
def most (ns : List Nat) : Nat :=
  ns.foldr max 0

theorem le_most {ns : List Nat} {n : Nat} (h : n ∈ ns) : n ≤ most ns := by
  induction ns with
  | nil => cases h
  | cons m ns ih =>
    show n ≤ max m (most ns)
    rcases List.mem_cons.mp h with rfl | h
    · exact Nat.le_max_left _ _
    · exact Nat.le_trans (ih h) (Nat.le_max_right _ _)

theorem most_mono {ns ns' : List Nat} (h : ns' ⊆ ns) : most ns' ≤ most ns := by
  induction ns' with
  | nil => exact Nat.zero_le _
  | cons n ns' ih =>
    rw [List.cons_subset] at h
    exact Nat.max_le.mpr ⟨le_most h.1, ih h.2⟩

/-- The largest number of steps that may be left. -/
def cost (engine : Regex.Engine) : {α : Type} → Work α → Nat
  | _, .done _ => 0
  | _, .lookUp text next => (next ((Predicate.parse text).ready engine)).cost engine + 2
  | _, .insert text next => (next ((Predicate.parse text).ready engine)).cost engine + 1
  | _, .both left right next =>
    left.cost engine + right.cost engine +
      most ((paired (left.outcomes engine) (right.outcomes engine)).map fun p =>
        (next p.1 p.2).cost engine) + 1
  | _, .race left right next =>
    left.cost engine + right.cost engine +
      most ((raced (left.outcomes engine) (right.outcomes engine)).map fun r =>
        (next r).cost engine) + 1

theorem cost_both (left : Work β) (right : Work γ) (next : β → γ → Work α) :
    (both left right next).cost engine = left.cost engine + right.cost engine +
      most ((paired (left.outcomes engine) (right.outcomes engine)).map fun p =>
        (next p.1 p.2).cost engine) + 1 :=
  rfl

theorem cost_race (left : Work (Except ε β)) (right : Work (Except ε γ))
    (next : Except ε (β × γ) → Work α) :
    (race left right next).cost engine = left.cost engine + right.cost engine +
      most ((raced (left.outcomes engine) (right.outcomes engine)).map fun r =>
        (next r).cost engine) + 1 :=
  rfl

end Work

/-- What may happen to a sound cache, and what becomes of it. -/
inductive Event.Leads (engine : Regex.Engine) (c : Cache) : Event → Cache → Prop where
  | found {text : String} {i : Nat} (h : c.find? text = some i) :
    Leads engine c (.found text i ((Predicate.parse text).ready engine)) c
  | missed {text : String} (h : c.find? text = none) : Leads engine c (.missed text) c
  /-- Another user was faster. -/
  | shared {text : String} {i : Nat} (h : c.find? text = some i) :
    Leads engine c (.inserted text i ((Predicate.parse text).ready engine) false) c
  | parsed {text : String} (h : c.find? text = none) :
    Leads engine c (.inserted text c.size ((Predicate.parse text).ready engine) true)
      (c.insertIfAbsent text engine).1
  | joined : Leads engine c .joined c
  | givenUp : Leads engine c .givenUp c

namespace Work

variable {c c' : Cache} {w w' : Work α} {path : List Part} {e : Event}

/-- The step of an insertion is one of the two that there are. -/
theorem leads_insertIfAbsent (engine : Regex.Engine) (c : Cache) (text : String) :
    (Event.inserted text (c.insertIfAbsent text engine).2 ((Predicate.parse text).ready engine)
      (c.find? text).isNone).Leads engine c (c.insertIfAbsent text engine).1 := by
  cases h : c.find? text with
  | some i => simpa [Cache.insertIfAbsent_of_some h] using Event.Leads.shared h
  | none =>
    have hparsed : Event.Leads engine c _ _ := .parsed h
    rwa [Cache.insertIfAbsent_of_none h] at hparsed ⊢

/-- Work that goes on with one of fewer values comes to nothing new, and costs no more. -/
theorem narrowed (engine : Regex.Engine) {ρ : Type} {rs rs' : List ρ} (next : ρ → Work α)
    (h : rs' ⊆ rs) :
    (rs'.flatMap fun r => (next r).outcomes engine) ⊆
        (rs.flatMap fun r => (next r).outcomes engine) ∧
      most (rs'.map fun r => (next r).cost engine) ≤
        most (rs.map fun r => (next r).cost engine) := by
  refine ⟨fun a ha => ?_, most_mono (List.map_subset _ h)⟩
  obtain ⟨r, hr, ha⟩ := List.mem_flatMap.mp ha
  exact List.mem_flatMap.mpr ⟨r, h hr, ha⟩

/-- Work that goes on with one of several values does what it may do. -/
theorem chosen (engine : Regex.Engine) {ρ : Type} {rs : List ρ} {r : ρ} (next : ρ → Work α)
    (h : r ∈ rs) :
    (next r).outcomes engine ⊆ (rs.flatMap fun r => (next r).outcomes engine) ∧
      (next r).cost engine ≤ most (rs.map fun r => (next r).cost engine) :=
  ⟨fun _ ha => List.mem_flatMap.mpr ⟨r, h, ha⟩,
    le_most (List.mem_map_of_mem h)⟩

/-- A step happens to the cache, lets the work come to nothing new and leaves less of it to do. -/
structure Proceeds (engine : Regex.Engine) (c : Cache) (w : Work α) (e : Event) (c' : Cache)
    (w' : Work α) : Prop where
  leads : e.Leads engine c c'
  outcomes : w'.outcomes engine ⊆ w.outcomes engine
  cost : w'.cost engine < w.cost engine

namespace Proceeds

section Both

variable {left left' : Work β} {right right' : Work γ} {next : β → γ → Work α}

theorem left_of_both (h : Proceeds engine c left e c' left') :
    Proceeds engine c (.both left right next) e c' (.both left' right next) := by
  -- the part comes to nothing new, so neither does what is done with it later
  obtain ⟨houtcomes, hcost⟩ := narrowed engine (fun p => next p.1 p.2)
    (paired_subset h.outcomes (List.Subset.refl (right.outcomes engine)))
  have hpart := h.cost
  exact ⟨h.leads, houtcomes, by rw [cost_both, cost_both]; omega⟩

theorem right_of_both (h : Proceeds engine c right e c' right') :
    Proceeds engine c (.both left right next) e c' (.both left right' next) := by
  obtain ⟨houtcomes, hcost⟩ := narrowed engine (fun p => next p.1 p.2)
    (paired_subset (List.Subset.refl (left.outcomes engine)) h.outcomes)
  have hpart := h.cost
  exact ⟨h.leads, houtcomes, by rw [cost_both, cost_both]; omega⟩

theorem joined (c : Cache) (b : β) (d : γ) (next : β → γ → Work α) :
    Proceeds engine c (.both (.done b) (.done d) next) .joined c (next b d) := by
  have hmem : (b, d) ∈ paired ((done b).outcomes engine) ((done d).outcomes engine) :=
    mem_paired.mpr ⟨List.mem_singleton_self b, List.mem_singleton_self d⟩
  obtain ⟨houtcomes, hcost⟩ := chosen engine (fun p => next p.1 p.2) hmem
  dsimp only at hcost
  exact ⟨.joined, houtcomes, by rw [cost_both]; omega⟩

end Both

section Race

variable {left left' : Work (Except ε β)} {right right' : Work (Except ε γ)}
  {next : Except ε (β × γ) → Work α}

theorem left_of_race (h : Proceeds engine c left e c' left') :
    Proceeds engine c (.race left right next) e c' (.race left' right next) := by
  obtain ⟨houtcomes, hcost⟩ := narrowed engine next
    (raced_subset h.outcomes (List.Subset.refl (right.outcomes engine)))
  have hpart := h.cost
  exact ⟨h.leads, houtcomes, by rw [cost_race, cost_race]; omega⟩

theorem right_of_race (h : Proceeds engine c right e c' right') :
    Proceeds engine c (.race left right next) e c' (.race left right' next) := by
  obtain ⟨houtcomes, hcost⟩ := narrowed engine next
    (raced_subset (List.Subset.refl (left.outcomes engine)) h.outcomes)
  have hpart := h.cost
  exact ⟨h.leads, houtcomes, by rw [cost_race, cost_race]; omega⟩

/-- A race ends with what its parts may come to together. -/
theorem end_of_race (hleads : e.Leads engine c c) {r : Except ε (β × γ)}
    (hr : r ∈ raced (left.outcomes engine) (right.outcomes engine)) :
    Proceeds engine c (.race left right next) e c (next r) := by
  obtain ⟨houtcomes, hcost⟩ := chosen engine next hr
  exact ⟨hleads, houtcomes, by rw [cost_race]; omega⟩

end Race

end Proceeds

/-- **All that a step can do.** -/
theorem step?_spec (hc : c.Sound engine) (h : w.step? engine c path = some (e, c', w')) :
    Proceeds engine c w e c' w' := by
  fun_induction Work.step? engine c w path with
  | case1 _ text next i hi =>
    rw [hc.get?_of_find? hi, Option.map_some] at h
    cases h
    exact ⟨.found hi, List.Subset.refl _, Nat.lt_add_of_pos_right (by decide)⟩
  | case2 _ text next hnone =>
    cases h
    exact ⟨.missed hnone, List.Subset.refl _, Nat.lt_succ_self _⟩
  | case3 _ text next c'' i hins =>
    -- a sound cache stays sound, so what the insertion came to is there
    obtain ⟨rfl, rfl⟩ : c'' = (c.insertIfAbsent text engine).1 ∧
        i = (c.insertIfAbsent text engine).2 := by
      simp [hins]
    rw [(hc.insertIfAbsent text).get?_of_find? (Cache.find?_insertIfAbsent engine c text),
      Option.map_some] at h
    cases h
    exact ⟨leads_insertIfAbsent engine c text, List.Subset.refl _, Nat.lt_succ_self _⟩
  | case4 _ _ _ b d next =>
    cases h
    exact .joined c b d next
  | case5 _ _ _ left right next path ih =>
    obtain ⟨⟨e', c'', left'⟩, hstep, heq⟩ := Option.map_eq_some_iff.mp h
    cases heq
    exact (ih hstep).left_of_both
  | case6 _ _ _ left right next path ih =>
    obtain ⟨⟨e', c'', right'⟩, hstep, heq⟩ := Option.map_eq_some_iff.mp h
    cases heq
    exact (ih hstep).right_of_both
  | case7 _ _ _ _ b d next =>
    cases h
    exact .end_of_race .joined
      (mem_raced.mpr (.inl ⟨b, d, rfl, List.mem_singleton_self _, List.mem_singleton_self _⟩))
  | case8 _ _ _ _ failure right next =>
    cases h
    exact .end_of_race .givenUp
      (mem_raced.mpr (.inr ⟨failure, rfl, .inl (List.mem_singleton_self _)⟩))
  | case9 _ _ _ _ left failure next =>
    cases h
    exact .end_of_race .givenUp
      (mem_raced.mpr (.inr ⟨failure, rfl, .inr (List.mem_singleton_self _)⟩))
  | case10 _ _ _ _ left right next path _ ih =>
    obtain ⟨⟨e', c'', left'⟩, hstep, heq⟩ := Option.map_eq_some_iff.mp h
    cases heq
    exact (ih hstep).left_of_race
  | case11 _ _ _ _ left right next path _ ih =>
    obtain ⟨⟨e', c'', right'⟩, hstep, heq⟩ := Option.map_eq_some_iff.mp h
    cases heq
    exact (ih hstep).right_of_race
  | case12 => cases h

theorem step?_done (c : Cache) (a : α) (path : List Part) :
    (done a : Work α).step? engine c path = none :=
  rfl

theorem step?_lookUp (c : Cache) (text : String) (next : Prepared → Work α) :
    (lookUp text next).step? engine c [] =
      match c.find? text with
      | some i => (c.get? i).map fun p => (.found text i p, c, next p)
      | none => some (.missed text, c, .insert text next) :=
  rfl

theorem step?_lookUp_of_some (hc : c.Sound engine) {text : String} {i : Nat}
    (h : c.find? text = some i) (next : Prepared → Work α) :
    (lookUp text next).step? engine c [] =
      some (.found text i ((Predicate.parse text).ready engine), c,
        next ((Predicate.parse text).ready engine)) := by
  simp only [step?_lookUp, h, hc.get?_of_find? h, Option.map_some]

theorem step?_lookUp_of_none {text : String} (h : c.find? text = none)
    (next : Prepared → Work α) :
    (lookUp text next).step? engine c [] = some (.missed text, c, insert text next) := by
  simp only [step?_lookUp, h]

theorem step?_insert (hc : c.Sound engine) (text : String) (next : Prepared → Work α) :
    (insert text next).step? engine c [] =
      some (.inserted text (c.insertIfAbsent text engine).2 ((Predicate.parse text).ready engine)
        (c.find? text).isNone, (c.insertIfAbsent text engine).1,
        next ((Predicate.parse text).ready engine)) := by
  show ((c.insertIfAbsent text engine).1.get? (c.insertIfAbsent text engine).2).map _ = _
  rw [(hc.insertIfAbsent text).get?_of_find? (Cache.find?_insertIfAbsent engine c text)]
  rfl

theorem step?_left_of_both (left : Work β) (right : Work γ) (next : β → γ → Work α)
    (path : List Part) :
    (both left right next).step? engine c (.left :: path) =
      (left.step? engine c path).map fun (e, c', left') => (e, c', both left' right next) := by
  cases left with
  | done b => cases right <;> rfl
  | lookUp | insert | both | race => rfl

theorem step?_right_of_both (left : Work β) (right : Work γ) (next : β → γ → Work α)
    (path : List Part) :
    (both left right next).step? engine c (.right :: path) =
      (right.step? engine c path).map fun (e, c', right') => (e, c', both left right' next) := by
  cases left with
  | done b => cases right <;> rfl
  | lookUp | insert | both | race => rfl

/-! ## Every outcome is come to -/

/-- A step of some part leads from a cache and work to others. -/
def Moves (engine : Regex.Engine) (x y : Cache × Work α) : Prop :=
  ∃ path e, x.2.step? engine x.1 path = some (e, y)

/-- Steps of some parts lead from a cache and work to others. -/
abbrev Reaches (engine : Regex.Engine) : Cache × Work α → Cache × Work α → Prop :=
  Relation.ReflTransGen (Moves engine)

section Parts

variable {left left' : Work β} {right right' : Work γ} {next : β → γ → Work α}

theorem reaches_left (h : Reaches engine (c, left) (c', left')) :
    Reaches engine (c, .both left right next) (c', .both left' right next) := by
  refine Relation.ReflTransGen.lift (fun x => (x.1, Work.both x.2 right next)) ?_ _ _ h
  rintro x y ⟨path, e, hstep⟩
  exact ⟨.left :: path, e, by simp only [step?_left_of_both, hstep, Option.map_some]⟩

theorem reaches_right (h : Reaches engine (c, right) (c', right')) :
    Reaches engine (c, .both left right next) (c', .both left right' next) := by
  refine Relation.ReflTransGen.lift (fun x => (x.1, Work.both left x.2 next)) ?_ _ _ h
  rintro x y ⟨path, e, hstep⟩
  exact ⟨.right :: path, e, by simp only [step?_right_of_both, hstep, Option.map_some]⟩

end Parts

section Races

variable {left left' : Work (Except ε β)} {right right' : Work (Except ε γ)}
  {next : Except ε (β × γ) → Work α}

theorem reaches_left_of_race (h : Reaches engine (c, left) (c', left')) :
    Reaches engine (c, .race left right next) (c', .race left' right next) := by
  refine Relation.ReflTransGen.lift (fun x => (x.1, Work.race x.2 right next)) ?_ _ _ h
  rintro ⟨c, left⟩ y ⟨path, e, hstep⟩
  refine ⟨.left :: path, e, ?_⟩
  -- a part that has failed makes no steps of its own
  cases left with
  | done r => simp [step?_done] at hstep
  | lookUp | insert | both | race => simp only [step?, hstep, Option.map_some]

theorem reaches_right_of_race (h : Reaches engine (c, right) (c', right')) :
    Reaches engine (c, .race left right next) (c', .race left right' next) := by
  refine Relation.ReflTransGen.lift (fun x => (x.1, Work.race left x.2 next)) ?_ _ _ h
  rintro ⟨c, right⟩ y ⟨path, e, hstep⟩
  refine ⟨.right :: path, e, ?_⟩
  cases right with
  | done r => simp [step?_done] at hstep
  | lookUp | insert | both | race => simp only [step?, hstep, Option.map_some]

end Races

/-- **Whatever work may come to, some course of it comes to.** Parts that are needed run one after
the other, and a part that is to fail first runs alone. -/
theorem reaches_of_mem_outcomes (hc : c.Sound engine) {a : α} (h : a ∈ w.outcomes engine) :
    ∃ c', c'.Sound engine ∧ Reaches engine (c, w) (c', .done a) := by
  induction w generalizing c with
  | done a' =>
    rw [outcomes_done, List.mem_singleton] at h
    exact ⟨c, hc, h ▸ .refl⟩
  | lookUp text next ih =>
    cases hfind : c.find? text with
    | some i =>
      obtain ⟨c', hc', hreach⟩ := ih _ hc h
      exact ⟨c', hc', .head ⟨[], _, step?_lookUp_of_some hc hfind next⟩ hreach⟩
    | none =>
      obtain ⟨c', hc', hreach⟩ := ih _ (hc.insertIfAbsent text) h
      refine ⟨c', hc', .head ⟨[], _, step?_lookUp_of_none hfind next⟩ ?_⟩
      exact .head ⟨[], _, step?_insert hc text next⟩ hreach
  | insert text next ih =>
    obtain ⟨c', hc', hreach⟩ := ih _ (hc.insertIfAbsent text) h
    exact ⟨c', hc', .head ⟨[], _, step?_insert hc text next⟩ hreach⟩
  | both left right next ihl ihr ih =>
    obtain ⟨⟨b, d⟩, hp, ha⟩ := List.mem_flatMap.mp h
    rw [mem_paired] at hp
    obtain ⟨c₁, hc₁, hleft⟩ := ihl hc hp.1
    obtain ⟨c₂, hc₂, hright⟩ := ihr hc₁ hp.2
    obtain ⟨c', hc', hnext⟩ := ih b d hc₂ ha
    exact ⟨c', hc', (reaches_left hleft).trans
      ((reaches_right hright).trans (.head ⟨[], .joined, rfl⟩ hnext))⟩
  | race left right next ihl ihr ih =>
    obtain ⟨r, hr, ha⟩ := List.mem_flatMap.mp h
    rcases mem_raced.mp hr with ⟨b, d, rfl, hb, hd⟩ | ⟨e, rfl, he | he⟩
    · obtain ⟨c₁, hc₁, hleft⟩ := ihl hc hb
      obtain ⟨c₂, hc₂, hright⟩ := ihr hc₁ hd
      obtain ⟨c', hc', hnext⟩ := ih _ hc₂ ha
      exact ⟨c', hc', (reaches_left_of_race hleft).trans
        ((reaches_right_of_race hright).trans (.head ⟨[], .joined, rfl⟩ hnext))⟩
    · obtain ⟨c₁, hc₁, hleft⟩ := ihl hc he
      obtain ⟨c', hc', hnext⟩ := ih _ hc₁ ha
      refine ⟨c', hc', (reaches_left_of_race hleft).trans (.head ⟨[.left], .givenUp, ?_⟩ hnext)⟩
      simp only [step?]
    · obtain ⟨c₁, hc₁, hright⟩ := ihr hc he
      obtain ⟨c', hc', hnext⟩ := ih _ hc₁ ha
      refine ⟨c', hc', (reaches_right_of_race hright).trans (.head ⟨[.right], .givenUp, ?_⟩ hnext)⟩
      simp only [step?]

end Work

/-! ## What happens to a cache -/

namespace Event

variable {c c' : Cache} {e : Event}

theorem Leads.extends (h : e.Leads engine c c') : c'.Extends c := by
  cases h with
  | parsed => exact Cache.extends_insertIfAbsent engine c _
  | found | missed | shared | joined | givenUp => exact .refl c

theorem Leads.sound (h : e.Leads engine c c') (hc : c.Sound engine) : c'.Sound engine := by
  cases h with
  | parsed => exact hc.insertIfAbsent _
  | found | missed | shared | joined | givenUp => exact hc

/-- A call obtains the entry for its text, which is what the text stands for. -/
theorem Leads.answer (h : e.Leads engine c c') {text : String} {i : Nat} {p : Prepared}
    (ha : e.answer? = some (text, i, p)) :
    c'.find? text = some i ∧ p = (Predicate.parse text).ready engine := by
  cases h with
  | missed | joined | givenUp => cases ha
  | found hi | shared hi =>
    cases ha
    exact ⟨hi, rfl⟩
  | parsed hnone =>
    cases ha
    rw [Cache.find?_insertIfAbsent, Cache.insertIfAbsent_of_none hnone]
    exact ⟨rfl, rfl⟩

/-- New entries are for texts that were parsed. -/
theorem Leads.texts (h : e.Leads engine c c') : c'.texts = c.texts ++ e.parsed?.toList := by
  cases h with
  | parsed hnone => exact Cache.texts_insertIfAbsent_of_none hnone
  | found | missed | shared | joined | givenUp => simp [parsed?]

theorem inserted?_of_parsed? {text : String} (h : e.parsed? = some text) :
    e.inserted? = some text := by
  unfold parsed? at h
  split at h
  · exact h
  · cases h

theorem exists_answer?_of_inserted? {text : String} (h : e.inserted? = some text) :
    ∃ i p, e.answer? = some (text, i, p) := by
  cases e with
  | inserted t i p isNew =>
    cases h
    exact ⟨i, p, rfl⟩
  | found | missed | joined | givenUp => cases h

end Event

/-- A history tells how a cache came to be: its texts are those that were parsed, and what calls
obtained is what it holds. -/
structure Accounts (engine : Regex.Engine) (history : List Event) (c : Cache) : Prop where
  sound : c.Sound engine
  texts : c.texts = history.filterMap Event.parsed?
  answers : ∀ text i p, (text, i, p) ∈ history.filterMap Event.answer? →
    c.find? text = some i ∧ p = (Predicate.parse text).ready engine

namespace Accounts

variable {history : List Event} {c c' : Cache} {e : Event}

theorem empty : Accounts engine [] .empty :=
  ⟨Cache.sound_empty, rfl, fun _ _ _ h => absurd h List.not_mem_nil⟩

/-- A history goes on to account for a cache that steps are made on. -/
theorem concat (h : Accounts engine history c) (he : e.Leads engine c c') :
    Accounts engine (history ++ [e]) c' := by
  refine ⟨he.sound h.sound, ?_, fun text i p ha => ?_⟩
  · rw [he.texts, h.texts, List.filterMap_append]
    cases hp : e.parsed? <;> simp [hp]
  · rw [List.filterMap_append, List.mem_append] at ha
    rcases ha with hold | hnew
    · obtain ⟨hi, hp⟩ := h.answers text i p hold
      exact ⟨he.extends.find? hi, hp⟩
    · exact he.answer (by simpa [List.mem_filterMap] using hnew)

/-- No text is parsed twice. -/
theorem nodup_parsed (h : Accounts engine history c) : (history.filterMap Event.parsed?).Nodup :=
  h.texts ▸ h.sound.nodup

/-- The texts with an entry are those that an insertion came to, by whatever user. -/
theorem mem_texts_iff (h : Accounts engine history c) {text : String} :
    text ∈ c.texts ↔ text ∈ history.filterMap Event.inserted? := by
  constructor
  · intro ht
    rw [h.texts] at ht
    obtain ⟨e, he, hp⟩ := List.mem_filterMap.mp ht
    exact List.mem_filterMap.mpr ⟨e, he, Event.inserted?_of_parsed? hp⟩
  · intro ht
    obtain ⟨e, he, hins⟩ := List.mem_filterMap.mp ht
    obtain ⟨i, p, ha⟩ := Event.exists_answer?_of_inserted? hins
    have hfind := (h.answers text i p (List.mem_filterMap.mpr ⟨e, he, ha⟩)).1
    exact Cache.mem_texts_of_find? hfind

theorem size_eq (h : Accounts engine history c) :
    c.size = (history.filterMap Event.inserted?).toFinset.card := by
  have hset : c.texts.toFinset = (history.filterMap Event.inserted?).toFinset := by
    ext text
    rw [List.mem_toFinset, List.mem_toFinset, h.mem_texts_iff]
  rw [← hset, List.toFinset_card_of_nodup h.sound.nodup, Cache.length_texts]

end Accounts

/-! ## Courses of work -/

namespace Sharing

variable {s s' s'' : Sharing α}

/-- What may become of work on a sound cache: it comes to nothing that it could not come to before,
with fewer steps left the more happened. -/
structure Becomes (engine : Regex.Engine) (s s' : Sharing α) : Prop where
  sound : s'.cache.Sound engine
  grows : s'.cache.Extends s.cache
  outcomes : s'.work.outcomes engine ⊆ s.work.outcomes engine
  cost : s'.history.length + s'.work.cost engine ≤ s.history.length + s.work.cost engine

theorem Becomes.refl (hs : s.cache.Sound engine) : s.Becomes engine s :=
  ⟨hs, .refl _, List.Subset.refl _, Nat.le_refl _⟩

theorem Becomes.trans (h : s.Becomes engine s') (h' : s'.Becomes engine s'') :
    s.Becomes engine s'' :=
  ⟨h'.sound, h.grows.trans h'.grows, List.Subset.trans h'.outcomes h.outcomes,
    Nat.le_trans h'.cost h.cost⟩

theorem becomes_turn (hs : s.cache.Sound engine) (path : List Part) :
    s.Becomes engine (s.turn engine path) := by
  unfold turn
  split
  · rename_i e c w hstep
    obtain ⟨hleads, houtcomes, hcost⟩ := Work.step?_spec hs hstep
    refine ⟨hleads.sound hs, hleads.extends, houtcomes, ?_⟩
    simp only [List.length_append, List.length_singleton]
    omega
  · exact .refl hs

theorem becomes_run (hs : s.cache.Sound engine) (schedule : List (List Part)) :
    s.Becomes engine (s.run engine schedule) := by
  induction schedule generalizing s with
  | nil => exact .refl hs
  | cons path schedule ih =>
    have hturn := becomes_turn hs path
    exact hturn.trans (ih hturn.sound)

theorem accounts_turn (h : Accounts engine s.history s.cache) (path : List Part) :
    Accounts engine (s.turn engine path).history (s.turn engine path).cache := by
  unfold turn
  split
  · rename_i e c w hstep
    exact h.concat (Work.step?_spec h.sound hstep).leads
  · exact h

theorem accounts_run (h : Accounts engine s.history s.cache) (schedule : List (List Part)) :
    Accounts engine (s.run engine schedule).history (s.run engine schedule).cache := by
  induction schedule generalizing s with
  | nil => exact h
  | cons path schedule ih => exact ih (accounts_turn h path)

/-- Work that ends has come to one of its outcomes. -/
theorem mem_outcomes_of_done (hs : s.cache.Sound engine) (schedule : List (List Part)) {a : α}
    (h : (s.run engine schedule).work = .done a) : a ∈ s.work.outcomes engine := by
  apply (becomes_run hs schedule).outcomes
  rw [h]
  exact List.mem_singleton_self a

theorem run_concat (s : Sharing α) (schedule : List (List Part)) (path : List Part) :
    s.run engine (schedule ++ [path]) = (s.run engine schedule).turn engine path := by
  simp [run]

/-- Steps of parts make a schedule. -/
theorem exists_run {x : Cache × Work α} (h : Work.Reaches engine (s.cache, s.work) x) :
    ∃ schedule, (s.run engine schedule).cache = x.1 ∧ (s.run engine schedule).work = x.2 := by
  induction h with
  | refl => exact ⟨[], rfl, rfl⟩
  | @tail x y _ hmove ih =>
    obtain ⟨schedule, hcache, hwork⟩ := ih
    obtain ⟨path, e, hstep⟩ := hmove
    have hturn : s.run engine (schedule ++ [path]) =
        ⟨y.1, y.2, (s.run engine schedule).history ++ [e]⟩ := by
      rw [run_concat, turn, hcache, hwork, hstep]
    exact ⟨schedule ++ [path], by rw [hturn], by rw [hturn]⟩

/-- **Work can be brought to each of its outcomes.** -/
theorem exists_run_done (hs : s.cache.Sound engine) {a : α} (ha : a ∈ s.work.outcomes engine) :
    ∃ schedule, (s.run engine schedule).work = .done a := by
  obtain ⟨c, -, hreach⟩ := Work.reaches_of_mem_outcomes hs ha
  obtain ⟨schedule, -, hwork⟩ := exists_run hreach
  exact ⟨schedule, hwork⟩

/-- **The steps of a call are those of the cache with one user**, if no other step comes between. -/
theorem run_evaluate {c : Cache} (hc : c.Sound engine) (text actual : String) :
    let s := (Sharing.mk c (.evaluate text actual) []).run engine [[], []]
    s.cache = (c.evaluate text actual engine).1 ∧
      s.work = .done (c.evaluate text actual engine).2 := by
  have hcall : Work.evaluate text actual = .lookUp text fun p => .done (p.evaluate actual) := rfl
  rw [hc.evaluate, hcall]
  cases h : c.find? text with
  | some i =>
    simp only [run, List.foldl_cons, List.foldl_nil, turn, Work.step?_lookUp_of_some hc h,
      Work.step?_done, Cache.insertIfAbsent_of_some h, check, Predicate.evaluate, and_self]
  | none =>
    simp only [run, List.foldl_cons, List.foldl_nil, turn, Work.step?_lookUp_of_none h,
      Work.step?_insert hc, check, Predicate.evaluate, and_self]

end Sharing

/-- Work that starts on a cache comes to the given values, whatever other work is on the cache and
however the steps of both interleave. -/
structure Work.ComesTo (engine : Regex.Engine) (c : Cache) (w : Work α) (values : α → Prop) :
    Prop where
  /-- It ends with nothing else. -/
  only {β : Type} (other : Work β) (schedule : List (List Part)) (a : α) (b : β) :
    ((Sharing.mk c (w.alongside other) []).run engine schedule).work = .done (a, b) → values a
  /-- From wherever it has come to, it can be brought to its end. -/
  ends {β : Type} (other : Work β) (schedule : List (List Part)) : ∃ more a b,
    (((Sharing.mk c (w.alongside other) []).run engine schedule).run engine more).work =
      .done (a, b)
  /-- It can be brought to each of the values. -/
  each {β : Type} (other : Work β) (a : α) : values a → ∃ schedule b,
    ((Sharing.mk c (w.alongside other) []).run engine schedule).work = .done (a, b)

/-- **On a sound cache all work comes to what it comes to alone.** -/
theorem Cache.Sound.comesTo {c : Cache} (hc : c.Sound engine) {w : Work α} {values : α → Prop}
    (h : ∀ a, a ∈ w.outcomes engine ↔ values a) : w.ComesTo engine c values where
  only other schedule a b hdone :=
    (h a).mp (Work.mem_outcomes_alongside.mp
      (Sharing.mem_outcomes_of_done (s := ⟨c, _, []⟩) hc schedule hdone)).1
  ends other schedule := by
    have hs := Sharing.becomes_run (s := ⟨c, w.alongside other, []⟩) hc schedule
    obtain ⟨⟨a, b⟩, hp⟩ := List.exists_mem_of_ne_nil _ (Work.outcomes_ne_nil engine
      ((Sharing.mk c (w.alongside other) []).run engine schedule).work)
    obtain ⟨more, hmore⟩ := Sharing.exists_run_done hs.sound hp
    exact ⟨more, a, b, hmore⟩
  each other a ha := by
    obtain ⟨b, hb⟩ := List.exists_mem_of_ne_nil _ (Work.outcomes_ne_nil engine other)
    have hp : (a, b) ∈ (w.alongside other).outcomes engine :=
      Work.mem_outcomes_alongside.mpr ⟨(h a).mpr ha, hb⟩
    obtain ⟨schedule, hdone⟩ := Sharing.exists_run_done (s := ⟨c, w.alongside other, []⟩) hc hp
    exact ⟨schedule, b, hdone⟩

end Assay.Predicate
