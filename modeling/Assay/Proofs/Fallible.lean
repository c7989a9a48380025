import Mathlib.Data.List.Forall2

/-!
# Steps that can fail

What is known once steps have succeeded or failed, one behind the other or for the elements of a
list.
-/

namespace Assay

theorem bind_eq_ok {ε α β : Type} {x : Except ε α} {f : α → Except ε β} {b : β}
    (h : x.bind f = .ok b) : ∃ a, x = .ok a ∧ f a = .ok b := by
  cases x with
  | ok a => exact ⟨a, rfl, h⟩
  | error e => simp [Except.bind] at h

theorem bind_eq_error {ε α β : Type} {x : Except ε α} {f : α → Except ε β} {e : ε}
    (h : x.bind f = .error e) : x = .error e ∨ ∃ a, x = .ok a ∧ f a = .error e := by
  cases x with
  | ok a => exact .inr ⟨a, rfl, h⟩
  | error e' =>
    cases h
    exact .inl rfl

theorem map_eq_ok {ε α β : Type} {x : Except ε α} {f : α → β} {b : β} (h : x.map f = .ok b) :
    ∃ a, x = .ok a ∧ f a = b := by
  cases x with
  | ok a => exact ⟨a, rfl, Except.ok.inj h⟩
  | error e => cases h

theorem bind_unit_eq_ok_iff {ε β : Type} {x : Except ε Unit} {y : Except ε β} {b : β} :
    (x >>= fun _ => y) = .ok b ↔ x = .ok () ∧ y = .ok b := by
  cases x <;> simp [bind, Except.bind]

theorem mapError_eq_ok_iff {ε ε' α : Type} {x : Except ε α} {f : ε → ε'} {a : α} :
    x.mapError f = .ok a ↔ x = .ok a := by
  cases x <;> simp [Except.mapError]

theorem exists_error_of_ne_ok {ε : Type} {x : Except ε Unit} (h : x ≠ .ok ()) :
    ∃ e, x = .error e := by
  cases x with
  | ok u => exact absurd rfl h
  | error e => exact ⟨e, rfl⟩

/-- The steps for the elements of a list all succeed, or the first one that does not stops them. -/
theorem mapM_except_cases {α β ε : Type} (f : α → Except ε β) (xs : List α) :
    (∃ ys, xs.mapM f = .ok ys ∧ List.Forall₂ (fun x y => f x = .ok y) xs ys) ∨
    (∃ front x back e, xs = front ++ x :: back ∧ (∀ x' ∈ front, ∃ y, f x' = .ok y) ∧
      f x = .error e ∧ xs.mapM f = .error e) := by
  induction xs with
  | nil => exact .inl ⟨[], rfl, .nil⟩
  | cons x xs ih =>
    cases hx : f x with
    | error e =>
      refine .inr ⟨[], x, xs, e, rfl, by simp, hx, ?_⟩
      simp [hx, bind, Except.bind]
    | ok y =>
      rcases ih with ⟨ys, hys, hall⟩ | ⟨front, x', back, e, rfl, hfront, he, herr⟩
      · refine .inl ⟨y :: ys, ?_, .cons hx hall⟩
        simp [hx, hys, bind, Except.bind, pure, Except.pure]
      · refine .inr ⟨x :: front, x', back, e, rfl, ?_, he, ?_⟩
        · simpa using ⟨⟨y, hx⟩, hfront⟩
        · rw [List.mapM_cons, hx, herr]
          rfl

/-! ## Demands that are checked one after the other -/

section

variable {α ε : Type} {fault : α → ε → Prop} {ds ds' : List α} {x y : Except ε Unit} {e e' : ε}

/-- What is wrong with the first of several demands that something is wrong with. -/
inductive FirstFault (fault : α → ε → Prop) : List α → ε → Prop where
  | here {d : α} {ds : List α} {e : ε} (h : fault d e) : FirstFault fault (d :: ds) e
  | later {d : α} {ds : List α} {e : ε} (hnone : ∀ e', ¬ fault d e')
      (hrest : FirstFault fault ds e) : FirstFault fault (d :: ds) e

/-- What a check of demands has to come to: success if nothing is wrong with any of them, and
otherwise what is wrong with the first. -/
inductive Reports (fault : α → ε → Prop) (ds : List α) : Except ε Unit → Prop where
  | ok (hnone : ∀ d ∈ ds, ∀ e, ¬ fault d e) : Reports fault ds (.ok ())
  | error {e : ε} (h : FirstFault fault ds e) : Reports fault ds (.error e)

theorem FirstFault.append_left (h : FirstFault fault ds e) (ds' : List α) :
    FirstFault fault (ds ++ ds') e := by
  induction h with
  | here h => exact .here h
  | later hnone _ ih => exact .later hnone ih

theorem FirstFault.append_right (hnone : ∀ d ∈ ds, ∀ e, ¬ fault d e) (h : FirstFault fault ds' e) :
    FirstFault fault (ds ++ ds') e := by
  induction ds with
  | nil => exact h
  | cons d ds ih =>
    rw [List.forall_mem_cons] at hnone
    exact .later hnone.1 (ih hnone.2)

theorem FirstFault.exists_mem (h : FirstFault fault ds e) : ∃ d ∈ ds, fault d e := by
  induction h with
  | here h => exact ⟨_, List.mem_cons_self, h⟩
  | later _ _ ih =>
    obtain ⟨d, hd, hfault⟩ := ih
    exact ⟨d, List.mem_cons_of_mem _ hd, hfault⟩

/-- If every demand has at most one fault, so has the whole list. -/
theorem FirstFault.unique (hunique : Relator.RightUnique fault)
    (h : FirstFault fault ds e) (h' : FirstFault fault ds e') : e = e' := by
  induction h with
  | here h =>
    cases h' with
    | here h' => exact hunique h h'
    | later hnone => exact absurd h (hnone _)
  | later hnone _ ih =>
    cases h' with
    | here h' => exact absurd h' (hnone _)
    | later _ h' => exact ih h'

/-! Checks are put together as the lists of their demands are. -/

theorem Reports.nil : Reports fault [] (.ok ()) :=
  .ok fun _ hd => absurd hd List.not_mem_nil

theorem Reports.single {d : α} (h : ∀ e, x = .error e ↔ fault d e) : Reports fault [d] x := by
  cases x with
  | ok u =>
    refine .ok fun d' hd e hfault => ?_
    rw [List.mem_singleton.mp hd] at hfault
    cases (h e).mpr hfault
  | error e => exact .error (.here ((h e).mp rfl))

theorem Reports.append (hx : Reports fault ds x) (hy : Reports fault ds' y) :
    Reports fault (ds ++ ds') (x >>= fun _ => y) := by
  cases hx with
  | error h => exact .error (h.append_left ds')
  | ok hnone =>
    cases hy with
    | ok hnone' =>
      refine .ok fun d hd => ?_
      rcases List.mem_append.mp hd with hd | hd
      · exact hnone d hd
      · exact hnone' d hd
    | error h => exact .error (.append_right hnone h)

/-- **The error is that of the first demand that is not met.** -/
theorem Reports.eq_error_iff (hunique : Relator.RightUnique fault)
    (h : Reports fault ds x) : x = .error e ↔ FirstFault fault ds e := by
  cases h with
  | ok hnone =>
    refine iff_of_false (by simp) fun h => ?_
    obtain ⟨d, hd, hfault⟩ := h.exists_mem
    exact hnone d hd e hfault
  | error h =>
    refine ⟨fun heq => ?_, fun h' => congrArg _ (h.unique hunique h')⟩
    cases heq
    exact h

end

end Assay
