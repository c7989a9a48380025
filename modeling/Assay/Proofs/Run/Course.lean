import Assay.Run.Round

/-!
# Courses of a concurrent run

A course is a list of moves. `Reaches` says where courses lead to, and every function that takes a
run forward follows a course. The rank of a task never grows, its own step lowers it, and
collection takes the rest; so `finish` ends every run, from wherever it stands.
-/

namespace Assay.Run

namespace Task

variable {σ : Type}

/-! ## Ranks -/

/-- No task has more steps in front of it than one that waits. -/
theorem rank_le (attempts : Nat) (task : Task) : task.rank attempts ≤ waiting.rank attempts := by
  cases task <;> simp only [rank] <;> omega

/-- A task with a result keeps it. -/
theorem advance_result {bench : Bench σ} {attempts : Nat} {c : Case} {cancelled : Bool}
    {task : Task} {world : σ} {result : Result} (h : task.result? = some result) :
    (advance bench attempts c cancelled task world).task.result? = some result := by
  cases task <;> simp_all [advance, result?]

/-- A step comes closer to the end of a task, up to where its result is to be collected. -/
theorem rank_advance (bench : Bench σ) (attempts : Nat) (c : Case) (cancelled : Bool)
    (task : Task) (world : σ) :
    (advance bench attempts c cancelled task world).task.rank attempts ≤ task.rank attempts ∧
    (1 < task.rank attempts →
      (advance bench attempts c cancelled task world).task.rank attempts <
        task.rank attempts) := by
  by_cases h : 1 < task.rank attempts
  · have hlt := rank_advance_lt bench attempts c cancelled world h
    exact ⟨Nat.le_of_lt hlt, fun _ => hlt⟩
  · refine ⟨?_, fun h' => absurd h' h⟩
    -- only a task that is over has so low a rank, and it stays as it is
    cases task with
    | ended r crashed => exact Nat.le_refl _
    | collected r => exact Nat.le_refl _
    | settled r => exact absurd (by simp [rank]) h
    | waiting => exact absurd (by simp only [rank]; omega) h
    | entered => exact absurd (by simp only [rank]; omega) h
    | trying n => exact absurd (by simp only [rank]; omega) h
    | pausing n => exact absurd (by simp only [rank]; omega) h

end Task

namespace Round

variable {σ : Type} {rules : Rules σ} {r r' r'' : Round σ}

/-! ## Where courses lead -/

theorem play_append (rules : Rules σ) (r : Round σ) (moves moves' : List Move) :
    r.play rules (moves ++ moves') = (r.play rules moves).play rules moves' := by
  simp [play]

/-- A course leads from one point of a run to another. -/
def Reaches (rules : Rules σ) (r r' : Round σ) : Prop :=
  ∃ moves, r.play rules moves = r'

theorem Reaches.refl (r : Round σ) : Reaches rules r r :=
  ⟨[], rfl⟩

theorem Reaches.trans (h : Reaches rules r r') (h' : Reaches rules r' r'') :
    Reaches rules r r'' := by
  obtain ⟨moves, rfl⟩ := h
  obtain ⟨moves', rfl⟩ := h'
  exact ⟨moves ++ moves', play_append rules r moves moves'⟩

theorem reaches_advance (r : Round σ) (i : Nat) : Reaches rules r (r.advance rules i) :=
  ⟨[.advance i], rfl⟩

theorem reaches_collect (r : Round σ) (i : Nat) : Reaches rules r (r.collect rules i) :=
  ⟨[.collect i], rfl⟩

theorem reaches_foldl {f : Round σ → Nat → Round σ} (h : ∀ r i, Reaches rules r (f r i))
    (is : List Nat) (r : Round σ) : Reaches rules r (is.foldl f r) := by
  induction is generalizing r with
  | nil => exact .refl r
  | cons i is ih => exact (h r i).trans (ih _)

theorem reaches_goOn (i n : Nat) (r : Round σ) : Reaches rules r (goOn rules i n r) := by
  induction n generalizing r with
  | zero => exact .refl r
  | succ n ih =>
    rw [goOn]
    split
    · split
      · exact (reaches_advance r i).trans (ih _)
      · exact .refl r
    · exact .refl r

theorem reaches_turn (r : Round σ) (i : Nat) : Reaches rules r (r.turn rules i) :=
  (reaches_advance r i).trans (reaches_goOn i 2 _)

theorem reaches_sweepOnce (r : Round σ) : Reaches rules r (r.sweepOnce rules) :=
  (reaches_foldl reaches_turn _ r).trans (reaches_foldl reaches_collect _ _)

theorem reaches_sweep (n : Nat) (r : Round σ) : Reaches rules r (sweep rules n r) := by
  induction n generalizing r with
  | zero => exact .refl r
  | succ n ih =>
    rw [sweep]
    split
    · exact .refl r
    · exact (reaches_sweepOnce r).trans (ih _)

theorem reaches_finish (rules : Rules σ) (r : Round σ) : Reaches rules r (r.finish rules) :=
  reaches_sweep _ r

/-! ## Every run can be finished -/

/-- The rank of the task at a position. -/
def rankAt (rules : Rules σ) (r : Round σ) (i : Nat) : Nat :=
  (r.tasks[i]?.map fun t => t.2.rank rules.attempts).getD 0

theorem rankAt_le (r : Round σ) (i : Nat) :
    r.rankAt rules i ≤ Task.waiting.rank rules.attempts := by
  unfold rankAt
  cases r.tasks[i]? with
  | none => exact Nat.zero_le _
  | some t => exact Task.rank_le rules.attempts t.2

/-- A run of which every task has the lowest rank is over. -/
theorem isOver_of_rankAt (h : ∀ i, r.rankAt rules i = 0) : r.isOver := by
  rw [isOver, List.all_eq_true]
  intro t ht
  obtain ⟨i, hi⟩ := List.mem_iff_getElem?.mp ht
  have hrank := h i
  rw [rankAt, hi] at hrank
  obtain ⟨c, task⟩ := t
  cases task <;> simp [Task.rank] at hrank ⊢

/-- A step changes the rank of no other task, and lowers that of its own. -/
theorem rankAt_advance (rules : Rules σ) (r : Round σ) (i k : Nat) :
    (r.advance rules i).rankAt rules k ≤ r.rankAt rules k ∧
    (i = k → (r.advance rules i).rankAt rules k ≤ max 1 (r.rankAt rules k - 1)) := by
  unfold advance
  split
  · rename_i hi
    refine ⟨Nat.le_refl _, ?_⟩
    rintro rfl
    simp [rankAt, hi]
  · rename_i c task hi
    have hrank := Task.rank_advance rules.bench rules.attempts c r.cancelled task r.world
    by_cases hik : i = k
    · subst hik
      have hlt := (List.getElem?_eq_some_iff.mp hi).1
      simp only [rankAt, List.getElem?_set_self hlt, hi, Option.map_some, Option.getD_some]
      omega
    · refine ⟨?_, fun h => absurd h hik⟩
      simp [rankAt, List.getElem?_set_ne hik]

/-- Collection changes the rank of no other task, and takes the rest of that of its own. -/
theorem rankAt_collect (rules : Rules σ) (r : Round σ) (i k : Nat) :
    (r.collect rules i).rankAt rules k ≤ r.rankAt rules k ∧
    (i = k → r.rankAt rules k ≤ 1 → (r.collect rules i).rankAt rules k = 0) := by
  unfold collect
  split
  · rename_i c result crashed hi
    by_cases hik : i = k
    · subst hik
      have hlt := (List.getElem?_eq_some_iff.mp hi).1
      simp [rankAt, List.getElem?_set_self hlt, Task.rank]
    · refine ⟨?_, fun h => absurd h hik⟩
      simp [rankAt, List.getElem?_set_ne hik]
  · rename_i hno
    refine ⟨Nat.le_refl _, ?_⟩
    rintro rfl hle
    unfold rankAt at hle ⊢
    cases hi : r.tasks[i]? with
    | none => rfl
    | some t =>
      obtain ⟨c, task⟩ := t
      cases task <;> simp_all [Task.rank]

theorem rankAt_goOn (rules : Rules σ) (i n k : Nat) (r : Round σ) :
    (goOn rules i n r).rankAt rules k ≤ r.rankAt rules k := by
  induction n generalizing r with
  | zero => exact Nat.le_refl _
  | succ n ih =>
    rw [goOn]
    split
    · split
      · exact Nat.le_trans (ih _) (rankAt_advance rules r i k).1
      · exact Nat.le_refl _
    · exact Nat.le_refl _

theorem rankAt_foldl_le {f : Round σ → Nat → Round σ} {k : Nat}
    (h : ∀ r i, (f r i).rankAt rules k ≤ r.rankAt rules k) (is : List Nat) (r : Round σ) :
    (is.foldl f r).rankAt rules k ≤ r.rankAt rules k := by
  induction is generalizing r with
  | nil => exact Nat.le_refl _
  | cons i is ih => exact Nat.le_trans (ih _) (h r i)

/-- What one function does to the rank at a position, it does in the course of all positions. -/
theorem rankAt_foldl {f : Round σ → Nat → Round σ} {k n m : Nat} {is : List Nat}
    (hle : ∀ r i, (f r i).rankAt rules k ≤ r.rankAt rules k)
    (hown : ∀ r : Round σ, r.rankAt rules k ≤ n → (f r k).rankAt rules k ≤ m) (hk : k ∈ is)
    (h : r.rankAt rules k ≤ n) : (is.foldl f r).rankAt rules k ≤ m := by
  obtain ⟨before, after, rfl⟩ := List.append_of_mem hk
  rw [List.foldl_append, List.foldl_cons]
  have hbefore := Nat.le_trans (rankAt_foldl_le hle before r) h
  exact Nat.le_trans (rankAt_foldl_le hle after _) (hown _ hbefore)

theorem rankAt_turn (rules : Rules σ) (r : Round σ) (i k : Nat) :
    (r.turn rules i).rankAt rules k ≤ r.rankAt rules k ∧
    (i = k → (r.turn rules i).rankAt rules k ≤ max 1 (r.rankAt rules k - 1)) := by
  have hstep := rankAt_advance rules r i k
  have hrest := rankAt_goOn rules i 2 k (r.advance rules i)
  exact ⟨Nat.le_trans hrest hstep.1, fun h => Nat.le_trans hrest (hstep.2 h)⟩

/-- **Every task comes closer to its end when all have had their turn.** -/
theorem rankAt_sweepOnce {k n : Nat} (h : r.rankAt rules k ≤ n + 1) :
    (r.sweepOnce rules).rankAt rules k ≤ n := by
  have hturn := fun r i => (rankAt_turn rules r i k).1
  have hcollect := fun r i => (rankAt_collect rules r i k).1
  by_cases hk : k ∈ List.range r.tasks.length
  · -- the turns leave at most a result to be collected, or take one off the rank
    have hafter : ((List.range r.tasks.length).foldl (turn rules) r).rankAt rules k ≤ max 1 n := by
      refine rankAt_foldl hturn (fun r' hr' => ?_) hk h
      have hown := (rankAt_turn rules r' k k).2 rfl
      omega
    refine rankAt_foldl hcollect (fun r' hr' => ?_) hk hafter
    have hle := (rankAt_collect rules r' k k).1
    by_cases hlow : r'.rankAt rules k ≤ 1
    · rw [(rankAt_collect rules r' k k).2 rfl hlow]
      exact Nat.zero_le n
    · omega
  · -- there is no task at the position
    have hnone : r.rankAt rules k = 0 := by
      have hlen : r.tasks.length ≤ k := by simpa using hk
      simp [rankAt, List.getElem?_eq_none hlen]
    have hzero : (r.sweepOnce rules).rankAt rules k ≤ r.rankAt rules k :=
      Nat.le_trans (rankAt_foldl_le hcollect _ _) (rankAt_foldl_le hturn _ _)
    omega

theorem isOver_sweep {n : Nat} (h : ∀ k, r.rankAt rules k ≤ n) : (sweep rules n r).isOver := by
  induction n generalizing r with
  | zero => exact isOver_of_rankAt fun k => Nat.le_zero.mp (h k)
  | succ n ih =>
    rw [sweep]
    split
    · assumption
    · exact ih fun k => rankAt_sweepOnce (h k)

/-- **A run can be finished from wherever it stands.** -/
theorem isOver_finish (rules : Rules σ) (r : Round σ) : (r.finish rules).isOver :=
  isOver_sweep (rankAt_le r)

end Round

end Assay.Run
