import Assay.Trigger.Loop
import Mathlib.Data.List.Induction

/-!
# How the loop of a trigger ends

Whatever happens to a trigger and in whatever order, its loop hands over one outcome at most, and as
long as it has not, its requests have all failed and are fewer than it takes to give up. `Trying` is
what holds until then, `Ending` says in which ways a loop ends, and every move keeps to
`Loop.Sound`.
-/

namespace Assay.Trigger

variable {t : Trigger} {l : Loop} {replies : List Reply}

/-- The requests so far have failed, and there are too few of them to give up. -/
structure Trying (t : Trigger) (replies : List Reply) : Prop where
  failed : ∀ r ∈ replies, ∃ e, t.verdict r = .error e
  fewer : 0 < t.times → replies.length < t.times

/-- How a loop ends after some replies. -/
inductive Ending (t : Trigger) (stopped : Bool) : List Reply → Except Error Unit → Prop where
  | stopped {replies : List Reply} (h : t.Trying replies) (hstopped : stopped = true) :
    Ending t stopped replies (.ok ())
  | succeeded {replies : List Reply} {r : Reply} (h : t.Trying replies)
      (hr : t.verdict r = .ok ()) : Ending t stopped (replies ++ [r]) (.ok ())
  | gaveUp {replies : List Reply} {r : Reply} {e : Error} (h : t.Trying replies)
      (hr : t.verdict r = .error e) (hlast : replies.length + 1 = t.times) :
    Ending t stopped (replies ++ [r]) (.error e)

theorem trying_nil (t : Trigger) : t.Trying [] :=
  ⟨by simp, fun h => h⟩

theorem Trying.concat (h : t.Trying replies) {r : Reply} {e : Error} (hr : t.verdict r = .error e)
    (hfewer : 0 < t.times → replies.length + 1 < t.times) : t.Trying (replies ++ [r]) where
  failed r' hr' := by
    rcases List.mem_append.mp hr' with hr' | hr'
    · exact h.failed r' hr'
    · rw [List.mem_singleton.mp hr']
      exact ⟨e, hr⟩
  fewer hpos := by simpa using hfewer hpos

theorem Trying.verdict_ne_ok (h : t.Trying replies) {r : Reply} (hr : r ∈ replies) :
    t.verdict r ≠ .ok () := by
  obtain ⟨e, he⟩ := h.failed r hr
  simp [he]

/-- A reason to end remains one when the trigger is stopped later. -/
theorem Ending.stop {stopped : Bool} {outcome : Except Error Unit}
    (h : t.Ending stopped replies outcome) : t.Ending true replies outcome := by
  cases h with
  | stopped htrying _ => exact .stopped htrying rfl
  | succeeded htrying hr => exact .succeeded htrying hr
  | gaveUp htrying hr hlast => exact .gaveUp htrying hr hlast

theorem Ending.length_le {stopped : Bool} {outcome : Except Error Unit}
    (h : t.Ending stopped replies outcome) (hpos : 0 < t.times) : replies.length ≤ t.times := by
  cases h with
  | stopped htrying _ => exact Nat.le_of_lt (htrying.fewer hpos)
  | succeeded htrying _ => simpa using Nat.succ_le_of_lt (htrying.fewer hpos)
  | gaveUp htrying _ hlast => simpa using Nat.le_of_eq hlast

/-- Only the last reply may be a success. -/
theorem Ending.last_of_success {stopped : Bool} {outcome : Except Error Unit}
    (h : t.Ending stopped replies outcome) {i : Nat} {r : Reply} (hi : replies[i]? = some r)
    (hr : t.verdict r = .ok ()) : i + 1 = replies.length := by
  have hlt := (List.getElem?_eq_some_iff.mp hi).1
  have hfront : ∀ {front : List Reply} {r' : Reply}, t.Trying front → replies = front ++ [r'] →
      i + 1 = replies.length := by
    rintro front r' htrying rfl
    by_contra hne
    rw [List.length_append, List.length_singleton] at hlt hne
    rw [List.getElem?_append_left (by omega)] at hi
    exact htrying.verdict_ne_ok (List.mem_of_getElem? hi) hr
  cases h with
  | stopped htrying _ => exact absurd hr (htrying.verdict_ne_ok (List.mem_of_getElem? hi))
  | succeeded htrying _ => exact hfront htrying rfl
  | gaveUp htrying _ _ => exact hfront htrying rfl

/-- A loop that ends well was answered with success in the end, or it was stopped. -/
theorem Ending.of_ok {stopped : Bool} (h : t.Ending stopped replies (.ok ())) :
    (∃ r, replies.getLast? = some r ∧ t.verdict r = .ok ()) ∨ stopped = true := by
  cases h with
  | stopped _ hstopped => exact .inr hstopped
  | succeeded _ hr => exact .inl ⟨_, List.getLast?_concat, hr⟩

theorem Ending.of_nil {stopped : Bool} {outcome : Except Error Unit}
    (h : t.Ending stopped replies outcome) (hnil : replies = []) : outcome = .ok () := by
  cases h with
  | stopped _ _ => rfl
  | succeeded _ _ => rfl
  | gaveUp _ _ _ => simp at hnil

/-- A loop that ends with an error has made all of its requests, and hands over what was wrong with
the last one. -/
theorem Ending.of_error {stopped : Bool} {e : Error} (h : t.Ending stopped replies (.error e)) :
    1 ≤ t.times ∧ replies.length = t.times ∧ (∀ r ∈ replies, ∃ e', t.verdict r = .error e') ∧
      ∃ r, replies[t.times - 1]? = some r ∧ t.verdict r = .error e := by
  cases h with
  | @gaveUp replies r _ htrying hr hlast =>
    refine ⟨by omega, by simpa using hlast, fun r' hr' => ?_, r, by simp [← hlast], hr⟩
    rcases List.mem_append.mp hr' with hr' | hr'
    · exact htrying.failed r' hr'
    · rw [List.mem_singleton.mp hr']
      exact ⟨e, hr⟩

/-! ## Single moves -/

/-- **The counter does not wrap**: it stays where it is once there is no more room. -/
theorem toNat_countUp (n : UInt32) : (countUp n).toNat = min (n.toNat + 1) maxCounted := by
  have hmax : maxCounted = 4294967295 := rfl
  have hlt := n.toNat_lt
  unfold countUp
  split
  · omega
  · rw [UInt32.toNat_add, UInt32.toNat_one]
    omega

namespace Loop

/-- What a look comes to. -/
theorem look_cases (l : Loop) (tickFirst : Bool) :
    (l.stage = .waiting ∧ 0 < l.due ∧ l.look tickFirst = l.ask) ∨
    (l.stage = .waiting ∧ l.stopped = true ∧ l.look tickFirst = l.finish (.ok ())) ∨
    ((l.stage = .waiting → l.due = 0 ∧ l.stopped = false) ∧ l.look tickFirst = l) := by
  unfold look
  by_cases hstage : l.stage = .waiting
  · cases hstopped : l.stopped <;> cases tickFirst <;> by_cases hdue : 0 < l.due <;>
      simp_all
  · simp [hstage]

/-- What the end of a request comes to, if one is under way. -/
theorem reply_cases (t : Trigger) (r : Reply) (hstage : l.stage = .asking) :
    (t.verdict r = .ok () ∧ l.reply t r =
      { l with stage := .ended, replies := l.replies ++ [r], delivered := l.delivered ++ [.ok ()] }) ∨
    ∃ e, t.verdict r = .error e ∧
      ((0 < t.times ∧ t.times ≤ l.sent.toNat ∧ l.reply t r =
          { l with
            stage := .ended
            replies := l.replies ++ [r]
            delivered := l.delivered ++ [.error e] }) ∨
        ((0 < t.times → l.sent.toNat < t.times) ∧
          l.reply t r = { l with stage := .waiting, replies := l.replies ++ [r] })) := by
  cases hr : t.verdict r with
  | ok u => exact .inl ⟨rfl, by simp [reply, hstage, hr, finish]⟩
  | error e =>
    refine .inr ⟨e, rfl, ?_⟩
    by_cases hlast : 0 < t.times ∧ t.times ≤ l.sent.toNat
    · exact .inl ⟨hlast.1, hlast.2, by simp [reply, hstage, hr, finish, hlast]⟩
    · refine .inr ⟨fun hpos => ?_, by simp [reply, hstage, hr, hlast]⟩
      exact Nat.lt_of_not_le fun hle => hlast ⟨hpos, hle⟩

theorem reply_of_ne (t : Trigger) (r : Reply) (hstage : l.stage ≠ .asking) : l.reply t r = l := by
  simp [reply, hstage]

/-! ## What every move keeps to -/

/-- What holds of a loop whatever has happened. -/
structure Sound (t : Trigger) (l : Loop) : Prop where
  counted : l.sent.toNat = min l.requests maxCounted
  unfinished : l.stage ≠ .ended → t.Trying l.replies ∧ l.delivered = []
  finished : l.stage = .ended → ∃ outcome, l.delivered = [outcome] ∧
    t.Ending l.stopped l.replies outcome

theorem sound_initial (t : Trigger) : Sound t {} where
  counted := rfl
  unfinished _ := ⟨trying_nil t, rfl⟩
  finished h := by cases h

theorem Sound.stop (h : Sound t l) : Sound t { l with stopped := true } where
  counted := h.counted
  unfinished := h.unfinished
  finished hended := by
    obtain ⟨outcome, hdelivered, hending⟩ := h.finished hended
    exact ⟨outcome, hdelivered, hending.stop⟩

theorem Sound.tick (h : Sound t l) : Sound t { l with due := l.due + 1 } :=
  ⟨h.counted, h.unfinished, h.finished⟩

theorem Sound.look (h : Sound t l) (tickFirst : Bool) : Sound t (l.look tickFirst) := by
  rcases look_cases l tickFirst with ⟨hstage, -, hlook⟩ | ⟨hstage, hstopped, hlook⟩ | ⟨-, hlook⟩
  · rw [hlook]
    have hcounted := h.counted
    refine ⟨?_, fun _ => h.unfinished (by simp [hstage]), fun hended => by cases hended⟩
    simp only [requests, hstage, reduceCtorEq, if_false] at hcounted
    simp only [ask, requests, toNat_countUp, hcounted, if_true]
    omega
  · rw [hlook]
    obtain ⟨htrying, hdelivered⟩ := h.unfinished (by simp [hstage])
    refine ⟨?_, fun hne => absurd rfl hne, fun _ => ⟨.ok (), ?_, .stopped htrying hstopped⟩⟩
    · simpa [requests, finish, hstage] using h.counted
    · simp [finish, hdelivered]
  · rwa [hlook]

theorem Sound.reply (h : Sound t l) (htimes : t.times < Number.words32) (r : Reply) :
    Sound t (l.reply t r) := by
  by_cases hstage : l.stage = .asking
  · obtain ⟨htrying, hdelivered⟩ := h.unfinished (by simp [hstage])
    have hcounted := h.counted
    have hmax : maxCounted = Number.words32 - 1 := rfl
    simp only [requests, hstage, if_true] at hcounted
    -- the request that ends is counted already
    rcases reply_cases t r hstage with ⟨hr, hreply⟩ | ⟨e, hr, ⟨hpos, hlast, hreply⟩ | ⟨hmore, hreply⟩⟩
    · rw [hreply]
      refine ⟨by simpa [requests] using hcounted, fun hne => absurd rfl hne, fun _ => ?_⟩
      exact ⟨.ok (), by simp [hdelivered], .succeeded htrying hr⟩
    · rw [hreply]
      refine ⟨by simpa [requests] using hcounted, fun hne => absurd rfl hne, fun _ => ?_⟩
      have hfewer := htrying.fewer hpos
      exact ⟨.error e, by simp [hdelivered], .gaveUp htrying hr (by omega)⟩
    · rw [hreply]
      refine ⟨by simpa [requests] using hcounted, fun _ => ⟨htrying.concat hr fun hpos => ?_,
        hdelivered⟩, fun hended => by cases hended⟩
      have hbelow := hmore hpos
      omega
  · rwa [reply_of_ne t r hstage]

theorem Sound.move (h : Sound t l) (htimes : t.times < Number.words32) (m : Move) :
    Sound t (l.move t m) := by
  cases m with
  | stop => exact h.stop
  | tick => exact h.tick
  | look tickFirst => exact h.look tickFirst
  | reply r => exact h.reply htimes r

theorem requests_of_ne (h : l.stage ≠ .asking) : l.requests = l.replies.length := by
  simp [requests, h]

theorem Sound.ending (h : Sound t l) {outcome : Except Error Unit} (ho : outcome ∈ l.delivered) :
    l.requests = l.replies.length ∧ t.Ending l.stopped l.replies outcome := by
  by_cases hstage : l.stage = .ended
  · obtain ⟨outcome', hdelivered, hending⟩ := h.finished hstage
    rw [hdelivered, List.mem_singleton] at ho
    exact ⟨requests_of_ne (by simp [hstage]), ho ▸ hending⟩
  · rw [(h.unfinished hstage).2] at ho
    cases ho

theorem Sound.delivered_length_le (h : Sound t l) : l.delivered.length ≤ 1 := by
  by_cases hstage : l.stage = .ended
  · obtain ⟨outcome, hdelivered, -⟩ := h.finished hstage
    simp [hdelivered]
  · simp [(h.unfinished hstage).2]

theorem Sound.requests_le (h : Sound t l) (hpos : 0 < t.times) : l.requests ≤ t.times := by
  by_cases hstage : l.stage = .ended
  · obtain ⟨outcome, -, hending⟩ := h.finished hstage
    rw [requests_of_ne (by simp [hstage])]
    exact hending.length_le hpos
  · have hfewer := (h.unfinished hstage).1.fewer hpos
    rw [requests]
    split <;> omega

theorem Sound.last_of_success (h : Sound t l) {i : Nat} {r : Reply} (hi : l.replies[i]? = some r)
    (hr : t.verdict r = .ok ()) : i + 1 = l.requests := by
  by_cases hstage : l.stage = .ended
  · obtain ⟨outcome, -, hending⟩ := h.finished hstage
    rw [requests_of_ne (by simp [hstage])]
    exact hending.last_of_success hi hr
  · exact absurd hr ((h.unfinished hstage).1.verdict_ne_ok (List.mem_of_getElem? hi))

/-! ## Loops that are over -/

/-- Nothing that happens to a loop that is over is seen from outside. -/
theorem move_of_ended (hended : l.stage = .ended) (m : Move) :
    (l.move t m).stage = .ended ∧ (l.move t m).replies = l.replies ∧
      (l.move t m).delivered = l.delivered := by
  cases m with
  | stop => exact ⟨hended, rfl, rfl⟩
  | tick => exact ⟨hended, rfl, rfl⟩
  | look tickFirst =>
    have hlook : l.look tickFirst = l := by simp [look, hended]
    simp [move, hlook, hended]
  | reply r =>
    have hreply := reply_of_ne t r (l := l) (by simp [hended])
    simp [move, hreply, hended]

theorem foldl_move_of_ended (hended : l.stage = .ended) (moves : List Move) :
    (moves.foldl (move t) l).stage = .ended ∧ (moves.foldl (move t) l).replies = l.replies ∧
      (moves.foldl (move t) l).delivered = l.delivered := by
  induction moves generalizing l with
  | nil => exact ⟨hended, rfl, rfl⟩
  | cons m moves ih =>
    obtain ⟨hstage, hreplies, hdelivered⟩ := move_of_ended (t := t) hended m
    rw [List.foldl_cons, ← hreplies, ← hdelivered]
    exact ih hstage

/-- No request is ever taken back. -/
theorem requests_le_move (t : Trigger) (l : Loop) (m : Move) :
    l.requests ≤ (l.move t m).requests := by
  cases m with
  | stop => exact Nat.le_refl _
  | tick => exact Nat.le_refl _
  | look tickFirst =>
    rcases look_cases l tickFirst with ⟨hstage, -, h⟩ | ⟨hstage, -, h⟩ | ⟨-, h⟩
    · simp [move, h, requests, ask, hstage]
    · simp [move, h, requests, finish, hstage]
    · simp [move, h]
  | reply r =>
    by_cases hstage : l.stage = .asking
    · rcases reply_cases t r hstage with ⟨-, h⟩ | ⟨e, -, ⟨-, -, h⟩ | ⟨-, h⟩⟩ <;>
        simp [move, h, requests, hstage]
    · simp [move, reply_of_ne t r hstage]

end Loop

/-! ## Courses -/

theorem play_append (t : Trigger) (front back : List Move) :
    t.play (front ++ back) = back.foldl (Loop.move t) (t.play front) :=
  List.foldl_append

theorem play_concat (t : Trigger) (moves : List Move) (m : Move) :
    t.play (moves ++ [m]) = (t.play moves).move t m :=
  play_append t moves [m]

/-- **Every course keeps to the invariant.** -/
theorem sound_play (t : Trigger) (htimes : t.times < Number.words32) (moves : List Move) :
    (t.play moves).Sound t := by
  induction moves using List.reverseRecOn with
  | nil => exact Loop.sound_initial t
  | append_singleton moves m ih =>
    rw [play_concat]
    exact ih.move htimes m

/-- Just stopping a trigger makes it stopped. -/
theorem stopped_play (t : Trigger) (moves : List Move) :
    (t.play moves).stopped = true ↔ .stop ∈ moves := by
  induction moves using List.reverseRecOn with
  | nil => simp [play]
  | append_singleton moves m ih =>
    rw [play_concat, List.mem_append, List.mem_singleton, ← ih]
    cases m with
    | stop => simp [Loop.move]
    | tick => simp [Loop.move]
    | look tickFirst =>
      rcases Loop.look_cases (t.play moves) tickFirst with ⟨-, -, h⟩ | ⟨-, -, h⟩ | ⟨-, h⟩ <;>
        simp [Loop.move, h, Loop.ask, Loop.finish]
    | reply r =>
      by_cases hstage : (t.play moves).stage = .asking
      · rcases Loop.reply_cases t r hstage with ⟨-, h⟩ | ⟨e, -, ⟨-, -, h⟩ | ⟨-, h⟩⟩ <;>
          simp [Loop.move, h]
      · simp [Loop.move, Loop.reply_of_ne t r hstage]

/-- A loop makes no request before the first tick. -/
theorem idle_play {moves : List Move} (h : .tick ∉ moves) :
    (t.play moves).stage ≠ .asking ∧ (t.play moves).due = 0 ∧ (t.play moves).replies = [] := by
  induction moves using List.reverseRecOn with
  | nil => simp [play]
  | append_singleton moves m ih =>
    rw [List.mem_append, List.mem_singleton, not_or] at h
    obtain ⟨hstage, hdue, hreplies⟩ := ih h.1
    rw [play_concat]
    cases m with
    | stop => exact ⟨hstage, hdue, hreplies⟩
    | tick => exact absurd rfl h.2
    | look tickFirst =>
      rcases Loop.look_cases (t.play moves) tickFirst with ⟨-, hpos, -⟩ | ⟨-, -, hlook⟩ | ⟨-, hlook⟩
      · omega
      · simp [Loop.move, hlook, Loop.finish, hdue, hreplies]
      · simp only [Loop.move, hlook]
        exact ⟨hstage, hdue, hreplies⟩
    | reply r =>
      simp only [Loop.move, Loop.reply_of_ne t r hstage]
      exact ⟨hstage, hdue, hreplies⟩

/-- **A loop that is stopped and looks while no tick is due**, or goes by the stop all the same,
ends well and makes no more requests. -/
theorem play_stopped {front : List Move} {tickFirst : Bool} (htimes : t.times < Number.words32)
    (hstop : .stop ∈ front) (hstage : (t.play front).stage = .waiting)
    (hstopFirst : (t.play front).due = 0 ∨ tickFirst = false) (back : List Move) :
    (t.play (front ++ .look tickFirst :: back)).requests = (t.play front).requests ∧
      (t.play (front ++ .look tickFirst :: back)).delivered = [.ok ()] := by
  have hstopped := (stopped_play t front).mpr hstop
  obtain ⟨-, hdelivered⟩ := (sound_play t htimes front).unfinished (by simp [hstage])
  have hlook : (t.play front).look tickFirst = (t.play front).finish (.ok ()) := by
    rcases hstopFirst with hdue | rfl
    · simp [Loop.look, hstage, hstopped, hdue]
    · simp [Loop.look, hstage, hstopped]
  have hended : ((t.play front).finish (.ok ())).stage = .ended := rfl
  obtain ⟨hend, hreplies, hout⟩ := Loop.foldl_move_of_ended (t := t) hended back
  rw [play_append, List.foldl_cons, Loop.move, hlook, hout]
  refine ⟨?_, by simp [Loop.finish, hdelivered]⟩
  rw [Loop.requests_of_ne (by simp [hend]), hreplies, Loop.requests_of_ne (by simp [hstage])]
  rfl

/-- **A loop that goes by a tick that is due** makes a request, even if it is stopped. -/
theorem play_overtaken {front : List Move} (hstage : (t.play front).stage = .waiting)
    (hdue : 0 < (t.play front).due) :
    (t.play (front ++ [.look true])).requests = (t.play front).requests + 1 := by
  have hlook : (t.play front).look true = (t.play front).ask := by
    simp [Loop.look, hstage, hdue]
  rw [play_concat, Loop.move, hlook]
  simp [Loop.ask, Loop.requests, hstage]

/-- A loop that is stopped and looks before the first tick makes no request. -/
theorem play_stopped_first {front : List Move} (htimes : t.times < Number.words32)
    (hstop : .stop ∈ front) (htick : .tick ∉ front) (tickFirst : Bool) (back : List Move) :
    (t.play (front ++ .look tickFirst :: back)).requests = 0 ∧
      (t.play (front ++ .look tickFirst :: back)).delivered = [.ok ()] := by
  obtain ⟨hasking, hdue, hreplies⟩ := idle_play (t := t) htick
  have hnone : (t.play front).requests = 0 := by
    rw [Loop.requests_of_ne hasking, hreplies, List.length_nil]
  cases hstage : (t.play front).stage with
  | waiting => exact hnone ▸ play_stopped htimes hstop hstage (.inl hdue) back
  | asking => exact absurd hstage hasking
  | ended =>
    -- it has looked before, and without a reply only a stop ends a loop
    obtain ⟨outcome, hdelivered, hending⟩ := (sound_play t htimes front).finished hstage
    obtain ⟨hend, hsame, hout⟩ := Loop.foldl_move_of_ended (t := t) hstage (.look tickFirst :: back)
    rw [play_append, hout, hdelivered, hending.of_nil hreplies, Loop.requests_of_ne (hend ▸ by decide),
      hsame, hreplies]
    exact ⟨rfl, rfl⟩

/-! ## Courses under signals -/

theorem course_concat (t : Trigger) (signals : List Signal) (s : Signal) :
    t.course (signals ++ [s]) = t.step (t.course signals) s := by
  simp [course]

theorem step_tick_ok {r : Reply} (hr : t.verdict r = .ok ()) (n : Nat) :
    t.step ⟨n, none⟩ (.tick r) = ⟨n + 1, some (.ok ())⟩ := by
  simp [step, hr]

theorem step_tick_error {r : Reply} {e : Error} (hr : t.verdict r = .error e) (n : Nat) :
    t.step ⟨n, none⟩ (.tick r) =
      ⟨n + 1, if t.givesUp (n + 1) then some (.error e) else none⟩ := by
  simp [step, hr]

/-- How far a loop has come that looks at every signal at once. -/
inductive Follows : Loop → Progress → Prop where
  | waiting {l : Loop} {n : Nat} (hstage : l.stage = .waiting) (hdue : l.due = 0)
      (hstopped : l.stopped = false) (hreplies : l.replies.length = n)
      (hsent : l.sent.toNat = min n maxCounted) (hdelivered : l.delivered = []) :
    Follows l ⟨n, none⟩
  | ended {l : Loop} {n : Nat} {outcome : Except Error Unit} (hstage : l.stage = .ended)
      (hreplies : l.replies.length = n) (hdelivered : l.delivered = [outcome]) :
    Follows l ⟨n, some outcome⟩

theorem Follows.eq {p : Progress} (h : Follows l p) : p = ⟨l.requests, l.delivered.head?⟩ := by
  cases h with
  | waiting hstage hdue hstopped hreplies hsent hdelivered =>
    rw [Loop.requests_of_ne (by simp [hstage]), hreplies, hdelivered, List.head?_nil]
  | ended hstage hreplies hdelivered =>
    rw [Loop.requests_of_ne (by simp [hstage]), hreplies, hdelivered, List.head?_cons]

theorem Follows.step {p : Progress} (h : Follows l p) (s : Signal) :
    Follows (s.moves.foldl (Loop.move t) l) (t.step p s) := by
  cases h with
  | ended hstage hreplies hdelivered =>
    obtain ⟨hend, hsame, hout⟩ := Loop.foldl_move_of_ended (t := t) hstage s.moves
    exact .ended hend (hsame ▸ hreplies) (hout.trans hdelivered)
  | @waiting n hstage hdue hstopped hreplies hsent hdelivered =>
    cases s with
    | stop =>
      have hend : Signal.stop.moves.foldl (Loop.move t) l =
          { l with stopped := true }.finish (.ok ()) := by
        simp [Signal.moves, Loop.move, Loop.look, hstage, hdue]
      rw [hend]
      exact .ended rfl hreplies (by simp [Loop.finish, hdelivered])
    | tick r =>
      have hask : (Signal.tick r).moves.foldl (Loop.move t) l =
          (Loop.ask { l with due := l.due + 1 }).reply t r := by
        simp [Signal.moves, Loop.move, Loop.look, hstage]
      have hcount : (countUp l.sent).toNat = min (n + 1) maxCounted := by
        rw [toNat_countUp, hsent]
        omega
      rw [hask]
      rcases Loop.reply_cases t r (l := Loop.ask { l with due := l.due + 1 }) rfl with
        ⟨hr, hreply⟩ | ⟨e, hr, ⟨hpos, hlast, hreply⟩ | ⟨hmore, hreply⟩⟩
      · rw [hreply, step_tick_ok hr]
        exact .ended rfl (by simp [Loop.ask, hreplies]) (by simp [Loop.ask, hdelivered])
      · have hgive : t.givesUp (n + 1) = true := by
          simpa [givesUp, Loop.ask, hcount, hpos] using hlast
        rw [hreply, step_tick_error hr, if_pos hgive]
        exact .ended rfl (by simp [Loop.ask, hreplies]) (by simp [Loop.ask, hdelivered])
      · have hgive : ¬ t.givesUp (n + 1) = true := by
          simp only [Loop.ask, hcount] at hmore
          simp only [givesUp, Bool.and_eq_true, decide_eq_true_eq]
          rintro ⟨hpos, hle⟩
          exact absurd hle (Nat.not_le_of_lt (hmore hpos))
        rw [hreply, step_tick_error hr, if_neg hgive]
        exact .waiting rfl (by simp [Loop.ask, hdue]) hstopped (by simp [Loop.ask, hreplies]) hcount
          hdelivered

/-- **A course under signals** is that of a loop that looks at every signal at once. -/
theorem course_eq_play (t : Trigger) (signals : List Signal) :
    t.course signals = ⟨(t.play (signals.flatMap Signal.moves)).requests,
      (t.play (signals.flatMap Signal.moves)).delivered.head?⟩ := by
  refine Follows.eq ?_
  induction signals using List.reverseRecOn with
  | nil => exact .waiting rfl rfl rfl rfl rfl rfl
  | append_singleton signals s ih =>
    rw [course_concat, List.flatMap_append, List.flatMap_singleton, play_append]
    exact ih.step s

/-- Under a stop in front of all other signals there is no request. -/
theorem course_stop (htimes : t.times < Number.words32) (signals : List Signal) :
    t.course (.stop :: signals) = ⟨0, some (.ok ())⟩ := by
  have hfirst : (Signal.stop :: signals).flatMap Signal.moves =
      [.stop] ++ .look false :: signals.flatMap Signal.moves := rfl
  obtain ⟨hnone, hok⟩ := play_stopped_first htimes (List.mem_singleton_self _) (by decide) false
    (signals.flatMap Signal.moves)
  rw [course_eq_play, hfirst, hnone, hok, List.head?_cons]

theorem Trying.course (h : t.Trying replies) :
    t.course (replies.map .tick) = ⟨replies.length, none⟩ := by
  induction replies using List.reverseRecOn with
  | nil => rfl
  | append_singleton replies r ih =>
    obtain ⟨e, hr⟩ := h.failed r (by simp)
    have hfewer : 0 < t.times → replies.length + 1 < t.times := by simpa using h.fewer
    have htrying : t.Trying replies :=
      ⟨fun r' hr' => h.failed r' (by simp [hr']), fun hpos => Nat.lt_of_succ_lt (hfewer hpos)⟩
    have hgive : ¬ t.givesUp (replies.length + 1) = true := by
      simp only [givesUp, Bool.and_eq_true, decide_eq_true_eq]
      omega
    rw [List.map_append, List.map_singleton, course_concat, ih htrying, step_tick_error hr,
      if_neg hgive, List.length_append, List.length_singleton]

theorem Ending.exists_course {stopped : Bool} {outcome : Except Error Unit}
    (htimes : t.times < Number.words32) (h : t.Ending stopped replies outcome) :
    ∃ signals, t.course signals = ⟨replies.length, some outcome⟩ := by
  cases h with
  | stopped htrying _ =>
    refine ⟨replies.map .tick ++ [.stop], ?_⟩
    rw [course_concat, htrying.course]
    rfl
  | @succeeded replies r htrying hr =>
    refine ⟨replies.map .tick ++ [.tick r], ?_⟩
    rw [course_concat, htrying.course, step_tick_ok hr, List.length_append, List.length_singleton]
  | @gaveUp replies r e htrying hr hlast =>
    have hmax : maxCounted = Number.words32 - 1 := rfl
    have hgive : t.givesUp (replies.length + 1) = true := by
      simp only [givesUp, Bool.and_eq_true, decide_eq_true_eq]
      omega
    refine ⟨replies.map .tick ++ [.tick r], ?_⟩
    rw [course_concat, htrying.course, step_tick_error hr, if_pos hgive, List.length_append,
      List.length_singleton]

/-- **What a loop hands over** is how some course under signals ends. -/
theorem exists_course (htimes : t.times < Number.words32) (moves : List Move) :
    ∃ signals, t.course signals =
      ⟨(t.play moves).replies.length, (t.play moves).delivered.head?⟩ := by
  have hsound := sound_play t htimes moves
  by_cases hstage : (t.play moves).stage = .ended
  · obtain ⟨outcome, hdelivered, hending⟩ := hsound.finished hstage
    rw [hdelivered]
    exact hending.exists_course htimes
  · obtain ⟨htrying, hdelivered⟩ := hsound.unfinished hstage
    rw [hdelivered]
    exact ⟨_, htrying.course⟩

/-- **A trigger keeps its word**, whenever it is stopped, its clock ticks and its requests end. It
hands over one outcome at most. That is an error only if it is to give up at all, has made just as
many requests as it may and all have failed, and then it is what was wrong with the last one. It is
a success only if the last request was one or the trigger was stopped. No request follows on a
success, and there are no more of them than allowed. If the trigger is stopped and its loop looks
before the first tick, there is no request and the outcome is a success. Whenever a loop looks that
is stopped, it ends like this if no tick is due or it goes by the stop, and otherwise it makes one
more request. The counter of 32 bits never wraps. Courses under signals are courses of the loop, and
they show all of its outcomes. -/
theorem play_delivers (t : Trigger) (htimes : t.times < Number.words32) :
    (∀ signals, t.course signals = ⟨(t.play (signals.flatMap Signal.moves)).requests,
      (t.play (signals.flatMap Signal.moves)).delivered.head?⟩) ∧
    (∀ signals, t.course (.stop :: signals) = ⟨0, some (.ok ())⟩) ∧
    ∀ moves,
      (∃ signals, t.course signals =
        ⟨(t.play moves).replies.length, (t.play moves).delivered.head?⟩) ∧
      (t.play moves).delivered.length ≤ 1 ∧
      (∀ e, .error e ∈ (t.play moves).delivered →
        1 ≤ t.times ∧ (t.play moves).requests = t.times ∧
        (t.play moves).replies.length = t.times ∧
        (∀ r ∈ (t.play moves).replies, ∃ e', t.verdict r = .error e') ∧
        ∃ r, (t.play moves).replies[t.times - 1]? = some r ∧ t.verdict r = .error e) ∧
      (.ok () ∈ (t.play moves).delivered →
        ((t.play moves).requests = (t.play moves).replies.length ∧
          ∃ r, (t.play moves).replies.getLast? = some r ∧ t.verdict r = .ok ()) ∨
        .stop ∈ moves) ∧
      (∀ (i : Nat) (r : Reply), (t.play moves).replies[i]? = some r → t.verdict r = .ok () →
        i + 1 = (t.play moves).requests) ∧
      (1 ≤ t.times → (t.play moves).requests ≤ t.times) ∧
      (t.times = 0 → ∀ e, .error e ∉ (t.play moves).delivered) ∧
      (∀ tickFirst back, .stop ∈ moves → .tick ∉ moves →
        (t.play (moves ++ .look tickFirst :: back)).requests = 0 ∧
        (t.play (moves ++ .look tickFirst :: back)).delivered = [.ok ()]) ∧
      (.stop ∈ moves → (t.play moves).stage = .waiting →
        (∀ tickFirst back, (t.play moves).due = 0 ∨ tickFirst = false →
          (t.play (moves ++ .look tickFirst :: back)).requests = (t.play moves).requests ∧
          (t.play (moves ++ .look tickFirst :: back)).delivered = [.ok ()]) ∧
        (0 < (t.play moves).due →
          (t.play (moves ++ [.look true])).requests = (t.play moves).requests + 1)) ∧
      (t.play moves).sent.toNat = min (t.play moves).requests maxCounted ∧
      ∀ m, (t.play moves).sent ≤ (t.play (moves ++ [m])).sent := by
  refine ⟨course_eq_play t, course_stop htimes, fun moves => ?_⟩
  have hsound := sound_play t htimes moves
  refine ⟨exists_course htimes moves, hsound.delivered_length_le, fun e he => ?_, fun hok => ?_,
    fun i r hi hr => hsound.last_of_success hi hr, hsound.requests_le, fun hzero e he => ?_,
    fun tickFirst back hstop htick => ?_, fun hstop hstage => ⟨fun tickFirst back h => ?_, ?_⟩,
    hsound.counted, fun m => ?_⟩
  · obtain ⟨hrequests, hending⟩ := hsound.ending he
    obtain ⟨hpos, hlength, hfailed, hlast⟩ := hending.of_error
    exact ⟨hpos, hrequests.trans hlength, hlength, hfailed, hlast⟩
  · obtain ⟨hrequests, hending⟩ := hsound.ending hok
    rw [← stopped_play t moves]
    exact hending.of_ok.imp_left fun hlast => ⟨hrequests, hlast⟩
  · have hpos := (hsound.ending he).2.of_error.1
    omega
  · exact play_stopped_first htimes hstop htick tickFirst back
  · exact play_stopped htimes hstop hstage h back
  · exact play_overtaken hstage
  · rw [UInt32.le_iff_toNat_le, hsound.counted, (sound_play t htimes _).counted, play_concat]
    have hle := Loop.requests_le_move t (t.play moves) m
    omega

/-- A trigger that gives up after two requests. -/
def twice : Trigger :=
  { nanos := 20000000, times := 2,
    request := { url := "http://gateway/users", method := "POST", body := "", headers := [] } }

/-- A trigger that is stopped while its first request is under way. Two ticks have come by then, and
when the loop looks again it goes by the second one. -/
def lateStop : List Move :=
  [.tick, .look false, .tick, .stop, .reply (.status 502), .look true, .reply .unreachable]

theorem play_delivers_lateStop :
    twice.times < Number.words32 ∧
    (.error (.unreachable "http://gateway/users") ∈ (twice.play lateStop).delivered ∧
      (twice.play lateStop).requests = 2 ∧
      ∃ r, (twice.play lateStop).replies[1]? = some r ∧
        twice.verdict r = .error (.unreachable "http://gateway/users")) ∧
    .stop ∈ [Move.stop] ∧ .tick ∉ [Move.stop] ∧
      (twice.play ([.stop] ++ .look true :: lateStop)).delivered = [.ok ()] := by
  have htimes : twice.times < Number.words32 := by decide
  have herror : .error (.unreachable "http://gateway/users") ∈ (twice.play lateStop).delivered :=
    List.mem_singleton_self _
  obtain ⟨-, -, hall⟩ := play_delivers twice htimes
  obtain ⟨-, -, hgaveUp, -⟩ := hall lateStop
  obtain ⟨-, hrequests, -, -, hlast⟩ := hgaveUp _ herror
  obtain ⟨-, -, -, -, -, -, -, hstopped, -⟩ := hall [.stop]
  have hok := hstopped true lateStop (by decide) (by decide)
  exact ⟨htimes, ⟨herror, hrequests, hlast⟩, by decide, by decide, hok.2⟩

/-- **A stop may come before the first tick and be too late.** The loop has not looked by the time
of the tick and goes by it, so a request is made, and what is handed over is that it has failed. -/
theorem stop_overtaken :
    let once : Trigger := { twice with times := 1 }
    let moves : List Move := [.stop, .tick, .look true, .reply .unreachable]
    (once.play moves).requests = 1 ∧
      (once.play moves).delivered = [.error (.unreachable "http://gateway/users")] :=
  ⟨rfl, rfl⟩

end Assay.Trigger
