import Assay.Predicate.Cache
import Assay.SideBySide

/-!
# Work on a shared cache

Work takes its predicates from a cache. A call takes one atomic step if the look-up finds an entry
and two if not, and may branch on what it gets. Work may also have two parts that go on side by
side, as all users of one cache do, and if these are parts of one comparison, the failure of one may
put an end to the other. A schedule says which part makes the next step, by the path that leads
there; the history of a cache is what the steps did.
-/

namespace Assay.Predicate

open SideBySide (values failures)

/-- Work that takes predicates from a cache. -/
inductive Work : Type → Type 1 where
  /-- Nothing is left to do. -/
  | done {α : Type} (a : α) : Work α
  /-- The entry for a text is to be looked up. -/
  | lookUp {α : Type} (text : String) (next : Prepared → Work α) : Work α
  /-- The entry for a text was not found, and is to be inserted unless it is there by now. -/
  | insert {α : Type} (text : String) (next : Prepared → Work α) : Work α
  /-- Two parts go on side by side. -/
  | both {α β γ : Type} (left : Work β) (right : Work γ) (next : β → γ → Work α) : Work α
  /-- Two parts that can fail go on side by side. Once one of them has failed, the other may be
  given up wherever it stands. -/
  | race {ε α β γ : Type} (left : Work (Except ε β)) (right : Work (Except ε γ))
      (next : Except ε (β × γ) → Work α) : Work α

namespace Work

/-- Work followed by what it gives rise to. -/
def bind {α β : Type} : Work α → (α → Work β) → Work β
  | .done a, f => f a
  | .lookUp text next, f => .lookUp text fun p => (next p).bind f
  | .insert text next, f => .insert text fun p => (next p).bind f
  | .both left right next, f => .both left right fun b c => (next b c).bind f
  | .race left right next, f => .race left right fun r => (next r).bind f

instance : Monad Work where
  pure := done
  bind := bind

/-- Takes the predicate that a text stands for from the cache. -/
def parse (text : String) : Work Prepared :=
  .lookUp text .done

/-- Applies the predicate that a text stands for. -/
def evaluate (text actual : String) : Work (Except Error Unit) := do
  return (← parse text).evaluate actual

/-- Two pieces of work, side by side. -/
def alongside {α β : Type} (left : Work α) (right : Work β) : Work (α × β) :=
  .both left right fun a b => .done (a, b)

/-- The work for every element of a list, all side by side. Once some of it has failed, the rest may
be given up. -/
def inParallel {ε α β : Type} (f : α → Work (Except ε β)) : List α → Work (Except ε (List β))
  | [] => .done (.ok [])
  | a :: as => .race (f a) (inParallel f as) fun r => .done (r.map fun (b, bs) => b :: bs)

/-- What two parts may come to together, given what each of them may come to. -/
def paired {β γ : Type} (lefts : List β) (rights : List γ) : List (β × γ) :=
  lefts.flatMap fun b => rights.map fun d => (b, d)

/-- What a race may come to, given what each of its parts may come to: the values of both, or the
failure of one. -/
def raced {ε β γ : Type} (lefts : List (Except ε β)) (rights : List (Except ε γ)) :
    List (Except ε (β × γ)) :=
  (paired (values lefts) (values rights)).map .ok ++ (failures lefts ++ failures rights).map .error

/-- What work may come to for a user who prepares every predicate anew. Work in which nothing races
comes to one value. -/
def outcomes {α : Type} (engine : Regex.Engine) : Work α → List α
  | .done a => [a]
  | .lookUp text next => (next ((Predicate.parse text).ready engine)).outcomes engine
  | .insert text next => (next ((Predicate.parse text).ready engine)).outcomes engine
  | .both left right next =>
    (paired (left.outcomes engine) (right.outcomes engine)).flatMap fun p =>
      (next p.1 p.2).outcomes engine
  | .race left right next =>
    (raced (left.outcomes engine) (right.outcomes engine)).flatMap fun r => (next r).outcomes engine

end Work

/-- What an atomic step does. -/
inductive Event where
  /-- The look-up of a text found an entry. -/
  | found (text : String) (entry : Nat) (prepared : Prepared)
  /-- The look-up of a text found nothing. -/
  | missed (text : String)
  /-- The insertion of a text came to an entry, which is new if the text was not there by then. -/
  | inserted (text : String) (entry : Nat) (prepared : Prepared) (isNew : Bool)
  /-- Two parts that are done were joined. -/
  | joined
  /-- One of two parts has failed, and the other was given up. -/
  | givenUp

namespace Event

/-- The text that a step parsed, if it parsed one. -/
def parsed? : Event → Option String
  | .inserted text _ _ true => some text
  | _ => none

/-- The text that a step inserted, whether or not it was there. -/
def inserted? : Event → Option String
  | .inserted text _ _ _ => some text
  | _ => none

/-- What a call obtained for which text, and as which entry, if the step ends a call. -/
def answer? : Event → Option (String × Nat × Prepared)
  | .found text entry prepared => some (text, entry, prepared)
  | .inserted text entry prepared _ => some (text, entry, prepared)
  | _ => none

end Event

/-- One of two parts. -/
inductive Part where
  | left
  | right
  deriving DecidableEq, Repr

/-- The next atomic step of the part that a path leads to, if it can make one. A part that has
failed ends the race that it is in. -/
def Work.step? {α : Type} (engine : Regex.Engine) (c : Cache) :
    Work α → List Part → Option (Event × Cache × Work α)
  | .lookUp text next, [] =>
    match c.find? text with
    | some entry => (c.get? entry).map fun p => (.found text entry p, c, next p)
    | none => some (.missed text, c, .insert text next)
  | .insert text next, [] =>
    let (c', entry) := c.insertIfAbsent text engine
    (c'.get? entry).map fun p => (.inserted text entry p (c.find? text).isNone, c', next p)
  | .both (.done b) (.done d) next, [] => some (.joined, c, next b d)
  | .both left right next, .left :: path =>
    (left.step? engine c path).map fun (e, c', left') => (e, c', .both left' right next)
  | .both left right next, .right :: path =>
    (right.step? engine c path).map fun (e, c', right') => (e, c', .both left right' next)
  | .race (.done (.ok b)) (.done (.ok d)) next, [] => some (.joined, c, next (.ok (b, d)))
  | .race (.done (.error e)) _ next, [.left] => some (.givenUp, c, next (.error e))
  | .race _ (.done (.error e)) next, [.right] => some (.givenUp, c, next (.error e))
  | .race left right next, .left :: path =>
    (left.step? engine c path).map fun (e, c', left') => (e, c', .race left' right next)
  | .race left right next, .right :: path =>
    (right.step? engine c path).map fun (e, c', right') => (e, c', .race left right' next)
  | _, _ => none

/-- Where work on a shared cache stands. -/
structure Sharing (α : Type) where
  cache : Cache
  work : Work α
  /-- What happened so far. -/
  history : List Event := []

namespace Sharing

variable {α : Type}

/-- Work of which nothing is done, on a cache without entries. -/
def start (work : Work α) : Sharing α :=
  { cache := .empty, work }

/-- The part that a path leads to makes a step, if it can. -/
def turn (engine : Regex.Engine) (s : Sharing α) (path : List Part) : Sharing α :=
  match s.work.step? engine s.cache path with
  | some (e, cache, work) => { cache, work, history := s.history ++ [e] }
  | none => s

/-- A schedule. -/
def run (engine : Regex.Engine) (s : Sharing α) (schedule : List (List Part)) : Sharing α :=
  schedule.foldl (turn engine) s

end Sharing

end Assay.Predicate
