import ModuleDepot.Fetch.Fetcher

/-! # Fetches at the same time

Callers that fetch the same module take turns. Each module that someone is fetching has a
lock in a table; a caller looks it up there, or puts a fresh one in, holds it while it
fetches, and takes it out of the table again if nobody else has it in hand.

A call is a row of steps, and the steps of different callers may come in any order.
`Flights.step` is one step of one caller, and `Flights.Reachable` are the states that some
order leads to. `Flights.call` is a call whose steps follow each other directly.
-/

namespace ModuleDepot

/-- How far a caller has come. -/
inductive Stage where
  /-- It has the lock in hand and waits for it. -/
  | waiting
  /-- It holds the lock. -/
  | holding
  /-- It has fetched and still holds the lock. -/
  | answered
  /-- It has let go of the lock and still has it in hand. -/
  | released
  /-- It has looked after the table and still has the lock in hand. -/
  | tidied
  /-- It has gone. -/
  | gone
  deriving DecidableEq, Repr

/-- Someone who fetches a module. -/
structure Caller where
  id : ModuleId
  lock : Nat
  stage : Stage := .waiting
  answer : Option (Except LoadError (Option Report)) := none

namespace Caller

/-- Whether a caller holds its lock. -/
def isHolding (c : Caller) : Bool :=
  c.stage == .holding || c.stage == .answered

/-- Whether a caller has its lock in hand, held or not. -/
def isPresent (c : Caller) : Bool :=
  c.stage != .gone

/-- Whether a caller still relies on the table. -/
def isListed (c : Caller) : Bool :=
  c.isPresent && c.stage != .tidied

end Caller

/-- The table of locks, the callers in the order of their arrival, and the world in which
they fetch. Locks are numbered, and no number is used twice. -/
structure Flights (σ : Type) where
  world : World σ
  table : ModuleId → Option Nat := fun _ => none
  nextLock : Nat := 0
  callers : List Caller := []

/-- A step: someone new arrives, or a caller does what it has to do next. -/
inductive FlightStep where
  | arrive (id : ModuleId)
  | advance (caller : Nat)
  deriving DecidableEq, Repr

namespace Flights

variable {σ : Type}

/-- Whether nobody holds a lock. -/
def isFree (s : Flights σ) (lock : Nat) : Bool :=
  s.callers.all fun c => !(c.isHolding && c.lock == lock)

/-- How many callers have a lock in hand. -/
def inHand (s : Flights σ) (lock : Nat) : Nat :=
  s.callers.countP fun c => c.isPresent && c.lock == lock

/-- The table with another entry for a module. -/
def withEntry (s : Flights σ) (id : ModuleId) (lock : Option Nat) : Flights σ :=
  { s with table := fun other => if other = id then lock else s.table other }

/-- Someone arrives and gets the lock of the module, a fresh one if there is none. -/
def arrive (s : Flights σ) (id : ModuleId) : Flights σ :=
  match s.table id with
  | some lock => { s with callers := s.callers ++ [{ id := id, lock := lock }] }
  | none =>
    { s.withEntry id (some s.nextLock) with
      nextLock := s.nextLock + 1
      callers := s.callers ++ [{ id := id, lock := s.nextLock }] }

/-- Takes the lock of a module out of the table if a single caller has it in hand. -/
def tidy (s : Flights σ) (id : ModuleId) : Flights σ :=
  match s.table id with
  | none => s
  | some lock => if s.inHand lock = 1 then s.withEntry id none else s

/-- Puts a caller in place of the one of its number. -/
def put (s : Flights σ) (i : Nat) (c : Caller) : Flights σ :=
  { s with callers := s.callers.set i c }

/-- The next step of a caller. It is missing while the lock is held by another one, and
when the caller has gone. -/
def advance (f : Fetcher σ) (s : Flights σ) (i : Nat) (c : Caller) : Option (Flights σ) :=
  match c.stage with
  | .waiting => if s.isFree c.lock then some (s.put i { c with stage := .holding }) else none
  | .holding =>
    let (answer, world) := f.fetch c.id s.world
    some { s.put i { c with stage := .answered, answer := some answer } with world := world }
  | .answered => some (s.put i { c with stage := .released })
  | .released => some ((s.tidy c.id).put i { c with stage := .tidied })
  | .tidied => some (s.put i { c with stage := .gone })
  | .gone => none

/-- A step, if it is possible. -/
def step (f : Fetcher σ) (s : Flights σ) : FlightStep → Option (Flights σ)
  | .arrive id => some (s.arrive id)
  | .advance i => s.callers[i]?.bind (s.advance f i)

/-- The states that some order of steps leads to, from a world without callers. -/
inductive Reachable (f : Fetcher σ) (w : World σ) : Flights σ → Prop
  | start : Reachable f w { world := w }
  | step {s t : Flights σ} (a : FlightStep) :
    Reachable f w s → s.step f a = some t → Reachable f w t

/-! ## Calls one after the other -/

/-- The caller of a number does its next steps, as many as are possible. -/
def advanceTimes (f : Fetcher σ) (i : Nat) : (steps : Nat) → Flights σ → Flights σ
  | 0, s => s
  | n + 1, s =>
    match s.step f (.advance i) with
    | none => s
    | some t => advanceTimes f i n t

/-- The steps of a caller from its arrival until it has gone. -/
def stepsOfCall : Nat := 5

/-- Someone arrives, fetches, and goes, before anyone else does anything. -/
def call (f : Fetcher σ) (s : Flights σ) (id : ModuleId) : Flights σ :=
  advanceTimes f s.callers.length stepsOfCall (s.arrive id)

/-- What the callers were answered, in the order of their arrival. -/
def answers (s : Flights σ) : List (Except LoadError (Option Report)) :=
  s.callers.filterMap (·.answer)

end Flights

/-- The answers of calls for the modules, one after the other, and the world they leave. -/
def Fetcher.fetchAll {σ : Type} (f : Fetcher σ) (ids : List ModuleId) (w : World σ) :
    List (Except LoadError (Option Report)) × World σ :=
  let s := ids.foldl (Flights.call f) { world := w }
  (s.answers, s.world)

end ModuleDepot
