import ModuleDepot.Duration
import ModuleDepot.Text.Number

/-! # Trying again

How often a request is repeated and how long to wait before each repetition. The wait
doubles from one repetition to the next, up to a bound.
-/

namespace ModuleDepot

/-- How often to try again, and how long to wait in between. -/
structure RetryPolicy where
  maxRetries : UInt32
  firstWait : Duration
  longestWait : Duration
  deriving DecidableEq, Repr

namespace RetryPolicy

/-- Two repetitions, the first after 200 ms, none after more than two seconds. -/
def standard : RetryPolicy := ⟨2, .ofMilliseconds 200, .ofSeconds 2⟩

/-- A single attempt. -/
def never : RetryPolicy := { standard with maxRetries := 0 }

/-- The number of attempts, the first one included. -/
def attempts (p : RetryPolicy) : Nat :=
  min (p.maxRetries.toNat + 1) Text.max32

/-- What the first wait is multiplied by before a repetition: a power of two while it
fits into 32 bits. -/
def factor (retry : UInt32) : Nat :=
  if retry.toNat ≤ 32 then Nat.pow 2 (retry.toNat - 1) else Text.max32

/-- The wait before a repetition; the first repetition has the number one. -/
def waitBefore (p : RetryPolicy) (retry : UInt32) : Duration :=
  (p.firstWait.times (factor retry)).shorter p.longestWait

end RetryPolicy
end ModuleDepot
