/-! # Durations

A length of time, kept in nanoseconds. The longest is 2^64 - 1 seconds and 999999999
nanoseconds; what would be longer is the longest.
-/

namespace ModuleDepot

/-- The whole seconds of the longest duration. -/
def maxSeconds : Nat := 0xFFFFFFFFFFFFFFFF

/-- The nanoseconds of the longest duration. -/
def maxNanoseconds : Nat := maxSeconds * 1000000000 + 999999999

/-- A length of time. -/
structure Duration where
  nanoseconds : Nat
  le_max : nanoseconds ≤ maxNanoseconds := by decide
  deriving DecidableEq, Repr

namespace Duration

/-- The duration of so many nanoseconds, or the longest one. -/
def ofNanoseconds (n : Nat) : Duration :=
  ⟨min n maxNanoseconds, Nat.min_le_right _ _⟩

/-- The duration of so many milliseconds. -/
def ofMilliseconds (n : Nat) : Duration := ofNanoseconds (n * 1000000)

/-- The duration of so many seconds. -/
def ofSeconds (n : Nat) : Duration := ofNanoseconds (n * 1000000000)

/-- The whole seconds of a duration. -/
def seconds (d : Duration) : Nat := d.nanoseconds / 1000000000

/-- The nanoseconds beyond the whole seconds. -/
def subsecond (d : Duration) : Nat := d.nanoseconds % 1000000000

/-- The whole milliseconds of a duration. -/
def milliseconds (d : Duration) : Nat := d.nanoseconds / 1000000

/-- A duration so many times over. -/
def times (d : Duration) (n : Nat) : Duration := ofNanoseconds (d.nanoseconds * n)

/-- The shorter of two durations. -/
def shorter (a b : Duration) : Duration :=
  if a.nanoseconds ≤ b.nanoseconds then a else b

@[simp] theorem nanoseconds_times (d : Duration) (n : Nat) :
    (d.times n).nanoseconds = min (d.nanoseconds * n) maxNanoseconds := rfl

@[simp] theorem nanoseconds_shorter (a b : Duration) :
    (a.shorter b).nanoseconds = min a.nanoseconds b.nanoseconds := by
  unfold shorter
  split <;> omega

end Duration
end ModuleDepot
