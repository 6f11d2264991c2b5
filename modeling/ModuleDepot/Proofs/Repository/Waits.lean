import Mathlib.Algebra.Order.Ring.Nat
import ModuleDepot.Retry

/-! # Waits between attempts

A wait is a product that three bounds can cut short: the factor stops at the largest number of 32
bits, the product at the longest duration, and the wait at the longest one of the policy
(`nanoseconds_waitBefore`). The last bound hides the one in the middle. It also hides the first,
unless the first wait is so short that not even the largest factor makes it reach the last bound
(`waits_double_up_to_longest`).

Durations are kept in nanoseconds here, while a clock has seconds and nanoseconds apart. Multiplied
apart, with a carry, they give the same product (`parts_times`), and no number on the way is larger
than 64 bits unless the product is.
-/

namespace ModuleDepot

namespace Duration

/-- A length of time as seconds and nanoseconds. -/
def parts (d : Duration) : Nat × Nat :=
  (d.seconds, d.subsecond)

/-- A product whose seconds and nanoseconds are multiplied apart, and what the nanoseconds come to
in seconds is carried. Missing if there are more seconds than 64 bits hold, before the carry or
after it. -/
def partsTimes? (d : Duration) (n : Nat) : Option (Nat × Nat) :=
  let small := d.subsecond * n
  let seconds := d.seconds * n
  if seconds ≤ maxSeconds then
    if seconds + small / 1000000000 ≤ maxSeconds then
      some (seconds + small / 1000000000, small % 1000000000)
    else none
  else none

theorem nanoseconds_eq (d : Duration) :
    d.nanoseconds = d.seconds * 1000000000 + d.subsecond :=
  (Nat.div_add_mod' ..).symm

theorem subsecond_lt (d : Duration) : d.subsecond < 1000000000 :=
  Nat.mod_lt _ (by decide)

/-- The seconds behind the carry decide whether a product is too long. -/
theorem le_maxNanoseconds_iff (seconds small : Nat) :
    seconds * 1000000000 + small ≤ maxNanoseconds ↔ seconds + small / 1000000000 ≤ maxSeconds := by
  unfold maxNanoseconds
  omega

/-- **Seconds and nanoseconds can be multiplied apart**, and where that fails the product is the
longest duration. -/
theorem parts_times (d : Duration) (n : Nat) :
    (d.times n).parts = (d.partsTimes? n).getD (maxSeconds, 999999999) := by
  have hproduct : d.nanoseconds * n = d.seconds * n * 1000000000 + d.subsecond * n := by
    rw [nanoseconds_eq, Nat.add_mul, Nat.mul_right_comm]
  have hfits := le_maxNanoseconds_iff (d.seconds * n) (d.subsecond * n)
  unfold parts seconds subsecond
  rw [nanoseconds_times, hproduct]
  unfold partsTimes?
  extract_lets small whole
  split
  next hwhole =>
    split
    next hcarried =>
      rw [Nat.min_eq_left (hfits.mpr hcarried), Option.getD_some]
      congr 1 <;> omega
    next hcarried =>
      rw [Nat.min_eq_right (Nat.le_of_not_le (mt hfits.mp hcarried))]
      rfl
  next hwhole =>
    -- Without the carry there are too many seconds already.
    have hcarried : ¬ whole + small / 1000000000 ≤ maxSeconds := by omega
    rw [Nat.min_eq_right (Nat.le_of_not_le (mt hfits.mp hcarried))]
    rfl

/-- The nanoseconds of a product with a number of 32 bits fit into 64 bits. -/
theorem subsecond_mul_le (d : Duration) {n : Nat} (h : n ≤ Text.max32) :
    d.subsecond * n ≤ Text.max64 := by
  calc d.subsecond * n ≤ 1000000000 * Text.max32 := Nat.mul_le_mul d.subsecond_lt.le h
    _ ≤ Text.max64 := by decide

end Duration

namespace RetryPolicy

/-! ## The factor -/

theorem factor_eq (n : UInt32) : factor n = min (2 ^ (n.toNat - 1)) Text.max32 := by
  unfold factor
  split
  next hfits =>
    have hpower : 2 ^ (n.toNat - 1) ≤ 2 ^ 31 := Nat.pow_le_pow_right (by decide) (by omega)
    exact (Nat.min_eq_left (hpower.trans (by decide))).symm
  next hlarge =>
    have hpower : 2 ^ 32 ≤ 2 ^ (n.toNat - 1) := Nat.pow_le_pow_right (by decide) (by omega)
    exact (Nat.min_eq_right (le_trans (by decide) hpower)).symm

theorem factor_le (n : UInt32) : factor n ≤ Text.max32 := by
  rw [factor_eq]
  exact Nat.min_le_right _ _

theorem factor_mono {n m : UInt32} (h : n ≤ m) : factor n ≤ factor m := by
  have hle : n.toNat ≤ m.toNat := UInt32.le_iff_toNat_le.mp h
  rw [factor_eq, factor_eq]
  exact min_le_min_right _ (Nat.pow_le_pow_right (by decide) (Nat.sub_le_sub_right hle 1))

/-! ## The wait -/

variable (p : RetryPolicy)

/-- The bound of the policy hides that of durations. -/
theorem nanoseconds_waitBefore (n : UInt32) :
    (p.waitBefore n).nanoseconds =
      min (p.firstWait.nanoseconds * factor n) p.longestWait.nanoseconds := by
  rw [waitBefore, Duration.nanoseconds_shorter, Duration.nanoseconds_times, Nat.min_assoc,
    Nat.min_eq_right p.longestWait.le_max]

theorem waitBefore_mono {n m : UInt32} (h : n ≤ m) :
    (p.waitBefore n).nanoseconds ≤ (p.waitBefore m).nanoseconds := by
  rw [nanoseconds_waitBefore, nanoseconds_waitBefore]
  exact min_le_min_right _ (Nat.mul_le_mul_left _ (factor_mono h))

/-- While the factor is a power of two, the wait is as if numbers had no bounds. -/
theorem nanoseconds_waitBefore_of_le {n : UInt32} (h : n.toNat ≤ 32) :
    (p.waitBefore n).nanoseconds =
      min (p.firstWait.nanoseconds * 2 ^ (n.toNat - 1)) p.longestWait.nanoseconds := by
  have hfactor : factor n = 2 ^ (n.toNat - 1) := if_pos h
  rw [nanoseconds_waitBefore, hfactor]

/-- So it is where the largest factor already gives the longest wait. -/
theorem nanoseconds_waitBefore_of_reached {n : UInt32} (hn : 32 < n.toNat)
    (h : p.longestWait.nanoseconds ≤ p.firstWait.nanoseconds * Text.max32) :
    (p.waitBefore n).nanoseconds =
      min (p.firstWait.nanoseconds * 2 ^ (n.toNat - 1)) p.longestWait.nanoseconds := by
  have hfactor : factor n = Text.max32 := if_neg (Nat.not_le.mpr hn)
  have hpower : Text.max32 ≤ 2 ^ (n.toNat - 1) :=
    le_trans (b := 2 ^ 32) (by decide) (Nat.pow_le_pow_right (by decide) (by omega))
  rw [nanoseconds_waitBefore, hfactor, Nat.min_eq_right h,
    Nat.min_eq_right (h.trans (Nat.mul_le_mul_left _ hpower))]

/-- Otherwise the wait stays what the largest factor gives. -/
theorem nanoseconds_waitBefore_of_lt {n : UInt32} (hn : 32 < n.toNat)
    (h : p.firstWait.nanoseconds * Text.max32 < p.longestWait.nanoseconds) :
    (p.waitBefore n).nanoseconds = p.firstWait.nanoseconds * Text.max32 := by
  have hfactor : factor n = Text.max32 := if_neg (Nat.not_le.mpr hn)
  rw [nanoseconds_waitBefore, hfactor, Nat.min_eq_left h.le]

/-- **Waits double up to the longest one.** Whatever the policy, there is at least one attempt, and
one more than repetitions unless that is too large a number. Nothing overflows before a repetition:
seconds and nanoseconds multiplied apart give the wait, or else the longest duration does. The wait
is never longer than the policy allows, and never shorter than the one before.

It is the first wait times a power of two, or the longest wait if that is shorter, except for a
first wait that stays below the longest whatever the factor. Then the factor does not grow beyond 32
bits. -/
theorem waits_double_up_to_longest :
    p.attempts = min (p.maxRetries.toNat + 1) (2 ^ 32 - 1) ∧ 1 ≤ p.attempts ∧
    ∀ n : UInt32, 1 ≤ n →
      (∃ (factor : Nat) (product : Duration), factor = min (2 ^ (n.toNat - 1)) (2 ^ 32 - 1) ∧
        p.firstWait.subsecond * factor < 2 ^ 64 ∧
        product.parts = (p.firstWait.partsTimes? factor).getD (2 ^ 64 - 1, 999999999) ∧
        p.waitBefore n = product.shorter p.longestWait) ∧
      (p.waitBefore n).nanoseconds ≤ p.longestWait.nanoseconds ∧
      (∀ m, n ≤ m → (p.waitBefore n).nanoseconds ≤ (p.waitBefore m).nanoseconds) ∧
      (n ≤ 32 ∨ p.longestWait.nanoseconds ≤ p.firstWait.nanoseconds * (2 ^ 32 - 1) →
        (p.waitBefore n).nanoseconds =
          min (p.firstWait.nanoseconds * 2 ^ (n.toNat - 1)) p.longestWait.nanoseconds) ∧
      (32 < n → p.firstWait.nanoseconds * (2 ^ 32 - 1) < p.longestWait.nanoseconds →
        (p.waitBefore n).nanoseconds = p.firstWait.nanoseconds * (2 ^ 32 - 1)) := by
  have hattempts : p.attempts = min (p.maxRetries.toNat + 1) (2 ^ 32 - 1) := rfl
  refine ⟨hattempts, by omega, fun n _ => ⟨?_, ?_, fun m => p.waitBefore_mono, fun h => ?_,
    fun hn => ?_⟩⟩
  · exact ⟨factor n, p.firstWait.times (factor n), factor_eq n,
      Nat.lt_succ_of_le (p.firstWait.subsecond_mul_le (factor_le n)),
      p.firstWait.parts_times _, rfl⟩
  · rw [nanoseconds_waitBefore]
    exact Nat.min_le_right _ _
  · rcases Nat.lt_or_ge 32 n.toNat with hn | hn
    · rcases h with h | h
      · exact absurd (UInt32.le_iff_toNat_le.mp h) (Nat.not_le.mpr hn)
      · exact p.nanoseconds_waitBefore_of_reached hn h
    · exact p.nanoseconds_waitBefore_of_le hn
  · exact p.nanoseconds_waitBefore_of_lt (UInt32.lt_iff_toNat_lt.mp hn)

/-- A nanosecond, and as long as there is. -/
def patientPolicy : RetryPolicy :=
  ⟨4294967295, .ofNanoseconds 1, .ofSeconds 18446744073709551615⟩

/-- The factor stops one short of the power of two before the thirty-third repetition, and the wait
before the thousandth is the same. -/
theorem waits_double_up_to_longest_of_patientPolicy :
    (1 : UInt32) ≤ 33 ∧ (33 : UInt32) ≤ 1000 ∧ (32 : UInt32) < 33 ∧
    patientPolicy.firstWait.nanoseconds * (2 ^ 32 - 1) < patientPolicy.longestWait.nanoseconds ∧
    patientPolicy.attempts = 4294967295 ∧
    (patientPolicy.waitBefore 32).nanoseconds = 2147483648 ∧
    (patientPolicy.waitBefore 33).nanoseconds = 4294967295 ∧
    (patientPolicy.waitBefore 33).nanoseconds ≤ (patientPolicy.waitBefore 1000).nanoseconds := by
  have hshort : patientPolicy.firstWait.nanoseconds * (2 ^ 32 - 1) <
      patientPolicy.longestWait.nanoseconds := by decide
  obtain ⟨hattempts, -, hwaits⟩ := waits_double_up_to_longest patientPolicy
  obtain ⟨-, -, -, hpower, -⟩ := hwaits 32 (by decide)
  obtain ⟨-, -, hmono, -, hlargest⟩ := hwaits 33 (by decide)
  exact ⟨by decide, by decide, by decide, hshort, hattempts, (hpower (.inl (by decide))).trans
    (by decide), (hlargest (by decide) hshort).trans (by decide), hmono 1000 (by decide)⟩

end RetryPolicy
end ModuleDepot
