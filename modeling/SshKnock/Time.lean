import Mathlib.Algebra.Order.Group.Nat

/-!
# Clock readings and durations

Readings of the monotonic clock and durations between them are natural numbers
of nanoseconds.  Subtracting readings saturates at zero, as `duration_since`
does; adding a duration to a reading fails when the sum leaves the range of a
signed 64-bit count of seconds, where `+` panics.
-/

namespace SshKnock

namespace Duration

def nanosPerSec : ℕ := 1000000000

def fromSecs (secs : UInt64) : ℕ :=
  secs.toNat * nanosPerSec

def asSecs (duration : ℕ) : ℕ :=
  duration / nanosPerSec

/-- The longest representable duration. -/
def max : ℕ :=
  (2 ^ 64 - 1) * nanosPerSec + (nanosPerSec - 1)

def checkedMul (duration : ℕ) (factor : ℕ) : Option ℕ :=
  if duration * factor ≤ max then some (duration * factor) else none

end Duration

namespace Instant

/-- The latest representable clock reading. -/
def max : ℕ :=
  (2 ^ 63 - 1) * Duration.nanosPerSec + (Duration.nanosPerSec - 1)

def durationSince (later earlier : ℕ) : ℕ :=
  later - earlier

def checkedAdd (instant : ℕ) (duration : ℕ) : Option ℕ :=
  if instant + duration ≤ max then some (instant + duration) else none

theorem checkedAdd_eq_some {instant : ℕ} {duration : ℕ}
    (hfits : instant + duration ≤ max) :
    checkedAdd instant duration = some (instant + duration) :=
  if_pos hfits

theorem checkedAdd_eq_none {instant : ℕ} {duration : ℕ}
    (hover : max < instant + duration) : checkedAdd instant duration = none :=
  if_neg (Nat.not_le.mpr hover)

theorem eq_add_of_checkedAdd {instant duration sum : ℕ}
    (hsum : checkedAdd instant duration = some sum) :
    sum = instant + duration := by
  by_cases hfits : instant + duration ≤ max
  · rw [checkedAdd_eq_some hfits] at hsum
    exact (Option.some.inj hsum).symm
  · rw [checkedAdd_eq_none (Nat.not_le.mp hfits)] at hsum
    cases hsum

end Instant

end SshKnock
