import Mathlib

/-!
Clock readings of the Rust standard library.

* `SystemTime`: the wall clock, which may read before the Unix epoch;
  `millisSinceEpoch` is `duration_since(UNIX_EPOCH)` in whole milliseconds, with
  `none` for its error.
* `Instant`: the monotonic clock, in nanoseconds; `durationSince`, `asMillis` and
  `asSecs` are the durations read off it.
-/

namespace RustStd

/-- A reading of the wall clock, in nanoseconds relative to the Unix epoch. -/
structure SystemTime where
  nanos : ℤ
  deriving DecidableEq, Repr

/-- `t.duration_since(UNIX_EPOCH)`, in whole milliseconds: `none` before the epoch. -/
def SystemTime.millisSinceEpoch (t : SystemTime) : Option ℕ :=
  if 0 ≤ t.nanos then some (t.nanos.toNat / 1000000) else none

/-- A reading of the monotonic clock, in nanoseconds. -/
abbrev Instant := ℕ

/-- `later.duration_since(earlier)`, in nanoseconds. -/
def Instant.durationSince (later earlier : Instant) : ℕ := later - earlier

/-- `Duration::as_millis`, of a duration in nanoseconds. -/
def asMillis (nanos : ℕ) : ℕ := nanos / 1000000

/-- `Duration::as_secs`, of a duration in nanoseconds. -/
def asSecs (nanos : ℕ) : ℕ := nanos / 1000000000

end RustStd
