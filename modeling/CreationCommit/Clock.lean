/-!
# Durations and instants

Time is counted in whole nanoseconds.  A setting is given in milliseconds that
fit sixty-four bits, so a duration is cut down to whole milliseconds, and
capped, before it becomes one.
-/

namespace CreationCommit

/-- A length of time in nanoseconds. -/
structure Duration where
  nanos : Nat
deriving DecidableEq, Repr, Inhabited

/-- A reading of the clock: nanoseconds since it started. -/
abbrev Instant :=
  Nat

namespace Duration

def ofMillis (millis : Nat) : Duration :=
  ⟨millis * 1000000⟩

def ofParts (seconds nanos : Nat) : Duration :=
  ⟨seconds * 1000000000 + nanos⟩

/-- The number of milliseconds, rounded down. -/
def wholeMillis (duration : Duration) : Nat :=
  duration.nanos / 1000000

/-- The number of seconds, rounded down. -/
def wholeSeconds (duration : Duration) : Nat :=
  duration.nanos / 1000000000

/-- The number of whole milliseconds, or the greatest of sixty-four bits. -/
def cappedMillis (duration : Duration) : UInt64 :=
  UInt64.ofNat (min duration.wholeMillis (UInt64.size - 1))

@[simp]
theorem wholeMillis_ofMillis (millis : Nat) :
    (ofMillis millis).wholeMillis = millis := by
  simp [ofMillis, wholeMillis]

theorem toNat_cappedMillis (duration : Duration) :
    duration.cappedMillis.toNat =
      min duration.wholeMillis (UInt64.size - 1) := by
  have bound : min duration.wholeMillis (UInt64.size - 1) < UInt64.size := by
    have : 0 < UInt64.size := by decide
    omega
  simp only [cappedMillis, UInt64.toNat_ofNat']
  exact Nat.mod_eq_of_lt bound

@[simp]
theorem cappedMillis_ofMillis (millis : UInt64) :
    (ofMillis millis.toNat).cappedMillis = millis := by
  apply UInt64.toNat_inj.1
  rw [toNat_cappedMillis, wholeMillis_ofMillis]
  have := millis.toNat_lt_size
  omega

end Duration

namespace Instant

/-- The number of milliseconds on the clock, rounded down. -/
def millis (instant : Instant) : Nat :=
  (Duration.mk instant).wholeMillis

def after (instant : Instant) (duration : Duration) : Instant :=
  instant + duration.nanos

end Instant

end CreationCommit
