/-!
# Instants and durations

Clocks count nanoseconds. Tokens carry whole seconds: those of an instant are rounded down, also
before 1970, and those of a duration lose their fraction.
-/

namespace Possession

/-- A moment, by the nanoseconds since the start of 1970. -/
structure Instant where
  /-- The nanoseconds, negative before 1970. -/
  nanoseconds : Int
  deriving DecidableEq, Repr

/-- A length of time. -/
structure Duration where
  nanoseconds : Nat
  deriving DecidableEq, Repr

def nanosecondsPerSecond : Nat := 1000000000

instance : LE Instant := ⟨fun moment later => moment.nanoseconds ≤ later.nanoseconds⟩

instance (moment later : Instant) : Decidable (moment ≤ later) :=
  inferInstanceAs (Decidable (moment.nanoseconds ≤ later.nanoseconds))

/-- A moment, by the whole seconds since the start of 1970 and the nanoseconds since then. -/
def Instant.at (seconds : Int) (nanoseconds : Nat) : Instant :=
  ⟨seconds * nanosecondsPerSecond + nanoseconds⟩

/-- The whole seconds since the start of 1970, rounded down. -/
def Instant.seconds (instant : Instant) : Int := instant.nanoseconds / nanosecondsPerSecond

def Duration.of (seconds nanoseconds : Nat) : Duration :=
  ⟨seconds * nanosecondsPerSecond + nanoseconds⟩

def Duration.seconds (duration : Duration) : Nat := duration.nanoseconds / nanosecondsPerSecond

theorem Instant.seconds_le_seconds {moment later : Instant} (h : moment ≤ later) :
    moment.seconds ≤ later.seconds :=
  Int.ediv_le_ediv (by decide) h

end Possession
