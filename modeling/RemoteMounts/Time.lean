/-!
# Time spans and instants

A span of time counts whole nanoseconds, up to the greatest number of seconds of 64 bits and the
nanoseconds below one more; what would be longer is that greatest span.  An instant counts
nanoseconds from the start of the clock, whose seconds have 63 bits.
-/

namespace RemoteMounts

def nanosPerSecond : Nat := Nat.pow 10 9

def maxNanos : Nat := Nat.pow 2 64 * nanosPerSecond - 1

structure Duration where
  nanos : Nat
  bounded : nanos ≤ maxNanos
deriving DecidableEq

namespace Duration

/-- The span of so many nanoseconds, or the longest one. -/
def ofNanos (n : Nat) : Duration :=
  ⟨min n maxNanos, Nat.min_le_right _ _⟩

instance : Inhabited Duration := ⟨ofNanos 0⟩

def zero : Duration := ofNanos 0

def longest : Duration := ofNanos maxNanos

def ofSeconds (n : Nat) : Duration :=
  ofNanos (n * nanosPerSecond)

def ofMillis (n : Nat) : Duration :=
  ofNanos (n * Nat.pow 10 6)

def seconds (d : Duration) : Nat :=
  d.nanos / nanosPerSecond

/-- The nanoseconds after the whole seconds. -/
def restNanos (d : Duration) : Nat :=
  d.nanos % nanosPerSecond

def add (a b : Duration) : Duration :=
  ofNanos (a.nanos + b.nanos)

def double (d : Duration) : Duration :=
  ofNanos (2 * d.nanos)

def shorter (a b : Duration) : Duration :=
  if a.nanos ≤ b.nanos then a else b

def longer (a b : Duration) : Duration :=
  if a.nanos ≤ b.nanos then b else a

@[simp] theorem nanos_ofNanos (n : Nat) : (ofNanos n).nanos = min n maxNanos := rfl

@[simp] theorem nanos_double (d : Duration) : d.double.nanos = min (2 * d.nanos) maxNanos := rfl

@[simp] theorem nanos_shorter (a b : Duration) : (a.shorter b).nanos = min a.nanos b.nanos := by
  unfold shorter
  split <;> omega

@[simp] theorem nanos_longer (a b : Duration) : (a.longer b).nanos = max a.nanos b.nanos := by
  unfold longer
  split <;> omega

end Duration

/-- A reading of a clock. -/
structure Instant where
  nanos : Nat
deriving DecidableEq, Inhabited

namespace Instant

/-- The first reading that no clock shows. -/
def horizon : Nat := Nat.pow 2 63 * nanosPerSecond

/-- The instant so much later, if a clock can show it. -/
def after? (start : Instant) (d : Duration) : Option Instant :=
  if start.nanos + d.nanos < horizon then some ⟨start.nanos + d.nanos⟩ else none

/-- The time left until the deadline; without a deadline it is the longest span. -/
def leftUntil (deadline : Option Instant) (now : Instant) : Duration :=
  match deadline with
  | some last => Duration.ofNanos (last.nanos - now.nanos)
  | none => Duration.longest

def since (start now : Instant) : Duration :=
  Duration.ofNanos (now.nanos - start.nanos)

end Instant

end RemoteMounts
