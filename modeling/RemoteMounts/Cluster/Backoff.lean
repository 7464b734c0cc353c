import RemoteMounts.Time

/-!
# Backing off

While a cluster starts it is asked for again and again, at intervals that double up to a longest
one, for at most a certain time.
-/

namespace RemoteMounts

/-- How long to wait in all and how long between two questions: `first` before the second one, then
twice as long each time, but never longer than `cap`. -/
structure Backoff where
  limit : Duration
  first : Duration
  cap : Duration
deriving DecidableEq, Inhabited

namespace Backoff

/-- A backoff whose longest interval is not shorter than its first one. -/
def make (limit first cap : Duration) : Backoff :=
  ⟨limit, first, cap.longer first⟩

/-- Twenty minutes in all, at intervals of ten seconds to one minute. -/
def standard : Backoff :=
  make (.ofSeconds 1200) (.ofSeconds 10) (.ofSeconds 60)

def next (b : Backoff) (interval : Duration) : Duration :=
  interval.double.shorter b.cap

/-- The interval after so many others. -/
def intervalAt (b : Backoff) : Nat → Duration
  | 0 => b.first
  | k + 1 => b.next (b.intervalAt k)

end Backoff

end RemoteMounts
