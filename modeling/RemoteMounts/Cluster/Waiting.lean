import RemoteMounts.Cluster.Backoff
import RemoteMounts.Outside

/-!
# Waiting for a cluster

A cluster that is starting is asked for until an answer is decisive: it is ready, it has entered a
phase that it does not leave by itself, or the provider reports a fault.  The first question is
asked at once, whatever the limit, and a decisive answer counts however late it comes; between two
questions the dialogue pauses, not longer than the time that is left.
-/

namespace RemoteMounts

/-- What an answer means for someone who waits: the end of waiting, or nothing if it goes on. -/
def verdict? : Except ClusterFault Cluster → Option (Except ClusterFault Cluster)
  | .error fault => some (.error fault)
  | .ok c =>
    if c.phase.isReady then some (.ok c)
    else if c.phase.isTerminal then some (.error (.stopped c.id c.phase c.note))
    else none

/-- Goes on asking for the cluster, with the interval to the next question, for at most so many
questions. -/
def pollReady (b : Backoff) (id : String) (started : Instant) (deadline : Option Instant) :
    (patience : Nat) → (interval : Duration) → Errand (Except ClusterFault Cluster)
  | 0, _ => .cut
  | patience + 1, interval => do
    match verdict? (← Errand.call (.getCluster id)) with
    | some verdict => return verdict
    | none =>
      let left := Instant.leftUntil deadline (← Errand.call .now)
      if left = Duration.zero then
        return .error (.stillWaiting id (started.since (← Errand.call .now)).seconds)
      else
        Errand.call (.pause (interval.shorter left))
        pollReady b id started deadline patience (b.next interval)

/-- Asks for the cluster until it is ready or there is no hope of it. -/
def awaitReady (b : Backoff) (patience : Nat) (id : String) :
    Errand (Except ClusterFault Cluster) := do
  let started ← Errand.call .now
  pollReady b id started (started.after? b.limit) patience b.first

end RemoteMounts
