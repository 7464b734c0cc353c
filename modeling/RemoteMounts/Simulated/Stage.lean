import RemoteMounts.Dialogue.Concurrent
import RemoteMounts.Simulated.Clusters
import RemoteMounts.Simulated.Mounts

/-!
# The stage

A whole world outside for rehearsals: simulated clusters and mounts, a registry of instance profiles
that counts what it is asked, and the record of what is done once.  Its clock stands still; a pause
takes no time from any deadline.
-/

namespace RemoteMounts.Simulated

structure Registry where
  /-- How often a profile was to be registered. -/
  added : Nat := 0
  /-- How often a profile was to be removed. -/
  removed : Nat := 0
  /-- Why registering fails, if it does. -/
  failure : Option String := none
  /-- How long registering takes. -/
  delay : Duration := .zero
deriving DecidableEq, Inhabited

/-- A world outside. -/
structure Stage where
  clusters : Clusters := {}
  mounts : Mounts := {}
  registry : Registry := {}
  once : Once := .empty

namespace Stage

instance : Inhabited Stage := ⟨{}⟩

def addProfile (s : Stage) (arn : ProfileArn) : Except ProfileFault Unit × Stage :=
  let s := { s with registry.added := s.registry.added + 1 }
  match s.registry.failure with
  | some reason => (.error ⟨arn.text, reason⟩, s)
  | none => (.ok (), s)

/-- Registering a profile, well or not, is counted and changes nothing else. -/
theorem addProfile_snd (s : Stage) (arn : ProfileArn) :
    (s.addProfile arn).2 = { s with registry.added := s.registry.added + 1 } := by
  unfold addProfile
  dsimp only
  split <;> rfl

def removeProfile (s : Stage) : Except ProfileFault Unit × Stage :=
  (.ok (), { s with registry.removed := s.registry.removed + 1 })

/-- Answers a call; only who has to wait for an identity gets no answer. -/
def answer : Party Outside Stage
  | .getCluster id, s =>
    let (a, clusters) := s.clusters.get id
    some (a, { s with clusters })
  | .listClusters, s => some (.ok s.clusters.list, s)
  | .createCluster b, s =>
    let (a, clusters) := s.clusters.create b
    some (a, { s with clusters })
  | .startCluster id, s =>
    let (a, clusters) := s.clusters.start id
    some (a, { s with clusters })
  | .deleteCluster id, s =>
    let (a, clusters) := s.clusters.delete id
    some (a, { s with clusters })
  | .addProfile arn, s => some (s.addProfile arn)
  | .removeProfile _, s => some s.removeProfile
  | .runScript cluster script, s =>
    let (a, mounts) := s.mounts.run cluster script
    some (a, { s with mounts })
  | .now, s => some (⟨0⟩, s)
  | .pause _, s => some ((), s)
  | .enter identity, s =>
    match s.once.enter identity with
    | (.wait, _) => none
    | (.go, once) => some (none, { s with once })
    | (.recorded outcome, _) => some (some outcome, s)
  | .leave identity outcome, s => some ((), { s with once := s.once.leave identity outcome })

/-- How long a call takes, in nanoseconds. -/
def delay : Call → Stage → Nat
  | .addProfile _, s => s.registry.delay.nanos
  | .pause span, _ => span.nanos
  | _, _ => 0

/-- The stage as a host of several errands at once. -/
def host : Strand.Host Outside Stage :=
  ⟨delay, answer⟩

end Stage

end RemoteMounts.Simulated
