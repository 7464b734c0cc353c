import RemoteMounts.Outside

/-!
# Prompters

Worlds outside that only say what they have been told to say: each question takes the next answer of
a queue, and the questions are recorded.
-/

namespace RemoteMounts.Simulated

/-- An answer kept ready by a prompter of clusters: a fault, or else what it holds for each kind of
question. -/
structure Cue where
  fault : Option ClusterFault := none
  cluster : Option Cluster := none
  clusters : Option (List Cluster) := none
  id : Option String := none
  done : Option Unit := none
deriving Inhabited

/-- A provider of clusters that says what it has been told to. -/
structure ClusterPrompter where
  cues : List Cue
  /-- The calls answered so far, with the time that had passed in pauses. -/
  asked : List (Call × Duration) := []
  /-- The time that has passed in pauses. -/
  paused : Duration := .zero
deriving Inhabited

namespace ClusterPrompter

/-- Takes the next answer, which must hold something for the kind of question. -/
def next {α : Type} (p : ClusterPrompter) (c : Call) (held : Cue → Option α) :
    Except ClusterFault α × ClusterPrompter :=
  let later : ClusterPrompter :=
    { p with cues := p.cues.tail, asked := p.asked ++ [(c, p.paused)] }
  let cue : Cue := p.cues.head?.getD {}
  match cue.fault, held cue with
  | some fault, _ => (.error fault, later)
  | none, some a => (.ok a, later)
  | none, none => (.error (.refused "no scripted response"), later)

/-- Answers calls on the provider and on the clock, which stands still. -/
def answer : Party Outside ClusterPrompter
  | .getCluster id, p => some (p.next (.getCluster id) Cue.cluster)
  | .listClusters, p => some (p.next .listClusters Cue.clusters)
  | .createCluster b, p => some (p.next (.createCluster b) Cue.id)
  | .startCluster id, p => some (p.next (.startCluster id) Cue.done)
  | .deleteCluster id, p => some (p.next (.deleteCluster id) Cue.done)
  | .now, p => some (⟨0⟩, p)
  | .pause span, p => some ((), { p with paused := p.paused.add span })
  | _, _ => none

end ClusterPrompter

/-- A cluster whose scripts end as they have been told to. -/
structure ScriptPrompter where
  outcomes : List (Except ScriptFault String)
  /-- The scripts run so far, with their clusters. -/
  runs : List (String × String) := []

namespace ScriptPrompter

def run (p : ScriptPrompter) (cluster script : String) :
    Except ScriptFault String × ScriptPrompter :=
  (p.outcomes.head?.getD (.error ⟨"no scripted response available"⟩),
    ⟨p.outcomes.tail, p.runs ++ [(cluster, script)]⟩)

/-- Answers calls that run scripts. -/
def answer : Party Outside ScriptPrompter
  | .runScript cluster script, p => some (p.run cluster script)
  | _, _ => none

end ScriptPrompter

end RemoteMounts.Simulated
