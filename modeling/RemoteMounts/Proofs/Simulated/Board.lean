import RemoteMounts.Proofs.Mount.Points
import RemoteMounts.Proofs.Simulated.Deeds
import RemoteMounts.Simulated.Stage

/-!
# Mount points without scripts

A board is what a mount point shows to its caller: which source is bound to which path of which
cluster, the failures that are still to come, and how many scripts have run.  It answers the moves
that a caller can make by looking up and binding, and has never seen a script.  Moves played on the
stage, where each of them writes a script and has it interpreted, give the same outcomes and the
same bindings (`playAll_eq_board`).
-/

namespace RemoteMounts.Simulated

/-- What may happen to the mounts: an operation of a mount point, or something behind its back. -/
inductive Move
  | create (cluster : String) (name : MountName) (attachment : Attachment)
  | read (cluster : String) (name : MountName)
  | delete (cluster : String) (name : MountName)
  /-- Something is mounted by someone else. -/
  | insert (cluster path source : String)
  /-- One of the next scripts is going to fail. -/
  | fail (message : String)
deriving DecidableEq

inductive Outcome
  | created (result : Except MountFailure String)
  | found (result : Except MountFailure Found)
  | deleted (result : Except MountFailure Unit)
  | noted

/-! ## Moves on the board -/

/-- The bindings as a plain map, the failures that the next scripts meet, and the number of scripts
that have run. -/
structure Board where
  bound : String → String → Option String
  failures : List String
  scripts : Nat

namespace Board

def put (b : Board) (cluster path : String) (source : Option String) : Board :=
  { b with bound := fun c p => if c = cluster ∧ p = path then source else b.bound c p }

/-- One script more has run. -/
def ran (b : Board) : Board :=
  { b with scripts := b.scripts + 1 }

/-- One script more has run, and the first failure is used up. -/
def failed (b : Board) (later : List String) : Board :=
  { b.ran with failures := later }

/-- What is told of a new mount at the path when this source is bound there. -/
def createdAt (path source : String) : Except MountFailure String :=
  if Text.trim source = "" then
    .error (.notCreated ("mount script for " ++ path ++ " returned no source"))
  else .ok (Text.trim source)

/-- What is told of a path that is bound, or not. -/
def foundAt : Option String → Found
  | some source => if Text.trim source = "" then .absent else .mounted (Text.trim source)
  | none => .absent

/-- A mount is bound unless the path is bound already.  A request that cannot be mounted does not
get as far as a script. -/
def create (b : Board) (cluster : String) (name : MountName) (a : Attachment) : Outcome × Board :=
  match a.args, b.failures with
  | .error cause, _ => (.created (.error (.invalid cause)), b)
  | .ok _, message :: later => (.created (.error (.notCreated message)), b.failed later)
  | .ok args, [] =>
    match b.bound cluster name.path with
    | some there => (.created (createdAt name.path there), b.ran)
    | none =>
      (.created (createdAt name.path args.uri), (b.put cluster name.path (some args.uri)).ran)

/-- Tells what is bound; a failure that speaks of a missing mount means that nothing is. -/
def read (b : Board) (cluster : String) (name : MountName) : Outcome × Board :=
  match b.failures with
  | message :: later =>
    (.found
      (if Text.Contains message "Mount not found" then .ok .absent
        else .error (.notRead message)),
      b.failed later)
  | [] => (.found (.ok (foundAt (b.bound cluster name.path))), b.ran)

/-- Unbinds the path; a failure that says that it is not mounted means that there is nothing to
do. -/
def delete (b : Board) (cluster : String) (name : MountName) : Outcome × Board :=
  match b.failures with
  | message :: later =>
    (.deleted
      (if Text.Contains message "not mounted" then .ok () else .error (.notDeleted message)),
      b.failed later)
  | [] => (.deleted (.ok ()), (b.put cluster name.path none).ran)

def play (b : Board) : Move → Outcome × Board
  | .create cluster name attachment => b.create cluster name attachment
  | .read cluster name => b.read cluster name
  | .delete cluster name => b.delete cluster name
  | .insert cluster path source => (.noted, b.put cluster path (some source))
  | .fail message => (.noted, { b with failures := b.failures ++ [message] })

def playAll : List Move → Board → List Outcome × Board
  | [], b => ([], b)
  | move :: rest, b =>
    let (outcome, b) := b.play move
    let (outcomes, b) := playAll rest b
    (outcome :: outcomes, b)

/-- What the simulated mounts look like without their scripts. -/
def ofMounts (m : Mounts) : Board :=
  ⟨m.source?, m.failures, m.runs.length⟩

end Board

/-! ## Moves on the stage -/

namespace Stage

/-- Makes one move.  The operations of a mount point are held with the stage, which runs their
scripts. -/
def play (s : Stage) : Move → Option Outcome × Stage
  | .create cluster name attachment =>
    let (result, s) := Dialogue.run answer (MountPoint.create ⟨cluster, name⟩ attachment) s
    (result.map .created, s)
  | .read cluster name =>
    let (result, s) := Dialogue.run answer (MountPoint.read ⟨cluster, name⟩) s
    (result.map .found, s)
  | .delete cluster name =>
    let (result, s) := Dialogue.run answer (MountPoint.delete ⟨cluster, name⟩) s
    (result.map .deleted, s)
  | .insert cluster path source =>
    (some .noted, { s with mounts := s.mounts.insert cluster path source })
  | .fail message => (some .noted, { s with mounts := s.mounts.fail message })

def playAll : List Move → Stage → List (Option Outcome) × Stage
  | [], s => ([], s)
  | move :: rest, s =>
    let (outcome, s) := s.play move
    let (outcomes, s) := playAll rest s
    (outcome :: outcomes, s)

end Stage

/-! ## Scripts as deeds -/

namespace Mounts

/-- What is mounted does not depend on what has run or is to fail. -/
@[simp] theorem source?_of_sources (m : Mounts) (failures : List String)
    (runs : List (String × String)) :
    Mounts.source? ⟨m.sources, failures, runs, m.scribe⟩ = m.source? := rfl

/-- A script meets the next failure, whatever it is. -/
theorem run_of_failure {m : Mounts} {message : String} {later : List String}
    (h : m.failures = message :: later) (cluster script : String) :
    m.run cluster script =
      (.error ⟨message⟩,
        { m with runs := m.runs ++ [(cluster, script)], failures := later }) := by
  simp only [run, h]

/-- A script that meets no failure does its deed. -/
theorem run_of_deed {script : String} {deed : Deed} (h : Deed.ofScript script = .ok deed)
    {m : Mounts} (hm : m.failures = []) (cluster : String) :
    m.run cluster script =
      { m with runs := m.runs ++ [(cluster, script)] }.perform cluster deed := by
  simp only [run, hm, h]

end Mounts

namespace Board

theorem ofMounts_failed (m : Mounts) (run : String × String) (later : List String) :
    ofMounts { m with runs := m.runs ++ [run], failures := later } = (ofMounts m).failed later := by
  simp [ofMounts, failed, ran]

theorem ofMounts_ran (m : Mounts) (run : String × String) :
    ofMounts { m with runs := m.runs ++ [run] } = (ofMounts m).ran := by
  simp [ofMounts, ran]

theorem ofMounts_insert (m : Mounts) (cluster path source : String) :
    ofMounts (m.insert cluster path source) = (ofMounts m).put cluster path (some source) := by
  simp only [ofMounts, put, Board.mk.injEq]
  exact ⟨funext fun c => funext fun p => Mounts.source?_insert m cluster path source c p, rfl, rfl⟩

theorem ofMounts_erase (m : Mounts) (cluster path : String) :
    ofMounts (m.erase cluster path) = (ofMounts m).put cluster path none := by
  simp only [ofMounts, put, Board.mk.injEq]
  exact ⟨funext fun c => funext fun p => Mounts.source?_erase m cluster path c p, rfl, rfl⟩

end Board

/-! ## Mount points on the stage -/

namespace Stage

variable (s : Stage) (p : MountPoint)

theorem run_create_of_args {a : Attachment} {args : MountArgs} (h : a.args = .ok args) :
    Dialogue.run answer (p.create a) s =
      (some (MountPoint.createdBy p.name.path
        (s.mounts.run p.cluster (Script.create p.name.path args)).1),
        { s with mounts := (s.mounts.run p.cluster (Script.create p.name.path args)).2 }) := by
  rw [p.create_eq h, Errand.run_call]
  rfl

theorem run_read :
    Dialogue.run answer p.read s =
      (some (MountPoint.foundBy (s.mounts.run p.cluster (Script.read p.name.path)).1),
        { s with mounts := (s.mounts.run p.cluster (Script.read p.name.path)).2 }) := by
  rw [p.read_eq, Errand.run_call]
  rfl

theorem run_delete :
    Dialogue.run answer p.delete s =
      (some (MountPoint.removedBy (s.mounts.run p.cluster (Script.delete p.name.path)).1),
        { s with mounts := (s.mounts.run p.cluster (Script.delete p.name.path)).2 }) := by
  rw [p.delete_eq, Errand.run_call]
  rfl

/-! ## The stage and the board agree -/

/-- A move on the stage is told what the board says and leaves mounts that look as the board does;
nothing but the mounts is touched. -/
def PlaysAs (played : Option Outcome × Stage) (expected : Outcome × Board) : Prop :=
  played.1 = some expected.1 ∧ Board.ofMounts played.2.mounts = expected.2 ∧
    ∃ mounts, played.2 = { s with mounts }

theorem play_create (cluster : String) (name : MountName) (a : Attachment) :
    s.PlaysAs (s.play (.create cluster name a))
      ((Board.ofMounts s.mounts).create cluster name a) := by
  unfold play Board.create
  cases h : a.args with
  | error cause =>
    simp only [MountPoint.create, h]
    exact ⟨rfl, rfl, s.mounts, rfl⟩
  | ok args =>
    simp only [run_create_of_args _ _ h]
    have deed := Deed.ofScript_create name.path args
    cases hf : (Board.ofMounts s.mounts).failures with
    | cons message later =>
      rw [Mounts.run_of_failure hf]
      exact ⟨rfl, Board.ofMounts_failed s.mounts _ later, _, rfl⟩
    | nil =>
      rw [Mounts.run_of_deed deed hf]
      cases hb : (Board.ofMounts s.mounts).bound cluster name.path with
      | some there =>
        have known : s.mounts.source? cluster name.path = some there := hb
        simp only [Mounts.perform, Mounts.source?_of_sources, known]
        exact ⟨rfl, Board.ofMounts_ran s.mounts _, _, rfl⟩
      | none =>
        have free : s.mounts.source? cluster name.path = none := hb
        simp only [Mounts.perform, Mounts.source?_of_sources, free]
        refine ⟨rfl, ?_, _, rfl⟩
        rw [Board.ofMounts_insert, Board.ofMounts_ran]
        rfl

theorem play_read (cluster : String) (name : MountName) :
    s.PlaysAs (s.play (.read cluster name)) ((Board.ofMounts s.mounts).read cluster name) := by
  unfold play Board.read
  simp only [run_read]
  cases hf : (Board.ofMounts s.mounts).failures with
  | cons message later =>
    rw [Mounts.run_of_failure hf]
    exact ⟨rfl, Board.ofMounts_failed s.mounts _ later, _, rfl⟩
  | nil =>
    rw [Mounts.run_of_deed (Deed.ofScript_read name.path) hf]
    cases hb : (Board.ofMounts s.mounts).bound cluster name.path with
    | some there =>
      have known : s.mounts.source? cluster name.path = some there := hb
      simp only [Mounts.perform, Mounts.source?_of_sources, known]
      exact ⟨rfl, Board.ofMounts_ran s.mounts _, _, rfl⟩
    | none =>
      -- The interpreter raises the error of a missing mount, which the mount point understands.
      have free : s.mounts.source? cluster name.path = none := hb
      have marked : Text.Contains ("Exception: " ++ Script.notMounted) "Mount not found" :=
        ⟨"Exception: ".toList, [], rfl⟩
      simp only [Mounts.perform, Mounts.source?_of_sources, free, MountPoint.foundBy,
        if_pos marked]
      exact ⟨rfl, Board.ofMounts_ran s.mounts _, _, rfl⟩

theorem play_delete (cluster : String) (name : MountName) :
    s.PlaysAs (s.play (.delete cluster name)) ((Board.ofMounts s.mounts).delete cluster name) := by
  unfold play Board.delete
  simp only [run_delete]
  cases hf : (Board.ofMounts s.mounts).failures with
  | cons message later =>
    rw [Mounts.run_of_failure hf]
    exact ⟨rfl, Board.ofMounts_failed s.mounts _ later, _, rfl⟩
  | nil =>
    rw [Mounts.run_of_deed (Deed.ofScript_delete name.path) hf]
    refine ⟨rfl, ?_, _, rfl⟩
    simp only [Mounts.perform]
    rw [Board.ofMounts_erase, Board.ofMounts_ran]
    rfl

/-- Each move is told what the board says. -/
theorem play_playsAs (move : Move) :
    s.PlaysAs (s.play move) ((Board.ofMounts s.mounts).play move) := by
  cases move with
  | create cluster name attachment => exact play_create s cluster name attachment
  | read cluster name => exact play_read s cluster name
  | delete cluster name => exact play_delete s cluster name
  | insert cluster path source =>
    exact ⟨rfl, Board.ofMounts_insert s.mounts cluster path source, _, rfl⟩
  | fail message => exact ⟨rfl, rfl, _, rfl⟩

/-- However moves follow one another, the stage tells what the board tells and ends with the
bindings, the failures still to come and the number of scripts that the board ends with. -/
theorem playAll_eq_board (moves : List Move) :
    (s.playAll moves).1 = ((Board.ofMounts s.mounts).playAll moves).1.map some ∧
      Board.ofMounts (s.playAll moves).2.mounts = ((Board.ofMounts s.mounts).playAll moves).2 ∧
      ∃ mounts, (s.playAll moves).2 = { s with mounts } := by
  induction moves generalizing s with
  | nil => exact ⟨rfl, rfl, s.mounts, rfl⟩
  | cons move rest ih =>
    obtain ⟨told, looks, mounts, left⟩ := play_playsAs s move
    obtain ⟨toldLater, looksLater, mountsLater, leftLater⟩ := ih (s.play move).2
    rw [looks] at toldLater looksLater
    refine ⟨?_, looksLater, mountsLater, ?_⟩
    · simp only [playAll, Board.playAll, List.map_cons, told, toldLater]
    · refine leftLater.trans ?_
      rw [left]

end Stage

end RemoteMounts.Simulated
