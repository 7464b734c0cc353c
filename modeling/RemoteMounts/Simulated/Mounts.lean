import RemoteMounts.Json.Parser
import RemoteMounts.Mount.Script
import RemoteMounts.Outside
import RemoteMounts.Scribe
import RemoteMounts.Text.Cut

/-!
# Simulated mounts

Clusters that know the mount scripts and nothing else: a script is read as the deed that it does,
and the deed is done on a table of what is mounted where.  Failures may be queued for the next
scripts, and every script that is run is recorded.
-/

namespace RemoteMounts.Simulated

/-- What a script does to its cluster. -/
inductive Deed
  /-- Mounts the source unless something is mounted at the path. -/
  | bind (path source : String)
  | clear (path : String)
  | look (path : String)
deriving DecidableEq, Inhabited, Repr

/-- Why a script is not understood. -/
inductive Misreading
  | noCall
  /-- The arguments of the call are no list. -/
  | noList (arguments : String)
  | badArguments
  | unknownScript
deriving DecidableEq, Inhabited, Repr

def Misreading.message (scribe : Scribe) : Misreading → String
  | noCall => "SyntaxError: missing call"
  | noList arguments => "SyntaxError: " ++ scribe.arguments arguments
  | badArguments => "TypeError: safe_mount() arguments"
  | unknownScript => "SyntaxError: unrecognised script"

namespace Deed

/-- What follows the front of the first line that begins with it. -/
def lineAfter? (front : String) (script : String) : Option (List Char) :=
  (Text.lines script.toList).findSome? (Text.stripFront? front.toList)

/-- The items of a JSON list that is kept as a whole. -/
def listItems? (text : List Char) : Option (List Datum) :=
  match (Json.parse? text).bind Json.datum? with
  | some (.list items) => some items
  | _ => none

/-- The text of a JSON literal. -/
def literalText? (text : List Char) : Option String :=
  match Json.parse? text with
  | some (.text s) => some s
  | _ => none

/-- The deed of a script that defines the mounting function. -/
def ofCall (script : String) : Except Misreading Deed :=
  match (lineAfter? Script.callFront script).bind (Text.stripLast? ')') with
  | none => .error .noCall
  | some arguments =>
    match listItems? ('[' :: (arguments ++ [']'])) with
    | none => .error (.noList (String.ofList arguments))
    | some (.text path :: .text source :: _) => .ok (.bind path source)
    | some _ => .error .badArguments

/-- The literal after the front, with or without a colon behind it. -/
def literalAfter? (front script : String) : Option String :=
  (lineAfter? front script).bind fun text =>
    literalText? ((Text.stripLast? ':' text).getD text)

def ofScript (script : String) : Except Misreading Deed :=
  if (Text.stripFront? "def safe_mount".toList script.toList).isSome then ofCall script
  else
    match literalAfter? Script.pathFront script with
    | some path => .ok (.clear path)
    | none =>
      match literalAfter? Script.matchFront script with
      | some path => .ok (.look path)
      | none => .error .unknownScript

end Deed

/-- What is mounted on each cluster, the failures that the next scripts meet, and the scripts that
have been run, with their clusters. -/
structure Mounts where
  sources : Keyed (Keyed String) := .empty
  failures : List String := []
  runs : List (String × String) := []
  /-- Whoever reads the scripts. -/
  scribe : Scribe := {}

namespace Mounts

instance : Inhabited Mounts := ⟨{}⟩

/-- The paths of a cluster at which something is mounted. -/
def onCluster (m : Mounts) (cluster : String) : Keyed String :=
  (m.sources.get? cluster).getD .empty

def source? (m : Mounts) (cluster path : String) : Option String :=
  (m.onCluster cluster).get? path

/-- Mounts the source at the path, whatever was there. -/
def insert (m : Mounts) (cluster path source : String) : Mounts :=
  { m with sources := m.sources.insert cluster ((m.onCluster cluster).insert path source) }

def erase (m : Mounts) (cluster path : String) : Mounts :=
  { m with sources := m.sources.insert cluster ((m.onCluster cluster).erase path) }

/-- Makes one of the next scripts fail. -/
def fail (m : Mounts) (message : String) : Mounts :=
  { m with failures := m.failures ++ [message] }

def perform (m : Mounts) (cluster : String) : Deed → Except ScriptFault String × Mounts
  | .bind path source =>
    match m.source? cluster path with
    | some there => (.ok there, m)
    | none => (.ok source, m.insert cluster path source)
  | .clear path => (.ok Script.success, m.erase cluster path)
  | .look path =>
    match m.source? cluster path with
    | some there => (.ok there, m)
    | none => (.error ⟨"Exception: " ++ Script.notMounted⟩, m)

def run (m : Mounts) (cluster script : String) : Except ScriptFault String × Mounts :=
  let m := { m with runs := m.runs ++ [(cluster, script)] }
  match m.failures with
  | message :: later => (.error ⟨message⟩, { m with failures := later })
  | [] =>
    match Deed.ofScript script with
    | .error misread => (.error ⟨misread.message m.scribe⟩, m)
    | .ok deed => m.perform cluster deed

/-! ## What is mounted afterwards -/

@[simp] theorem source?_insert (m : Mounts) (cluster path source other place : String) :
    (m.insert cluster path source).source? other place =
      if other = cluster ∧ place = path then some source else m.source? other place := by
  unfold source? onCluster insert
  by_cases h : other = cluster
  · subst h
    by_cases hp : place = path <;> simp [onCluster, hp]
  · simp [h]

@[simp] theorem source?_erase (m : Mounts) (cluster path other place : String) :
    (m.erase cluster path).source? other place =
      if other = cluster ∧ place = path then none else m.source? other place := by
  unfold source? onCluster erase
  by_cases h : other = cluster
  · subst h
    by_cases hp : place = path <;> simp [onCluster, hp]
  · simp [h]

end Mounts

end RemoteMounts.Simulated
