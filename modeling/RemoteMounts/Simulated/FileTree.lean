import RemoteMounts.Files
import RemoteMounts.Keyed
import RemoteMounts.Text.Cut

/-!
# A simulated file system

A tree of files and directories below the directory at hand.  Everything above it is there too, but
holds nothing else.
-/

namespace RemoteMounts.Simulated

/-- What stands at a place of the tree. -/
inductive Entry
  | directory
  | file (text : String)
  /-- A file that is no text. -/
  | binary
deriving DecidableEq, Inhabited, Repr

/-- A tree, as a table of its entries under their paths. -/
abbrev FileTree : Type :=
  Keyed Entry

/-- A place that a path leads to. -/
inductive Place
  | inside (steps : List String)
  /-- Above the tree, or at the root of all paths. -/
  | above
  | nowhere
deriving DecidableEq, Inhabited, Repr

namespace FileTree

def pathOf (steps : List String) : String :=
  "/".intercalate steps

def entry? (t : FileTree) (steps : List String) : Option Entry :=
  if steps = [] then some .directory else t.get? (pathOf steps)

/-- Puts an entry at a place, and directories on the way to it. -/
def insert (t : FileTree) (steps : List String) (e : Entry) : FileTree :=
  let parents := (List.range steps.length).map fun n => pathOf (steps.take n)
  let t : FileTree := (parents.filter (· ≠ "")).foldl (fun t p => Keyed.insert t p .directory) t
  Keyed.insert t (pathOf steps) e

/-- The steps of a path that lead anywhere. -/
def stepsOf (path : String) : List String :=
  ((Text.pieces '/' path.toList).map String.ofList).filter fun s => s ≠ "" ∧ s ≠ "."

/-- One step from a place, which must be a directory even if the step leads nowhere. -/
def step (t : FileTree) : Place → String → Place
  | .inside steps, s =>
    if t.entry? steps ≠ some .directory then .nowhere
    else if s = "" ∨ s = "." then .inside steps
    else if s = ".." then if steps = [] then .above else .inside steps.dropLast
    else .inside (steps ++ [s])
  | .above, s => if s = "" ∨ s = "." ∨ s = ".." then .above else .nowhere
  | .nowhere, _ => .nowhere

/-- The place that a path leads to. -/
def follow (t : FileTree) (path : String) : Place :=
  let start := if path.toList.head? = some '/' then Place.above else .inside []
  ((Text.pieces '/' path.toList).map String.ofList).foldl t.step start

/-- What stands where a path leads to. -/
def find? (t : FileTree) (path : String) : Option Entry :=
  match t.follow path with
  | .inside steps => t.entry? steps
  | .above => some .directory
  | .nowhere => none

/-- The path in the tree of the file to which a path leads. -/
def locate? (t : FileTree) (path : String) : Option String :=
  match t.follow path with
  | .inside steps =>
    match t.entry? steps with
    | some (.file _) | some .binary => some (pathOf steps)
    | _ => none
  | _ => none

def answer : Party Files FileTree
  | .openDirectory path, t =>
    match t.find? path with
    | some .directory => some (.ok (), t)
    | some _ => some (.error "it is no directory", t)
    | none => some (.error "there is no such directory", t)
  | .locate path, t => some (t.locate? path, t)
  | .read path, t =>
    match t.find? path with
    | some (.file text) => some (.text text, t)
    | some .binary => some (.unreadable "it is no text", t)
    | some .directory => some (.absent "it is a directory", t)
    | none => some (.absent "there is no such file", t)

end FileTree

end RemoteMounts.Simulated
