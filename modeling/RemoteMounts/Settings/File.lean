import RemoteMounts.Files
import RemoteMounts.Json5.Parser
import RemoteMounts.Path
import RemoteMounts.Record
import RemoteMounts.Toml.Parser
import RemoteMounts.Yaml.Document

/-!
# Files of settings

A file of settings is written in the format that the ending of its name tells, and it may be based
on another one: what it leaves open is as in the other file.
-/

namespace RemoteMounts.Settings

/-! ## What a text says -/

inductive Format
  | toml
  | json
  | yaml
deriving DecidableEq, Inhabited, Repr

def Format.ofPath (path : String) : Format :=
  match (Path.ending? path).map fun ending => String.ofList (ending.toList.map Char.toLower) with
  | some "json" | some "json5" => .json
  | some "yaml" | some "yml" => .yaml
  | _ => .toml

mutual

/-- Whether every whole number of a document has 64 bits with its sign. -/
def fits : Datum → Bool
  | .int n => -(Nat.pow 2 63 : Int) ≤ n && n < (Nat.pow 2 63 : Int)
  | .list items => fitItems items
  | .table entries => fitEntries entries
  | _ => true

def fitItems : List Datum → Bool
  | [] => true
  | d :: rest => fits d && fitItems rest

def fitEntries : List (String × Datum) → Bool
  | [] => true
  | (_, d) :: rest => fits d && fitEntries rest

end

def Format.datum? : Format → String → Option Datum
  | .toml, s => (Toml.ofString? .v10 s).bind fun d => if fits d then some d else none
  | .json, s => Json5.ofString? s
  | .yaml, s => Yaml.ofString? s

/-- What a text in the format sets. -/
def Format.entries? (format : Format) (s : String) : Option (List (String × Datum)) :=
  match format.datum? s with
  | some (.table entries) => some entries
  | _ => none

/-! ## Files based on others -/

/-- The key of the file on which a file is based. -/
def baseKey : String := "extends"

/-- The path of the file on which the entries are based, if they are on any; a base must be named by
a text that is not empty. -/
def base? (entries : List (String × Datum)) : Option (Option String) :=
  match entries.lookup baseKey with
  | none => some none
  | some (.text path) => if path = "" then none else some (some path)
  | some _ => none

/-- How many files may be based on each other in a row. -/
def longestChain : Nat := 1000

/-- What the file sets, together with the files on which it is based; a file is never based on
itself.  Of entries with the same key the first one counts. -/
def readChain : (patience : Nat) → (seen : List String) → (path : String) →
    Dialogue Files (Option (List (String × Datum)))
  | 0, _, _ => return none
  | patience + 1, seen, path => do
    if path ∈ seen then return none
    match ← Files.ask (.read path) with
    | .absent _ | .unreadable _ => return none
    | .text s =>
      match (Format.ofPath path).entries? s with
      | none => return none
      | some entries =>
        match base? entries with
        | none => return none
        | some none => return some entries
        | some (some base) =>
          match ← Files.ask (.locate (Path.beside path base)) with
          | none => return none
          | some path' =>
            return (← readChain patience (path :: seen) path').map (entries ++ ·)

end RemoteMounts.Settings
