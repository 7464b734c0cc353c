import RemoteMounts.Datum

/-!
# Tables in the making

A TOML document says piece by piece which tables there are.  A table may be implied by a longer
header, made by a dotted key, or opened by a header of its own, and each way decides who may still
add to it: a header opens a table that was only implied, a dotted key adds to tables that dotted
keys have made, and a value is closed for good.
-/

namespace RemoteMounts.Toml

/-- How a table came to be. -/
inductive Origin
  | implied
  | dotted
  | opened
deriving DecidableEq, Inhabited, Repr

/-- Part of a document in the making: a value, a table, or a series of tables. -/
inductive Node
  | value (d : Datum)
  | table (origin : Origin) (entries : List (String × Node))
  | series (elements : List (List (String × Node)))
deriving Inhabited

namespace Node

/-- Changes what is bound to the key, or binds it at the end; nothing if the change is refused. -/
def alter (key : String) (change : Option Node → Option Node) :
    List (String × Node) → Option (List (String × Node))
  | [] => (change none).map fun n => [(key, n)]
  | (k, n) :: rest =>
    if k = key then (change (some n)).map fun n => (k, n) :: rest
    else (alter key change rest).map ((k, n) :: ·)

/-- Changes the last of a series; nothing if it is empty. -/
def alterLast (change : List (String × Node) → Option (List (String × Node))) :
    List (List (String × Node)) → Option (List (List (String × Node)))
  | [] => none
  | [last] => (change last).map ([·])
  | element :: rest => (alterLast change rest).map (element :: ·)

/-- Changes the table at the end of a path, making the tables on the way that are not there.  A path
of a dotted key does not lead through tables that were opened. -/
def descend (byDots : Bool)
    (change : Origin → List (String × Node) → Option (List (String × Node))) :
    List String → Origin → List (String × Node) → Option (List (String × Node))
  | [], origin, entries => change origin entries
  | key :: path, _, entries =>
    alter key
      (fun
        | none =>
          let origin := if byDots then Origin.dotted else .implied
          (descend byDots change path origin []).map (.table origin)
        | some (.table origin entries) =>
          if byDots ∧ origin = .opened then none
          else (descend byDots change path origin entries).map (.table origin)
        | some (.series elements) =>
          (alterLast (descend byDots change path .opened) elements).map .series
        | some (.value _) => none)
      entries

def openTable (path : List String) (key : String) (root : List (String × Node)) :
    Option (List (String × Node)) :=
  descend false
    (fun _ => alter key fun
      | none => some (.table .opened [])
      | some (.table .implied entries) => some (.table .opened entries)
      | _ => none)
    path .opened root

/-- Opens one more table of the series at the end of the path. -/
def openElement (path : List String) (key : String) (root : List (String × Node)) :
    Option (List (String × Node)) :=
  descend false
    (fun _ => alter key fun
      | none => some (.series [[]])
      | some (.series elements) => some (.series (elements ++ [[]]))
      | _ => none)
    path .opened root

/-- Binds a dotted key to a value.  The table that is bound to must be the one at hand, or made by
dotted keys. -/
def bind (path : List String) (key : String) (d : Datum) (entries : List (String × Node)) :
    Option (List (String × Node)) :=
  descend true
    (fun origin entries =>
      if path ≠ [] ∧ origin ≠ .dotted then none
      else
        alter key
          (fun
            | none => some (.value d)
            | some _ => none)
          entries)
    path .opened entries

/-- Binds a dotted key in the table at the end of a header's path. -/
def bindUnder (header path : List String) (key : String) (d : Datum)
    (root : List (String × Node)) : Option (List (String × Node)) :=
  descend false (fun _ => bind path key d) header .opened root

mutual

/-- The meaning of a finished part. -/
def datum : Node → Datum
  | value d => d
  | table _ entries => .table (entriesDatum entries)
  | series elements => .list (elementsDatum elements)

def entriesDatum : List (String × Node) → List (String × Datum)
  | [] => []
  | (key, n) :: rest => (key, datum n) :: entriesDatum rest

def elementsDatum : List (List (String × Node)) → List Datum
  | [] => []
  | entries :: rest => .table (entriesDatum entries) :: elementsDatum rest

end

end Node

end RemoteMounts.Toml
