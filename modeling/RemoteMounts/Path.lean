import RemoteMounts.Text.Cut

/-!
# Paths of files

A path is a series of steps between slashes.  Slashes at its end, empty steps and steps that stay
where they are count for nothing, except for one at the front of the path.  The last step is the
file's name, unless it leads upwards; what stands before it is its directory.
-/

namespace RemoteMounts.Path

/-- The steps of a path, up to the last one that counts. -/
def dropIdle : List (List Char) → List (List Char)
  | [] => []
  | first :: rest => first :: (rest.reverse.dropWhile fun s => s.isEmpty || s = ['.']).reverse

/-- The path of the steps; the root if there is only the empty step before its slash. -/
def join (steps : List (List Char)) : String :=
  if steps = [[]] then "/" else String.ofList ((steps.intersperse ['/']).flatten)

/-- The steps of a path that count, and those that stand between them. -/
def steps (path : String) : List (List Char) :=
  dropIdle (Text.pieces '/' path.toList)

def name? (path : String) : Option String :=
  match (steps path).getLast? with
  | none => none
  | some last =>
    if last ∈ [[], ['.'], ['.', '.']] then none else some (String.ofList last)

/-- The directory of the file: the one at hand if the path does not say. -/
def directory (path : String) : String :=
  match (steps path).dropLast with
  | [] => "."
  | front => join (dropIdle front)

/-- The path, taken from the directory of the file unless it starts at the root. -/
def beside (file path : String) : String :=
  if path.toList.head? = some '/' then path else directory file ++ "/" ++ path

/-- What stands after the last dot of the file's name, which must not be its first character. -/
def ending? (path : String) : Option String :=
  match (name? path).map String.toList with
  | some (_ :: rest) =>
    if '.' ∈ rest then some (String.ofList (Text.afterLast '.' rest)) else none
  | _ => none

end RemoteMounts.Path
