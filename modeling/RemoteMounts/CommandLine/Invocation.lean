import RemoteMounts.Text.Cut

/-!
# Invocations

What a command line asks for.  A command on a mount takes the file of its declaration, and may name
the cluster to use; the option stands before or after the file and must not be repeated.  After two
hyphens every argument stands for itself.
-/

namespace RemoteMounts

/-- What is to be done with a mount. -/
inductive MountVerb
  | create
  | read
  | delete
deriving DecidableEq, Inhabited, Repr

inductive Invocation
  | mount (verb : MountVerb) (file : String) (cluster : Option String)
  | unregister (arn : String)
deriving DecidableEq, Inhabited, Repr

namespace Invocation

/-- The arguments of a command, as far as they have been read. -/
structure Given where
  operand : Option String := none
  cluster : Option String := none
deriving DecidableEq, Inhabited, Repr

def clusterOption : String := "--cluster-id"

def isOption (argument : String) : Bool :=
  argument.toList.head? = some '-' && argument ≠ "-"

/-- Takes an argument that stands for itself. -/
def Given.place (g : Given) (argument : String) : Option Given :=
  if g.operand.isSome then none else some { g with operand := some argument }

def Given.choose (g : Given) (cluster : String) : Option Given :=
  if g.cluster.isSome then none else some { g with cluster := some cluster }

/-- Takes all arguments as they stand. -/
def placeAll : List String → Given → Option Given
  | [], g => some g
  | argument :: rest, g => (g.place argument).bind (placeAll rest)

/-- Reads the arguments of a command, which may take the option. -/
def readArguments (takesCluster : Bool) : List String → Given → Option Given
  | [], g => some g
  | [argument], g =>
    if argument = "--" then some g
    else if isOption argument then
      match takesCluster,
        Text.stripFront? (clusterOption ++ "=").toList argument.toList with
      | true, some value => g.choose (String.ofList value)
      | _, _ => none
    else g.place argument
  | argument :: next :: rest, g =>
    if argument = "--" then placeAll (next :: rest) g
    else if argument = clusterOption ∧ takesCluster then
      if isOption next then none
      else (g.choose next).bind (readArguments takesCluster rest)
    else if isOption argument then
      match takesCluster,
        Text.stripFront? (clusterOption ++ "=").toList argument.toList with
      | true, some value =>
        (g.choose (String.ofList value)).bind (readArguments takesCluster (next :: rest))
      | _, _ => none
    else (g.place argument).bind (readArguments takesCluster (next :: rest))

def ofMountArguments? (verb : MountVerb) (arguments : List String) : Option Invocation := do
  let given ← readArguments true arguments {}
  return .mount verb (← given.operand) given.cluster

/-- What the arguments of the program ask for; nothing if they make no sense. -/
def ofArguments? : List String → Option Invocation
  | "create" :: rest => ofMountArguments? .create rest
  | "read" :: rest => ofMountArguments? .read rest
  | "delete" :: rest => ofMountArguments? .delete rest
  | "unregister-profile" :: rest => do
    let given ← readArguments false rest {}
    return .unregister (← given.operand)
  | _ => none

def usage : String :=
  "usage: create|read|delete FILE [--cluster-id ID]\n" ++
    "       unregister-profile ARN\n"

end Invocation

end RemoteMounts
