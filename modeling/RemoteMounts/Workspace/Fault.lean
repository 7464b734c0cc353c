import RemoteMounts.Cluster.Fault
import RemoteMounts.Outside
import RemoteMounts.Text.Cut

/-!
# What can go wrong with a workspace

Why a request to the workspace gave nothing.  A workspace that refuses a request says why in words
of its own; these alone go on to whoever ran a script, while everyone else is told where they came
from.
-/

namespace RemoteMounts

inductive WorkspaceFault
  | noClient (reason : String)
  /-- There was no reply. -/
  | unsent (endpoint reason : String)
  /-- The reply has a status that is not success. -/
  | refused (endpoint : String) (status : Nat) (code message : String)
  /-- The reply makes no sense. -/
  | undecoded (endpoint reason : String)
  | stillWaiting (what : String) (seconds : Nat)
deriving DecidableEq, Inhabited, Repr

namespace WorkspaceFault

def message : WorkspaceFault → String
  | noClient reason => "failed to build HTTP client: " ++ reason
  | unsent endpoint reason => "request to " ++ endpoint ++ " failed: " ++ reason
  | refused endpoint status code message =>
    endpoint ++ " returned " ++ toString status ++ " " ++ code ++ ": " ++ message
  | undecoded endpoint reason => "failed to decode response from " ++ endpoint ++ ": " ++ reason
  | stillWaiting what seconds => "timeout after " ++ toString seconds ++ "s waiting for " ++ what

/-- The codes by which a workspace says that something is not there. -/
def absentCodes : List String := ["RESOURCE_DOES_NOT_EXIST", "NOT_FOUND"]

def isAbsent : WorkspaceFault → Bool
  | refused _ status code _ => status = 404 || absentCodes.contains code
  | _ => false

/-- Whether the workspace says that something is there already. -/
def isPresent : WorkspaceFault → Bool
  | refused _ _ code message =>
    code = "RESOURCE_ALREADY_EXISTS" || Text.mentions message "already exists"
  | _ => false

/-- The fault as the provider of clusters reports it. -/
def clusterFault (f : WorkspaceFault) : ClusterFault :=
  .refused f.message

/-- The fault as the registry of instance profiles reports it. -/
def profileFault (arn : ProfileArn) (f : WorkspaceFault) : ProfileFault :=
  ⟨arn.text, f.message⟩

/-- The fault as whoever ran a script is told it. -/
def scriptFault : WorkspaceFault → ScriptFault
  | refused _ _ _ message => ⟨message⟩
  | f => ⟨f.message⟩

end WorkspaceFault

end RemoteMounts
