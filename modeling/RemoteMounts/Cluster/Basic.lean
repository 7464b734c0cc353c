import RemoteMounts.Credential.ProfileArn

/-!
# Clusters and what a mount needs of them

A cluster is seen as its provider reports it: an id, a name, the phase of its life and the instance
profile attached to it.  A mount needs either nothing of a cluster or an instance profile, some or a
certain one.
-/

namespace RemoteMounts

inductive Phase
  | pending
  | running
  | restarting
  | resizing
  | terminating
  | terminated
  | error
  | unknown
deriving DecidableEq, Inhabited, Repr

namespace Phase

/-- The provider's word for the phase. -/
def label : Phase → String
  | pending => "PENDING"
  | running => "RUNNING"
  | restarting => "RESTARTING"
  | resizing => "RESIZING"
  | terminating => "TERMINATING"
  | terminated => "TERMINATED"
  | error => "ERROR"
  | unknown => "UNKNOWN"

/-- The phases in the order of a cluster's life. -/
def all : List Phase :=
  [pending, running, restarting, resizing, terminating, terminated, error, unknown]

/-- The letters a to z in upper case, every other character as it is. -/
def upper (s : String) : String :=
  String.ofList (s.toList.map Char.toUpper)

/-- The phase of a label in any case and with blanks around it; unknown if it is no label. -/
def ofLabel (s : String) : Phase :=
  (all.find? fun p => p.label = upper (Text.trim s)).getD unknown

/-- Whether the cluster runs commands. -/
def isReady : Phase → Bool
  | running | resizing => true
  | _ => false

/-- Whether the cluster will not run commands again unless it is started. -/
def isTerminal : Phase → Bool
  | terminating | terminated | error => true
  | _ => false

end Phase

structure Cluster where
  id : String
  name : String
  phase : Phase
  /-- The provider's explanation of the phase. -/
  note : String
  /-- The instance profile attached to the cluster. -/
  profile : Option String
deriving DecidableEq, Inhabited

inductive Need
  | nothing
  | anyProfile
  | profile (arn : ProfileArn)
deriving DecidableEq

namespace Need

/-- Whether a cluster with this instance profile meets the need.  Blanks around the attached profile
do not count, and a blank one is none. -/
def isMetBy (need : Need) (attached : Option String) : Bool :=
  match need with
  | nothing => true
  | anyProfile => (attached.bind Text.filled?).isSome
  | profile arn => attached.bind Text.filled? == some arn.text

/-- The profile that a new cluster is to be given. -/
def profile? : Need → Option ProfileArn
  | profile arn => some arn
  | nothing | anyProfile => none

def wording : Need → String
  | nothing => "no credential attributes"
  | anyProfile => "an instance profile"
  | profile arn => "instance profile " ++ arn.text

/-- The name of the cluster that is made when there is none to meet the need. -/
def clusterName (need : Need) : String :=
  match need.profile? with
  | some arn => "lakemount-" ++ arn.profileName
  | none => "lakemount-default"

end Need

/-- What is wanted of a cluster: one of this id, if it is pinned, and in any case one that meets the
need. -/
structure Wanted where
  pinned : Option String
  need : Need
deriving DecidableEq

end RemoteMounts
