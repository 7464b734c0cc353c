import RemoteMounts.Keyed

/-!
# What is done once for an identity

Several mounts may depend on one thing outside, such as a registered instance profile.  Whoever
needs it enters for its identity: the first one goes on to see to it and holds the identity until it
leaves with the outcome, the others wait, and from then on everyone is told the recorded outcome.
Failure is recorded like success.  `enter_eq_recorded_iff` and `outcome?_leave` tie what is told to
what was left, and steps for one identity do not touch another (`outcome?_leave_of_ne`).
-/

namespace RemoteMounts

/-- What is known of an identity: whether someone holds it, and the outcome once there is one. -/
structure Once.Entry where
  held : Bool
  outcome : Option Bool
deriving DecidableEq, Inhabited, Repr

/-- What is known of every identity that someone has entered for. -/
abbrev Once : Type :=
  Keyed Once.Entry

/-- What someone who enters is told: to wait, to go on, or what came of it earlier. -/
inductive Admission
  | wait
  | go
  | recorded (outcome : Bool)
deriving DecidableEq, Inhabited, Repr

namespace Once

def entry (o : Once) (identity : String) : Entry :=
  (o.get? identity).getD ⟨false, none⟩

def enter (o : Once) (identity : String) : Admission × Once :=
  match o.entry identity with
  | ⟨true, _⟩ => (.wait, o)
  | ⟨false, some outcome⟩ => (.recorded outcome, o)
  | ⟨false, none⟩ => (.go, o.insert identity ⟨true, none⟩)

def leave (o : Once) (identity : String) (outcome : Bool) : Once :=
  o.insert identity ⟨false, some outcome⟩

/-- Leaves the identity without an outcome, so that the next one who enters goes on. -/
def abandon (o : Once) (identity : String) : Once :=
  o.insert identity ⟨false, none⟩

/-- The recorded outcome, unless someone holds the identity. -/
def outcome? (o : Once) (identity : String) : Option Bool :=
  match o.entry identity with
  | ⟨true, _⟩ => none
  | ⟨false, outcome⟩ => outcome

/-! ## Laws -/

@[simp] theorem entry_insert (o : Once) (identity other : String) (e : Entry) :
    entry (o.insert identity e) other = if other = identity then e else o.entry other := by
  unfold entry
  rw [Keyed.get?_insert]
  split <;> rfl

theorem enter_eq_recorded_iff {o : Once} {identity : String} {outcome : Bool} :
    (o.enter identity).1 = .recorded outcome ↔ o.outcome? identity = some outcome := by
  unfold enter outcome?
  cases h : o.entry identity with
  | mk held known =>
    cases held <;> cases known <;> simp

@[simp] theorem outcome?_leave (o : Once) (identity : String) (outcome : Bool) :
    (o.leave identity outcome).outcome? identity = some outcome := by
  simp [outcome?, leave]

theorem outcome?_leave_of_ne {o : Once} {identity other : String} (outcome : Bool)
    (h : other ≠ identity) : (o.leave identity outcome).outcome? other = o.outcome? other := by
  simp [outcome?, leave, h]

end Once

end RemoteMounts
