import RemoteMounts.Dialogue
import RemoteMounts.Time

/-!
# The wire to a workspace

What a client of a workspace asks of the world: that a message be sent, what time it is, that time
pass, and what has been done once.
-/

namespace RemoteMounts

/-- What a message asks for: to be told something, or that something be done. -/
inductive Verb
  | get
  | post
deriving DecidableEq, Inhabited, Repr

structure Message where
  verb : Verb
  /-- The URL of the workspace. -/
  base : String
  /-- The path and the query, which follow the URL of the workspace. -/
  target : String
  token : String
  body : String
deriving DecidableEq, Inhabited, Repr

namespace Message

def url (m : Message) : String :=
  m.base ++ m.target

/-- The header by which the sender is known. -/
def authorization (m : Message) : String :=
  "Bearer " ++ m.token

/-- Whether the header can be written: it has no control but the tab. -/
def isSendable (m : Message) : Bool :=
  m.authorization.toList.all fun c => c = '\t' || (' ' ≤ c && c ≠ '\x7f')

end Message

structure Reply where
  status : Nat
  body : String
deriving DecidableEq, Inhabited, Repr

def Reply.isSuccess (r : Reply) : Bool :=
  200 ≤ r.status && r.status < 300

/-- Something that is asked by a client of a workspace. -/
inductive WireQuestion
  | send (message : Message)
  | now
  | pause (span : Duration)
  | enter (identity : String)
  | leave (identity : String) (outcome : Bool)
deriving DecidableEq

/-- The kind of answer that a question has.  A message that gets no reply is answered by the
reason. -/
@[reducible]
def WireQuestion.Answer : WireQuestion → Type
  | send _ => Except String Reply
  | now => Instant
  | pause _ => Unit
  | enter _ => Option Bool
  | leave _ _ => Unit

@[reducible]
def Wire : Interface :=
  ⟨WireQuestion, WireQuestion.Answer⟩

def Wire.ask (q : WireQuestion) : Dialogue Wire q.Answer :=
  Dialogue.put (I := Wire) q

/-- The party that passes on only what can be sent, and all other questions. -/
def Wire.careful {σ : Type} (party : Party Wire σ) : Party Wire σ
  | .send m, s =>
    if m.isSendable then party (.send m) s else some (.error "the token fits in no header", s)
  | .now, s => party .now s
  | .pause span, s => party (.pause span) s
  | .enter identity, s => party (.enter identity) s
  | .leave identity outcome, s => party (.leave identity outcome) s

end RemoteMounts
