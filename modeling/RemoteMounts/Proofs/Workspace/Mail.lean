import RemoteMounts.Json.RoundTrip
import RemoteMounts.Proofs.Dialogue.Transcript
import RemoteMounts.Workspace.Client

/-!
# Mail

What goes over the wire to a workspace in a run: every message that was sent, with what came back
for it.  The clock and the record of what is done once leave no trace in it.  Whatever a client
does is a number of letters, each of them answered by what the client reads in the reply (`get_eq`,
`post_eq`).
-/

namespace RemoteMounts

/-- A message with what came back for it: a reply, or the reason why there was none. -/
structure Letter where
  message : Message
  reply : Except String Reply

/-- The letter of an exchange, if a message was sent in it. -/
def Exchange.letter? : Exchange Wire → Option Letter
  | ⟨.send message, reply⟩ => some ⟨message, reply⟩
  | _ => none

def mail (exchanges : List (Exchange Wire)) : List Letter :=
  exchanges.filterMap Exchange.letter?

@[simp] theorem mail_nil : mail [] = [] := rfl

@[simp] theorem mail_append (xs ys : List (Exchange Wire)) :
    mail (xs ++ ys) = mail xs ++ mail ys :=
  List.filterMap_append

namespace Wire

variable {α β σ : Type} (r : Respondent Wire σ)

/-- Sends a message and reads whatever comes back. -/
def correspond (message : Message) (read : Except String Reply → α) : Dialogue Wire α :=
  .ask (.send message) fun reply => .done (read reply)

theorem run_ask_bind (q : WireQuestion) (next : q.Answer → Dialogue Wire β) (s : σ) :
    Dialogue.run r.party (Wire.ask q >>= next) s =
      Dialogue.run r.party (next (r q s).1) (r q s).2 := rfl

theorem transcript_ask_bind (q : WireQuestion) (next : q.Answer → Dialogue Wire β) (s : σ) :
    Dialogue.transcript r (Wire.ask q >>= next) s =
      ⟨q, (r q s).1⟩ :: Dialogue.transcript r (next (r q s).1) (r q s).2 := rfl

/-- The clock gets no mail. -/
theorem mail_now_bind (next : Instant → Dialogue Wire β) (s : σ) :
    mail (Dialogue.transcript r (Wire.ask .now >>= next) s) =
      mail (Dialogue.transcript r (next (r .now s).1) (r .now s).2) := rfl

theorem mail_pause_bind (span : Duration) (next : Unit → Dialogue Wire β) (s : σ) :
    mail (Dialogue.transcript r (Wire.ask (.pause span) >>= next) s) =
      mail (Dialogue.transcript r (next (r (.pause span) s).1) (r (.pause span) s).2) := rfl

section

variable (message : Message) (read : Except String Reply → α) (next : α → Dialogue Wire β) (s : σ)

theorem run_correspond_bind :
    Dialogue.run r.party (correspond message read >>= next) s =
      Dialogue.run r.party (next (read (r (.send message) s).1)) (r (.send message) s).2 := rfl

theorem transcript_correspond_bind :
    Dialogue.transcript r (correspond message read >>= next) s =
      ⟨.send message, (r (.send message) s).1⟩ ::
        Dialogue.transcript r (next (read (r (.send message) s).1)) (r (.send message) s).2 := rfl

theorem mail_correspond_bind :
    mail (Dialogue.transcript r (correspond message read >>= next) s) =
      ⟨message, (r (.send message) s).1⟩ ::
        mail (Dialogue.transcript r (next (read (r (.send message) s).1))
          (r (.send message) s).2) := rfl

end

/-- The question sends a message of the kind, or none. -/
def Sends (kind : Message → Prop) : WireQuestion → Prop
  | .send message => kind message
  | _ => True

theorem asks_correspond_bind {message : Message} {read : Except String Reply → α}
    {next : α → Dialogue Wire β} {kind : Message → Prop} (sent : kind message)
    (h : ∀ a, (next a).Asks (Sends kind)) :
    (correspond message read >>= next).Asks (Sends kind) :=
  ⟨sent, fun _ => h _⟩

end Wire

namespace Client

/-- The message that asks an endpoint. -/
def asking (c : Client) (endpoint : String) (parameters : List (String × String)) : Message where
  verb := .get
  base := c.base
  target := endpoint ++ (if parameters = [] then "" else "?" ++ Form.query parameters)
  token := c.token
  body := ""

/-- The message that has an endpoint do something. -/
def posting (c : Client) (endpoint : String) (body : Datum) : Message where
  verb := .post
  base := c.base
  target := endpoint
  token := c.token
  body := body.compact

/-- What is read in whatever came back from an endpoint. -/
def reading {α : Type} (c : Client) (endpoint : String) (read : Json → Option α) :
    Except String Reply → Except WorkspaceFault α
  | .error reason => .error (.unsent endpoint reason)
  | .ok reply => c.understand endpoint read reply

variable {α : Type} (c : Client) (endpoint : String) (read : Json → Option α)

theorem exchange_eq (verb : Verb) (query body : String) :
    c.exchange verb endpoint query body read =
      Wire.correspond ⟨verb, c.base, endpoint ++ query, c.token, body⟩ (c.reading endpoint read) := by
  refine congrArg (Dialogue.ask (I := Wire) (WireQuestion.send _)) (funext fun reply => ?_)
  cases reply <;> rfl

theorem get_eq (parameters : List (String × String)) :
    c.get endpoint parameters read =
      Wire.correspond (c.asking endpoint parameters) (c.reading endpoint read) :=
  exchange_eq ..

theorem post_eq (body : Datum) :
    c.post endpoint body read =
      Wire.correspond (c.posting endpoint body) (c.reading endpoint read) := by
  rw [post, exchange_eq, String.append_empty]
  rfl

/-! ## Replies that are known beforehand -/

/-- The reply that says yes and holds an object. -/
def document (fields : List (String × Json)) : Reply :=
  ⟨200, (Json.object fields).compact⟩

variable {c endpoint read}

/-- Such a reply is read as the object that it holds. -/
theorem reading_document {fields : List (String × Json)} {a : α}
    (h : read (.object fields) = some a) :
    c.reading endpoint read (.ok (document fields)) = .ok a := by
  have begun : (document fields).body.toList =
      '\x7b' :: (Json.object fields).compact.toList.drop 1 := by
    simp [document, Json.compact, Json.chars]
  have parsed : Json.ofString? (document fields).body = some (.object fields) :=
    Json.ofString?_compact _
  have success : (document fields).isSuccess = true := rfl
  rw [reading, understand, if_neg (by simp [success]),
    if_neg (Text.trim_ne_empty begun (by decide)), parsed, Option.bind_some, h]

end Client

/-- A workspace that sends these replies in their order and then none, at a clock that stands. -/
def Wire.replying : Respondent Wire (List (Except String Reply))
  | .send _, [] => (.error "no reply", [])
  | .send _, reply :: later => (reply, later)
  | .now, replies => (⟨0⟩, replies)
  | .pause _, replies => ((), replies)
  | .enter _, replies => (none, replies)
  | .leave _ _, replies => ((), replies)

end RemoteMounts
