import Mathlib.Data.List.DropRight
import RemoteMounts.Proofs.Dialogue.Relaying
import RemoteMounts.Proofs.Workspace.Scripts
import RemoteMounts.Workspace.Answer

/-!
# The addresses of a workspace

Every message of a client goes to the URL of the workspace with the path of an endpoint right behind
it, and that URL is the one that the settings give, whichever errand is carried out
(`asks_perform`).  Of settings that were accepted it has neither a blank in front nor a slash at
its end.  What it need not have is a host: the settings are checked before the slashes at the end of
the host are dropped, and a host that is a scheme and slashes loses those of the scheme as well
(`accepted_base`).
-/

namespace RemoteMounts

/-! ## Texts without the slashes at their end -/

/-- What is dropped at the end of two texts is dropped at the end of the second one, and of the
first one only if nothing is left of the second. -/
theorem Text.rdropWhile_append (p : Char → Bool) (xs ys : List Char) :
    (xs ++ ys).rdropWhile p = if ys.all p then xs.rdropWhile p else xs ++ ys.rdropWhile p := by
  by_cases all : ys.all p = true
  · have none : ys.reverse.dropWhile p = [] := by simpa using all
    rw [if_pos all]
    simp [List.rdropWhile, List.dropWhile_append, none]
  · have some : ys.reverse.dropWhile p ≠ [] := by simpa using all
    rw [if_neg all]
    simp [List.rdropWhile, List.dropWhile_append, some]

namespace Settings

theorem toList_dropSlashes (s : String) :
    (dropSlashes s).toList = s.toList.rdropWhile (· = '/') := by
  simp [dropSlashes, List.rdropWhile]

theorem dropSlashes_dropSlashes (s : String) : dropSlashes (dropSlashes s) = dropSlashes s := by
  rw [← String.toList_inj, toList_dropSlashes, toList_dropSlashes, List.rdropWhile_idempotent]

theorem getLast?_dropSlashes (s : String) : (dropSlashes s).toList.getLast? ≠ some '/' := by
  rw [toList_dropSlashes]
  intro last
  obtain ⟨filled, slash⟩ := List.mem_getLast?_eq_getLast last
  have other := List.rdropWhile_last_not _ _ filled
  rw [← slash] at other
  exact other (by decide)

/-- Up to a character that is no slash, a text begins as it did with the slashes at its end. -/
theorem begins_dropSlashes_iff {s : String} {front : List Char} {c : Char} (other : c ≠ '/') :
    front ++ [c] <+: (dropSlashes s).toList ↔ front ++ [c] <+: s.toList := by
  rw [toList_dropSlashes]
  constructor
  · intro begins
    exact begins.trans (List.rdropWhile_prefix _ _)
  · rintro ⟨rest, split⟩
    -- Slashes are dropped behind `c` at most.
    have kept : (front ++ [c]).rdropWhile (· = '/') = front ++ [c] :=
      List.rdropWhile_concat_neg _ _ _ (by simpa using other)
    rw [← split, Text.rdropWhile_append, kept]
    split_ifs
    · exact List.prefix_rfl
    · exact List.prefix_append _ _

/-! ## Hosts that are accepted -/

def schemes : List String :=
  ["https://", "http://"]

/-- The text begins with a scheme, and right behind it is a character other than a slash. -/
def IsAddress (url : String) : Prop :=
  ∃ scheme ∈ schemes, ∃ c, c ≠ '/' ∧ scheme.toList ++ [c] <+: url.toList

variable {s : Settings}

theorem hasScheme_iff :
    s.hasScheme = true ↔ ∃ scheme ∈ schemes, scheme.toList <+: (Text.trim s.host).toList := by
  simp [hasScheme, schemes]

theorem hasScheme_of_check (accepted : s.check = .ok ()) : s.hasScheme = true := by
  unfold check at accepted
  cases filled : checkFilled
    [(.host, s.host), (.token, s.token), (.runtime, s.runtime), (.nodeType, s.nodeType)] with
  | error fault =>
    rw [filled] at accepted
    cases accepted
  | ok _ =>
    rw [filled] at accepted
    cases scheme : s.hasScheme with
    | true => rfl
    | false =>
      rw [scheme] at accepted
      cases accepted

/-- The URL of a host with a scheme, by what is behind the scheme. -/
theorem baseUrl_cases {scheme : String} {behind : List Char}
    (host : (Text.trim s.host).toList = scheme.toList ++ behind) :
    (∀ c ∈ behind, c = '/') ∧ s.baseUrl = dropSlashes scheme ∨
      (∃ c ∈ behind, c ≠ '/') ∧
        s.baseUrl.toList = scheme.toList ++ behind.rdropWhile (· = '/') := by
  have url : s.baseUrl.toList =
      if behind.all (· = '/') then scheme.toList.rdropWhile (· = '/')
      else scheme.toList ++ behind.rdropWhile (· = '/') := by
    rw [baseUrl, toList_dropSlashes, host, Text.rdropWhile_append]
  by_cases slashes : behind.all (· = '/') = true
  · refine .inl ⟨by simpa using slashes, ?_⟩
    rw [← String.toList_inj, url, if_pos slashes, toList_dropSlashes]
  · refine .inr ⟨by simpa using slashes, ?_⟩
    rw [url, if_neg slashes]

/-- The URL begins like the host, for neither a colon nor a letter is dropped. -/
theorem head?_baseUrl (accepted : s.check = .ok ()) : s.baseUrl.toList.head? = some 'h' := by
  obtain ⟨scheme, known, rest, split⟩ := hasScheme_iff.mp (hasScheme_of_check accepted)
  have begins : [] ++ ['h'] <+: (Text.trim s.host).toList := by
    have front : ['h'] <+: scheme.toList := by
      simp only [schemes, List.mem_cons, List.not_mem_nil, or_false] at known
      rcases known with rfl | rfl
      · decide
      · decide
    exact front.trans ⟨rest, split⟩
  obtain ⟨rest, split⟩ := (begins_dropSlashes_iff (by decide)).mpr begins
  rw [baseUrl, ← split]
  rfl

end Settings

/-! ## Where messages go -/

def Client.endpoints : List String :=
  ["/api/1.2/commands/execute", "/api/1.2/commands/status", "/api/1.2/contexts/create",
    "/api/1.2/contexts/destroy", "/api/1.2/contexts/status", "/api/2.0/clusters/create",
    "/api/2.0/clusters/get", "/api/2.0/clusters/list", "/api/2.0/clusters/permanent-delete",
    "/api/2.0/clusters/start", "/api/2.0/instance-profiles/add",
    "/api/2.0/instance-profiles/remove"]

/-- The message goes to an endpoint of the workspace with this URL, a query apart. -/
def Message.GoesTo (base : String) (m : Message) : Prop :=
  ∃ endpoint ∈ Client.endpoints, ∃ query : String,
    (query = "" ∨ ∃ parameters, query = "?" ++ Form.query parameters) ∧
      m.url = base ++ endpoint ++ query

namespace Client

variable {c : Client}

theorem goesTo_asking {endpoint : String} (known : endpoint ∈ endpoints)
    (parameters : List (String × String)) : (c.asking endpoint parameters).GoesTo c.base := by
  refine ⟨endpoint, known, if parameters = [] then "" else "?" ++ Form.query parameters, ?_, ?_⟩
  · split_ifs
    · exact .inl rfl
    · exact .inr ⟨parameters, rfl⟩
  · rw [String.append_assoc]
    rfl

theorem goesTo_posting {endpoint : String} (known : endpoint ∈ endpoints) (body : Datum) :
    (c.posting endpoint body).GoesTo c.base :=
  ⟨endpoint, known, "", .inl rfl, (String.append_empty).symm⟩

theorem Attempting.goesTo {cluster script : String} {message : Message}
    (h : c.Attempting cluster script message) : message.GoesTo c.base := by
  cases h with
  | contextMaking => exact goesTo_posting (by decide) _
  | contextLook context => exact goesTo_asking (by decide) _
  | submission context => exact goesTo_posting (by decide) _
  | commandLook context command => exact goesTo_asking (by decide) _

theorem asks_runScript (cluster script : String) :
    (c.runScript cluster script).Asks (Wire.Sends (Message.GoesTo c.base)) := by
  rw [runScript_eq]
  have attempt : (c.attempt cluster script).Asks (Wire.Sends (Message.GoesTo c.base)) := by
    refine (asks_attempt cluster script).mono fun q sent => ?_
    cases q with
    | send message => exact sent.goesTo
    | _ => trivial
  refine attempt.bind fun made => Dialogue.Asks.bind ?_ fun _ => trivial
  cases made.1 with
  | none => trivial
  | some context =>
    rw [tidy, destroyContext_eq]
    exact Wire.asks_correspond_bind (goesTo_posting (by decide) _) fun _ => trivial

section
variable {α β : Type} {endpoint : String} {read : Json → Option α}
  {next : Except WorkspaceFault α → Dialogue Wire β}

theorem asks_get_bind (known : endpoint ∈ endpoints) (parameters : List (String × String))
    (h : ∀ told, (next told).Asks (Wire.Sends (Message.GoesTo c.base))) :
    (c.get endpoint parameters read >>= next).Asks (Wire.Sends (Message.GoesTo c.base)) := by
  rw [get_eq]
  exact Wire.asks_correspond_bind (goesTo_asking known parameters) h

theorem asks_post_bind (known : endpoint ∈ endpoints) (body : Datum)
    (h : ∀ told, (next told).Asks (Wire.Sends (Message.GoesTo c.base))) :
    (c.post endpoint body read >>= next).Asks (Wire.Sends (Message.GoesTo c.base)) := by
  rw [post_eq]
  exact Wire.asks_correspond_bind (goesTo_posting known body) h

end

theorem asks_changeCluster {endpoint : String} (known : endpoint ∈ endpoints) (id : String) :
    (c.changeCluster endpoint id).Asks (Wire.Sends (Message.GoesTo c.base)) := by
  refine asks_post_bind known _ fun told => ?_
  cases told <;> trivial

theorem asks_changeProfile {endpoint : String} (known : endpoint ∈ endpoints)
    (isDone : WorkspaceFault → Bool) (arn : ProfileArn) :
    (c.changeProfile endpoint isDone arn).Asks (Wire.Sends (Message.GoesTo c.base)) := by
  refine asks_post_bind known _ fun told => ?_
  cases told <;> trivial

/-- Whatever is asked of the world outside, the messages for it go to endpoints of the workspace. -/
theorem asks_answer (q : Call) : (c.answer q).Asks (Wire.Sends (Message.GoesTo c.base)) := by
  cases q with
  | getCluster id =>
    refine asks_get_bind (by decide) _ fun told => ?_
    cases told <;> trivial
  | listClusters =>
    refine asks_get_bind (by decide) _ fun told => ?_
    cases told <;> trivial
  | createCluster b =>
    refine asks_post_bind (by decide) _ fun told => ?_
    cases told <;> trivial
  | startCluster id => exact asks_changeCluster (by decide) id
  | deleteCluster id => exact asks_changeCluster (by decide) id
  | addProfile arn => exact asks_changeProfile (by decide) _ arn
  | removeProfile arn => exact asks_changeProfile (by decide) _ arn
  | runScript cluster script => exact asks_runScript cluster script
  | now | pause | enter | leave => exact ⟨trivial, fun _ => trivial⟩

theorem asks_perform {α : Type} (errand : Errand α) :
    (c.perform errand).Asks (Wire.Sends (Message.GoesTo c.base)) :=
  Dialogue.asks_relay asks_answer errand

end Client

/-! ## Accepted settings and the messages of their client -/

namespace Settings

/-- The URL of settings that are accepted begins with no blank and ends with no slash, a client
keeps it as it is, and every message of the client that the settings describe, whichever errand is
carried out, goes to an endpoint right behind it.  It is an address, a scheme and a character that
is no slash behind it, exactly if the host is one without the blanks around it.  For the host has a
scheme; if there is something besides slashes behind it, the URL is the scheme with that, and if
not, it is the scheme without its own slashes. -/
theorem accepted_base (s : Settings) (accepted : s.check = .ok ()) :
    (IsAddress s.baseUrl ↔ IsAddress (Text.trim s.host)) ∧
    (∃ scheme ∈ schemes, ∃ behind : List Char,
      (Text.trim s.host).toList = scheme.toList ++ behind ∧
      ((∀ c ∈ behind, c = '/') ∧ s.baseUrl = dropSlashes scheme ∨
        (∃ c ∈ behind, c ≠ '/') ∧
          s.baseUrl.toList = scheme.toList ++ behind.rdropWhile (· = '/'))) ∧
    (∃ first, s.baseUrl.toList.head? = some first ∧ Text.isBlank first = false) ∧
    s.baseUrl.toList.getLast? ≠ some '/' ∧
    (∀ token limit interval patience scribe,
      (Client.make s.baseUrl token limit interval patience scribe).base = s.baseUrl) ∧
    ∀ patience scribe (α : Type) (errand : Errand α),
      ((Client.ofSettings s patience scribe).perform errand).Asks
        (Wire.Sends (Message.GoesTo s.baseUrl)) := by
  have kept (token limit interval patience scribe) :
      (Client.make s.baseUrl token limit interval patience scribe).base = s.baseUrl :=
    dropSlashes_dropSlashes _
  refine ⟨?_, ?_, ⟨'h', head?_baseUrl accepted, by decide⟩, getLast?_dropSlashes _, kept, ?_⟩
  · unfold IsAddress
    refine exists_congr fun scheme => and_congr_right fun _ => exists_congr fun c =>
      and_congr_right fun other => begins_dropSlashes_iff other
  · obtain ⟨scheme, known, behind, split⟩ := hasScheme_iff.mp (hasScheme_of_check accepted)
    exact ⟨scheme, known, behind, split.symm, baseUrl_cases split.symm⟩
  · intro patience scribe α errand
    have asks := Client.asks_perform (c := Client.ofSettings s patience scribe) errand
    rwa [Client.ofSettings, kept] at asks

def forHost (host : String) : Settings where
  host := host
  token := "token"
  runtime := "runtime"
  nodeType := "node"
  idleMinutes := 10
  limit := 1200
  poll := 10
  maxPoll := 60
  command := 600
  registers := false

theorem accepted_base_mounts :
    (forHost " https://lake/mounts// ").check = .ok () ∧
      (forHost " https://lake/mounts// ").baseUrl = "https://lake/mounts" ∧
      IsAddress "https://lake/mounts" := by
  have accepted : (forHost " https://lake/mounts// ").check = .ok () := by decide +kernel
  have base : (forHost " https://lake/mounts// ").baseUrl = "https://lake/mounts" := by
    decide +kernel
  have host : IsAddress (Text.trim (forHost " https://lake/mounts// ").host) :=
    ⟨"https://", by decide, 'l', by decide, by decide +kernel⟩
  obtain ⟨address, -⟩ := accepted_base _ accepted
  exact ⟨accepted, base, base ▸ address.mpr host⟩

/-- A host that is nothing but a scheme is accepted, and what is left of it is no address. -/
theorem bare_scheme_accepted :
    (forHost "https://").check = .ok () ∧ (forHost "https://").baseUrl = "https:" ∧
      ¬ IsAddress (forHost "https://").baseUrl ∧
      ((Client.ofSettings (forHost "https://") 1).asking "/api/2.0/clusters/list" []).url =
        "https:/api/2.0/clusters/list" := by
  have base : (forHost "https://").baseUrl = "https:" := by decide +kernel
  refine ⟨by decide +kernel, base, ?_, by decide +kernel⟩
  rw [base]
  rintro ⟨scheme, known, c, -, begins⟩
  simp only [schemes, List.mem_cons, List.not_mem_nil, or_false] at known
  have longer := begins.length_le
  rcases known with rfl | rfl
  · exact absurd longer (by simp)
  · exact absurd longer (by simp)

end Settings

end RemoteMounts
