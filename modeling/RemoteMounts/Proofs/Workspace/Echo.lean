import RemoteMounts.Proofs.Json.OneLine
import RemoteMounts.Proofs.Workspace.Mail
import RemoteMounts.Workspace.Clusters

/-!
# Workspaces that echo requests

The fields of a request to make a cluster are those by which a workspace reports it, and more.  A
workspace that reports a cluster by the fields of the request, with an id and the label of a phase
among them, in any order, reports the cluster of the blueprint (`cluster?_of_echoed`), so that it
meets a need exactly if the blueprint does (`echo_reads_back`).
-/

namespace RemoteMounts

/-! ## The fields of a request -/

/-- The fields of the request to make the cluster.  There are attributes only if there is a
profile. -/
def Blueprint.fields (b : Blueprint) : List (String × Json) :=
  [("cluster_name", .text b.name), ("spark_version", .text b.runtime),
    ("node_type_id", .text b.nodeType), ("num_workers", .ofNat b.workers.toNat),
    ("autotermination_minutes", .ofNat b.idleMinutes.toNat),
    ("spark_conf", .object (Json.textFields b.sparkSettings.entries)),
    ("custom_tags", .object (Json.textFields b.tags.entries))] ++
  (b.profile.map fun arn =>
    ("aws_attributes", Json.object [("instance_profile_arn", .text arn)])).toList

/-- The fields of a report: those of the request, an id and a label, in any order. -/
def Blueprint.Echoed (b : Blueprint) (id label : String) (echoed : List (String × Json)) : Prop :=
  echoed.Perm (("cluster_id", .text id) :: ("state", .text label) :: b.fields)

theorem Blueprint.json_datum (b : Blueprint) : b.datum.json = .object b.fields := by
  unfold datum fields Record.ofFields
  cases b.profile with
  | none =>
    simp [Record.ofOption, Datum.json, Datum.entriesJson, Datum.json_ofTexts, Json.ofNat]
  | some arn =>
    simp [Record.ofOption, Datum.json, Datum.entriesJson, Datum.json_ofTexts, Json.ofNat]

/-! ## Reading a report -/

theorem Remote.fields?_of_distinct {names : List String} {fields : List (String × Json)}
    (distinct : (Keyed.keys fields).Nodup) :
    fields? names (.object fields) = some (names.map fun name => fields.lookup name) := by
  have once (name : String) : (fields.filter fun f => f.1 = name).length ≤ 1 := by
    rw [Keyed.filter_key distinct]
    cases fields.lookup name with
    | none => simp
    | some value => simp
  rw [fields?, if_pos]
  simp [once]

namespace Blueprint.Echoed

variable {b : Blueprint} {id label : String} {echoed : List (String × Json)}

theorem distinct (h : b.Echoed id label echoed) : (Keyed.keys echoed).Nodup := by
  refine (h.map _).nodup_iff.mpr ?_
  unfold fields
  cases b.profile with
  | none => simp
  | some arn => simp

/-- What a report gives for a name. -/
theorem lookup (h : b.Echoed id label echoed) (name : String) :
    echoed.lookup name =
      (("cluster_id", Json.text id) :: ("state", .text label) :: b.fields).lookup name :=
  Keyed.lookup_eq_of_perm h h.distinct name

/-- A report is read as the cluster of the blueprint. -/
theorem cluster? (h : b.Echoed id label echoed) :
    Remote.cluster? (.object echoed) = some ⟨id, b.name, .ofLabel label, "", b.profile⟩ := by
  rw [Remote.cluster?, Remote.fields?_of_distinct h.distinct]
  simp only [List.map_cons, List.map_nil, h.lookup]
  unfold fields
  cases b.profile with
  | none => rfl
  | some arn => rfl

end Blueprint.Echoed

/-! ## What is sent and what is told -/

namespace Client

variable {σ : Type} (c : Client) (r : Respondent Wire σ) (s : σ)

theorem mail_createCluster (b : Blueprint) :
    mail (Dialogue.transcript r (c.createCluster b) s) =
      [⟨c.posting "/api/2.0/clusters/create" b.datum,
        (r (.send (c.posting "/api/2.0/clusters/create" b.datum)) s).1⟩] := by
  rw [createCluster, post_eq, Wire.mail_correspond_bind]
  generalize reading _ _ _ _ = told
  cases told with
  | ok id => rfl
  | error fault => rfl

/-- A cluster that is reported in a document is told as it is read. -/
theorem run_getCluster_of_document {id : String} {fields : List (String × Json)} {cluster : Cluster}
    (read : Remote.cluster? (.object fields) = some cluster)
    (replied : (r (.send (c.asking "/api/2.0/clusters/get" [("cluster_id", id)])) s).1 =
      .ok (document fields)) :
    (Dialogue.run r.party (c.getCluster id) s).1 = some (.ok cluster) := by
  rw [getCluster, get_eq, Wire.run_correspond_bind, replied, reading_document read]
  rfl

/-- The list of one cluster that is reported in a document is told as it is read. -/
theorem run_listClusters_of_document {fields : List (String × Json)} {cluster : Cluster}
    (read : Remote.cluster? (.object fields) = some cluster)
    (replied : (r (.send (c.asking "/api/2.0/clusters/list" [])) s).1 =
      .ok (document [("clusters", .array [.object fields])])) :
    (Dialogue.run r.party c.listClusters s).1 = some (.ok [cluster]) := by
  have listed : Remote.clusters? (.object [("clusters", .array [.object fields])]) =
      some [cluster] := by
    rw [Remote.clusters?, Remote.fields?_of_distinct (by simp)]
    simp [read]
  rw [listClusters, get_eq, Wire.run_correspond_bind, replied, reading_document listed]
  rfl

end Client

/-- To make a cluster is to send one letter with the fields of its blueprint.  Whatever id and label
are added to these and in whatever order they come, they are read as a cluster with that id, in the
phase of that label, with the name and the profile of the blueprint, or without one, and no note.  So
every need is met by it exactly if it is met by the blueprint; and this cluster is told when a reply
of the workspace reports it, alone or in a list. -/
theorem echo_reads_back (b : Blueprint) (id label : String) (echoed : List (String × Json))
    (h : b.Echoed id label echoed) :
    let made : Cluster := ⟨id, b.name, .ofLabel label, "", b.profile⟩
    Remote.cluster? (.object echoed) = some made ∧
      (∀ need : Need, (Remote.cluster? (.object echoed)).map (need.isMetBy ·.profile) =
        some (need.isMetBy b.profile)) ∧
      ∀ (c : Client) (σ : Type) (r : Respondent Wire σ) (s : σ),
        (∃ letter, mail (Dialogue.transcript r (c.createCluster b) s) = [letter] ∧
          Json.ofString? letter.message.body = some (.object b.fields)) ∧
        ((r (.send (c.asking "/api/2.0/clusters/get" [("cluster_id", id)])) s).1 =
            .ok (Client.document echoed) →
          (Dialogue.run r.party (c.getCluster id) s).1 = some (.ok made)) ∧
        ((r (.send (c.asking "/api/2.0/clusters/list" [])) s).1 =
            .ok (Client.document [("clusters", .array [.object echoed])]) →
          (Dialogue.run r.party c.listClusters s).1 = some (.ok [made])) := by
  intro made
  have read : Remote.cluster? (.object echoed) = some made := h.cluster?
  refine ⟨read, fun need => ?_, fun c σ r s => ⟨⟨_, c.mail_createCluster r s b, ?_⟩, ?_, ?_⟩⟩
  · rw [read]
    rfl
  · have sent : Json.ofString? b.datum.json.compact = some (.object b.fields) := by
      rw [b.json_datum]
      exact Json.ofString?_compact _
    exact sent
  · exact c.run_getCluster_of_document r s read
  · exact c.run_listClusters_of_document r s read

def profiledBlueprint : Blueprint where
  name := "lakemount-mounts"
  runtime := "15.4.x-scala2.12"
  nodeType := "i3.xlarge"
  workers := 0
  idleMinutes := 10
  profile := some "arn:aws:iam::123456789012:instance-profile/mounts"
  sparkSettings := Blueprint.singleNode
  tags := Blueprint.ownTags

def reversedReport : List (String × Json) :=
  (("cluster_id", .text "c-1") :: ("state", .text " running") :: profiledBlueprint.fields).reverse

theorem echo_reads_back_reversed :
    let made : Cluster := ⟨"c-1", "lakemount-mounts", .running, "",
      some "arn:aws:iam::123456789012:instance-profile/mounts"⟩
    Remote.cluster? (.object reversedReport) = some made ∧
      (Dialogue.run Wire.replying.party (Client.getCluster default "c-1")
        [.ok (Client.document reversedReport)]).1 = some (.ok made) ∧
      (Dialogue.run Wire.replying.party (Client.listClusters default)
        [.ok (Client.document [("clusters", .array [.object reversedReport])])]).1 =
          some (.ok [made]) := by
  intro made
  have phase : Phase.ofLabel " running" = .running := by decide +kernel
  obtain ⟨read, -, told⟩ := echo_reads_back profiledBlueprint "c-1" " running" reversedReport
    (List.reverse_perm _)
  rw [phase] at read told
  obtain ⟨-, got, -⟩ := told default _ Wire.replying [.ok (Client.document reversedReport)]
  obtain ⟨-, -, listed⟩ := told default _ Wire.replying
    [.ok (Client.document [("clusters", .array [.object reversedReport])])]
  exact ⟨read, got rfl, listed rfl⟩

end RemoteMounts
