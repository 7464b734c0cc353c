import RemoteMounts.CommandLine.Run

/-!
# A cluster chosen on the command line

A cluster that is chosen for a run stands in place of the one that is declared, so a run on a chosen
cluster should go as a run of the declaration that names this cluster.  It does in all cases but one:
the declaration is checked before the choice is looked at, and a declaration that rests on the choice
alone, an S3 bucket with no credential and no cluster of its own, is refused for want of a cluster
although one is chosen (`choice_stands_for_declared_cluster`).
-/

namespace RemoteMounts

/-! ## Checking a request and checking it again on another cluster -/

namespace Request

def checked (r : Request) : Except Invalid Request := do
  r.check
  return r

/-- The request on the cluster that is chosen, if one is. -/
def onCluster (r : Request) (choice : Option String) : Request :=
  { r with cluster := choice.or r.cluster }

/-- The request names no cluster and relies on the cluster to prove the right to read. -/
def LacksCluster (r : Request) : Prop :=
  r.cluster = none ∧ r.attachment.relyOnCluster = true

/-- Nothing but the arguments of the mount decides on a request that does not lack a cluster. -/
theorem check_of_not_lacksCluster {r : Request} (h : ¬ r.LacksCluster) :
    r.check = r.attachment.args.map fun _ => () := by
  have lacks : ¬ (r.cluster.isNone = true ∧ r.attachment.relyOnCluster = true) := by
    simpa [LacksCluster] using h
  rw [check, if_neg lacks]
  cases r.attachment.args <;> rfl

theorem check_of_lacksCluster {r : Request} (h : r.LacksCluster) :
    r.check = .error .noCredentials := by
  rw [check, if_pos (by simpa [LacksCluster] using h)]

/-- A choice never takes a cluster away. -/
theorem LacksCluster.of_onCluster {r : Request} {choice : Option String}
    (h : (r.onCluster choice).LacksCluster) : r.LacksCluster ∧ choice = none := by
  obtain ⟨free, relies⟩ := h
  obtain ⟨none, free⟩ := Option.or_eq_none_iff.mp free
  exact ⟨⟨free, relies⟩, none⟩

/-- A request that is checked as it stands and then on the cluster that is chosen goes through as
the one that is only checked on that cluster, unless it lacks a cluster as it stands. -/
theorem checked_bind_onCluster (r : Request) {choice : Option String}
    (h : r.LacksCluster → choice = none) :
    (r.checked >>= fun s => (s.onCluster choice).checked) = (r.onCluster choice).checked := by
  by_cases lacks : r.LacksCluster
  · obtain rfl := h lacks
    simp only [checked, check_of_lacksCluster lacks, onCluster, Option.none_or]
    rfl
  · have bound : ¬ (r.onCluster choice).LacksCluster := fun later => lacks later.of_onCluster.1
    unfold checked
    rw [check_of_not_lacksCluster lacks]
    cases sound : r.attachment.args with
    | error e =>
      rw [check_of_not_lacksCluster bound, onCluster, sound]
      rfl
    | ok _ => rfl

end Request

/-! ## Faults that are not about the way to obtain credentials -/

theorem nameIn_ne_noCredentials (field value : String) :
    nameIn field value ≠ .error .noCredentials := by
  unfold nameIn
  split
  · simp
  · split <;> simp

theorem addSettings_ne_noCredentials :
    ∀ (entries : List (String × String)) (settings : Keyed String),
      addSettings settings entries ≠ .error .noCredentials
  | [], settings => by simp [addSettings]
  | (key, value) :: rest, settings => by
    unfold addSettings
    split
    · simp
    · split
      · simp
      · exact addSettings_ne_noCredentials rest _

theorem Attachment.relyOnCluster_iff {a : Attachment} :
    a.relyOnCluster = true ↔ ∃ bucket, a.storage = .s3 bucket (.profile none) := by
  unfold relyOnCluster
  split <;> simp_all

/-- Where the cluster is relied on, the name of the bucket and the further settings are all that can
be wrong with the arguments. -/
theorem Attachment.args_ne_noCredentials_of_relyOnCluster {a : Attachment}
    (h : a.relyOnCluster = true) : a.args ≠ .error .noCredentials := by
  obtain ⟨bucket, bare⟩ := relyOnCluster_iff.mp h
  have computed : a.args =
      nameIn "bucket_name" bucket >>= fun name =>
        addSettings .empty a.extra.entries >>= fun settings =>
          pure ⟨"s3a://" ++ name, settings⟩ := by
    simp only [args, bare, Storage.args, Storage.s3Args]
    cases nameIn "bucket_name" bucket <;> rfl
  rw [computed]
  cases named : nameIn "bucket_name" bucket with
  | error e =>
    rintro ⟨⟩
    exact nameIn_ne_noCredentials _ _ named
  | ok name =>
    cases added : addSettings .empty a.extra.entries with
    | error e =>
      change Except.error e ≠ _
      rintro ⟨⟩
      exact addSettings_ne_noCredentials _ _ added
    | ok settings => nofun

/-! ## The declaration that names the chosen cluster -/

namespace Declaration

/-- The declaration with the chosen cluster in place of its own, unless the choice is blank. -/
def onCluster (d : Declaration) (chosen : Option String) : Declaration :=
  if (chosen.bind Text.filled?).isSome then { d with cluster := chosen } else d

/-- The request as it is declared, before it is checked. -/
def draft (d : Declaration) : Except Invalid Request := do
  let name ← MountName.ofText (Text.trim d.name)
  let storage ← d.storage
  return ⟨name, d.cluster.bind Text.filled?, ⟨storage, d.extra⟩⟩

theorem request_eq (d : Declaration) : d.request = d.draft >>= Request.checked := by
  unfold request draft
  cases MountName.ofText (Text.trim d.name) <;> cases d.storage <;> rfl

/-- A request is checked twice before it is run: as it is declared and on the chosen cluster. -/
theorem requestOn_eq (d : Declaration) (chosen : Option String) :
    d.requestOn chosen = d.draft >>= fun r =>
      r.checked >>= fun s => (s.onCluster (chosen.bind Text.filled?)).checked := by
  unfold requestOn
  rw [request_eq, bind_assoc]
  rfl

/-- The cluster is the only thing that a choice changes. -/
theorem draft_onCluster (d : Declaration) (chosen : Option String) :
    (d.onCluster chosen).draft =
      d.draft >>= fun r => pure (r.onCluster (chosen.bind Text.filled?)) := by
  unfold onCluster
  split
  next given =>
    obtain ⟨id, given⟩ := Option.isSome_iff_exists.mp given
    have same : ({ d with cluster := chosen } : Declaration).storage = d.storage := rfl
    unfold draft
    rw [given, same]
    cases MountName.ofText (Text.trim d.name) <;> cases d.storage <;> rfl
  next blank =>
    rw [Option.not_isSome_iff_eq_none.mp blank]
    simp [Request.onCluster]

/-- The declaration leaves it to the chosen cluster alone to prove the right to read: it has a name
and an S3 bucket, but no credential and no cluster. -/
structure RestsOnChoice (d : Declaration) (chosen : Option String) : Prop where
  given : (chosen.bind Text.filled?).isSome
  named : ∃ name, MountName.ofText (Text.trim d.name) = .ok name
  unbound : d.cluster.bind Text.filled? = none
  bare : ∃ bucket, d.storage = .ok (.s3 bucket (.profile none))

theorem draft_eq_ok_iff {d : Declaration} {r : Request} :
    d.draft = .ok r ↔
      MountName.ofText (Text.trim d.name) = .ok r.name ∧ d.storage = .ok r.attachment.storage ∧
        d.cluster.bind Text.filled? = r.cluster ∧ d.extra = r.attachment.extra := by
  unfold draft
  constructor
  · intro drafted
    cases named : MountName.ofText (Text.trim d.name) with
    | error e =>
      rw [named] at drafted
      cases drafted
    | ok name =>
      cases stored : d.storage with
      | error e =>
        rw [named, stored] at drafted
        cases drafted
      | ok storage =>
        rw [named, stored] at drafted
        cases drafted
        exact ⟨rfl, rfl, rfl, rfl⟩
  · rintro ⟨named, stored, cluster, extra⟩
    rw [named, stored, cluster, extra]
    rfl

theorem restsOnChoice_iff {d : Declaration} {chosen : Option String} :
    d.RestsOnChoice chosen ↔
      (chosen.bind Text.filled?).isSome ∧ ∃ r, d.draft = .ok r ∧ r.LacksCluster := by
  constructor
  · rintro ⟨given, ⟨name, named⟩, unbound, bucket, bare⟩
    exact ⟨given, ⟨name, d.cluster.bind Text.filled?, ⟨.s3 bucket (.profile none), d.extra⟩⟩,
      draft_eq_ok_iff.mpr ⟨named, bare, rfl, rfl⟩, unbound, rfl⟩
  · rintro ⟨given, r, drafted, free, relies⟩
    obtain ⟨named, stored, cluster, -⟩ := draft_eq_ok_iff.mp drafted
    obtain ⟨bucket, bare⟩ := Attachment.relyOnCluster_iff.mp relies
    exact ⟨given, ⟨_, named⟩, cluster.trans free, bucket, bare ▸ stored⟩

theorem requestOn_eq_of_not_restsOnChoice {d : Declaration} {chosen : Option String}
    (h : ¬ d.RestsOnChoice chosen) : d.requestOn chosen = (d.onCluster chosen).request := by
  rw [requestOn_eq, request_eq, draft_onCluster, bind_assoc]
  cases drafted : d.draft with
  | error e => rfl
  | ok r =>
    refine r.checked_bind_onCluster fun lacking => Option.not_isSome_iff_eq_none.mp fun given => ?_
    exact h (restsOnChoice_iff.mpr ⟨given, r, drafted, lacking⟩)

/-- A declaration that rests on the choice is refused before the choice is looked at; on the chosen
cluster it is refused only for what is wrong with the arguments of the mount. -/
theorem RestsOnChoice.refused {d : Declaration} {chosen : Option String}
    (h : d.RestsOnChoice chosen) :
    d.requestOn chosen = .error .noCredentials ∧
      ∃ r : Request, r.cluster = chosen.bind Text.filled? ∧ r.attachment.relyOnCluster = true ∧
        (d.onCluster chosen).request = r.attachment.args.map fun _ => r := by
  obtain ⟨given, r, drafted, lacking⟩ := restsOnChoice_iff.mp h
  obtain ⟨id, given⟩ := Option.isSome_iff_exists.mp given
  rw [requestOn_eq, request_eq, draft_onCluster, given, drafted]
  have bound : ¬ (r.onCluster (some id)).LacksCluster := fun later => nomatch later.of_onCluster.2
  refine ⟨?_, r.onCluster (some id), rfl, lacking.2, ?_⟩
  · change (r.checked >>= fun s => (s.onCluster (some id)).checked) = _
    rw [Request.checked, Request.check_of_lacksCluster lacking]
    rfl
  · change (r.onCluster (some id)).checked = _
    rw [Request.checked, Request.check_of_not_lacksCluster bound]
    cases (r.onCluster (some id)).attachment.args <;> rfl

/-- A run on a chosen cluster goes as a run of the declaration that names this cluster, faults
included, unless the declaration rests on the choice: then it is refused for want of a cluster,
although the declaration that names the cluster makes a request whenever the bucket and the further
settings are sound. -/
theorem choice_stands_for_declared_cluster (d : Declaration) (chosen : Option String) :
    (d.requestOn chosen = (d.onCluster chosen).request ↔ ¬ d.RestsOnChoice chosen) ∧
      (d.RestsOnChoice chosen → d.requestOn chosen = .error .noCredentials ∧
        ∃ r : Request, r.cluster = chosen.bind Text.filled? ∧ r.attachment.relyOnCluster = true ∧
          (d.onCluster chosen).request = r.attachment.args.map fun _ => r) := by
  refine ⟨⟨fun same rests => ?_, requestOn_eq_of_not_restsOnChoice⟩, RestsOnChoice.refused⟩
  obtain ⟨refused, r, -, relies, declared⟩ := rests.refused
  have sound : r.attachment.args ≠ .error .noCredentials :=
    Attachment.args_ne_noCredentials_of_relyOnCluster relies
  rw [refused, declared] at same
  cases made : r.attachment.args with
  | error e =>
    rw [made] at same sound
    exact sound (congrArg Except.error (Except.error.inj same).symm)
  | ok _ =>
    rw [made] at same
    cases same

/-- A bucket without credentials rests on the choice. -/
theorem choice_stands_for_declared_cluster_bare_bucket :
    let d : Declaration := { name := "m", s3 := some { bucket := "b" } }
    d.RestsOnChoice (some "c") ∧ d.requestOn (some "c") = .error .noCredentials := by
  have rests : RestsOnChoice { name := "m", s3 := some { bucket := "b" } } (some "c") :=
    ⟨rfl, ⟨⟨"m", rfl⟩, rfl⟩, rfl, ⟨"b", rfl⟩⟩
  exact ⟨rests, ((choice_stands_for_declared_cluster _ _).2 rests).1⟩

/-- It is refused although a cluster is chosen, and the declaration that names this cluster is
taken. -/
theorem choice_lost_on_bare_bucket :
    let d : Declaration := { name := "m", s3 := some { bucket := "b" } }
    d.requestOn (some "c") = .error .noCredentials ∧
      (d.onCluster (some "c")).request =
        .ok ⟨⟨"m", rfl⟩, some "c", ⟨.s3 "b" (.profile none), .empty⟩⟩ :=
  ⟨rfl, rfl⟩

end Declaration

end RemoteMounts
