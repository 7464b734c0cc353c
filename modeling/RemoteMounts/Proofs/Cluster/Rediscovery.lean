import RemoteMounts.Proofs.Cluster.Fitness
import RemoteMounts.Settings.Basic

/-!
# A cluster that was made is found again

One acquisition makes a cluster and gives it a name and a profile; another one, in another run,
looks for that name among the clusters that meet the need.  The blueprint is trimmed in between.
Under settings that make sense the two sides agree: every blueprint is sound, trimming leaves the
name as it is (`Need.trim_clusterName`), and the profile meets the need it was drawn for.  So a
provider that lists such a cluster, ready or ended, is not asked for a second one
(`made_cluster_found_again`).
-/

namespace RemoteMounts

/-! ## Names that trimming leaves as they are -/

namespace Text

theorem afterLast_suffix (mark : Char) (cs : List Char) : afterLast mark cs <:+ cs := by
  induction cs with
  | nil => exact List.suffix_rfl
  | cons c cs ih =>
    unfold afterLast
    split
    · split
      · exact ih.trans (List.suffix_cons c cs)
      · exact List.suffix_cons c cs
    · exact List.suffix_rfl

/-- Nothing is trimmed off a text that neither begins nor ends with a blank. -/
theorem trimmed_eq_self {cs : List Char} (front : ∀ c ∈ cs.head?, isBlank c = false)
    (back : ∀ c ∈ cs.getLast?, isBlank c = false) : trimmed cs = cs := by
  unfold trimmed
  rw [dropWhile_eq_self_of_head front,
    dropWhile_eq_self_of_head (by simpa [List.head?_reverse] using back), List.reverse_reverse]

theorem last_trimmed {cs : List Char} : ∀ c ∈ (trimmed cs).getLast?, isBlank c = false := by
  intro c hc
  rw [trimmed, List.getLast?_reverse] at hc
  exact head_dropWhile c hc

end Text

/-- What follows the last slash of an ARN does not end with a blank. -/
theorem ProfileArn.last_profileName (arn : ProfileArn) :
    ∀ c ∈ arn.profileName.toList.getLast?, Text.isBlank c = false := by
  intro c hc
  obtain ⟨before, split⟩ := Text.afterLast_suffix '/' arn.text.toList
  rw [profileName, String.toList_ofList] at hc
  have last : c ∈ (Text.trimmed arn.text.toList).getLast? := by
    rw [← Text.toList_trim, arn.trimmed, ← split, List.getLast?_append, Option.mem_def.mp hc]
    rfl
  exact Text.last_trimmed c last

/-- The name of the cluster that is made for a need has no blanks around it. -/
theorem Need.trim_clusterName (need : Need) : Text.trim need.clusterName = need.clusterName := by
  rw [← String.toList_inj, Text.toList_trim]
  cases h : need.profile? with
  | none =>
    rw [clusterName, h]
    rfl
  | some arn =>
    rw [clusterName, h, String.toList_append]
    refine Text.trimmed_eq_self (fun c hc => ?_) (fun c hc => ?_)
    · obtain rfl : 'l' = c := Option.some.inj hc
      rfl
    · -- The profile's own name may be empty; the text before it then is what the name ends with.
      rw [List.getLast?_append, Option.mem_def, Option.or_eq_some_iff] at hc
      rcases hc with own | ⟨-, front⟩
      · exact arn.last_profileName c own
      · obtain rfl : '-' = c := Option.some.inj front
        rfl

theorem Need.clusterName_ne_empty (need : Need) : need.clusterName ≠ "" := by
  unfold clusterName
  split <;> simp

/-! ## Blueprints under settings that make sense -/

namespace Settings

theorem filled_of_checkFilled {fields : List (Setting × String)} (h : checkFilled fields = .ok ()) :
    ∀ field ∈ fields, Text.trim field.2 ≠ "" := by
  induction fields with
  | nil => exact fun field hf => nomatch hf
  | cons first rest ih =>
    obtain ⟨setting, value⟩ := first
    rw [checkFilled] at h
    split at h
    · exact nomatch h
    · rename_i filled
      intro field hf
      rcases List.mem_cons.mp hf with rfl | hf
      · exact filled
      · exact ih h field hf

/-- The runtime and the node type of settings that make sense are not blank. -/
theorem filled_of_check {settings : Settings} (h : settings.check = .ok ()) :
    Text.trim settings.runtime ≠ "" ∧ Text.trim settings.nodeType ≠ "" := by
  unfold check at h
  cases hf : checkFilled [(.host, settings.host), (.token, settings.token),
      (.runtime, settings.runtime), (.nodeType, settings.nodeType)] with
  | error e =>
    rw [hf] at h
    exact nomatch h
  | ok _ =>
    have filled := filled_of_checkFilled hf
    exact ⟨filled (.runtime, settings.runtime) (by simp),
      filled (.nodeType, settings.nodeType) (by simp)⟩

/-- The draft for a need is sound, and goes into the blueprint as it stands. -/
theorem finish_forNeed {settings : Settings} (h : settings.check = .ok ()) (need : Need) :
    (Draft.forNeed settings.template need).finish =
        .ok (Draft.forNeed settings.template need).blueprint ∧
      (Draft.forNeed settings.template need).blueprint.check = .ok () := by
  obtain ⟨runtime, nodeType⟩ := filled_of_check h
  have sound : (Draft.forNeed settings.template need).blueprint.check = .ok () := by
    simp only [Blueprint.check, Draft.blueprint, Draft.forNeed, template, Text.trim_trim,
      Need.trim_clusterName, if_neg need.clusterName_ne_empty, if_neg runtime, if_neg nodeType]
  refine ⟨?_, sound⟩
  rw [Draft.finish, sound]

end Settings

/-! ## What an acquisition does with a list -/

/-- The cluster has the name and the profile of the blueprint. -/
def Cluster.IsOf (c : Cluster) (b : Blueprint) : Prop :=
  c.name = b.name ∧ c.profile = b.profile

namespace Chosen

variable {need : Need} {clusters : List Cluster} {choice : Choice} {c : Cluster}

/-- Where a ready cluster meets the need, such a one is reused. -/
theorem reuse_of_ready (h : Chosen need clusters choice) (mem : c ∈ clusters)
    (met : need.isMetBy c.profile = true) (ready : c.phase.isReady = true) :
    ∃ x ∈ clusters, choice = .reuse x ∧ x.phase.isReady = true ∧
      need.isMetBy x.profile = true := by
  have fit : c ∈ Choice.fit need clusters := List.mem_filter.mpr ⟨mem, met⟩
  cases choice with
  | reuse x =>
    obtain ⟨there, runs, meets⟩ := h.reuse_fit
    exact ⟨x, there, rfl, runs, meets⟩
  | restart id =>
    cases h with
    | ended idle _ => exact absurd ready (Bool.eq_false_iff.mp (idle c fit))
  | make =>
    cases h with
    | none idle _ => exact absurd ready (Bool.eq_false_iff.mp (idle c fit))

/-- Where no ready cluster meets the need but one of its name that has ended does, such a one is
started again. -/
theorem restart_of_ended (h : Chosen need clusters choice)
    (idle : ∀ x ∈ clusters, need.isMetBy x.profile = true → x.phase.isReady = false)
    (mem : c ∈ clusters) (met : need.isMetBy c.profile = true) (named : c.name = need.clusterName)
    (ended : c.phase = .terminated) :
    ∃ x ∈ clusters, choice = .restart x.id ∧ x.name = need.clusterName ∧ x.phase = .terminated ∧
      need.isMetBy x.profile = true := by
  have fit : c ∈ Choice.fit need clusters := List.mem_filter.mpr ⟨mem, met⟩
  cases choice with
  | reuse x =>
    obtain ⟨there, runs, meets⟩ := h.reuse_fit
    exact absurd runs (Bool.eq_false_iff.mp (idle x there meets))
  | restart id =>
    cases h with
    | @ended x _ first =>
      obtain ⟨inFit, hasEnded, hasName⟩ := first.mem
      obtain ⟨there, meets⟩ := List.mem_filter.mp inFit
      exact ⟨x, there, rfl, hasName, hasEnded, meets⟩
  | make =>
    cases h with
    | none _ notOwn => exact absurd named (notOwn c fit ended)

end Chosen

theorem Awaited.looks {id : String} {patience : Nat} {exchanges : List (Exchange Outside)}
    {outcome : Option (Except ClusterFault Cluster)}
    (h : Awaited id patience exchanges outcome) :
    ∀ e ∈ exchanges, e.question = .getCluster id := by
  induction h with
  | decided => simp
  | overdue => simp
  | again _ _ ih => simpa using ih
  | unfinished => exact fun e he => nomatch he

theorem Restarted.asked {patience : Nat} {id : String} {exchanges : List (Exchange Outside)}
    {result : Option (Except NoCluster Cluster)} (h : Restarted patience id exchanges result) :
    ∃ answer looks, exchanges = ⟨.startCluster id, answer⟩ :: looks ∧
      ∀ e ∈ looks, e.question = .getCluster id := by
  cases h with
  | refused => exact ⟨_, [], rfl, fun e he => nomatch he⟩
  | awaited wait => exact ⟨_, _, rfl, wait.looks⟩

/-- Whatever is made is made of the blueprint. -/
theorem Made.created {patience : Nat} {blueprint b : Blueprint}
    {exchanges : List (Exchange Outside)} {result : Option (Except NoCluster Cluster)}
    {answer : Except ClusterFault String} (h : Made patience blueprint exchanges result)
    (asked : ⟨.createCluster b, answer⟩ ∈ exchanges) : b = blueprint := by
  have notLooked {id : String} {looks : List (Exchange Outside)}
      {outcome : Option (Except ClusterFault Cluster)} (wait : Awaited id patience looks outcome) :
      ⟨.createCluster b, answer⟩ ∉ looks := fun mem => nomatch wait.looks _ mem
  have first {rest : List (Exchange Outside)} {given : Except ClusterFault String}
      (mem : ⟨.createCluster b, answer⟩ ∈
        (⟨.createCluster blueprint, given⟩ :: rest : List (Exchange Outside)))
      (others : ⟨.createCluster b, answer⟩ ∉ rest) : b = blueprint := by
    rcases List.mem_cons.mp mem with same | mem
    · cases same
      rfl
    · exact absurd mem others
  cases h with
  | refused => exact first asked (List.not_mem_nil)
  | ready wait => exact first asked (notLooked wait)
  | tornDown wait => exact first asked (by simpa using notLooked wait)
  | notTornDown wait => exact first asked (by simpa using notLooked wait)
  | unfinished wait => exact first asked (notLooked wait)

theorem Acquired.created {p : Provisioning} {need : Need} {exchanges : List (Exchange Outside)}
    {result : Option (Except NoCluster Cluster)} (h : Acquired p ⟨none, need⟩ exchanges result)
    {b : Blueprint} {answer : Except ClusterFault String}
    (asked : ⟨.createCluster b, answer⟩ ∈ exchanges) :
    (Draft.forNeed p.template need).finish = .ok b := by
  cases h with
  | unlisted => simp at asked
  | reused => simp at asked
  | @restarted _ _ id exchanges _ _ course =>
    obtain ⟨started, looks, rfl, looked⟩ := course.asked
    have mem : ⟨.createCluster b, answer⟩ ∈ looks := by simpa using asked
    exact nomatch looked _ mem
  | noneNamed => simp at asked
  | notDrawn => simp at asked
  | made _ _ drawn course =>
    have mem := (List.mem_cons.mp asked).resolve_left (fun same => nomatch same)
    rw [course.created mem]
    exact drawn

section

variable {σ : Type} (r : Respondent Outside σ) (p : Provisioning) (need : Need) (s : σ)
  (clusters : List Cluster)

/-- Once it has the list, the acquisition takes a ready cluster out of it that meets the need, and
asks nothing more. -/
def Reuses : Prop :=
  ∃ x ∈ clusters, x.phase.isReady = true ∧ need.isMetBy x.profile = true ∧
    Dialogue.run r.party (p.acquire ⟨none, need⟩) s = (some (.ok x), (r .listClusters s).2) ∧
    Dialogue.transcript r (p.acquire ⟨none, need⟩) s = [⟨.listClusters, .ok clusters⟩]

/-- Once it has the list, the acquisition starts a cluster in it that has the name for the need and
meets it, and asks the provider for nothing more but looks at that cluster. -/
def Restarts : Prop :=
  ∃ x ∈ clusters, x.name = need.clusterName ∧ x.phase = .terminated ∧
    need.isMetBy x.profile = true ∧
    ∃ answer looks, onProvider (Dialogue.transcript r (p.acquire ⟨none, need⟩) s) =
        ⟨.listClusters, .ok clusters⟩ :: ⟨.startCluster x.id, answer⟩ :: looks ∧
      ∀ e ∈ looks, e.question = .getCluster x.id

variable {r p need s clusters}

theorem reuses_of_ready (listed : (r .listClusters s).1 = .ok clusters) {x : Cluster}
    (mem : x ∈ clusters) (met : need.isMetBy x.profile = true) (ready : x.phase.isReady = true) :
    Reuses r p need s clusters := by
  obtain ⟨c, there, chosen, runs, meets⟩ :=
    (Choice.chosen_among need clusters).reuse_of_ready mem met ready
  refine ⟨c, there, runs, meets, ?_, ?_⟩
  · rw [Provisioning.acquire, Provisioning.acquireAny, Errand.run_party_call, listed]
    simp only [chosen]
    rfl
  · rw [Provisioning.acquire, Provisioning.acquireAny, Errand.transcript_call, listed]
    simp only [chosen]
    rfl

theorem restarts_of_ended (listed : (r .listClusters s).1 = .ok clusters)
    (idle : ∀ x ∈ clusters, need.isMetBy x.profile = true → x.phase.isReady = false) {c : Cluster}
    (mem : c ∈ clusters) (met : need.isMetBy c.profile = true) (named : c.name = need.clusterName)
    (ended : c.phase = .terminated) : Restarts r p need s clusters := by
  obtain ⟨x, there, chosen, hasName, hasEnded, meets⟩ :=
    (Choice.chosen_among need clusters).restart_of_ended idle mem met named ended
  have course := restart_restarted r p x.id (r .listClusters s).2
  obtain ⟨answer, looks, split, looked⟩ := course.asked
  refine ⟨x, there, hasName, hasEnded, meets, answer, looks, ?_, looked⟩
  rw [Provisioning.acquire, Provisioning.acquireAny, Errand.transcript_call, listed]
  simp only [chosen]
  rw [onProvider_cons rfl, split]

end

/-! ## The way back -/

/-- Under settings that make sense a sound blueprint is drawn for every need but that for just any
profile; it has the name for the need and a profile that meets it, and no acquisition makes a
cluster of another one.  In whatever list a cluster of that name and that profile stands, and among
whatever others, the next acquisition takes a ready cluster that meets the need if there is one; if
there is none and that cluster has ended, it starts one of that name that meets the need.  It makes
no cluster then. -/
theorem made_cluster_found_again {settings : Settings} {p : Provisioning} {need : Need}
    (sound : settings.check = .ok ()) (own : p.template = settings.template)
    (any : need ≠ .anyProfile) :
    ∃ b, p.blueprint need = .ok b ∧ b.check = .ok () ∧ b.name = need.clusterName ∧
      need.isMetBy b.profile = true ∧
      ∀ (σ : Type) (r : Respondent Outside σ) (s : σ),
        (∀ made answer, ⟨.createCluster made, answer⟩ ∈
          Dialogue.transcript r (p.acquire ⟨none, need⟩) s → made = b) ∧
        ∀ clusters, (r .listClusters s).1 = .ok clusters → ∀ c ∈ clusters, c.IsOf b →
          ((∃ x ∈ clusters, need.isMetBy x.profile = true ∧ x.phase.isReady = true) →
            Reuses r p need s clusters) ∧
          ((∀ x ∈ clusters, need.isMetBy x.profile = true → x.phase.isReady = false) →
            c.phase = .terminated → Restarts r p need s clusters) := by
  obtain ⟨drawn, checked⟩ := settings.finish_forNeed sound need
  rw [← own] at drawn checked
  have named : (Draft.forNeed p.template need).blueprint.name = need.clusterName :=
    need.trim_clusterName
  have met := Draft.isMetBy_of_finish any drawn
  refine ⟨_, by rw [blueprint_eq p any, drawn], checked, named, met, fun σ r s => ⟨?_, ?_⟩⟩
  · intro made answer asked
    have course := acquire_takes r p ⟨none, need⟩ s
    have created := course.created (List.mem_filter.mpr ⟨asked, rfl⟩)
    exact Except.ok.inj (created.symm.trans drawn)
  · intro clusters listed c mem like
    refine ⟨fun ⟨x, there, meets, ready⟩ => reuses_of_ready listed there meets ready, ?_⟩
    intro idle ended
    exact restarts_of_ended listed idle mem (like.2 ▸ met) (like.1.trans named) ended

def listing (clusters : List Cluster) : Respondent Outside Nat :=
  waking.passing (fun c => c matches .listClusters) fun
    | .listClusters, looks => (.ok clusters, looks)
    | c, looks => waking c looks

/-- A cluster that was made for a profile is started again when it has ended, with a running one
behind it that has no profile, and taken as it is when it runs. -/
theorem made_cluster_found_again_reader :
    let settings : Settings :=
      ⟨"https://workspace", "token", " runtime ", "node", 10, 1200, 10, 60, 600, true⟩
    let p : Provisioning := ⟨settings.template, settings.backoff, 2⟩
    let need : Need := .profile readerProfile
    settings.check = .ok () ∧
      ∃ b, p.blueprint need = .ok b ∧ b.name = "lakemount-reader" ∧
        (let clusters :=
          [⟨"c1", b.name, .terminated, "", b.profile⟩, ⟨"c2", "", .running, "", none⟩]
        Restarts (listing clusters) p need 0 clusters) ∧
        Reuses (listing [⟨"c1", b.name, .running, "", b.profile⟩]) p need 0
          [⟨"c1", b.name, .running, "", b.profile⟩] := by
  intro settings p need
  have accepted : settings.check.toBool = true := by decide +kernel
  have sound : settings.check = .ok () := by
    cases checked : settings.check with
    | ok _ => rfl
    | error e =>
      rw [checked] at accepted
      exact nomatch accepted
  obtain ⟨b, drawn, -, named, met, found⟩ :=
    @made_cluster_found_again settings p need sound rfl (fun any => nomatch any)
  refine ⟨sound, b, drawn, named.trans (by decide +kernel), ?_, ?_⟩
  · refine ((found Nat (listing _) 0).2 _ rfl _ List.mem_cons_self ⟨rfl, rfl⟩).2 ?_ rfl
    intro x mem meets
    rcases List.mem_cons.mp mem with rfl | mem
    · rfl
    · obtain rfl := List.mem_singleton.mp mem
      exact nomatch meets
  · exact ((found Nat (listing _) 0).2 _ rfl _ List.mem_cons_self ⟨rfl, rfl⟩).1
      ⟨_, List.mem_cons_self, met, rfl⟩

end RemoteMounts
