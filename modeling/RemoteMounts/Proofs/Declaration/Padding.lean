import RemoteMounts.Mount.Script
import RemoteMounts.Proofs.Declaration.Acceptance

/-!
# Blanks around the texts of a declaration

A declaration is tidy when no text in it has blanks around it and no text that may be left out is
blank.  Each stage on the way to a request drops the blanks of the texts that it reads, some of them
as late as in the arguments of the mount; all in all, the tidy declaration makes the tidy request
(`tidy_request_eq_ok_iff`), and nothing that is told of a request is told otherwise of the tidy one.
So blanks never matter (`blanks_never_matter`).
-/

namespace RemoteMounts

/-! ## Tidy texts -/

theorem trim_of_bind_filled? {o : Option String} {t : String} (h : o.bind Text.filled? = some t) :
    Text.trim t = t ∧ t ≠ "" := by
  obtain ⟨s, -, filled⟩ := Option.bind_eq_some_iff.mp h
  exact Text.trim_filled filled

@[simp] theorem bind_filled?_bind_filled? (o : Option String) :
    (o.bind Text.filled?).bind Text.filled? = o.bind Text.filled? := by
  cases given : o.bind Text.filled? with
  | none => rfl
  | some t =>
    obtain ⟨trimmed, filled⟩ := trim_of_bind_filled? given
    rw [Option.bind_some, Text.filled?_eq_self trimmed filled]

@[simp] theorem map_trim_bind_filled? (o : Option String) :
    (o.bind Text.filled?).map Text.trim = o.bind Text.filled? := by
  cases given : o.bind Text.filled? with
  | none => rfl
  | some t => rw [Option.map_some, (trim_of_bind_filled? given).1]

theorem Secret.make_trim_eq_ok_iff {scope key : String} {secret : Secret} :
    Secret.make (Text.trim scope) (Text.trim key) = .ok secret ↔
      Secret.make scope key = .ok secret := by
  simp only [make_eq_ok_iff, Text.trim_trim]

/-! ## Tidy requests -/

@[simp] theorem Principal.tidy_tidy (p : Principal) : p.tidy.tidy = p.tidy := by
  simp only [tidy, Text.trim_trim]

@[simp] theorem S3Access.tidy_tidy (access : S3Access) : access.tidy.tidy = access.tidy := by
  cases access with
  | profile arn => cases arn <;> simp only [tidy, Option.map_some, Option.map_none, Text.trim_trim]
  | accessKey id secret => simp only [tidy, Text.trim_trim]

theorem Principal.isPlain_tidy_iff {p : Principal} : p.tidy.IsPlain ↔ p.IsPlain := by
  constructor
  · rintro ⟨client, tenant⟩
    exact ⟨isWord_trim_iff.mp client, isWord_trim_iff.mp tenant⟩
  · rintro ⟨client, tenant⟩
    exact ⟨isWord_trim_iff.mpr client, isWord_trim_iff.mpr tenant⟩

theorem S3Access.passes_tidy_iff {access : S3Access} : access.tidy.Passes ↔ access.Passes := by
  cases access with
  | profile arn =>
    cases arn with
    | none => rfl
    | some text =>
      simp [S3Access.tidy, S3Access.Passes, ProfileArn.parse_eq_of_trim_eq (Text.trim_trim text)]
  | accessKey id secret => exact isWord_trim_iff

namespace Storage

@[simp] theorem tidy_tidy (s : Storage) : s.tidy.tidy = s.tidy := by
  cases s <;> simp only [tidy, Text.trim_trim, S3Access.tidy_tidy, Principal.tidy_tidy]

theorem passes_tidy_iff {s : Storage} : s.tidy.Passes ↔ s.Passes := by
  cases s with
  | s3 bucket access => exact and_congr isWord_trim_iff S3Access.passes_tidy_iff
  | gcs bucket => exact isWord_trim_iff
  | lakeGen2 account container directory principal makesFileSystem =>
    exact and_congr isWord_trim_iff (and_congr isWord_trim_iff
      (and_congr isDirectory_trim_iff Principal.isPlain_tidy_iff))
  | lakeGen1 resource directory settingPrefix principal =>
    refine and_congr isWord_trim_iff (and_congr isDirectory_trim_iff
      (and_congr ?_ Principal.isPlain_tidy_iff))
    rw [Text.trim_trim]
  | blob account container directory access secret =>
    exact and_congr isWord_trim_iff (and_congr isWord_trim_iff isDirectory_trim_iff)

end Storage

namespace Attachment

def tidy (a : Attachment) : Attachment :=
  { a with storage := a.storage.tidy }

theorem tidy_args_eq_ok_iff {a : Attachment} {x : MountArgs} :
    a.tidy.args = .ok x ↔ a.args = .ok x := by
  simp only [args_eq_ok_iff, tidy, Storage.tidy_tidy, Storage.passes_tidy_iff]

theorem tidy_profile (a : Attachment) : a.tidy.profile = a.profile := by
  obtain ⟨storage, extra⟩ := a
  cases storage with
  | s3 bucket access =>
    cases access with
    | profile arn =>
      cases arn with
      | none => simp only [profile, tidy, Storage.tidy, S3Access.tidy, Option.map_none]
      | some text =>
        simp only [profile, tidy, Storage.tidy, S3Access.tidy, Option.map_some,
          ProfileArn.parse_eq_of_trim_eq (Text.trim_trim text)]
    | accessKey id secret => simp only [profile, tidy, Storage.tidy, S3Access.tidy]
  | _ => simp only [profile, tidy, Storage.tidy]

theorem tidy_relyOnCluster (a : Attachment) : a.tidy.relyOnCluster = a.relyOnCluster := by
  obtain ⟨storage, extra⟩ := a
  cases storage with
  | s3 bucket access =>
    cases access with
    | profile arn =>
      cases arn with
      | none => simp only [relyOnCluster, tidy, Storage.tidy, S3Access.tidy, Option.map_none]
      | some text => simp only [relyOnCluster, tidy, Storage.tidy, S3Access.tidy, Option.map_some]
    | accessKey id secret => simp only [relyOnCluster, tidy, Storage.tidy, S3Access.tidy]
  | _ => simp only [relyOnCluster, tidy, Storage.tidy]

theorem tidy_need (a : Attachment) : a.tidy.need = a.need := by
  have same := tidy_profile a
  cases named : a.profile with
  | error e =>
    rw [named] at same
    rw [need_of_profile_eq_error named, need_of_profile_eq_error same]
  | ok profile =>
    rw [named] at same
    cases profile with
    | none => rw [need_of_unnamed named, need_of_unnamed same, tidy_relyOnCluster]
    | some arn => rw [need_of_named named, need_of_named same]

end Attachment

namespace Request

def tidy (r : Request) : Request :=
  { r with attachment := r.attachment.tidy }

theorem tidy_check_eq_ok_iff {r : Request} : r.tidy.check = .ok () ↔ r.check = .ok () := by
  simp only [check_eq_ok_iff, LacksCluster, tidy, Attachment.tidy_args_eq_ok_iff,
    Attachment.tidy_relyOnCluster]

/-- Two requests name the same mount and cluster, give the same arguments and script, name the same
profile and want the same cluster. -/
structure Agrees (r s : Request) : Prop where
  name : r.name = s.name
  cluster : r.cluster = s.cluster
  args : r.attachment.args = s.attachment.args
  script : r.attachment.args.map (Script.create r.name.path) =
    s.attachment.args.map (Script.create s.name.path)
  profile : r.attachment.profile = s.attachment.profile
  wanted : r.wanted = s.wanted

theorem agrees_of_tidy_eq {r s : Request} (checked : r.check = .ok ()) (same : r.tidy = s.tidy) :
    r.Agrees s := by
  obtain ⟨name, cluster, a⟩ := r
  obtain ⟨name', cluster', b⟩ := s
  simp only [tidy, Request.mk.injEq] at same
  obtain ⟨rfl, rfl, same⟩ := same
  have args : a.args = b.args := by
    obtain ⟨-, x, computed⟩ := check_eq_ok_iff.mp checked
    have other : b.args = .ok x := by
      rw [← Attachment.tidy_args_eq_ok_iff, ← same]
      exact Attachment.tidy_args_eq_ok_iff.mpr computed
    exact computed.trans other.symm
  have need : a.need = b.need := by rw [← Attachment.tidy_need, same, Attachment.tidy_need]
  refine ⟨rfl, rfl, args, ?_, ?_, ?_⟩
  · exact congrArg (Except.map (Script.create name.path)) args
  · change a.profile = b.profile
    rw [← Attachment.tidy_profile, same, Attachment.tidy_profile]
  · simp only [wanted, need]

end Request

/-! ## Tidy sources -/

def PrincipalSource.tidy (p : PrincipalSource) : PrincipalSource where
  tenant := Text.trim p.tenant
  client := Text.trim p.client
  secretScope := Text.trim p.secretScope
  secretKey := Text.trim p.secretKey

/-- The source with no blanks around its texts, and without the texts of credentials that are
blank. -/
def S3Source.tidy (s : S3Source) : S3Source where
  bucket := Text.trim s.bucket
  profile := s.profile.bind Text.filled?
  accessKey := s.accessKey.bind Text.filled?
  secretScope := s.secretScope.bind Text.filled?
  secretKey := s.secretKey.bind Text.filled?

def GcsSource.tidy (s : GcsSource) : GcsSource where
  bucket := Text.trim s.bucket

def LakeGen2Source.tidy (s : LakeGen2Source) : LakeGen2Source where
  account := Text.trim s.account
  container := Text.trim s.container
  directory := Text.trim s.directory
  principal := s.principal.tidy
  makesFileSystem := s.makesFileSystem

def LakeGen1Source.tidy (s : LakeGen1Source) : LakeGen1Source where
  resource := Text.trim s.resource
  directory := Text.trim s.directory
  settingPrefix := s.settingPrefix.map Text.trim
  principal := s.principal.tidy

def BlobSource.tidy (s : BlobSource) : BlobSource where
  account := Text.trim s.account
  container := Text.trim s.container
  directory := Text.trim s.directory
  access := s.access
  secretScope := Text.trim s.secretScope
  secretKey := Text.trim s.secretKey

theorem LakeGen1Source.front_tidy (s : LakeGen1Source) :
    s.tidy.settingPrefix.getD "fs.adl" = Text.trim (s.settingPrefix.getD "fs.adl") := by
  have trimmed : Text.trim "fs.adl" = "fs.adl" := by decide
  unfold tidy
  cases s.settingPrefix with
  | none => exact trimmed.symm
  | some front => rfl

namespace Source

def tidy : Source → Source
  | s3 s => s3 s.tidy
  | gcs s => gcs s.tidy
  | lakeGen2 s => lakeGen2 s.tidy
  | lakeGen1 s => lakeGen1 s.tidy
  | blob s => blob s.tidy

/-- The tidy source stands for the tidy storage. -/
theorem Makes.tidy {source : Source} {made : Storage} (h : source.Makes made) :
    source.tidy.Makes made.tidy := by
  cases h with
  | @profile s noId noScope noKey =>
    rw [← bind_filled?_bind_filled?] at noId noScope noKey
    have tidied : Makes (.s3 s.tidy) (.s3 s.tidy.bucket
        (.profile ((s.profile.bind Text.filled?).bind Text.filled?))) := .profile noId noScope noKey
    rwa [bind_filled?_bind_filled?, ← map_trim_bind_filled?] at tidied
  | @accessKey s id scope key secret noProfile hasId hasScope hasKey referred =>
    have trimmed := (trim_of_bind_filled? hasId).1
    rw [← bind_filled?_bind_filled?] at noProfile hasId hasScope hasKey
    have tidied : Makes (.s3 s.tidy) (.s3 s.tidy.bucket (.accessKey id secret)) :=
      .accessKey noProfile hasId hasScope hasKey referred
    rwa [← trimmed] at tidied
  | gcs => exact .gcs
  | lakeGen2 referred => exact .lakeGen2 (Secret.make_trim_eq_ok_iff.mpr referred)
  | @lakeGen1 s secret referred =>
    have tidied : Makes (.lakeGen1 s.tidy) _ :=
      .lakeGen1 (Secret.make_trim_eq_ok_iff.mpr referred)
    rwa [LakeGen1Source.front_tidy] at tidied
  | blob referred => exact .blob (Secret.make_trim_eq_ok_iff.mpr referred)

/-- A tidy source stands for nothing but the tidy form of what the source stands for. -/
theorem Makes.of_tidy {source : Source} {t : Storage} (h : source.tidy.Makes t) :
    ∃ made, source.Makes made ∧ made.tidy = t := by
  have exists_makes : ∃ made, source.Makes made := by
    cases source with
    | s3 s =>
      cases h with
      | profile noId noScope noKey =>
        simp only [S3Source.tidy, bind_filled?_bind_filled?] at noId noScope noKey
        exact ⟨_, .profile noId noScope noKey⟩
      | accessKey noProfile hasId hasScope hasKey referred =>
        simp only [S3Source.tidy, bind_filled?_bind_filled?] at noProfile hasId hasScope hasKey
        exact ⟨_, .accessKey noProfile hasId hasScope hasKey referred⟩
    | gcs s => exact ⟨_, .gcs⟩
    | lakeGen2 s =>
      cases h with
      | lakeGen2 referred => exact ⟨_, .lakeGen2 (Secret.make_trim_eq_ok_iff.mp referred)⟩
    | lakeGen1 s =>
      cases h with
      | lakeGen1 referred => exact ⟨_, .lakeGen1 (Secret.make_trim_eq_ok_iff.mp referred)⟩
    | blob s =>
      cases h with
      | blob referred => exact ⟨_, .blob (Secret.make_trim_eq_ok_iff.mp referred)⟩
  -- A source stands for one storage at most, so the tidy one stands for that of `makes.tidy`.
  obtain ⟨made, makes⟩ := exists_makes
  have stored := storage_eq_ok_iff.mpr makes.tidy
  rw [storage_eq_ok_iff.mpr h] at stored
  exact ⟨made, makes, (Except.ok.inj stored).symm⟩

end Source

/-! ## Tidy declarations -/

namespace Declaration

/-- The declaration with no blanks around its texts, without the texts that may be left out and are
blank.  The further settings stay as they are. -/
def tidy (d : Declaration) : Declaration where
  name := Text.trim d.name
  cluster := d.cluster.bind Text.filled?
  extra := d.extra
  s3 := d.s3.map S3Source.tidy
  gcs := d.gcs.map GcsSource.tidy
  lakeGen2 := d.lakeGen2.map LakeGen2Source.tidy
  lakeGen1 := d.lakeGen1.map LakeGen1Source.tidy
  blob := d.blob.map BlobSource.tidy

theorem tidy_declared (d : Declaration) : d.tidy.declared = d.declared.map Source.tidy := by
  simp only [declared, tidy, List.map_append, Option.toList_map, List.map_map]
  rfl

theorem tidy_storage_eq_ok_iff {d : Declaration} {t : Storage} :
    d.tidy.storage = .ok t ↔ ∃ made, d.storage = .ok made ∧ made.tidy = t := by
  simp only [storage_eq_ok_iff, tidy_declared, List.map_eq_singleton_iff]
  constructor
  · rintro ⟨_, ⟨source, declared, rfl⟩, tidied⟩
    obtain ⟨made, makes, same⟩ := tidied.of_tidy
    exact ⟨made, ⟨source, declared, makes⟩, same⟩
  · rintro ⟨made, ⟨source, declared, makes⟩, rfl⟩
    exact ⟨source.tidy, ⟨source, declared, rfl⟩, makes.tidy⟩

/-- The tidy declaration makes the tidy form of the request that the declaration makes. -/
theorem tidy_request_eq_ok_iff {d : Declaration} {t : Request} :
    d.tidy.request = .ok t ↔ ∃ r, d.request = .ok r ∧ r.tidy = t := by
  have texts : MountName.ofText (Text.trim d.tidy.name) = MountName.ofText (Text.trim d.name) ∧
      d.tidy.cluster.bind Text.filled? = d.cluster.bind Text.filled? :=
    ⟨congrArg MountName.ofText (Text.trim_trim d.name), bind_filled?_bind_filled? d.cluster⟩
  simp only [request_eq_ok_iff, draft_eq_ok_iff, tidy_storage_eq_ok_iff, texts]
  constructor
  · rintro ⟨⟨named, ⟨made, stored, same⟩, cluster, extra⟩, checked⟩
    let r : Request := ⟨t.name, t.cluster, ⟨made, t.attachment.extra⟩⟩
    have tidied : r.tidy = t := by
      simp only [r, Request.tidy, Attachment.tidy, same]
    rw [← tidied, Request.tidy_check_eq_ok_iff] at checked
    exact ⟨r, ⟨⟨named, stored, cluster, extra⟩, checked⟩, tidied⟩
  · rintro ⟨r, ⟨⟨named, stored, cluster, extra⟩, checked⟩, rfl⟩
    exact ⟨⟨named, ⟨_, stored, rfl⟩, cluster, extra⟩, Request.tidy_check_eq_ok_iff.mpr checked⟩

theorem exists_request_of_tidy_eq {d e : Declaration} (same : d.tidy = e.tidy) {r : Request}
    (made : d.request = .ok r) : ∃ s, e.request = .ok s ∧ s.tidy = r.tidy := by
  have tidied := tidy_request_eq_ok_iff.mpr ⟨r, made, rfl⟩
  rw [same] at tidied
  exact tidy_request_eq_ok_iff.mp tidied

/-- Declarations that differ only in blanks around their texts, and in blank texts where there may
be none, both make no request, or both make one and the two requests agree. -/
theorem blanks_never_matter {d e : Declaration} (same : d.tidy = e.tidy) :
    (∃ r s, d.request = .ok r ∧ e.request = .ok s ∧ r.Agrees s) ∨
      ∃ c c', d.request = .error c ∧ e.request = .error c' := by
  cases made : d.request with
  | ok r =>
    obtain ⟨s, other, tidied⟩ := exists_request_of_tidy_eq same made
    have checked := (request_eq_ok_iff.mp made).2
    exact .inl ⟨r, s, rfl, other, Request.agrees_of_tidy_eq checked tidied.symm⟩
  | error c =>
    cases other : e.request with
    | error c' => exact .inr ⟨c, c', rfl, rfl⟩
    | ok s =>
      obtain ⟨r, contrary, -⟩ := exists_request_of_tidy_eq same.symm other
      rw [made] at contrary
      cases contrary

/-- An access key with blanks around it, beside a blank profile, and the same access key alone. -/
theorem blanks_never_matter_access_key :
    let d : Declaration :=
      { name := "\u3000data ", cluster := some "\t",
        s3 := some ⟨" bucket", some " ", some "id\n", some " scope", some "key"⟩ }
    let e : Declaration :=
      { name := "data", s3 := some ⟨"bucket", none, some "id", some "scope", some "key"⟩ }
    d.tidy = e.tidy ∧ ∃ r s, d.request = .ok r ∧ e.request = .ok s ∧ r.Agrees s := by
  intro d e
  have same : d.tidy = e.tidy := by decide
  refine ⟨same, (blanks_never_matter same).resolve_right ?_⟩
  rintro ⟨c, -, refused, -⟩
  have accepted : d.request.isOk = true := by decide
  rw [refused] at accepted
  cases accepted

end Declaration

end RemoteMounts
