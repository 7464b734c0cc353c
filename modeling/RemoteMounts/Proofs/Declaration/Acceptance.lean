import RemoteMounts.Proofs.Declaration.Override
import RemoteMounts.Proofs.Mount.FurtherSettings

/-!
# Which declarations are accepted

A declaration makes a request when its name is a mount name, one source is declared, the texts of
this source are such as its kind of storage allows, and the further settings have keys of their own.
`Declaration.WellFormed` says so of the texts alone (`accepted_iff_wellFormed`).  It is reached in
two steps: `Source.Makes` tells what storage a source stands for, and a storage can be mounted when
its texts pass.
-/

namespace RemoteMounts

/-! ## Texts -/

/-- The text may stand in a placeholder: it holds no slash and no brace. -/
abbrev IsSecretPart (s : String) : Prop :=
  IsWord ['/', '\x7b', '\x7d'] s

theorem Secret.isPart_trim_iff {s : String} :
    Secret.isPart (Text.trim s) = true ↔ IsSecretPart s := by
  have plain : ∀ c, (!isReserved c) = true ↔
      Text.isBlank c = false ∧ c ∉ ['/', '\x7b', '\x7d'] := by
    simp [isReserved, and_comm, and_assoc]
  simp only [isPart, Bool.and_eq_true, List.all_eq_true, decide_eq_true_eq, plain]
  exact ⟨fun h => ⟨h.1, h.2⟩, fun h => ⟨h.filled, h.plain⟩⟩

theorem Secret.exists_make_iff {scope key : String} :
    (∃ secret, Secret.make scope key = .ok secret) ↔ IsSecretPart scope ∧ IsSecretPart key := by
  simp only [make_eq_ok_iff, ← isPart_trim_iff]
  constructor
  · rintro ⟨secret, scopes, keys⟩
    exact ⟨scopes ▸ secret.scope_isPart, keys ▸ secret.key_isPart⟩
  · rintro ⟨scope_isPart, key_isPart⟩
    exact ⟨⟨_, _, scope_isPart, key_isPart⟩, rfl, rfl⟩

/-- Without the blanks around it the text is of letters, digits, underscores, hyphens and dots, and
does not mean a directory. -/
structure IsMountName (s : String) : Prop where
  named : Text.trim s ∉ ["", ".", ".."]
  plain : ∀ c ∈ (Text.trim s).toList, c.isAlphanum = true ∨ c ∈ ['_', '-', '.']

theorem MountName.exists_ofText_iff {s : String} :
    (∃ name, MountName.ofText (Text.trim s) = .ok name) ↔ IsMountName s := by
  have allowed : MountName.isName (Text.trim s) = true ↔ IsMountName s := by
    simp only [isName, isNameChar, Bool.and_eq_true, List.all_eq_true, decide_eq_true_eq,
      Bool.or_eq_true]
    constructor
    · rintro ⟨⟨⟨filled, here⟩, above⟩, plain⟩
      exact ⟨by simp [filled, here, above], fun c mem => by simpa [or_assoc] using plain c mem⟩
    · rintro ⟨named, plain⟩
      simp only [List.mem_cons, List.not_mem_nil, or_false, not_or] at named
      exact ⟨⟨⟨named.1, named.2.1⟩, named.2.2⟩, fun c mem => by simpa [or_assoc] using plain c mem⟩
  rw [← allowed]
  unfold ofText
  split
  next named => exact ⟨fun _ => named, fun _ => ⟨_, rfl⟩⟩
  next other => exact ⟨nofun, fun named => absurd named other⟩

theorem ProfileArn.IsText.ne_empty {s : String} (h : IsText s) : s ≠ "" := by
  rintro rfl
  exact absurd (flaw?_eq_none_iff.mpr h) (by decide)

/-- The text is there and is more than blanks. -/
def Given : Option String → Prop
  | none => False
  | some s => Text.trim s ≠ ""

instance : DecidablePred Given
  | none => .isFalse id
  | some s => inferInstanceAs (Decidable (Text.trim s ≠ ""))

theorem bind_filled?_eq_none_iff {o : Option String} : o.bind Text.filled? = none ↔ ¬ Given o := by
  cases o with
  | none => simp [Given]
  | some s => simp [Given, Text.filled?]

theorem bind_filled?_eq_some_iff {o : Option String} {t : String} :
    o.bind Text.filled? = some t ↔ ∃ s, o = some s ∧ Text.trim s ≠ "" ∧ t = Text.trim s := by
  cases o with
  | none => simp
  | some s =>
    simp only [Option.bind_some, Text.filled?, Option.some.injEq, exists_eq_left']
    split
    next blank => simp [blank]
    next filled => simp [filled, eq_comm]

/-! ## Sources -/

/-- One declared source. -/
inductive Source
  | s3 (s : S3Source)
  | gcs (s : GcsSource)
  | lakeGen2 (s : LakeGen2Source)
  | lakeGen1 (s : LakeGen1Source)
  | blob (s : BlobSource)
deriving DecidableEq

/-- The application is named by plain names, and its secret is one that can be referred to. -/
structure PrincipalSource.Sound (p : PrincipalSource) : Prop where
  tenant : IsPlainName p.tenant
  client : IsPlainName p.client
  scope : IsSecretPart p.secretScope
  key : IsSecretPart p.secretKey

/-- How the right to read an S3 bucket is proved; blank texts count as none.  Either the source
names a profile and nothing else, or it has all parts of an access key and no profile, or it has
nothing and a cluster is named. -/
inductive S3Source.Opened (s : S3Source) (cluster : Option String) : Prop
  | byProfile {arn : String} (named : s.profile = some arn)
      (isArn : ProfileArn.IsText (Text.trim arn)) (noId : ¬ Given s.accessKey)
      (noScope : ¬ Given s.secretScope) (noKey : ¬ Given s.secretKey)
  | byAccessKey {id scope key : String} (noProfile : ¬ Given s.profile)
      (hasId : s.accessKey = some id) (hasScope : s.secretScope = some scope)
      (hasKey : s.secretKey = some key) (plain : IsPlainName id) (inScope : IsSecretPart scope)
      (isKey : IsSecretPart key)
  | byCluster (noProfile : ¬ Given s.profile) (noId : ¬ Given s.accessKey)
      (noScope : ¬ Given s.secretScope) (noKey : ¬ Given s.secretKey) (bound : Given cluster)

namespace Source

/-- The texts of the source are such as its kind of storage allows. -/
def Sound (cluster : Option String) : Source → Prop
  | s3 s => IsPlainName s.bucket ∧ s.Opened cluster
  | gcs s => IsPlainName s.bucket
  | lakeGen2 s =>
    IsPlainName s.account ∧ IsPlainName s.container ∧ IsDirectory s.directory ∧ s.principal.Sound
  | lakeGen1 s =>
    IsPlainName s.resource ∧ IsDirectory s.directory ∧
      (∀ front ∈ s.settingPrefix, Text.trim front ∈ ["fs.adl", "dfs.adls"]) ∧ s.principal.Sound
  | blob s =>
    IsPlainName s.account ∧ IsPlainName s.container ∧ IsDirectory s.directory ∧
      IsSecretPart s.secretScope ∧ IsSecretPart s.secretKey

/-- The keys of the settings that a source brings with it. -/
def keys : Source → List String
  | s3 s => if Given s.accessKey then ["fs.s3a.access.key", "fs.s3a.secret.key"] else []
  | gcs _ => []
  | lakeGen2 _ =>
    ["fs.azure.account.auth.type", "fs.azure.account.oauth.provider.type",
      "fs.azure.account.oauth2.client.id", "fs.azure.account.oauth2.client.secret",
      "fs.azure.account.oauth2.client.endpoint",
      "fs.azure.createRemoteFileSystemDuringInitialization"]
  | lakeGen1 s =>
    [".oauth2.access.token.provider.type", ".oauth2.client.id", ".oauth2.credential",
      ".oauth2.refresh.url"].map (Text.trim (s.settingPrefix.getD "fs.adl") ++ ·)
  | blob s =>
    match s.access with
    | .accountKey =>
      ["fs.azure.account.key." ++ (Text.trim s.account ++ ".blob.core.windows.net")]
    | .sharedSignature =>
      ["fs.azure.sas." ++ Text.trim s.container ++ "." ++
        (Text.trim s.account ++ ".blob.core.windows.net")]

def storage : Source → Except Invalid Storage
  | s3 s => s.storage
  | gcs s => .ok (.gcs s.bucket)
  | lakeGen2 s => s.storage
  | lakeGen1 s => s.storage
  | blob s => s.storage

/-- What storage a source stands for, if it stands for any. -/
inductive Makes : Source → Storage → Prop
  | profile {s : S3Source} (noId : s.accessKey.bind Text.filled? = none)
      (noScope : s.secretScope.bind Text.filled? = none)
      (noKey : s.secretKey.bind Text.filled? = none) :
      Makes (.s3 s) (.s3 s.bucket (.profile (s.profile.bind Text.filled?)))
  | accessKey {s : S3Source} {id scope key : String} {secret : Secret}
      (noProfile : s.profile.bind Text.filled? = none)
      (hasId : s.accessKey.bind Text.filled? = some id)
      (hasScope : s.secretScope.bind Text.filled? = some scope)
      (hasKey : s.secretKey.bind Text.filled? = some key)
      (referred : Secret.make scope key = .ok secret) :
      Makes (.s3 s) (.s3 s.bucket (.accessKey id secret))
  | gcs {s : GcsSource} : Makes (.gcs s) (.gcs s.bucket)
  | lakeGen2 {s : LakeGen2Source} {secret : Secret}
      (referred : Secret.make s.principal.secretScope s.principal.secretKey = .ok secret) :
      Makes (.lakeGen2 s) (.lakeGen2 s.account s.container s.directory
        ⟨s.principal.tenant, s.principal.client, secret⟩ s.makesFileSystem)
  | lakeGen1 {s : LakeGen1Source} {secret : Secret}
      (referred : Secret.make s.principal.secretScope s.principal.secretKey = .ok secret) :
      Makes (.lakeGen1 s) (.lakeGen1 s.resource s.directory (s.settingPrefix.getD "fs.adl")
        ⟨s.principal.tenant, s.principal.client, secret⟩)
  | blob {s : BlobSource} {secret : Secret}
      (referred : Secret.make s.secretScope s.secretKey = .ok secret) :
      Makes (.blob s) (.blob s.account s.container s.directory s.access secret)

theorem s3_storage_eq_ok_iff {s : S3Source} {made : Storage} :
    s.storage = .ok made ↔ (Source.s3 s).Makes made := by
  unfold S3Source.storage
  constructor
  · intro h
    dsimp only at h
    split at h
    next _ _ _ _ noId noScope noKey =>
      cases h
      exact .profile noId noScope noKey
    next => cases h
    next _ _ _ _ _ _ _ noProfile hasId hasScope hasKey =>
      obtain ⟨secret, referred, h⟩ := bind_eq_ok_iff.mp h
      cases h
      exact .accessKey noProfile hasId hasScope hasKey referred
    next => cases h
  · rintro (⟨noId, noScope, noKey⟩ | ⟨noProfile, hasId, hasScope, hasKey, referred⟩)
    · simp only [noId, noScope, noKey]
      rfl
    · simp only [noProfile, hasId, hasScope, hasKey, referred]
      rfl

theorem storage_eq_ok_iff {source : Source} {made : Storage} :
    source.storage = .ok made ↔ source.Makes made := by
  cases source with
  | s3 s => exact s3_storage_eq_ok_iff
  | gcs s =>
    constructor
    · rintro ⟨⟩
      exact .gcs
    · rintro ⟨⟩
      rfl
  | lakeGen2 s =>
    simp only [storage, LakeGen2Source.storage, PrincipalSource.principal, bind_eq_ok_iff]
    constructor
    · rintro ⟨_, ⟨secret, referred, ⟨⟩⟩, ⟨⟩⟩
      exact .lakeGen2 referred
    · intro makes
      cases makes with
      | lakeGen2 referred => exact ⟨_, ⟨_, referred, rfl⟩, rfl⟩
  | lakeGen1 s =>
    simp only [storage, LakeGen1Source.storage, PrincipalSource.principal, bind_eq_ok_iff]
    constructor
    · rintro ⟨_, ⟨secret, referred, ⟨⟩⟩, ⟨⟩⟩
      exact .lakeGen1 referred
    · intro makes
      cases makes with
      | lakeGen1 referred => exact ⟨_, ⟨_, referred, rfl⟩, rfl⟩
  | blob s =>
    simp only [storage, BlobSource.storage, bind_eq_ok_iff]
    constructor
    · rintro ⟨secret, referred, ⟨⟩⟩
      exact .blob referred
    · intro makes
      cases makes with
      | blob referred => exact ⟨_, referred, rfl⟩

/-- The settings that are made of the storage have the keys that the source brings with it. -/
theorem Makes.keys_eq {source : Source} {made : Storage} (h : source.Makes made) :
    made.tidy.keys = source.keys := by
  cases h with
  | profile noId =>
    have absent := bind_filled?_eq_none_iff.mp noId
    simp only [keys, if_neg absent]
    rfl
  | @accessKey s id _ _ _ noProfile hasId =>
    obtain ⟨text, named, filled, -⟩ := bind_filled?_eq_some_iff.mp hasId
    have present : Given s.accessKey := named ▸ filled
    simp only [keys, if_pos present]
    rfl
  | gcs => rfl
  | lakeGen2 => rfl
  | lakeGen1 => rfl
  | @blob s =>
    obtain ⟨account, container, directory, access, scope, key⟩ := s
    cases access <;> rfl

/-- Where the storage that a source stands for can be mounted, the texts of the source are sound. -/
theorem Makes.sound {source : Source} {made : Storage} {cluster : Option String}
    (makes : source.Makes made) (passes : made.Passes)
    (bound : ∀ bucket, made = .s3 bucket (.profile none) → Given cluster) :
    source.Sound cluster := by
  cases makes with
  | @profile s noId noScope noKey =>
    obtain ⟨plain, named⟩ := passes
    rw [bind_filled?_eq_none_iff] at noId noScope noKey
    refine ⟨plain, ?_⟩
    cases profile : s.profile.bind Text.filled? with
    | none =>
      -- No profile is named, so it has to be the profile of a cluster that is named.
      rw [profile] at bound
      exact .byCluster (bind_filled?_eq_none_iff.mp profile) noId noScope noKey (bound _ rfl)
    | some text =>
      have isArn := ProfileArn.exists_parse_iff.mp (named text profile)
      obtain ⟨arn, given, -, rfl⟩ := bind_filled?_eq_some_iff.mp profile
      exact .byProfile given (Text.trim_trim arn ▸ isArn) noId noScope noKey
  | accessKey noProfile hasId hasScope hasKey referred =>
    obtain ⟨plain, plainId⟩ := passes
    obtain ⟨inScope, isKey⟩ := Secret.exists_make_iff.mp ⟨_, referred⟩
    obtain ⟨id, givenId, -, rfl⟩ := bind_filled?_eq_some_iff.mp hasId
    obtain ⟨scope, givenScope, -, rfl⟩ := bind_filled?_eq_some_iff.mp hasScope
    obtain ⟨key, givenKey, -, rfl⟩ := bind_filled?_eq_some_iff.mp hasKey
    exact ⟨plain, .byAccessKey (bind_filled?_eq_none_iff.mp noProfile) givenId givenScope givenKey
      (isWord_trim_iff.mp plainId) (isWord_trim_iff.mp inScope) (isWord_trim_iff.mp isKey)⟩
  | gcs => exact passes
  | lakeGen2 referred =>
    obtain ⟨account, container, directory, principal⟩ := passes
    obtain ⟨inScope, isKey⟩ := Secret.exists_make_iff.mp ⟨_, referred⟩
    exact ⟨account, container, directory, principal.tenant, principal.client, inScope, isKey⟩
  | lakeGen1 referred =>
    obtain ⟨resource, directory, front, principal⟩ := passes
    obtain ⟨inScope, isKey⟩ := Secret.exists_make_iff.mp ⟨_, referred⟩
    refine ⟨resource, directory, fun text given => ?_, principal.tenant, principal.client, inScope,
      isKey⟩
    rwa [Option.mem_def.mp given] at front
  | blob referred =>
    obtain ⟨account, container, directory⟩ := passes
    exact ⟨account, container, directory, Secret.exists_make_iff.mp ⟨_, referred⟩⟩

/-- An S3 source that is opened in one of the ways stands for a storage whose access passes. -/
theorem exists_makes_of_opened {s : S3Source} {cluster : Option String} (h : s.Opened cluster) :
    ∃ access, Makes (.s3 s) (.s3 s.bucket access) ∧ access.Passes ∧
      (access = .profile none → Given cluster) := by
  cases h with
  | @byProfile arn named isArn noId noScope noKey =>
    have profile : s.profile.bind Text.filled? = some (Text.trim arn) :=
      bind_filled?_eq_some_iff.mpr ⟨arn, named, isArn.ne_empty, rfl⟩
    rw [← bind_filled?_eq_none_iff] at noId noScope noKey
    refine ⟨_, .profile noId noScope noKey, fun text given => ?_, fun bare => ?_⟩
    · obtain rfl : Text.trim arn = text := Option.some.inj (profile.symm.trans given)
      exact ProfileArn.exists_parse_iff.mpr ((Text.trim_trim arn).symm ▸ isArn)
    · rw [profile] at bare
      cases bare
  | @byAccessKey id scope key noProfile hasId hasScope hasKey plain inScope isKey =>
    obtain ⟨secret, referred⟩ := Secret.exists_make_iff.mpr
      ⟨isWord_trim_iff.mpr inScope, isWord_trim_iff.mpr isKey⟩
    have makes := Makes.accessKey (bind_filled?_eq_none_iff.mpr noProfile)
      (bind_filled?_eq_some_iff.mpr ⟨id, hasId, plain.filled, rfl⟩)
      (bind_filled?_eq_some_iff.mpr ⟨scope, hasScope, inScope.filled, rfl⟩)
      (bind_filled?_eq_some_iff.mpr ⟨key, hasKey, isKey.filled, rfl⟩) referred
    exact ⟨_, makes, isWord_trim_iff.mpr plain, nofun⟩
  | byCluster noProfile noId noScope noKey bound =>
    rw [← bind_filled?_eq_none_iff] at noProfile noId noScope noKey
    refine ⟨_, .profile noId noScope noKey, fun text given => ?_, fun _ => bound⟩
    rw [noProfile] at given
    cases given

/-- A source with sound texts stands for a storage that can be mounted. -/
theorem exists_makes_of_sound {source : Source} {cluster : Option String}
    (sound : source.Sound cluster) :
    ∃ made, source.Makes made ∧ made.Passes ∧
      ∀ bucket, made = .s3 bucket (.profile none) → Given cluster := by
  cases source with
  | s3 s =>
    obtain ⟨plain, opened⟩ := sound
    obtain ⟨access, makes, passes, bound⟩ := exists_makes_of_opened opened
    refine ⟨_, makes, ⟨plain, passes⟩, ?_⟩
    rintro bucket ⟨⟩
    exact bound rfl
  | gcs s => exact ⟨_, .gcs, sound, nofun⟩
  | lakeGen2 s =>
    obtain ⟨account, container, directory, tenant, client, inScope, isKey⟩ := sound
    obtain ⟨secret, referred⟩ := Secret.exists_make_iff.mpr ⟨inScope, isKey⟩
    exact ⟨_, .lakeGen2 referred, ⟨account, container, directory, client, tenant⟩, nofun⟩
  | lakeGen1 s =>
    obtain ⟨resource, directory, known, tenant, client, inScope, isKey⟩ := sound
    obtain ⟨secret, referred⟩ := Secret.exists_make_iff.mpr ⟨inScope, isKey⟩
    have front : Text.trim (s.settingPrefix.getD "fs.adl") ∈ settingPrefixes := by
      cases given : s.settingPrefix with
      | none => decide
      | some text => exact known text given
    exact ⟨_, .lakeGen1 referred, ⟨resource, directory, front, client, tenant⟩, nofun⟩
  | blob s =>
    obtain ⟨account, container, directory, referable⟩ := sound
    obtain ⟨secret, referred⟩ := Secret.exists_make_iff.mpr referable
    exact ⟨_, .blob referred, ⟨account, container, directory⟩, nofun⟩

end Source

/-! ## Requests that pass -/

theorem Request.check_eq_ok_iff {r : Request} :
    r.check = .ok () ↔ ¬ r.LacksCluster ∧ ∃ x, r.attachment.args = .ok x := by
  by_cases lacks : r.LacksCluster
  · rw [check_of_lacksCluster lacks]
    exact ⟨nofun, fun passes => absurd lacks passes.1⟩
  · rw [check_of_not_lacksCluster lacks]
    cases r.attachment.args with
    | error e => exact ⟨nofun, nofun⟩
    | ok x => exact ⟨fun _ => ⟨lacks, x, rfl⟩, fun _ => rfl⟩

/-- The keys of the further settings, without the blanks around them, are not empty, are not taken,
and are not the same. -/
structure FreshKeys (taken : List String) (extra : Keyed String) : Prop where
  filled : ∀ key, extra.contains key = true → Text.trim key ≠ ""
  free : ∀ key, extra.contains key = true → Text.trim key ∉ taken
  distinct : ∀ j k, extra.contains j = true → extra.contains k = true →
    Text.trim j = Text.trim k → j = k

theorem Attachment.exists_args_iff {a : Attachment} :
    (∃ x, a.args = .ok x) ↔ a.storage.Passes ∧ FreshKeys a.storage.tidy.keys a.extra := by
  have free : ∀ key, (Keyed.ofList a.storage.tidy.bindings).contains key = false ↔
      key ∉ a.storage.tidy.keys := fun key => by
    rw [Keyed.contains, Option.isSome_eq_false_iff, Option.isNone_iff_eq_none,
      Keyed.get?_ofList_eq_none_iff (Storage.keys_nodup _)]
    rfl
  have fresh : Fit (.ofList a.storage.tidy.bindings) a.extra.entries ↔
      FreshKeys a.storage.tidy.keys a.extra := by
    simp only [fit_entries_iff, free]
    constructor
    · rintro ⟨single, apart⟩
      exact ⟨fun key bound => (single key bound).1, fun key bound => (single key bound).2, apart⟩
    · rintro ⟨filled, free, apart⟩
      exact ⟨fun key bound => ⟨filled key bound, free key bound⟩, apart⟩
  simp only [args_eq_ok_iff, addSettings_eq_ok_iff, fresh]
  constructor
  · rintro ⟨x, passes, -, fits, -⟩
    exact ⟨passes, fits⟩
  · rintro ⟨passes, fits⟩
    exact ⟨⟨_, _⟩, passes, rfl, fits, rfl⟩

namespace Declaration

/-- The sources that are declared, in a fixed order of their kinds. -/
def declared (d : Declaration) : List Source :=
  (d.s3.map Source.s3).toList ++ (d.gcs.map Source.gcs).toList ++
    (d.lakeGen2.map Source.lakeGen2).toList ++ (d.lakeGen1.map Source.lakeGen1).toList ++
    (d.blob.map Source.blob).toList

/-- The declaration has a mount name, one source with sound texts, and further settings under keys
of their own. -/
structure WellFormed (d : Declaration) : Prop where
  named : IsMountName d.name
  sourced : ∃ source, d.declared = [source] ∧ source.Sound d.cluster ∧
    FreshKeys source.keys d.extra

theorem storages_eq (d : Declaration) : d.storages = d.declared.map Source.storage := by
  simp only [storages, declared, List.map_append, Option.toList_map, List.map_map]
  rfl

theorem storage_eq_ok_iff {d : Declaration} {made : Storage} :
    d.storage = .ok made ↔ ∃ source, d.declared = [source] ∧ source.Makes made := by
  unfold storage
  rw [storages_eq]
  cases d.declared with
  | nil => simp
  | cons source others =>
    cases others with
    | nil => simp [Source.storage_eq_ok_iff]
    | cons other rest => simp

theorem request_eq_ok_iff {d : Declaration} {r : Request} :
    d.request = .ok r ↔ d.draft = .ok r ∧ r.check = .ok () := by
  simp only [request_eq, Request.checked, bind_eq_ok_iff]
  constructor
  · rintro ⟨_, drafted, ⟨⟩, checked, ⟨⟩⟩
    exact ⟨drafted, checked⟩
  · rintro ⟨drafted, checked⟩
    exact ⟨r, drafted, (), checked, rfl⟩

/-- A declaration makes a request just if it is well formed. -/
theorem accepted_iff_wellFormed (d : Declaration) :
    (∃ r, d.request = .ok r) ↔ d.WellFormed := by
  constructor
  · rintro ⟨r, made⟩
    obtain ⟨drafted, checked⟩ := request_eq_ok_iff.mp made
    obtain ⟨named, stored, cluster, extra⟩ := draft_eq_ok_iff.mp drafted
    obtain ⟨bound, args⟩ := Request.check_eq_ok_iff.mp checked
    obtain ⟨passes, fresh⟩ := Attachment.exists_args_iff.mp args
    obtain ⟨source, declared, makes⟩ := storage_eq_ok_iff.mp stored
    refine ⟨MountName.exists_ofText_iff.mp ⟨_, named⟩, source, declared, ?_, ?_⟩
    · refine makes.sound passes fun bucket bare => ?_
      apply Decidable.byContradiction
      intro none
      refine bound ⟨?_, Attachment.relyOnCluster_iff.mpr ⟨bucket, bare⟩⟩
      rw [← cluster, bind_filled?_eq_none_iff.mpr none]
    · rw [← makes.keys_eq, extra]
      exact fresh
  · rintro ⟨named, source, declared, sound, fresh⟩
    obtain ⟨name, named⟩ := MountName.exists_ofText_iff.mpr named
    obtain ⟨made, makes, passes, bound⟩ := Source.exists_makes_of_sound sound
    let r : Request := ⟨name, d.cluster.bind Text.filled?, ⟨made, d.extra⟩⟩
    have drafted : d.draft = .ok r :=
      draft_eq_ok_iff.mpr ⟨named, storage_eq_ok_iff.mpr ⟨source, declared, makes⟩, rfl, rfl⟩
    refine ⟨r, request_eq_ok_iff.mpr ⟨drafted, Request.check_eq_ok_iff.mpr ⟨?_, ?_⟩⟩⟩
    · rintro ⟨free, relies⟩
      obtain ⟨bucket, bare⟩ := Attachment.relyOnCluster_iff.mp relies
      exact bind_filled?_eq_none_iff.mp free (bound bucket bare)
    · exact Attachment.exists_args_iff.mpr ⟨passes, makes.keys_eq ▸ fresh⟩

end Declaration

end RemoteMounts
