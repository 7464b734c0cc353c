import RemoteMounts.Mount.Storage

/-!
# What the arguments of a mount tell

The arguments of a mount are made of the storage's texts without the blanks around them, and
`Storage.args_eq_ok_iff` says which storages have arguments and which these are.  No text can hold a
character that ends its part of the URI, so the URI is put together in one way only and tells where
the data lies (`Place.uri_inj`); the settings tell the rest, all but the S3 profile
(`arguments_tell_storage`).
-/

namespace RemoteMounts

/-- What comes out of two steps comes out of the first and then of the second. -/
theorem bind_eq_ok_iff {ε α β : Type} {x : Except ε α} {f : α → Except ε β} {b : β} :
    (x >>= f) = .ok b ↔ ∃ a, x = .ok a ∧ f a = .ok b := by
  cases x with
  | error e => exact ⟨nofun, nofun⟩
  | ok a => exact ⟨fun h => ⟨a, rfl, h⟩, fun ⟨_, rfl, h⟩ => h⟩

/-! ## Texts that pass -/

/-- Without the blanks around it the text is not empty and holds no blank and none of the marks. -/
structure IsWord (marks : List Char) (s : String) : Prop where
  filled : Text.trim s ≠ ""
  plain : ∀ c ∈ (Text.trim s).toList, Text.isBlank c = false ∧ c ∉ marks

theorem IsWord.not_mem {marks : List Char} {s : String} (h : IsWord marks s) {c : Char}
    (mark : c ∈ marks) : c ∉ (Text.trim s).toList :=
  fun mem => (h.plain c mem).2 mark

theorem isWord_trim_iff {marks : List Char} {s : String} :
    IsWord marks (Text.trim s) ↔ IsWord marks s := by
  constructor
  · rintro ⟨filled, plain⟩
    rw [Text.trim_trim] at filled plain
    exact ⟨filled, plain⟩
  · rintro ⟨filled, plain⟩
    rw [← Text.trim_trim] at filled plain
    exact ⟨filled, plain⟩

/-- The text may stand as a name in a URI: it holds no quote, no backslash, no slash and no at
sign. -/
abbrev IsPlainName (s : String) : Prop :=
  IsWord ['"', '\'', '\\', '/', '@'] s

/-- Without the blanks around it the text is empty, or it begins with a slash and holds no quote and
no backslash. -/
def IsDirectory (s : String) : Prop :=
  Text.trim s = "" ∨
    (Text.trim s).toList.head? = some '/' ∧ ∀ c ∈ (Text.trim s).toList, c ∉ ['"', '\'', '\\']

theorem isDirectory_trim_iff {s : String} : IsDirectory (Text.trim s) ↔ IsDirectory s := by
  simp only [IsDirectory, Text.trim_trim]

theorem any_isUnfit_eq_false_iff {cs : List Char} :
    cs.any isUnfit = false ↔
      ∀ c ∈ cs, Text.isBlank c = false ∧ c ∉ ['"', '\'', '\\', '/', '@'] := by
  simp [isUnfit, and_assoc]

theorem nameIn_eq_ok_iff {field value name : String} :
    nameIn field value = .ok name ↔ IsPlainName value ∧ name = Text.trim value := by
  unfold nameIn
  split
  next blank => exact ⟨nofun, fun h => absurd blank h.1.filled⟩
  next filled =>
    split
    next unfit =>
      refine ⟨nofun, fun h => ?_⟩
      rw [any_isUnfit_eq_false_iff.mpr h.1.plain] at unfit
      cases unfit
    next fit =>
      have plain := any_isUnfit_eq_false_iff.mp (Bool.eq_false_iff.mpr fit)
      exact ⟨fun h => ⟨⟨filled, plain⟩, (Except.ok.inj h).symm⟩, fun h => congrArg _ h.2.symm⟩

theorem directoryIn_eq_ok_iff {value directory : String} :
    directoryIn value = .ok directory ↔ IsDirectory value ∧ directory = Text.trim value := by
  unfold directoryIn IsDirectory
  by_cases none : Text.trim value = ""
  · simp [none, eq_comm]
  · have some : (Text.trim value).toList.isEmpty = false :=
      List.isEmpty_eq_false_iff.mpr fun h => none (String.toList_eq_nil_iff.mp h)
    simp only [some, none, Bool.false_eq_true, if_false, false_or]
    split
    next bad =>
      refine ⟨nofun, fun h => ?_⟩
      obtain ⟨⟨begins, plain⟩, -⟩ := h
      rcases bad with other | quoted
      · exact absurd begins other
      · obtain ⟨c, mem, quote⟩ := List.any_eq_true.mp quoted
        exact absurd quote (by simpa [or_assoc] using plain c mem)
    next good =>
      simp only [ne_eq, not_or, Decidable.not_not, Bool.not_eq_true, List.any_eq_false] at good
      have plain : ∀ c ∈ (Text.trim value).toList, c ∉ ['"', '\'', '\\'] := fun c mem => by
        simpa [and_assoc] using good.2 c mem
      exact ⟨fun h => ⟨⟨good.1, plain⟩, (Except.ok.inj h).symm⟩, fun h => congrArg _ h.2.symm⟩

theorem settingPrefixIn_eq_ok_iff {value front : String} :
    settingPrefixIn value = .ok front ↔
      Text.trim value ∈ settingPrefixes ∧ front = Text.trim value := by
  unfold settingPrefixIn
  split
  next known => simp [known, eq_comm]
  next other => simp [other]

def tokenUrlOf (tenant : String) : String :=
  "https://login.microsoftonline.com/" ++ tenant ++ "/oauth2/token"

theorem Principal.tokenUrl_eq_ok_iff {p : Principal} {url : String} :
    p.tokenUrl = .ok url ↔ IsPlainName p.tenant ∧ url = tokenUrlOf (Text.trim p.tenant) := by
  simp only [tokenUrl, bind_eq_ok_iff, nameIn_eq_ok_iff, pure, Except.pure, Except.ok.injEq]
  constructor
  · rintro ⟨tenant, ⟨plain, rfl⟩, rfl⟩
    exact ⟨plain, rfl⟩
  · rintro ⟨plain, rfl⟩
    exact ⟨_, ⟨plain, rfl⟩, rfl⟩

theorem tokenUrlOf_inj {s t : String} : tokenUrlOf s = tokenUrlOf t ↔ s = t := by
  unfold tokenUrlOf
  exact (String.append_left_inj _).trans (String.append_right_inj _)

/-! ## Places -/

/-- Where data lies, whoever may read it. -/
inductive Place
  | s3 (bucket : String)
  | gcs (bucket : String)
  | lakeGen2 (account container directory : String)
  | lakeGen1 (resource directory : String)
  | blob (account container directory : String)
deriving DecidableEq

namespace Place

/-- The scheme of the URI, by the kind of storage. -/
def scheme : Place → String
  | s3 _ => "s3a"
  | gcs _ => "gs"
  | lakeGen2 _ _ _ => "abfss"
  | lakeGen1 _ _ => "adl"
  | blob _ _ _ => "wasbs"

/-- What follows the scheme in the URI. -/
def location : Place → String
  | s3 bucket => bucket
  | gcs bucket => bucket
  | lakeGen2 account container directory =>
    container ++ "@" ++ (account ++ ".dfs.core.windows.net" ++ directory)
  | lakeGen1 resource directory => resource ++ ".azuredatalakestore.net" ++ directory
  | blob account container directory =>
    container ++ "@" ++ (Storage.blobHost account ++ directory)

def uri (p : Place) : String :=
  p.scheme ++ "://" ++ p.location

/-- The text is a directory: nothing, or it begins with a slash. -/
def BeginsPath (directory : String) : Prop :=
  directory = "" ∨ directory.toList.head? = some '/'

/-- No part of the place holds the mark by which its part of the URI ends. -/
def Bounded : Place → Prop
  | s3 _ | gcs _ => True
  | lakeGen2 account container directory | blob account container directory =>
    '@' ∉ container.toList ∧ '/' ∉ account.toList ∧ BeginsPath directory
  | lakeGen1 resource directory => '/' ∉ resource.toList ∧ BeginsPath directory

/-- A host that holds no slash and a directory are known from what they make. -/
theorem host_directory_inj {host host' directory directory' : String} (hh : '/' ∉ host.toList)
    (hh' : '/' ∉ host'.toList) (hd : BeginsPath directory) (hd' : BeginsPath directory')
    (h : host ++ directory = host' ++ directory') : host = host' ∧ directory = directory' := by
  rw [← String.toList_inj, String.toList_append, String.toList_append] at h
  rw [← String.toList_inj, ← String.toList_inj]
  rcases hd with rfl | begins
  · rcases hd' with rfl | begins'
    · exact ⟨by simpa using h, rfl⟩
    · obtain ⟨path, eq⟩ := List.head?_eq_some_iff.mp begins'
      rw [eq, String.toList_empty, List.append_nil] at h
      exact absurd (h ▸ List.mem_append_cons_self) hh
  · obtain ⟨path, eq⟩ := List.head?_eq_some_iff.mp begins
    rcases hd' with rfl | begins'
    · rw [eq, String.toList_empty, List.append_nil] at h
      exact absurd (h ▸ List.mem_append_cons_self) hh'
    · obtain ⟨path', eq'⟩ := List.head?_eq_some_iff.mp begins'
      rw [eq, eq'] at h ⊢
      obtain ⟨hosts, paths⟩ := Text.append_mark_inj hh hh' h
      exact ⟨hosts, congrArg _ paths⟩

/-- So are an account, with whose name the host begins, and a directory. -/
theorem account_directory_inj {account account' domain directory directory' : String}
    (ha : '/' ∉ account.toList) (ha' : '/' ∉ account'.toList) (hdom : '/' ∉ domain.toList)
    (hd : BeginsPath directory) (hd' : BeginsPath directory')
    (h : account ++ domain ++ directory = account' ++ domain ++ directory') :
    account = account' ∧ directory = directory' := by
  have free : ∀ {a : String}, '/' ∉ a.toList → '/' ∉ (a ++ domain).toList := fun none => by
    simpa using ⟨none, hdom⟩
  obtain ⟨hosts, directories⟩ := host_directory_inj (free ha) (free ha') hd hd' h
  exact ⟨(String.append_left_inj domain).mp hosts, directories⟩

/-- A container that holds no at sign and what stands after that sign are known from what they
make. -/
theorem container_host_inj {container container' host host' : String}
    (hc : '@' ∉ container.toList) (hc' : '@' ∉ container'.toList)
    (h : container ++ "@" ++ host = container' ++ "@" ++ host') :
    container = container' ∧ host = host' := by
  rw [← String.toList_inj] at h ⊢
  simp only [String.toList_append, List.append_assoc] at h
  obtain ⟨containers, hosts⟩ := Text.append_mark_inj hc hc' h
  exact ⟨containers, String.toList_inj.mp hosts⟩

/-- A place is known from its URI. -/
theorem uri_inj {p q : Place} (hp : p.Bounded) (hq : q.Bounded) : p.uri = q.uri ↔ p = q := by
  refine ⟨fun same => ?_, fun h => congrArg uri h⟩
  -- The scheme ends at the first colon and tells the kind, so of the pairs of kinds only those of
  -- one kind are left.
  have colon : ∀ r : Place, ':' ∉ r.scheme.toList := by
    intro r
    cases r <;> simp [scheme]
  have separator : "://".toList = ':' :: "//".toList := rfl
  have written := congrArg String.toList same
  simp only [uri, String.toList_append, List.append_assoc, separator, List.cons_append] at written
  obtain ⟨schemes, rest⟩ := Text.append_mark_inj (colon p) (colon q) written
  have locations : p.location = q.location := String.toList_inj.mp (List.append_cancel_left rest)
  cases p with
  | s3 bucket =>
    cases q with
    | s3 bucket' => exact congrArg s3 locations
    | _ => simp [scheme] at schemes
  | gcs bucket =>
    cases q with
    | gcs bucket' => exact congrArg gcs locations
    | _ => simp [scheme] at schemes
  | lakeGen2 account container directory =>
    cases q with
    | lakeGen2 account' container' directory' =>
      obtain ⟨rfl, hosts⟩ := container_host_inj hp.1 hq.1 locations
      obtain ⟨rfl, rfl⟩ := account_directory_inj hp.2.1 hq.2.1 (by decide) hp.2.2 hq.2.2 hosts
      rfl
    | _ => simp [scheme] at schemes
  | lakeGen1 resource directory =>
    cases q with
    | lakeGen1 resource' directory' =>
      obtain ⟨rfl, rfl⟩ := account_directory_inj hp.1 hq.1 (by decide) hp.2 hq.2 locations
      rfl
    | _ => simp [scheme] at schemes
  | blob account container directory =>
    cases q with
    | blob account' container' directory' =>
      obtain ⟨rfl, hosts⟩ := container_host_inj hp.1 hq.1 locations
      obtain ⟨rfl, rfl⟩ := account_directory_inj hp.2.1 hq.2.1 (by decide) hp.2.2 hq.2.2 hosts
      rfl
    | _ => simp [scheme] at schemes

end Place

/-! ## What is made of a storage -/

attribute [ext] Principal

def Principal.tidy (p : Principal) : Principal :=
  { p with tenant := Text.trim p.tenant, client := Text.trim p.client }

def S3Access.tidy : S3Access → S3Access
  | profile arn => profile (arn.map Text.trim)
  | accessKey id secret => accessKey (Text.trim id) secret

/-- The settings that are made of the access. -/
def S3Access.bindings : S3Access → List (String × String)
  | profile _ => []
  | accessKey id secret => [("fs.s3a.access.key", id), ("fs.s3a.secret.key", secret.placeholder)]

def S3Access.Passes : S3Access → Prop
  | profile arn => ∀ text ∈ arn, ∃ profile, ProfileArn.parse text = .ok profile
  | accessKey id _ => IsPlainName id

structure Principal.IsPlain (p : Principal) : Prop where
  client : IsPlainName p.client
  tenant : IsPlainName p.tenant

namespace Storage

def tidy : Storage → Storage
  | s3 bucket access => s3 (Text.trim bucket) access.tidy
  | gcs bucket => gcs (Text.trim bucket)
  | lakeGen2 account container directory principal makesFileSystem =>
    lakeGen2 (Text.trim account) (Text.trim container) (Text.trim directory) principal.tidy
      makesFileSystem
  | lakeGen1 resource directory settingPrefix principal =>
    lakeGen1 (Text.trim resource) (Text.trim directory) (Text.trim settingPrefix) principal.tidy
  | blob account container directory access secret =>
    blob (Text.trim account) (Text.trim container) (Text.trim directory) access secret

def place : Storage → Place
  | s3 bucket _ => .s3 bucket
  | gcs bucket => .gcs bucket
  | lakeGen2 account container directory _ _ => .lakeGen2 account container directory
  | lakeGen1 resource directory _ _ => .lakeGen1 resource directory
  | blob account container directory _ _ => .blob account container directory

/-- The setting that holds the secret of a blob container. -/
def blobKey (account container : String) : BlobAccess → String
  | .accountKey => "fs.azure.account.key." ++ blobHost account
  | .sharedSignature => "fs.azure.sas." ++ container ++ "." ++ blobHost account

def bindings : Storage → List (String × String)
  | s3 _ access => access.bindings
  | gcs _ => []
  | lakeGen2 _ _ _ principal makesFileSystem =>
    [("fs.azure.account.auth.type", "OAuth"),
      ("fs.azure.account.oauth.provider.type",
        "org.apache.hadoop.fs.azurebfs.oauth2.ClientCredsTokenProvider"),
      ("fs.azure.account.oauth2.client.id", principal.client),
      ("fs.azure.account.oauth2.client.secret", principal.secret.placeholder),
      ("fs.azure.account.oauth2.client.endpoint", tokenUrlOf principal.tenant),
      ("fs.azure.createRemoteFileSystemDuringInitialization",
        if makesFileSystem then "true" else "false")]
  | lakeGen1 _ _ front principal =>
    [(front ++ ".oauth2.access.token.provider.type", "ClientCredential"),
      (front ++ ".oauth2.client.id", principal.client),
      (front ++ ".oauth2.credential", principal.secret.placeholder),
      (front ++ ".oauth2.refresh.url", tokenUrlOf principal.tenant)]
  | blob account container _ access secret =>
    [(blobKey account container access, secret.placeholder)]

/-- The arguments that are made of the texts as they stand. -/
def rawArgs (s : Storage) : MountArgs :=
  ⟨s.place.uri, .ofList s.bindings⟩

/-- Every text of the storage passes. -/
def Passes : Storage → Prop
  | s3 bucket access => IsPlainName bucket ∧ access.Passes
  | gcs bucket => IsPlainName bucket
  | lakeGen2 account container directory principal _ =>
    IsPlainName account ∧ IsPlainName container ∧ IsDirectory directory ∧ principal.IsPlain
  | lakeGen1 resource directory settingPrefix principal =>
    IsPlainName resource ∧ IsDirectory directory ∧ Text.trim settingPrefix ∈ settingPrefixes ∧
      principal.IsPlain
  | blob account container directory _ _ =>
    IsPlainName account ∧ IsPlainName container ∧ IsDirectory directory

theorem s3Settings_eq_ok_iff {access : S3Access} {settings : Keyed String} :
    s3Settings access = .ok settings ↔
      access.Passes ∧ settings = .ofList access.tidy.bindings := by
  cases access with
  | profile arn =>
    cases arn with
    | none => exact ⟨fun h => ⟨nofun, (Except.ok.inj h).symm⟩, fun h => congrArg Except.ok h.2.symm⟩
    | some text =>
      simp only [s3Settings, bind_eq_ok_iff, pure, Except.pure, Except.ok.injEq]
      constructor
      · rintro ⟨profile, parsed, rfl⟩
        exact ⟨fun _ same => ⟨profile, Option.mem_some.mp same ▸ parsed⟩, rfl⟩
      · rintro ⟨parsed, rfl⟩
        obtain ⟨profile, parsed⟩ := parsed text rfl
        exact ⟨profile, parsed, rfl⟩
  | accessKey id secret =>
    simp only [s3Settings, bind_eq_ok_iff, nameIn_eq_ok_iff, pure, Except.pure, Except.ok.injEq]
    constructor
    · rintro ⟨name, ⟨plain, rfl⟩, rfl⟩
      exact ⟨plain, rfl⟩
    · rintro ⟨plain, rfl⟩
      exact ⟨_, ⟨plain, rfl⟩, rfl⟩

/-- A storage has arguments when all its texts pass, and these are made of the texts without the
blanks around them. -/
theorem args_eq_ok_iff {s : Storage} {x : MountArgs} :
    s.args = .ok x ↔ s.Passes ∧ x = s.tidy.rawArgs := by
  cases s with
  | s3 bucket access =>
    simp only [args, s3Args, bind_eq_ok_iff, nameIn_eq_ok_iff, s3Settings_eq_ok_iff, pure,
      Except.pure, Except.ok.injEq]
    constructor
    · rintro ⟨_, ⟨plain, rfl⟩, _, ⟨passes, rfl⟩, rfl⟩
      exact ⟨⟨plain, passes⟩, rfl⟩
    · rintro ⟨⟨plain, passes⟩, rfl⟩
      exact ⟨_, ⟨plain, rfl⟩, _, ⟨passes, rfl⟩, rfl⟩
  | gcs bucket =>
    simp only [args, gcsArgs, bind_eq_ok_iff, nameIn_eq_ok_iff, pure, Except.pure, Except.ok.injEq]
    constructor
    · rintro ⟨_, ⟨plain, rfl⟩, rfl⟩
      exact ⟨plain, rfl⟩
    · rintro ⟨plain, rfl⟩
      exact ⟨_, ⟨plain, rfl⟩, rfl⟩
  | lakeGen2 account container directory principal makesFileSystem =>
    have uri : ∀ a c d : String, (Place.lakeGen2 a c d).uri =
        "abfss://" ++ c ++ "@" ++ a ++ ".dfs.core.windows.net" ++ d := by
      intro a c d
      simp only [Place.uri, Place.scheme, Place.location, String.reduceAppend, String.append_assoc]
    simp only [args, lakeGen2Args, bind_eq_ok_iff, nameIn_eq_ok_iff, directoryIn_eq_ok_iff,
      Principal.tokenUrl_eq_ok_iff, pure, Except.pure, Except.ok.injEq, ← uri]
    constructor
    · rintro ⟨_, ⟨ha, rfl⟩, _, ⟨hc, rfl⟩, _, ⟨hd, rfl⟩, _, ⟨hi, rfl⟩, _, ⟨ht, rfl⟩, rfl⟩
      exact ⟨⟨ha, hc, hd, hi, ht⟩, rfl⟩
    · rintro ⟨⟨ha, hc, hd, hi, ht⟩, rfl⟩
      exact ⟨_, ⟨ha, rfl⟩, _, ⟨hc, rfl⟩, _, ⟨hd, rfl⟩, _, ⟨hi, rfl⟩, _, ⟨ht, rfl⟩, rfl⟩
  | lakeGen1 resource directory settingPrefix principal =>
    have uri : ∀ r d : String,
        (Place.lakeGen1 r d).uri = "adl://" ++ r ++ ".azuredatalakestore.net" ++ d := by
      intro r d
      simp only [Place.uri, Place.scheme, Place.location, String.reduceAppend, String.append_assoc]
    simp only [args, lakeGen1Args, bind_eq_ok_iff, nameIn_eq_ok_iff, directoryIn_eq_ok_iff,
      settingPrefixIn_eq_ok_iff, Principal.tokenUrl_eq_ok_iff, pure, Except.pure, Except.ok.injEq,
      ← uri]
    constructor
    · rintro ⟨_, ⟨hr, rfl⟩, _, ⟨hd, rfl⟩, _, ⟨hf, rfl⟩, _, ⟨hi, rfl⟩, _, ⟨ht, rfl⟩, rfl⟩
      exact ⟨⟨hr, hd, hf, hi, ht⟩, rfl⟩
    · rintro ⟨⟨hr, hd, hf, hi, ht⟩, rfl⟩
      exact ⟨_, ⟨hr, rfl⟩, _, ⟨hd, rfl⟩, _, ⟨hf, rfl⟩, _, ⟨hi, rfl⟩, _, ⟨ht, rfl⟩, rfl⟩
  | blob account container directory access secret =>
    have uri : ∀ a c d : String,
        (Place.blob a c d).uri = "wasbs://" ++ c ++ "@" ++ blobHost a ++ d := by
      intro a c d
      simp only [Place.uri, Place.scheme, Place.location, String.reduceAppend, String.append_assoc]
    simp only [args, blobArgs, bind_eq_ok_iff, nameIn_eq_ok_iff, directoryIn_eq_ok_iff, pure,
      Except.pure, Except.ok.injEq, ← uri]
    constructor
    · rintro ⟨_, ⟨ha, rfl⟩, _, ⟨hc, rfl⟩, _, ⟨hd, rfl⟩, rfl⟩
      exact ⟨⟨ha, hc, hd⟩, rfl⟩
    · rintro ⟨⟨ha, hc, hd⟩, rfl⟩
      exact ⟨_, ⟨ha, rfl⟩, _, ⟨hc, rfl⟩, _, ⟨hd, rfl⟩, rfl⟩

/-! ## What the arguments tell -/

/-- The storage without the name of the instance profile, if it is one that a profile opens. -/
def unprofiled : Storage → Storage
  | s3 bucket (.profile _) => s3 bucket (.profile none)
  | s => s

theorem rawArgs_unprofiled (s : Storage) : s.unprofiled.rawArgs = s.rawArgs := by
  unfold unprofiled
  split <;> rfl

theorem bounded_of_passes {s : Storage} (h : s.Passes) : s.tidy.place.Bounded := by
  cases s with
  | s3 bucket access => trivial
  | gcs bucket => trivial
  | lakeGen2 account container directory principal makesFileSystem =>
    obtain ⟨ha, hc, hd, -⟩ := h
    exact ⟨hc.not_mem (by decide), ha.not_mem (by decide), hd.imp_right And.left⟩
  | lakeGen1 resource directory settingPrefix principal =>
    obtain ⟨hr, hd, -⟩ := h
    exact ⟨hr.not_mem (by decide), hd.imp_right And.left⟩
  | blob account container directory access secret =>
    obtain ⟨ha, hc, hd⟩ := h
    exact ⟨hc.not_mem (by decide), ha.not_mem (by decide), hd.imp_right And.left⟩

/-- The settings of a first generation lake have a prefix that is known. -/
def HasKnownPrefix : Storage → Prop
  | lakeGen1 _ _ settingPrefix _ => settingPrefix ∈ settingPrefixes
  | _ => True

theorem hasKnownPrefix_of_passes {s : Storage} (h : s.Passes) : s.tidy.HasKnownPrefix := by
  cases s with
  | lakeGen1 resource directory settingPrefix principal => exact h.2.2.1
  | _ => trivial

theorem blobKey_ne {account container account' : String} :
    blobKey account container .accountKey ≠ blobKey account' container .sharedSignature := by
  unfold blobKey
  generalize blobHost account = host
  generalize blobHost account' = host'
  intro same
  have written := congrArg String.toList same
  simp only [String.toList_append] at written
  simp at written

def keys (s : Storage) : List String :=
  Keyed.keys s.bindings

theorem keys_nodup (s : Storage) : s.keys.Nodup := by
  unfold keys bindings S3Access.bindings
  repeat' split
  all_goals simp [Keyed.keys]

/-- The settings tell what the place leaves open, all but an instance profile. -/
theorem unprofiled_eq_of_bindings {s t : Storage} (hs : s.HasKnownPrefix) (ht : t.HasKnownPrefix)
    (places : s.place = t.place) (settings : Keyed.ofList s.bindings = Keyed.ofList t.bindings) :
    s.unprofiled = t.unprofiled := by
  -- Storages of one kind have the same keys in the same order, all but buckets with other ways of
  -- access and lakes with other prefixes: there a key that only one of the two has tells them apart.
  have told : s.keys = t.keys → s.bindings = t.bindings := fun same =>
    Keyed.eq_of_ofList_eq same s.keys_nodup settings
  have unknown : ∀ key, key ∉ s.keys ↔ key ∉ t.keys := fun key => by
    rw [keys, keys, ← Keyed.get?_ofList_eq_none_iff s.keys_nodup, settings,
      Keyed.get?_ofList_eq_none_iff t.keys_nodup]
  cases s with
  | s3 bucket access =>
    cases t with
    | s3 bucket' access' =>
      cases places
      cases access with
      | profile arn =>
        cases access' with
        | profile arn' => rfl
        | accessKey id' secret' =>
          exact absurd List.mem_cons_self ((unknown "fs.s3a.access.key").mp List.not_mem_nil)
      | accessKey id secret =>
        cases access' with
        | profile arn' =>
          exact absurd List.mem_cons_self ((unknown "fs.s3a.access.key").mpr List.not_mem_nil)
        | accessKey id' secret' =>
          have same := told rfl
          simp only [bindings, S3Access.bindings, List.cons.injEq, Prod.mk.injEq, true_and,
            and_true, Secret.placeholder_inj] at same
          rw [same.1, same.2]
    | _ => cases places
  | gcs bucket =>
    cases t with
    | gcs bucket' =>
      cases places
      rfl
    | _ => cases places
  | lakeGen2 account container directory principal makesFileSystem =>
    cases t with
    | lakeGen2 account' container' directory' principal' makesFileSystem' =>
      cases places
      have same := told rfl
      simp only [bindings, List.cons.injEq, Prod.mk.injEq, true_and, and_true,
        Secret.placeholder_inj, tokenUrlOf_inj] at same
      obtain ⟨client, secret, tenant, makes⟩ := same
      have makes : makesFileSystem = makesFileSystem' := by
        cases makesFileSystem <;> cases makesFileSystem' <;> simp at makes ⊢
      rw [Principal.ext tenant client secret, makes]
    | _ => cases places
  | lakeGen1 resource directory settingPrefix principal =>
    cases t with
    | lakeGen1 resource' directory' settingPrefix' principal' =>
      cases places
      have fronts : settingPrefix = settingPrefix' := by
        have adl := unknown "fs.adl.oauth2.client.id"
        simp only [HasKnownPrefix, settingPrefixes, List.mem_cons, List.not_mem_nil,
          or_false] at hs ht
        rcases hs with rfl | rfl <;> rcases ht with rfl | rfl
        · rfl
        · simp [keys, bindings] at adl
        · simp [keys, bindings] at adl
        · rfl
      subst fronts
      have same := told rfl
      simp only [bindings, List.cons.injEq, Prod.mk.injEq, true_and, and_true,
        Secret.placeholder_inj, tokenUrlOf_inj] at same
      obtain ⟨client, secret, tenant⟩ := same
      rw [Principal.ext tenant client secret]
    | _ => cases places
  | blob account container directory access secret =>
    cases t with
    | blob account' container' directory' access' secret' =>
      cases places
      have entries : [(blobKey account container access, secret.placeholder)] =
          [(blobKey account container access', secret'.placeholder)] :=
        congrArg Keyed.entries settings
      simp only [List.cons.injEq, Prod.mk.injEq, and_true] at entries
      obtain ⟨keys, secrets⟩ := entries
      rw [Secret.placeholder_inj.mp secrets]
      cases access <;> cases access'
      · rfl
      · exact absurd keys blobKey_ne
      · exact absurd keys.symm blobKey_ne
      · rfl
    | _ => cases places

end Storage

namespace Attachment

/-- An attachment has arguments when the texts of its storage pass and the further settings can be
put among those of the storage. -/
theorem args_eq_ok_iff {a : Attachment} {x : MountArgs} :
    a.args = .ok x ↔
      a.storage.Passes ∧ x.uri = a.storage.tidy.place.uri ∧
        addSettings (.ofList a.storage.tidy.bindings) a.extra.entries = .ok x.settings := by
  simp only [args, bind_eq_ok_iff, Storage.args_eq_ok_iff, pure, Except.pure, Except.ok.injEq]
  constructor
  · rintro ⟨_, ⟨passes, rfl⟩, settings, added, rfl⟩
    exact ⟨passes, rfl, added⟩
  · rintro ⟨passes, uri, added⟩
    exact ⟨_, ⟨passes, rfl⟩, x.settings, added, congrArg (MountArgs.mk · x.settings) uri.symm⟩

/-- Without further settings the arguments are those of the storage. -/
theorem eq_rawArgs_of_args {a : Attachment} {x : MountArgs} (h : a.args = .ok x)
    (none : a.extra = .empty) : x = a.storage.tidy.rawArgs := by
  obtain ⟨-, uri, added⟩ := args_eq_ok_iff.mp h
  rw [none] at added
  obtain ⟨source, settings⟩ := x
  obtain rfl : source = _ := uri
  obtain rfl := Except.ok.inj added
  rfl

/-- The URI tells where the data lies and nothing else; without further settings, the arguments as a
whole tell all texts of the storage but the blanks around them, and the name of an S3 instance
profile. -/
theorem arguments_tell_storage {a b : Attachment} {x y : MountArgs} (ha : a.args = .ok x)
    (hb : b.args = .ok y) :
    (x.uri = y.uri ↔ a.storage.tidy.place = b.storage.tidy.place) ∧
      (a.extra = .empty → b.extra = .empty →
        (x = y ↔ a.storage.tidy.unprofiled = b.storage.tidy.unprofiled)) := by
  obtain ⟨passesA, uriA, -⟩ := args_eq_ok_iff.mp ha
  obtain ⟨passesB, uriB, -⟩ := args_eq_ok_iff.mp hb
  have uris : x.uri = y.uri ↔ a.storage.tidy.place = b.storage.tidy.place := by
    rw [uriA, uriB]
    exact Place.uri_inj (Storage.bounded_of_passes passesA) (Storage.bounded_of_passes passesB)
  refine ⟨uris, fun noneA noneB => ?_⟩
  have rawA := eq_rawArgs_of_args ha noneA
  have rawB := eq_rawArgs_of_args hb noneB
  constructor
  · intro same
    refine Storage.unprofiled_eq_of_bindings (Storage.hasKnownPrefix_of_passes passesA)
      (Storage.hasKnownPrefix_of_passes passesB) (uris.mp (congrArg _ same)) ?_
    rw [rawA, rawB] at same
    exact congrArg MountArgs.settings same
  · intro same
    rw [rawA, rawB, ← Storage.rawArgs_unprofiled, same, Storage.rawArgs_unprofiled]

/-- A key and a shared signature for one container give the same URI and other settings, however the
account is padded. -/
theorem arguments_tell_storage_shared :
    let secret : Secret := ⟨"azure", "blob", rfl, rfl⟩
    let a : Attachment := ⟨.blob " acct" "data" "/in" .accountKey secret, .empty⟩
    let b : Attachment := ⟨.blob "acct\t" "data" "/in" .sharedSignature secret, .empty⟩
    ∃ x y, a.args = .ok x ∧ b.args = .ok y ∧ x.uri = y.uri ∧ x ≠ y := by
  intro secret a b
  have ha : a.args = .ok a.storage.tidy.rawArgs := by rfl
  have hb : b.args = .ok b.storage.tidy.rawArgs := by rfl
  obtain ⟨uris, whole⟩ := arguments_tell_storage ha hb
  have other : a.storage.tidy.unprofiled ≠ b.storage.tidy.unprofiled := by decide
  exact ⟨_, _, ha, hb, uris.mpr (by decide), fun same => other ((whole rfl rfl).mp same)⟩

end Attachment

end RemoteMounts
