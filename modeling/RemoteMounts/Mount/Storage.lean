import RemoteMounts.Cluster.Basic
import RemoteMounts.Credential.Secret
import RemoteMounts.Keyed

/-!
# Storage and how it is mounted

Each kind of storage has a place, given by names, and a way to prove the right to read it.  The
mount primitive takes a URI and a table of settings; `Attachment.args` makes them, and rejects names
that would change the URI's structure.
-/

namespace RemoteMounts

/-- How a cluster proves its right to read an S3 bucket: by its instance profile, which the request
may name, or by an access key whose secret half is kept remotely. -/
inductive S3Access
  | profile (arn : Option String)
  | accessKey (id : String) (secret : Secret)
deriving DecidableEq

/-- An application of a tenant, with the secret by which it signs in. -/
structure Principal where
  tenant : String
  client : String
  secret : Secret
deriving DecidableEq

/-- What the secret of a blob container is: the key of its account or a signature shared for it. -/
inductive BlobAccess
  | accountKey
  | sharedSignature
deriving DecidableEq, Inhabited, Repr

/-- Where data lies and how the right to read it is proved. -/
inductive Storage
  | s3 (bucket : String) (access : S3Access)
  | gcs (bucket : String)
  | lakeGen2 (account container directory : String) (principal : Principal)
      (makesFileSystem : Bool)
  | lakeGen1 (resource directory settingPrefix : String) (principal : Principal)
  | blob (account container directory : String) (access : BlobAccess) (secret : Secret)
deriving DecidableEq

structure MountArgs where
  uri : String
  settings : Keyed String
deriving DecidableEq

/-- Storage to be mounted, with further settings. -/
structure Attachment where
  storage : Storage
  extra : Keyed String := .empty
deriving DecidableEq

/-! ## The parts of a URI -/

/-- Whether the character would end or change a part of a URI. -/
def isUnfit (c : Char) : Bool :=
  Text.isBlank c || c = '"' || c = '\'' || c = '\\' || c = '/' || c = '@'

/-- A name without the blanks around it; it must not be empty and must not hold an unfit
character. -/
def nameIn (field value : String) : Except Invalid String :=
  if Text.trim value = "" then .error (.emptyField field)
  else if (Text.trim value).toList.any isUnfit then .error (.badCharacters field value)
  else .ok (Text.trim value)

/-- A directory without the blanks around it: either none, or one that begins with a slash and holds
no quote and no backslash. -/
def directoryIn (value : String) : Except Invalid String :=
  let cs := (Text.trim value).toList
  if cs.isEmpty then .ok ""
  else if cs.head? ≠ some '/' ∨ cs.any (fun c => c = '"' || c = '\'' || c = '\\') then
    .error (.badDirectory value)
  else .ok (Text.trim value)

/-- The prefixes that the settings of a first generation lake may have. -/
def settingPrefixes : List String := ["fs.adl", "dfs.adls"]

/-- One of the prefixes without the blanks around it. -/
def settingPrefixIn (value : String) : Except Invalid String :=
  if Text.trim value ∈ settingPrefixes then .ok (Text.trim value)
  else .error (.badSettingPrefix value)

def Principal.tokenUrl (p : Principal) : Except Invalid String := do
  let tenant ← nameIn "tenant_id" p.tenant
  return "https://login.microsoftonline.com/" ++ tenant ++ "/oauth2/token"

/-! ## What the mount primitive is given -/

namespace Storage

def blobHost (account : String) : String :=
  account ++ ".blob.core.windows.net"

/-- The settings for an S3 bucket.  A profile needs none, but if it is named it must be one. -/
def s3Settings : S3Access → Except Invalid (Keyed String)
  | .profile none => .ok .empty
  | .profile (some arn) => do
    let _ ← ProfileArn.parse arn
    return .empty
  | .accessKey id secret => do
    let id ← nameIn "access_key" id
    return .ofList [("fs.s3a.access.key", id), ("fs.s3a.secret.key", secret.placeholder)]

def s3Args (bucket : String) (access : S3Access) : Except Invalid MountArgs := do
  let bucket ← nameIn "bucket_name" bucket
  let settings ← s3Settings access
  return ⟨"s3a://" ++ bucket, settings⟩

def gcsArgs (bucket : String) : Except Invalid MountArgs := do
  let bucket ← nameIn "bucket_name" bucket
  return ⟨"gs://" ++ bucket, .empty⟩

def lakeGen2Args (account container directory : String) (principal : Principal)
    (makesFileSystem : Bool) : Except Invalid MountArgs := do
  let account ← nameIn "storage_account_name" account
  let container ← nameIn "container_name" container
  let directory ← directoryIn directory
  let client ← nameIn "client_id" principal.client
  let tokenUrl ← principal.tokenUrl
  let settings := Keyed.ofList
    [("fs.azure.account.auth.type", "OAuth"),
      ("fs.azure.account.oauth.provider.type",
        "org.apache.hadoop.fs.azurebfs.oauth2.ClientCredsTokenProvider"),
      ("fs.azure.account.oauth2.client.id", client),
      ("fs.azure.account.oauth2.client.secret", principal.secret.placeholder),
      ("fs.azure.account.oauth2.client.endpoint", tokenUrl),
      ("fs.azure.createRemoteFileSystemDuringInitialization",
        if makesFileSystem then "true" else "false")]
  return ⟨"abfss://" ++ container ++ "@" ++ account ++ ".dfs.core.windows.net" ++ directory,
    settings⟩

def lakeGen1Args (resource directory settingPrefix : String) (principal : Principal) :
    Except Invalid MountArgs := do
  let resource ← nameIn "storage_resource_name" resource
  let directory ← directoryIn directory
  let front ← settingPrefixIn settingPrefix
  let client ← nameIn "client_id" principal.client
  let tokenUrl ← principal.tokenUrl
  let settings := Keyed.ofList
    [(front ++ ".oauth2.access.token.provider.type", "ClientCredential"),
      (front ++ ".oauth2.client.id", client),
      (front ++ ".oauth2.credential", principal.secret.placeholder),
      (front ++ ".oauth2.refresh.url", tokenUrl)]
  return ⟨"adl://" ++ resource ++ ".azuredatalakestore.net" ++ directory, settings⟩

def blobArgs (account container directory : String) (access : BlobAccess) (secret : Secret) :
    Except Invalid MountArgs := do
  let account ← nameIn "storage_account_name" account
  let container ← nameIn "container_name" container
  let directory ← directoryIn directory
  let key :=
    match access with
    | .accountKey => "fs.azure.account.key." ++ blobHost account
    | .sharedSignature => "fs.azure.sas." ++ container ++ "." ++ blobHost account
  return ⟨"wasbs://" ++ container ++ "@" ++ blobHost account ++ directory,
    .ofList [(key, secret.placeholder)]⟩

/-- The arguments for the storage, without further settings. -/
def args : Storage → Except Invalid MountArgs
  | s3 bucket access => s3Args bucket access
  | gcs bucket => gcsArgs bucket
  | lakeGen2 account container directory principal makesFileSystem =>
    lakeGen2Args account container directory principal makesFileSystem
  | lakeGen1 resource directory settingPrefix principal =>
    lakeGen1Args resource directory settingPrefix principal
  | blob account container directory access secret =>
    blobArgs account container directory access secret

end Storage

/-! ## Further settings -/

/-- The settings with the extra ones put among them, in the order in which these are given.  Blanks
around a key do not count; a key must not be blank and must not be there yet. -/
def addSettings (settings : Keyed String) :
    List (String × String) → Except Invalid (Keyed String)
  | [] => .ok settings
  | (key, value) :: rest =>
    if Text.trim key = "" then .error (.emptyField "extra_configs key")
    else if settings.contains (Text.trim key) then .error (.takenSetting (Text.trim key))
    else addSettings (settings.insert (Text.trim key) value) rest

namespace Attachment

/-- The arguments for the storage with the further settings. -/
def args (a : Attachment) : Except Invalid MountArgs := do
  let own ← a.storage.args
  let settings ← addSettings own.settings a.extra.entries
  return ⟨own.uri, settings⟩

/-- The instance profile that the request names, if it names one. -/
def profile (a : Attachment) : Except Invalid (Option ProfileArn) :=
  match a.storage with
  | .s3 _ (.profile (some arn)) => do
    let arn ← ProfileArn.parse arn
    return some arn
  | _ => .ok none

/-- Whether the cluster alone can prove the right to read, by a profile that is not named. -/
def relyOnCluster (a : Attachment) : Bool :=
  match a.storage with
  | .s3 _ (.profile none) => true
  | _ => false

def need (a : Attachment) : Except Invalid Need := do
  match ← a.profile with
  | some arn => return .profile arn
  | none =>
    match a.storage with
    | .s3 _ (.profile none) => return .anyProfile
    | _ => return .nothing

variable {a : Attachment}

theorem need_of_named {arn : ProfileArn} (h : a.profile = .ok (some arn)) :
    a.need = .ok (.profile arn) := by
  unfold need
  rw [h]
  rfl

/-- Where no profile is named, the need is one exactly if the cluster is relied on. -/
theorem need_of_unnamed (h : a.profile = .ok none) :
    a.need = .ok (if a.relyOnCluster then .anyProfile else .nothing) := by
  obtain ⟨storage, extra⟩ := a
  unfold need
  rw [h]
  cases storage with
  | s3 bucket access =>
    cases access with
    | profile arn => cases arn <;> rfl
    | accessKey => rfl
  | _ => rfl

theorem need_of_profile_eq_error {e : Invalid} (h : a.profile = .error e) : a.need = .error e := by
  unfold need
  rw [h]
  rfl

end Attachment

end RemoteMounts
