import RemoteMounts.Mount.Request

/-!
# Declarations

A declaration is what is written down of a mount between runs: its name, the cluster it is bound to,
and one table for the kind of storage.  `Declaration.request` makes the request of it; the blanks
around a text never matter there, and a blank text counts as none where there may be none.
-/

namespace RemoteMounts

structure S3Source where
  bucket : String
  profile : Option String := none
  accessKey : Option String := none
  secretScope : Option String := none
  secretKey : Option String := none
deriving DecidableEq, Inhabited

structure GcsSource where
  bucket : String
deriving DecidableEq, Inhabited

structure PrincipalSource where
  tenant : String
  client : String
  secretScope : String
  secretKey : String
deriving DecidableEq, Inhabited

structure LakeGen2Source where
  account : String
  container : String
  directory : String := ""
  principal : PrincipalSource
  makesFileSystem : Bool := false
deriving DecidableEq, Inhabited

structure LakeGen1Source where
  resource : String
  directory : String := ""
  settingPrefix : Option String := none
  principal : PrincipalSource
deriving DecidableEq, Inhabited

structure BlobSource where
  account : String
  container : String
  directory : String := ""
  access : BlobAccess := .accountKey
  secretScope : String
  secretKey : String
deriving DecidableEq, Inhabited

/-- What is written down of a mount. -/
structure Declaration where
  name : String
  cluster : Option String := none
  extra : Keyed String := .empty
  s3 : Option S3Source := none
  gcs : Option GcsSource := none
  lakeGen2 : Option LakeGen2Source := none
  lakeGen1 : Option LakeGen1Source := none
  blob : Option BlobSource := none
deriving DecidableEq

/-! ## The request that is declared -/

def PrincipalSource.principal (p : PrincipalSource) : Except Invalid Principal := do
  return ⟨p.tenant, p.client, ← Secret.make p.secretScope p.secretKey⟩

/-- The declared S3 storage.  Either a profile or all three parts of an access key may be there, or
nothing, when the cluster has a profile. -/
def S3Source.storage (s : S3Source) : Except Invalid Storage :=
  let filled (o : Option String) : Option String := o.bind Text.filled?
  match filled s.profile, filled s.accessKey, filled s.secretScope, filled s.secretKey with
  | profile, none, none, none => return .s3 s.bucket (.profile profile)
  | some _, _, _, _ => .error .mixedCredentials
  | none, some id, some scope, some key => do
    return .s3 s.bucket (.accessKey id (← Secret.make scope key))
  | none, _, _, _ => .error .partialAccessKeys

def LakeGen2Source.storage (s : LakeGen2Source) : Except Invalid Storage := do
  return .lakeGen2 s.account s.container s.directory (← s.principal.principal) s.makesFileSystem

/-- The declared storage of a first generation lake; its settings begin with `fs.adl` unless another
prefix is declared. -/
def LakeGen1Source.storage (s : LakeGen1Source) : Except Invalid Storage := do
  return .lakeGen1 s.resource s.directory (s.settingPrefix.getD "fs.adl") (← s.principal.principal)

def BlobSource.storage (s : BlobSource) : Except Invalid Storage := do
  return .blob s.account s.container s.directory s.access (← Secret.make s.secretScope s.secretKey)

namespace Declaration

/-- The storage that each declared source stands for, in a fixed order of their kinds. -/
def storages (d : Declaration) : List (Except Invalid Storage) :=
  (d.s3.map S3Source.storage).toList ++ (d.gcs.map fun s => .ok (.gcs s.bucket)).toList ++
    (d.lakeGen2.map LakeGen2Source.storage).toList ++
    (d.lakeGen1.map LakeGen1Source.storage).toList ++ (d.blob.map BlobSource.storage).toList

def storage (d : Declaration) : Except Invalid Storage :=
  match d.storages with
  | [] => .error .noSource
  | [s] => s
  | ss => .error (.manySources ss.length)

def request (d : Declaration) : Except Invalid Request := do
  let name ← MountName.ofText (Text.trim d.name)
  let storage ← d.storage
  let r : Request := ⟨name, d.cluster.bind Text.filled?, ⟨storage, d.extra⟩⟩
  r.check
  return r

end Declaration

end RemoteMounts
