import RemoteMounts.Declaration.Basic
import RemoteMounts.Record

/-!
# Declarations as documents

How a declaration is written and read.  A value that may be left out is left out when there is none;
the directory, the kind of access and the mark for making a file system are always written.  Unknown
fields are refused.
-/

namespace RemoteMounts

open Record

/-! ## Fields -/

namespace PrincipalSource

/-- The fields of an application among those of its source. -/
def fields (p : PrincipalSource) : List (String × Option Datum) :=
  [("tenant_id", some (.text p.tenant)), ("client_id", some (.text p.client)),
    ("client_secret_scope", some (.text p.secretScope)),
    ("client_secret_key", some (.text p.secretKey))]

def ofValues? (tenant client scope key : Option Datum) : Option PrincipalSource := do
  return ⟨← text? tenant, ← text? client, ← text? scope, ← text? key⟩

end PrincipalSource

namespace S3Source

def names : List String :=
  ["bucket_name", "instance_profile", "access_key", "secret_scope", "secret_key"]

def datum (s : S3Source) : Datum :=
  ofFields
    [("bucket_name", some (.text s.bucket)), ("instance_profile", ofOption .text s.profile),
      ("access_key", ofOption .text s.accessKey), ("secret_scope", ofOption .text s.secretScope),
      ("secret_key", ofOption .text s.secretKey)]

def ofDatum? (dialect : Dialect) (d : Datum) : Option S3Source := do
  match ← values? dialect names d with
  | [bucket, profile, accessKey, scope, key] =>
    return ⟨← text? bucket, ← optional? asText? profile, ← optional? asText? accessKey,
      ← optional? asText? scope, ← optional? asText? key⟩
  | _ => none

end S3Source

namespace GcsSource

def names : List String := ["bucket_name"]

def datum (s : GcsSource) : Datum :=
  ofFields [("bucket_name", some (.text s.bucket))]

def ofDatum? (dialect : Dialect) (d : Datum) : Option GcsSource := do
  match ← values? dialect names d with
  | [bucket] => return ⟨← text? bucket⟩
  | _ => none

end GcsSource

namespace LakeGen2Source

def names : List String :=
  ["storage_account_name", "container_name", "directory", "tenant_id", "client_id",
    "client_secret_scope", "client_secret_key", "initialize_file_system"]

def datum (s : LakeGen2Source) : Datum :=
  ofFields
    ([("storage_account_name", some (.text s.account)),
      ("container_name", some (.text s.container)),
      ("directory", some (.text s.directory))] ++ s.principal.fields ++
      [("initialize_file_system", some (.bool s.makesFileSystem))])

def ofDatum? (dialect : Dialect) (d : Datum) : Option LakeGen2Source := do
  match ← values? dialect names d with
  | [account, container, directory, tenant, client, scope, key, makes] =>
    return ⟨← text? account, ← text? container, ← orElse "" asText? directory,
      ← PrincipalSource.ofValues? tenant client scope key, ← orElse false asBool? makes⟩
  | _ => none

end LakeGen2Source

namespace LakeGen1Source

def names : List String :=
  ["storage_resource_name", "directory", "spark_conf_prefix", "tenant_id", "client_id",
    "client_secret_scope", "client_secret_key"]

def datum (s : LakeGen1Source) : Datum :=
  ofFields
    ([("storage_resource_name", some (.text s.resource)), ("directory", some (.text s.directory)),
      ("spark_conf_prefix", ofOption .text s.settingPrefix)] ++ s.principal.fields)

def ofDatum? (dialect : Dialect) (d : Datum) : Option LakeGen1Source := do
  match ← values? dialect names d with
  | [resource, directory, front, tenant, client, scope, key] =>
    return ⟨← text? resource, ← orElse "" asText? directory, ← optional? asText? front,
      ← PrincipalSource.ofValues? tenant client scope key⟩
  | _ => none

end LakeGen1Source

namespace BlobAccess

def label : BlobAccess → String
  | accountKey => "ACCESS_KEY"
  | sharedSignature => "SAS"

def ofLabel? (s : String) : Option BlobAccess :=
  if s = accountKey.label then some accountKey
  else if s = sharedSignature.label then some sharedSignature
  else none

/-- Reads a kind of access, which is written as its name, or as a table that binds the name to
nothing. -/
def ofDatum? (dialect : Dialect) : Datum → Option BlobAccess
  | .text s => ofLabel? s
  | .table [(s, d)] => if dialect.isEmptyChoice d then ofLabel? s else none
  | _ => none

end BlobAccess

namespace BlobSource

def names : List String :=
  ["storage_account_name", "container_name", "directory", "auth_type", "token_secret_scope",
    "token_secret_key"]

def datum (s : BlobSource) : Datum :=
  ofFields
    [("storage_account_name", some (.text s.account)), ("container_name", some (.text s.container)),
      ("directory", some (.text s.directory)), ("auth_type", some (.text s.access.label)),
      ("token_secret_scope", some (.text s.secretScope)),
      ("token_secret_key", some (.text s.secretKey))]

def ofDatum? (dialect : Dialect) (d : Datum) : Option BlobSource := do
  match ← values? dialect names d with
  | [account, container, directory, access, scope, key] =>
    return ⟨← text? account, ← text? container, ← orElse "" asText? directory,
      ← orElse .accountKey (BlobAccess.ofDatum? dialect) access, ← text? scope, ← text? key⟩
  | _ => none

end BlobSource

/-! ## The whole declaration -/

namespace Declaration

def names : List String :=
  ["mount_name", "cluster_id", "extra_configs", "s3", "gcs", "adls_gen2", "adls_gen1", "azure_blob"]

def datum (d : Declaration) : Datum :=
  ofFields
    [("mount_name", some (.text d.name)), ("cluster_id", ofOption .text d.cluster),
      ("extra_configs", if d.extra.size = 0 then none else some (.ofTexts d.extra)),
      ("s3", ofOption S3Source.datum d.s3), ("gcs", ofOption GcsSource.datum d.gcs),
      ("adls_gen2", ofOption LakeGen2Source.datum d.lakeGen2),
      ("adls_gen1", ofOption LakeGen1Source.datum d.lakeGen1),
      ("azure_blob", ofOption BlobSource.datum d.blob)]

def ofDatum? (dialect : Dialect) (d : Datum) : Option Declaration := do
  match ← values? dialect names d with
  | [name, cluster, extra, s3, gcs, lakeGen2, lakeGen1, blob] =>
    return ⟨← text? name, ← optional? asText? cluster, ← orElse .empty asTexts? extra,
      ← optional? (S3Source.ofDatum? dialect) s3, ← optional? (GcsSource.ofDatum? dialect) gcs,
      ← optional? (LakeGen2Source.ofDatum? dialect) lakeGen2,
      ← optional? (LakeGen1Source.ofDatum? dialect) lakeGen1,
      ← optional? (BlobSource.ofDatum? dialect) blob⟩
  | _ => none

end Declaration

end RemoteMounts
