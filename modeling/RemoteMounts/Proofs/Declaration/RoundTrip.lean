import RemoteMounts.Declaration.Document

/-!
# Declarations are kept without loss

What is written of a declaration reads back as that declaration, whichever of its parts are left
out, so a declaration has one written form and whatever else reads as the same declaration is
brought into that form by writing it (`written_declaration_reads_back`).  A table with a field of
another name is refused, at the top and in each of the tables that hold a source.
-/

namespace RemoteMounts

namespace Record

def marked (marks : List (String × Bool)) : List String :=
  (marks.filter (·.2)).map (·.1)

end Record

/-! ## What is written of a source -/

open Record

def S3Source.leftOut (s : S3Source) : List String :=
  marked [("instance_profile", s.profile.isNone), ("access_key", s.accessKey.isNone),
    ("secret_scope", s.secretScope.isNone), ("secret_key", s.secretKey.isNone)]

def LakeGen1Source.leftOut (s : LakeGen1Source) : List String :=
  marked [("spark_conf_prefix", s.settingPrefix.isNone)]

theorem S3Source.get?_datum_eq_none_iff (s : S3Source) {key : String} (field : key ∈ names) :
    s.datum.get? key = none ↔ key ∈ s.leftOut := by
  rw [datum, get?_ofFields_eq_none_iff]
  simp only [names, List.mem_cons, List.not_mem_nil, or_false] at field
  rcases field with rfl | rfl | rfl | rfl | rfl
  all_goals simp [leftOut, marked, ofOption_eq_none_iff]

theorem GcsSource.get?_datum_ne_none (s : GcsSource) {key : String} (field : key ∈ names) :
    s.datum.get? key ≠ none := by
  rw [datum, ne_eq, get?_ofFields_eq_none_iff]
  simp only [names, List.mem_cons, List.not_mem_nil, or_false] at field
  simp [field]

theorem LakeGen2Source.get?_datum_ne_none (s : LakeGen2Source) {key : String}
    (field : key ∈ names) : s.datum.get? key ≠ none := by
  rw [datum, ne_eq, get?_ofFields_eq_none_iff]
  simp only [names, List.mem_cons, List.not_mem_nil, or_false] at field
  rcases field with rfl | rfl | rfl | rfl | rfl | rfl | rfl | rfl
  all_goals simp [PrincipalSource.fields]

theorem LakeGen1Source.get?_datum_eq_none_iff (s : LakeGen1Source) {key : String}
    (field : key ∈ names) : s.datum.get? key = none ↔ key ∈ s.leftOut := by
  rw [datum, get?_ofFields_eq_none_iff]
  simp only [names, List.mem_cons, List.not_mem_nil, or_false] at field
  rcases field with rfl | rfl | rfl | rfl | rfl | rfl | rfl
  all_goals simp [leftOut, marked, ofOption_eq_none_iff, PrincipalSource.fields]

theorem BlobSource.get?_datum_ne_none (s : BlobSource) {key : String} (field : key ∈ names) :
    s.datum.get? key ≠ none := by
  rw [datum, ne_eq, get?_ofFields_eq_none_iff]
  simp only [names, List.mem_cons, List.not_mem_nil, or_false] at field
  rcases field with rfl | rfl | rfl | rfl | rfl | rfl
  all_goals simp

/-! ## What is read of a source -/

section

variable (dialect : Dialect)

theorem PrincipalSource.ofValues?_fields (p : PrincipalSource) :
    ofValues? (some (.text p.tenant)) (some (.text p.client)) (some (.text p.secretScope))
      (some (.text p.secretKey)) = some p := rfl

theorem S3Source.ofDatum?_datum (s : S3Source) : ofDatum? dialect s.datum = some s := by
  have distinct : names.Nodup := by decide
  have read : values? dialect names s.datum = some _ := values?_ofFields dialect distinct
  rw [ofDatum?, read]
  simp [text?, optional?_text]

theorem GcsSource.ofDatum?_datum (s : GcsSource) : ofDatum? dialect s.datum = some s := by
  have distinct : names.Nodup := by decide
  have read : values? dialect names s.datum = some _ := values?_ofFields dialect distinct
  rw [ofDatum?, read]
  rfl

theorem LakeGen2Source.ofDatum?_datum (s : LakeGen2Source) :
    ofDatum? dialect s.datum = some s := by
  have distinct : names.Nodup := by decide
  have read : values? dialect names s.datum = some _ := values?_ofFields dialect distinct
  rw [ofDatum?, read]
  rfl

theorem LakeGen1Source.ofDatum?_datum (s : LakeGen1Source) :
    ofDatum? dialect s.datum = some s := by
  have distinct : names.Nodup := by decide
  have read : values? dialect names s.datum = some _ := values?_ofFields dialect distinct
  rw [ofDatum?, read]
  simp [text?, optional?_text, orElse, asText?, PrincipalSource.fields,
    PrincipalSource.ofValues?_fields]

theorem BlobAccess.ofLabel?_label (access : BlobAccess) : ofLabel? access.label = some access := by
  cases access with
  | accountKey => rfl
  | sharedSignature => rfl

theorem BlobSource.ofDatum?_datum (s : BlobSource) : ofDatum? dialect s.datum = some s := by
  have distinct : names.Nodup := by decide
  have read : values? dialect names s.datum = some _ := values?_ofFields dialect distinct
  rw [ofDatum?, read]
  simp [text?, orElse, asText?, BlobAccess.ofDatum?, BlobAccess.ofLabel?_label]

/-! ## The whole declaration -/

namespace Declaration

/-- The fields that hold a source, each with the names of the fields in it. -/
def sources : List (String × List String) :=
  [("s3", S3Source.names), ("gcs", GcsSource.names), ("adls_gen2", LakeGen2Source.names),
    ("adls_gen1", LakeGen1Source.names), ("azure_blob", BlobSource.names)]

/-- Of what parts a declaration is read. -/
theorem parts_of_ofDatum? {v : Datum} {d : Declaration} (h : ofDatum? dialect v = some d) :
    ∃ name cluster extra s3 gcs lakeGen2 lakeGen1 blob,
      values? dialect names v = some [name, cluster, extra, s3, gcs, lakeGen2, lakeGen1, blob] ∧
        text? name = some d.name ∧ optional? asText? cluster = some d.cluster ∧
        orElse .empty asTexts? extra = some d.extra ∧
        optional? (S3Source.ofDatum? dialect) s3 = some d.s3 ∧
        optional? (GcsSource.ofDatum? dialect) gcs = some d.gcs ∧
        optional? (LakeGen2Source.ofDatum? dialect) lakeGen2 = some d.lakeGen2 ∧
        optional? (LakeGen1Source.ofDatum? dialect) lakeGen1 = some d.lakeGen1 ∧
        optional? (BlobSource.ofDatum? dialect) blob = some d.blob := by
  unfold ofDatum? at h
  obtain ⟨values, hv, h⟩ := Option.bind_eq_some_iff.mp h
  split at h
  · rename_i name cluster extra s3 gcs lakeGen2 lakeGen1 blob
    refine ⟨name, cluster, extra, s3, gcs, lakeGen2, lakeGen1, blob, hv, ?_⟩
    obtain ⟨_, h₁, h⟩ := Option.bind_eq_some_iff.mp h
    obtain ⟨_, h₂, h⟩ := Option.bind_eq_some_iff.mp h
    obtain ⟨_, h₃, h⟩ := Option.bind_eq_some_iff.mp h
    obtain ⟨_, h₄, h⟩ := Option.bind_eq_some_iff.mp h
    obtain ⟨_, h₅, h⟩ := Option.bind_eq_some_iff.mp h
    obtain ⟨_, h₆, h⟩ := Option.bind_eq_some_iff.mp h
    obtain ⟨_, h₇, h⟩ := Option.bind_eq_some_iff.mp h
    obtain ⟨_, h₈, h⟩ := Option.bind_eq_some_iff.mp h
    cases h
    exact ⟨h₁, h₂, h₃, h₄, h₅, h₆, h₇, h₈⟩
  · cases h

/-- The table of extra settings is left out when it is empty, and is read as empty then. -/
theorem orElse_extra (t : Keyed String) :
    orElse .empty asTexts? (if t.size = 0 then none else some (.ofTexts t)) = some t := by
  by_cases h : t.size = 0
  · rw [if_pos h, Keyed.eq_empty_of_size h]
    rfl
  · rw [if_neg h, orElse, asTexts?_ofTexts]

theorem ofDatum?_datum (d : Declaration) : ofDatum? dialect d.datum = some d := by
  have distinct : names.Nodup := by decide
  have read : values? dialect names d.datum = some _ := values?_ofFields dialect distinct
  have s3 := optional?_ofOption (S3Source.ofDatum?_datum dialect) rfl d.s3
  have gcs := optional?_ofOption (GcsSource.ofDatum?_datum dialect) rfl d.gcs
  have lakeGen2 := optional?_ofOption (LakeGen2Source.ofDatum?_datum dialect) rfl d.lakeGen2
  have lakeGen1 := optional?_ofOption (LakeGen1Source.ofDatum?_datum dialect) rfl d.lakeGen1
  have blob := optional?_ofOption (BlobSource.ofDatum?_datum dialect) rfl d.blob
  rw [ofDatum?, read]
  simp [text?, optional?_text, orElse_extra, s3, gcs, lakeGen2, lakeGen1, blob]

def leftOut (d : Declaration) : List String :=
  marked [("cluster_id", d.cluster.isNone), ("extra_configs", d.extra.size = 0),
    ("s3", d.s3.isNone), ("gcs", d.gcs.isNone), ("adls_gen2", d.lakeGen2.isNone),
    ("adls_gen1", d.lakeGen1.isNone), ("azure_blob", d.blob.isNone)]

theorem get?_datum_eq_none_iff (d : Declaration) {key : String} (field : key ∈ names) :
    d.datum.get? key = none ↔ key ∈ d.leftOut := by
  rw [datum, get?_ofFields_eq_none_iff]
  simp only [names, List.mem_cons, List.not_mem_nil, or_false] at field
  rcases field with rfl | rfl | rfl | rfl | rfl | rfl | rfl | rfl
  all_goals simp [leftOut, marked, ofOption_eq_none_iff]

/-- A source with a field of another name makes the declaration unreadable. -/
theorem ofDatum?_of_stranger {source : String × List String} (kind : source ∈ sources)
    {entries fields : List (String × Datum)} {entry : String × Datum}
    (bound : entries.lookup source.1 = some (.table fields)) (mem : entry ∈ fields)
    (stranger : entry.1 ∉ source.2) : ofDatum? dialect (.table entries) = none := by
  cases read : ofDatum? dialect (.table entries) with
  | none => rfl
  | some d =>
    exfalso
    obtain ⟨name, cluster, extra, s3, gcs, lakeGen2, lakeGen1, blob, values, -, -, -, parts⟩ :=
      parts_of_ofDatum? dialect read
    have refused := values?_of_stranger dialect mem stranger
    obtain ⟨readS3, readGcs, readLakeGen2, readLakeGen1, readBlob⟩ := parts
    have looked := eq_of_values?_table values
    simp only [names, List.map_cons, List.map_nil, List.cons.injEq, and_true] at looked
    obtain ⟨-, -, -, rfl, rfl, rfl, rfl, rfl⟩ := looked
    simp only [sources, List.mem_cons, List.not_mem_nil, or_false] at kind
    rcases kind with rfl | rfl | rfl | rfl | rfl
    · rw [bound, optional?_table (by rw [S3Source.ofDatum?, refused]; rfl)] at readS3
      exact nomatch readS3
    · rw [bound, optional?_table (by rw [GcsSource.ofDatum?, refused]; rfl)] at readGcs
      exact nomatch readGcs
    · rw [bound, optional?_table (by rw [LakeGen2Source.ofDatum?, refused]; rfl)] at readLakeGen2
      exact nomatch readLakeGen2
    · rw [bound, optional?_table (by rw [LakeGen1Source.ofDatum?, refused]; rfl)] at readLakeGen1
      exact nomatch readLakeGen1
    · rw [bound, optional?_table (by rw [BlobSource.ofDatum?, refused]; rfl)] at readBlob
      exact nomatch readBlob

/-- What is written of a declaration leaves out just the fields without a value and empty extra
settings, and of a source just the fields without a value; a directory, a kind of access and a mark
for making a file system are always written.  It reads as that declaration in every notation, and so
makes the same request.  Whatever is read as a declaration is written in a form that reads as the
same one, and that is written again as it is.  A field of another name is refused wherever it stands
among the fields of a declaration or of a source. -/
theorem written_declaration_reads_back :
    ((∀ d : Declaration, ∀ key ∈ names, d.datum.get? key = none ↔ key ∈ d.leftOut) ∧
      (∀ s : S3Source, ∀ key ∈ S3Source.names, s.datum.get? key = none ↔ key ∈ s.leftOut) ∧
      (∀ s : GcsSource, ∀ key ∈ GcsSource.names, s.datum.get? key ≠ none) ∧
      (∀ s : LakeGen2Source, ∀ key ∈ LakeGen2Source.names, s.datum.get? key ≠ none) ∧
      (∀ s : LakeGen1Source, ∀ key ∈ LakeGen1Source.names,
        s.datum.get? key = none ↔ key ∈ s.leftOut) ∧
      ∀ s : BlobSource, ∀ key ∈ BlobSource.names, s.datum.get? key ≠ none) ∧
    (∀ d : Declaration, ofDatum? dialect d.datum = some d ∧
      (ofDatum? dialect d.datum).map request = some d.request) ∧
    (∀ v d, ofDatum? dialect v = some d →
      ofDatum? dialect d.datum = some d ∧
      (ofDatum? dialect d.datum).map datum = some d.datum) ∧
    (∀ before after key value, key ∉ names →
      ofDatum? dialect (.table (before ++ (key, value) :: after)) = none) ∧
    (∀ source ∈ sources, ∀ entries before after key value, key ∉ source.2 →
      entries.lookup source.1 = some (.table (before ++ (key, value) :: after)) →
      ofDatum? dialect (.table entries) = none) := by
  have back := ofDatum?_datum dialect
  refine ⟨⟨fun d _ => d.get?_datum_eq_none_iff, fun s _ => s.get?_datum_eq_none_iff,
    fun s _ => s.get?_datum_ne_none, fun s _ => s.get?_datum_ne_none,
    fun s _ => s.get?_datum_eq_none_iff, fun s _ => s.get?_datum_ne_none⟩, ?_, ?_, ?_, ?_⟩
  · intro d
    exact ⟨back d, by rw [back, Option.map_some]⟩
  · intro v d _
    exact ⟨back d, by rw [back, Option.map_some]⟩
  · intro before after key value stranger
    have mem : (key, value) ∈ before ++ (key, value) :: after := by simp
    rw [ofDatum?, values?_of_stranger dialect mem stranger]
    rfl
  · intro source kind entries before after key value stranger bound
    have mem : (key, value) ∈ before ++ (key, value) :: after := by simp
    exact ofDatum?_of_stranger dialect kind bound mem stranger

/-- A declaration in the form of a list, with a null and an empty table in it, is brought into the
written form; an unknown field beside the name or the bucket would not have been read. -/
theorem written_declaration_reads_back_list :
    let v : Datum := .list [.text "data", .null, .table [], .list [.text "bucket", .null]]
    let d : Declaration := { name := "data", s3 := some { bucket := "bucket" } }
    ofDatum? .json v = some d ∧
      d.datum = .table
        [("mount_name", .text "data"), ("s3", .table [("bucket_name", .text "bucket")])] ∧
      ofDatum? .json d.datum = some d ∧
      ofDatum? .json (.table [("mount_name", .text "data"), ("mode", .null)]) = none ∧
      ofDatum? .json (.table [("mount_name", .text "data"),
        ("s3", .table [("bucket_name", .text "bucket"), ("mode", .null)])]) = none := by
  intro v d
  obtain ⟨-, -, same, refused, refusedWithin⟩ := written_declaration_reads_back .json
  have read : ofDatum? .json v = some d := rfl
  refine ⟨read, rfl, (same v d read).1, refused [_] [] "mode" .null (by decide), ?_⟩
  exact refusedWithin ("s3", S3Source.names) (by decide) _ [_] [] "mode" .null (by decide) rfl

end Declaration

end

end RemoteMounts
