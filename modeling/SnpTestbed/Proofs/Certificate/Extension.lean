import SnpTestbed.Proofs.Certificate.RoundTrip

/-!
# What an extended certificate table reads back as

Whatever is read from a table has the kind of its GUID, and that GUID is not nil, so
that building such entries again loses none of them. An extended table therefore reads
as the entries of the table before, without their platform info, and the new record
behind them.

Extending is refused only where reading is, or where the table would outgrow its words;
and since the old records are dropped, only the last extension of a table shows.
-/
namespace SnpTestbed

/-- The certificate is one that reading a table can give: its kind is that of its GUID, and its
GUID ends no table. -/
structure Certificate.Readable (certificate : Certificate) : Prop where
  recognized : Certificate.ofGuid certificate.kind.guid certificate.data = certificate
  named : certificate.kind.guid.isNil = false

namespace CertificateTable

/-- What rows of a table locate can be read. -/
theorem readable_of_entries {table : Bytes} {written : List Row}
    {certificates : List Certificate} (read : entries table written = .ok certificates) :
    ∀ certificate ∈ certificates, certificate.Readable := by
  induction written generalizing certificates with
  | nil => contradiction
  | cons row rest hypothesis =>
    rw [entries] at read
    split at read
    · injection read with read
      simp [← read]
    · next named =>
      rw [entry] at read
      split at read
      · cases later : entries table rest with
        | error fault =>
          rw [later] at read
          contradiction
        | ok others =>
          rw [later] at read
          injection read with read
          rw [← read]
          refine List.forall_mem_cons.mpr ⟨⟨?_, ?_⟩, hypothesis later⟩
          · rw [Certificate.guid_kind_ofGuid, Certificate.data_ofGuid]
          · rw [Certificate.guid_kind_ofGuid]
            exact Bool.eq_false_iff.mpr named
      · contradiction

theorem readable_of_parse {table : Bytes} {certificates : List Certificate}
    (read : parse table = .ok certificates) :
    ∀ certificate ∈ certificates, certificate.Readable := by
  unfold parse at read
  split at read
  · injection read with read
    simp [← read]
  · exact readable_of_entries read

/-- A table built of certificates that can be read reads as them. -/
theorem parse_of_build_readable {certificates : List Certificate} {table : Bytes}
    (built : build certificates = .ok table)
    (readable : ∀ certificate ∈ certificates, certificate.Readable) :
    parse table = .ok certificates := by
  have whole : visible certificates = certificates :=
    visible_eq_self_iff.mpr fun certificate member => (readable certificate member).named
  rw [parse_of_build built, whole]
  refine congrArg Except.ok ?_
  refine (List.map_congr_left fun certificate member => ?_).trans (List.map_id _)
  exact (readable certificate member).recognized

/-- The entries of a table with `info` in place of their platform info. -/
def withInfo (certificates : List Certificate) (info : PlatformInfo) : List Certificate :=
  certificates.filter (fun certificate => certificate.kind ≠ .platformInfo) ++
    [⟨.platformInfo, info.bytes⟩]

theorem readable_of_mem_withInfo {certificates : List Certificate} {info : PlatformInfo}
    (readable : ∀ certificate ∈ certificates, certificate.Readable) :
    ∀ certificate ∈ withInfo certificates info, certificate.Readable := by
  intro certificate member
  rcases List.mem_append.mp member with kept | added
  · exact readable certificate (List.mem_filter.mp kept).1
  · rw [List.mem_singleton.mp added]
    exact ⟨rfl, rfl⟩

/-- A table is extended by reading it and building it anew, with the record in place of others. -/
theorem extend_eq_build {table : Bytes} {certificates : List Certificate}
    (read : parse table = .ok certificates) (info : PlatformInfo) :
    extend table info = build (withInfo certificates info) := by
  rw [extend, read]
  rfl

/-- An extended table reads as the entries before, with the new record in place of the old ones. -/
theorem parse_of_extend {table longer : Bytes} {info : PlatformInfo}
    (extended : extend table info = .ok longer) :
    ∃ certificates, parse table = .ok certificates ∧
      parse longer = .ok (withInfo certificates info) := by
  cases read : parse table with
  | error fault =>
    rw [extend, read] at extended
    contradiction
  | ok certificates =>
    rw [extend_eq_build read] at extended
    exact ⟨certificates, rfl,
      parse_of_build_readable extended (readable_of_mem_withInfo (readable_of_parse read))⟩

theorem ne_empty_of_readable {certificate : Certificate} (readable : certificate.Readable) :
    certificate.kind ≠ .empty := by
  intro isEmpty
  have named := readable.named
  rw [isEmpty] at named
  exact absurd named (by decide)

/-- A table that can be read can be extended, unless it would outgrow its words. -/
theorem extend_of_small {table : Bytes} {certificates : List Certificate} {info : PlatformInfo}
    (read : parse table = .ok certificates)
    (small : builtLength (withInfo certificates info) < UInt32.size) :
    ∃ longer, extend table info = .ok longer ∧
      longer.length = builtLength (withInfo certificates info) := by
  have named : ∀ certificate ∈ withInfo certificates info, certificate.kind ≠ .empty :=
    fun certificate member =>
      ne_empty_of_readable (readable_of_mem_withInfo (readable_of_parse read) certificate member)
  obtain ⟨longer, built⟩ := build_of_small named small
  exact ⟨longer, (extend_eq_build read info).trans built, length_of_build built⟩

/-- Of two records, only the later one is kept. -/
theorem withInfo_withInfo (certificates : List Certificate) (earlier later : PlatformInfo) :
    withInfo (withInfo certificates earlier) later = withInfo certificates later := by
  have dropped : [(⟨.platformInfo, earlier.bytes⟩ : Certificate)].filter
      (fun certificate => certificate.kind ≠ .platformInfo) = [] := by simp
  rw [withInfo, withInfo, List.filter_append, dropped, List.append_nil, List.filter_filter]
  simp only [Bool.and_self]
  rfl

/-- Extending an extended table comes to extending the table that it was made of. -/
theorem extend_of_extend {table longer : Bytes} {earlier : PlatformInfo}
    (extended : extend table earlier = .ok longer) (later : PlatformInfo) :
    extend longer later = extend table later := by
  obtain ⟨certificates, read, readLonger⟩ := parse_of_extend extended
  rw [extend_eq_build readLonger, extend_eq_build read, withInfo_withInfo]

/-- Extending fails as reading does. Any table that reads, however its rows overlap or repeat, is
extended to one that reads as the other entries in their order, then the record; extending that
one again leaves no trace of the first time. -/
theorem extend_replaces (table : Bytes) (info : PlatformInfo) :
    (∀ fault, parse table = .error fault → extend table info = .error fault) ∧
    ∀ certificates, parse table = .ok certificates →
      let extended := certificates.filter (fun certificate => certificate.kind ≠ .platformInfo) ++
        [⟨.platformInfo, info.bytes⟩]
      builtLength extended < UInt32.size →
      ∃ longer, extend table info = .ok longer ∧ longer.length = builtLength extended ∧
        parse longer = .ok extended ∧
        ∀ later, extend longer later = extend table later := by
  constructor
  · intro fault refused
    rw [extend, refused]
    rfl
  · intro certificates read extended small
    obtain ⟨longer, done, sized⟩ := extend_of_small read small
    obtain ⟨others, readToo, readLonger⟩ := parse_of_extend done
    rw [read] at readToo
    injection readToo with same
    rw [← same] at readLonger
    exact ⟨longer, done, sized, readLonger, extend_of_extend done⟩

/-- A table with two records, one with its data in a row behind the end of the rows, and with a
certificate whose data lie in the first row. -/
def aliasedTable : Bytes :=
  rowBytes CertificateKind.platformInfo.guid 96 1 ++ rowBytes CertificateKind.ark.guid 0 3 ++
    rowBytes CertificateKind.platformInfo.guid 0 0 ++ List.replicate rowSize 0 ++
    rowBytes CertificateKind.crl.guid 0 4

theorem extend_replaces_aliased :
    parse aliasedTable =
        .ok [⟨.platformInfo, [0x92]⟩, ⟨.ark, [0xec, 0xae, 0x0c]⟩, ⟨.platformInfo, []⟩] ∧
      ∃ longer, extend aliasedTable ⟨8, 0x00A00F10⟩ = .ok longer ∧ longer.length = 83 ∧
        parse longer = .ok [⟨.ark, [0xec, 0xae, 0x0c]⟩,
          ⟨.platformInfo, [8, 0, 0, 0, 0x10, 0x0F, 0xA0, 0]⟩] ∧
        extend longer ⟨8, 0x00A10F10⟩ = extend aliasedTable ⟨8, 0x00A10F10⟩ := by
  have read : parse aliasedTable =
      .ok [⟨.platformInfo, [0x92]⟩, ⟨.ark, [0xec, 0xae, 0x0c]⟩, ⟨.platformInfo, []⟩] := by
    cbv
  obtain ⟨longer, extended, sized, readLonger, again⟩ :=
    (extend_replaces aliasedTable ⟨8, 0x00A00F10⟩).2 _ read (by decide)
  exact ⟨read, longer, extended, sized, readLonger, again _⟩

end CertificateTable

end SnpTestbed
