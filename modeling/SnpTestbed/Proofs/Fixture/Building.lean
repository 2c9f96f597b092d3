import SnpTestbed.Fixture.Device
import SnpTestbed.Proofs.FirstFailure
import SnpTestbed.Proofs.Report.Resigning
import SnpTestbed.Proofs.Report.Served
import SnpTestbed.Proofs.Session.DerivedKeys
import SnpTestbed.Proofs.Text.Hex

/-!
# Devices as their fixtures describe them

A fixture is built by two passes that stop at the first failure, and what they program goes
to catalogs whose keys are texts. Here both are told in terms of the fixture's own texts:
`DeviceFixture.Fits` and `DeviceFixture.Offence` say when a device is built and what stops
it otherwise, and `DeviceFixture.Programs` says how a built device answers, by the last
report that names the data and the last key of the same fields.
-/
namespace SnpTestbed

/-- A text of this many bytes. -/
def FitsBlock (size : Nat) (text : String) : Prop :=
  ∃ block : Block size, Hex.decode text = .ok block.val

/-- What is wrong with a text that is no block of its size: the text itself, or its length. -/
inductive BlockOffence (what : String) (size : Nat) (text : String) : GuestError → Prop
  | undecodable {fault : Hex.Fault} (refused : Hex.decode text = .error fault) :
    BlockOffence what size text (.input (.hex fault))
  | missized {bytes : Bytes} (read : Hex.decode text = .ok bytes) (missized : bytes.length ≠ size) :
    BlockOffence what size text (.input (.wrongSize what bytes.length size))

namespace InputFault

variable {text what : String} {size : Nat} {error : GuestError}

theorem decodeHex_eq_ok_iff {bytes : Bytes} :
    decodeHex text = .ok bytes ↔ Hex.decode text = .ok bytes := by
  unfold decodeHex
  cases Hex.decode text with
  | error fault => exact iff_of_false nofun nofun
  | ok read => simp only [Except.mapError, Except.ok.injEq]

theorem decodeHex_eq_error_iff :
    decodeHex text = .error error ↔
      ∃ fault, Hex.decode text = .error fault ∧ error = .input (.hex fault) := by
  unfold decodeHex
  cases Hex.decode text with
  | error fault => simp only [Except.mapError, Except.error.injEq, exists_eq_left', eq_comm]
  | ok read => exact iff_of_false nofun nofun

theorem decodeBlock_eq_bind :
    decodeBlock what size text = (decodeHex text).bind fun bytes =>
      match Block.ofBytes? size bytes with
      | some block => .ok block
      | none => .error (.input (.wrongSize what bytes.length size)) :=
  rfl

theorem decodeBlock_eq_ok_iff {block : Block size} :
    decodeBlock what size text = .ok block ↔ Hex.decode text = .ok block.val := by
  rw [decodeBlock_eq_bind, FirstFailure.bind_eq_ok_iff]
  simp only [decodeHex_eq_ok_iff]
  constructor
  · rintro ⟨bytes, read, sized⟩
    rw [read]
    by_cases exact : bytes.length = size
    · simp only [Block.ofBytes?, dif_pos exact, Except.ok.injEq] at sized
      rw [← sized]
    · simp only [Block.ofBytes?, dif_neg exact, reduceCtorEq] at sized
  · intro read
    refine ⟨block.val, read, ?_⟩
    simp only [Block.ofBytes?, dif_pos block.property]

theorem decodeBlock_eq_error_iff :
    decodeBlock what size text = .error error ↔ BlockOffence what size text error := by
  rw [decodeBlock_eq_bind, FirstFailure.bind_eq_error_iff]
  simp only [decodeHex_eq_ok_iff, decodeHex_eq_error_iff]
  constructor
  · rintro (⟨fault, refused, rfl⟩ | ⟨bytes, read, sized⟩)
    · exact .undecodable refused
    · by_cases exact : bytes.length = size
      · simp only [Block.ofBytes?, dif_pos exact, reduceCtorEq] at sized
      · simp only [Block.ofBytes?, dif_neg exact, Except.error.injEq] at sized
        rw [← sized]
        exact .missized read exact
  · rintro (⟨refused⟩ | ⟨read, missized⟩)
    · exact .inl ⟨_, refused, rfl⟩
    · refine .inr ⟨_, read, ?_⟩
      simp only [Block.ofBytes?, dif_neg missized]

end InputFault

namespace ReportFixture

/-- A report for these data. -/
def Names (fixture : ReportFixture) (data : Report.Data) : Prop :=
  Hex.decode fixture.data = .ok data.val

/-- The body that a report for these data has: its own, or else one that is made for the data. -/
def Describes (fixture : ReportFixture) (data : Report.Data) (body : Report.Body) : Prop :=
  match fixture.body with
  | some text => Hex.decode text = .ok body.val
  | none => body = Report.template data

/-- A report whose data and, where there is one, whose body have their sizes. -/
def Fits (fixture : ReportFixture) : Prop :=
  FitsBlock Report.dataSize fixture.data ∧
    ∀ text, fixture.body = some text → FitsBlock Report.size text

/-- What is wrong with a report, its data before its body. -/
inductive Offence (fixture : ReportFixture) : GuestError → Prop
  | data {error : GuestError}
    (offends : BlockOffence "report data" Report.dataSize fixture.data error) :
    Offence fixture error
  | body {error : GuestError} {text : String} (fits : FitsBlock Report.dataSize fixture.data)
    (present : fixture.body = some text) (offends : BlockOffence "report" Report.size text error) :
    Offence fixture error

variable {fixture other : ReportFixture} {data : Report.Data}

theorem names_iff : fixture.Names data ↔ fixture.data.toLower = Hex.encode data.val :=
  Hex.decode_eq_ok_iff

/-- Texts of data that differ in letter case alone name the same data. -/
theorem names_congr (same : fixture.data.toLower = other.data.toLower) :
    fixture.Names data ↔ other.Names data := by
  rw [names_iff, names_iff, same]

/-- The body that is programmed for these data. -/
def bodyFor (fixture : ReportFixture) (data : Report.Data) : Except GuestError Report.Body :=
  match fixture.body with
  | some text => InputFault.decodeBlock "report" Report.size text
  | none => .ok (Report.template data)

theorem canned_eq_bind :
    fixture.canned =
      (InputFault.decodeBlock "report data" Report.dataSize fixture.data).bind fun data =>
        (fixture.bodyFor data).map fun body => (data, ⟨body, fixture.exit, fixture.status⟩) := by
  obtain ⟨_, body, _, _⟩ := fixture
  cases body with
  | none => rfl
  | some text => rfl

theorem bodyFor_eq_ok_iff {body : Report.Body} :
    fixture.bodyFor data = .ok body ↔ fixture.Describes data body := by
  unfold bodyFor Describes
  cases fixture.body with
  | none => rw [Except.ok.injEq, eq_comm]
  | some text => exact InputFault.decodeBlock_eq_ok_iff

theorem bodyFor_eq_error_iff {error : GuestError} :
    fixture.bodyFor data = .error error ↔
      ∃ text, fixture.body = some text ∧ BlockOffence "report" Report.size text error := by
  unfold bodyFor
  cases fixture.body with
  | none => exact iff_of_false nofun nofun
  | some text => simp only [InputFault.decodeBlock_eq_error_iff, Option.some_inj, exists_eq_left']

theorem Names.unique {first second : Report.Data} (names : fixture.Names first)
    (namesToo : fixture.Names second) : first = second := by
  have same : Except.ok first.val = Except.ok second.val := names.symm.trans namesToo
  exact Subtype.ext (Except.ok.inj same)

theorem canned_eq_ok_iff {canned : CannedReport} :
    fixture.canned = .ok (data, canned) ↔
      fixture.Names data ∧ fixture.Describes data canned.body ∧ fixture.exit = canned.exit ∧
        fixture.status = canned.status := by
  obtain ⟨body, exit, status⟩ := canned
  rw [canned_eq_bind, FirstFailure.bind_eq_ok_iff]
  simp only [FirstFailure.map_eq_ok_iff, InputFault.decodeBlock_eq_ok_iff, bodyFor_eq_ok_iff,
    Prod.mk.injEq, CannedReport.mk.injEq]
  constructor
  · rintro ⟨_, names, _, describes, rfl, rfl, exits, statuses⟩
    exact ⟨names, describes, exits, statuses⟩
  · rintro ⟨names, describes, exits, statuses⟩
    exact ⟨data, names, body, describes, rfl, rfl, exits, statuses⟩

theorem canned_eq_error_iff {error : GuestError} :
    fixture.canned = .error error ↔ fixture.Offence error := by
  rw [canned_eq_bind, FirstFailure.bind_eq_error_iff]
  simp only [FirstFailure.map_eq_error_iff, InputFault.decodeBlock_eq_ok_iff,
    InputFault.decodeBlock_eq_error_iff, bodyFor_eq_error_iff]
  constructor
  · rintro (offends | ⟨data, names, text, present, offends⟩)
    · exact .data offends
    · exact .body ⟨data, names⟩ present offends
  · rintro (offends | ⟨⟨data, names⟩, present, offends⟩)
    · exact .inl offends
    · exact .inr ⟨data, names, _, present, offends⟩

theorem exists_describes_iff :
    (∃ body, fixture.Describes data body) ↔
      ∀ text, fixture.body = some text → FitsBlock Report.size text := by
  unfold Describes
  cases fixture.body with
  | none => exact iff_of_true ⟨_, rfl⟩ nofun
  | some text => simp only [Option.some_inj, forall_eq', FitsBlock]

theorem exists_canned_iff : (∃ made, fixture.canned = .ok made) ↔ fixture.Fits := by
  constructor
  · rintro ⟨⟨data, canned⟩, made⟩
    obtain ⟨names, describes, _⟩ := canned_eq_ok_iff.mp made
    exact ⟨⟨data, names⟩, exists_describes_iff.mp ⟨_, describes⟩⟩
  · rintro ⟨⟨data, names⟩, fits⟩
    obtain ⟨body, describes⟩ := exists_describes_iff.mpr fits
    exact ⟨(data, ⟨body, fixture.exit, fixture.status⟩),
      canned_eq_ok_iff.mpr ⟨names, describes, rfl, rfl⟩⟩

end ReportFixture

namespace KeyFixture

/-- A key for this request: the five fields are the same. -/
structure Names (fixture : KeyFixture) (request : DerivedKeyRequest) : Prop where
  root : fixture.root = request.root
  fields : fixture.fields = request.fields
  vmpl : fixture.vmpl = request.vmpl
  guestVersion : fixture.guestVersion = request.guestVersion
  tcbVersion : fixture.tcbVersion = request.tcbVersion

variable {fixture : KeyFixture}

theorem names_request (fixture : KeyFixture) : fixture.Names fixture.request :=
  ⟨rfl, rfl, rfl, rfl, rfl⟩

theorem Names.request_eq {request : DerivedKeyRequest} (names : fixture.Names request) :
    fixture.request = request := by
  obtain ⟨root, fields, vmpl, guestVersion, tcbVersion⟩ := names
  rw [KeyFixture.request, root, fields, vmpl, guestVersion, tcbVersion]

/-- The registration that a key fixture describes. -/
def registration (fixture : KeyFixture) : Except GuestError (DerivedKeyRequest × Bytes) :=
  (InputFault.decodeHex fixture.key).map (fixture.request, ·)

theorem registration_eq_ok_iff {request : DerivedKeyRequest} {stored : Bytes} :
    fixture.registration = .ok (request, stored) ↔
      fixture.Names request ∧ Hex.decode fixture.key = .ok stored := by
  simp only [registration, FirstFailure.map_eq_ok_iff, InputFault.decodeHex_eq_ok_iff,
    Prod.mk.injEq]
  constructor
  · rintro ⟨_, read, rfl, rfl⟩
    exact ⟨fixture.names_request, read⟩
  · rintro ⟨names, read⟩
    exact ⟨stored, read, names.request_eq, rfl⟩

theorem exists_registration_iff :
    (∃ made, fixture.registration = .ok made) ↔ ∃ stored, Hex.decode fixture.key = .ok stored := by
  constructor
  · rintro ⟨⟨request, stored⟩, made⟩
    exact ⟨stored, (registration_eq_ok_iff.mp made).2⟩
  · rintro ⟨stored, read⟩
    exact ⟨(fixture.request, stored), registration_eq_ok_iff.mpr ⟨fixture.names_request, read⟩⟩

theorem registration_eq_error_iff {error : GuestError} :
    fixture.registration = .error error ↔
      ∃ fault, Hex.decode fixture.key = .error fault ∧ error = .input (.hex fault) := by
  rw [registration, FirstFailure.map_eq_error_iff, InputFault.decodeHex_eq_error_iff]

end KeyFixture

namespace ProgrammedDevice

/-- The device with answers programmed one after the other. -/
def withReports (device : ProgrammedDevice) (answers : List (Report.Data × CannedReport)) :
    ProgrammedDevice :=
  answers.foldl (fun device answer => device.withReport answer.1 answer.2) device

/-- Where an answer goes in the catalog of reports. -/
def reportEntry (answer : Report.Data × CannedReport) : String × CannedReport :=
  (Report.dataKey answer.1, answer.2)

variable {device : ProgrammedDevice}

theorem withReports_eq (answers : List (Report.Data × CannedReport)) :
    device.withReports answers =
      { device with
        reports := (answers.map reportEntry).foldl
          (fun reports entry => reports.insert entry.1 entry.2) device.reports } := by
  induction answers generalizing device with
  | nil => rfl
  | cons answer rest hypothesis => exact hypothesis

end ProgrammedDevice

namespace DeviceFixture

open ProgrammedDevice

/-- The closed device with these contents. -/
def assembled (fixture : DeviceFixture) (signer : Signer) (certificates : Bytes)
    (answers : List (Report.Data × CannedReport))
    (registrations : List (DerivedKeyRequest × Bytes)) : ProgrammedDevice where
  reports := .ofList (answers.map reportEntry)
  keys := .ofList (registrations.map keyEntry)
  certificates
  product? := fixture.product
  signer

variable {fixture : DeviceFixture} {signer : Signer}

theorem addReport_eq_map (device : ProgrammedDevice) (report : ReportFixture) :
    addReport device report =
      report.canned.map fun answer => device.withReport answer.1 answer.2 := by
  unfold addReport
  cases report.canned with
  | error error => rfl
  | ok answer => rfl

theorem addKey_eq_map (device : ProgrammedDevice) (key : KeyFixture) :
    addKey device key =
      key.registration.map fun registration => device.withKey registration.1 registration.2 := by
  unfold addKey KeyFixture.registration
  cases InputFault.decodeHex key.key with
  | error error => rfl
  | ok stored => rfl

theorem foldlM_addReport (reports : List ReportFixture) (device : ProgrammedDevice) :
    reports.foldlM addReport device =
      (reports.mapM ReportFixture.canned).map device.withReports := by
  rw [funext₂ addReport_eq_map]
  exact FirstFailure.foldlM_map _ reports device

theorem foldlM_addKey (keys : List KeyFixture) (device : ProgrammedDevice) :
    keys.foldlM addKey device =
      (keys.mapM KeyFixture.registration).map device.withKeys := by
  rw [funext₂ addKey_eq_map]
  exact FirstFailure.foldlM_map _ keys device

/-- Building checks everything first and assembles then. -/
theorem build_eq_bind :
    fixture.build signer =
      (InputFault.decodeHex fixture.certificates).bind fun certificates =>
        (fixture.reports.mapM ReportFixture.canned).bind fun answers =>
          (fixture.keys.mapM KeyFixture.registration).map fun registrations =>
            fixture.assembled signer certificates answers registrations := by
  unfold build
  simp only [foldlM_addReport, foldlM_addKey]
  -- Up to a failure both sides do the same; without one, what is left is where the answers go.
  cases InputFault.decodeHex fixture.certificates with
  | error error => rfl
  | ok certificates =>
    cases fixture.reports.mapM ReportFixture.canned with
    | error error => rfl
    | ok answers =>
      cases fixture.keys.mapM KeyFixture.registration with
      | error error => rfl
      | ok registrations =>
        show Except.ok (((_ : ProgrammedDevice).withKeys registrations).withProduct _) = .ok _
        rw [withKeys_eq, withReports_eq]
        rfl

theorem build_eq_ok_iff {device : ProgrammedDevice} :
    fixture.build signer = .ok device ↔
      ∃ certificates answers registrations,
        Hex.decode fixture.certificates = .ok certificates ∧
        fixture.reports.map ReportFixture.canned = answers.map .ok ∧
        fixture.keys.map KeyFixture.registration = registrations.map .ok ∧
        fixture.assembled signer certificates answers registrations = device := by
  simp only [build_eq_bind, FirstFailure.bind_eq_ok_iff, FirstFailure.map_eq_ok_iff,
    FirstFailure.mapM_eq_ok_iff, InputFault.decodeHex_eq_ok_iff]
  constructor
  · rintro ⟨certificates, read, answers, passed, registrations, keyed, made⟩
    exact ⟨certificates, answers, registrations, read, passed, keyed, made⟩
  · rintro ⟨certificates, answers, registrations, read, passed, keyed, made⟩
    exact ⟨certificates, read, answers, passed, registrations, keyed, made⟩

/-- A fixture all of whose texts can be read, with the sizes that they have to have. -/
structure Fits (fixture : DeviceFixture) : Prop where
  certificates : ∃ bytes, Hex.decode fixture.certificates = .ok bytes
  reports : ∀ report ∈ fixture.reports, report.Fits
  keys : ∀ key ∈ fixture.keys, ∃ stored, Hex.decode key.key = .ok stored

/-- What is wrong with a fixture: the first of its certificates, its reports in order and its keys
in order that does not fit. -/
inductive Offence (fixture : DeviceFixture) : GuestError → Prop
  | certificates {fault : Hex.Fault} (refused : Hex.decode fixture.certificates = .error fault) :
    Offence fixture (.input (.hex fault))
  | report {before after : List ReportFixture} {report : ReportFixture} {error : GuestError}
    (certificates : ∃ bytes, Hex.decode fixture.certificates = .ok bytes)
    (listed : fixture.reports = before ++ report :: after)
    (earlier : ∀ fitting ∈ before, fitting.Fits) (offends : report.Offence error) :
    Offence fixture error
  | key {before after : List KeyFixture} {key : KeyFixture} {fault : Hex.Fault}
    (certificates : ∃ bytes, Hex.decode fixture.certificates = .ok bytes)
    (reports : ∀ report ∈ fixture.reports, report.Fits)
    (listed : fixture.keys = before ++ key :: after)
    (earlier : ∀ fitting ∈ before, ∃ stored, Hex.decode fitting.key = .ok stored)
    (refused : Hex.decode key.key = .error fault) :
    Offence fixture (.input (.hex fault))

theorem mapM_canned_eq_error_iff {reports : List ReportFixture} {error : GuestError} :
    reports.mapM ReportFixture.canned = .error error ↔
      ∃ before report after, reports = before ++ report :: after ∧
        (∀ fitting ∈ before, fitting.Fits) ∧ report.Offence error := by
  simp only [FirstFailure.mapM_eq_error_iff, ReportFixture.exists_canned_iff,
    ReportFixture.canned_eq_error_iff]

theorem exists_mapM_canned_iff {reports : List ReportFixture} :
    (∃ answers, reports.mapM ReportFixture.canned = .ok answers) ↔
      ∀ report ∈ reports, report.Fits := by
  simp only [FirstFailure.exists_mapM_iff, ReportFixture.exists_canned_iff]

theorem mapM_registration_eq_error_iff {keys : List KeyFixture} {error : GuestError} :
    keys.mapM KeyFixture.registration = .error error ↔
      ∃ before key after, keys = before ++ key :: after ∧
        (∀ fitting ∈ before, ∃ stored, Hex.decode fitting.key = .ok stored) ∧
        ∃ fault, Hex.decode key.key = .error fault ∧ error = .input (.hex fault) := by
  simp only [FirstFailure.mapM_eq_error_iff, KeyFixture.exists_registration_iff,
    KeyFixture.registration_eq_error_iff]

theorem exists_mapM_registration_iff {keys : List KeyFixture} :
    (∃ registrations, keys.mapM KeyFixture.registration = .ok registrations) ↔
      ∀ key ∈ keys, ∃ stored, Hex.decode key.key = .ok stored := by
  simp only [FirstFailure.exists_mapM_iff, KeyFixture.exists_registration_iff]

theorem exists_build_iff : (∃ device, fixture.build signer = .ok device) ↔ fixture.Fits := by
  simp only [build_eq_bind, FirstFailure.bind_eq_ok_iff, FirstFailure.map_eq_ok_iff,
    InputFault.decodeHex_eq_ok_iff]
  constructor
  · rintro ⟨_, certificates, read, answers, passed, registrations, keyed, _⟩
    exact ⟨⟨certificates, read⟩, exists_mapM_canned_iff.mp ⟨answers, passed⟩,
      exists_mapM_registration_iff.mp ⟨registrations, keyed⟩⟩
  · rintro ⟨⟨certificates, read⟩, reports, keys⟩
    obtain ⟨answers, passed⟩ := exists_mapM_canned_iff.mpr reports
    obtain ⟨registrations, keyed⟩ := exists_mapM_registration_iff.mpr keys
    exact ⟨_, certificates, read, answers, passed, registrations, keyed, rfl⟩

theorem build_eq_error_iff {error : GuestError} :
    fixture.build signer = .error error ↔ fixture.Offence error := by
  simp only [build_eq_bind, FirstFailure.bind_eq_error_iff, FirstFailure.map_eq_error_iff,
    InputFault.decodeHex_eq_ok_iff, InputFault.decodeHex_eq_error_iff, mapM_canned_eq_error_iff,
    mapM_registration_eq_error_iff]
  constructor
  · rintro (⟨fault, refused, rfl⟩ | ⟨certificates, read, stopped⟩)
    · exact .certificates refused
    · rcases stopped with ⟨_, _, _, listed, earlier, offends⟩ | ⟨answers, passed, stopped⟩
      · exact .report ⟨certificates, read⟩ listed earlier offends
      · obtain ⟨before, key, after, listed, earlier, fault, refused, rfl⟩ := stopped
        exact .key ⟨certificates, read⟩ (exists_mapM_canned_iff.mp ⟨answers, passed⟩) listed earlier
          refused
  · rintro (refused | ⟨⟨certificates, read⟩, listed, earlier, offends⟩ |
      ⟨⟨certificates, read⟩, reports, listed, earlier, refused⟩)
    · exact .inl ⟨_, refused, rfl⟩
    · exact .inr ⟨certificates, read, .inl ⟨_, _, _, listed, earlier, offends⟩⟩
    · obtain ⟨answers, passed⟩ := exists_mapM_canned_iff.mpr reports
      exact .inr ⟨certificates, read, .inr ⟨answers, passed, _, _, _, listed, earlier, _, refused,
        rfl⟩⟩

/-- The request of a derived key, with everything it travels with. -/
def keyRequest (version : UInt32) (request : DerivedKeyRequest) (response : DerivedKeyResponse)
    (status : FirmwareStatus) : GuestRequest .derivedKey :=
  ⟨version, .derivedKey request response, status⟩

/-- A device that answers as a fixture describes: the last report that names the data counts, and
of the keys the last one of the same fields. -/
structure Programs (fixture : DeviceFixture) (signer : Signer) (device : ProgrammedDevice) :
    Prop where
  isClosed : device.isOpen = false
  certificates : Hex.decode fixture.certificates = .ok device.certificates
  product : device.product? = fixture.product
  signer : device.signer = signer
  lookup_last {before after : List ReportFixture} {report : ReportFixture} {data : Report.Data}
    (listed : fixture.reports = before ++ report :: after) (names : report.Names data)
    (last : ∀ later ∈ after, ¬ later.Names data) :
    ∃ body, report.Describes data body ∧
      device.lookup data = .ok ⟨body, report.exit, report.status⟩
  lookup_none {data : Report.Data} (unnamed : ∀ report ∈ fixture.reports, ¬ report.Names data) :
    device.lookup data = .error (.noResponse (Hex.encode data.val))
  key_last {before after : List KeyFixture} {key : KeyFixture} {request : DerivedKeyRequest}
    (listed : fixture.keys = before ++ key :: after) (names : key.Names request)
    (last : ∀ later ∈ after, ¬ later.Names request) :
    ∃ stored, Hex.decode key.key = .ok stored ∧
      ∀ (path : String) (version : UInt32) (response : DerivedKeyResponse)
        (status : FirmwareStatus),
        let exchange := (device.openAt path).after.exchange Command.derivedKey.number
          (keyRequest version request response status)
        let written := exchange.request.payload.keyResponse
        exchange.exit = .ok .ok ∧ written.status = 0 ∧
          written.key.val =
            stored.take (min stored.length 32) ++ response.key.val.drop (min stored.length 32)
  key_none {request : DerivedKeyRequest} (unnamed : ∀ key ∈ fixture.keys, ¬ key.Names request)
    (path : String) (version : UInt32) (response : DerivedKeyResponse) (status : FirmwareStatus) :
    ((device.openAt path).after.exchange Command.derivedKey.number
      (keyRequest version request response status)).exit =
      .error (if fixture.keys = [] then .noKeys else .unmappedKey request.lookupKey)

section Assembled

variable {certificates : Bytes} {answers : List (Report.Data × CannedReport)}
  {registrations : List (DerivedKeyRequest × Bytes)}

theorem reportEntry_ne_iff {answer : Report.Data × CannedReport} {data : Report.Data} :
    (reportEntry answer).1 ≠ Report.dataKey data ↔ answer.1 ≠ data :=
  not_congr Report.dataKey_inj

theorem reports_assembled :
    (fixture.assembled signer certificates answers registrations).reports =
      .ofList (answers.map reportEntry) :=
  rfl

theorem lookup_assembled_of_last {before after : List (Report.Data × CannedReport)}
    {data : Report.Data} {canned : CannedReport}
    (programmed : answers = before ++ (data, canned) :: after)
    (last : ∀ answer ∈ after, answer.1 ≠ data) :
    (fixture.assembled signer certificates answers registrations).lookup data = .ok canned := by
  rw [lookup_eq_ok_iff, reports_assembled, programmed, List.map_append, List.map_cons]
  refine Catalog.find?_ofList_of_last ?_
  rw [List.forall_mem_map]
  exact fun answer later => reportEntry_ne_iff.mpr (last answer later)

theorem lookup_assembled_of_none {data : Report.Data}
    (absent : ∀ answer ∈ answers, answer.1 ≠ data) :
    (fixture.assembled signer certificates answers registrations).lookup data =
      .error (.noResponse (Report.dataKey data)) := by
  have unfound : (Catalog.ofList (answers.map reportEntry)).find? (Report.dataKey data) = none := by
    rw [Catalog.find?_ofList_eq_none_iff, List.forall_mem_map]
    exact fun answer inside => reportEntry_ne_iff.mpr (absent answer inside)
  rw [lookup, reports_assembled, unfound]

theorem openAt_assembled (path : String) :
    ((fixture.assembled signer certificates answers registrations).openAt path).after =
      stocked (fixture.assembled signer certificates answers registrations) path registrations
        [] := by
  have restocked :
      ({ fixture.assembled signer certificates answers registrations with
          keys := .empty } : ProgrammedDevice).withKeys registrations =
        fixture.assembled signer certificates answers registrations := by
    rw [withKeys_eq]
    rfl
  rw [stocked, restocked]
  rfl

theorem exchange_assembled_of_last {before after : List (DerivedKeyRequest × Bytes)}
    {request : DerivedKeyRequest} {stored : Bytes}
    (registered : registrations = before ++ (request, stored) :: after)
    (last : ∀ registration ∈ after, registration.1 ≠ request) (path : String) (version : UInt32)
    (response : DerivedKeyResponse) (status : FirmwareStatus) :
    let device := (fixture.assembled signer certificates answers registrations).openAt path
    let exchange := device.after.exchange Command.derivedKey.number
      (keyRequest version request response status)
    let written := exchange.request.payload.keyResponse
    exchange.exit = .ok .ok ∧ written.status = 0 ∧
      written.key.val =
        stored.take (min stored.length 32) ++ response.key.val.drop (min stored.length 32) := by
  intro device
  have found : device.after.keys.find? request.lookupKey = some stored := by
    have listed : registrations ++ [] = before ++ (request, stored) :: after := by
      rw [List.append_nil, registered]
    simp only [device, openAt_assembled]
    exact find?_stocked_of_last listed last
  have isOpen : device.after.isOpen = true := isOpen_after_openAt path
  rw [exchange_of_isOpen isOpen]
  simp only [keyRequest, answer, answerKey_of_found found, true_and]
  exact ⟨rfl, val_copyKey response.key stored⟩

theorem exit_assembled_of_none {request : DerivedKeyRequest}
    (absent : ∀ registration ∈ registrations, registration.1 ≠ request) (path : String)
    (version : UInt32) (response : DerivedKeyResponse) (status : FirmwareStatus) :
    let device := (fixture.assembled signer certificates answers registrations).openAt path
    (device.after.exchange Command.derivedKey.number
      (keyRequest version request response status)).exit =
      .error (if registrations = [] then .noKeys else .unmappedKey request.lookupKey) := by
  intro device
  have isOpen : device.after.isOpen = true := isOpen_after_openAt path
  rw [exchange_of_isOpen isOpen]
  simp only [device, openAt_assembled]
  by_cases empty : registrations = []
  · rw [if_pos empty]
    refine answerKey_noKeys_iff.mpr (size_keys_stocked_eq_zero_iff.mpr ?_)
    rw [List.append_nil, empty]
  · rw [if_neg empty]
    refine answerKey_unmapped_iff.mpr ⟨?_, ?_⟩
    · rw [ne_eq, size_keys_stocked_eq_zero_iff, List.append_nil]
      exact empty
    · rw [find?_stocked_eq_none_iff, List.append_nil]
      exact absent

end Assembled

theorem programs_of_build {device : ProgrammedDevice}
    (built : fixture.build signer = .ok device) : fixture.Programs signer device := by
  obtain ⟨certificates, answers, registrations, read, passed, keyed, rfl⟩ :=
    build_eq_ok_iff.mp built
  constructor
  case isClosed => rfl
  case certificates => exact read
  case product => rfl
  case signer => rfl
  case lookup_last =>
    intro before after report data listed names last
    rw [listed] at passed
    obtain ⟨_, ⟨named, canned⟩, later, programmed, made, rest⟩ := FirstFailure.exists_split passed
    obtain ⟨namesToo, describes, exit, status⟩ := ReportFixture.canned_eq_ok_iff.mp made
    obtain rfl := namesToo.unique names
    refine ⟨canned.body, describes, ?_⟩
    rw [exit, status]
    refine lookup_assembled_of_last programmed ?_
    -- A later answer for the same data would be that of a later report, which names them then.
    rintro ⟨_, _⟩ inside rfl
    obtain ⟨report, member, made⟩ := FirstFailure.exists_of_mem rest inside
    exact last report member (ReportFixture.canned_eq_ok_iff.mp made).1
  case lookup_none =>
    intro data unnamed
    refine lookup_assembled_of_none ?_
    rintro ⟨_, _⟩ inside rfl
    obtain ⟨report, member, made⟩ := FirstFailure.exists_of_mem passed inside
    exact unnamed report member (ReportFixture.canned_eq_ok_iff.mp made).1
  case key_last =>
    intro before after key request listed names last
    rw [listed] at keyed
    obtain ⟨_, ⟨named, stored⟩, later, registered, made, rest⟩ := FirstFailure.exists_split keyed
    obtain ⟨namesToo, read⟩ := KeyFixture.registration_eq_ok_iff.mp made
    obtain rfl : named = request := namesToo.request_eq.symm.trans names.request_eq
    refine ⟨stored, read, exchange_assembled_of_last registered ?_⟩
    rintro ⟨_, _⟩ inside rfl
    obtain ⟨key, member, made⟩ := FirstFailure.exists_of_mem rest inside
    exact last key member (KeyFixture.registration_eq_ok_iff.mp made).1
  case key_none =>
    intro request unnamed path version response status
    have counted : registrations = [] ↔ fixture.keys = [] := by
      rw [← List.map_eq_nil_iff, ← keyed, List.map_eq_nil_iff]
    simp only [← counted]
    refine exit_assembled_of_none ?_ path version response status
    rintro ⟨_, _⟩ inside rfl
    obtain ⟨key, member, made⟩ := FirstFailure.exists_of_mem keyed inside
    exact unnamed key member (KeyFixture.registration_eq_ok_iff.mp made).1

/-- A device is built exactly if everything that describes it fits, and otherwise the first thing
that does not is reported; a built device answers as its fixture describes. Data are named by their
digits, in whatever letter case. -/
theorem build_exact (fixture : DeviceFixture) (signer : Signer) :
    ((∃ device, fixture.build signer = .ok device) ↔ fixture.Fits) ∧
    (∀ error, fixture.build signer = .error error ↔ fixture.Offence error) ∧
    (∀ device, fixture.build signer = .ok device → fixture.Programs signer device) ∧
    (∀ (report : ReportFixture) (data : Report.Data),
      report.Names data ↔ report.data.toLower = Hex.encode data.val) ∧
    ∀ report other : ReportFixture, report.data.toLower = other.data.toLower →
      ∀ data, report.Names data ↔ other.Names data :=
  ⟨exists_build_iff, fun _ => build_eq_error_iff, fun _ => programs_of_build,
    fun _ _ => ReportFixture.names_iff, fun _ _ same _ => ReportFixture.names_congr same⟩

/-- A report without a body of its own. -/
def plainReport (data : String) (exit : ExitResult) : ReportFixture := ⟨data, none, exit, ⟨7⟩⟩

/-- A key for a request that asks for nothing in particular. -/
def plainKey (key : String) : KeyFixture := ⟨0, 0, 0, 0, 0, key⟩

/-- A fixture with two reports for the same data, in different letter case, and a key that is given
twice. -/
def respelled : DeviceFixture where
  reports := [plainReport (Hex.encode (List.replicate 64 0xaa)) .ok,
    plainReport (String.ofList (List.replicate 128 'A')) .retry]
  keys := [plainKey "0102", plainKey "A0b1"]
  certificates := ""
  product := none

/-- The fixture with a report for one byte only before the others, and a key that is no text of
bytes. -/
def misfitting : DeviceFixture :=
  { respelled with
    reports := plainReport "aa" .ok :: respelled.reports
    keys := [plainKey "0g"] }

theorem build_exact_respelled :
    let signer : Signer := .fixed ⟨Block.zeros _, Block.zeros _⟩
    let data : Report.Data := ⟨List.replicate 64 0xaa, rfl⟩
    misfitting.build signer = .error (.input (.wrongSize "report data" 1 64)) ∧
    ∃ device, respelled.build signer = .ok device ∧
      device.lookup data = .ok ⟨Report.template data, .retry, ⟨7⟩⟩ ∧
      ∀ response status,
        let exchange := (device.openAt guestDevicePath).after.exchange Command.derivedKey.number
          (keyRequest 1 {} response status)
        exchange.request.payload.keyResponse.key.val =
          [0xa0, 0xb1] ++ response.key.val.drop 2 := by
  intro signer data
  obtain ⟨_, fails, _⟩ := build_exact misfitting signer
  obtain ⟨builds, _, answers, _, respelling⟩ := build_exact respelled signer
  have uncertified : Hex.decode "" = .ok [] := by decide +kernel
  have short : Hex.decode "aa" = .ok [0xaa] := by decide +kernel
  have names : Hex.decode (Hex.encode data.val) = .ok data.val := Hex.decode_encode data.val
  have lowered : (Hex.encode data.val).toLower =
      (String.ofList (List.replicate 128 'A')).toLower := by
    rw [Hex.toLower_encode, ← String.toList_inj, Hex.toList_encode, Hex.toList_toLower,
      String.toList_ofList]
    decide +kernel
  have respelt := (respelling (plainReport _ .ok) (plainReport _ .retry) lowered data).mp names
  have first : Hex.decode "0102" = .ok [1, 2] := by decide +kernel
  have second : Hex.decode "A0b1" = .ok [0xa0, 0xb1] := by decide +kernel
  obtain ⟨device, built⟩ := builds.mpr
    { certificates := ⟨[], uncertified⟩
      reports := List.forall_mem_cons.mpr ⟨⟨⟨data, names⟩, nofun⟩,
        List.forall_mem_singleton.mpr ⟨⟨data, respelt⟩, nofun⟩⟩
      keys := List.forall_mem_cons.mpr ⟨⟨_, first⟩, List.forall_mem_singleton.mpr ⟨_, second⟩⟩ }
  have programs := answers device built
  refine ⟨?_, device, built, ?_, fun response status => ?_⟩
  · have listed : misfitting.reports = [] ++ plainReport "aa" .ok :: respelled.reports := rfl
    have offends : (plainReport "aa" .ok).Offence (.input (.wrongSize "report data" 1 64)) :=
      .data (.missized short (by decide))
    exact (fails _).mpr (.report ⟨[], uncertified⟩ listed nofun offends)
  · have listed : respelled.reports = [_] ++ plainReport _ .retry :: [] := rfl
    obtain ⟨body, made, found⟩ := programs.lookup_last listed respelt nofun
    have template : body = Report.template data := made
    rw [found, template]
    rfl
  · have listed : respelled.keys = [_] ++ plainKey "A0b1" :: [] := rfl
    have names : (plainKey "A0b1").Names {} := ⟨rfl, rfl, rfl, rfl, rfl⟩
    obtain ⟨stored, read, exchanged⟩ := programs.key_last listed names nofun
    have same : stored = [0xa0, 0xb1] := Except.ok.inj (read.symm.trans second)
    obtain ⟨_, _, written⟩ := exchanged guestDevicePath 1 response status
    rw [same] at written
    exact written

end DeviceFixture

end SnpTestbed
