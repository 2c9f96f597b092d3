import SnpTestbed.Proofs.Client.Calls
import SnpTestbed.Proofs.Device.Consultation
import SnpTestbed.Proofs.Session.History

/-!
# Accounting for signatures and warnings

A programmed report is used by a report command, by an extended report command that
claims a buffer, and by a quote. Each use comes to one message to the signer or, if a
failure is programmed, to one warning, and nothing else has anything signed or warns of
anything. `Activity.Accounts` says so of one activity and the uses behind it. It holds of
every command and of every quote, of a client through the calls that it makes, and by
induction of every run. That the messages of an activity are those that the signer was
asked for is `ProgrammedDevice.Consulted`, which holds of every command and every quote.
-/
namespace SnpTestbed

theorem FirmwareStatus.isSuccess_iff {status : FirmwareStatus} :
    status.isSuccess = true ↔ status = .success := by
  cases status
  simp [isSuccess, success]

/-- What a programmed report is used for. -/
inductive ReportPurpose
  | request
  | quote

/-- The end of a warning that names the purpose. -/
def ReportPurpose.clause : ReportPurpose → String
  | .request => " for report request"
  | .quote => " for quote"

/-- A programmed report that is used. -/
structure ReportUse where
  canned : CannedReport
  purpose : ReportPurpose

namespace ReportUse

/-- The message that a use hands to the signer. -/
def signed? (use : ReportUse) : Option Bytes :=
  if use.canned.status = .success then some (use.canned.body.val.take 0x2A0) else none

/-- The warning that a use logs. -/
def warning? (use : ReportUse) : Option LogRecord :=
  if use.canned.status = .success then none
  else some (.warn
    ("injecting firmware error " ++ use.canned.status.text ++ use.purpose.clause))

end ReportUse

namespace Activity

/-- The warnings among the log records. -/
def warnings (activity : Activity) : List LogRecord :=
  activity.log.filter fun record => record.level = .warn

/-- For each of the uses, in order, there is one message to the signer or one warning, and there
are no others. -/
structure Accounts (activity : Activity) (uses : List ReportUse) : Prop where
  signed : activity.signed = uses.filterMap ReportUse.signed?
  warnings : activity.warnings = uses.filterMap ReportUse.warning?

theorem Accounts.append {earlier later : Activity} {uses more : List ReportUse}
    (first : earlier.Accounts uses) (second : later.Accounts more) :
    (earlier ++ later).Accounts (uses ++ more) where
  signed := by rw [signed_append, first.signed, second.signed, List.filterMap_append]
  warnings := by
    rw [List.filterMap_append, ← first.warnings, ← second.warnings]
    exact List.filter_append _ _

theorem accounts_empty : Accounts {} [] := ⟨rfl, rfl⟩

theorem accounts_debug (text : String) : (logging (.debug text)).Accounts [] := ⟨rfl, rfl⟩

theorem accounts_signing {canned : CannedReport} (passing : canned.status.isSuccess = true)
    (purpose : ReportPurpose) :
    (signing (Report.signedBytes canned.body)).Accounts [⟨canned, purpose⟩] := by
  have success := FirmwareStatus.isSuccess_iff.mp passing
  constructor
  · simp only [List.filterMap_cons, ReportUse.signed?, if_pos success]
    rfl
  · simp only [List.filterMap_cons, ReportUse.warning?, if_pos success]
    rfl

theorem accounts_warning {canned : CannedReport} (failing : canned.status.isSuccess = false)
    (purpose : ReportPurpose) :
    (logging (.warn ("injecting firmware error " ++ canned.status.text ++
      purpose.clause))).Accounts [⟨canned, purpose⟩] := by
  have failure : canned.status ≠ .success := fun success =>
    Bool.eq_false_iff.mp failing (FirmwareStatus.isSuccess_iff.mpr success)
  constructor
  · simp only [List.filterMap_cons, ReportUse.signed?, if_neg failure]
    rfl
  · simp only [List.filterMap_cons, ReportUse.warning?, if_neg failure]
    rfl

end Activity

/-- The data that a command wants reported; a probe wants none. -/
def Payload.reportedData? {command : Command} : Payload command → Option Report.Data
  | .report request _ => some request.data
  | .extendedReport request _ => if request.claimed = 0 then none else some request.base.data
  | .derivedKey _ _ => none

namespace ProgrammedDevice

/-- The use of the report that is programmed for some data, if there are data and a report. -/
def uses (device : ProgrammedDevice) (purpose : ReportPurpose) (data? : Option Report.Data) :
    List ReportUse :=
  (data?.bind fun data => (device.reports.find? (Report.dataKey data)).map (⟨·, purpose⟩)).toList

/-- The use that a call makes of a report: an open device takes up commands with their own number,
and no other calls. -/
def callUses (device : ProgrammedDevice) : CallRecord → List ReportUse
  | .issued number command request =>
    if number = command.number ∧ device.isOpen = true then
      device.uses .request request.payload.reportedData?
    else []
  | .opened _ => []
  | .closed => []

variable {device : ProgrammedDevice} {purpose : ReportPurpose} {data : Report.Data}

theorem uses_of_missing (absent : device.reports.find? (Report.dataKey data) = none) :
    device.uses purpose (some data) = [] := by
  rw [uses, Option.bind_some, absent]
  rfl

theorem uses_of_found {canned : CannedReport}
    (found : device.reports.find? (Report.dataKey data) = some canned) :
    device.uses purpose (some data) = [⟨canned, purpose⟩] := by
  rw [uses, Option.bind_some, found]
  rfl

theorem length_uses_le (data? : Option Report.Data) : (device.uses purpose data?).length ≤ 1 := by
  rw [uses, Option.length_toList]
  split <;> omega

theorem length_callUses_le (call : CallRecord) : (device.callUses call).length ≤ 1 := by
  cases call with
  | issued number command request =>
    simp only [callUses]
    split
    · exact length_uses_le _
    · exact Nat.zero_le _
  | opened path => exact Nat.zero_le _
  | closed => exact Nat.zero_le _

/-- Signing a programmed body accounts for one use of it. -/
theorem sign_accounts {canned : CannedReport} (passing : canned.status.isSuccess = true)
    (purpose : ReportPurpose) :
    (device.sign canned.body).activity.Accounts [⟨canned, purpose⟩] :=
  Activity.accounts_signing passing purpose

theorem answerReport_accounts (request : ReportRequest) (response : ReportResponse)
    (status : FirmwareStatus) :
    (device.answerReport request response status).activity.Accounts
      (device.uses .request (some request.data)) := by
  generalize answered : device.answerReport request response status = answer
  have outcome := device.answerReport_outcome request response status
  rw [answered] at outcome
  cases outcome with
  | missing absent =>
    rw [uses_of_missing absent]
    exact Activity.accounts_empty
  | injected found failing =>
    rw [uses_of_found found]
    exact Activity.accounts_warning failing .request
  | unsigned found passing refused =>
    rw [uses_of_found found]
    exact Activity.accounts_signing passing _
  | served found passing signed =>
    rw [uses_of_found found]
    exact Activity.accounts_signing passing _

/-- Only the plain report of an extended one can be a use; the certificates never are. -/
theorem answerExtended_accounts (request : ExtendedReportRequest) (response : ReportResponse)
    (status : FirmwareStatus) :
    (device.answerExtended request response status).activity.Accounts
      (device.uses .request (Payload.extendedReport request response).reportedData?) := by
  rw [Payload.reportedData?]
  by_cases asks : request.claimed = 0
  · rw [if_pos asks, device.answerExtended_activity_of_probe asks]
    exact Activity.accounts_debug _
  · rw [if_neg asks, device.answerExtended_activity asks]
    exact device.answerReport_accounts request.base response status

theorem answerKey_accounts (request : DerivedKeyRequest) (response : DerivedKeyResponse)
    (status : FirmwareStatus) :
    (device.answerKey request response status).activity.Accounts [] := by
  rw [answerKey_activity]
  exact Activity.accounts_empty

theorem answer_accounts {command : Command} (payload : Payload command) (status : FirmwareStatus) :
    (device.answer payload status).activity.Accounts
      (device.uses .request payload.reportedData?) := by
  cases payload with
  | report request response => exact answerReport_accounts request response status
  | extendedReport request response => exact answerExtended_accounts request response status
  | derivedKey request response => exact answerKey_accounts request response status

/-- A command accounts for the use that it makes of a report. -/
theorem exchange_accounts {command : Command} (number : UInt64) (request : GuestRequest command) :
    (device.exchange number request).activity.Accounts
      (device.callUses (.issued number command request)) := by
  generalize exchanged : device.exchange number request = exchange
  have outcome := device.exchange_outcome number request
  rw [exchanged] at outcome
  simp only [callUses]
  cases outcome with
  | misnumbered wrong =>
    rw [if_neg fun taken => wrong taken.1]
    exact Activity.accounts_empty
  | closed right isClosed =>
    rw [if_neg fun taken => Bool.eq_false_iff.mp isClosed taken.2]
    exact Activity.accounts_empty
  | answered right isOpen answers =>
    rw [if_pos ⟨right, isOpen⟩, ← answers]
    exact (Activity.accounts_debug _).append (answer_accounts request.payload request.status)

end ProgrammedDevice

/-- A quote accounts for the use that it makes of a report, whether or not the device is open and
whatever comes of the certificates. -/
theorem Quote.make_accounts (device : ProgrammedDevice) (data : Report.Data) :
    (make device data).activity.Accounts (device.uses .quote (some data)) := by
  unfold make ProgrammedDevice.lookup
  cases found : device.reports.find? (Report.dataKey data) with
  | none =>
    rw [ProgrammedDevice.uses_of_missing found]
    exact Activity.accounts_empty
  | some canned =>
    rw [ProgrammedDevice.uses_of_found found]
    dsimp only
    split
    case isTrue passing =>
      have signing := device.sign_accounts passing .quote
      split
      · exact signing
      · split
        · exact signing
        · exact signing.append (Activity.accounts_debug _)
    case isFalse failing =>
      exact Activity.accounts_warning (Bool.eq_false_iff.mpr failing) .quote

namespace Client

section Watched

variable {α : Type} (client : Client (WatchedChannel ProgrammedDevice))

/-- A call of a client accounts for the calls that it makes, which make one use at most. -/
structure Accounted (call : Call (Client (WatchedChannel ProgrammedDevice)) α)
    (made : List CallRecord) : Prop where
  calls : call.after.device.calls = client.device.calls ++ made
  accounts : call.activity.Accounts (made.flatMap client.device.channel.callUses)
  once : (made.flatMap client.device.channel.callUses).length ≤ 1

theorem issue_accounts {command : Command} (payload : Payload command) :
    (client.issue payload).activity.Accounts
      (client.device.channel.callUses (client.sending payload)) :=
  ProgrammedDevice.exchange_accounts _ _

/-- A call of a client that makes a single call is what that one is. -/
theorem accounted_single {command : Command} (payload : Payload command)
    {call : Call (Client (WatchedChannel ProgrammedDevice)) α}
    (calls : call.after.device.calls = client.device.calls ++ [client.sending payload])
    (activity : call.activity = (client.issue payload).activity) :
    client.Accounted call [client.sending payload] where
  calls := calls
  accounts := by
    rw [activity, List.flatMap_singleton]
    exact client.issue_accounts payload
  once := by
    rw [List.flatMap_singleton]
    exact ProgrammedDevice.length_callUses_le _

theorem getReport_accounted (data : Option Report.Data) (vmpl : Option UInt32) :
    ∃ made, client.Accounted (client.getReport data vmpl) made := by
  cases made : ReportRequest.make data vmpl with
  | error fault =>
    refine ⟨[], ?_⟩
    simp only [getReport, made]
    exact ⟨(List.append_nil _).symm, Activity.accounts_empty, Nat.zero_le _⟩
  | ok request =>
    refine ⟨_, client.accounted_single (.report request {}) ?_ ?_⟩
    · simp only [getReport, made]
      rfl
    · simp only [getReport, made]

theorem probe_channel (base : ReportRequest) :
    (client.probe base).device.channel = client.device.channel :=
  ProgrammedDevice.exchange_device _ _

/-- A probe claims no buffer, so it makes no use of a report. -/
theorem probe_unused (device : ProgrammedDevice) (base : ReportRequest) :
    device.callUses (client.sending (.extendedReport (.make base) {})) = [] := by
  simp only [sending, ProgrammedDevice.callUses]
  split <;> rfl

/-- What follows a probe accounts for the probe, too. -/
theorem accounted_after_probe {β : Type} (base : ReportRequest)
    {later : Call (Client (WatchedChannel ProgrammedDevice)) β}
    {call : Call (Client (WatchedChannel ProgrammedDevice)) α} {made : List CallRecord}
    (accounted : (client.holding (client.probe base).device).Accounted later made)
    (after : call.after.device = later.after.device)
    (activity : call.activity = (client.probe base).activity ++ later.activity) :
    client.Accounted call (client.sending (.extendedReport (.make base) {}) :: made) := by
  obtain ⟨calls, accounts, once⟩ := accounted
  have channel : (client.holding (client.probe base).device).device.channel =
    client.device.channel := client.probe_channel base
  rw [channel] at accounts once
  have probed : (client.probe base).activity.Accounts [] := by
    have probeAccounts := client.issue_accounts (.extendedReport (.make base) {})
    rwa [probe_unused] at probeAccounts
  constructor
  · rw [after, List.append_cons]
    exact calls
  · rw [activity, List.flatMap_cons, probe_unused]
    exact probed.append accounts
  · rw [List.flatMap_cons, probe_unused]
    exact once

/-- A probe is followed by one more call at most. -/
theorem getExtendedReport_accounted (data : Option Report.Data) (vmpl : Option UInt32) :
    ∃ made, client.Accounted (client.getExtendedReport data vmpl) made := by
  cases made : ReportRequest.make data vmpl with
  | error fault =>
    rw [getExtendedReport_of_fault made]
    exact ⟨[], (List.append_nil _).symm, Activity.accounts_empty, Nat.zero_le _⟩
  | ok base =>
    let probed := client.holding (client.probe base).device
    cases refused : client.probeRefused base with
    | false =>
      rw [getExtendedReport_of_settled made refused]
      exact ⟨_, client.accounted_single (.extendedReport (.make base) {}) rfl rfl⟩
    | true =>
      by_cases empty : client.probedLength base = 0
      · obtain ⟨later, plain⟩ := probed.getReport_accounted data vmpl
        rw [getExtendedReport_of_empty made refused empty]
        exact ⟨_, client.accounted_after_probe base plain rfl rfl⟩
      · let retried : Call (Client (WatchedChannel ProgrammedDevice)) CertifiedReport :=
          { result := certifiedReport (client.retry base)
            activity := (client.retry base).activity
            after := client.holding (client.retry base).device }
        have again : probed.Accounted retried [probed.sending (client.resized base)] :=
          probed.accounted_single (client.resized base) rfl rfl
        rw [getExtendedReport_of_length made refused empty]
        exact ⟨_, client.accounted_after_probe base again rfl rfl⟩

theorem getCertificates_accounted (data : Report.Data) :
    ∃ made, client.Accounted (client.getCertificates data) made := by
  obtain ⟨made, calls, accounts, once⟩ := client.getExtendedReport_accounted (some data) none
  exact ⟨made, calls, accounts, once⟩

theorem getDerivedKey_accounted (choice : DerivedKeyChoice) :
    ∃ made, client.Accounted (client.getDerivedKey choice) made :=
  ⟨_, client.accounted_single (.derivedKey choice.request {}) rfl rfl⟩

end Watched

/-- The uses that a client makes of the reports of its device with one call. -/
def uses {α : Type} (client : Client ProgrammedDevice)
    (call : Client (WatchedChannel ProgrammedDevice) →
      Call (Client (WatchedChannel ProgrammedDevice)) α) : List ReportUse :=
  (client.calls call).flatMap client.device.callUses

section Unwatched

variable {α : Type} {client : Client ProgrammedDevice}
  {call : Client (WatchedChannel ProgrammedDevice) →
    Call (Client (WatchedChannel ProgrammedDevice)) α}

theorem uses_eq_flatMap {made : List CallRecord}
    (calls : (call client.watched).after.device.calls = client.watched.device.calls ++ made) :
    client.uses call = made.flatMap client.device.callUses := by
  rw [uses, Client.calls, calls]
  rfl

/-- Since a client does not notice that it is watched, its own calls are accounted for, too. -/
theorem accounts_of_watched {plain : Call (Client ProgrammedDevice) α}
    (undisturbed : Undisturbed (call client.watched) plain)
    (accounted : ∃ made, client.watched.Accounted (call client.watched) made) :
    plain.activity.Accounts (client.uses call) := by
  obtain ⟨made, calls, accounts, _⟩ := accounted
  rw [uses_eq_flatMap calls, ← undisturbed.outcome]
  exact accounts

theorem length_uses_le
    (accounted : ∃ made, client.watched.Accounted (call client.watched) made) :
    (client.uses call).length ≤ 1 := by
  obtain ⟨made, calls, _, once⟩ := accounted
  rw [uses_eq_flatMap calls]
  exact once

end Unwatched

end Client

namespace Bench

variable {bench : Bench}

/-- The uses that the client makes of reports with one call, if there is a client. -/
def clientUses {α : Type} (bench : Bench)
    (call : Client (WatchedChannel ProgrammedDevice) →
      Call (Client (WatchedChannel ProgrammedDevice)) α) : List ReportUse :=
  match bench.client with
  | none => []
  | some version => Client.uses ⟨bench.device, version⟩ call

/-- The uses that an action makes of reports. -/
def stepUses (bench : Bench) : BenchAction → List ReportUse
  | @BenchAction.exchange number command request =>
    bench.device.callUses (.issued number command request)
  | @BenchAction.dispatch command request =>
    bench.device.callUses (.issued command.number command request)
  | .quote data => bench.device.uses .quote (some data)
  | .getReport data vmpl => bench.clientUses (·.getReport data vmpl)
  | .getExtendedReport data vmpl => bench.clientUses (·.getExtendedReport data vmpl)
  | .getCertificates data => bench.clientUses (·.getCertificates data)
  | .getDerivedKey choice => bench.clientUses (·.getDerivedKey choice)
  | _ => []

/-- The uses that actions make of reports, each of the reports that are programmed by then. -/
def uses (bench : Bench) : List BenchAction → List ReportUse
  | [] => []
  | action :: rest => bench.stepUses action ++ (bench.step action).after.uses rest

section ClientCall

variable {α : Type} {watched : Client (WatchedChannel ProgrammedDevice) →
  Call (Client (WatchedChannel ProgrammedDevice)) α}

theorem clientCall_accounts {answer : Except GuestError α → BenchAnswer}
    {plain : Client ProgrammedDevice → Call (Client ProgrammedDevice) α}
    (undisturbed : ∀ client, Client.Undisturbed (watched client) (plain client.unwatched))
    (accounted : ∀ client : Client (WatchedChannel ProgrammedDevice),
      ∃ made, client.Accounted (watched client) made) :
    (bench.clientCall answer plain).activity.Accounts (bench.clientUses watched) := by
  unfold clientCall clientUses
  cases bench.client with
  | none => exact Activity.accounts_empty
  | some version => exact Client.accounts_of_watched (undisturbed _) (accounted _)

theorem length_clientUses_le
    (accounted : ∀ client : Client (WatchedChannel ProgrammedDevice),
      ∃ made, client.Accounted (watched client) made) :
    (bench.clientUses watched).length ≤ 1 := by
  unfold clientUses
  cases bench.client with
  | none => exact Nat.zero_le 1
  | some version => exact Client.length_uses_le (accounted _)

end ClientCall

theorem openAt_accounts (path : String) : (bench.device.openAt path).activity.Accounts [] := by
  cases isOpen : bench.device.isOpen with
  | false =>
    rw [ProgrammedDevice.openAt_of_isClosed isOpen]
    exact Activity.accounts_debug _
  | true =>
    rw [ProgrammedDevice.openAt_of_isOpen isOpen]
    exact Activity.accounts_empty

theorem close_accounts : bench.device.close.activity.Accounts [] := by
  cases isOpen : bench.device.isOpen with
  | false =>
    rw [ProgrammedDevice.close_of_isClosed isOpen]
    exact Activity.accounts_empty
  | true =>
    rw [ProgrammedDevice.close_of_isOpen isOpen]
    exact Activity.accounts_empty

theorem attach_accounts (version : Option UInt32) :
    (bench.attach version).activity.Accounts [] := by
  cases isOpen : bench.device.isOpen with
  | false =>
    rw [attach_of_isClosed isOpen]
    exact Activity.accounts_debug _
  | true =>
    rw [attach_of_isOpen isOpen]
    exact Activity.accounts_empty

theorem detach_accounts : bench.detach.activity.Accounts [] := by
  cases held : bench.client with
  | none =>
    simp only [detach, held]
    exact Activity.accounts_empty
  | some version =>
    cases isOpen : bench.device.isOpen with
    | false =>
      rw [detach_of_isClosed held isOpen]
      exact Activity.accounts_empty
    | true =>
      rw [detach_of_isOpen held isOpen]
      exact Activity.accounts_empty

/-- Every action accounts for the uses that it makes. -/
theorem step_accounts (action : BenchAction) :
    (bench.step action).activity.Accounts (bench.stepUses action) := by
  cases action with
  | openAt path => exact openAt_accounts path
  | close => exact close_accounts
  | attach version => exact attach_accounts version
  | detach => exact detach_accounts
  | exchange number request => exact ProgrammedDevice.exchange_accounts number request
  | dispatch request =>
    simp only [step, exchanged, ← ProgrammedDevice.exchange_number]
    exact ProgrammedDevice.exchange_accounts _ request
  | quote data => exact Quote.make_accounts bench.device data
  | getReport data vmpl =>
    exact clientCall_accounts (Client.getReport_watched · data vmpl)
      (Client.getReport_accounted · data vmpl)
  | getExtendedReport data vmpl =>
    exact clientCall_accounts (Client.getExtendedReport_watched · data vmpl)
      (Client.getExtendedReport_accounted · data vmpl)
  | getCertificates data =>
    exact clientCall_accounts (Client.getCertificates_watched · data)
      (Client.getCertificates_accounted · data)
  | getDerivedKey choice =>
    exact clientCall_accounts (Client.getDerivedKey_watched · choice)
      (Client.getDerivedKey_accounted · choice)
  | product => exact Activity.accounts_empty
  | addReport data canned => exact Activity.accounts_empty
  | addKey request key => exact Activity.accounts_empty
  | setCertificates certificates => exact Activity.accounts_empty
  | setProduct product => exact Activity.accounts_empty
  | setSigner signer => exact Activity.accounts_empty

/-- No action makes more than one use. -/
theorem length_stepUses_le (bench : Bench) (action : BenchAction) :
    (bench.stepUses action).length ≤ 1 := by
  cases action with
  | exchange number request =>
    rw [stepUses]
    exact ProgrammedDevice.length_callUses_le _
  | dispatch request =>
    rw [stepUses]
    exact ProgrammedDevice.length_callUses_le _
  | quote data => exact ProgrammedDevice.length_uses_le _
  | getReport data vmpl => exact length_clientUses_le (Client.getReport_accounted · data vmpl)
  | getExtendedReport data vmpl =>
    exact length_clientUses_le (Client.getExtendedReport_accounted · data vmpl)
  | getCertificates data => exact length_clientUses_le (Client.getCertificates_accounted · data)
  | getDerivedKey choice => exact length_clientUses_le (Client.getDerivedKey_accounted · choice)
  | _ => exact Nat.zero_le 1

/-- So no action asks the signer twice, not even one that sends several commands. -/
theorem length_signed_step_le (bench : Bench) (action : BenchAction) :
    (bench.step action).activity.signed.length ≤ 1 := by
  rw [(step_accounts action).signed]
  exact Nat.le_trans (List.length_filterMap_le _ _) (length_stepUses_le bench action)

/-- What was accounted for before a run stays so during the run. -/
theorem run_accounts (bench : Bench) (actions : List BenchAction) {before : Activity}
    {earlier : List ReportUse} (accounts : before.Accounts earlier) :
    ((bench.run actions).foldl (fun sum taken => sum ++ taken.activity) before).Accounts
      (earlier ++ bench.uses actions) := by
  induction actions generalizing bench before earlier with
  | nil =>
    rw [uses, List.append_nil]
    exact accounts
  | cons action rest ih =>
    rw [uses, ← List.append_assoc]
    exact ih (bench.step action).after (accounts.append (step_accounts action))

/-- Over every run, whatever signers it puts in place, the signer is handed the signed bytes of the
programmed reports that are used and not failed, in order and once for each use, and one warning is
logged for each use of a report that is failed. No action asks the signer twice, a client's request
for an extended report included. The signer is asked what the activities tell, and nothing else:
wherever a run leads, a command or a quote that tells of a message fails if the signer does, and
depends on no other answer of it. -/
theorem activity_accounts (bench : Bench) (actions : List BenchAction) :
    (bench.activity actions).signed = (bench.uses actions).filterMap ReportUse.signed? ∧
      ((bench.activity actions).log.filter fun record => record.level = .warn) =
        (bench.uses actions).filterMap ReportUse.warning? ∧
      (∀ action, ((bench.after actions).step action).activity.signed.length ≤ 1) ∧
      let device := (bench.after actions).device
      (∀ (command : Command) (number : UInt64) (request : GuestRequest command),
        let exchange := device.exchange number request
        device.Consulted exchange.exit exchange.activity
          fun other => (other.exchange number request).Agrees exchange) ∧
      ∀ data,
        let quote := Quote.make device data
        device.Consulted quote.result quote.activity
          fun other => Quote.make other data = quote := by
  obtain ⟨signed, warnings⟩ := run_accounts bench actions Activity.accounts_empty
  have once := (bench.after actions).length_signed_step_le
  refine ⟨signed, warnings, once, fun command number request => ?_, fun data => ?_⟩
  · exact ProgrammedDevice.exchange_consulted _ number request
  · exact Quote.make_consulted _ data

end Bench

end SnpTestbed
