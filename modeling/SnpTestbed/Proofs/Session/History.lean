import SnpTestbed.Proofs.Device.Refusals
import SnpTestbed.Session.Bench

/-!
# Histories of a device

Whatever is done with a device, short of programming it, moves it between open and
closed and changes nothing else: `move_of_unprogrammed` says so of one action and
`device_after` of a whole history. So a device that is open answers as it would after
any other history that leaves it open, and one that a client was given comes back as it
was.
-/
namespace SnpTestbed

namespace BenchAction

/-- Whether an action gives the device other answers. -/
def programs : BenchAction → Bool
  | .addReport _ _ | .addKey _ _ | .setCertificates _ | .setProduct _ | .setSigner _ => true
  | _ => false

/-- Whether an action is there to open the device. -/
def opens : BenchAction → Bool
  | .openAt _ | .attach _ => true
  | _ => false

/-- Whether an action is there to close the device. -/
def closes : BenchAction → Bool
  | .close | .detach => true
  | _ => false

/-- Whether an action is a request of the client. -/
def requests : BenchAction → Bool
  | .getReport _ _ | .getExtendedReport _ _ | .getCertificates _ | .getDerivedKey _ => true
  | _ => false

end BenchAction

namespace ProgrammedDevice

variable {device : ProgrammedDevice} {command : Command}

@[simp] theorem dispatch_device (request : GuestRequest command) :
    (device.dispatch request).device = device := by
  unfold dispatch
  split <;> rfl

@[simp] theorem exchange_device (number : UInt64) (request : GuestRequest command) :
    (device.exchange number request).device = device := by
  unfold exchange
  split
  · exact dispatch_device request
  · rfl

end ProgrammedDevice

namespace Client

variable {client : Client ProgrammedDevice}

@[simp] theorem issue_device {command : Command} (payload : Payload command) :
    (client.issue payload).device = client.device :=
  ProgrammedDevice.exchange_device _ _

@[simp] theorem holding_device : client.holding client.device = client := rfl

@[simp] theorem getReport_after (data : Option Report.Data) (vmpl : Option UInt32) :
    (client.getReport data vmpl).after = client := by
  unfold getReport
  split
  · rfl
  · simp only [issue_device, holding_device]

/-- None of the two or three exchanges for an extended report changes the device. -/
@[simp] theorem getExtendedReport_after (data : Option Report.Data) (vmpl : Option UInt32) :
    (client.getExtendedReport data vmpl).after = client := by
  unfold getExtendedReport
  split
  · rfl
  · simp only [issue_device, holding_device, getReport_after]
    split
    · rfl
    · split
      · split <;> rfl
      · rfl

@[simp] theorem getCertificates_after (data : Report.Data) :
    (client.getCertificates data).after = client :=
  getExtendedReport_after (some data) none

@[simp] theorem getDerivedKey_after (choice : DerivedKeyChoice) :
    (client.getDerivedKey choice).after = client := by
  simp only [getDerivedKey, issue_device, holding_device]

end Client

namespace Bench

variable {bench : Bench}

theorem after_clientCall {α : Type} (answer : Except GuestError α → BenchAnswer)
    {call : Client ProgrammedDevice → Call (Client ProgrammedDevice) α}
    (same : ∀ client, (call client).after = client) :
    (bench.clientCall answer call).after = bench := by
  unfold clientCall withDevice
  split
  · rfl
  · simp only [same]

/-- Requests of the client change nothing. -/
theorem after_step_of_requests {action : BenchAction} (requests : action.requests = true) :
    (bench.step action).after = bench := by
  cases action with
  | getReport data vmpl => exact after_clientCall _ fun client => client.getReport_after data vmpl
  | getExtendedReport data vmpl =>
    exact after_clientCall _ fun client => client.getExtendedReport_after data vmpl
  | getCertificates data => exact after_clientCall _ fun client => client.getCertificates_after data
  | getDerivedKey choice => exact after_clientCall _ fun client => client.getDerivedKey_after choice
  | _ => contradiction

/-- What an action does to the device. -/
inductive Move (bench : Bench) (action : BenchAction) : Prop
  | kept (same : (bench.step action).after.device = bench.device)
  | opened (opens : action.opens = true) (wasClosed : bench.device.isOpen = false)
    (succeeded : (bench.step action).answer = .finished (.ok ()))
    (now : (bench.step action).after.device = { bench.device with isOpen := true })
  | closed (closes : action.closes = true) (wasOpen : bench.device.isOpen = true)
    (succeeded : (bench.step action).answer = .finished (.ok ()))
    (now : (bench.step action).after.device = { bench.device with isOpen := false })

theorem move_openAt (path : String) : bench.Move (.openAt path) := by
  cases isOpen : bench.device.isOpen with
  | false =>
    have opened := bench.device.openAt_of_isClosed isOpen path
    exact .opened rfl isOpen (by simp only [step, opened]) (by simp only [step, withDevice, opened])
  | true =>
    have refused := bench.device.openAt_of_isOpen isOpen path
    exact .kept (by simp only [step, withDevice, refused])

theorem move_close : bench.Move .close := by
  cases isOpen : bench.device.isOpen with
  | false =>
    have refused := bench.device.close_of_isClosed isOpen
    exact .kept (by simp only [step, withDevice, refused])
  | true =>
    have closed := bench.device.close_of_isOpen isOpen
    exact .closed rfl isOpen (by simp only [step, closed]) (by simp only [step, withDevice, closed])

/-- A client is given a device that is closed. -/
theorem attach_of_isClosed (isClosed : bench.device.isOpen = false) (version : Option UInt32) :
    bench.attach version =
      ⟨.finished (.ok ()), ⟨{ bench.device with isOpen := true }, some version⟩,
        .logging (.debug ("opening mock device in place of " ++ guestDevicePath))⟩ := by
  have opened := ProgrammedDevice.openAt_of_isClosed isClosed guestDevicePath
  simp only [attach, Client.attach, CommandChannel.openAt, opened]
  rfl

theorem attach_of_isOpen (isOpen : bench.device.isOpen = true) (version : Option UInt32) :
    bench.attach version = ⟨.finished (.error .alreadyOpen), bench, {}⟩ := by
  have refused := ProgrammedDevice.openAt_of_isOpen isOpen guestDevicePath
  simp only [attach, Client.attach, CommandChannel.openAt, refused]
  rfl

/-- A client closes the device that it gives back. -/
theorem detach_of_isOpen {version : Option UInt32} (held : bench.client = some version)
    (isOpen : bench.device.isOpen = true) :
    bench.detach = ⟨.finished (.ok ()), ⟨{ bench.device with isOpen := false }, none⟩, {}⟩ := by
  have closed := ProgrammedDevice.close_of_isOpen isOpen
  simp only [detach, held, Client.detach, CommandChannel.close, closed]
  rfl

theorem detach_of_isClosed {version : Option UInt32} (held : bench.client = some version)
    (isClosed : bench.device.isOpen = false) :
    bench.detach = ⟨.finished (.error .alreadyClosed), ⟨bench.device, none⟩, {}⟩ := by
  have refused := ProgrammedDevice.close_of_isClosed isClosed
  simp only [detach, held, Client.detach, CommandChannel.close, refused]
  rfl

theorem move_attach (version : Option UInt32) : bench.Move (.attach version) := by
  cases isOpen : bench.device.isOpen with
  | false =>
    have attached := attach_of_isClosed isOpen version
    exact .opened rfl isOpen (by simp only [step, attached]) (by simp only [step, attached])
  | true =>
    have refused := attach_of_isOpen isOpen version
    exact .kept (by simp only [step, refused])

theorem move_detach : bench.Move .detach := by
  cases held : bench.client with
  | none => exact .kept (by simp only [step, detach, held])
  | some version =>
    cases isOpen : bench.device.isOpen with
    | false =>
      have refused := detach_of_isClosed held isOpen
      exact .kept (by simp only [step, refused])
    | true =>
      have detached := detach_of_isOpen held isOpen
      exact .closed rfl isOpen (by simp only [step, detached]) (by simp only [step, detached])

theorem move_of_requests {action : BenchAction} (requests : action.requests = true) :
    bench.Move action :=
  .kept (congrArg device (after_step_of_requests requests))

/-- Every action that does not program the device keeps it as it is, opens it, or closes it. -/
theorem move_of_unprogrammed {action : BenchAction} (unprogrammed : action.programs = false) :
    bench.Move action := by
  cases action with
  | openAt path => exact move_openAt path
  | close => exact move_close
  | attach version => exact move_attach version
  | detach => exact move_detach
  | product => exact .kept rfl
  | quote data => exact .kept rfl
  | exchange number request => exact .kept (ProgrammedDevice.exchange_device number request)
  | dispatch request => exact .kept (ProgrammedDevice.dispatch_device request)
  | getReport data vmpl => exact move_of_requests rfl
  | getExtendedReport data vmpl => exact move_of_requests rfl
  | getCertificates data => exact move_of_requests rfl
  | getDerivedKey choice => exact move_of_requests rfl
  | addReport data canned => contradiction
  | addKey request key => contradiction
  | setCertificates certificates => contradiction
  | setProduct product => contradiction
  | setSigner signer => contradiction

/-- All that a move can change is whether the device is open. -/
theorem Move.device_eq {action : BenchAction} (move : bench.Move action) :
    (bench.step action).after.device =
      { bench.device with isOpen := (bench.step action).after.device.isOpen } := by
  cases move with
  | kept same => rw [same]
  | opened opens wasClosed succeeded now => rw [now]
  | closed closes wasOpen succeeded now => rw [now]

/-- All that a history can change of a device that nothing programs is whether it is open. -/
theorem device_after {actions : List BenchAction}
    (unprogrammed : ∀ action ∈ actions, action.programs = false) :
    (bench.after actions).device =
      { bench.device with isOpen := (bench.after actions).device.isOpen } := by
  induction actions generalizing bench with
  | nil => rfl
  | cons action rest ih =>
    obtain ⟨first, others⟩ := List.forall_mem_cons.mp unprogrammed
    have taken : (bench.step action).after.device =
        { bench.device with isOpen := (bench.step action).after.device.isOpen } :=
      (move_of_unprogrammed first).device_eq
    have reached : bench.after (action :: rest) = (bench.step action).after.after rest := rfl
    rw [reached, ih others, taken]

theorem after_of_requests {actions : List BenchAction}
    (requests : ∀ action ∈ actions, action.requests = true) : bench.after actions = bench := by
  induction actions with
  | nil => rfl
  | cons action rest ih =>
    obtain ⟨first, others⟩ := List.forall_mem_cons.mp requests
    have reached : bench.after (action :: rest) = (bench.step action).after.after rest := rfl
    rw [reached, after_step_of_requests first, ih others]

/-- A client that was given a closed device gives it back as it was. -/
theorem detach_after_requests (isClosed : bench.device.isOpen = false) (version : Option UInt32)
    {requests : List BenchAction} (asked : ∀ action ∈ requests, action.requests = true) :
    (bench.step (.attach version)).answer = .finished (.ok ()) ∧
      ((bench.after (.attach version :: requests)).step .detach).answer = .finished (.ok ()) ∧
      ((bench.after (.attach version :: requests)).step .detach).after = ⟨bench.device, none⟩ := by
  have attached := attach_of_isClosed isClosed version
  have reached : bench.after (.attach version :: requests) =
      ⟨{ bench.device with isOpen := true }, some version⟩ := by
    show (bench.attach version).after.after requests = _
    rw [attached, after_of_requests asked]
  rw [reached, step, step, attached, detach_of_isOpen rfl rfl]
  refine ⟨rfl, rfl, ?_⟩
  dsimp only
  rw [← isClosed]

/-- However a device was used, short of programming it, it is still the device that it was, open
or closed: it takes up and refuses commands by that alone, and answers those that it takes up as
at any other time. -/
theorem history_independent (bench : Bench) (actions : List BenchAction)
    (unprogrammed : ∀ action ∈ actions, action.programs = false) :
    let reached := bench.after actions
    reached.device = { bench.device with isOpen := reached.device.isOpen } ∧
    (∀ action, action.programs = false → reached.Move action) ∧
    reached.device.KeepsGate ∧
    (∀ others, (∀ action ∈ others, action.programs = false) →
      let elsewhere := bench.after others
      reached.device.isOpen = true → elsewhere.device.isOpen = true →
      ∀ {command : Command} (number : UInt64) (request : GuestRequest command),
        reached.device.exchange number request = elsewhere.device.exchange number request ∧
          reached.device.dispatch request = elsewhere.device.dispatch request) ∧
    (reached.device.isOpen = false → ∀ version requests,
      (∀ action ∈ requests, action.requests = true) →
      let held := reached.after (.attach version :: requests)
      (reached.step (.attach version)).answer = .finished (.ok ()) ∧
        (held.step .detach).answer = .finished (.ok ()) ∧
        (held.step .detach).after = ⟨reached.device, none⟩) := by
  refine ⟨device_after unprogrammed, fun action => move_of_unprogrammed, ?gate, ?elsewhere, ?client⟩
  case gate => exact ProgrammedDevice.keepsGate _
  case elsewhere =>
    intro others unprogrammedToo elsewhere isOpen isOpenToo command number request
    have same : (bench.after actions).device = elsewhere.device := by
      rw [device_after unprogrammed, device_after unprogrammedToo, isOpen, isOpenToo]
    rw [same]
    exact ⟨rfl, rfl⟩
  case client =>
    intro isClosed version requests asked
    exact detach_after_requests isClosed version asked

/-- A closed device that nobody holds. -/
def idle : Bench := ⟨{ signer := .fixed ⟨Block.zeros _, Block.zeros _⟩ }, none⟩

/-- A device is opened, is asked under a wrong number, and is closed. -/
def trial : List BenchAction :=
  [.openAt guestDevicePath, .exchange 0 (.make none (.derivedKey {} {})), .close]

theorem history_independent_trial :
    let held := (idle.after trial).after [.attach none, .getReport none none]
    (∀ action ∈ trial, action.programs = false) ∧ (held.step .detach).after = idle := by
  have unprogrammed : ∀ action ∈ trial, action.programs = false := by decide
  obtain ⟨kept, _, _, _, lent⟩ := history_independent idle trial unprogrammed
  have isClosed : (idle.after trial).device.isOpen = false := rfl
  obtain ⟨_, _, returned⟩ :=
    lent isClosed none [.getReport none none] (by decide)
  rw [isClosed] at kept
  rw [kept] at returned
  exact ⟨unprogrammed, returned⟩

end Bench

end SnpTestbed
