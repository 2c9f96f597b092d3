import SnpTestbed.Client
import SnpTestbed.Quote

/-!
# Benches

A bench is a programmed device and whoever holds it: a test that works on the
device itself, or a client. Every action works in both cases, except that client
calls need a client. A run of actions yields the answer and the activity of each
of them, so statements about whole histories of a device are statements about
runs. The signer can be replaced between any two actions: so runs are also those
of a device whose signer keeps a state, since no action asks the signer twice.
-/
namespace SnpTestbed

/-- A device, and the message version of the client that holds it, if one does. -/
structure Bench where
  device : ProgrammedDevice
  client : Option (Option UInt32) := none

/-- Something done on a bench. -/
inductive BenchAction
  | openAt (path : String)
  | close
  | product
  | exchange (number : UInt64) {command : Command} (request : GuestRequest command)
  | dispatch {command : Command} (request : GuestRequest command)
  | quote (data : Report.Data)
  | addReport (data : Report.Data) (canned : CannedReport)
  | addKey (request : DerivedKeyRequest) (key : Bytes)
  | setCertificates (certificates : Bytes)
  | setProduct (product : Option Product)
  /-- A signer that keeps a state is another one after it was asked. -/
  | setSigner (signer : Signer)
  | attach (version : Option UInt32)
  | detach
  | getReport (data : Option Report.Data) (vmpl : Option UInt32)
  | getExtendedReport (data : Option Report.Data) (vmpl : Option UInt32)
  | getCertificates (data : Report.Data)
  | getDerivedKey (choice : DerivedKeyChoice)

/-- The answer to an action. -/
inductive BenchAnswer
  | finished (result : Except GuestError Unit)
  | product (product : Product)
  | exchanged (exit : Except GuestError ExitResult) {command : Command}
    (request : GuestRequest command)
  | quote (result : Except GuestError Bytes)
  | changed
  | report (result : Except GuestError Report.Body)
  | certifiedReport (result : Except GuestError CertifiedReport)
  | certificates (result : Except GuestError (List Certificate))
  | derivedKey (result : Except GuestError (Block derivedKeySize))
  | noClient

/-- An answer, the bench after it, and what was done on the way. -/
structure BenchStep where
  answer : BenchAnswer
  after : Bench
  activity : Activity := {}

namespace Bench

/-- The bench with its device changed. -/
def withDevice (bench : Bench) (device : ProgrammedDevice) : Bench := { bench with device }

/-- A call of the client, if there is one. -/
def clientCall {α : Type} (bench : Bench) (answer : Except GuestError α → BenchAnswer)
    (call : Client ProgrammedDevice → Call (Client ProgrammedDevice) α) : BenchStep :=
  match bench.client with
  | none => ⟨.noClient, bench, {}⟩
  | some version =>
    let called := call ⟨bench.device, version⟩
    ⟨answer called.result, bench.withDevice called.after.device, called.activity⟩

/-- The step of an exchange. -/
def exchanged {command : Command} (bench : Bench) (exchange : Exchange ProgrammedDevice command) :
    BenchStep :=
  ⟨.exchanged exchange.exit exchange.request, bench.withDevice exchange.device, exchange.activity⟩

/-- Hands a copy of the device to a new client; if that fails, nothing changes. -/
def attach (bench : Bench) (version : Option UInt32) : BenchStep :=
  let outcome := Client.attach bench.device version
  match outcome.result with
  | .ok client => ⟨.finished (.ok ()), ⟨client.device, some version⟩, outcome.activity⟩
  | .error error => ⟨.finished (.error error), bench, outcome.activity⟩

/-- Takes the device back from the client, as the client leaves it or, if closing fails, as it
was. -/
def detach (bench : Bench) : BenchStep :=
  match bench.client with
  | none => ⟨.noClient, bench, {}⟩
  | some version =>
    let outcome := (Client.mk bench.device version).detach
    match outcome.result with
    | .ok device => ⟨.finished (.ok ()), ⟨device, none⟩, outcome.activity⟩
    | .error error => ⟨.finished (.error error), ⟨bench.device, none⟩, outcome.activity⟩

/-- Carries out an action. -/
def step (bench : Bench) : BenchAction → BenchStep
  | .openAt path =>
    let call := bench.device.openAt path
    ⟨.finished call.result, bench.withDevice call.after, call.activity⟩
  | .close =>
    let call := bench.device.close
    ⟨.finished call.result, bench.withDevice call.after, call.activity⟩
  | .product => ⟨.product bench.device.product, bench, {}⟩
  | .exchange number request => bench.exchanged (bench.device.exchange number request)
  | .dispatch request => bench.exchanged (bench.device.dispatch request)
  | .quote data =>
    let outcome := Quote.make bench.device data
    ⟨.quote outcome.result, bench, outcome.activity⟩
  | .addReport data canned => ⟨.changed, bench.withDevice (bench.device.withReport data canned), {}⟩
  | .addKey request key => ⟨.changed, bench.withDevice (bench.device.withKey request key), {}⟩
  | .setCertificates certificates =>
    ⟨.changed, bench.withDevice (bench.device.withCertificates certificates), {}⟩
  | .setProduct product => ⟨.changed, bench.withDevice (bench.device.withProduct product), {}⟩
  | .setSigner signer => ⟨.changed, bench.withDevice (bench.device.withSigner signer), {}⟩
  | .attach version => bench.attach version
  | .detach => bench.detach
  | .getReport data vmpl => bench.clientCall .report (·.getReport data vmpl)
  | .getExtendedReport data vmpl =>
    bench.clientCall .certifiedReport (·.getExtendedReport data vmpl)
  | .getCertificates data => bench.clientCall .certificates (·.getCertificates data)
  | .getDerivedKey choice => bench.clientCall .derivedKey (·.getDerivedKey choice)

/-- Carries out actions in order. -/
def run (bench : Bench) : List BenchAction → List BenchStep
  | [] => []
  | action :: rest =>
    let taken := bench.step action
    taken :: taken.after.run rest

/-- The bench after actions in order. -/
def after (bench : Bench) (actions : List BenchAction) : Bench :=
  actions.foldl (fun bench action => (bench.step action).after) bench

/-- What was done during actions in order. -/
def activity (bench : Bench) (actions : List BenchAction) : Activity :=
  (bench.run actions).foldl (fun sum taken => sum ++ taken.activity) {}

end Bench

end SnpTestbed
