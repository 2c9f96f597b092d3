import SnpTestbed.Proofs.Client.ExtendedReport
import SnpTestbed.Proofs.Request.LookupKey
import SnpTestbed.Proofs.Session.History

/-!
# Derived keys as they were registered

A device that keys were registered with answers a request with the key that was
registered last for just this request. `answerKey_noKeys_iff`, `answerKey_unmapped_iff`
and `answerKey_of_found` tell the three ways of a request apart by the device's catalog,
and `keys_withKeys` says what a sequence of registrations makes of that catalog. Nothing
that is done with the device between two requests shows in the second key.
-/
namespace SnpTestbed

namespace ProgrammedDevice

variable {device : ProgrammedDevice}

theorem answerKey_noKeys_iff {request : DerivedKeyRequest} {response : DerivedKeyResponse}
    {status : FirmwareStatus} :
    (device.answerKey request response status).exit = .error .noKeys ↔ device.keys.size = 0 := by
  have outcome := device.answerKey_outcome request response status
  generalize device.answerKey request response status = answer at outcome ⊢
  cases outcome with
  | noKeys empty => exact iff_of_true rfl empty
  | unmapped stocked absent => exact iff_of_false nofun stocked
  | copied stocked found => exact iff_of_false nofun stocked

theorem answerKey_unmapped_iff {request : DerivedKeyRequest} {response : DerivedKeyResponse}
    {status : FirmwareStatus} :
    (device.answerKey request response status).exit = .error (.unmappedKey request.lookupKey) ↔
      device.keys.size ≠ 0 ∧ device.keys.find? request.lookupKey = none := by
  have outcome := device.answerKey_outcome request response status
  generalize device.answerKey request response status = answer at outcome ⊢
  cases outcome with
  | noKeys empty => exact iff_of_false nofun fun stocked => stocked.1 empty
  | unmapped stocked absent => exact iff_of_true rfl ⟨stocked, absent⟩
  | copied stocked found =>
    rw [found]
    exact iff_of_false nofun nofun

theorem answerKey_of_found {request : DerivedKeyRequest} {stored : Bytes}
    (found : device.keys.find? request.lookupKey = some stored) (response : DerivedKeyResponse)
    (status : FirmwareStatus) :
    device.answerKey request response status =
      ⟨.ok .ok, ⟨0, copyKey response.key stored⟩, status, {}⟩ := by
  have stocked : device.keys.size ≠ 0 := by
    intro empty
    rw [Catalog.find?, List.eq_nil_of_length_eq_zero empty] at found
    contradiction
  simp only [answerKey, if_neg stocked, found]

/-- A stored key is copied as far as the response reaches, over what stood there. -/
theorem val_copyKey (key : Block derivedKeySize) (stored : Bytes) :
    (copyKey key stored).val =
      stored.take (min stored.length 32) ++ key.val.drop (min stored.length 32) := by
  have fitting : stored.take 32 = stored.take (min stored.length 32) := by
    rw [Nat.min_comm, ← List.take_eq_take_min]
  show Bytes.overwrite key.val 0 (stored.take 32) = _
  rw [fitting, Bytes.overwrite_zero, List.length_take_of_le (Nat.min_le_left _ _)]

/-- Over a response of zeros, a key is cut or padded to the response's size. -/
theorem val_copyKey_zeros (stored : Bytes) :
    (copyKey (Block.zeros _) stored).val = (stored ++ List.replicate 32 0).take 32 := by
  have padding : derivedKeySize - min stored.length 32 = min (32 - stored.length) 32 := by
    show 32 - min stored.length 32 = _
    omega
  rw [val_copyKey, Block.val_zeros, List.drop_replicate, padding, List.take_append,
    List.take_replicate, Nat.min_comm stored.length, ← List.take_eq_take_min]

/-- The device with keys registered one after the other. -/
def withKeys (device : ProgrammedDevice) (registrations : List (DerivedKeyRequest × Bytes)) :
    ProgrammedDevice :=
  registrations.foldl (fun device registration => device.withKey registration.1 registration.2)
    device

/-- Where a registration goes in the catalog of keys. -/
def keyEntry (registration : DerivedKeyRequest × Bytes) : String × Bytes :=
  (registration.1.lookupKey, registration.2)

theorem withKeys_eq (registrations : List (DerivedKeyRequest × Bytes)) :
    device.withKeys registrations =
      { device with
        keys := (registrations.map keyEntry).foldl
          (fun keys entry => keys.insert entry.1 entry.2) device.keys } := by
  induction registrations generalizing device with
  | nil => rfl
  | cons registration rest hypothesis => exact hypothesis

theorem keys_withKeys (registrations : List (DerivedKeyRequest × Bytes)) :
    (device.withKeys registrations).keys =
      (registrations.map keyEntry).foldl (fun keys entry => keys.insert entry.1 entry.2)
        device.keys := by
  rw [withKeys_eq]

theorem isOpen_withKeys (registrations : List (DerivedKeyRequest × Bytes)) :
    (device.withKeys registrations).isOpen = device.isOpen := by
  rw [withKeys_eq]

theorem isOpen_after_openAt (path : String) : (device.openAt path).after.isOpen = true := by
  cases isOpen : device.isOpen with
  | false => rw [openAt_of_isClosed isOpen]
  | true => rw [openAt_of_isOpen isOpen, isOpen]

theorem keys_after_openAt (path : String) : (device.openAt path).after.keys = device.keys := by
  cases isOpen : device.isOpen with
  | false => rw [openAt_of_isClosed isOpen]
  | true => rw [openAt_of_isOpen isOpen]

/-- A device without keys that was opened between two sequences of registrations. -/
def stocked (base : ProgrammedDevice) (path : String)
    (earlier later : List (DerivedKeyRequest × Bytes)) : ProgrammedDevice :=
  (({ base with keys := .empty }.withKeys earlier).openAt path).after.withKeys later

variable {base : ProgrammedDevice} {path : String}
  {earlier later : List (DerivedKeyRequest × Bytes)}

theorem isOpen_stocked : (stocked base path earlier later).isOpen = true := by
  rw [stocked, isOpen_withKeys, isOpen_after_openAt]

/-- Registered keys are kept whether they were registered before or after opening. -/
theorem keys_stocked :
    (stocked base path earlier later).keys = .ofList ((earlier ++ later).map keyEntry) := by
  rw [stocked, keys_withKeys, keys_after_openAt, keys_withKeys, Catalog.ofList, List.map_append,
    List.foldl_append]

/-- Registrations for other requests go elsewhere. -/
theorem keyEntry_ne_iff {registration : DerivedKeyRequest × Bytes} {request : DerivedKeyRequest} :
    (keyEntry registration).1 ≠ request.lookupKey ↔ registration.1 ≠ request :=
  not_congr DerivedKeyRequest.lookupKey_inj

theorem find?_stocked_eq_none_iff {request : DerivedKeyRequest} :
    (stocked base path earlier later).keys.find? request.lookupKey = none ↔
      ∀ registration ∈ earlier ++ later, registration.1 ≠ request := by
  rw [keys_stocked, Catalog.find?_ofList_eq_none_iff]
  simp only [List.forall_mem_map, keyEntry_ne_iff]

theorem find?_stocked_of_last {before after : List (DerivedKeyRequest × Bytes)}
    {request : DerivedKeyRequest} {key : Bytes}
    (registered : earlier ++ later = before ++ (request, key) :: after)
    (last : ∀ registration ∈ after, registration.1 ≠ request) :
    (stocked base path earlier later).keys.find? request.lookupKey = some key := by
  rw [keys_stocked, registered, List.map_append, List.map_cons]
  refine Catalog.find?_ofList_of_last ?_
  rw [List.forall_mem_map]
  exact fun registration member => keyEntry_ne_iff.mpr (last registration member)

theorem size_keys_stocked_eq_zero_iff :
    (stocked base path earlier later).keys.size = 0 ↔ earlier ++ later = [] := by
  rw [keys_stocked, Catalog.size_ofList_eq_zero_iff, List.map_eq_nil_iff]

end ProgrammedDevice

namespace Bench

open ProgrammedDevice

/-- A client of an open device is given the stored key, cut or padded, whatever it was given
before. -/
theorem getDerivedKey_of_found {bench : Bench} {choice : DerivedKeyChoice} {stored : Bytes}
    {version : Option UInt32} (held : bench.client = some version)
    (isOpen : bench.device.isOpen = true)
    (found : bench.device.keys.find? choice.request.lookupKey = some stored) :
    (bench.step (.getDerivedKey choice)).answer =
      .derivedKey (.ok (copyKey (Block.zeros _) stored)) := by
  simp only [step, clientCall, held, Client.getDerivedKey, Client.issue_eq_exchange]
  rw [exchange_of_isOpen isOpen]
  simp only [GuestRequest.make, answer, answerKey_of_found found]
  rfl

/-- Two requests share a lookup key only if they agree in all five fields; so a device answers with
the key that was registered last for the same fields, written over what the response held, and
refuses where there is none; and a client is given that key alone, cut or padded with zeros,
whatever was done with the device before. -/
theorem derivedKeys_exact :
    (∀ first second : DerivedKeyRequest, first.lookupKey = second.lookupKey ↔
      first.root = second.root ∧ first.fields = second.fields ∧ first.vmpl = second.vmpl ∧
        first.guestVersion = second.guestVersion ∧ first.tcbVersion = second.tcbVersion) ∧
    ∀ (base : ProgrammedDevice) (path : String)
      (earlier later : List (DerivedKeyRequest × Bytes)),
      let registrations := earlier ++ later
      let device := stocked base path earlier later
      (∀ (version : UInt32) (request : DerivedKeyRequest) (response : DerivedKeyResponse)
        (status : FirmwareStatus),
        let exchange := device.exchange Command.derivedKey.number
          ⟨version, .derivedKey request response, status⟩
        (exchange.exit = .error .noKeys ↔ registrations = []) ∧
        (exchange.exit = .error (.unmappedKey request.lookupKey) ↔
          registrations ≠ [] ∧ ∀ registration ∈ registrations, registration.1 ≠ request) ∧
        ∀ before key after, registrations = before ++ (request, key) :: after →
          (∀ registration ∈ after, registration.1 ≠ request) →
          let written := exchange.request.payload.keyResponse
          exchange.exit = .ok .ok ∧ written.status = 0 ∧
            written.key.val =
              key.take (min key.length 32) ++ response.key.val.drop (min key.length 32)) ∧
      ∀ (client : Option (Option UInt32)) (actions : List BenchAction),
        (∀ action ∈ actions, action.programs = false) →
        let bench := Bench.after ⟨device, client⟩ actions
        bench.device.isOpen = true → ∀ version, bench.client = some version →
        ∀ choice before key after, registrations = before ++ (choice.request, key) :: after →
          (∀ registration ∈ after, registration.1 ≠ choice.request) →
          ∃ returned, (bench.step (.getDerivedKey choice)).answer = .derivedKey (.ok returned) ∧
            returned.val = (key ++ List.replicate 32 0).take 32 := by
  refine ⟨fun first second => ?fields, fun base path earlier later => ⟨?command, ?client⟩⟩
  case fields =>
    rw [DerivedKeyRequest.lookupKey_inj]
    cases first
    cases second
    simp
  case command =>
    intro version request response status
    rw [exchange_of_isOpen isOpen_stocked]
    refine ⟨?_, ?_, ?_⟩
    · exact answerKey_noKeys_iff.trans size_keys_stocked_eq_zero_iff
    · exact answerKey_unmapped_iff.trans
        (and_congr (not_congr size_keys_stocked_eq_zero_iff) find?_stocked_eq_none_iff)
    · intro before key after registered last
      simp only [answer, answerKey_of_found (find?_stocked_of_last registered last), true_and]
      exact ⟨rfl, val_copyKey response.key key⟩
  case client =>
    intro client actions unprogrammed bench isOpen version held choice before key after registered
      last
    have kept : bench.device = stocked base path earlier later := by
      have wasOpen : (stocked base path earlier later).isOpen = true := isOpen_stocked
      rw [device_after unprogrammed, isOpen, ← wasOpen]
    have found : bench.device.keys.find? choice.request.lookupKey = some key := by
      rw [kept]
      exact find?_stocked_of_last registered last
    exact ⟨_, getDerivedKey_of_found held isOpen found, val_copyKey_zeros key⟩

/-- A choice of the machine's own key. -/
def ownKey : DerivedKeyChoice := ⟨false, ⟨0⟩, 1, 0, 4⟩

/-- A choice that differs from it in its privilege level. -/
def guestKey : DerivedKeyChoice := ⟨false, ⟨0⟩, 2, 0, 4⟩

theorem derivedKeys_exact_reregistered :
    let device := stocked { signer := .fixed ⟨Block.zeros _, Block.zeros _⟩ } guestDevicePath
      [(ownKey.request, List.replicate 40 7)]
      [(ownKey.request, [1, 2]), (guestKey.request, [3, 4, 5])]
    let bench := Bench.after ⟨device, some none⟩ [.getDerivedKey guestKey]
    ∃ returned, (bench.step (.getDerivedKey ownKey)).answer = .derivedKey (.ok returned) ∧
      returned.val = [1, 2] ++ List.replicate 30 0 := by
  obtain ⟨_, exact⟩ := derivedKeys_exact
  obtain ⟨_, client⟩ := exact { signer := .fixed ⟨Block.zeros _, Block.zeros _⟩ } guestDevicePath
    [(ownKey.request, List.replicate 40 7)]
    [(ownKey.request, [1, 2]), (guestKey.request, [3, 4, 5])]
  exact client (some none) [.getDerivedKey guestKey] (by decide) rfl none rfl ownKey
    [(ownKey.request, List.replicate 40 7)] [1, 2] [(guestKey.request, [3, 4, 5])] rfl (by decide)

end Bench

end SnpTestbed
