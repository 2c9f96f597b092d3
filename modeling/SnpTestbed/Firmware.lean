import SnpTestbed.Text.Hex

/-!
# Firmware status

A guest request reports failures in one 64-bit status: the upper half is set by
the hypervisor, the lower half by the security processor. A set upper half hides
the lower one.
-/
namespace SnpTestbed

/-- The status of a guest request; zero means success. -/
structure FirmwareStatus where
  raw : UInt64
  deriving DecidableEq, Repr, Inhabited

/-- Errors of the hypervisor. -/
inductive VmmError
  | invalidCertificatePageLength
  | rateLimited
  | unknown (code : UInt32)
  deriving DecidableEq, Repr

/-- Errors of the security processor. -/
inductive ProcessorError
  | invalidPlatformState
  | invalidGuestState
  | invalidConfig
  | invalidLength
  | invalidAddress
  | badSignature
  | badMeasurement
  | invalidGuest
  | invalidCommand
  | unsupported
  | invalidParameter
  | resourceLimit
  | aeadOverflow
  | badSecurityVersion
  | badVersion
  | invalidKey
  | unknown (code : UInt32)
  deriving DecidableEq, Repr

namespace FirmwareStatus

/-- The status of a request that succeeded. -/
def success : FirmwareStatus := ⟨0⟩

/-- The status that refuses the length of a certificate buffer. -/
def invalidLength : FirmwareStatus := ⟨0x100000000⟩

/-- Whether neither half is set. -/
def isSuccess (status : FirmwareStatus) : Bool := status.raw == 0

/-- The half set by the hypervisor. -/
def vmmCode (status : FirmwareStatus) : UInt32 := (status.raw >>> 32).toUInt32

/-- The half set by the security processor. -/
def processorCode (status : FirmwareStatus) : UInt32 := status.raw.toUInt32

/-- The status in hexadecimal. -/
def text (status : FirmwareStatus) : String := "0x" ++ Hex.ofNat status.raw.toNat

end FirmwareStatus

namespace VmmError

/-- The error of a code. -/
def ofCode (code : UInt32) : VmmError :=
  if code = 1 then .invalidCertificatePageLength
  else if code = 2 then .rateLimited
  else .unknown code

/-- The text of an error. -/
def message : VmmError → String
  | .invalidCertificatePageLength => "invalid certificate page length"
  | .rateLimited => "rate limited, retry the request"
  | .unknown code => "unknown VMM error " ++ toString code.toNat

end VmmError

namespace ProcessorError

/-- The errors that have a name, with their codes. -/
def named : List (UInt32 × ProcessorError) := [
  (0x01, .invalidPlatformState), (0x02, .invalidGuestState), (0x03, .invalidConfig),
  (0x04, .invalidLength), (0x09, .invalidAddress), (0x0A, .badSignature),
  (0x0B, .badMeasurement), (0x10, .invalidGuest), (0x11, .invalidCommand), (0x15, .unsupported),
  (0x16, .invalidParameter), (0x17, .resourceLimit), (0x1D, .aeadOverflow),
  (0x21, .badSecurityVersion), (0x22, .badVersion), (0x27, .invalidKey)]

/-- The error of a code. -/
def ofCode (code : UInt32) : ProcessorError :=
  (named.lookup code).getD (.unknown code)

/-- The text of an error. -/
def message : ProcessorError → String
  | .invalidPlatformState => "invalid platform state"
  | .invalidGuestState => "invalid guest state"
  | .invalidConfig => "invalid config"
  | .invalidLength => "invalid length"
  | .invalidAddress => "invalid address"
  | .badSignature => "bad signature"
  | .badMeasurement => "bad measurement"
  | .invalidGuest => "invalid guest"
  | .invalidCommand => "invalid command"
  | .unsupported => "unsupported"
  | .invalidParameter => "invalid parameter"
  | .resourceLimit => "resource limit"
  | .aeadOverflow => "AEAD overflow"
  | .badSecurityVersion => "bad SVN"
  | .badVersion => "bad version"
  | .invalidKey => "invalid key"
  | .unknown code => "unknown SEV error " ++ toString code.toNat

end ProcessorError

/-- What a client is told when a request fails in the firmware or the request makes no sense. -/
inductive FirmwareFault
  | vmm (error : VmmError)
  | processor (error : ProcessorError)
  | vmplOutOfRange (vmpl : UInt32)
  | reportRefused (status : UInt32)
  | keyRefused (status : UInt32)
  | noCertificates
  | described (text : String)
  deriving DecidableEq, Repr

/-- The text of a fault. -/
def FirmwareFault.message : FirmwareFault → String
  | .vmm error => error.message
  | .processor error => error.message
  | .vmplOutOfRange vmpl => "VMPL " ++ toString vmpl.toNat ++ " out of range"
  | .reportRefused status => "SEV error code: " ++ toString status.toNat
  | .keyRefused status => "SEV Error code: " ++ toString status.toNat
  | .noCertificates => "No certificates were loaded by the host!"
  | .described text => text

/-- The fault that a failed request's status stands for: the hypervisor's half if it is set. -/
def FirmwareStatus.fault (status : FirmwareStatus) : FirmwareFault :=
  if status.vmmCode ≠ 0 then .vmm (VmmError.ofCode status.vmmCode)
  else .processor (ProcessorError.ofCode status.processorCode)

end SnpTestbed
