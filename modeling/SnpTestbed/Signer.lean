import SnpTestbed.Activity

/-!
# Signers and verifiers

A signer is a function from messages to signatures. The one that stands in for a
chip's own key signs with ECDSA; the others make signatures that a test can
predict, or none. A verifier is what the holder of a public key knows: which
pairs of scalars are signatures at all, and of which messages. Reports are
signed and verified through these two alone.
-/
namespace SnpTestbed

/-- Signs messages, each by a function of the message: a signer keeps no state. One that keeps a
state is covered only because every command, client call and quote asks its signer once at most, and
a single answer is that of some function; over a run, such a signer has to be replaced from one
question to the next. -/
structure Signer where
  sign : Bytes → Except GuestError Signature

namespace Signer

/-- Hands a message to the signer: its answer, with the message among what was signed. Devices
reach their signer by this call alone. -/
def ask (signer : Signer) (message : Bytes) : Outcome Signature :=
  { result := signer.sign message, activity := .signing message }

/-- Signs with a secret key. -/
def ecdsa (key : SecretKey) : Signer where
  sign message :=
    match Ecdsa.sign? key message with
    | some signature => .ok signature
    | none => .error (.signing .noSignature)

/-- Always gives the same signature. -/
def fixed (signature : Signature) : Signer where
  sign _ := .ok signature

/-- Never signs. -/
def failing (error : GuestError) : Signer where
  sign _ := .error error

/-- Combines every byte of a column of the message, which is written in rows of a scalar's size. -/
def foldColumn (combine : UInt8 → UInt8 → UInt8) (message : Bytes) (column : Nat) : UInt8 :=
  (message.zipIdx.filter fun entry => entry.2 % Curve.scalarSize = column).foldl
    (fun sum entry => combine sum entry.1) 0

/-- A scalar with the combined columns of a message. -/
def foldColumns (combine : UInt8 → UInt8 → UInt8) (message : Bytes) : Block Curve.scalarSize :=
  ⟨(List.range Curve.scalarSize).map (foldColumn combine message), by simp⟩

/-- Folds the message into the scalars: by exclusive or, and by addition. -/
def fold : Signer where
  sign message := .ok ⟨foldColumns (· ^^^ ·) message, foldColumns (· + ·) message⟩

end Signer

/-- Tells signatures from other pairs of scalars, and whose message they are of. -/
structure Verifier where
  admits : Signature → Bool
  accepts : Bytes → Signature → Bool

/-- Verifies with ECDSA under a public key. -/
def PublicKey.verifier (key : PublicKey) : Verifier where
  admits := Ecdsa.inRange
  accepts message signature := Ecdsa.verifies key message signature

/-- The key with a secret scalar. -/
def SecretKey.parse (bytes : Block Curve.scalarSize) : Except GuestError SecretKey :=
  match SecretKey.ofBytes? bytes with
  | some key => .ok key
  | none => .error (.signing .invalidSecret)

/-- Whether a report carries a signature of its signed bytes, and if not, why. -/
def verifyReport (report : Bytes) (verifier : Verifier) : Except GuestError Unit := do
  let signature ← (Report.signature report).mapError .report
  if !verifier.admits signature then throw (.signing .malformedSignature)
  let message ← (Report.signedComponent report).mapError .report
  if !verifier.accepts message signature then throw (.signing .doesNotVerify)

/-- Writes a signature over its signed bytes into a report. -/
def signReport (signer : Signer) (report : Bytes) : Except GuestError Bytes := do
  let message ← (Report.signedComponent report).mapError .report
  let signature ← signer.sign message
  (Report.withSignature signature report).mapError .report

end SnpTestbed
