import Mathlib.Algebra.Group.Nat.Defs
import SnpTestbed.Firmware

/-!
# Firmware statuses by their texts

A client is told of a failed request by a text, so statuses are told apart as far as their
texts are. The errors of both halves of a status are worded in one way, `Wording`: those
with a name have a text of their own, and all other codes share a label with the code
behind it. Then no two errors have the same text (`Wording.text_inj`); and if neither
half words anything like the label or a name of the other, no text belongs to both
(`Wording.Apart.text_ne`). What is left for each half is to look through its names.
-/
namespace SnpTestbed

/-- How errors are put into words: a text for each one that has a name, and for the others a label
with their code in decimal. No name is worded like another, or begins like the label. -/
structure Wording (ε : Type) where
  text : ε → String
  named : List ε
  unknown : UInt32 → ε
  label : String
  complete : ∀ error, error ∈ named ∨ ∃ code, error = unknown code
  labelled : ∀ code, text (unknown code) = label ++ toString code.toNat
  distinct : ∀ error ∈ named, ∀ other ∈ named, text error = text other → error = other
  unlabelled : ∀ error ∈ named, ¬label.toList <+: (text error).toList

namespace Wording

variable {ε φ : Type}

/-- Decimal digits tell their number. -/
theorem toString_toNat_inj {code other : UInt32} :
    toString code.toNat = toString other.toNat ↔ code = other := by
  constructor
  · intro same
    have digits : Nat.toDigits 10 code.toNat = Nat.toDigits 10 other.toNat := by
      rw [← Nat.toList_repr, ← Nat.toString_eq_repr, same, Nat.toString_eq_repr, Nat.toList_repr]
    apply UInt32.toNat_inj.mp
    rw [← Nat.ofDigitChars_ten_toDigits (n := code.toNat), digits, Nat.ofDigitChars_ten_toDigits]
  · rintro rfl
    rfl

theorem label_prefix (wording : Wording ε) (code : UInt32) :
    wording.label.toList <+: (wording.text (wording.unknown code)).toList := by
  rw [wording.labelled, String.toList_append]
  exact List.prefix_append ..

/-- The text of an error tells the error. -/
theorem text_inj (wording : Wording ε) {error other : ε} :
    wording.text error = wording.text other ↔ error = other := by
  constructor
  · intro same
    rcases wording.complete error with named | ⟨code, rfl⟩
    · rcases wording.complete other with otherNamed | ⟨code, rfl⟩
      · exact wording.distinct error named other otherNamed same
      · have unlabelled := wording.unlabelled error named
        rw [same] at unlabelled
        exact absurd (wording.label_prefix code) unlabelled
    · rcases wording.complete other with otherNamed | ⟨otherCode, rfl⟩
      · have unlabelled := wording.unlabelled other otherNamed
        rw [← same] at unlabelled
        exact absurd (wording.label_prefix code) unlabelled
      · rw [wording.labelled, wording.labelled, String.append_right_inj] at same
        rw [toString_toNat_inj.mp same]
  · rintro rfl
    rfl

/-- Two ways of wording share no name, no text of one begins like the label of the other, and
neither label begins like the other. -/
structure Apart (wording : Wording ε) (other : Wording φ) : Prop where
  names : ∀ error ∈ wording.named, ∀ foreign ∈ other.named,
    wording.text error ≠ other.text foreign
  unlabelled : ∀ error ∈ wording.named, ¬other.label.toList <+: (wording.text error).toList
  otherUnlabelled : ∀ foreign ∈ other.named,
    ¬wording.label.toList <+: (other.text foreign).toList
  labels : ¬wording.label.toList <+: other.label.toList ∧
    ¬other.label.toList <+: wording.label.toList

/-- Then no text belongs to both. -/
theorem Apart.text_ne {wording : Wording ε} {other : Wording φ} (apart : Apart wording other)
    (error : ε) (foreign : φ) : wording.text error ≠ other.text foreign := by
  intro same
  rcases wording.complete error with named | ⟨code, rfl⟩
  · rcases other.complete foreign with otherNamed | ⟨code, rfl⟩
    · exact apart.names error named foreign otherNamed same
    · have unlabelled := apart.unlabelled error named
      rw [same] at unlabelled
      exact unlabelled (other.label_prefix code)
  · have leads := wording.label_prefix code
    rw [same] at leads
    rcases other.complete foreign with otherNamed | ⟨otherCode, rfl⟩
    · exact apart.otherUnlabelled foreign otherNamed leads
    · -- Of two labels that lead one text, the shorter one leads the other.
      rcases List.prefix_or_prefix_of_prefix leads (other.label_prefix otherCode) with
        shorter | longer
      · exact apart.labels.1 shorter
      · exact apart.labels.2 longer

end Wording

/-- How errors of the hypervisor are worded. -/
def VmmError.wording : Wording VmmError where
  text := message
  named := [.invalidCertificatePageLength, .rateLimited]
  unknown := .unknown
  label := "unknown VMM error "
  complete error := by
    cases error with
    | unknown code => exact .inr ⟨code, rfl⟩
    | invalidCertificatePageLength | rateLimited => exact .inl (by decide)
  labelled _ := rfl
  distinct := by decide
  unlabelled := by decide

/-- How errors of the security processor are worded. -/
def ProcessorError.wording : Wording ProcessorError where
  text := message
  named := named.map Prod.snd
  unknown := .unknown
  label := "unknown SEV error "
  complete error := by
    cases error with
    | unknown code => exact .inr ⟨code, rfl⟩
    | _ => exact .inl (by decide)
  labelled _ := rfl
  distinct := by decide
  unlabelled := by decide

theorem wordings_apart : Wording.Apart VmmError.wording ProcessorError.wording where
  names := by decide
  unlabelled := by decide
  otherUnlabelled := by decide
  labels := by decide

/-- The code that an error of the hypervisor stands for. -/
def VmmError.code : VmmError → UInt32
  | .invalidCertificatePageLength => 1
  | .rateLimited => 2
  | .unknown code => code

theorem VmmError.code_ofCode (code : UInt32) : (ofCode code).code = code := by
  unfold ofCode
  split
  · next isFirst => exact isFirst.symm
  · split
    · next isSecond => exact isSecond.symm
    · rfl

/-- The code that an error of the security processor stands for. -/
def ProcessorError.code : ProcessorError → UInt32
  | .unknown code => code
  | error => ((named.find? fun entry => entry.2 == error).map Prod.fst).getD 0

theorem ProcessorError.code_ofCode (code : UInt32) : (ofCode code).code = code := by
  have table : ∀ entry ∈ named, entry.2.code = entry.1 := by decide
  unfold ofCode
  cases found : named.lookup code with
  | none => rfl
  | some error =>
    obtain ⟨before, after, split, _⟩ := List.lookup_eq_some_iff.mp found
    exact table (code, error) (split ▸ List.mem_append_right _ List.mem_cons_self)

/-- No two codes of the hypervisor stand for the same error. -/
theorem VmmError.ofCode_inj {code other : UInt32} : ofCode code = ofCode other ↔ code = other :=
  (Function.LeftInverse.injective code_ofCode).eq_iff

/-- No two codes of the security processor stand for the same error. -/
theorem ProcessorError.ofCode_inj {code other : UInt32} :
    ofCode code = ofCode other ↔ code = other :=
  (Function.LeftInverse.injective code_ofCode).eq_iff

/-- What a status can stand for: an error of one of its halves. -/
inductive FirmwareFault.OfHalf : FirmwareFault → Prop
  | vmm (error : VmmError) : OfHalf (.vmm error)
  | processor (error : ProcessorError) : OfHalf (.processor error)

/-- The text of an error of either half tells the half and the error. -/
theorem FirmwareFault.OfHalf.message_inj {fault other : FirmwareFault} (ofHalf : fault.OfHalf)
    (otherOfHalf : other.OfHalf) : fault.message = other.message ↔ fault = other := by
  cases ofHalf with
  | vmm error =>
    cases otherOfHalf with
    | vmm otherError =>
      rw [FirmwareFault.vmm.injEq]
      exact VmmError.wording.text_inj
    | processor foreign => exact iff_of_false (wordings_apart.text_ne error foreign) nofun
  | processor error =>
    cases otherOfHalf with
    | vmm foreign => exact iff_of_false (wordings_apart.text_ne foreign error).symm nofun
    | processor otherError =>
      rw [FirmwareFault.processor.injEq]
      exact ProcessorError.wording.text_inj

namespace FirmwareStatus

variable {status other : FirmwareStatus}

/-- The upper halves are the same and, where they are clear, the lower halves too. -/
def Alike (status other : FirmwareStatus) : Prop :=
  status.raw.toNat / 2 ^ 32 = other.raw.toNat / 2 ^ 32 ∧
    (status.raw.toNat / 2 ^ 32 = 0 → status.raw.toNat % 2 ^ 32 = other.raw.toNat % 2 ^ 32)

theorem toNat_vmmCode (status : FirmwareStatus) :
    status.vmmCode.toNat = status.raw.toNat / 2 ^ 32 := by
  have bounded := status.raw.toNat_lt
  rw [vmmCode, UInt64.toNat_toUInt32, UInt64.toNat_shiftRight, Nat.shiftRight_eq_div_pow,
    show (32 : UInt64).toNat % 64 = 32 by decide]
  omega

theorem toNat_processorCode (status : FirmwareStatus) :
    status.processorCode.toNat = status.raw.toNat % 2 ^ 32 :=
  UInt64.toNat_toUInt32 status.raw

theorem alike_iff : Alike status other ↔ status.vmmCode = other.vmmCode ∧
    (status.vmmCode = 0 → status.processorCode = other.processorCode) := by
  simp only [Alike, ← toNat_vmmCode, ← toNat_processorCode, UInt32.toNat_inj,
    show status.vmmCode.toNat = 0 ↔ status.vmmCode = 0 from UInt32.toNat_inj (b := 0)]

theorem fault_of_set (set : status.vmmCode ≠ 0) : status.fault = .vmm (.ofCode status.vmmCode) :=
  if_pos set

theorem fault_of_clear (clear : status.vmmCode = 0) :
    status.fault = .processor (.ofCode status.processorCode) :=
  if_neg (not_not_intro clear)

theorem ofHalf_fault (status : FirmwareStatus) : status.fault.OfHalf := by
  by_cases clear : status.vmmCode = 0
  · rw [fault_of_clear clear]
    exact .processor _
  · rw [fault_of_set clear]
    exact .vmm _

/-- Statuses have the same fault if they are alike. -/
theorem fault_inj : status.fault = other.fault ↔ Alike status other := by
  rw [alike_iff]
  by_cases clear : status.vmmCode = 0
  · rw [fault_of_clear clear, clear]
    by_cases otherClear : other.vmmCode = 0
    · rw [fault_of_clear otherClear, otherClear, FirmwareFault.processor.injEq,
        ProcessorError.ofCode_inj]
      simp only [true_and, true_implies]
    · rw [fault_of_set otherClear]
      exact iff_of_false nofun fun alike => otherClear alike.1.symm
  · rw [fault_of_set clear]
    by_cases otherClear : other.vmmCode = 0
    · rw [fault_of_clear otherClear]
      exact iff_of_false nofun fun alike => clear (alike.1.trans otherClear)
    · rw [fault_of_set otherClear, FirmwareFault.vmm.injEq, VmmError.ofCode_inj]
      exact (and_iff_left fun isClear => absurd isClear clear).symm

/-- Statuses have the same fault, and the same text, exactly if their upper halves are the same and,
where those are clear, their lower halves too. So a set upper half hides the lower one; no text of
the hypervisor is one of the security processor; and no two codes of the security processor, with a
name or without, share a text. -/
theorem statuses_told_apart :
    (∀ status other : FirmwareStatus, (status.fault = other.fault ↔ Alike status other) ∧
      (status.fault.message = other.fault.message ↔ Alike status other)) ∧
    (∀ status other : FirmwareStatus, status.raw.toNat / 2 ^ 32 ≠ 0 →
      status.raw.toNat / 2 ^ 32 = other.raw.toNat / 2 ^ 32 →
      status.fault.message = other.fault.message) ∧
    (∀ (error : VmmError) (foreign : ProcessorError), error.message ≠ foreign.message) ∧
    ∀ code other : UInt32, (ProcessorError.ofCode code).message =
      (ProcessorError.ofCode other).message ↔ code = other := by
  have texts (status other : FirmwareStatus) :
      status.fault.message = other.fault.message ↔ Alike status other :=
    (status.ofHalf_fault.message_inj other.ofHalf_fault).trans fault_inj
  refine ⟨fun status other => ⟨fault_inj, texts status other⟩,
    fun status other set same => (texts status other).mpr ⟨same, fun clear => absurd clear set⟩,
    fun error foreign => wordings_apart.text_ne error foreign, fun code other => ?codes⟩
  case codes =>
    exact ProcessorError.wording.text_inj.trans ProcessorError.ofCode_inj

/-- A refusal of the hypervisor with a code of the security processor behind it. -/
def refusedTwice : FirmwareStatus := ⟨0x200000016⟩

theorem statuses_told_apart_refusedTwice :
    refusedTwice.raw.toNat / 2 ^ 32 ≠ 0 ∧
      refusedTwice.fault.message = (FirmwareStatus.mk 0x200000000).fault.message ∧
      refusedTwice.fault.message ≠ (FirmwareStatus.mk 0x16).fault.message := by
  obtain ⟨told, hidden, _, _⟩ := statuses_told_apart
  have set : refusedTwice.raw.toNat / 2 ^ 32 ≠ 0 := by decide
  have differ : refusedTwice.raw.toNat / 2 ^ 32 ≠ (FirmwareStatus.mk 0x16).raw.toNat / 2 ^ 32 := by
    decide
  exact ⟨set, hidden refusedTwice ⟨0x200000000⟩ set (by decide),
    fun same => differ ((told refusedTwice ⟨0x16⟩).2.mp same).1⟩

end FirmwareStatus

end SnpTestbed
