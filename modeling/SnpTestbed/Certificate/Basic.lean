import SnpTestbed.Guid

/-!
# Certificates

A certificate is named by its kind, and every kind has a GUID. Several kinds can
share a GUID: one given by its GUID alone stays apart from the known kind with
that GUID. The order puts the kinds by rank, those given by GUID by their GUID,
and certificates of one kind by their data.
-/
namespace SnpTestbed

/-- What a certificate is. -/
inductive CertificateKind
  | empty
  | ark
  | ask
  | vcek
  | vlek
  | crl
  | platformInfo
  | other (guid : Guid)
  deriving DecidableEq

namespace CertificateKind

/-- The kinds with a GUID of their own. -/
def known : List CertificateKind := [.empty, .ark, .ask, .vcek, .vlek, .crl, .platformInfo]

/-- The GUID of a kind. -/
def guid : CertificateKind → Guid
  | .empty => Guid.nil
  | .ark => Guid.ofNat 0xc0b406a4a803495297433fb6014cd0ae
  | .ask => Guid.ofNat 0x4ab7b379bbac4fe4a02f05aef327c782
  | .vcek => Guid.ofNat 0x63da758de6644564adc5f4b93be8accd
  | .vlek => Guid.ofNat 0xa8074bc2a25a483eaae639c045a0b8a1
  | .crl => Guid.ofNat 0x92f81bc358114d3d97ffd19f88dc67ea
  | .platformInfo => Guid.ofNat 0xecae0c0f950243b1afa20ae2e0d565b6
  | .other guid => guid

/-- The known kind with a GUID, or the kind that is just that GUID. -/
def ofGuid (guid : Guid) : CertificateKind :=
  (known.find? fun kind => kind.guid == guid).getD (.other guid)

/-- A kind found by its GUID has that GUID. -/
@[simp] theorem guid_ofGuid (guid : Guid) : (ofGuid guid).guid = guid := by
  unfold ofGuid
  cases found : known.find? fun kind => kind.guid == guid with
  | none => rfl
  | some kind =>
    have same := List.find?_some found
    simpa using same

/-- The place of a kind in the order. -/
def rank : CertificateKind → Nat
  | .ark => 0
  | .vcek => 1
  | .vlek => 2
  | .ask => 3
  | .crl => 4
  | .platformInfo => 5
  | .other _ => 6
  | .empty => 7

/-- The order of two kinds. -/
protected def compare (left right : CertificateKind) : Ordering :=
  match left, right with
  | .other first, .other second => compare first second
  | _, _ => compare left.rank right.rank

instance : Ord CertificateKind := ⟨CertificateKind.compare⟩

/-- The name of a kind in documents; a kind given by GUID is written with it. -/
def label : CertificateKind → String
  | .empty => "Empty"
  | .ark => "ARK"
  | .ask => "ASK"
  | .vcek => "VCEK"
  | .vlek => "VLEK"
  | .crl => "CRL"
  | .platformInfo => "ExtraPlatformInfo"
  | .other _ => "OTHER"

end CertificateKind

/-- A certificate of some kind. -/
structure Certificate where
  kind : CertificateKind
  data : Bytes
  deriving DecidableEq

namespace Certificate

/-- The certificate with a GUID. -/
def ofGuid (guid : Guid) (data : Bytes) : Certificate := ⟨CertificateKind.ofGuid guid, data⟩

@[simp] theorem data_ofGuid (guid : Guid) (data : Bytes) : (ofGuid guid data).data = data := rfl

@[simp] theorem guid_kind_ofGuid (guid : Guid) (data : Bytes) :
    (ofGuid guid data).kind.guid = guid :=
  CertificateKind.guid_ofGuid guid

/-- The order of two certificates: by kind, then by data. -/
protected def compare (left right : Certificate) : Ordering :=
  (compare left.kind right.kind).then (compare left.data right.data)

instance : Ord Certificate := ⟨Certificate.compare⟩

/-- The certificates in ascending order. -/
def sort (certificates : List Certificate) : List Certificate :=
  certificates.mergeSort fun left right => (compare left right).isLE

end Certificate

end SnpTestbed
