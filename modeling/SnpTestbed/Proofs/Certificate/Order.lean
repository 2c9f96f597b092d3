import SnpTestbed.Certificate.Basic

/-!
# The order of certificates

Kinds are ordered by their rank, and those of one rank by the GUID that they are given
by; only `CertificateKind.other` is given by one, so no other two kinds share a rank.
Certificates are ordered by kind and then by data. No two of them are told apart by
less than what they are, which makes the order a lawful one, and `Certificate.sort` the
only way to put certificates in ascending order.
-/
namespace SnpTestbed

namespace Guid

instance : Std.TransOrd Guid :=
  inferInstanceAs (Std.TransCmp (compareOn fun guid : Guid => guid.octets.val))

instance : Std.LawfulEqOrd Guid where
  eq_of_compare {left right} equal := by
    obtain ⟨octets, sized⟩ := left
    obtain ⟨octetsToo, sizedToo⟩ := right
    have same : octets = octetsToo := Std.LawfulEqOrd.eq_of_compare equal
    subst same
    rfl

end Guid

namespace CertificateKind

/-- The GUID that a kind is given by, where it is. -/
def given : CertificateKind → Guid
  | .other guid => guid
  | _ => .nil

/-- Kinds are compared by rank, and those of one rank by the GUID that they are given by. -/
theorem compare_eq (left right : CertificateKind) :
    compare left right =
      (compare left.rank right.rank).then (compare left.given right.given) := by
  cases left <;> cases right <;> rfl

/-- Rank and given GUID are all there is to a kind. -/
theorem eq_of_rank_of_given {left right : CertificateKind} (sameRank : left.rank = right.rank)
    (sameGiven : left.given = right.given) : left = right := by
  cases left <;> cases right <;> simp_all [rank, given]

instance : Std.TransOrd CertificateKind := by
  have lexicographic : (compare : CertificateKind → CertificateKind → Ordering) =
      compareLex (compareOn rank) (compareOn given) := by
    funext left right
    exact compare_eq left right
  rw [Std.TransOrd, lexicographic]
  infer_instance

instance : Std.LawfulEqOrd CertificateKind where
  eq_of_compare {left right} equal := by
    rw [compare_eq, Ordering.then_eq_eq] at equal
    exact eq_of_rank_of_given (Std.LawfulEqOrd.eq_of_compare equal.1)
      (Std.LawfulEqOrd.eq_of_compare equal.2)

end CertificateKind

namespace Certificate

/-- Certificates are compared by kind, and those of one kind by their data. -/
theorem compare_eq (left right : Certificate) :
    compare left right =
      (compare left.kind right.kind).then (compare left.data right.data) := rfl

instance : Std.TransOrd Certificate :=
  inferInstanceAs (Std.TransCmp (compareLex (compareOn kind) (compareOn data)))

instance : Std.LawfulEqOrd Certificate where
  eq_of_compare {left right} equal := by
    rw [compare_eq, Ordering.then_eq_eq] at equal
    obtain ⟨kind, data⟩ := left
    obtain ⟨kindToo, dataToo⟩ := right
    have sameKind : kind = kindToo := Std.LawfulEqOrd.eq_of_compare equal.1
    have sameData : data = dataToo := Std.LawfulEqOrd.eq_of_compare equal.2
    rw [sameKind, sameData]

/-- Each certificate comes no later than the next. -/
def Ascending (certificates : List Certificate) : Prop :=
  certificates.Pairwise fun earlier later => (compare earlier later).isLE = true

instance (certificates : List Certificate) : Decidable (Ascending certificates) :=
  inferInstanceAs (Decidable (List.Pairwise _ certificates))

theorem isLE_total (left right : Certificate) :
    (compare left right).isLE = true ∨ (compare right left).isLE = true := by
  have swapped : compare right left = (compare left right).swap := Std.OrientedCmp.eq_swap
  rw [swapped]
  cases compare left right with
  | lt => exact .inl rfl
  | eq => exact .inl rfl
  | gt => exact .inr rfl

theorem isLE_antisymm {left right : Certificate} (before : (compare left right).isLE = true)
    (after : (compare right left).isLE = true) : left = right :=
  Std.LawfulEqOrd.eq_of_compare (Std.OrientedCmp.isLE_antisymm before after)

variable {certificates : List Certificate}

theorem ascending_sort (certificates : List Certificate) : Ascending (sort certificates) := by
  refine List.pairwise_mergeSort (fun first second third => Std.TransCmp.isLE_trans) ?_ certificates
  intro left right
  rw [Bool.or_eq_true]
  exact isLE_total left right

/-- There is one way only to put certificates in ascending order. -/
theorem eq_sort_iff {ordered : List Certificate} :
    ordered = sort certificates ↔ ordered.Perm certificates ∧ Ascending ordered := by
  have permuted : (sort certificates).Perm certificates := List.mergeSort_perm ..
  constructor
  · rintro rfl
    exact ⟨permuted, ascending_sort certificates⟩
  · rintro ⟨perm, ascending⟩
    exact List.Perm.eq_of_pairwise (fun _ _ _ _ => isLE_antisymm) ascending
      (ascending_sort certificates) (perm.trans permuted.symm)

/-- Sorting forgets the order from before. -/
theorem sort_eq_of_perm {others : List Certificate} (same : certificates.Perm others) :
    sort certificates = sort others := by
  have permuted : (sort certificates).Perm certificates := List.mergeSort_perm ..
  exact eq_sort_iff.mpr ⟨permuted.trans same, ascending_sort certificates⟩

end Certificate

end SnpTestbed
