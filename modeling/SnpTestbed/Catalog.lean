import SnpTestbed.Bytes

/-!
# Text-keyed catalogs

A catalog holds at most one value under each text. Its entries stand in
ascending order of the keys' UTF-8 octets, so that two catalogs with the same
values are the same list of entries, and walking one visits keys in that order.
-/
namespace SnpTestbed

/-- The order of two keys by their UTF-8 octets. -/
def keyOrder : String → String → Ordering := compareOn Bytes.ofText

instance : Std.TransCmp keyOrder := inferInstanceAs (Std.TransCmp (compareOn Bytes.ofText))

instance : Std.LawfulEqCmp keyOrder where
  eq_of_compare equal := Bytes.ofText_inj (Std.LawfulEqOrd.eq_of_compare equal)

/-- Texts with their values, in ascending order of the texts. -/
structure Catalog (α : Type) where
  entries : List (String × α)
  ascending : entries.Pairwise fun earlier later => keyOrder earlier.1 later.1 = .lt

namespace Catalog

variable {α : Type}

/-- The catalog without entries. -/
def empty : Catalog α := ⟨[], List.Pairwise.nil⟩

instance : Inhabited (Catalog α) := ⟨empty⟩

/-- Puts a value under a key of an ascending list, in place of any it holds there. -/
def put (key : String) (value : α) : List (String × α) → List (String × α)
  | [] => [(key, value)]
  | entry :: rest =>
    match keyOrder key entry.1 with
    | .lt => (key, value) :: entry :: rest
    | .eq => (key, value) :: rest
    | .gt => entry :: put key value rest

theorem mem_put {key : String} {value : α} {entry : String × α} {entries : List (String × α)}
    (member : entry ∈ put key value entries) : entry.1 = key ∨ entry ∈ entries := by
  induction entries with
  | nil =>
    simp only [put, List.mem_singleton] at member
    exact Or.inl (by rw [member])
  | cons first rest hypothesis =>
    unfold put at member
    split at member
    · rcases List.mem_cons.mp member with rfl | inside
      · exact Or.inl rfl
      · exact Or.inr inside
    · rcases List.mem_cons.mp member with rfl | inside
      · exact Or.inl rfl
      · exact Or.inr (List.mem_cons_of_mem _ inside)
    · rcases List.mem_cons.mp member with rfl | inside
      · exact Or.inr (List.mem_cons_self ..)
      · rcases hypothesis inside with same | older
        · exact Or.inl same
        · exact Or.inr (List.mem_cons_of_mem _ older)

theorem ascending_put {key : String} {value : α} {entries : List (String × α)}
    (ascending : entries.Pairwise fun earlier later => keyOrder earlier.1 later.1 = .lt) :
    (put key value entries).Pairwise fun earlier later => keyOrder earlier.1 later.1 = .lt := by
  induction entries with
  | nil => exact List.pairwise_singleton ..
  | cons first rest hypothesis =>
    obtain ⟨below, tail⟩ := List.pairwise_cons.mp ascending
    unfold put
    split
    · next less =>
      refine List.pairwise_cons.mpr ⟨?_, ascending⟩
      intro entry member
      rcases List.mem_cons.mp member with rfl | inside
      · exact less
      · exact Std.TransCmp.lt_trans less (below entry inside)
    · next equal =>
      refine List.pairwise_cons.mpr ⟨?_, tail⟩
      intro entry inside
      rw [Std.LawfulEqCmp.eq_of_compare equal]
      exact below entry inside
    · next greater =>
      refine List.pairwise_cons.mpr ⟨?_, hypothesis tail⟩
      intro entry member
      rcases mem_put member with same | inside
      · rw [same]
        exact Std.OrientedCmp.lt_of_gt greater
      · exact below entry inside

/-- Puts a value under a key, in place of any held there. -/
def insert (catalog : Catalog α) (key : String) (value : α) : Catalog α :=
  ⟨put key value catalog.entries, ascending_put catalog.ascending⟩

/-- The value under a key. -/
def find? (catalog : Catalog α) (key : String) : Option α :=
  catalog.entries.lookup key

/-- How many keys there are. -/
def size (catalog : Catalog α) : Nat := catalog.entries.length

/-- The catalog of a list of texts and values, the last value of a text winning. -/
def ofList (entries : List (String × α)) : Catalog α :=
  entries.foldl (fun catalog entry => catalog.insert entry.1 entry.2) empty

@[simp] theorem find?_empty (key : String) : (empty : Catalog α).find? key = none := rfl

theorem lookup_put_self (key : String) (value : α) (entries : List (String × α)) :
    (put key value entries).lookup key = some value := by
  induction entries with
  | nil => simp [put]
  | cons first rest hypothesis =>
    unfold put
    split
    · simp
    · simp
    · next greater =>
      have different : (key == first.1) = false := by
        apply beq_eq_false_iff_ne.mpr
        rintro rfl
        have equal : keyOrder first.1 first.1 = .eq := Std.ReflCmp.compare_self
        rw [equal] at greater
        contradiction
      rw [List.lookup_cons, different]
      exact hypothesis

theorem lookup_put_of_ne {key other : String} (different : other ≠ key) (value : α)
    (entries : List (String × α)) :
    (put key value entries).lookup other = entries.lookup other := by
  have differ : (other == key) = false := beq_eq_false_iff_ne.mpr different
  induction entries with
  | nil => simp [put, List.lookup_cons, differ]
  | cons first rest hypothesis =>
    unfold put
    split
    · rw [List.lookup_cons, differ]
    · next equal =>
      have same : key = first.1 := Std.LawfulEqCmp.eq_of_compare equal
      rw [List.lookup_cons, List.lookup_cons, ← same, differ]
    · rw [List.lookup_cons, List.lookup_cons, hypothesis]

@[simp] theorem find?_insert_self (catalog : Catalog α) (key : String) (value : α) :
    (catalog.insert key value).find? key = some value :=
  lookup_put_self key value catalog.entries

theorem find?_insert_of_ne (catalog : Catalog α) {key other : String} (different : other ≠ key)
    (value : α) : (catalog.insert key value).find? other = catalog.find? other :=
  lookup_put_of_ne different value catalog.entries

/-- The value under a key is the one that stands beside it: no key stands there twice. -/
theorem find?_eq_some_iff {catalog : Catalog α} {key : String} {value : α} :
    catalog.find? key = some value ↔ (key, value) ∈ catalog.entries := by
  obtain ⟨entries, ascending⟩ := catalog
  show entries.lookup key = some value ↔ (key, value) ∈ entries
  induction entries with
  | nil => simp
  | cons first rest hypothesis =>
    obtain ⟨below, tail⟩ := List.pairwise_cons.mp ascending
    by_cases same : key = first.1
    · have later : (key, value) ∉ rest := by
        intro inside
        have above : keyOrder first.1 key = .lt := below _ inside
        have equal : keyOrder first.1 first.1 = .eq := Std.ReflCmp.compare_self
        rw [same, equal] at above
        contradiction
      rw [same, List.lookup_cons_self, Option.some_inj, List.mem_cons, ← same, or_iff_left later,
        Prod.ext_iff, and_iff_right same, eq_comm]
    · have other : (key, value) ≠ first := fun equal => same (congrArg Prod.fst equal)
      rw [List.lookup_cons, beq_eq_false_iff_ne.mpr same, hypothesis tail, List.mem_cons,
        or_iff_right other]

theorem put_ne_nil (key : String) (value : α) (entries : List (String × α)) :
    put key value entries ≠ [] := by
  cases entries with
  | nil => simp [put]
  | cons first rest =>
    unfold put
    split <;> simp

theorem size_insert_ne_zero (catalog : Catalog α) (key : String) (value : α) :
    (catalog.insert key value).size ≠ 0 :=
  mt List.eq_nil_of_length_eq_zero (put_ne_nil key value catalog.entries)

/-- The value of a key in a list of entries is the last one there. -/
theorem find?_ofList (entries : List (String × α)) (key : String) :
    (ofList entries).find? key = entries.reverse.lookup key := by
  -- The catalog that a prefix has led to answers for the keys that the rest leaves out.
  suffices ∀ catalog : Catalog α,
      (entries.foldl (fun catalog entry => catalog.insert entry.1 entry.2) catalog).find? key =
        (entries.reverse.lookup key).or (catalog.find? key) by
    rw [ofList, this, find?_empty, Option.or_none]
  induction entries with
  | nil => exact fun catalog => rfl
  | cons entry rest hypothesis =>
    intro catalog
    rw [List.foldl_cons, hypothesis, List.reverse_cons, List.lookup_append, Option.or_assoc]
    congr 1
    by_cases same : key = entry.1
    · rw [same, find?_insert_self, List.lookup_cons_self, Option.some_or]
    · rw [find?_insert_of_ne _ same, List.lookup_cons, beq_eq_false_iff_ne.mpr same,
        List.lookup_nil, Option.none_or]

theorem find?_ofList_eq_none_iff {entries : List (String × α)} {key : String} :
    (ofList entries).find? key = none ↔ ∀ entry ∈ entries, entry.1 ≠ key := by
  rw [find?_ofList, List.lookup_eq_none_iff]
  simp only [List.mem_reverse, bne_iff_ne, ne_comm]

theorem find?_ofList_of_last {before after : List (String × α)} {key : String} {value : α}
    (last : ∀ entry ∈ after, entry.1 ≠ key) :
    (ofList (before ++ (key, value) :: after)).find? key = some value := by
  have absent : after.reverse.lookup key = none := by
    rw [← find?_ofList, find?_ofList_eq_none_iff]
    exact last
  rw [find?_ofList, List.reverse_append, List.reverse_cons, List.append_assoc, List.lookup_append,
    absent, Option.none_or, List.singleton_append, List.lookup_cons_self]

theorem size_ofList_eq_zero_iff {entries : List (String × α)} :
    (ofList entries).size = 0 ↔ entries = [] := by
  rcases List.eq_nil_or_concat entries with rfl | ⟨earlier, last, rfl⟩
  · exact iff_of_true rfl rfl
  · rw [ofList, List.concat_eq_append, List.foldl_append]
    exact iff_of_false (size_insert_ne_zero _ _ _) (by simp)

/-- A key above all others goes behind them. -/
theorem put_of_above {key : String} {entries : List (String × α)}
    (above : ∀ entry ∈ entries, keyOrder entry.1 key = .lt) (value : α) :
    put key value entries = entries ++ [(key, value)] := by
  induction entries with
  | nil => rfl
  | cons first rest hypothesis =>
    obtain ⟨below, others⟩ := List.forall_mem_cons.mp above
    have greater : keyOrder key first.1 = .gt := Std.OrientedCmp.gt_of_lt below
    rw [put, greater, List.cons_append]
    exact congrArg (first :: ·) (hypothesis others)

/-- The entries of a catalog make that catalog again. -/
theorem ofList_entries (catalog : Catalog α) : ofList catalog.entries = catalog := by
  -- Whatever was inserted stays a prefix of the entries, and the next key is above it.
  suffices ∀ (rest : List (String × α)) (start : Catalog α),
      (start.entries ++ rest).Pairwise (fun earlier later =>
        keyOrder earlier.1 later.1 = .lt) →
      (rest.foldl (fun catalog entry => catalog.insert entry.1 entry.2) start).entries =
        start.entries ++ rest by
    obtain ⟨entries, ascending⟩ := catalog
    have same : (ofList entries).entries = entries := this entries empty ascending
    generalize ofList entries = made at same ⊢
    cases made
    cases same
    rfl
  intro rest
  induction rest with
  | nil => exact fun start _ => (List.append_nil _).symm
  | cons entry rest hypothesis =>
    intro start ascending
    obtain ⟨_, _, across⟩ := List.pairwise_append.mp ascending
    have inserted : (start.insert entry.1 entry.2).entries = start.entries ++ [entry] :=
      put_of_above (fun older inside => across older inside entry List.mem_cons_self) entry.2
    rw [List.append_cons, ← inserted] at ascending
    rw [List.foldl_cons, hypothesis _ ascending, inserted, List.append_assoc, List.singleton_append]

end Catalog

end SnpTestbed
