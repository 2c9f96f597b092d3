import Mathlib.Data.List.Basic

/-!
# Passes that stop at the first failure

Steps that can fail are done one after the other, and the first that fails decides. A pass
over a list that adds to a state what each item is checked to be is a pass of checks and
then an addition of everything, so what it does is told without the state: either every
item passes, or there is a first one that does not.
-/
namespace SnpTestbed.FirstFailure

section Steps

variable {ε α β : Type} {made : Except ε α}

theorem map_eq_ok_iff {next : α → β} {result : β} :
    made.map next = .ok result ↔ ∃ value, made = .ok value ∧ next value = result := by
  cases made with
  | error error => simp [Except.map]
  | ok value => simp [Except.map]

theorem map_eq_error_iff {next : α → β} {error : ε} :
    made.map next = .error error ↔ made = .error error := by
  cases made with
  | error error => simp [Except.map]
  | ok value => simp [Except.map]

theorem exists_map_iff {next : α → β} :
    (∃ result, made.map next = .ok result) ↔ ∃ value, made = .ok value := by
  cases made with
  | error error => exact iff_of_false nofun nofun
  | ok value => exact iff_of_true ⟨_, rfl⟩ ⟨_, rfl⟩

theorem bind_eq_ok_iff {next : α → Except ε β} {result : β} :
    made.bind next = .ok result ↔ ∃ value, made = .ok value ∧ next value = .ok result := by
  cases made with
  | error error => simp [Except.bind]
  | ok value => simp [Except.bind]

theorem bind_eq_error_iff {next : α → Except ε β} {error : ε} :
    made.bind next = .error error ↔
      made = .error error ∨ ∃ value, made = .ok value ∧ next value = .error error := by
  cases made with
  | error error => simp [Except.bind]
  | ok value => simp [Except.bind]

end Steps

section Passes

variable {ε α β σ : Type} {check : α → Except ε β}

theorem mapM_cons (item : α) (rest : List α) :
    (item :: rest).mapM check =
      (check item).bind fun value => (rest.mapM check).map (value :: ·) := by
  rw [List.mapM_cons]
  rfl

/-- Adding to a state while checking is checking first and adding then. -/
theorem foldlM_map (add : σ → β → σ) (items : List α) (start : σ) :
    items.foldlM (fun state item => (check item).map (add state)) start =
      (items.mapM check).map (List.foldl add start) := by
  induction items generalizing start with
  | nil => rfl
  | cons item rest hypothesis =>
    rw [List.foldlM_cons, mapM_cons]
    cases check item with
    | error error => rfl
    | ok value =>
      refine (hypothesis (add start value)).trans ?_
      cases rest.mapM check with
      | error error => rfl
      | ok values => rfl

theorem mapM_eq_ok_iff {items : List α} {values : List β} :
    items.mapM check = .ok values ↔ items.map check = values.map .ok := by
  induction items generalizing values with
  | nil => cases values <;> simp [pure, Except.pure]
  | cons item rest hypothesis =>
    simp only [mapM_cons, bind_eq_ok_iff, map_eq_ok_iff, hypothesis, List.map_cons]
    cases values with
    | nil => simp
    | cons value others => simp

/-- A pass goes through exactly if every item does. -/
theorem exists_mapM_iff {items : List α} :
    (∃ values, items.mapM check = .ok values) ↔
      ∀ item ∈ items, ∃ value, check item = .ok value := by
  induction items with
  | nil => exact iff_of_true ⟨[], rfl⟩ nofun
  | cons item rest hypothesis =>
    rw [List.forall_mem_cons, ← hypothesis]
    simp only [mapM_cons, bind_eq_ok_iff, map_eq_ok_iff]
    constructor
    · rintro ⟨_, value, passed, values, later, _⟩
      exact ⟨⟨value, passed⟩, values, later⟩
    · rintro ⟨⟨value, passed⟩, values, later⟩
      exact ⟨_, value, passed, values, later, rfl⟩

/-- Of a pass that went through, the values before and after that of one item are those of the
items before and after it. -/
theorem exists_split {before after : List α} {item : α} {values : List β}
    (passed : (before ++ item :: after).map check = values.map .ok) :
    ∃ earlier value later, values = earlier ++ value :: later ∧ check item = .ok value ∧
      after.map check = later.map .ok := by
  rw [List.map_append, List.map_cons] at passed
  obtain ⟨earlier, others, rfl, _, same⟩ := List.map_eq_append_iff.mp passed.symm
  obtain ⟨value, later, rfl, first, rest⟩ := List.map_eq_cons_iff.mp same
  exact ⟨earlier, value, later, rfl, first.symm, rest.symm⟩

/-- Every value of a pass is that of an item. -/
theorem exists_of_mem {items : List α} {values : List β} {value : β}
    (passed : items.map check = values.map .ok) (inside : value ∈ values) :
    ∃ item ∈ items, check item = .ok value := by
  have checked : Except.ok value ∈ items.map check := by
    rw [passed]
    exact List.mem_map_of_mem inside
  exact List.mem_map.mp checked

/-- A pass fails exactly as its first item that does. -/
theorem mapM_eq_error_iff {items : List α} {error : ε} :
    items.mapM check = .error error ↔
      ∃ before item after, items = before ++ item :: after ∧
        (∀ earlier ∈ before, ∃ value, check earlier = .ok value) ∧ check item = .error error := by
  constructor
  · intro failed
    induction items with
    | nil => contradiction
    | cons first rest hypothesis =>
      rw [mapM_cons, bind_eq_error_iff] at failed
      rcases failed with failed | ⟨value, passed, failed⟩
      · exact ⟨[], first, rest, rfl, nofun, failed⟩
      · obtain ⟨before, item, after, rfl, earlier, fails⟩ := hypothesis (map_eq_error_iff.mp failed)
        refine ⟨first :: before, item, after, rfl, ?_, fails⟩
        exact List.forall_mem_cons.mpr ⟨⟨value, passed⟩, earlier⟩
  · rintro ⟨before, item, after, rfl, earlier, failed⟩
    induction before with
    | nil =>
      rw [List.nil_append, mapM_cons, failed]
      rfl
    | cons first others hypothesis =>
      obtain ⟨⟨value, passed⟩, later⟩ := List.forall_mem_cons.mp earlier
      rw [List.cons_append, mapM_cons, passed]
      exact map_eq_error_iff.mpr (hypothesis later)

end Passes

end SnpTestbed.FirstFailure
