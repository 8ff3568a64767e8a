import Mathlib.Data.List.Forall2

/-! When computations that may fail succeed. -/

namespace Standoff.Result

variable {ε δ α β : Type}

theorem map_eq_ok_iff {result : Except ε α} {transform : α → β} {value : β} :
    result.map transform = .ok value ↔ ∃ inner, result = .ok inner ∧ transform inner = value := by
  cases result <;> simp [Except.map]

theorem map_eq_error_iff {result : Except ε α} {transform : α → β} {error : ε} :
    result.map transform = .error error ↔ result = .error error := by
  cases result <;> simp [Except.map]

theorem bind_eq_ok_iff {result : Except ε α} {following : α → Except ε β} {value : β} :
    (result >>= following) = .ok value ↔
      ∃ inner, result = .ok inner ∧ following inner = .ok value := by
  cases result <;> simp [bind, Except.bind]

theorem bind_eq_error_iff {result : Except ε α} {following : α → Except ε β} {error : ε} :
    (result >>= following) = .error error ↔ result = .error error ∨
      ∃ inner, result = .ok inner ∧ following inner = .error error := by
  cases result <;> simp [bind, Except.bind]

theorem mapError_eq_error_iff {result : Except ε α} {transform : ε → δ} {error : δ} :
    result.mapError transform = .error error ↔
      ∃ inner, result = .error inner ∧ transform inner = error := by
  cases result <;> simp [Except.mapError]

theorem mapError_eq_ok_iff {result : Except ε α} {transform : ε → δ} {value : α} :
    result.mapError transform = .ok value ↔ result = .ok value := by
  cases result <;> simp [Except.mapError]

theorem mapM_eq_ok_iff {step : α → Except ε β} {list : List α} {results : List β} :
    list.mapM step = .ok results ↔
      List.Forall₂ (fun member result => step member = .ok result) list results := by
  induction list generalizing results with
  | nil =>
      rw [List.forall₂_nil_left_iff, List.mapM_nil]
      exact ⟨fun equal => (Except.ok.inj equal).symm, fun nil => congrArg _ nil.symm⟩
  | cons member rest induction =>
      rw [List.forall₂_cons_left_iff, List.mapM_cons, bind_eq_ok_iff]
      constructor
      · rintro ⟨result, here, later⟩
        rcases bind_eq_ok_iff.mp later with ⟨results, restOk, equal⟩
        cases equal
        exact ⟨result, results, here, induction.mp restOk, rfl⟩
      · rintro ⟨result, results, here, later, rfl⟩
        exact ⟨result, here, bind_eq_ok_iff.mpr ⟨results, induction.mpr later, rfl⟩⟩

theorem mapM_eq_some_iff {step : α → Option β} {list : List α} {results : List β} :
    list.mapM step = some results ↔
      List.Forall₂ (fun member result => step member = some result) list results := by
  induction list generalizing results with
  | nil =>
      rw [List.forall₂_nil_left_iff, List.mapM_nil]
      exact ⟨fun equal => (Option.some.inj equal).symm, fun nil => congrArg _ nil.symm⟩
  | cons member rest induction =>
      rw [List.forall₂_cons_left_iff, List.mapM_cons, Option.bind_eq_bind, Option.bind_eq_some_iff]
      constructor
      · rintro ⟨result, here, later⟩
        rcases Option.bind_eq_some_iff.mp later with ⟨results, restOk, equal⟩
        cases equal
        exact ⟨result, results, here, induction.mp restOk, rfl⟩
      · rintro ⟨result, results, here, later, rfl⟩
        exact ⟨result, here, Option.bind_eq_some_iff.mpr ⟨results, induction.mpr later, rfl⟩⟩

/-- A fold that fails does so at one of the members. -/
theorem foldlM_eq_error {step : β → α → Except ε β} {list : List α} {state : β} {error : ε}
    (failed : list.foldlM step state = .error error) :
    ∃ member ∈ list, ∃ reached, step reached member = .error error := by
  induction list generalizing state with
  | nil => cases failed
  | cons first rest induction =>
      rw [List.foldlM_cons, bind_eq_error_iff] at failed
      rcases failed with here | ⟨reached, _, later⟩
      · exact ⟨first, List.mem_cons_self, state, here⟩
      · rcases induction later with ⟨member, inRest, fails⟩
        exact ⟨member, List.mem_cons_of_mem first inRest, fails⟩

end Standoff.Result
