import Standoff.Proofs.Alignment

/-! Searching forms one after the other misses no placement. The first occurrence of a form
leaves at least as much of the text to the later forms as any other occurrence, so the forms
are found whenever they have a place, and none of them has a place further left. -/

namespace Standoff.Aligner

variable {text : Text} {cursor final : Nat} {forms : List Text} {offsets : List Nat}
  {extents : List (Nat × Nat)}

/-! ## Places for forms -/

/-- Offsets at which forms stand one behind the other, from a cursor on. -/
inductive Placement (text : Text) : Nat → List Text → List Nat → Prop
  | nil {cursor : Nat} : Placement text cursor [] []
  | cons {cursor offset : Nat} {form : Text} {forms : List Text} {offsets : List Nat}
      (reached : cursor ≤ offset) (stands : text.StandsAt offset form)
      (later : Placement text (offset + form.length) forms offsets) :
      Placement text cursor (form :: forms) (offset :: offsets)

/-- Forms that are not empty and have a place. -/
def Placeable (text : Text) (cursor : Nat) (forms : List Text) : Prop :=
  (∀ form ∈ forms, form ≠ []) ∧ ∃ offsets, Placement text cursor forms offsets

/-- A placement with the least offset for every form. -/
structure Leftmost (text : Text) (cursor : Nat) (forms : List Text) (offsets : List Nat) :
    Prop where
  placement : Placement text cursor forms offsets
  least : ∀ others, Placement text cursor forms others →
    List.Forall₂ (fun offset other => offset ≤ other) offsets others

/-- The form of an index is the first that has no place behind the forms before it. -/
structure StuckAt (text : Text) (cursor : Nat) (forms : List Text) (index : Nat)
    (form : Text) : Prop where
  found : forms[index]? = some form
  before : ∀ count ≤ index, Placeable text cursor (forms.take count)
  missing : ¬ Placeable text cursor (forms.take (index + 1))

def extentsAt (forms : List Text) (offsets : List Nat) : List (Nat × Nat) :=
  List.zipWith (fun form offset => (offset, offset + form.length)) forms offsets

theorem Placement.of_le (placement : Placement text cursor forms offsets) {earlier : Nat}
    (before : earlier ≤ cursor) : Placement text earlier forms offsets := by
  cases placement with
  | nil => exact .nil
  | cons reached stands later => exact .cons (Nat.le_trans before reached) stands later

theorem Placement.take (placement : Placement text cursor forms offsets) (count : Nat) :
    Placement text cursor (forms.take count) (offsets.take count) := by
  induction placement generalizing count with
  | nil =>
      rw [List.take_nil, List.take_nil]
      exact .nil
  | cons reached stands later induction =>
      cases count with
      | zero => exact .nil
      | succ count => exact .cons reached stands (induction count)

theorem Placeable.take (placeable : Placeable text cursor forms) (count : Nat) :
    Placeable text cursor (forms.take count) := by
  rcases placeable with ⟨nonempty, offsets, placement⟩
  refine ⟨?_, offsets.take count, placement.take count⟩
  intro form member
  exact nonempty form (List.mem_of_mem_take member)

/-! ## First occurrences are leftmost -/

namespace Aligned

theorem nonempty (aligned : Aligned text cursor forms extents final) :
    ∀ form ∈ forms, form ≠ [] := by
  induction aligned with
  | nil => exact nofun
  | cons first later induction => exact List.forall_mem_cons.mpr ⟨first.nonempty, induction⟩

theorem extents_eq (aligned : Aligned text cursor forms extents final) :
    extents = extentsAt forms (extents.map (·.1)) := by
  induction aligned with
  | nil => rfl
  | cons first later induction => exact congrArg (_ :: ·) induction

theorem placement (aligned : Aligned text cursor forms extents final) :
    Placement text cursor forms (extents.map (·.1)) := by
  induction aligned with
  | nil => exact .nil
  | cons first later induction => exact .cons first.reached first.stands induction

/-- No placement of the forms and of others behind them comes to the others earlier
than the search for first occurrences does. -/
theorem placement_behind (aligned : Aligned text cursor forms extents final)
    {others : List Text} (whole : Placement text cursor (forms ++ others) offsets) :
    ∃ behind, Placement text final others behind := by
  induction aligned generalizing offsets with
  | nil => exact ⟨offsets, whole⟩
  | cons first later induction =>
      cases whole with
      | cons reached stands rest =>
          have before := first.least _ reached stands
          exact induction (rest.of_le (Nat.add_le_add_right before _))

theorem leftmost (aligned : Aligned text cursor forms extents final) :
    Leftmost text cursor forms (extents.map (·.1)) := by
  refine ⟨aligned.placement, ?_⟩
  induction aligned with
  | nil =>
      intro others placement
      cases placement
      exact .nil
  | cons first later induction =>
      intro others placement
      cases placement with
      | cons reached stands rest =>
          have before := first.least _ reached stands
          exact .cons before (induction _ (rest.of_le (Nat.add_le_add_right before _)))

/-- A form without an occurrence behind the forms that were found has no place behind
them at all. -/
theorem stuckAt (aligned : Aligned text cursor forms extents final) {form : Text}
    (missing : ¬ ∃ start, FirstAt text final form start) (rest : List Text) :
    StuckAt text cursor (forms ++ form :: rest) forms.length form where
  found := by simp
  before count bound := by
    rw [List.take_append_of_le_length bound]
    have placeable : Placeable text cursor forms := ⟨aligned.nonempty, _, aligned.placement⟩
    exact placeable.take count
  missing placeable := by
    rw [List.take_length_add_append] at placeable
    rcases placeable with ⟨nonempty, offsets, placement⟩
    rcases aligned.placement_behind placement with ⟨behind, last⟩
    cases last with
    | cons reached stands _ =>
        exact missing (exists_firstAt (nonempty form (by simp)) reached stands)

end Aligned

/-! ## What an aligner answers -/

/-- All forms are found exactly when they have a place, and then at the leftmost one.
Otherwise the failure names the first form without a place, and the cursor stays behind
the leftmost place of the forms before it. -/
theorem alignAll_greedy (aligner : Aligner) (forms : List Text) :
    ((∃ extents after, aligner.alignAll forms = (.ok extents, after)) ↔
      Placeable aligner.text aligner.reach forms) ∧
    (∀ extents after, aligner.alignAll forms = (.ok extents, after) →
      ∃ offsets, Leftmost aligner.text aligner.reach forms offsets ∧
        extents = extentsAt forms offsets ∧ after = aligner.behind extents) ∧
    (∀ error after, aligner.alignAll forms = (.error error, after) →
      ∃ index form offsets, StuckAt aligner.text aligner.reach forms index form ∧
        Leftmost aligner.text aligner.reach (forms.take index) offsets ∧
        after = aligner.behind (extentsAt (forms.take index) offsets) ∧
        error = .of form after.cursor aligner.text) := by
  rcases aligner.alignAll_outcome forms with
    ⟨extents, final, aligned, aligns⟩ |
    ⟨found, form, rest, extents, final, rfl, aligned, missing, aligns⟩
  · rw [aligns]
    refine ⟨⟨fun _ => ⟨aligned.nonempty, _, aligned.placement⟩, fun _ => ⟨_, _, rfl⟩⟩, ?_, nofun⟩
    intro extents after equal
    cases equal
    exact ⟨_, aligned.leftmost, aligned.extents_eq, rfl⟩
  · have stuck := aligned.stuckAt missing rest
    rw [aligns]
    refine ⟨⟨nofun, fun placeable => absurd (placeable.take _) stuck.missing⟩, nofun, ?_⟩
    intro error after equal
    cases equal
    refine ⟨found.length, form, extents.map (·.1), stuck, ?_⟩
    rw [List.take_left, ← aligned.extents_eq]
    exact ⟨aligned.leftmost, rfl, rfl⟩

/-- Four characters before the end, an occurrence that begins further left does not
count, and neither does one that overlaps the form before. -/
theorem alignAll_greedy_from_end :
    let aligner : Aligner := { text := "aaaba".toList, cursor := -4 }
    let forms : List Text := [['a', 'a'], ['a'], ['b']]
    aligner.alignAll (forms.take 2) = (.ok [(1, 3), (4, 5)], { aligner with cursor := 5 }) ∧
    (∃ offsets, Leftmost aligner.text aligner.reach (forms.take 2) offsets ∧
      [(1, 3), (4, 5)] = extentsAt (forms.take 2) offsets) ∧
    aligner.alignAll forms =
      (.error (.of ['b'] 5 aligner.text), { aligner with cursor := 5 }) ∧
    ∃ index form offsets, StuckAt aligner.text aligner.reach forms index form ∧
      Leftmost aligner.text aligner.reach (forms.take index) offsets ∧
      AlignmentError.of ['b'] 5 aligner.text = .of form 5 aligner.text := by
  intro aligner forms
  have found : aligner.alignAll (forms.take 2) =
      (.ok [(1, 3), (4, 5)], { aligner with cursor := 5 }) := rfl
  have failed : aligner.alignAll forms =
      (.error (.of ['b'] 5 aligner.text), { aligner with cursor := 5 }) := rfl
  rcases (aligner.alignAll_greedy (forms.take 2)).2.1 _ _ found with
    ⟨offsets, leftmost, extents, _⟩
  rcases (aligner.alignAll_greedy forms).2.2 _ _ failed with
    ⟨index, form, before, stuck, leftmostBefore, _, error⟩
  exact ⟨found, ⟨offsets, leftmost, extents⟩, failed, index, form, before, stuck,
    leftmostBefore, error⟩

end Standoff.Aligner
