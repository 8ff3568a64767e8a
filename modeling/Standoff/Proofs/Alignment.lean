import Standoff.Aligner
import Standoff.Proofs.Standing

/-! Where an aligner finds forms. Each form is found at its first occurrence at or
after the cursor, and the cursor moves to the end of that occurrence. -/

namespace Standoff.Aligner

/-! ## One form -/

def reach (aligner : Aligner) : Nat := Text.offsetOf aligner.text.length aligner.cursor

@[simp] theorem reach_natCast (text : Text) (cursor : Nat) :
    reach { text, cursor } = cursor :=
  Text.offsetOf_natCast text.length cursor

/-- The first occurrence of a form at or after a cursor. -/
structure FirstAt (text : Text) (cursor : Nat) (form : Text) (start : Nat) : Prop where
  nonempty : form ≠ []
  reached : cursor ≤ start
  stands : text.StandsAt start form
  least : ∀ other, cursor ≤ other → text.StandsAt other form → start ≤ other

theorem FirstAt.unique {text form : Text} {cursor start other : Nat}
    (first : FirstAt text cursor form start) (second : FirstAt text cursor form other) :
    start = other :=
  Nat.le_antisymm (first.least other second.reached second.stands)
    (second.least start first.reached first.stands)

theorem FirstAt.stop_le {text form : Text} {cursor start : Nat}
    (first : FirstAt text cursor form start) : start + form.length ≤ text.length :=
  first.stands.length_le first.nonempty

theorem firstAt_of_firstOccurrence {text form : Text} {cursor before : Nat}
    (nonempty : form ≠ [])
    (found : Text.firstOccurrence form (text.drop cursor) = some before) :
    FirstAt text cursor form (before + cursor) where
  nonempty := nonempty
  reached := Nat.le_add_left cursor before
  stands := by
    have stands := Text.isPrefixOf_drop_of_firstOccurrence found
    rw [List.drop_drop, List.isPrefixOf_iff_prefix, Nat.add_comm] at stands
    exact stands
  least other reached stands := by
    have standsBehind : form.isPrefixOf ((text.drop cursor).drop (other - cursor)) := by
      rw [List.drop_drop, List.isPrefixOf_iff_prefix, Nat.add_sub_cancel' reached]
      exact stands
    have := Text.le_of_firstOccurrence found standsBehind
    omega

theorem not_standsAt_of_firstOccurrence_eq_none {text form : Text} {cursor offset : Nat}
    (absent : Text.firstOccurrence form (text.drop cursor) = none) (reached : cursor ≤ offset) :
    ¬ text.StandsAt offset form := by
  have nowhere := Text.not_isPrefixOf_drop_of_firstOccurrence_eq_none absent (offset - cursor)
  rw [List.drop_drop, List.isPrefixOf_iff_prefix, Nat.add_sub_cancel' reached] at nowhere
  exact nowhere

theorem exists_firstAt {text form : Text} {cursor offset : Nat} (nonempty : form ≠ [])
    (reached : cursor ≤ offset) (stands : text.StandsAt offset form) :
    ∃ start, FirstAt text cursor form start := by
  cases found : Text.firstOccurrence form (text.drop cursor) with
  | none => exact absurd stands (not_standsAt_of_firstOccurrence_eq_none found reached)
  | some before => exact ⟨_, firstAt_of_firstOccurrence nonempty found⟩

theorem locate_eq_ok_iff {aligner : Aligner} {form : Text} {start : Nat} :
    aligner.locate form = .ok start ↔ FirstAt aligner.text aligner.reach form start := by
  unfold locate
  split
  · rename_i empty
    exact ⟨nofun, fun first => absurd empty first.nonempty⟩
  · rename_i nonempty
    rw [Text.firstOccurrenceFrom, ← reach]
    cases found : Text.firstOccurrence form (aligner.text.drop aligner.reach) with
    | none =>
        refine ⟨nofun, fun first => absurd first.stands ?_⟩
        exact not_standsAt_of_firstOccurrence_eq_none found first.reached
    | some before =>
        have first := firstAt_of_firstOccurrence nonempty found
        constructor
        · intro equal
          cases equal
          exact first
        · intro other
          exact congrArg Except.ok (first.unique other)

theorem locate_eq_error_iff {aligner : Aligner} {form : Text} {error : AlignmentError} :
    aligner.locate form = .error error ↔
      (¬ ∃ start, FirstAt aligner.text aligner.reach form start) ∧
        error = .of form aligner.cursor aligner.text := by
  simp only [← locate_eq_ok_iff]
  unfold locate
  split
  · simp [eq_comm]
  · split <;> simp [eq_comm]

/-! ## Several forms -/

/-- Forms found one after the other, from a cursor to a final one. -/
inductive Aligned (text : Text) : Nat → List Text → List (Nat × Nat) → Nat → Prop
  | nil {cursor : Nat} : Aligned text cursor [] [] cursor
  | cons {cursor start final : Nat} {form : Text} {forms : List Text}
      {extents : List (Nat × Nat)} (first : FirstAt text cursor form start)
      (later : Aligned text (start + form.length) forms extents final) :
      Aligned text cursor (form :: forms) ((start, start + form.length) :: extents) final

/-- The aligner behind extents that have been found: its cursor is at the end of the
last of them, and where it was when there are none. -/
def behind (aligner : Aligner) (extents : List (Nat × Nat)) : Aligner :=
  { aligner with
    cursor := (extents.getLast?.map fun extent => (extent.2 : Int)).getD aligner.cursor }

theorem behind_cons (aligner : Aligner) (start stop : Nat) (extents : List (Nat × Nat)) :
    aligner.behind ((start, stop) :: extents) =
      { aligner with cursor := stop : Aligner }.behind extents := by
  cases extents with
  | nil => rfl
  | cons next later =>
      have last := List.getLast?_eq_some_getLast (List.cons_ne_nil next later)
      simp only [behind, List.getLast?_cons_cons, last, Option.map_some, Option.getD_some]

/-- Either all forms are found one after the other, or the first of them that is not
makes the failure. -/
theorem alignAll_outcome (aligner : Aligner) (forms : List Text) :
    (∃ extents final, Aligned aligner.text aligner.reach forms extents final ∧
      aligner.alignAll forms = (.ok extents, aligner.behind extents)) ∨
    ∃ found form rest extents final, forms = found ++ form :: rest ∧
      Aligned aligner.text aligner.reach found extents final ∧
      (¬ ∃ start, FirstAt aligner.text final form start) ∧
      aligner.alignAll forms =
        (.error (.of form (aligner.behind extents).cursor aligner.text),
          aligner.behind extents) := by
  induction forms generalizing aligner with
  | nil => exact Or.inl ⟨[], aligner.reach, .nil, rfl⟩
  | cons form rest induction =>
      cases located : aligner.locate form with
      | error error =>
          rcases locate_eq_error_iff.mp located with ⟨nowhere, rfl⟩
          refine Or.inr ⟨[], form, rest, [], aligner.reach, rfl, .nil, nowhere, ?_⟩
          simp only [alignAll, align, located]
          rfl
      | ok start =>
          have first := locate_eq_ok_iff.mp located
          have moved : aligner.align form = (.ok (start, start + form.length),
              { aligner with cursor := (start + form.length : Nat) }) := by
            simp only [align, located]
          rcases induction { aligner with cursor := (start + form.length : Nat) } with
            ⟨extents, final, later, aligns⟩ |
            ⟨found, missing, behindIt, extents, final, split, later, nowhere, aligns⟩
          · rw [reach_natCast] at later
            refine Or.inl ⟨_, final, .cons first later, ?_⟩
            simp only [alignAll, moved, aligns, Except.map, behind_cons]
          · rw [reach_natCast] at later
            refine Or.inr ⟨form :: found, missing, behindIt, _, final, ?_,
              .cons first later, nowhere, ?_⟩
            · rw [split, List.cons_append]
            · simp only [alignAll, moved, aligns, Except.map, behind_cons]

namespace Aligned

variable {text : Text} {cursor final : Nat} {forms : List Text} {extents : List (Nat × Nat)}

theorem locate_first {form : Text} {start stop : Nat}
    (aligned : Aligned text cursor (form :: forms) ((start, stop) :: extents) final) :
    locate { text, cursor } form = .ok start := by
  rw [locate_eq_ok_iff, reach_natCast]
  cases aligned
  assumption

theorem cursor_le (aligned : Aligned text cursor forms extents final) : cursor ≤ final := by
  induction aligned with
  | nil => exact Nat.le_refl _
  | cons first later induction =>
      have := first.reached
      omega

theorem final_le (aligned : Aligned text cursor forms extents final)
    (inside : cursor ≤ text.length) : final ≤ text.length := by
  induction aligned with
  | nil => exact inside
  | cons first later induction => exact induction first.stop_le

theorem extent_bounds (aligned : Aligned text cursor forms extents final) :
    ∀ extent ∈ extents, cursor ≤ extent.1 ∧ extent.1 < extent.2 ∧ extent.2 ≤ final := by
  induction aligned with
  | nil => exact nofun
  | cons first later induction =>
      intro extent member
      have reached := first.reached
      rcases List.mem_cons.mp member with equal | inRest
      · subst equal
        have width := List.length_pos_of_ne_nil first.nonempty
        have final := later.cursor_le
        simp only
        omega
      · have bounds := induction extent inRest
        omega

theorem separated (aligned : Aligned text cursor forms extents final) :
    extents.Pairwise fun extent later => extent.2 ≤ later.1 := by
  induction aligned with
  | nil => exact .nil
  | cons first later induction =>
      exact List.pairwise_cons.mpr
        ⟨fun extent member => (later.extent_bounds extent member).1, induction⟩

theorem forms_stand (aligned : Aligned text cursor forms extents final) :
    List.Forall₂ (fun form extent =>
      text.StandsAt extent.1 form ∧ extent.2 = extent.1 + form.length) forms extents := by
  induction aligned with
  | nil => exact .nil
  | cons first later induction => exact .cons ⟨first.stands, rfl⟩ induction

theorem getLast?_stop (aligned : Aligned text cursor forms extents final)
    {last : Nat × Nat} (found : extents.getLast? = some last) : last.2 = final := by
  induction aligned with
  | nil => cases found
  | cons first later induction =>
      cases later with
      | nil =>
          cases found
          rfl
      | cons second later =>
          rw [List.getLast?_cons_cons] at found
          exact induction found

end Aligned

theorem Aligned.behind_eq {text : Text} {cursor final : Nat} {forms : List Text}
    {extents : List (Nat × Nat)} (aligned : Aligned text cursor forms extents final) :
    behind { text, cursor } extents = { text, cursor := final } := by
  cases last : extents.getLast? with
  | none =>
      rw [List.getLast?_eq_none_iff] at last
      subst last
      cases aligned
      rfl
  | some extent => simp [behind, last, aligned.getLast?_stop last]

theorem alignAll_of_aligned {text : Text} {cursor final : Nat} {forms : List Text}
    {extents : List (Nat × Nat)} (aligned : Aligned text cursor forms extents final) :
    alignAll { text, cursor } forms = (.ok extents, { text, cursor := final }) := by
  induction aligned with
  | nil => rfl
  | @cons cursor start final form forms extents first later induction =>
      have located : locate { text, cursor } form = .ok start := by
        rw [locate_eq_ok_iff, reach_natCast]
        exact first
      simp only [alignAll, align, located, induction, Except.map]

theorem alignAll_cases (text : Text) (cursor : Nat) (forms : List Text) :
    (∃ error after, alignAll { text, cursor } forms = (.error error, after)) ∨
    ∃ extents, ∃ final : Nat, Aligned text cursor forms extents final ∧
      alignAll { text, cursor } forms = (.ok extents, { text, cursor := final }) := by
  rcases alignAll_outcome { text, cursor } forms with
    ⟨extents, final, aligned, aligns⟩ | ⟨_, _, _, _, _, _, _, _, aligns⟩
  · rw [reach_natCast] at aligned
    rw [aligned.behind_eq] at aligns
    exact Or.inr ⟨extents, final, aligned, aligns⟩
  · exact Or.inl ⟨_, _, aligns⟩

end Standoff.Aligner
