import Standoff.Text.Basic

/-! Parts of a text that are named by signed positions, and the first
occurrence of one text in another.

A negative position counts from the end of the text, and a position outside
the text stands for the nearer end. -/

namespace Standoff.Text

/-- The offset that a signed position stands for in a text of `length`
characters, when positions past the end are left as they are. -/
def offsetOf (length : Nat) (position : Int) : Nat :=
  if position < 0 then (length + position).toNat else position.toNat

example : offsetOf 5 (-2) = 3 ∧ offsetOf 5 (-9) = 0 ∧ offsetOf 5 7 = 7 := by decide

/-- The part of a text from one signed position up to another. It is empty when
the positions are in the wrong order. -/
def slice (text : Text) (start stop : Int) : Text :=
  (text.take (offsetOf text.length stop)).drop (offsetOf text.length start)

example : slice "standoff".toList 5 100 = "off".toList := by decide

example : slice "standoff".toList (-3) (-1) = "of".toList := by decide

def firstOccurrence (form : Text) : Text → Option Nat
  | [] => if form = [] then some 0 else none
  | character :: rest =>
      if form.isPrefixOf (character :: rest) then
        some 0
      else
        (firstOccurrence form rest).map (· + 1)

def firstOccurrenceFrom (form text : Text) (position : Int) : Option Nat :=
  let offset := offsetOf text.length position
  (firstOccurrence form (text.drop offset)).map (· + offset)

example : firstOccurrenceFrom "the".toList "the cat saw the dog".toList 1 = some 12 := by
  decide

theorem isPrefixOf_drop_of_firstOccurrence {form text : Text} {offset : Nat}
    (found : firstOccurrence form text = some offset) :
    form.isPrefixOf (text.drop offset) := by
  induction text generalizing offset with
  | nil =>
      simp only [firstOccurrence] at found
      split at found <;> simp_all
  | cons character rest induction =>
      simp only [firstOccurrence] at found
      split at found
      · obtain rfl := Option.some.inj found
        assumption
      · obtain ⟨before, foundBefore, equal⟩ := Option.map_eq_some_iff.mp found
        subst equal
        simpa using induction foundBefore

/-- The position at which the first occurrence is found is the least one at
which the form stands. -/
theorem le_of_firstOccurrence {form text : Text} {offset other : Nat}
    (found : firstOccurrence form text = some offset)
    (stands : form.isPrefixOf (text.drop other)) : offset ≤ other := by
  induction text generalizing offset other with
  | nil =>
      simp only [firstOccurrence] at found
      split at found
      · obtain rfl := Option.some.inj found
        exact Nat.zero_le other
      · simp at found
  | cons character rest induction =>
      simp only [firstOccurrence] at found
      split at found
      · obtain rfl := Option.some.inj found
        exact Nat.zero_le other
      · obtain ⟨before, foundBefore, equal⟩ := Option.map_eq_some_iff.mp found
        subst equal
        cases other with
        | zero => simp_all
        | succ other =>
            have := induction foundBefore (by simpa using stands)
            omega

theorem not_isPrefixOf_drop_of_firstOccurrence_eq_none {form text : Text}
    (absent : firstOccurrence form text = none) (offset : Nat) :
    ¬ form.isPrefixOf (text.drop offset) := by
  induction text generalizing offset with
  | nil =>
      simp only [firstOccurrence] at absent
      split at absent
      · simp at absent
      · cases form <;> simp_all
  | cons character rest induction =>
      simp only [firstOccurrence] at absent
      split at absent
      · simp at absent
      · rename_i different
        cases offset with
        | zero => simpa using different
        | succ offset => simpa using induction (by simpa using absent) offset

end Standoff.Text
