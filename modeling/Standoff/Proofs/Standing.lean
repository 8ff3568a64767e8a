import Mathlib.Data.List.Infix
import Standoff.Span

/-! A part of a text at a known offset, and the spans over it. -/

namespace Standoff

namespace Text

/-- A part of a text begins at an offset. -/
def StandsAt (text : Text) (offset : Nat) (part : Text) : Prop := part <+: text.drop offset

theorem standsAt_append (before part after : Text) :
    StandsAt (before ++ part ++ after) before.length part := by
  rw [StandsAt, List.append_assoc, List.drop_left]
  exact List.prefix_append part after

theorem StandsAt.left {text : Text} {offset : Nat} {first second : Text}
    (stands : StandsAt text offset (first ++ second)) : StandsAt text offset first :=
  (List.prefix_append first second).trans stands

theorem StandsAt.right {text : Text} {offset : Nat} {first second : Text}
    (stands : StandsAt text offset (first ++ second)) :
    StandsAt text (offset + first.length) second := by
  rcases stands with ⟨after, whole⟩
  rw [StandsAt, ← List.drop_drop, ← whole, List.append_assoc, List.drop_left]
  exact List.prefix_append second after

theorem StandsAt.length_le {text : Text} {offset : Nat} {part : Text}
    (stands : StandsAt text offset part) (nonempty : part ≠ []) :
    offset + part.length ≤ text.length := by
  have fits := List.IsPrefix.length_le stands
  have positive := List.length_pos_of_ne_nil nonempty
  rw [List.length_drop] at fits
  omega

theorem StandsAt.getElem?_eq {text : Text} {offset index : Nat} {part : Text} {character : Char}
    (stands : StandsAt text offset part) (found : part[index]? = some character) :
    text[offset + index]? = some character := by
  rcases stands with ⟨after, whole⟩
  rcases List.getElem?_eq_some_iff.mp found with ⟨inside, _⟩
  rw [← List.getElem?_drop, ← whole, List.getElem?_append_left inside]
  exact found

theorem StandsAt.covered_eq {text : Text} {offset : Nat} {part : Text}
    (stands : StandsAt text offset part) {span : Span} (start : span.start = offset)
    (stop : span.stop = offset + part.length) : span.covered text = part := by
  rw [Span.covered, start, stop, Nat.add_sub_cancel_left]
  exact (List.prefix_iff_eq_take.mp stands).symm

theorem StandsAt.trans {text whole part : Text} {offset inner : Nat}
    (stands : StandsAt text offset whole) (inside : StandsAt whole inner part) :
    StandsAt text (offset + inner) part := by
  rcases stands with ⟨after, same⟩
  have longer : StandsAt (whole ++ after) inner part := by
    rcases inside with ⟨between, equal⟩
    refine ⟨between ++ after.drop (inner - whole.length), ?_⟩
    rw [List.drop_append, ← equal, List.append_assoc]
  rw [StandsAt, ← List.drop_drop, ← same]
  exact longer

/-! ## Slices -/

@[simp] theorem offsetOf_natCast (length offset : Nat) : offsetOf length offset = offset := by
  rw [offsetOf, if_neg (Int.not_lt.mpr (Int.natCast_nonneg offset)), Int.toNat_natCast]

theorem standsAt_slice (text : Text) (start stop : Int) :
    text.StandsAt (offsetOf text.length start) (slice text start stop) := by
  rw [StandsAt, slice, List.drop_take]
  exact List.take_prefix _ _

theorem length_slice (text : Text) (start stop : Int) :
    (slice text start stop).length =
      min (offsetOf text.length stop) text.length - offsetOf text.length start := by
  rw [slice, List.length_drop, List.length_take]

end Text

namespace Span

theorem make?_eq_ok_iff {text : Text} {start stop : Int} {label : Option Text}
    {role : Role Span} {metadata : Option Value} {span : Span} :
    make? text start stop label role metadata = .ok span ↔
      0 ≤ start ∧ start ≤ stop ∧ stop ≤ text.length ∧
        span = ⟨start.toNat, stop.toNat, label, metadata, role⟩ := by
  unfold make?
  split
  · rename_i fits
    exact ⟨fun made => ⟨fits.1, fits.2.1, fits.2.2, (Except.ok.inj made).symm⟩,
      fun known => congrArg _ known.2.2.2.symm⟩
  · rename_i outside
    exact ⟨nofun, fun known => absurd ⟨known.1, known.2.1, known.2.2.1⟩ outside⟩

theorem make?_natCast {text : Text} {start stop : Nat} (inOrder : start ≤ stop)
    (inside : stop ≤ text.length) (label : Option Text) (role : Role Span) :
    make? text start stop label role = .ok { start, stop, label, role } :=
  make?_eq_ok_iff.mpr ⟨Int.natCast_nonneg _, Int.ofNat_le.mpr inOrder,
    Int.ofNat_le.mpr inside, rfl⟩

def tokenAt (offset : Nat) (form : Text) : Span where
  start := offset
  stop := offset + form.length
  label := some form
  role := .token

theorem covered_tokenAt {text form : Text} {offset : Nat} (stands : text.StandsAt offset form) :
    (tokenAt offset form).covered text = form :=
  stands.covered_eq rfl rfl

theorem token?_of_standsAt {text form : Text} {offset : Nat}
    (stands : text.StandsAt offset form) (inside : offset + form.length ≤ text.length) :
    token? text offset (offset + form.length : Nat) = .ok (tokenAt offset form) := by
  have covered : Span.covered text ⟨offset, offset + form.length, none, none, .token⟩ = form :=
    stands.covered_eq rfl rfl
  rw [token?, make?_natCast (Nat.le_add_right _ _) inside]
  simp only [Except.map, covered, tokenAt]

end Span

end Standoff
