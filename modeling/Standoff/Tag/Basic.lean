import Standoff.Text.Basic

/-! Tags: what one cell of a tag column says about its token.

A token lies outside of all entities, begins one of a type, or lies inside one.
Columns hold tags as texts, and a cell may also be empty. -/

namespace Standoff

inductive Tag where
  | outside
  | begin (type : Text)
  | inside (type : Text)
  deriving DecidableEq, Repr

namespace Tag

def type? : Tag → Option Text
  | .outside => none
  | .begin type | .inside type => some type

def render : Tag → Text
  | .outside => ['O']
  | .begin type => 'B' :: '-' :: type
  | .inside type => 'I' :: '-' :: type

/-- The type that stands after the hyphen of a tag: not empty and on one line,
whose line feed may be left over at the end. -/
def parseType? (written : Text) : Option Text :=
  let type := if written.getLast? = some '\n' then written.dropLast else written
  if type ≠ [] ∧ '\n' ∉ type then some type else none

def parse? : Option Text → Option Tag
  | some ['O'] => some .outside
  | some ('B' :: '-' :: written) => (parseType? written).map .begin
  | some ('I' :: '-' :: written) => (parseType? written).map .inside
  | _ => none

example : parse? (some "I-PER\n".toList) = some (.inside "PER".toList) ∧
    parse? (some "B-".toList) = none ∧ parse? none = none := by decide

def ValidType (type : Text) : Prop := type ≠ [] ∧ '\n' ∉ type

theorem parseType?_of_valid {type : Text} (valid : ValidType type) :
    parseType? type = some type := by
  have notLast : type.getLast? ≠ some '\n' := fun last =>
    valid.2 (List.mem_of_getLast? last)
  simp only [parseType?, notLast, if_false]
  exact if_pos valid

/-- Reading a tag undoes writing it, exactly when the type can be held. -/
theorem parse?_render (tag : Tag) (valid : ∀ type, tag.type? = some type → ValidType type) :
    parse? (some tag.render) = some tag := by
  cases tag with
  | outside => rfl
  | begin type =>
      simp [render, parse?, parseType?_of_valid (valid type rfl)]
  | inside type =>
      simp [render, parse?, parseType?_of_valid (valid type rfl)]

end Tag

end Standoff
