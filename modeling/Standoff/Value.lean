import Standoff.Text.Basic

/-! Free-form values: what an annotation may carry along besides its label, and
what a document is exported as. -/

namespace Standoff

inductive Value where
  | null
  | truth (holds : Bool)
  | integer (number : Int)
  | text (content : Text)
  | list (items : List Value)
  | record (members : List (Text × Value))
  deriving Repr

namespace Value

def ofOptionalText : Option Text → Value
  | none => .null
  | some content => .text content

/-- The member of a record that was written last under a name. -/
def member? (name : Text) : Value → Option Value
  | .record members => (members.reverse.find? (·.1 == name)).map (·.2)
  | _ => none

end Value

end Standoff
