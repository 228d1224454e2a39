import PathQuery.Number.Reading
import PathQuery.Query.Basic
import PathQuery.Records.Path
import PathQuery.Text.Blank

namespace PathQuery

/-- The number a string holds between blanks; the empty string holds zero. -/
def numberInString? (text : String) : Option Binary64 :=
  match Text.trim text.toList with
  | [] => some .zero
  | trimmed => (Number.readDouble? trimmed).filter fun n => !n.isNaN

/-- A record's value as a number. -/
def Json.toNumber? : Json → Option Binary64
  | .null => some .zero
  | .bool value => some (.ofBool value)
  | .number value => some value.toDouble
  | .string text => numberInString? text
  | .array _ => none
  | .object _ => none

/-- A condition's value as a number. -/
def Literal.toNumber? : Literal → Option Binary64
  | .null => some .zero
  | .bool value => some (.ofBool value)
  | .number value => some value
  | .string text => numberInString? text
  | .regex .. => none
  | .template _ => none

/-- Whether a record's value, if there is one, equals the value of a condition. -/
def looseEq : Option Json → Literal → Bool
  | none, .null => true
  | some .null, .null => true
  | none, _ => false
  | some .null, _ => false
  | _, .null => false
  | some (.string a), .string b => a == b
  | some (.bool a), .bool b => a == b
  | some value, literal =>
    match value.toNumber?, literal.toNumber? with
    | some a, some b => a.sameNumber b
    | _, _ => false

/-- How a record's value compares with the value of a condition, if they can be compared. -/
def looseCompare? : Option Json → Literal → Option Ordering
  | none, _ => none
  | some (.string a), .string b => some (compare a b)
  | some value, literal => do (← value.toNumber?).compare? (← literal.toNumber?)

/-- Whether a record's value stands to the value of a condition as the comparator says. -/
def Comparator.holds (comparator : Comparator) (found : Option Json) (value : Literal) : Bool :=
  match comparator with
  | .eq => looseEq found value
  | .ne => !looseEq found value
  | .gt => looseCompare? found value == some .gt
  | .ge => looseCompare? found value == some .gt || looseCompare? found value == some .eq
  | .lt => looseCompare? found value == some .lt
  | .le => looseCompare? found value == some .lt || looseCompare? found value == some .eq
  | .matches => false

end PathQuery
