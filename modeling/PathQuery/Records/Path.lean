import PathQuery.Json.Basic
import PathQuery.Number.Reading
import PathQuery.Text.Basic

namespace PathQuery

/-- The segments of a path between its dots. -/
def segments (path : String) : List String :=
  (Text.splitOn '.' path.toList).map String.ofList

theorem segments_ne_nil (path : String) : segments path ≠ [] := by
  simp [segments, Text.split_on_ne_nil]

namespace Json

/-- The value one step below: a field by its name, or an item by its index. -/
def child? (value : Json) (segment : String) : Option Json :=
  match value with
  | .object fields => Fields.find? segment fields
  | .array items => (PathQuery.Number.readIndex? segment.toList).bind fun index => items[index]?
  | _ => none

/-- The value at a path. -/
def get? (value : Json) : List String → Option Json
  | [] => some value
  | segment :: rest => (value.child? segment).bind fun child => child.get? rest

namespace Fields

/-- The fields of the object under a key; anything else counts as an object without fields. -/
def objectAt (key : String) (fields : Fields) : Fields :=
  match fields.find? key with
  | some (.object inner) => inner
  | _ => []

/-- Makes sure that an object stands at a path, in the place of what is none. -/
def openAt (fields : Fields) : List String → Fields
  | [] => fields
  | segment :: rest => fields.insert segment (.object ((fields.objectAt segment).openAt rest))

/-- Writes a value at a path, with objects above it. The empty path writes nothing. -/
def put (fields : Fields) (value : Json) : List String → Fields
  | [] => fields
  | [segment] => fields.insert segment value
  | segment :: rest => fields.insert segment (.object ((fields.objectAt segment).put value rest))

end Fields
end Json
end PathQuery
