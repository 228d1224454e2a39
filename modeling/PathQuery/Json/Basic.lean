import PathQuery.Number.Decimal

namespace PathQuery

/-- The whole numbers that JSON numbers hold exactly: those of 64 bits, with a sign or without. -/
abbrev Json.Integer : Type :=
  { value : Int // -(Nat.pow 2 63 : Int) ≤ value ∧ value < (Nat.pow 2 64 : Int) }

/-- A JSON number: a whole number from -2⁶³ to 2⁶⁴ - 1, or a finite double. -/
inductive Json.Number where
  | integer (value : Json.Integer)
  | double (value : Binary64) (finite : value.isFinite = true)
deriving DecidableEq, Repr

/-- A JSON value. -/
inductive Json where
  | null
  | bool (value : Bool)
  | number (value : Json.Number)
  | string (text : String)
  | array (items : List Json)
  | object (fields : List (String × Json))
deriving Repr, Inhabited, BEq

namespace Json

/-- The fields of an object, in the order of their keys. -/
abbrev Fields := List (String × Json)

namespace Fields

/-- The value of a key. -/
def find? (key : String) : Fields → Option Json
  | [] => none
  | (name, value) :: rest => if key = name then some value else find? key rest

/-- Writes a field, in its place by key or over the one already there. -/
def insert (key : String) (value : Json) : Fields → Fields
  | [] => [(key, value)]
  | (name, old) :: rest =>
    if key = name then (key, value) :: rest
    else if key < name then (key, value) :: (name, old) :: rest
    else (name, old) :: insert key value rest

def ofList (fields : List (String × Json)) : Fields :=
  fields.foldl (fun sofar (key, value) => sofar.insert key value) []

end Fields

def Number.toDouble : Number → Binary64
  | .integer value => .ofInt value.val
  | .double value _ => value

/-- The name of a value's kind. -/
def kind : Json → String
  | .null => "null"
  | .bool _ => "boolean"
  | .number _ => "number"
  | .string _ => "string"
  | .array _ => "array"
  | .object _ => "object"

def ofInteger (i : Json.Integer) : Json := .number (.integer i)

/-- A double as a value; only finite ones are numbers. -/
def ofDouble (x : Binary64) : Json :=
  if h : x.isFinite then .number (.double x h) else .null

/-- A whole number as a value: as it is if 64 bits hold it, or else as the nearest double. -/
def ofInt (i : Int) : Json :=
  if h : -(Nat.pow 2 63 : Int) ≤ i ∧ i < (Nat.pow 2 64 : Int) then ofInteger ⟨i, h⟩
  else ofDouble (.ofInt i)

def ofNat (n : Nat) : Json := ofInt n

theorem Fields.find_insert_self (key : String) (value : Json) (fields : Fields) :
    (fields.insert key value).find? key = some value := by
  induction fields with
  | nil => simp [Fields.insert, Fields.find?]
  | cons field rest ih =>
    obtain ⟨name, old⟩ := field
    simp only [Fields.insert]
    split
    · simp [Fields.find?]
    · split <;> simp_all [Fields.find?]

theorem Fields.find_insert_of_ne {key other : String} (h : other ≠ key) (value : Json)
    (fields : Fields) : (fields.insert key value).find? other = fields.find? other := by
  induction fields with
  | nil => simp [Fields.insert, Fields.find?, h]
  | cons field rest ih =>
    obtain ⟨name, old⟩ := field
    simp only [Fields.insert]
    split
    · next hk => subst hk; simp [Fields.find?, h]
    · split <;> simp_all [Fields.find?]

end Json
end PathQuery
