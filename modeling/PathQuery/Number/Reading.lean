import PathQuery.Number.Binary64

namespace PathQuery.Number

/-- The digits at the head of a text, and the rest. -/
def splitDigits (text : List Char) : List Char × List Char :=
  (text.takeWhile Char.isDigit, text.dropWhile Char.isDigit)

/-- The value of decimal digits. -/
def digitsValue (digits : List Char) : Nat :=
  digits.foldl (fun value c => 10 * value + (c.toNat - '0'.toNat)) 0

/-- A sign at the head of a text, if there is one, and the rest. -/
def splitSign : List Char → Bool × List Char
  | '-' :: rest => (true, rest)
  | '+' :: rest => (false, rest)
  | text => (false, text)

/-- A natural number written in digits only. -/
def readNatural? (text : List Char) : Option Nat :=
  if text ≠ [] ∧ text.all Char.isDigit then some (digitsValue text) else none

/-- A whole number of 64 bits, with or without a sign. -/
def readInt64? (text : List Char) : Option Int :=
  let (negative, digits) := splitSign text
  (readNatural? digits).bind fun n =>
    let value : Int := if negative then -(n : Int) else n
    if -(Nat.pow 2 63 : Int) ≤ value ∧ value < Nat.pow 2 63 then some value else none

/-- A place in a list: a natural number below 2⁶⁴, with or without a plus sign. -/
def readIndex? (text : List Char) : Option Nat :=
  let digits := match text with
    | '+' :: rest => rest
    | _ => text
  (readNatural? digits).bind fun n => if n < Nat.pow 2 64 then some n else none

/-- The exponent at the end of a decimal: nothing, or `e` with an optional sign and digits. -/
def readExponent? : List Char → Option Int
  | [] => some 0
  | c :: rest =>
    if c = 'e' ∨ c = 'E' then
      let (negative, digits) := splitSign rest
      (readNatural? digits).map fun n => if negative then -(n : Int) else n
    else none

/-- A decimal without its sign: digits with a point before, between or after them, then an
exponent. -/
def readDecimal? (negative : Bool) (text : List Char) : Option Binary64 :=
  let (whole, rest) := splitDigits text
  let (places, rest) := match rest with
    | '.' :: rest => splitDigits rest
    | _ => ([], rest)
  if whole = [] ∧ places = [] then none
  else (readExponent? rest).map fun exponent =>
    .ofDecimal negative (digitsValue (whole ++ places)) (exponent - places.length)

/-- A double: a decimal with an optional sign, or an infinity or the absence of a number by name. -/
def readDouble? (text : List Char) : Option Binary64 :=
  let (negative, body) := splitSign text
  let name := String.ofList (body.map Char.toLower)
  if name = "inf" ∨ name = "infinity" then some (.infinite negative)
  else if name = "nan" then some .nan
  else readDecimal? negative body

end PathQuery.Number
