import PathQuery.Number.Binary64

namespace PathQuery

/-- The number `digits · 10 ^ exponent`. -/
structure Decimal where
  digits : Nat
  exponent : Int
deriving DecidableEq, Repr, Inhabited

/-- Which of two equally near decimals is written. -/
inductive TieRule where
  | up
  | toEven
deriving DecidableEq, Repr

namespace Decimal

/-- A quarter of a unit is the measure in which both ends of a rounding interval are whole numbers.
The quotient of the two numbers is `10 ^ exponent` in quarters. -/
def gridNum (exponent : Int) : Nat := 4 * Binary64.unit * Nat.pow 10 exponent.toNat

def gridDen (exponent : Int) : Nat := Nat.pow 10 (-exponent).toNat

/-- Least number, in quarters of a unit, that may round to `units`. Below a power of two the
neighbours are twice as close. -/
def lowerEnd (units : Nat) : Nat :=
  let step := Binary64.spacing units
  4 * units - (if 1 < step ∧ units = Nat.pow 2 units.log2 then step else 2 * step)

/-- Greatest number, in quarters of a unit, that may round to `units`. -/
def upperEnd (units : Nat) : Nat :=
  4 * units + 2 * Binary64.spacing units

/-- Whether `digits · 10 ^ exponent` rounds to `units`. The ends of the interval do so if the last
binary digit kept is even. -/
def roundsTo (units : Nat) (digits : Nat) (exponent : Int) : Bool :=
  let value := digits * gridNum exponent
  let low := lowerEnd units * gridDen exponent
  let high := upperEnd units * gridDen exponent
  if units / Binary64.spacing units % 2 = 0 then low ≤ value ∧ value ≤ high
  else low < value ∧ value < high

/-- The multiple of `10 ^ exponent` that rounds to `units` and is nearest to it, if there is one. -/
def onGrid? (tie : TieRule) (units : Nat) (exponent : Int) : Option Decimal :=
  let exact := 4 * units * gridDen exponent
  let below := exact / gridNum exponent
  let above := below + 1
  let toBelow := exact - below * gridNum exponent
  let toAbove := above * gridNum exponent - exact
  let nearer :=
    if toBelow < toAbove then below
    else if toAbove < toBelow then above
    else match tie with
      | .up => above
      | .toEven => below + below % 2
  if nearer ≠ 0 ∧ roundsTo units nearer exponent then some ⟨nearer, exponent⟩
  else if below ≠ 0 ∧ roundsTo units below exponent then some ⟨below, exponent⟩
  else if roundsTo units above exponent then some ⟨above, exponent⟩
  else none

/-- A power of ten at least as large as the number of units. -/
def topExponent (units : Nat) : Int :=
  ((units.log2 : Int) - 1073) * 30103 / 100000 + 1

/-- The decimal with the fewest digits that rounds to a positive number of units: the coarsest grid
with such a number has it. Seventeen digits are always enough, so the exact decimal at the end is
not reached. -/
def shortest (tie : TieRule) (units : Nat) : Decimal :=
  ((List.range 24).findSome? fun (i : Nat) => onGrid? tie units (topExponent units - i)).getD
    ⟨units * Nat.pow 5 1074, -1074⟩

/-- The digits of a number, most significant first. -/
def digitText (n : Nat) : List Char :=
  Nat.toDigits 10 n

/-- The decimal without an exponent. A whole number has no point. -/
def positional (d : Decimal) : List Char :=
  let digits := digitText d.digits
  if 0 ≤ d.exponent then digits ++ List.replicate d.exponent.toNat '0'
  else
    let places := (-d.exponent).toNat
    if places < digits.length then
      digits.take (digits.length - places) ++ ['.'] ++ digits.drop (digits.length - places)
    else ['0', '.'] ++ List.replicate (places - digits.length) '0' ++ digits

/-- The power of ten of the first digit. -/
def leadingExponent (d : Decimal) : Int :=
  d.exponent + (digitText d.digits).length - 1

/-- One digit before the point, then a signed exponent. -/
def scientific (d : Decimal) : List Char :=
  let exponent := d.leadingExponent
  let power := (if exponent < 0 then ['-'] else ['+']) ++ digitText exponent.natAbs
  match digitText d.digits with
  | [] => []
  | [digit] => digit :: 'e' :: power
  | digit :: rest => digit :: '.' :: rest ++ 'e' :: power

end Decimal

namespace Binary64

def signText (negative : Bool) : List Char :=
  if negative then ['-'] else []

/-- A double in full, never with an exponent. -/
def fullText : Binary64 → List Char
  | .finite negative units _ =>
    signText negative ++
      if units = 0 then ['0'] else (Decimal.shortest .up units).positional
  | .infinite negative => signText negative ++ ['i', 'n', 'f']
  | .notANumber .. => ['N', 'a', 'N']

end Binary64
end PathQuery
