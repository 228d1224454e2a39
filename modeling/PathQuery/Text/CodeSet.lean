namespace PathQuery

/-- A set of code points, given by the points where membership changes. -/
structure CodeSet where
  bounds : Array Nat
deriving DecidableEq, Repr

namespace CodeSet

/-- How many of the sorted bounds from `lo` up to `hi` are at most `n`, plus `lo`. -/
def countUpTo (bounds : Array Nat) (n lo hi : Nat) : Nat :=
  if lo < hi then
    let middle := (lo + hi) / 2
    match bounds[middle]? with
    | some bound =>
      if bound ≤ n then countUpTo bounds n (middle + 1) hi else countUpTo bounds n lo middle
    | none => lo
  else lo
termination_by hi - lo

/-- Whether a code point belongs to the set: an odd number of changes lies at or below it. -/
def contains (set : CodeSet) (n : Nat) : Bool :=
  countUpTo set.bounds n 0 set.bounds.size % 2 == 1

def has (set : CodeSet) (c : Char) : Bool :=
  set.contains c.toNat

def empty : CodeSet := ⟨#[]⟩

/-- Every code point. -/
def all : CodeSet := ⟨#[0, 0x110000]⟩

/-- The code points from `first` to `last`, both included. -/
def range (first last : Nat) : CodeSet := ⟨#[first, last + 1]⟩

def single (n : Nat) : CodeSet := range n n

/-- Walks two sorted lists of changes and keeps the points where the combined membership changes.
`inA`, `inB` tell the membership before the next point and `inside` the combined one. -/
def combineBounds (keep : Bool → Bool → Bool) (inA inB inside : Bool) :
    List Nat → List Nat → List Nat
  | [], [] => []
  | a :: as, [] => point keep a (!inA) inB inside as []
  | [], b :: bs => point keep b inA (!inB) inside [] bs
  | a :: as, b :: bs =>
    if a < b then point keep a (!inA) inB inside as (b :: bs)
    else if b < a then point keep b inA (!inB) inside (a :: as) bs
    else point keep a (!inA) (!inB) inside as bs
termination_by as bs => 2 * (as.length + bs.length)
where
  /-- Writes the point down if the combined membership changes there. -/
  point (keep : Bool → Bool → Bool) (n : Nat) (inA inB inside : Bool) (as bs : List Nat) :
    List Nat :=
    if keep inA inB = inside then combineBounds keep inA inB inside as bs
    else n :: combineBounds keep inA inB (keep inA inB) as bs
  termination_by 2 * (as.length + bs.length) + 1

/-- Drops points that stand twice: there a range ends and the next one starts. -/
def mergeBounds : List Nat → List Nat
  | a :: b :: rest => if a = b then mergeBounds rest else a :: mergeBounds (b :: rest)
  | bounds => bounds

/-- The set whose membership is computed from the memberships in two sets; `keep false false` is
false. -/
def combine (keep : Bool → Bool → Bool) (a b : CodeSet) : CodeSet :=
  ⟨(combineBounds keep false false false (mergeBounds a.bounds.toList)
    (mergeBounds b.bounds.toList)).toArray⟩

def union (a b : CodeSet) : CodeSet := combine (· || ·) a b

def inter (a b : CodeSet) : CodeSet := combine (· && ·) a b

def diff (a b : CodeSet) : CodeSet := combine (fun x y => x && !y) a b

def symmDiff (a b : CodeSet) : CodeSet := combine (· ^^ ·) a b

def compl (a : CodeSet) : CodeSet := diff all a

def unionAll : List CodeSet → CodeSet :=
  List.foldl union empty

/-- The points where membership changes, for a sorted list of members. -/
def boundsOfSorted : List Nat → List Nat
  | [] => []
  | n :: rest =>
    match boundsOfSorted rest with
    | [] => [n, n + 1]
    | m :: bounds =>
      if n = m then m :: bounds
      else if n + 1 = m then n :: bounds
      else n :: (n + 1) :: m :: bounds

/-- The set with the listed members. -/
def ofCodes (codes : List Nat) : CodeSet :=
  ⟨(boundsOfSorted (codes.mergeSort (· ≤ ·))).toArray⟩

/-- The pairs of points that open and close a range; the last range may reach to the end. -/
def rangesOfBounds : List Nat → List (Nat × Nat)
  | [] => []
  | [first] => [(first, 0x10FFFF)]
  | first :: bound :: bounds => (first, bound - 1) :: rangesOfBounds bounds

/-- The ranges of the set, by their first and last members. -/
def ranges (set : CodeSet) : List (Nat × Nat) :=
  rangesOfBounds set.bounds.toList

/-- The set of the given ranges, which are sorted and do not overlap. -/
def ofRanges (ranges : List (Nat × Nat)) : CodeSet :=
  ⟨(ranges.flatMap fun (first, last) => [first, last + 1]).toArray⟩

def isEmpty (set : CodeSet) : Bool :=
  set.bounds.isEmpty

/-- The only member of a set that has one. -/
def only? (set : CodeSet) : Option Nat :=
  match set.ranges with
  | [(first, last)] => if first = last then some first else none
  | _ => none

/-- How many members the set has. -/
def count (set : CodeSet) : Nat :=
  set.ranges.foldr (fun (first, last) count => last + 1 - first + count) 0

/-- The members of the set in order. -/
def members (set : CodeSet) : List Nat :=
  set.ranges.flatMap fun (first, last) => List.range' first (last + 1 - first)

/-- A range without the surrogates at its ends. -/
def trimRange? : Nat × Nat → Option (Nat × Nat)
  | (first, last) =>
    let isSurrogate := fun (n : Nat) => 0xD800 ≤ n && n ≤ 0xDFFF
    let first := if isSurrogate first then 0xE000 else first
    let last := if isSurrogate last then 0xD7FF else last
    if first ≤ last then some (first, last) else none

/-- The set without the surrogates at the ends of its ranges; a range that has characters on both
sides of them stays one. -/
def trim (set : CodeSet) : CodeSet :=
  ofRanges (set.ranges.filterMap trimRange?)

/-- Reads one digit of a table: `0` to `9`, then `a` to `z`. -/
def tableDigit (c : Char) : Nat :=
  if c.isDigit then c.toNat - '0'.toNat else c.toNat - 'a'.toNat + 10

/-- Reads a table of changes, written as differences from one point to the next in base 36 with
blanks or ends of lines between them. -/
def ofTable (table : String) : CodeSet :=
  let step := fun (state : Array Nat × Nat × Option Nat) (c : Char) =>
    let (bounds, last, difference) := state
    if c = ' ' || c = '\n' then
      match difference with
      | some difference => (bounds.push (last + difference), last + difference, none)
      | none => state
    else (bounds, last, some (difference.getD 0 * 36 + tableDigit c))
  ⟨((table.toList ++ [' ']).foldl step (#[], 0, none)).1⟩

end CodeSet
end PathQuery
