namespace PathQuery.Text.Utf8

/-- The bytes from the first to the second, both included. -/
abbrev ByteRange := Nat × Nat

/-- The bytes of a code point. -/
def bytes (n : Nat) : List Nat :=
  if n < 0x80 then [n]
  else if n < 0x800 then [0xC0 + n / 0x40, 0x80 + n % 0x40]
  else if n < 0x10000 then [0xE0 + n / 0x1000, 0x80 + n / 0x40 % 0x40, 0x80 + n % 0x40]
  else [0xF0 + n / 0x40000, 0x80 + n / 0x1000 % 0x40, 0x80 + n / 0x40 % 0x40, 0x80 + n % 0x40]

/-- Where a range that spans blocks of code points with the same leading bytes is to be cut: behind
a first block of which only the end belongs to it, or before a last block of which only the start
does. -/
def blockCut? (first last : Nat) : Option Nat :=
  [0x40, 0x1000, 0x40000].findSome? fun block =>
    if first / block = last / block then none
    else if first % block ≠ 0 then some (first / block * block + block - 1)
    else if last % block ≠ block - 1 then some (last / block * block - 1)
    else none

/-- The last code point of the first part of a range, if the range has to be cut: the spellings of a
part are of the same length, and beyond one byte they take blocks whole. -/
def cut? (first last : Nat) : Option Nat :=
  match [0x7F, 0x7FF, 0xFFFF].find? fun limit => first ≤ limit && limit < last with
  | some limit => some limit
  | none => if last < 0x80 then none else blockCut? first last

/-- The sequences of byte ranges that spell the code points from `first` to `last`. Surrogates have
no spelling. -/
def sequences (first last : Nat) : List (List ByteRange) :=
  if last < first then []
  else if first < 0xE000 ∧ 0xD7FF < last then sequences first 0xD7FF ++ sequences 0xE000 last
  else match cut? first last with
    | some middle =>
      if first ≤ middle ∧ middle < last then sequences first middle ++ sequences (middle + 1) last
      else []
    | none => [(bytes first).zip (bytes last)]
termination_by last + 1 - first

end PathQuery.Text.Utf8
