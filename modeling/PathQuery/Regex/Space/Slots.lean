import Std.Data.HashMap

namespace PathQuery.Regex

/-- Numbers remembered for keys, slot by slot. -/
structure Slots where
  count : Nat
  entries : Std.HashMap Nat (List Nat × Nat) := {}

namespace Slots

/-- Mixes numbers into one of 64 bits: each is added bit by bit, and the sum is multiplied by a
prime. -/
def mix (numbers : List Nat) : UInt64 :=
  numbers.foldl (fun mixed n => (mixed ^^^ n.toUInt64) * 1099511628211) 14695981039346656037

def slot (slots : Slots) (key : List Nat) : Nat :=
  (mix key).toNat % slots.count

def find? (slots : Slots) (key : List Nat) : Option Nat :=
  match slots.entries[slots.slot key]? with
  | some (known, value) => if known = key then some value else none
  | none => none

def insert (slots : Slots) (key : List Nat) (value : Nat) : Slots :=
  { slots with entries := slots.entries.insert (slots.slot key) (key, value) }

/-- What was remembered last is found. -/
theorem find_insert_self (slots : Slots) (key : List Nat) (value : Nat) :
    (slots.insert key value).find? key = some value := by
  simp [find?, insert, slot]

end Slots
end PathQuery.Regex
