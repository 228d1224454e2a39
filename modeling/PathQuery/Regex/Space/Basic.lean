namespace PathQuery.Regex

/-- In which direction an automaton reads. -/
inductive Direction where
  | forward
  | backward
deriving DecidableEq, Repr

/-- The states of an automaton so far, and the bytes for the ways on from them. -/
structure Space where
  states : Nat := 0
  ways : Nat := 0
deriving DecidableEq, Repr

namespace Space

/-- The size in bytes. -/
def size (space : Space) : Nat :=
  32 * space.states + space.ways

/-- Adds a state. -/
def add (space : Space) : Space :=
  { space with states := space.states + 1 }

/-- Adds a state that reads one byte, with the given number of ranges to read it from. -/
def addReader (ranges : Nat) (space : Space) : Space :=
  ⟨space.states + 1, space.ways + 8 * ranges⟩

/-- Adds a state that chooses between the given number of ways without reading. -/
def addFork (ways : Nat) (space : Space) : Space :=
  ⟨space.states + 1, space.ways + 4 * ways⟩

/-- The greatest size of an automaton. -/
def limit : Nat := 10485760

/-- Does the same a number of times, or until there is no space left. -/
def times (step : Space → Space) : Nat → Space → Space
  | 0, space => space
  | count + 1, space => if limit < space.size then space else times step count (step space)

end Space
end PathQuery.Regex
