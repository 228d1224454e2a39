import PathQuery.Regex.Space.Basic
import PathQuery.Regex.Space.Slots
import PathQuery.Text.CodeSet
import PathQuery.Text.Utf8

namespace PathQuery.Regex.Space
open Text

/-- The states that read a set, while they are added. -/
structure Sharing where
  space : Space
  known : Slots

/-- The state with the given key: one that is remembered, or a new one. -/
def Sharing.state (add : Space → Space) (key : List Nat) (sharing : Sharing) : Nat × Sharing :=
  match sharing.known.find? key with
  | some state => (state, sharing)
  | none =>
    let state := sharing.space.states
    (state, ⟨add sharing.space, sharing.known.insert key state⟩)

/-- The state from which sequences of at most `length` ranges are read forward, up to the state
`stop`. Sequences that start with the same range share the state behind it, and so do all states
with the same ways on. -/
def forwardState (stop : Nat) : (length : Nat) → List (List Utf8.ByteRange) → Sharing →
    Nat × Sharing
  | 0, _, sharing => (stop, sharing)
  | length + 1, sequences, sharing =>
    if sequences.all List.isEmpty then (stop, sharing)
    else
      let groups := sequences.splitBy fun a b => a.head? == b.head?
      let (ways, sharing) := groups.foldl (fun (ways, sharing) group =>
        match group.head?.bind List.head? with
        | none => (ways, sharing)
        | some (first, last) =>
          let (state, sharing) := forwardState stop length (group.map (List.drop 1)) sharing
          (ways ++ [first, last, state], sharing)) (([], sharing) : List Nat × Sharing)
      sharing.state (addReader groups.length) ways

/-- The state from which one sequence of ranges is read backward, before the state that was
reached. -/
def backwardState (sequence : List Utf8.ByteRange) (stop : Nat) (sharing : Sharing) :
    Nat × Sharing :=
  sequence.foldl (fun (state, sharing) (first, last) => sharing.state add [state, first, last])
    (stop, sharing)

/-- Adds the states for sequences of ranges. Backward, each sequence is one way from the state at
the start. -/
def addSequences (direction : Direction) (sequences : List (List Utf8.ByteRange))
    (space : Space) : Space :=
  match direction with
  | .forward => (forwardState space.states 5 sequences ⟨space.add, ⟨10000, {}⟩⟩).2.space
  | .backward =>
    let stop := space.states + 1
    let start : Sharing := ⟨(space.addFork sequences.length).add, ⟨1000, {}⟩⟩
    (sequences.foldl (fun sharing sequence => (backwardState sequence stop sharing).2) start).space

/-- Adds the states for a set of characters. A single one is spelled out, and a set within ASCII is
one state and its end. -/
def addSet (direction : Direction) (codes : CodeSet) (space : Space) : Space :=
  match codes.only? with
  | some n => (Utf8.bytes n).foldl (fun space _ => space.add) space
  | none =>
    let ranges := codes.ranges
    if ranges.all fun (_, last) => last < 128 then space.add.addReader ranges.length
    else addSequences direction
      (ranges.flatMap fun (first, last) => Utf8.sequences first last) space

end PathQuery.Regex.Space
