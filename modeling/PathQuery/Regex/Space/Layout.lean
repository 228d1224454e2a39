import PathQuery.Regex.Normal
import PathQuery.Regex.Space.Sets
import PathQuery.Regex.Space.Words

namespace PathQuery.Regex
open Text

/-- Ends an alternative. Behind the second one follow the state that chooses and the one where all
meet. -/
def Space.endChoice (place : Nat) (space : Space) : Space :=
  match place with
  | 0 => space
  | 1 => (space.addFork 2).add
  | _ => { space with ways := space.ways + 4 }

namespace Pattern

/-- The bytes of a pattern that is a row of characters. -/
def bytes? : Pattern → Option (List Nat)
  | .set codes _ => codes.only?.map Utf8.bytes
  | .seq first second => do return (← first.bytes?) ++ (← second.bytes?)
  | _ => none

/-- The fewest characters of a match, unless a part of the pattern cannot match. -/
def fewest? : Pattern → Option Nat
  | .empty => some 0
  | .set codes _ => if codes.isEmpty then none else some 1
  | .look _ => some 0
  | .capture _ body => body.fewest?
  | .seq first second => do return (← first.fewest?) + (← second.fewest?)
  | .alt first second => do return min (← first.fewest?) (← second.fewest?)
  | .rep least _ _ body => do return least * (← body.fewest?)

/-- Adds the states for a repetition, given how those for its body are added. -/
def addRepetition (least : Nat) (most : Option Nat) (takesSome : Bool) (body : Space → Space)
    (space : Space) : Space :=
  match least, most with
  | 0, some 1 => (body (space.addFork 2)).add
  | 0, none =>
    if takesSome then body (space.addFork 2) else (((body space).addFork 2).addFork 2).add
  | least, none => (space.times body least).addFork 2
  | least, some most =>
    if least = most then space.times body least
    else
      let space := if least = 0 then space.add else space.times body least
      space.add.times (fun space => body (space.addFork 2)) (most - least)

/-- Adds the states for a pattern. `place` is its place among the alternatives of a choice. -/
def addTo (direction : Direction) : Pattern → (place : Nat) → Space → Space
  | .empty, place, space => space.add.endChoice place
  | .set codes _, place, space => (space.addSet direction codes).endChoice place
  | .look _, place, space => space.add.endChoice place
  | .capture _ body, place, space =>
    match direction with
    | .forward => (body.addTo direction 0 space.add).add.endChoice place
    | .backward => (body.addTo direction 0 space).endChoice place
  | .seq first second, place, space =>
    match direction with
    | .forward => (second.addTo direction 0 (first.addTo direction 0 space)).endChoice place
    | .backward => (first.addTo direction 0 (second.addTo direction 0 space)).endChoice place
  | .alt first second, place, space =>
    match if place = 0 then ((Pattern.alt first second).choices.mapM bytes?) else none with
    | some words => space.addWords direction words
    | none => second.addTo direction (place + 1) (first.addTo direction place space)
  | .rep least most _ body, place, space =>
    (addRepetition least most (body.fewest?.any (0 < ·)) (body.addTo direction 0) space).endChoice
      place

/-- The space of the automaton that reads in the given direction. A match may start, and backward
end, anywhere unless the pattern forbids it; forward, the ends of the whole match are kept. -/
def space (direction : Direction) (pattern : Pattern) : Space :=
  let lead := fun (anchored : Bool) =>
    if anchored then ({} : Space).add else ((({} : Space).addFork 2).add).addReader 1
  match direction with
  | .forward => (pattern.addTo .forward 0 (lead pattern.startsText).add).add.add
  | .backward => (pattern.addTo .backward 0 (lead pattern.endsText)).add

/-- Whether neither automaton is too large. -/
def fits (pattern : Pattern) : Bool :=
  (pattern.space .forward).size ≤ Space.limit && (pattern.space .backward).size ≤ Space.limit

end Pattern
end PathQuery.Regex
