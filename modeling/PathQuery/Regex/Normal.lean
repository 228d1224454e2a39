import PathQuery.Regex.Pattern

namespace PathQuery.Regex.Pattern

/-- The pattern of a set. Where the set has one member or none, its alphabet makes no difference. -/
def ofSet (alphabet : Alphabet) (codes : CodeSet) : Pattern :=
  let codes := codes.trim
  .set codes (if codes.isEmpty || codes.only?.isSome then .unicode else alphabet)

/-- The only character that the pattern matches, if it is the set of one. -/
def letter? : Pattern → Option Nat
  | .set codes _ => codes.only?
  | _ => none

/-- The parts of a sequence. -/
def parts : Pattern → List Pattern
  | .empty => []
  | .seq first second => first.parts ++ second.parts
  | p => [p]

/-- One pattern after the other. -/
def sequence (patterns : List Pattern) : Pattern :=
  ofList (patterns.flatMap parts)

/-- The parts of a sequence, with characters in a row taken together. -/
def pieces (pattern : Pattern) : List (List Pattern) :=
  pattern.parts.splitBy fun a b => a.letter?.isSome && b.letter?.isSome

/-- The alternatives of a choice. -/
def choices : Pattern → List Pattern
  | .alt first second => first.choices ++ second.choices
  | p => [p]

/-- The sets that the patterns are, if all of them are sets. -/
def sets? (patterns : List Pattern) : Option (List CodeSet) :=
  patterns.mapM fun
    | .set codes _ => some codes
    | _ => none

/-- The choice between alternatives that are no choices. Single characters make one set, and so do
sets of other sizes, but not both of them together. -/
def join : List Pattern → Pattern
  | [pattern] => pattern
  | alternatives =>
    match sets? alternatives with
    | some sets =>
      if sets.all (·.only?.isSome) || sets.all (·.only?.isNone) then ofSet .unicode (.unionAll sets)
      else ofAlternatives alternatives
    | none => ofAlternatives alternatives

/-- What all lists start with. -/
def commonStart {α : Type} [BEq α] : List (List α) → List α
  | [] => []
  | first :: others =>
    others.foldl (fun shared other => ((shared.zip other).takeWhile fun (a, b) => a == b).map (·.1))
      first

/-- The first pattern that matches. Sequences that start with the same pieces share them. -/
def choice (patterns : List Pattern) : Pattern :=
  let alternatives := patterns.flatMap choices
  let sequences := alternatives.map pieces
  let shared := commonStart sequences
  if 2 ≤ alternatives.length && sequences.all (2 ≤ ·.length) && !shared.isEmpty then
    let rests := sequences.map fun pieces => ofList (pieces.drop shared.length).flatten
    sequence (shared.flatten ++ [join (rests.flatMap choices)])
  else join alternatives

/-- A pattern from `least` to `most` times. One that takes nothing counts once at most. -/
def times (least : Nat) (most : Option Nat) (greedy : Bool) (body : Pattern) : Pattern :=
  let (least, most) :=
    if body.takesNothing then (min least 1, some (min (most.getD 1) 1)) else (least, most)
  if most = some 0 then .empty
  else if least = 1 ∧ most = some 1 then body
  else .rep least most greedy body

end PathQuery.Regex.Pattern
