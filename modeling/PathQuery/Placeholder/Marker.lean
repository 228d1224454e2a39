import PathQuery.Regex.Search
import PathQuery.Text.Blank

namespace PathQuery

/-- How placeholders are written. -/
inductive Marker where
  | braces
  | pattern (regex : Regex)
deriving DecidableEq

/-- A placeholder at the head of a text: how many characters it takes, and the name as written. -/
structure Occurrence where
  length : Nat
  name : List Char
deriving DecidableEq, Repr

/-- A piece of a text: a character that stands for itself, or a placeholder by its name. -/
inductive Piece where
  | plain (c : Char)
  | placeholder (name : List Char)
deriving DecidableEq, Repr

namespace Marker

/-- The text in front of the first two closing braces. -/
def beforeClosing? : List Char → Option (List Char)
  | [] => none
  | c :: rest =>
    if c = '\x7d' ∧ rest.head? = some '\x7d' then some []
    else (beforeClosing? rest).map (c :: ·)

/-- A name between double braces. The name has a character at least, and it ends as early as it
can. -/
def bracesAt? : List Char → Option Occurrence
  | '\x7b' :: '\x7b' :: c :: rest =>
    (beforeClosing? rest).map fun name => ⟨name.length + 5, c :: name⟩
  | _ => none

/-- The placeholder at the head of a text, after the character `before`. A group that takes no part
in a match gives the empty name. -/
def at? (marker : Marker) (before : Option Char) (text : List Char) : Option Occurrence :=
  match marker with
  | .braces => bracesAt? text
  | .pattern regex =>
    (regex.matchAt? before text).map fun m => ⟨m.length, (m.group? 1 text).getD []⟩

/-- Cuts a text into pieces. `skip` characters still belong to the last placeholder; `ended` tells
that a placeholder ended just here, where an empty one does not count again. -/
def piecesFrom (marker : Marker) (before : Option Char) (ended : Bool) :
    (skip : Nat) → List Char → List Piece
  | _, [] =>
    match marker.at? before [] with
    | some occurrence => if ended then [] else [.placeholder (Text.trim occurrence.name)]
    | none => []
  | skip + 1, c :: rest => piecesFrom marker (some c) true skip rest
  | 0, c :: rest =>
    match marker.at? before (c :: rest) with
    | none => .plain c :: piecesFrom marker (some c) false 0 rest
    | some ⟨0, name⟩ =>
      let others := .plain c :: piecesFrom marker (some c) false 0 rest
      if ended then others else .placeholder (Text.trim name) :: others
    | some ⟨length + 1, name⟩ =>
      .placeholder (Text.trim name) :: piecesFrom marker (some c) true length rest

/-- The pieces of a text. The names of placeholders are trimmed. -/
def pieces (marker : Marker) (text : String) : List Piece :=
  marker.piecesFrom none false 0 text.toList

/-- The names of the placeholders of a text, in order. -/
def names (marker : Marker) (text : String) : List String :=
  (marker.pieces text).filterMap fun
    | .plain _ => none
    | .placeholder name => some (String.ofList name)

end Marker
end PathQuery
