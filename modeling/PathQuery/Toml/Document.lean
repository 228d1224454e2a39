import PathQuery.Text.Taken
import PathQuery.Toml.Scalar
import PathQuery.Toml.Table

namespace PathQuery.Toml

/-- A dotted key: the tables on the way and the last part. -/
structure Key where
  path : List String
  last : String

/-- One statement of a document. -/
inductive Statement where
  | value (key : Key) (value : Json)
  | table (key : Key)
  | next (key : Key)

/-- How many parts a key may have, and how deep values may nest. -/
def depthLimit : Nat := 79

def isKeyChar (c : Char) : Bool :=
  c.isAlphanum || c = '_' || c = '-'

/-- One part of a key with the blanks around it: a word or a string on one line. -/
def readPart (text : List Char) : Option (Taken String text) :=
  let result := match skipBlanks text with
    | '"' :: rest => readLine '"' true 0 rest
    | '\'' :: rest => readLine '\'' false 0 rest
    | body => if body.takeWhile isKeyChar = [] then none else some (body.span isKeyChar)
  result.bind fun (part, rest) => taken? text (String.ofList part) (skipBlanks rest)

/-- The parts of a key with dots between them. -/
def readParts (text : List Char) : Option (Taken (List String) text) :=
  match readPart text with
  | none => none
  | some ⟨(part, rest), h⟩ =>
    match mark? '.' rest with
    | none => some ⟨([part], rest), h⟩
    | some after =>
      if ha : after.length < text.length then
        match readParts after with
        | none => none
        | some ⟨(parts, rest), hr⟩ => some ⟨(part :: parts, rest), Nat.lt_trans hr ha⟩
      else none
termination_by text.length

def readKey (text : List Char) : Option (Taken Key text) := do
  let ⟨(parts, rest), _⟩ ← readParts text
  let last ← parts.getLast?
  if depthLimit < parts.length then none else taken? text ⟨parts.dropLast, last⟩ rest

/-- Passes over blanks, ends of lines and comments. A comment goes to the end of its line. -/
def skipFiller : (inComment : Bool) → List Char → Option (List Char)
  | inComment, [] => if inComment then none else some []
  | inComment, c :: rest =>
    if c = '\n' then skipFiller false rest
    else if c = '\r' then (if rest.head? = some '\n' then skipFiller false rest else none)
    else if inComment then (if isTextChar c then skipFiller true rest else none)
    else if c = '#' then skipFiller true rest
    else if c = ' ' || c = '\t' then skipFiller false rest
    else some (c :: rest)

theorem skip_filler_length_le {inComment : Bool} {text rest : List Char}
    (h : skipFiller inComment text = some rest) : rest.length ≤ text.length := by
  fun_induction skipFiller inComment text <;> simp_all <;> omega

/-- Passes over what may stand between the items of an array. -/
def fillerSkipper : Skipper := fun text =>
  match h : skipFiller false text with
  | none => none
  | some rest => some ⟨rest, skip_filler_length_le h⟩

/-- Passes over what may stand between the pairs of a table. -/
def blankSkipper : Skipper :=
  fun text => some ⟨skipBlanks text, skip_blanks_length_le text⟩

/-- A key, an equals sign and a value. -/
def readPair (item : Taker Json) (text : List Char) : Option (Taken (Key × Json) text) := do
  let ⟨(key, rest), _⟩ ← readKey text
  let ⟨(value, rest), _⟩ ← item (← mark? '=' rest)
  taken? text (key, value) rest

/-- The table that values under keys make. -/
def inlineTable? (pairs : List (Key × Json)) : Option Json := do
  let add := fun (items : Items) (pair : Key × Json) =>
    items.addValue pair.1.path pair.1.last pair.2
  return .object (toFields (← pairs.foldlM add []))

/-- A value that holds no other ones: a string, or what a word stands for. -/
def readScalar (text : List Char) : Option (Taken Json text) :=
  let body := skipBlanks text
  match readString? body with
  | some (characters, rest) => taken? text (.string (String.ofList characters)) rest
  | none => do
    let (word, rest) := splitWord body
    taken? text (← ofWord? word) rest

/-- Reads one value, with at most `depth` arrays and tables around each other. -/
def readValue (depth : Nat) (text : List Char) : Option (Taken Json text) :=
  match h : skipBlanks text with
  | [] => none
  | c :: rest =>
    have hc : (c :: rest).length ≤ text.length := h ▸ skip_blanks_length_le text
    have hr : rest.length ≤ text.length := Nat.le_of_succ_le hc
    match depth with
    | 0 => readScalar text
    | depth + 1 =>
      if c = '[' then
        (takeItems fillerSkipper ']' true (readValue depth) rest).map fun taken =>
          (taken.map Json.array).widen hr
      else if c = '\x7b' then do
        let taken ← takeItems blankSkipper '\x7d' false (readPair (readValue depth)) rest
        let table ← inlineTable? taken.1.1
        return (taken.map fun _ => table).widen hr
      else readScalar text

/-- What may stand at the end of a line: blanks, a comment, and the end of the line or of the
text. -/
def endLine? (text : List Char) : Option (List Char) :=
  let rest := match skipBlanks text with
    | '#' :: rest => rest.dropWhile isTextChar
    | rest => rest
  if rest = [] then some [] else lineEnd? rest

/-- One line with its statement, if it is not empty. -/
def readStatement (text : List Char) : Option (Taken (Option Statement) text) := do
  let finish := fun (statement : Option Statement) (rest : List Char) =>
    (endLine? rest).bind (taken? text statement)
  match skipBlanks text with
  | '[' :: '[' :: rest =>
    let ⟨(key, rest), _⟩ ← readKey rest
    finish (some (.next key)) (← mark? ']' (← mark? ']' rest))
  | '[' :: rest =>
    let ⟨(key, rest), _⟩ ← readKey rest
    finish (some (.table key)) (← mark? ']' rest)
  | body =>
    match finish none body with
    | some line => some line
    | none =>
      let ⟨((key, value), rest), _⟩ ← readPair (readValue depthLimit) body
      finish (some (.value key value)) rest

/-- The statements of a text, line after line. -/
def readStatements (text : List Char) : Option (List Statement) :=
  if text = [] then some []
  else match readStatement text with
    | none => none
    | some ⟨(statement, rest), _⟩ => (readStatements rest).map (statement.toList ++ ·)
termination_by text.length

/-- A document under construction: its tables, and the one that values go to now. -/
structure Draft where
  items : Items := []
  current : List String := []

def Draft.add (draft : Draft) : Statement → Option Draft
  | .value key value => do
    let insert := fun (_ : Bool) (items : Items) => items.addValue key.path key.last value
    return { draft with items := ← draft.items.modifyAt false insert draft.current false }
  | .table key => do
    return { items := ← draft.items.openTable key.path key.last, current := key.path ++ [key.last] }
  | .next key => do
    return { items := ← draft.items.openNext key.path key.last, current := key.path ++ [key.last] }

/-- The fields of a document. A mark of the byte order may stand in front. -/
def parse? (text : String) : Option Json.Fields := do
  let body := match text.toList with
    | '﻿' :: rest => rest
    | body => body
  let draft ← (← readStatements body).foldlM Draft.add {}
  return toFields draft.items

end PathQuery.Toml
