import PathQuery.Json.Basic

namespace PathQuery.Json

/-- The four-digit escape of a control character. -/
def controlEscape (c : Char) : List Char :=
  let digits := Nat.toDigits 16 c.toNat
  ['\\', 'u'] ++ List.replicate (4 - digits.length) '0' ++ digits

/-- One character of a JSON string. -/
def stringChar (c : Char) : List Char :=
  if c = '"' then ['\\', '"']
  else if c = '\\' then ['\\', '\\']
  else if 0x20 ≤ c.toNat then [c]
  else if c = '\x08' then ['\\', 'b']
  else if c = '\t' then ['\\', 't']
  else if c = '\n' then ['\\', 'n']
  else if c = '\x0c' then ['\\', 'f']
  else if c = '\r' then ['\\', 'r']
  else controlEscape c

def stringText (text : String) : String :=
  String.ofList (['"'] ++ text.toList.flatMap stringChar ++ ['"'])

/-- A positive decimal as JSON writes it. -/
def decimalText (d : Decimal) : List Char :=
  if -5 ≤ d.leadingExponent ∧ d.leadingExponent ≤ 15 then
    if 0 ≤ d.exponent then d.positional ++ ['.', '0'] else d.positional
  else d.scientific

/-- A double as JSON writes it. What is no finite number has no JSON text and is written as null. -/
def doubleText : Binary64 → List Char
  | .finite negative units _ =>
    Binary64.signText negative ++
      if units = 0 then ['0', '.', '0'] else decimalText (Decimal.shortest .toEven units)
  | _ => ['n', 'u', 'l', 'l']

def integerText (i : Int) : List Char :=
  Binary64.signText (i < 0) ++ Decimal.digitText i.natAbs

def Number.text : Number → List Char
  | .integer value => integerText value.val
  | .double value _ => doubleText value

mutual

/-- The value on one line without blanks. -/
def compact : Json → String
  | .null => "null"
  | .bool value => if value then "true" else "false"
  | .number value => String.ofList value.text
  | .string text => stringText text
  | .array items => "[" ++ compactItems items ++ "]"
  | .object fields => "\x7b" ++ compactFields fields ++ "\x7d"

def compactItems : List Json → String
  | [] => ""
  | [item] => compact item
  | item :: rest => compact item ++ "," ++ compactItems rest

def compactFields : List (String × Json) → String
  | [] => ""
  | [(key, value)] => stringText key ++ ":" ++ compact value
  | (key, value) :: rest => stringText key ++ ":" ++ compact value ++ "," ++ compactFields rest

end

/-- A new line with an indentation of two blanks for each level. -/
def newLine (level : Nat) : String :=
  String.ofList ('\n' :: List.replicate (2 * level) ' ')

mutual

/-- The value over several lines, `level` levels deep; empty arrays and objects stay on one. -/
def prettyAt (level : Nat) : Json → String
  | .array [] => "[]"
  | .array items => "[" ++ prettyItems (level + 1) items ++ newLine level ++ "]"
  | .object [] => "\x7b\x7d"
  | .object fields => "\x7b" ++ prettyFields (level + 1) fields ++ newLine level ++ "\x7d"
  | .null => "null"
  | .bool value => if value then "true" else "false"
  | .number value => String.ofList value.text
  | .string text => stringText text

def prettyItems (level : Nat) : List Json → String
  | [] => ""
  | [item] => newLine level ++ prettyAt level item
  | item :: rest => newLine level ++ prettyAt level item ++ "," ++ prettyItems level rest

def prettyFields (level : Nat) : List (String × Json) → String
  | [] => ""
  | [(key, value)] => newLine level ++ stringText key ++ ": " ++ prettyAt level value
  | (key, value) :: rest =>
    newLine level ++ stringText key ++ ": " ++ prettyAt level value ++ "," ++
      prettyFields level rest

end

def pretty (value : Json) : String :=
  prettyAt 0 value

/-- The text a value shows outside JSON: a string bare, everything else as JSON. -/
def plainText : Json → String
  | .string text => text
  | value => compact value

end PathQuery.Json
