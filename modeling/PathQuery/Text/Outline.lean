namespace PathQuery

/-- An outline of a value. -/
inductive Outline where
  | word (text : String)
  /-- A name with one part between parentheses. -/
  | wrap (name : String) (part : Outline)
  | list (items : List Outline)
  | record (name : String) (fields : List (String × Outline))

namespace Outline

mutual

/-- The outline on one line. -/
def inline : Outline → String
  | .word text => text
  | .wrap name part => name ++ "(" ++ part.inline ++ ")"
  | .list items => "[" ++ inlineItems items ++ "]"
  | .record name fields => name ++ " \x7b " ++ inlineFields fields ++ " \x7d"

def inlineItems : List Outline → String
  | [] => ""
  | [item] => item.inline
  | item :: rest => item.inline ++ ", " ++ inlineItems rest

def inlineFields : List (String × Outline) → String
  | [] => ""
  | [(name, value)] => name ++ ": " ++ value.inline
  | (name, value) :: rest => name ++ ": " ++ value.inline ++ ", " ++ inlineFields rest

end

/-- A new line, four blanks in for each level. -/
def newLine (level : Nat) : String :=
  String.ofList ('\n' :: List.replicate (4 * level) ' ')

mutual

/-- The outline with one part to a line, `level` levels deep. -/
def linesAt (level : Nat) : Outline → String
  | .word text => text
  | .wrap name part =>
    name ++ "(" ++ newLine (level + 1) ++ part.linesAt (level + 1) ++ "," ++ newLine level ++ ")"
  | .list [] => "[]"
  | .list items => "[" ++ lineItems (level + 1) items ++ newLine level ++ "]"
  | .record name fields =>
    name ++ " \x7b" ++ lineFields (level + 1) fields ++ newLine level ++ "\x7d"

def lineItems (level : Nat) : List Outline → String
  | [] => ""
  | item :: rest => newLine level ++ item.linesAt level ++ "," ++ lineItems level rest

def lineFields (level : Nat) : List (String × Outline) → String
  | [] => ""
  | (name, value) :: rest =>
    newLine level ++ name ++ ": " ++ value.linesAt level ++ "," ++ lineFields level rest

end

def lines (outline : Outline) : String :=
  outline.linesAt 0

end Outline
end PathQuery
