import PathQuery.Text.CodeSet

namespace PathQuery.Regex

/-- Which characters a set or a word is about. -/
inductive Alphabet where
  | unicode
  | ascii
deriving DecidableEq, Repr

/-- A condition on the place between two characters. -/
inductive Look where
  | textStart
  | textEnd
  | lineStart
  | lineEnd
  /-- The start and the end of a line where carriage returns end lines too. -/
  | lineStartReturn
  | lineEndReturn
  | wordBoundary (alphabet : Alphabet)
  | notWordBoundary (alphabet : Alphabet)
  | wordStart (alphabet : Alphabet)
  | wordEnd (alphabet : Alphabet)
  /-- No word character before, or none after, whatever the other side holds. -/
  | wordStartHalf (alphabet : Alphabet)
  | wordEndHalf (alphabet : Alphabet)
deriving DecidableEq, Repr

/-- A regular expression. Of two ways to match, the first alternative and the preferred number of
repetitions win. -/
inductive Pattern where
  | empty
  | set (codes : CodeSet) (alphabet : Alphabet)
  | look (condition : Look)
  | capture (index : Nat) (body : Pattern)
  | seq (first second : Pattern)
  | alt (first second : Pattern)
  | rep (least : Nat) (most : Option Nat) (greedy : Bool) (body : Pattern)
deriving Repr, Inhabited, BEq

namespace Pattern

def ofList : List Pattern → Pattern
  | [] => .empty
  | [p] => p
  | p :: rest => .seq p (ofList rest)

def ofAlternatives : List Pattern → Pattern
  | [] => .empty
  | [p] => p
  | p :: rest => .alt p (ofAlternatives rest)

/-- The characters of a text, one after the other. -/
def ofText (text : List Nat) : Pattern :=
  ofList (text.map fun n => .set (.single n) .unicode)

/-- Whether the pattern may match without taking a character. -/
def matchesEmpty : Pattern → Bool
  | .empty => true
  | .set .. => false
  | .look _ => true
  | .capture _ body => body.matchesEmpty
  | .seq first second => first.matchesEmpty && second.matchesEmpty
  | .alt first second => first.matchesEmpty || second.matchesEmpty
  | .rep least _ _ body => least == 0 || body.matchesEmpty

/-- Whether the pattern matches the empty text only. -/
def takesNothing : Pattern → Bool
  | .empty => true
  | .set .. => false
  | .look _ => true
  | .capture _ body => body.takesNothing
  | .seq first second => first.takesNothing && second.takesNothing
  | .alt first second => first.takesNothing && second.takesNothing
  | .rep _ most _ body => most.isSome && body.takesNothing

/-- Whether the pattern matches at the start of the text only. -/
def startsText : Pattern → Bool
  | .look .textStart => true
  | .capture _ body => body.startsText
  | .seq first second => first.startsText || (first.takesNothing && second.startsText)
  | .alt first second => first.startsText && second.startsText
  | .rep least _ _ body => least != 0 && body.startsText
  | _ => false

/-- Whether the pattern matches at the end of the text only. -/
def endsText : Pattern → Bool
  | .look .textEnd => true
  | .capture _ body => body.endsText
  | .seq first second => second.endsText || (second.takesNothing && first.endsText)
  | .alt first second => first.endsText && second.endsText
  | .rep least _ _ body => least != 0 && body.endsText
  | _ => false

/-- Whether a condition on a place stands somewhere in the pattern. -/
def hasLook : Pattern → Bool
  | .empty => false
  | .set .. => false
  | .look _ => true
  | .capture _ body => body.hasLook
  | .seq first second => first.hasLook || second.hasLook
  | .alt first second => first.hasLook || second.hasLook
  | .rep _ _ _ body => body.hasLook

/-- The greatest number of a capturing group. -/
def groups : Pattern → Nat
  | .empty => 0
  | .set .. => 0
  | .look _ => 0
  | .capture index body => max index body.groups
  | .seq first second => max first.groups second.groups
  | .alt first second => max first.groups second.groups
  | .rep _ _ _ body => body.groups

end Pattern
end PathQuery.Regex
