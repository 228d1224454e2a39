import PathQuery.Text.Basic
import PathQuery.Text.Quoted

namespace PathQuery

/-- What could have stood where a reader stopped. -/
inductive Expectation where
  | slash
  | equals
  | fieldName
  | sortField
  | filterKey
  | fieldsGoOn
  | placeholderName
  /-- The end of a placeholder; `opening` is the text from its start on. -/
  | placeholderEnd (opening : List Char)
  | option
  | singleSort
  | singleLimit
  | optionsGoOn
  | limit
  | groupGoesOn
  | comparator
  | patternValue
  | matchComparator
  | closingQuote (quote : Char)
  | regexEnd
  | regexFlag
  | value
  | queryEnd
deriving DecidableEq, Repr

/-- A reader's failure: what it expected, and the text that was left. -/
structure Failure where
  expected : Expectation
  rest : List Char
deriving DecidableEq, Repr

/-- A failure located in the text, by the number of bytes before it. -/
structure SyntaxError where
  position : Nat
  expected : String
  found : Option Char
deriving DecidableEq, Repr

/-- The number of bytes of a source before a rest of it. -/
def offsetOf (source rest : List Char) : Nat :=
  Text.byteLength source - Text.byteLength rest

def Expectation.text (source : List Char) : Expectation → String
  | .slash => "'/'"
  | .equals => "'='"
  | .fieldName => "field name"
  | .sortField => "sort field"
  | .filterKey => "filter key"
  | .fieldsGoOn => "',' or '\x7d'"
  | .placeholderName => "placeholder name"
  | .placeholderEnd opening =>
    "'\x7d\x7d' closing the placeholder opened at " ++ toString (offsetOf source opening)
  | .option => "'sort=' or 'limit='"
  | .singleSort => "a single sort option"
  | .singleLimit => "a single limit option"
  | .optionsGoOn => "',' or ']'"
  | .limit => "integer limit or placeholder"
  | .groupGoesOn => "'&', '|' or ')'"
  | .comparator => "comparator (=, !=, <>, >, >=, <, <=, ~)"
  | .patternValue => "regex or quoted pattern after '~'"
  | .matchComparator => "'~' before a regex value"
  | .closingQuote quote => "closing " ++ String.singleton quote
  | .regexEnd => "closing '/' of the regex"
  | .regexFlag => "regex flag (g, i, m, s, u, y)"
  | .value => "filter value"
  | .queryEnd => "end of query"

def Failure.locate (source : List Char) (failure : Failure) : SyntaxError :=
  { position := offsetOf source failure.rest
    expected := failure.expected.text source
    found := failure.rest.head? }

def SyntaxError.message (e : SyntaxError) : String :=
  "syntax error at position " ++ toString e.position ++ ": expected " ++ e.expected ++ ", found "
    ++ match e.found with
      | some c => Text.quotedSingle c
      | none => "end of input"

end PathQuery
