import PathQuery.Filter.Stream
import PathQuery.Number.Decimal

namespace PathQuery

/-- A number in a query: whole numbers below 10¹⁵ as such, so that the zeros look the same, and all
others in full. -/
def numberText (n : Binary64) : List Char :=
  match n.toInt? with
  | some i =>
    if i.natAbs < Nat.pow 10 15 then Binary64.signText (i < 0) ++ Decimal.digitText i.natAbs
    else n.fullText
  | none => n.fullText

/-- Text between double quotes, with a backslash before quotes and backslashes. -/
def quotedText (text : List Char) : List Char :=
  ['"'] ++ text.flatMap (fun c => if c = '"' || c = '\\' then ['\\', c] else [c]) ++ ['"']

/-- A value as it is written. -/
def Literal.chars : Literal → List Char
  | .null => "null".toList
  | .bool value => if value then "true".toList else "false".toList
  | .number n => numberText n
  | .string text => quotedText text.toList
  | .regex pattern flags =>
    ['/'] ++ Text.replaceChar '/' ['\\', '/'] pattern.toList ++ ['/'] ++ flags.toList
  | .template text => text.toList

def Literal.render (value : Literal) : String :=
  String.ofList value.chars

def Condition.chars (condition : Condition) : List Char :=
  condition.key.toList ++ condition.comparator.symbol.toList ++ condition.value.chars

/-- The text of a filter, with whether it is made of several. -/
structure FilterText where
  text : List Char
  compound : Bool

/-- The text as part of a larger filter. -/
def FilterText.grouped (filter : FilterText) : List Char :=
  if filter.compound then ['('] ++ filter.text ++ [')'] else filter.text

def FilterText.ofCondition (condition : Condition) : FilterText :=
  ⟨condition.chars, false⟩

def FilterText.join (connective : Connective) (left right : FilterText) : FilterText :=
  ⟨left.grouped ++ [connective.symbol] ++ right.grouped, true⟩

/-- The filters of a query in infix form. A stream that is empty or not sound has none. -/
def filterChars? (tokens : List FilterToken) : Option (List Char) :=
  match FilterStream.fold (fun condition => .ok (.ofCondition condition))
    FilterText.join tokens with
  | .ok filter => some filter.grouped
  | .error _ => none

def filterText? (tokens : List FilterToken) : Option String :=
  (filterChars? tokens).map String.ofList

namespace Query

def fieldChars (query : Query) : List Char :=
  if query.fields = [] then []
  else ['\x7b'] ++ [','].intercalate (query.fields.map String.toList) ++ ['\x7d']

def sortChars (query : Query) : List Char :=
  query.sort.flatMap fun term => term.order.sign :: term.key.toList

/-- The options of a query, each with its name. -/
def options (query : Query) : List (List Char) :=
  (if query.sort = [] then [] else ["sort=".toList ++ query.sortChars])
    ++ match query.limit with
      | some limit => ["limit=".toList ++ limit.toList]
      | none => []

def optionChars (query : Query) : List Char :=
  if query.options = [] then [] else ['['] ++ [','].intercalate query.options ++ [']']

def collectionChars (query : Query) : List Char :=
  match query.collection with
  | some collection => collection.toList ++ [':']
  | none => []

def filterClauseChars (query : Query) : List Char :=
  match filterChars? query.filters with
  | some text => '?' :: text
  | none => []

/-- The query as text. -/
def chars (query : Query) : List Char :=
  query.collectionChars ++ query.path.toList ++ query.fieldChars ++ query.optionChars
    ++ query.filterClauseChars

def render (query : Query) : String :=
  String.ofList query.chars

end Query
end PathQuery
