import PathQuery.Number.Binary64

namespace PathQuery

inductive Comparator where
  | eq
  | ne
  | gt
  | ge
  | lt
  | le
  | matches
deriving DecidableEq, Repr

def Comparator.symbol : Comparator → String
  | .eq => "="
  | .ne => "!="
  | .gt => ">"
  | .ge => ">="
  | .lt => "<"
  | .le => "<="
  | .matches => "~"

inductive Connective where
  | and
  | or
deriving DecidableEq, Repr

namespace Connective

def symbol : Connective → Char
  | .and => '&'
  | .or => '|'

def apply : Connective → Bool → Bool → Bool
  | .and, left, right => left && right
  | .or, left, right => left || right

end Connective

/-- The right side of a condition. A template is text with placeholders, to be read again once they
are filled. -/
inductive Literal where
  | null
  | bool (value : Bool)
  | number (value : Binary64)
  | string (text : String)
  | regex (pattern flags : String)
  | template (text : String)
deriving DecidableEq, Repr

namespace Literal

def isRegex : Literal → Bool
  | .regex .. => true
  | _ => false

/-- Equality with numbers compared as numbers: the zeros are equal, and what is no number differs
from itself. -/
def same : Literal → Literal → Bool
  | .number a, .number b => a.sameNumber b
  | a, b => a == b

end Literal

structure Condition where
  key : String
  comparator : Comparator
  value : Literal
deriving DecidableEq, Repr

/-- Whether a value may stand on the right of a comparator: patterns go with `~` alone, and `~` goes
with patterns and strings alone. -/
def Comparator.admits : Comparator → Literal → Bool
  | _, .template _ => true
  | .matches, .regex .. => true
  | .matches, .string _ => true
  | .matches, _ => false
  | _, .regex .. => false
  | _, _ => true

inductive FilterToken where
  | condition (condition : Condition)
  | connective (connective : Connective)
deriving DecidableEq, Repr

def FilterToken.same : FilterToken → FilterToken → Bool
  | .condition a, .condition b =>
    a.key == b.key && a.comparator == b.comparator && a.value.same b.value
  | a, b => a == b

inductive SortOrder where
  | ascending
  | descending
deriving DecidableEq, Repr

def SortOrder.sign : SortOrder → Char
  | .ascending => '+'
  | .descending => '-'

structure SortTerm where
  key : String
  order : SortOrder
deriving DecidableEq, Repr

/-- A query. The limit is kept as it is written, since it may hold placeholders. -/
structure Query where
  collection : Option String := none
  path : String := ""
  fields : List String := []
  filters : List FilterToken := []
  sort : List SortTerm := []
  limit : Option String := none
deriving DecidableEq, Repr

/-- Equality of queries with numbers compared as numbers. -/
def Query.same (a b : Query) : Bool :=
  a.collection == b.collection && a.path == b.path && a.fields == b.fields && a.sort == b.sort
    && a.limit == b.limit && a.filters.length == b.filters.length
    && (a.filters.zip b.filters).all fun (x, y) => x.same y

end PathQuery
