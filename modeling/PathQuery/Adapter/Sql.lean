import PathQuery.Adapter.Basic

namespace PathQuery.Sql

def adapterName : String := "sql"

def unsupported (feature : String) : Error :=
  .unsupported adapterName feature

/-- A text between quotes, with quotes inside it doubled. -/
def quote (mark : Char) (text : List Char) : List Char :=
  [mark] ++ Text.replaceChar mark [mark, mark] text ++ [mark]

def identifier (name : String) : String :=
  String.ofList (quote '"' name.toList)

def stringLiteral (text : String) : String :=
  String.ofList (quote '\'' text.toList)

/-- A column: the segments of a path as identifiers with dots between them. -/
def column (path : String) : String :=
  ".".intercalate ((segments path).map identifier)

/-- The table of a query: the last segment of its path that is not empty, in the schema its
collection names. -/
def table (query : Query) : Except Error String :=
  match ((Text.splitOn '/' query.path.toList).filter (· ≠ [])).getLast? with
  | none => .error (unsupported "a query path without a table name")
  | some name =>
    .ok (match query.collection with
      | some schema => identifier schema ++ "." ++ identifier (String.ofList name)
      | none => identifier (String.ofList name))

def comparatorSymbol : Comparator → String
  | .ne => "<>"
  | comparator => comparator.symbol

/-- A value as SQL writes it. -/
def value : Literal → String
  | .null => "NULL"
  | .bool true => "TRUE"
  | .bool false => "FALSE"
  | .number n => String.ofList (numberText n)
  | .string text => stringLiteral text
  | .template text => stringLiteral text
  | .regex pattern _ => stringLiteral pattern

/-- A condition as SQL. Null is compared by `IS`, patterns by the operators for regular
expressions. -/
def condition (c : Condition) : Except Error String :=
  let left := column c.key
  match c.comparator, c.value with
  | _, .template text => .error (.invalidSubstitution .filterValue text)
  | .eq, .null => .ok (left ++ " IS NULL")
  | .ne, .null => .ok (left ++ " IS NOT NULL")
  | _, .null => .error (unsupported "ordering comparisons against null")
  | .matches, .regex pattern flags =>
    let operator := if flags.toList.contains 'i' then "~*" else "~"
    .ok (left ++ " " ++ operator ++ " " ++ stringLiteral pattern)
  | .matches, .string pattern => .ok (left ++ " ~ " ++ stringLiteral pattern)
  | .matches, _ => .error (unsupported "regex comparisons other than '~' with a pattern")
  | _, .regex .. => .error (unsupported "regex comparisons other than '~' with a pattern")
  | comparator, literal => .ok (left ++ " " ++ comparatorSymbol comparator ++ " " ++ value literal)

def connectiveKeyword : Connective → String
  | .and => "AND"
  | .or => "OR"

def joinConditions (connective : Connective) (left right : String) : String :=
  "(" ++ left ++ " " ++ connectiveKeyword connective ++ " " ++ right ++ ")"

def whereText (tokens : List FilterToken) : Except Error String :=
  FilterStream.fold condition joinConditions tokens

def columnsText (fields : List String) : String :=
  ", ".intercalate (fields.map column)

def directionKeyword : SortOrder → String
  | .ascending => "ASC"
  | .descending => "DESC"

def orderText (terms : List SortTerm) : String :=
  ", ".intercalate (terms.map fun term => column term.key ++ " " ++ directionKeyword term.order)

/-- A limit counted from the start; SQL knows no other. -/
def limit (text : String) : Except Error Int := do
  let n ← parseLimit text
  if n < 0 then .error (unsupported "negative limits") else return n

/-- The clauses of a statement, each as text. -/
structure Statement where
  columns : Option String
  table : String
  filter : Option String
  order : Option String
  limit : Option Int

def Statement.text (statement : Statement) : String :=
  let clause := fun (keyword : String) (part : Option String) =>
    part.toList.map fun text => keyword ++ " " ++ text
  " ".intercalate (
    ["SELECT " ++ statement.columns.getD "*", "FROM " ++ statement.table]
      ++ clause "WHERE" statement.filter
      ++ clause "ORDER BY" statement.order
      ++ clause "LIMIT" (statement.limit.map toString))

/-- Compiles a query to a statement. The table comes first, then fields, filters, sort and limit are
bound in this order, and resolved in the same. -/
def compile (query : Query) (marker : Marker) : Except Error Plan := do
  let table ← table query
  let columns ← bindOption marker (fun fields => .ok (columnsText fields)) (nonempty? query.fields)
  let filter ← bindFilters marker whereText query.filters
  let order ← bindOption marker (fun terms => .ok (orderText terms)) (nonempty? query.sort)
  let limit ← bindOption marker limit query.limit
  return fun context => do
    let columns ← resolve context columns
    let filter ← resolve context filter
    let order ← resolve context order
    let limit ← resolve context limit
    let statement : Statement :=
      { columns := columns, table := table, filter := filter, order := order, limit := limit }
    return .text statement.text

def adapter {m : Type → Type} [Monad m] : Adapter m :=
  { name := adapterName
    compile := fun query marker => pure (compile query marker) }

end PathQuery.Sql
