import PathQuery.Json.Printer
import PathQuery.Placeholder.Marker
import PathQuery.Query.Parser
import PathQuery.Query.Printer

namespace PathQuery

/-- The values for placeholders, by name. -/
abbrev Context := Json.Fields

namespace Marker

/-- The usual marker, as a regular expression. -/
def bracesPattern : String := "\\\x7b\\\x7b([\\s\\S]+?)\\\x7d\\\x7d"

/-- A marker from a regular expression. Group 1 captures the name. -/
def ofPattern (pattern : String) : Except Error Marker :=
  if pattern = bracesPattern then .ok .braces
  else match Regex.compile {} pattern.toList with
    | .error fault => .error (.invalidMarker (.unreadable fault))
    | .ok regex =>
      if regex.groups = 0 then .error (.invalidMarker .noGroup) else .ok (.pattern regex)

/-- Puts the values of a context in the place of the placeholders; the first one without a value is
an error. -/
def fill (marker : Marker) (context : Context) (text : String) : Except Error String := do
  let parts ← (marker.pieces text).mapM fun
    | .plain c => .ok [c]
    | .placeholder name =>
      match context.find? (String.ofList name) with
      | some value => .ok value.plainText.toList
      | none => .error (.missingValue (String.ofList name))
  return String.ofList parts.flatten

end Marker

/-- A part of a query that may hold placeholders. -/
class Clause (α : Type) where
  /-- The texts in which placeholders are looked for, in order. -/
  leaves : α → List String
  /-- The clause with its texts filled in. -/
  substitute : (fill : String → Except Error String) → α → Except Error α

/-- A path filled in; it must be a valid path. -/
def fillPath (fill : String → Except Error String) (position : Position) (path : String) :
    Except Error String := do
  let filled ← fill path
  if isValidPath filled.toList then return filled else .error (.invalidSubstitution position filled)

/-- A value filled in. A template is read again as a value, and must not be a template once more. -/
def Literal.fill (fill : String → Except Error String) : Literal → Except Error Literal
  | .string text => do return .string (← fill text)
  | .regex pattern flags => do return .regex (← fill pattern) flags
  | .template text => do
    let filled ← fill text
    match Literal.parse filled with
    | .ok (.template _) => .error (.invalidSubstitution .filterValue filled)
    | .ok value => return value
    | .error _ => .error (.invalidSubstitution .filterValue filled)
  | value => .ok value

/-- A condition filled in: its key must be a path, and its value must go with its comparator. -/
def Condition.fill (fill : String → Except Error String) (condition : Condition) :
    Except Error Condition := do
  let key ← fillPath fill .filterKey condition.key
  let value ← condition.value.fill fill
  if condition.comparator.admits value then return ⟨key, condition.comparator, value⟩
  else
    .error (.invalidSubstitution .filterValue (condition.comparator.symbol ++ " " ++ value.render))

/-- The texts of a condition: its key, and what of its value is text. -/
def Condition.leaves (condition : Condition) : List String :=
  condition.key :: match condition.value with
    | .string text => [text]
    | .regex pattern _ => [pattern]
    | .template text => [text]
    | _ => []

def FilterToken.leaves : FilterToken → List String
  | .condition c => c.leaves
  | .connective _ => []

def FilterToken.fill (fill : String → Except Error String) : FilterToken → Except Error FilterToken
  | .condition c => do return .condition (← c.fill fill)
  | .connective op => .ok (.connective op)

def SortTerm.fill (fill : String → Except Error String) (term : SortTerm) :
    Except Error SortTerm := do
  return { term with key := ← fillPath fill .sortField term.key }

/-- The fields of a query. -/
instance : Clause (List String) where
  leaves := id
  substitute fill fields := fields.mapM (fillPath fill .fieldPath)

/-- The sort terms of a query. -/
instance : Clause (List SortTerm) where
  leaves terms := terms.map SortTerm.key
  substitute fill terms := terms.mapM (SortTerm.fill fill)

/-- The filters of a query. -/
instance : Clause (List FilterToken) where
  leaves tokens := tokens.flatMap FilterToken.leaves
  substitute fill tokens := tokens.mapM (FilterToken.fill fill)

/-- The limit of a query. -/
instance : Clause String where
  leaves limit := [limit]
  substitute fill limit := fill limit

namespace Marker

variable {α β : Type} [Clause α]

def hasPlaceholders (marker : Marker) (clause : α) : Bool :=
  (Clause.leaves clause).any fun leaf => !(marker.names leaf).isEmpty

/-- The names in all the leaves, each once, where it occurs first. -/
def namesIn (marker : Marker) (leaves : List String) : List String :=
  (leaves.flatMap marker.names).foldl
    (fun names name => if names.contains name then names else names ++ [name]) []

/-- The names of the placeholders of a clause. -/
def placeholders (marker : Marker) (clause : α) : List String :=
  marker.namesIn (Clause.leaves clause)

/-- Binds a clause to what is to be made of it. Without placeholders that happens at once, for all
contexts; otherwise it waits for a context and happens to the clause filled in. -/
def bind (marker : Marker) (clause : α) (lower : α → Except Error β) :
    Except Error (Context → Except Error β) :=
  if marker.hasPlaceholders clause then
    .ok fun context => do lower (← Clause.substitute (marker.fill context) clause)
  else do
    let value ← lower clause
    return fun _ => .ok value

end Marker

/-- The texts of a query in which placeholders are looked for. -/
def Query.leaves (query : Query) : List String :=
  Clause.leaves query.fields ++ Clause.leaves query.filters ++ Clause.leaves query.sort
    ++ query.limit.toList

/-- The names of the placeholders of a query, in the order of fields, filters, sort and limit. -/
def Query.placeholders (marker : Marker) (query : Query) : List String :=
  marker.namesIn query.leaves

/-- Whether a query holds no placeholders between double braces. -/
def Query.isConstant (query : Query) : Bool :=
  (query.placeholders .braces).isEmpty

end PathQuery
