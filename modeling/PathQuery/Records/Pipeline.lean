import PathQuery.Error
import PathQuery.Records.Order

namespace PathQuery

/-- The keys to sort by with their orders. A key without an order is sorted ascending. -/
structure SortKeys where
  keys : List String
  orders : List SortOrder
deriving DecidableEq, Repr

namespace SortKeys

def ofTerms (terms : List SortTerm) : SortKeys :=
  ⟨terms.map SortTerm.key, terms.map SortTerm.order⟩

/-- Each key as a path, with its order. -/
def pair : List String → List SortOrder → RowKeys
  | [], _ => []
  | key :: keys, [] => (segments key, .ascending) :: pair keys []
  | key :: keys, order :: orders => (segments key, order) :: pair keys orders

def rowKeys (sort : SortKeys) : RowKeys :=
  pair sort.keys sort.orders

end SortKeys

/-- The stages of an answer. A stage that is absent leaves the records as they are. -/
structure Pipeline where
  sort : Option SortKeys := none
  predicate : Option (Json → Bool) := none
  projector : Option (Json → Json) := none
  limit : Option Int := none

/-- The first rows, or the last ones for a negative limit. -/
def limitRows {α : Type} (limit : Int) (rows : List α) : List α :=
  if 0 ≤ limit then rows.take limit.natAbs else rows.drop (rows.length - limit.natAbs)

/-- Copies a path of a record into an object. A path the record lacks still makes the objects above
its last segment. -/
def copyPath (record : Json) (target : Json.Fields) (path : List String) : Json.Fields :=
  match record.get? path with
  | some value => target.put value path
  | none => target.openAt path.dropLast

/-- The fields of a record at some paths, in a new object. -/
def project (paths : List (List String)) (record : Json) : Json :=
  .object (paths.foldl (copyPath record) [])

namespace Pipeline

/-- The rows that come out for the rows that go in. -/
def rows (pipeline : Pipeline) (records : List Json) : List Json :=
  let sorted := match pipeline.sort with
    | some sort => sortRows sort.rowKeys records
    | none => records
  let kept := match pipeline.predicate with
    | some predicate => sorted.filter predicate
    | none => sorted
  let limited := match pipeline.limit with
    | some limit => limitRows limit kept
    | none => kept
  match pipeline.projector with
  | some projector => limited.map projector
  | none => limited

/-- The answer from an array of records; anything else is refused. -/
def run (pipeline : Pipeline) : Json → Except Error Json
  | .array records => .ok (.array (pipeline.rows records))
  | other => .error (.notRecords other.kind)

end Pipeline
end PathQuery
