import PathQuery.Query.Basic
import PathQuery.Records.Path

namespace PathQuery

/-- Where a kind of value stands among the others. -/
def kindRank : Option Json → Nat
  | some (.bool _) => 0
  | some (.number _) => 1
  | some (.string _) => 2
  | some (.array _) => 3
  | some (.object _) => 4
  | some .null => 5
  | none => 6

/-- How two values compare in a sort. Arrays are all alike, and so are objects. -/
def compareValues : Option Json → Option Json → Ordering
  | some (.number a), some (.number b) => (a.toDouble.compare? b.toDouble).getD .eq
  | some (.string a), some (.string b) => compare a b
  | some (.bool a), some (.bool b) => compare a b
  | a, b => compare (kindRank a) (kindRank b)

def SortOrder.apply : SortOrder → Ordering → Ordering
  | .ascending, ordering => ordering
  | .descending, ordering => ordering.swap

/-- Paths to sort by with their orders, the first one deciding first. -/
abbrev RowKeys := List (List String × SortOrder)

/-- How two records compare by their keys. -/
def compareRows (a b : Json) : RowKeys → Ordering
  | [] => .eq
  | (path, order) :: rest =>
    (order.apply (compareValues (a.get? path) (b.get? path))).then (compareRows a b rest)

/-- The records in the order of their keys; those that compare equal keep the order they came in. -/
def sortRows (keys : RowKeys) (rows : List Json) : List Json :=
  rows.mergeSort fun a b => (compareRows a b keys).isLE

end PathQuery
