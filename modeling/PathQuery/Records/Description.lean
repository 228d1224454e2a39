import PathQuery.Records.Pipeline
import PathQuery.Text.Outline
import PathQuery.Text.Quoted

namespace PathQuery

def SortOrder.name : SortOrder → String
  | .ascending => "Ascending"
  | .descending => "Descending"

def Outline.ofOption : Option Outline → Outline
  | none => .word "None"
  | some value => .wrap "Some" value

def SortKeys.outline (sort : SortKeys) : Outline :=
  .record "SortKeys" [
    ("keys", .list (sort.keys.map fun key => .word (Text.quoted key))),
    ("orders", .list (sort.orders.map fun order => .word order.name))]

def Pipeline.outline (pipeline : Pipeline) : Outline :=
  let stage := fun (present : Bool) =>
    Outline.ofOption (if present then some (.word "\"<fn>\"") else none)
  .record "MemoryQuery" [
    ("sort", .ofOption (pipeline.sort.map SortKeys.outline)),
    ("predicate", stage pipeline.predicate.isSome),
    ("projector", stage pipeline.projector.isSome),
    ("limit", .ofOption (pipeline.limit.map fun limit => .word (toString limit)))]

end PathQuery
