import PathQuery.Adapter.Basic
import PathQuery.Records.Predicate

namespace PathQuery.Records

def adapterName : String := "json"

/-- The projection to some fields. -/
def projector (fields : List String) : Json → Json :=
  project (fields.map segments)

/-- Compiles a query to stages over records. Sort, filters, fields and limit are bound in this
order, and resolved in the same. -/
def compile (query : Query) (marker : Marker) : Except Error Plan := do
  let sort ← bindOption marker (fun terms => .ok (SortKeys.ofTerms terms)) (nonempty? query.sort)
  let predicate ← bindFilters marker compilePredicate query.filters
  let projection ← bindOption marker (fun fields => .ok (projector fields)) (nonempty? query.fields)
  let limit ← bindOption marker parseLimit query.limit
  return fun context => do
    let sort ← resolve context sort
    let predicate ← resolve context predicate
    let projection ← resolve context projection
    let limit ← resolve context limit
    return .records { sort := sort, predicate := predicate, projector := projection,
                      limit := limit }

/-- Runs stages over records; text is for other backends. -/
def run (query : BackendQuery) (data : Json) : Except Error Json :=
  match query with
  | .records pipeline => pipeline.run data
  | .text _ => .error (.incompatibleQuery adapterName)

def adapter {m : Type → Type} [Monad m] : Adapter m :=
  { name := adapterName
    compile := fun query marker => pure (compile query marker)
    canRun := true
    run := run }

end PathQuery.Records
