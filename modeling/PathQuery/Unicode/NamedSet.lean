import PathQuery.Text.CodeSet

namespace PathQuery.Unicode

/-- A set of code points with its names, folded, and its table of changes. -/
structure NamedSet where
  names : List String
  table : String

def NamedSet.codes (set : NamedSet) : CodeSet :=
  .ofTable set.table

def find? (name : String) (sets : List NamedSet) : Option CodeSet :=
  (sets.find? (·.names.contains name)).map NamedSet.codes

/-- The form in which names are compared. The one name `isc` keeps its `is`: without it, it would
read as the class `c`. -/
def foldName (name : List Char) : String :=
  let fold := fun (text : List Char) =>
    text.filterMap fun c =>
      if c = ' ' || c = '_' || c = '-' then none
      else if c.toNat < 128 then some c.toLower
      else none
  match name with
  | i :: s :: rest =>
    if i.toLower = 'i' && s.toLower = 's' then
      if fold rest = ['c'] then "isc" else String.ofList (fold rest)
    else String.ofList (fold name)
  | _ => String.ofList (fold name)

end PathQuery.Unicode
