import PathQuery.Adapter.Records
import PathQuery.Adapter.Sql

namespace PathQuery

/-- Adapters in the order of registration, and the name of the default one. -/
structure Registry (m : Type → Type) where
  adapters : List (Adapter m) := []
  defaultName : Option String := none

namespace Registry

variable {m : Type → Type}

def empty : Registry m := {}

/-- The adapters every installation has: records by default, and SQL. -/
def builtin [Monad m] : Registry m :=
  ⟨[Records.adapter, Sql.adapter], some Records.adapterName⟩

def get? (registry : Registry m) (name : String) : Option (Adapter m) :=
  registry.adapters.find? (·.name == name)

def contains (registry : Registry m) (name : String) : Bool :=
  (registry.get? name).isSome

def names (registry : Registry m) : List String :=
  registry.adapters.map Adapter.name

def defaultAdapter? (registry : Registry m) : Option (Adapter m) :=
  registry.defaultName.bind registry.get?

/-- The adapter of a name, or the default one if no name is given. -/
def resolve (registry : Registry m) : Option String → Except Error (Adapter m)
  | some name =>
    match registry.get? name with
    | some adapter => .ok adapter
    | none => .error (.unknownAdapter name)
  | none =>
    match registry.defaultAdapter? with
    | some adapter => .ok adapter
    | none => .error .noAdapter

/-- Work on a registry. It may fail on the way, and what it has changed by then stays changed. -/
abbrev Edit (m : Type → Type) (α : Type) := ExceptT Error (StateM (Registry m)) α

/-- What comes of an edit, and the registry after it. -/
def run {α : Type} (registry : Registry m) (edit : Edit m α) : Except Error α × Registry m :=
  StateT.run (ExceptT.run edit) registry

/-- Adds an adapter under a name of its own. -/
def register (adapter : Adapter m) : Edit m Unit := do
  let registry ← get
  if Text.trim adapter.name.toList = [] then throw (.malformedAdapter .unnamed)
  else if registry.contains adapter.name then throw (.malformedAdapter (.nameTaken adapter.name))
  else
    set (⟨registry.adapters ++ [adapter], registry.defaultName.or (some adapter.name)⟩ : Registry m)

/-- Takes an adapter out, unless it is the default. -/
def remove (name : String) : Edit m (Adapter m) := do
  let registry ← get
  if registry.defaultName = some name then throw (.defaultInUse name)
  else match registry.get? name with
    | some adapter =>
      set { registry with adapters := registry.adapters.eraseP (·.name == name) }
      return adapter
    | none => throw (.unknownAdapter name)

def setDefault (name : String) : Edit m Unit := do
  let registry ← get
  if registry.contains name then set { registry with defaultName := some name }
  else throw (.unknownAdapter name)

/-- The registry with an adapter in the place of the first one that has its name. -/
def replace (registry : Registry m) (adapter : Adapter m) : Registry m :=
  { registry with
    adapters := registry.adapters.set (registry.adapters.findIdx (·.name == adapter.name)) adapter }

/-- Makes an adapter the default, in the place of the one that has its name or as a new one. -/
def installDefault (adapter : Adapter m) : Edit m Unit := do
  let registry ← get
  if registry.contains adapter.name then set (registry.replace adapter) else register adapter
  setDefault adapter.name

/-- A change to a registry. -/
inductive Change (m : Type → Type) where
  | register (adapter : Adapter m)
  | remove (name : String)
  | setDefault (name : String)
  | installDefault (adapter : Adapter m)

/-- A change as an edit; a removal gives the adapter it takes out. -/
def Change.edit : Change m → Edit m (Option (Adapter m))
  | .register adapter => do Registry.register adapter; return none
  | .remove name => do return some (← Registry.remove name)
  | .setDefault name => do Registry.setDefault name; return none
  | .installDefault adapter => do Registry.installDefault adapter; return none

/-- What comes of a change, and the registry after it. -/
def change (registry : Registry m) (c : Change m) :
    Except Error (Option (Adapter m)) × Registry m :=
  registry.run c.edit

end Registry
end PathQuery
