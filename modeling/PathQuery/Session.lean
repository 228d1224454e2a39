import PathQuery.Adapter.Registry

namespace PathQuery

/-- A query with its marker, the adapter it is pinned to, and its plans by adapter name. -/
structure Session where
  query : Query
  marker : Marker := .braces
  pinned : Option String := none
  plans : List (String × Plan) := []

namespace Session

variable {m : Type → Type}

/-- A session for a query text. -/
def start (marker : Marker) (text : String) : Except Error Session :=
  match Query.parseWith marker text with
  | .ok query => .ok { query := query, marker := marker }
  | .error cause => .error (.badQuery cause)

def placeholders (session : Session) : List String :=
  session.query.placeholders session.marker

/-- The session without its plan for an adapter name. -/
def dropPlan (session : Session) (name : String) : Session :=
  { session with plans := session.plans.filter (·.1 ≠ name) }

/-- The session with a plan for an adapter name. -/
def keepPlan (session : Session) (name : String) (plan : Plan) : Session :=
  { session with plans := (name, plan) :: session.plans.filter (·.1 ≠ name) }

def plan? (session : Session) (name : String) : Option Plan :=
  session.plans.lookup name

/-- The adapter to use: the one the session is pinned to, else the one named, else the default. -/
def adapter (session : Session) (registry : Registry m) (name : Option String) :
    Except Error (Adapter m) :=
  registry.resolve (session.pinned.or name)

/-- The plan for an adapter: the one kept, unless it is to be made `again`. A failure is not
kept. -/
def planFor [Monad m] (session : Session) (adapter : Adapter m) (again : Bool) :
    m (Session × Except Error Plan) := do
  match if again then none else session.plan? adapter.name with
  | some plan => return (session, .ok plan)
  | none =>
    match ← adapter.compile session.query session.marker with
    | .ok plan => return (session.keepPlan adapter.name plan, .ok plan)
    | .error e => return (session, .error e)

/-- Compiles for the adapter to use. -/
def compile [Monad m] (session : Session) (registry : Registry m) (name : Option String)
    (again : Bool) : m (Session × Except Error Plan) :=
  match session.adapter registry name with
  | .error e => return (session, .error e)
  | .ok adapter => session.planFor adapter again

/-- The query as the backend of the adapter to use takes it. -/
def translate [Monad m] (session : Session) (registry : Registry m) (name : Option String)
    (context : Context) : m (Session × Except Error BackendQuery) := do
  let (session, plan) ← session.compile registry name false
  return (session, plan.bind fun plan => plan context)

/-- Translates the query and runs it over data. An adapter that only compiles refuses at once. -/
def execute [Monad m] (session : Session) (registry : Registry m) (name : Option String)
    (data : Json) (context : Context) : m (Session × Except Error Json) := do
  match session.adapter registry name with
  | .error e => return (session, .error e)
  | .ok adapter =>
    if adapter.canRun then
      let (session, plan) ← session.planFor adapter false
      return (session, do adapter.run (← (← plan) context) data)
    else return (session, .error (.runNotSupported adapter.name))

/-- Changes the registry from within a session. What a name stood for may be gone then, so its plan
is dropped when it is removed or installed anew, and a session pinned to a removed name is free
again. -/
def change (session : Session) (registry : Registry m) (c : Registry.Change m) :
    Session × Except Error (Option (Adapter m)) × Registry m :=
  let (result, registry) := registry.change c
  match c, result with
  | .installDefault adapter, _ => (session.dropPlan adapter.name, result, registry)
  | .remove name, .ok _ =>
    let session := session.dropPlan name
    (if session.pinned = some name then { session with pinned := none } else session,
      result, registry)
  | _, _ => (session, result, registry)

/-- Pins the session to a registered adapter. -/
def pin (session : Session) (registry : Registry m) (name : String) : Except Error Session :=
  if registry.contains name then .ok { session with pinned := some name }
  else .error (.unknownAdapter name)

def unpin (session : Session) : Session :=
  { session with pinned := none }

end Session
end PathQuery
