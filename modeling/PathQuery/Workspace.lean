import PathQuery.Session

namespace PathQuery

/-- Sessions that share a registry. -/
structure Workspace (m : Type → Type) where
  registry : Registry m
  sessions : List Session := []

/-- What a session can be asked to do. -/
inductive SessionAction (m : Type → Type) where
  | change (c : Registry.Change m)
  | pin (name : String)
  | unpin
  | compile (name : Option String) (again : Bool)
  | translate (name : Option String) (context : Context)
  | execute (name : Option String) (data : Json) (context : Context)

/-- What can be done in a workspace. -/
inductive Operation (m : Type → Type) where
  | start (session : Session)
  | change (c : Registry.Change m)
  | act (index : Nat) (action : SessionAction m)

/-- What comes of an operation that succeeds. -/
inductive Outcome (m : Type → Type) where
  | done
  | started (index : Nat)
  | removed (adapter : Adapter m)
  | translated (query : BackendQuery)
  | answered (data : Json)
  | noSession

namespace Workspace

variable {m : Type → Type}

/-- The outcome of a change to the registry. -/
def changeOutcome (result : Except Error (Option (Adapter m))) : Except Error (Outcome m) :=
  result.map fun
    | some adapter => .removed adapter
    | none => .done

/-- One session's action: the registry and the session after it, and what came of it. -/
def act [Monad m] (registry : Registry m) (session : Session) :
    SessionAction m → m (Registry m × Session × Except Error (Outcome m))
  | .change c =>
    let (session, result, registry) := session.change registry c
    return (registry, session, changeOutcome result)
  | .pin name =>
    match session.pin registry name with
    | .ok session => return (registry, session, .ok .done)
    | .error e => return (registry, session, .error e)
  | .unpin => return (registry, session.unpin, .ok .done)
  | .compile name again => do
    let (session, result) ← session.compile registry name again
    return (registry, session, result.map fun _ => .done)
  | .translate name context => do
    let (session, result) ← session.translate registry name context
    return (registry, session, result.map .translated)
  | .execute name data context => do
    let (session, result) ← session.execute registry name data context
    return (registry, session, result.map .answered)

/-- One operation: the workspace after it, and what came of it. -/
def step [Monad m] (workspace : Workspace m) :
    Operation m → m (Workspace m × Except Error (Outcome m))
  | .start session =>
    return ({ workspace with sessions := workspace.sessions ++ [session] },
      .ok (.started workspace.sessions.length))
  | .change c =>
    let (result, registry) := workspace.registry.change c
    return ({ workspace with registry := registry }, changeOutcome result)
  | .act index action =>
    match workspace.sessions[index]? with
    | none => return (workspace, .ok .noSession)
    | some session => do
      let (registry, session, outcome) ← act workspace.registry session action
      return ({ registry := registry, sessions := workspace.sessions.set index session }, outcome)

end Workspace
end PathQuery
