import PathQuery.Proofs.Registries
import PathQuery.Workspace

namespace PathQuery

/-- A session that keeps no plans, together with its registry. -/
structure Forgetful where
  registry : Registry Id
  query : Query
  marker : Marker
  pinned : Option String := none

namespace Forgetful

def adapter (session : Forgetful) (name : Option String) : Except Error (Adapter Id) :=
  session.registry.resolve (session.pinned.or name)

def plan (session : Forgetful) (adapter : Adapter Id) : Except Error Plan :=
  Id.run (adapter.compile session.query session.marker)

def translate (session : Forgetful) (name : Option String) (context : Context) :
    Except Error BackendQuery := do
  let adapter ← session.adapter name
  let plan ← session.plan adapter
  plan context

def execute (session : Forgetful) (name : Option String) (data : Json) (context : Context) :
    Except Error Json := do
  let adapter ← session.adapter name
  if adapter.canRun then
    let plan ← session.plan adapter
    adapter.run (← plan context) data
  else throw (.runNotSupported adapter.name)

/-- One action. Apart from what changes the registry or the pin, an action leaves the session as it
is. -/
def act (session : Forgetful) : SessionAction Id → Forgetful × Except Error (Outcome Id)
  | .change c =>
    let (result, registry) := session.registry.change c
    let pinned := match c, result with
      | .remove name, .ok _ => session.pinned.filter (· ≠ name)
      | _, _ => session.pinned
    ({ session with registry := registry, pinned := pinned }, Workspace.changeOutcome result)
  | .pin name =>
    if session.registry.contains name then ({ session with pinned := some name }, .ok .done)
    else (session, .error (.unknownAdapter name))
  | .unpin => ({ session with pinned := none }, .ok .done)
  | .compile name _ => (session, (session.adapter name >>= session.plan).map fun _ => .done)
  | .translate name context => (session, (session.translate name context).map .translated)
  | .execute name data context => (session, (session.execute name data context).map .answered)

/-- Actions one after the other: the session after them, and what came of each. -/
def actAll (session : Forgetful) : List (SessionAction Id) →
    Forgetful × List (Except Error (Outcome Id))
  | [] => (session, [])
  | action :: later =>
    let (session, outcome) := session.act action
    let (session, outcomes) := session.actAll later
    (session, outcome :: outcomes)

theorem execute_eq {session : Forgetful} {name : Option String} {adapter : Adapter Id}
    (h : session.adapter name = .ok adapter) (data : Json) (context : Context) :
    session.execute name data context =
      if adapter.canRun then do adapter.run (← (← session.plan adapter) context) data
      else .error (.runNotSupported adapter.name) := by
  rw [execute, h]
  rfl

theorem act_query (session : Forgetful) (action : SessionAction Id) :
    (session.act action).1.query = session.query ∧
      (session.act action).1.marker = session.marker := by
  cases action with
  | pin name =>
    unfold act
    by_cases hc : session.registry.contains name = true <;> simp [hc]
  | change | unpin | compile | translate | execute => exact ⟨rfl, rfl⟩

theorem act_all_query (session : Forgetful) (actions : List (SessionAction Id)) :
    (session.actAll actions).1.query = session.query ∧
      (session.actAll actions).1.marker = session.marker := by
  induction actions generalizing session with
  | nil => exact ⟨rfl, rfl⟩
  | cons action actions ih =>
    have hnext := session.act_query action
    have hlater := ih (session.act action).1
    exact ⟨hlater.1.trans hnext.1, hlater.2.trans hnext.2⟩

end Forgetful

/-- Actions of a session one after the other: the registry and the session after them, and what came
of each. -/
def Workspace.actAll (registry : Registry Id) (session : Session) :
    List (SessionAction Id) → Registry Id × Session × List (Except Error (Outcome Id))
  | [] => (registry, session, [])
  | action :: later =>
    let (registry, session, outcome) := Id.run (act registry session action)
    let (registry, session, outcomes) := actAll registry session later
    (registry, session, outcome :: outcomes)

namespace Session

variable {registry changed : Registry Id} {session : Session}

/-- The session without its plans. -/
def forget (session : Session) (registry : Registry Id) : Forgetful :=
  ⟨registry, session.query, session.marker, session.pinned⟩

theorem forget_adapter (session : Session) (registry : Registry Id) (name : Option String) :
    (session.forget registry).adapter name = session.adapter registry name := rfl

/-- Each plan is what the adapter now registered under its name makes of the query, and the pin is
registered. -/
structure Current (registry : Registry Id) (session : Session) : Prop where
  plans : ∀ entry ∈ session.plans, ∃ adapter, registry.get? entry.1 = some adapter ∧
    Id.run (adapter.compile session.query session.marker) = .ok entry.2
  pinned : ∀ name, session.pinned = some name → name ∈ registry.names

theorem current_start (registry : Registry Id) (query : Query) (marker : Marker) :
    Current registry { query := query, marker := marker } :=
  ⟨by simp, by simp⟩

/-- Plans may go at any time. -/
theorem Current.drop_plan (h : session.Current registry) (name : String) :
    (session.dropPlan name).Current registry where
  plans entry he := h.plans entry (List.mem_of_mem_filter he)
  pinned := h.pinned

theorem Current.keep_plan (h : session.Current registry) {adapter : Adapter Id} {plan : Plan}
    (hg : registry.get? adapter.name = some adapter)
    (hp : Id.run (adapter.compile session.query session.marker) = .ok plan) :
    (session.keepPlan adapter.name plan).Current registry where
  plans entry he := by
    rcases List.mem_cons.mp he with rfl | he
    · exact ⟨adapter, hg, hp⟩
    · exact h.plans entry (List.mem_of_mem_filter he)
  pinned := h.pinned

/-- A plan found under an adapter's name is what this very adapter makes of the query: no other one
has the name. -/
theorem Current.plan_eq (h : session.Current registry) {adapter : Adapter Id} {plan : Plan}
    (hg : registry.get? adapter.name = some adapter) (hp : session.plan? adapter.name = some plan) :
    Id.run (adapter.compile session.query session.marker) = .ok plan := by
  obtain ⟨before, after, hplans, _⟩ := List.lookup_eq_some_iff.mp hp
  obtain ⟨other, hother, hplan⟩ := h.plans (adapter.name, plan) (by simp [hplans])
  have heq : adapter = other := Option.some.inj (hg.symm.trans hother)
  rwa [heq]

/-- Work of a session gives a result and changes nothing but plans, which stay up to date. -/
def Gives {α : Type} (registry : Registry Id) (session : Session) (work : Id (Session × α))
    (result : α) : Prop :=
  ∃ plans, Id.run work = ({ session with plans := plans }, result) ∧
    Current registry { session with plans := plans }

/-- A plan kept and a plan made anew are the same. -/
theorem Current.plan_for (h : session.Current registry) {adapter : Adapter Id}
    (hg : registry.get? adapter.name = some adapter) (again : Bool) :
    session.Gives registry (session.planFor adapter again)
    ((session.forget registry).plan adapter) := by
  unfold Session.planFor Forgetful.plan forget
  cases hp : if again then none else session.plan? adapter.name with
  | some plan =>
    have hkept : session.plan? adapter.name = some plan := by
      cases again <;> simp_all
    refine ⟨session.plans, ?_, h⟩
    rw [h.plan_eq hg hkept]
    rfl
  | none =>
    cases hc : Id.run (adapter.compile session.query session.marker) with
    | ok plan =>
      refine ⟨(session.keepPlan adapter.name plan).plans, ?_, h.keep_plan hg hc⟩
      simp [hc, Session.keepPlan]
    | error e => exact ⟨session.plans, by simp [hc], h⟩

theorem Current.unpin (h : session.Current registry) : session.unpin.Current registry :=
  ⟨h.plans, by simp [Session.unpin]⟩

/-- A change keeps a session up to date that has no plan for what it displaces and no pin on what it
removes. -/
theorem Current.becomes (h : session.Current registry) {c : Registry.Change Id}
    (hc : registry.Becomes c changed) (hp : ∀ entry ∈ session.plans, ¬ c.displaces entry.1)
    (hn : ∀ name, session.pinned = some name → c ≠ .remove name) :
    session.Current changed where
  plans entry he := by
    obtain ⟨adapter, hg, hplan⟩ := h.plans entry he
    exact ⟨adapter, hc.get (hp entry he) hg, hplan⟩
  pinned name hname := hc.mem_names (hn name hname) (h.pinned name hname)

theorem ne_of_mem_drop_plan {name : String} {entry : String × Plan}
    (h : entry ∈ (session.dropPlan name).plans) : name ≠ entry.1 := by
  have hne := (List.mem_filter.mp h).2
  exact fun heq => by simp [heq] at hne

theorem filter_ne_eq (pinned : Option String) (name : String) :
    pinned.filter (· ≠ name) = if pinned = some name then none else pinned := by
  cases pinned with
  | none => rfl
  | some other => by_cases h : other = name <;> simp [Option.filter, h]

/-- The session after an adapter was removed. -/
theorem Current.removed (h : session.Current registry) {name : String}
    (hc : registry.Becomes (.remove name) changed) :
    Current changed { session.dropPlan name with pinned := session.pinned.filter (· ≠ name) } := by
  have hfreed :
      Current registry
      { session.dropPlan name with pinned := session.pinned.filter (· ≠ name) } := by
    refine ⟨(h.drop_plan name).plans, ?_⟩
    intro other ho
    exact h.pinned other (Option.filter_eq_some_iff.mp ho).1
  refine hfreed.becomes hc (fun entry he => ne_of_mem_drop_plan he) ?_
  rintro other ho heq
  cases heq
  simp at ho

/-- A change from within a session drops what it makes out of date. -/
theorem Current.change (h : session.Current registry) (c : Registry.Change Id) :
    ∃ session' result changed, session.change registry c = (session', result, changed) ∧
      session'.Current changed ∧
      (session.forget registry).act (.change c) =
        (session'.forget changed, Workspace.changeOutcome result) := by
  unfold Session.change
  rcases Registry.change_cases registry c with ⟨e, he⟩ | ⟨result, changed, hok, hc⟩
  · -- the plan of an adapter that could not be installed goes as well, but no other adapter has
    -- come in its place
    simp only [Forgetful.act, forget, he]
    cases c with
    | installDefault adapter => exact ⟨_, _, _, rfl, h.drop_plan adapter.name, rfl⟩
    | register | remove | setDefault => exact ⟨_, _, _, rfl, h, rfl⟩
  · simp only [Forgetful.act, forget, hok]
    cases c with
    | register adapter => exact ⟨_, _, _, rfl, h.becomes hc (fun _ _ => id) nofun, rfl⟩
    | setDefault name => exact ⟨_, _, _, rfl, h.becomes hc (fun _ _ => id) nofun, rfl⟩
    | installDefault adapter =>
      have hplans : ∀ entry ∈ (session.dropPlan adapter.name).plans,
          ¬ (Registry.Change.installDefault adapter).displaces entry.1 :=
            fun entry he => ne_of_mem_drop_plan he
      exact ⟨_, _, _, rfl, (h.drop_plan adapter.name).becomes hc hplans nofun, rfl⟩
    | remove name =>
      refine ⟨_, _, _, ?_, h.removed hc, rfl⟩
      rw [filter_ne_eq]
      by_cases hn : session.pinned = some name <;> simp [Session.dropPlan, hn]

theorem Current.compile (h : session.Current registry) (name : Option String) (again : Bool) :
    session.Gives registry (session.compile registry name again)
      ((session.forget registry).adapter name >>= (session.forget registry).plan) := by
  unfold Session.compile
  rw [forget_adapter]
  cases hr : session.adapter registry name with
  | error e => exact ⟨session.plans, rfl, h⟩
  | ok adapter => exact h.plan_for (Registry.get_of_resolve hr) again

theorem Current.translate (h : session.Current registry) (name : Option String)
    (context : Context) :
    session.Gives registry (session.translate registry name context)
      ((session.forget registry).translate name context) := by
  obtain ⟨plans, hc, hcurrent⟩ := h.compile name false
  refine ⟨plans, ?_, hcurrent⟩
  simp only [Session.translate, Id.run_bind, hc, Forgetful.translate]
  cases (session.forget registry).adapter name with
  | error e => rfl
  | ok adapter => rfl

theorem Current.execute (h : session.Current registry) (name : Option String) (data : Json)
    (context : Context) :
    session.Gives registry (session.execute registry name data context)
      ((session.forget registry).execute name data context) := by
  unfold Session.execute
  cases hr : session.adapter registry name with
  | error e =>
    refine ⟨session.plans, ?_, h⟩
    rw [Forgetful.execute, forget_adapter, hr]
    rfl
  | ok adapter =>
    rw [Forgetful.execute_eq ((forget_adapter session registry name).trans hr)]
    dsimp only
    by_cases hrun : adapter.canRun = true
    · obtain ⟨plans, hp, hcurrent⟩ := h.plan_for (Registry.get_of_resolve hr) false
      refine ⟨plans, ?_, hcurrent⟩
      rw [if_pos hrun, if_pos hrun, Id.run_bind, hp]
      rfl
    · -- an adapter that only compiles refuses before a plan is made
      refine ⟨session.plans, ?_, h⟩
      rw [if_neg hrun, if_neg hrun]
      rfl

/-- An action gives the same with plans and without, and leaves them up to date. -/
theorem Current.act (h : session.Current registry) (action : SessionAction Id) :
    ∃ changed session' outcome, Id.run (Workspace.act registry session action) =
      (changed, session', outcome) ∧
      session'.Current changed ∧ (session.forget registry).act action =
        (session'.forget changed, outcome) := by
  cases action with
  | change c =>
    obtain ⟨session', result, changed, hs, hcurrent, hf⟩ := h.change c
    exact ⟨changed, session', Workspace.changeOutcome result, by simp [Workspace.act, hs],
      hcurrent, hf⟩
  | pin name =>
    by_cases hc : registry.contains name = true
    · refine ⟨registry, { session with pinned := some name }, .ok .done, ?_, ?_, ?_⟩
      · simp [Workspace.act, Session.pin, hc]
      · exact ⟨h.plans, fun _ hname => Option.some.inj hname ▸ Registry.contains_iff.mp hc⟩
      · simp [Forgetful.act, forget, hc]
    · refine ⟨registry, session,
        .error (.unknownAdapter name), by simp [Workspace.act, Session.pin, hc], h, ?_⟩
      simp [Forgetful.act, forget, hc]
  | unpin => exact ⟨registry, session.unpin, .ok .done, rfl, h.unpin, rfl⟩
  | compile name again =>
    obtain ⟨plans, hc, hcurrent⟩ := h.compile name again
    exact ⟨registry, _, _, by simp [Workspace.act, hc], hcurrent, rfl⟩
  | translate name context =>
    obtain ⟨plans, ht, hcurrent⟩ := h.translate name context
    exact ⟨registry, _, _, by simp [Workspace.act, ht], hcurrent, rfl⟩
  | execute name data context =>
    obtain ⟨plans, he, hcurrent⟩ := h.execute name data context
    exact ⟨registry, _, _, by simp [Workspace.act, he], hcurrent, rfl⟩

theorem Current.act_all (h : session.Current registry) (actions : List (SessionAction Id)) :
    ∃ changed session' outcomes, Workspace.actAll registry session actions =
      (changed, session', outcomes) ∧
      session'.Current changed ∧ (session.forget registry).actAll actions =
        (session'.forget changed, outcomes) := by
  induction actions generalizing registry session with
  | nil => exact ⟨registry, session, [], rfl, h, rfl⟩
  | cons action actions ih =>
    obtain ⟨changed, next, outcome, hact, hcurrent, hforget⟩ := h.act action
    obtain ⟨last, session', outcomes, hall, hlast, hforgetAll⟩ := ih hcurrent
    refine ⟨last, session', outcome :: outcomes, ?_, hlast, ?_⟩
    · simp only [Workspace.actAll, hact, hall]
    · simp only [Forgetful.actAll, hforget, hforgetAll]

/-- Plans do not show. Whatever a session is asked to do, one thing after the other, each plan it
then has is what the adapter now registered under its name makes of the query, and the adapter it is
pinned to is registered. All its answers are those of a session that compiles the query each time,
and so is the plan it gives next. -/
theorem answers_eq_forgetful (registry : Registry Id) (query : Query) (marker : Marker)
    (actions : List (SessionAction Id)) :
    ∃ changed session outcomes forgetful,
      Workspace.actAll registry { query := query, marker := marker } actions =
        (changed, session, outcomes) ∧
      Forgetful.actAll { registry := registry, query := query, marker := marker } actions =
        (forgetful, outcomes) ∧
      forgetful =
        { registry := changed, query := query, marker := marker, pinned := session.pinned } ∧
      (∀ entry ∈ session.plans, ∃ adapter, changed.get? entry.1 = some adapter ∧
        Id.run (adapter.compile query marker) = .ok entry.2) ∧
      (∀ name, session.pinned = some name → changed.contains name = true) ∧
      ∀ name again, (Id.run (session.compile changed name again)).2 =
        forgetful.adapter name >>= forgetful.plan := by
  obtain ⟨changed, session, outcomes, hall, hcurrent, hforget⟩ :=
    (current_start registry query marker).act_all actions
  have hsame : session.query = query ∧ session.marker = marker := by
    have hkept :=
      Forgetful.act_all_query (forget { query := query, marker := marker } registry) actions
    rwa [hforget] at hkept
  obtain ⟨rfl, rfl⟩ := hsame
  refine ⟨changed, session, outcomes, session.forget changed, hall, hforget, rfl,
    hcurrent.plans, ?_, ?_⟩
  · intro name hname
    exact Registry.contains_iff.mpr (hcurrent.pinned name hname)
  · intro name again
    obtain ⟨plans, hc, _⟩ := hcurrent.compile name again
    rw [hc]

end Session
end PathQuery
