import Mathlib.Data.List.Induction
import PathQuery.Proofs.Sessions

namespace PathQuery

/-- Whether an operation is one of the session at an index. -/
def Operation.isBy {m : Type → Type} (index : Nat) : Operation m → Bool
  | .act other _ => other = index
  | _ => false

/-- What an adapter answers to a query that `maker` has compiled. -/
def Adapter.answerOn (adapter maker : Adapter Id) (query : Query) (marker : Marker) (data : Json)
    (context : Context) :
    Except Error Json := do
  let plan ← Id.run (maker.compile query marker)
  adapter.run (← plan context) data

namespace Session

variable {registry changed : Registry Id} {session session' : Session} {name : String} {plan : Plan}

theorem lookup_filter_ne {plans : List (String × Plan)} {dropped : String}
    (h : (plans.filter (·.1 ≠ dropped)).lookup name = some plan) :
    name ≠ dropped ∧ plans.lookup name = some plan := by
  induction plans with
  | nil => simp at h
  | cons entry plans ih =>
    by_cases hd : entry.1 = dropped
    · rw [List.filter_cons_of_neg (by simpa using hd)] at h
      obtain ⟨hne, hp⟩ := ih h
      refine ⟨hne, ?_⟩
      rw [List.lookup_cons, beq_false_of_ne (hd ▸ hne)]
      exact hp
    · rw [List.filter_cons_of_pos (by simpa using hd), List.lookup_cons] at h
      rw [List.lookup_cons]
      by_cases hn : name = entry.1
      · subst hn
        exact ⟨hd, by simpa using h⟩
      · simp only [beq_false_of_ne hn] at h ⊢
        exact ih h

theorem plan_of_drop {dropped : String} (h : (session.dropPlan dropped).plan? name = some plan) :
    name ≠ dropped ∧ session.plan? name = some plan :=
  lookup_filter_ne h

theorem plan_of_keep {kept : String} {new : Plan}
    (h : (session.keepPlan kept new).plan? name = some plan) :
    name = kept ∧ plan = new ∨ session.plan? name = some plan := by
  unfold Session.plan? Session.keepPlan at h
  rw [List.lookup_cons] at h
  by_cases hn : name = kept
  · exact .inl ⟨hn, by simpa [hn] using h.symm⟩
  · simp only [beq_false_of_ne hn] at h
    exact .inr (lookup_filter_ne h).2

/-- What an action of a session does to its plans. A plan it has afterwards was there before, and
then the action has not displaced the adapter of its name; or it was made by the adapter that has
the name, and the registry is the same. -/
structure Advances (registry changed : Registry Id) (session session' : Session) : Prop where
  query : session'.query = session.query
  marker : session'.marker = session.marker
  plans : ∀ name plan, session'.plan? name = some plan →
    (session.plan? name = some plan ∧
      ∀ adapter, registry.get? name = some adapter → changed.get? name = some adapter) ∨
    (changed = registry ∧ ∃ maker, registry.get? name = some maker ∧
      Id.run (maker.compile session.query session.marker) = .ok plan)

theorem Advances.same (registry : Registry Id) (session : Session) (pinned : Option String) :
    Advances registry registry session { session with pinned := pinned } :=
  ⟨rfl, rfl, fun _ _ hp => .inl ⟨hp, fun _ => id⟩⟩

/-- A change that succeeds lets a session go on whose plans are not for what it displaces. -/
theorem Advances.becomes {c : Registry.Change Id} (hc : registry.Becomes c changed)
    (hq : session'.query = session.query) (hm : session'.marker = session.marker)
    (hp : ∀ name plan, session'.plan? name = some plan →
      session.plan? name = some plan ∧ ¬ c.displaces name) :
    Advances registry changed session session' where
  query := hq
  marker := hm
  plans name plan h := .inl ⟨(hp name plan h).1, fun _ hg => hc.get (hp name plan h).2 hg⟩

theorem Advances.change (registry : Registry Id) (session : Session) (c : Registry.Change Id) :
    Advances registry (session.change registry c).2.2 session (session.change registry c).1 := by
  unfold Session.change
  rcases Registry.change_cases registry c with ⟨e, he⟩ | ⟨result, changed, hok, hc⟩
  · rw [he]
    cases c with
    | installDefault adapter =>
      exact ⟨rfl, rfl, fun _ _ hp => .inl ⟨(plan_of_drop hp).2, fun _ => id⟩⟩
    | register | remove | setDefault => exact .same registry session session.pinned
  · rw [hok]
    cases c with
    | register adapter => exact .becomes hc rfl rfl fun _ _ hp => ⟨hp, id⟩
    | setDefault name => exact .becomes hc rfl rfl fun _ _ hp => ⟨hp, id⟩
    | installDefault adapter =>
      refine .becomes hc rfl rfl fun name plan hp => ?_
      obtain ⟨hne, hp⟩ := plan_of_drop hp
      exact ⟨hp, fun heq => hne heq.symm⟩
    | remove removed =>
      have hdropped : ∀ name plan, (session.dropPlan removed).plan? name = some plan →
          session.plan? name = some plan ∧
            ¬ (Registry.Change.remove removed : Registry.Change Id).displaces name := by
        intro name plan hp
        obtain ⟨hne, hp⟩ := plan_of_drop hp
        exact ⟨hp, fun heq => hne heq.symm⟩
      dsimp only
      split
      · exact .becomes hc rfl rfl hdropped
      · exact .becomes hc rfl rfl hdropped

theorem Advances.plan_for {adapter : Adapter Id} (hg : registry.get? adapter.name = some adapter)
    (session : Session)
    (again : Bool) :
    Advances registry registry session (Id.run (session.planFor adapter again)).1 := by
  unfold Session.planFor
  cases if again then none else session.plan? adapter.name with
  | some plan => exact .same registry session session.pinned
  | none =>
    cases hc : Id.run (adapter.compile session.query session.marker) with
    | error e => simpa [hc] using Advances.same registry session session.pinned
    | ok made =>
      simp only [Id.run_bind, hc, Id.run_pure]
      refine ⟨rfl, rfl, fun name plan hp => ?_⟩
      rcases plan_of_keep hp with ⟨rfl, rfl⟩ | hp
      · exact .inr ⟨rfl, adapter, hg, hc⟩
      · exact .inl ⟨hp, fun _ => id⟩

theorem Advances.compile (registry : Registry Id) (session : Session) (name : Option String)
    (again : Bool) :
    Advances registry registry session (Id.run (session.compile registry name again)).1 := by
  unfold Session.compile
  cases hr : session.adapter registry name with
  | error e => exact .same registry session session.pinned
  | ok adapter => exact .plan_for (Registry.get_of_resolve hr) session again

theorem Advances.execute (registry : Registry Id) (session : Session) (name : Option String)
    (data : Json)
    (context : Context) :
    Advances registry registry session (Id.run (session.execute registry name data context)).1 := by
  unfold Session.execute
  cases hr : session.adapter registry name with
  | error e => exact .same registry session session.pinned
  | ok adapter =>
    dsimp only
    split
    · exact .plan_for (Registry.get_of_resolve hr) session false
    · exact .same registry session session.pinned

theorem Advances.act (registry : Registry Id) (session : Session) (action : SessionAction Id) :
    Advances registry (Id.run (Workspace.act registry session action)).1 session
      (Id.run (Workspace.act registry session action)).2.1 := by
  cases action with
  | change c => exact .change registry session c
  | pin name =>
    by_cases hc : registry.contains name = true
    · simpa [Workspace.act, Session.pin, hc] using Advances.same registry session (some name)
    · simpa [Workspace.act, Session.pin, hc] using Advances.same registry session session.pinned
  | unpin => exact .same registry session none
  | compile name again => exact .compile registry session name again
  | translate name context => exact .compile registry session name false
  | execute name data context => exact .execute registry session name data context

/-- Without a plan for its name, the adapter to use compiles the query itself. -/
theorem execute_fresh {name : Option String} {adapter : Adapter Id}
    (ha : session.adapter registry name = .ok adapter)
    (hr : adapter.canRun = true) (hp : session.plan? adapter.name = none) (data : Json)
    (context : Context) :
    (Id.run (session.execute registry name data context)).2 =
      adapter.answerOn adapter session.query session.marker data context := by
  unfold Session.execute Session.planFor Adapter.answerOn
  simp only [ha, hr, hp, if_true, Bool.false_eq_true, if_false]
  cases hc : Id.run (adapter.compile session.query session.marker) with
  | error e => simp [hc]
  | ok plan => simp [hc]

/-- With a plan for its name, the adapter to use runs that one, whoever made it. -/
theorem execute_kept {name : Option String} {adapter maker : Adapter Id}
    (ha : session.adapter registry name = .ok adapter) (hr : adapter.canRun = true)
    (hp : session.plan? adapter.name = some plan)
    (hm : Id.run (maker.compile session.query session.marker) = .ok plan) (data : Json)
    (context : Context) :
    (Id.run (session.execute registry name data context)).2 =
      adapter.answerOn maker session.query session.marker data context := by
  unfold Session.execute Session.planFor Adapter.answerOn
  simp only [ha, hr, hp, hm, if_true, Bool.false_eq_true, if_false]
  rfl

end Session

namespace Workspace

variable {start workspace : Workspace Id} {operations : List (Operation Id)}
  {operation : Operation Id} {index : Nat}
  {name : String} {maker : Adapter Id}

/-- A workspace after some operations. -/
def after (workspace : Workspace Id) : List (Operation Id) → Workspace Id
  | [] => workspace
  | operation :: later => (Id.run (workspace.step operation)).1.after later

theorem after_append (workspace : Workspace Id) (operations later : List (Operation Id)) :
    workspace.after (operations ++ later) = (workspace.after operations).after later := by
  induction operations generalizing workspace with
  | nil => rfl
  | cons operation operations ih => exact ih _

theorem step_act {session : Session} (h : workspace.sessions[index]? = some session)
    (action : SessionAction Id) :
    (Id.run (workspace.step (.act index action))).1 =
      ⟨(Id.run (act workspace.registry session action)).1,
        workspace.sessions.set index (Id.run (act workspace.registry session action)).2.1⟩ := by
  simp only [step, h]
  rfl

theorem step_act_none (h : workspace.sessions[index]? = none) (action : SessionAction Id) :
    (Id.run (workspace.step (.act index action))).1 = workspace := by
  simp only [step, h]
  rfl

/-- A session after an operation has just been started, or the operation was not its own and has
left it as it was, or it has done something itself. -/
theorem step_session {session' : Session}
    (h : (Id.run (workspace.step operation)).1.sessions[index]? = some session') :
    operation = .start session' ∨
    (operation.isBy index = false ∧ workspace.sessions[index]? = some session') ∨
    ∃ action session, operation = .act index action ∧ workspace.sessions[index]? = some session ∧
      session.Advances workspace.registry (Id.run (workspace.step operation)).1.registry
        session' := by
  cases operation with
  | start session =>
    change (workspace.sessions ++ [session])[index]? = some session' at h
    rw [List.getElem?_append] at h
    split at h
    · exact .inr (.inl ⟨rfl, h⟩)
    · have hm := List.mem_singleton.mp (List.mem_of_getElem? h)
      exact .inl (hm ▸ rfl)
  | change c => exact .inr (.inl ⟨rfl, h⟩)
  | act other action =>
    by_cases hi : other = index
    · subst hi
      cases hs : workspace.sessions[other]? with
      | none =>
        rw [step_act_none hs, hs] at h
        cases h
      | some session =>
        refine .inr (.inr ⟨action, session, rfl, rfl, ?_⟩)
        rw [step_act hs] at h ⊢
        rw [List.getElem?_set_self (List.getElem?_eq_some_iff.mp hs).1] at h
        exact Option.some.inj h ▸ .act workspace.registry session action
    · refine .inr (.inl ⟨by simpa [Operation.isBy] using hi, ?_⟩)
      cases hs : workspace.sessions[other]? with
      | none =>
        rwa [step_act_none hs] at h
      | some session =>
        rw [step_act hs] at h
        rwa [List.getElem?_set_ne hi] at h

/-- Somebody else than the session at an index displaces an adapter in the course of some
operations: it is registered under a name before one of theirs and not after it. -/
def Displaced (workspace : Workspace Id) (operations : List (Operation Id)) (index : Nat)
    (name : String) (adapter : Adapter Id) : Prop :=
  ∃ between other later, operations = between ++ other :: later ∧ other.isBy index = false ∧
    (workspace.after between).registry.get? name = some adapter ∧
    (workspace.after (between ++ [other])).registry.get? name ≠ some adapter

/-- Where a plan that a session has for a name comes from: the adapter that had the name when the
session acted at some point of the run. That adapter has the name still, unless somebody else has
displaced it since. -/
def MadeIn (start : Workspace Id) (operations : List (Operation Id)) (index : Nat) (name : String)
    (maker : Adapter Id) : Prop :=
  ∃ earlier action later, operations = earlier ++ .act index action :: later ∧
    (start.after earlier).registry.get? name = some maker ∧
    ((start.after operations).registry.get? name = some maker ∨
      (start.after earlier).Displaced (.act index action :: later) index name maker)

/-- The origin of a plan stays what it is, unless the session itself displaces the adapter. -/
theorem MadeIn.snoc (h : start.MadeIn operations index name maker)
    (hstep : operation.isBy index = false ∨ ∀ adapter,
      (start.after operations).registry.get? name = some adapter →
      (start.after (operations ++ [operation])).registry.get? name = some adapter) :
    start.MadeIn (operations ++ [operation]) index name maker := by
  obtain ⟨earlier, action, later, rfl, hmade, hnow⟩ := h
  refine ⟨earlier, action, later ++ [operation], by simp, hmade, ?_⟩
  rcases hnow with hnow | ⟨between, other, rest, heq, hother, hbefore, hafter⟩
  · by_cases hkept :
      (start.after (earlier ++ .act index action :: later ++ [operation])).registry.get? name =
      some maker
    · exact .inl hkept
    · have hother : operation.isBy index = false :=
        hstep.resolve_right fun hall => hkept (hall maker hnow)
      refine .inr ⟨.act index action :: later, operation, [], rfl, hother, ?_, ?_⟩
      · rwa [← after_append]
      · rwa [← after_append, ← List.append_assoc]
  · refine .inr ⟨between, other, rest ++ [operation], ?_, hother, hbefore, hafter⟩
    rw [← List.cons_append, heq]
    simp

/-- Every plan of every session was made in the course of the run. -/
theorem plan_made (registry : Registry Id) {operations : List (Operation Id)}
    (hnew : ∀ session, .start session ∈ operations → session.plans = []) {session : Session}
    (hs : (after ⟨registry, []⟩ operations).sessions[index]? = some session) {plan : Plan}
    (hp : session.plan? name = some plan) :
    ∃ maker, Id.run (maker.compile session.query session.marker) = .ok plan ∧
      MadeIn ⟨registry, []⟩ operations index name maker := by
  induction operations using List.reverseRecOn generalizing session with
  | nil => cases hs
  | append_singleton operations operation ih =>
    have hearlier : ∀ session, .start session ∈ operations → session.plans = [] :=
      fun session hm => hnew session (List.mem_append_left _ hm)
    rw [after_append] at hs
    rcases step_session hs with rfl | ⟨hother, hbefore⟩ | ⟨action, before, rfl, hbefore, hadvance⟩
    · rw [Session.plan?, hnew session (by simp)] at hp
      cases hp
    · obtain ⟨maker, hmaker, hmade⟩ := ih hearlier hbefore hp
      exact ⟨maker, hmaker, hmade.snoc (.inl hother)⟩
    · rw [hadvance.query, hadvance.marker]
      rcases hadvance.plans name plan hp with ⟨hkept, hget⟩ | ⟨hsame, maker, hget, hmaker⟩
      · obtain ⟨maker, hmaker, hmade⟩ := ih hearlier hbefore hkept
        refine ⟨maker, hmaker, hmade.snoc (.inr fun adapter ha => ?_)⟩
        rw [after_append]
        exact hget adapter ha
      · refine ⟨maker, hmaker, operations, action, [], rfl, hget, .inl ?_⟩
        rw [after_append]
        exact hsame ▸ hget

/-- A session's query is run by the adapter that has the name now, on a plan made by the adapter
that had the name when the session compiled. That is the same one, unless the session has a plan for
the name and somebody else has displaced the adapter that made it. -/
theorem execute_runs_plan_of_maker (registry : Registry Id) (operations : List (Operation Id))
    (hnew : ∀ session, .start session ∈ operations → session.plans = []) (index : Nat)
    (session : Session)
    (hs : (after ⟨registry, []⟩ operations).sessions[index]? = some session) (name : Option String)
    (adapter : Adapter Id)
    (ha : session.adapter (after ⟨registry, []⟩ operations).registry name = .ok adapter)
    (hr : adapter.canRun = true) :
    ∃ maker : Adapter Id,
      (∀ data context,
        (Id.run (session.execute (after ⟨registry, []⟩ operations).registry name data context)).2 =
        adapter.answerOn maker session.query session.marker data context) ∧
      (maker = adapter ∨ ∃ plan earlier action later, session.plan? adapter.name = some plan ∧
        operations = earlier ++ .act index action :: later ∧
        (after ⟨registry, []⟩ earlier).registry.get? adapter.name = some maker ∧
        (after ⟨registry, []⟩ earlier).Displaced (.act index action :: later) index adapter.name
          maker) := by
  have hget := Registry.get_of_resolve ha
  cases hp : session.plan? adapter.name with
  | none => exact ⟨adapter, Session.execute_fresh ha hr hp, .inl rfl⟩
  | some plan =>
    obtain ⟨maker, hmaker, earlier, action, later, hops, hmade, hnow⟩ :=
      plan_made registry hnew hs hp
    refine ⟨maker, Session.execute_kept ha hr hp hmaker, ?_⟩
    rcases hnow with hnow | hnow
    · exact .inl (Option.some.inj (hnow.symm.trans hget))
    · exact .inr ⟨plan, earlier, action, later, rfl, hops, hmade, hnow⟩

/-- An adapter that runs records and compiles as it is told. -/
def recordsRunner (compile : Query → Marker → Except Error Plan) : Adapter Id :=
  { name := "m", compile := compile, canRun := true, run := Records.run }

/-- The first of two sessions compiles for an adapter, and the second one then installs another in
its place. -/
def reinstallation : List (Operation Id) :=
  [.start { query := { path := "/r" } }, .start { query := { path := "/r" } },
    .act 1 (.change (.installDefault (recordsRunner Sql.compile))), .act 0 (.compile none false),
    .act 1 (.change (.installDefault (recordsRunner Records.compile)))]

/-- The first session's plan is then one of an adapter that the second has displaced. -/
theorem execute_after_reinstallation : ∃ session maker,
    (after ⟨.builtin, []⟩ reinstallation).sessions[0]? = some session ∧
    session.adapter (after ⟨.builtin, []⟩ reinstallation).registry none =
      .ok (recordsRunner Records.compile) ∧
    (∀ data context,
      (Id.run
        (session.execute (after ⟨.builtin, []⟩ reinstallation).registry none data context)).2 =
      (recordsRunner Records.compile).answerOn maker session.query session.marker data context) ∧
    ∃ earlier later, reinstallation = earlier ++ later ∧
      (after ⟨.builtin, []⟩ earlier).Displaced later 0 "m" maker := by
  have hnew : ∀ session, .start session ∈ reinstallation → session.plans = [] := by
    simp [reinstallation]
  obtain ⟨maker, hanswer, heq | ⟨_, earlier, action, later, _, hops, _, hdisplaced⟩⟩ :=
    execute_runs_plan_of_maker .builtin reinstallation hnew 0 _ rfl none
      (recordsRunner Records.compile) rfl rfl
  · -- on its own plan the adapter would not refuse
    have hown := hanswer (.array []) []
    rw [heq] at hown
    cases hown
  · exact ⟨_, maker, rfl, rfl, hanswer, earlier, _, hops, hdisplaced⟩

/-- An adapter installed in the place of another is given the other's plan, and here it refuses
that, while its own plan has an answer. -/
theorem reinstalled_adapter_refuses_old_plan : ∃ session,
    (after ⟨.builtin, []⟩ reinstallation).sessions[0]? = some session ∧
    session.adapter (after ⟨.builtin, []⟩ reinstallation).registry none =
      .ok (recordsRunner Records.compile) ∧
    (Id.run
      (session.execute (after ⟨.builtin, []⟩ reinstallation).registry none (.array [.null]) [])).2 =
      .error (.incompatibleQuery "json") ∧
    (recordsRunner Records.compile).answerOn (recordsRunner Records.compile) session.query
      session.marker
      (.array [.null]) [] = .ok (.array [.null]) :=
  ⟨_, rfl, rfl, rfl, rfl⟩

end Workspace
end PathQuery
