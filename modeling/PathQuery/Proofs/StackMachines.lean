import PathQuery.Proofs.Reading
import PathQuery.Proofs.Streams
import PathQuery.Records.Predicate

namespace PathQuery

/-- What a token asks of the machine: to put a value on the stack, if there is one, or to join the
two values on top. -/
inductive Move (α : Type) where
  | push (value : Except Error α)
  | join (combine : α → α → α)

namespace Move

/-- A token of a stream that is folded. -/
def ofToken {α : Type} (leaf : Condition → Except Error α) (combine : Connective → α → α → α) :
    FilterToken → Move α
  | .condition condition => .push (leaf condition)
  | .connective connective => .join (combine connective)

/-- A token of a stream that is tested on a record. -/
def ofStep (record : Json) : FilterStep → Move Bool
  | .test test => .push (.ok (test.holds record))
  | .combine connective => .join connective.apply

/-- Conditions put values on the stack, and connectives join them. -/
def Follows {α : Type} : FilterToken → Move α → Prop
  | .condition _, .push _ => True
  | .connective _, .join _ => True
  | _, _ => False

end Move

/-- How the machine stops: with a value, for a condition without one, or with nothing on its stack
where a connective or the end asks for something. -/
inductive Stop (α : Type) where
  | value (top : α)
  | refused (cause : Error)
  | noOperands
  | noValue

/-- What stopping means for a fold. -/
def Stop.result {α : Type} (index : Nat) : Stop α → Except Error α
  | .value top => .ok top
  | .refused cause => .error cause
  | .noOperands => .error (.malformedFilter index .operatorAlone)
  | .noValue => .error (.malformedFilter index .empty)

/-- What stopping means for a test. -/
def Stop.verdict : Stop Bool → Bool
  | .value top => top
  | .refused _ => false
  | .noOperands => false
  | .noValue => false

/-- A machine at work: how many tokens it has taken, the values on its stack, top first, and what is
left to do. -/
structure StackMachine (α : Type) where
  index : Nat
  stack : List α
  moves : List (Move α)

namespace StackMachine

/-- The machine of a stream that is folded. -/
def ofStream {α : Type} (leaf : Condition → Except Error α) (combine : Connective → α → α → α)
    (tokens : List FilterToken) : StackMachine α :=
  ⟨0, [], tokens.map (Move.ofToken leaf combine)⟩

/-- The machine of prepared steps that are tested on a record. -/
def ofSteps (record : Json) (steps : List FilterStep) : StackMachine Bool :=
  ⟨0, [], steps.map (Move.ofStep record)⟩

/-- One step of the machine. A connective that finds a single value leaves it as it is. -/
def step {α : Type} : StackMachine α → StackMachine α ⊕ Stop α
  | ⟨_, top :: _, []⟩ => .inr (.value top)
  | ⟨_, [], []⟩ => .inr .noValue
  | ⟨index, stack, .push (.ok value) :: rest⟩ => .inl ⟨index + 1, value :: stack, rest⟩
  | ⟨_, _, .push (.error cause) :: _⟩ => .inr (.refused cause)
  | ⟨index, right :: left :: stack, .join combine :: rest⟩ =>
    .inl ⟨index + 1, combine left right :: stack, rest⟩
  | ⟨index, [only], .join _ :: rest⟩ => .inl ⟨index + 1, [only], rest⟩
  | ⟨_, [], .join _ :: _⟩ => .inr .noOperands

@[simp]
theorem step_push {α : Type} (index : Nat) (stack : List α) (value : α) (rest : List (Move α)) :
    step ⟨index, stack, .push (.ok value) :: rest⟩ = .inl ⟨index + 1, value :: stack, rest⟩ := by
  simp [step]

@[simp]
theorem step_refused {α : Type} (index : Nat) (stack : List α) (cause : Error)
    (rest : List (Move α)) :
    step ⟨index, stack, .push (.error cause) :: rest⟩ = .inr (.refused cause) := by
  simp [step]

/-- One state of the machine comes after another, any number of steps later. -/
def Reaches {α : Type} : StackMachine α → StackMachine α → Prop :=
  Relation.ReflTransGen fun machine next => machine.step = .inl next

/-- The heights that the stack of the machine has in the course of its run. -/
def heights {α : Type} (machine : StackMachine α) : Set Nat :=
  {height | ∃ state, machine.Reaches state ∧ state.stack.length = height}

/-- The stack never grows beyond a height, and it is never empty where a value is asked for. -/
def RunsWithin {α : Type} (depth : Nat) (machine : StackMachine α) : Prop :=
  ∀ state, machine.Reaches state →
    state.stack.length ≤ depth ∧ state.step ≠ .inr .noOperands ∧ state.step ≠ .inr .noValue

section Runs

variable {α : Type} {machine state other : StackMachine α}

theorem reaches_head {next : StackMachine α} (h : machine.step = .inl next)
    (hr : next.Reaches state) : machine.Reaches state :=
  .head h hr

theorem reaches_cases (h : machine.Reaches state) :
    state = machine ∨ ∃ next, machine.step = .inl next ∧ next.Reaches state := by
  rcases Relation.ReflTransGen.cases_head h with he | hnext
  · exact .inl he.symm
  · exact .inr hnext

/-- A machine that has stopped stays where it is. -/
theorem eq_of_reaches_of_stop {stop : Stop α} (hs : machine.step = .inr stop)
    (h : machine.Reaches state) : state = machine := by
  rcases reaches_cases h with he | ⟨next, hn, _⟩
  · exact he
  · rw [hs] at hn
    cases hn

/-- The machine stops in one state only. -/
theorem stop_unique {stop stop' : Stop α} (h : machine.Reaches state) (hs : state.step = .inr stop)
    (h' : machine.Reaches other) (hs' : other.step = .inr stop') : state = other := by
  have hfun : Relator.RightUnique fun machine next :
      StackMachine α => machine.step = .inl next := by
    intro a b c hb hc
    rw [hb] at hc
    exact Sum.inl.inj hc
  rcases Relation.ReflTransGen.total_of_right_unique hfun h h' with hr | hr
  · exact (eq_of_reaches_of_stop hs hr).symm
  · exact eq_of_reaches_of_stop hs' hr

theorem height_mem (machine : StackMachine α) : machine.stack.length ∈ machine.heights :=
  ⟨machine, .refl, rfl⟩

theorem heights_of_step {next : StackMachine α} {height : Nat} (h : machine.step = .inl next)
    (hn : height ∈ next.heights) : height ∈ machine.heights := by
  obtain ⟨state, hr, hl⟩ := hn
  exact ⟨state, reaches_head h hr, hl⟩

/-- A run stays within a height if its first state does and what comes after it does. -/
theorem runs_within_of_step {depth : Nat} (hl : machine.stack.length ≤ depth)
    (hstep : (∃ next, machine.step = .inl next ∧ next.RunsWithin depth) ∨
      ∃ stop, machine.step = .inr stop ∧ stop ≠ .noOperands ∧ stop ≠ .noValue) :
        machine.RunsWithin depth := by
  intro state hr
  rcases hstep with ⟨next, hn, hwithin⟩ | ⟨stop, hs, hoperands, hvalue⟩
  · rcases reaches_cases hr with he | ⟨next', hn', hr'⟩
    · subst he
      rw [hn]
      simp [hl]
    · rw [hn] at hn'
      cases hn'
      exact hwithin state hr'
  · rw [eq_of_reaches_of_stop hs hr, hs]
    simp [hl, hoperands, hvalue]

end Runs

section Results

variable {α : Type} {leaf : Condition → Except Error α} {combine : Connective → α → α → α}

/-- A step takes one token. -/
theorem step_moves {machine next : StackMachine α} (h : machine.step = .inl next) :
    next.index = machine.index + 1 ∧ ∃ move, machine.moves = move :: next.moves := by
  unfold step at h
  split at h <;> cases h
  · exact ⟨rfl, _, rfl⟩
  · exact ⟨rfl, _, rfl⟩
  · exact ⟨rfl, _, rfl⟩

/-- A function that takes the steps of the machine gives what the machine stops with. -/
theorem ends_of_steps {τ β : Type} {move : τ → Move α} (run : Nat → List α → List τ → β)
    (result : Nat → Stop α → β) (hrun : ∀ index stack tokens, run index stack tokens =
      Sum.elim (fun next => run next.index next.stack tokens.tail) (result index)
        (StackMachine.mk index stack (tokens.map move)).step)
    (index : Nat) (stack : List α) (tokens : List τ) : ∃ last stop,
      (StackMachine.mk index stack (tokens.map move)).Reaches last ∧ last.step = .inr stop ∧
        run index stack tokens = result last.index stop := by
  have hstops : ∀ index stack tokens stop,
      (StackMachine.mk index stack (tokens.map move)).step = .inr stop →
      ∃ last stop, (StackMachine.mk index stack (tokens.map move)).Reaches last ∧
        last.step = .inr stop ∧
        run index stack tokens = result last.index stop := by
    intro index stack tokens stop hs
    refine ⟨_, stop, .refl, hs, ?_⟩
    rw [hrun, hs]
    rfl
  induction tokens generalizing index stack with
  | nil =>
    cases hs : (StackMachine.mk index stack (([] : List τ).map move)).step with
    | inl next =>
      obtain ⟨_, _, hm⟩ := step_moves hs
      simp at hm
    | inr stop => exact hstops index stack [] stop hs
  | cons token rest ih =>
    cases hs : (StackMachine.mk index stack ((token :: rest).map move)).step with
    | inl next =>
      have hread := hrun index stack (token :: rest)
      rw [hs] at hread
      obtain ⟨_, first, hm⟩ := step_moves hs
      obtain ⟨index', stack', moves⟩ := next
      obtain rfl : moves = rest.map move := (List.cons.inj hm).2.symm
      obtain ⟨last, stop, hr, hstop, hresult⟩ := ih index' stack'
      exact ⟨last, stop, reaches_head hs hr, hstop, hread.trans hresult⟩
    | inr stop => exact hstops index stack (token :: rest) stop hs

/-- A fold takes the steps of its machine. -/
theorem fold_from_step (index : Nat) (stack : List α) (tokens : List FilterToken) :
    FilterStream.foldFrom leaf combine index stack tokens =
      Sum.elim (fun next => FilterStream.foldFrom leaf combine next.index next.stack tokens.tail)
      (Stop.result index)
        (StackMachine.mk index stack (tokens.map (Move.ofToken leaf combine))).step := by
  cases tokens with
  | nil => cases stack <;> rfl
  | cons token rest =>
    cases token with
    | condition condition =>
      cases hl : leaf condition with
      | error cause => simp [FilterStream.foldFrom, Move.ofToken, hl, Stop.result]
      | ok value => simp [FilterStream.foldFrom, Move.ofToken, hl]
    | connective connective => rcases stack with _ | ⟨right, _ | ⟨left, below⟩⟩ <;> rfl

/-- A test takes the steps of its machine. -/
theorem run_steps_step (record : Json) (index : Nat) (stack : List Bool) (steps : List FilterStep) :
    runSteps record stack steps =
      Sum.elim (fun next => runSteps record next.stack steps.tail) Stop.verdict
        (StackMachine.mk index stack (steps.map (Move.ofStep record))).step := by
  cases steps with
  | nil => cases stack <;> rfl
  | cons token rest =>
    cases token with
    | test test => cases stack <;> rfl
    | combine connective => rcases stack with _ | ⟨right, _ | ⟨left, below⟩⟩ <;> rfl

/-- The fold of a sound stream is what its machine stops with. -/
theorem fold_ends {tokens : List FilterToken} {depth : Nat}
    (h : FilterStream.check tokens = .ok depth) :
    ∃ last stop, (ofStream leaf combine tokens).Reaches last ∧ last.step = .inr stop ∧
      FilterStream.fold leaf combine tokens = stop.result last.index := by
  obtain ⟨last, stop, hr, hs, hresult⟩ :=
    ends_of_steps (FilterStream.foldFrom leaf combine) Stop.result fold_from_step 0 [] tokens
  refine ⟨last, stop, hr, hs, ?_⟩
  unfold FilterStream.fold
  rw [h]
  exact hresult

/-- A test of a record gives what its machine stops with. -/
theorem run_steps_ends (record : Json) (steps : List FilterStep) :
    ∃ last stop, (ofSteps record steps).Reaches last ∧ last.step = .inr stop ∧
      runSteps record [] steps = stop.verdict :=
  ends_of_steps (fun _ => runSteps record) (fun _ => Stop.verdict)
    (run_steps_step record) 0 [] steps

end Results

section Check

variable {α : Type} {value : Condition → α} {combine : Connective → α → α → α}
variable {tokens : List FilterToken} {place deepest depth : Nat} {stack : List α}

open FilterStream (checkFrom check)

theorem deepest_le_of_check {height : Nat} (h : checkFrom place height deepest tokens = .ok depth) :
    deepest ≤ depth := by
  fun_induction checkFrom place height deepest tokens with
  | case1 place deepest =>
    cases h
    exact Nat.le_refl _
  | case2 => cases h
  | case3 place height deepest condition rest ih =>
    have := ih h
    omega
  | case4 => cases h
  | case5 place deepest connective rest ih => exact ih h
  | case6 place deepest connective rest height ih => exact ih h

/-- The check goes on with the height that the machine's stack has after a step. Where the machine
stops early, a condition has no value or a connective finds none. -/
theorem check_step {token : FilterToken} {move : Move α} (tokens : List FilterToken)
    (moves : List (Move α)) (hf : Move.Follows token move) (hd : stack.length ≤ deepest) :
    (∃ next, (StackMachine.mk place stack (move :: moves)).step = .inl ⟨place + 1, next, moves⟩ ∧
      checkFrom place stack.length deepest (token :: tokens) =
        checkFrom (place + 1) next.length (max deepest next.length) tokens) ∨
    (∃ cause, move = .push (.error cause)) ∨
    (∃ connective, token = .connective connective ∧
      (StackMachine.mk place stack (move :: moves)).step = .inr .noOperands ∧
      checkFrom place stack.length deepest (token :: tokens) =
        .error (.malformedFilter place (.noOperands connective))) := by
  cases token with
  | condition condition =>
    cases move with
    | join combine => cases hf
    | push value =>
      cases value with
      | error cause => exact .inr (.inl ⟨cause, rfl⟩)
      | ok value => exact .inl ⟨value :: stack, step_push _ _ _ _, rfl⟩
  | connective connective =>
    cases move with
    | push value => cases hf
    | join combine =>
      rcases stack with _ | ⟨right, _ | ⟨left, below⟩⟩
      · exact .inr (.inr ⟨connective, rfl, rfl, rfl⟩)
      · have hmax : max deepest [right].length = deepest := Nat.max_eq_left hd
        exact .inl ⟨[right], rfl, by rw [hmax]; rfl⟩
      · have hmax : max deepest (combine left right :: below).length = deepest :=
          Nat.max_eq_left (Nat.le_of_succ_le hd)
        exact .inl ⟨combine left right :: below, rfl, by rw [hmax]; rfl⟩

/-- After a check that succeeds, the machine never finds its stack empty where it needs a value, and
the stack never grows beyond the depth. -/
theorem runs_within_of_check {moves : List (Move α)} (hf : List.Forall₂ Move.Follows tokens moves)
    (hd : stack.length ≤ deepest) (h : checkFrom place stack.length deepest tokens = .ok depth) :
    RunsWithin depth ⟨place, stack, moves⟩ := by
  have hl : stack.length ≤ depth := Nat.le_trans hd (deepest_le_of_check h)
  induction hf generalizing place stack deepest with
  | nil =>
    rcases stack with _ | ⟨top, below⟩
    · cases h
    · exact runs_within_of_step hl (.inr ⟨.value top, rfl, by simp, by simp⟩)
  | @cons token move tokens moves hfirst _ ih =>
    apply runs_within_of_step hl
    rcases check_step tokens moves hfirst hd with
      ⟨next, hs, hc⟩ | ⟨cause, rfl⟩ | ⟨connective, _, _, hc⟩
    · rw [hc] at h
      refine .inl ⟨_, hs, ih (Nat.le_max_right _ _) h ?_⟩
      exact Nat.le_trans (Nat.le_max_right _ _) (deepest_le_of_check h)
    · exact .inr ⟨.refused cause, step_refused _ _ _ _, by simp, by simp⟩
    · rw [hc] at h
      cases h

theorem runs_within_from_start {moves : List (Move α)} (hf : List.Forall₂ Move.Follows tokens moves)
    (h : check tokens = .ok depth) : RunsWithin depth ⟨0, [], moves⟩ :=
  @runs_within_of_check α tokens 0 0 depth [] moves hf (Nat.le_refl 0)
    (FilterStream.check_from_of_check h)

theorem follows_token (leaf : Condition → Except Error α) (combine : Connective → α → α → α)
    (token : FilterToken) : Move.Follows token (Move.ofToken leaf combine token) := by
  cases token <;> trivial

theorem follows_tokens (leaf : Condition → Except Error α) (combine : Connective → α → α → α)
    (tokens : List FilterToken) :
    List.Forall₂ Move.Follows tokens (tokens.map (Move.ofToken leaf combine)) := by
  induction tokens with
  | nil => exact .nil
  | cons token rest ih => exact .cons (follows_token leaf combine token) ih

theorem follows_steps (record : Json) {first : Nat} {steps : List FilterStep}
    (h : FilterStep.ofTokens first tokens = .ok steps) :
    List.Forall₂ Move.Follows tokens (steps.map (Move.ofStep record)) := by
  induction tokens generalizing first steps with
  | nil =>
    cases h
    exact .nil
  | cons token rest ih =>
    obtain ⟨step, hstep, h⟩ := bind_eq_ok h
    obtain ⟨later, hlater, h⟩ := bind_eq_ok h
    cases h
    refine .cons ?_ (ih hlater)
    cases token with
    | condition condition =>
      obtain ⟨test, _, rfl⟩ := map_eq_ok hstep
      trivial
    | connective connective =>
      cases hstep
      trivial

end Check

section Values

variable {α : Type} {value : Condition → α} {combine : Connective → α → α → α}
variable {tokens : List FilterToken} {place deepest depth : Nat} {stack : List α}

open FilterStream (checkFrom check)

variable (value combine) in
/-- The machine of a stream whose conditions have values, with some tokens taken. -/
def ofValues (place : Nat) (stack : List α) (tokens : List FilterToken) : StackMachine α :=
  ⟨place, stack, tokens.map (Move.ofToken (fun condition => .ok (value condition)) combine)⟩

/-- With values for all conditions, the machine and the check go on together, or both fail for a
connective. -/
theorem values_step (token : FilterToken) (tokens : List FilterToken)
    (hd : stack.length ≤ deepest) :
    (∃ next, (ofValues value combine place stack (token :: tokens)).step =
        .inl (ofValues value combine (place + 1) next tokens) ∧
      checkFrom place stack.length deepest (token :: tokens) =
        checkFrom (place + 1) next.length (max deepest next.length) tokens) ∨
    (∃ connective, token = .connective connective ∧
      (ofValues value combine place stack (token :: tokens)).step = .inr .noOperands ∧
      checkFrom place stack.length deepest (token :: tokens) =
        .error (.malformedFilter place (.noOperands connective))) := by
  have hf := follows_token (fun condition => .ok (value condition)) combine token
  rcases check_step tokens
    (tokens.map (Move.ofToken (fun condition => .ok (value condition)) combine)) hf hd with
    hnext | ⟨cause, hm⟩ | hfails
  · exact .inl hnext
  · cases token <;> cases hm
  · exact .inr hfails

/-- If the check succeeds, the machine ends with one value, and its stack has been as high as the
depth says. -/
theorem ends_of_check (hd : stack.length ≤ deepest)
    (h : checkFrom place stack.length deepest tokens = .ok depth) :
    (∃ top, (ofValues value combine place stack tokens).Reaches
      ⟨place + tokens.length, [top], []⟩) ∧
    (depth = deepest ∨ depth ∈ (ofValues value combine place stack tokens).heights) := by
  induction tokens generalizing place stack deepest with
  | nil =>
    rcases stack with _ | ⟨top, _ | ⟨second, below⟩⟩
    · cases h
    · cases h
      exact ⟨⟨top, .refl⟩, .inl rfl⟩
    · simp [checkFrom] at h
  | cons token rest ih =>
    rcases values_step token rest hd with ⟨next, hs, hc⟩ | ⟨connective, _, _, hc⟩
    · rw [hc] at h
      obtain ⟨⟨top, hr⟩, hdepth⟩ := ih (Nat.le_max_right _ _) h
      have hplace : place + 1 + rest.length = place + (token :: rest).length := by
        rw [List.length_cons]
        omega
      rw [hplace] at hr
      refine ⟨⟨top, reaches_head hs hr⟩, ?_⟩
      rcases hdepth with hmax | hmem
      · rcases Nat.le_total next.length deepest with hle | hle
        · exact .inl (hmax.trans (Nat.max_eq_left hle))
        · rw [Nat.max_eq_right hle] at hmax
          exact .inr (heights_of_step hs (hmax ▸ height_mem _))
      · exact .inr (heights_of_step hs hmem)
    · rw [hc] at h
      cases h

/-- What the machine of a stream comes to where it does not end with one value, told as an error. -/
inductive FailsWith (tokens : List FilterToken) (machine : StackMachine α) : Error → Prop where
  /-- There is nothing to do. -/
  | empty (nothing : tokens = []) : FailsWith tokens machine (.malformedFilter 0 .empty)
  /-- A connective finds the stack empty. The machine stops there, so no connective before it
  does. -/
  | noOperands {state : StackMachine α} {connective : Connective} (reached : machine.Reaches state)
      (stops : state.step = .inr .noOperands)
        (token : tokens[state.index]? = some (.connective connective)) :
      FailsWith tokens machine (.malformedFilter state.index (.noOperands connective))
  /-- More than one value is left at the end. -/
  | leftover {state : StackMachine α} (something : tokens ≠ []) (reached : machine.Reaches state)
      (done : state.moves = []) (left : 1 < state.stack.length) :
      FailsWith tokens machine (.malformedFilter tokens.length (.leftover state.stack.length))

/-- If the check fails from a token on, the machine fails there or later, or leaves other than one
value at the end. -/
theorem fails_of_check {earlier : List FilterToken} {e : Error} (hd : stack.length ≤ deepest)
    (h : checkFrom earlier.length stack.length deepest tokens = .error e) :
    (∃ state connective, (ofValues value combine earlier.length stack tokens).Reaches state ∧
      state.step = .inr .noOperands ∧ (earlier ++ tokens)[state.index]? =
        some (.connective connective) ∧
      e = .malformedFilter state.index (.noOperands connective)) ∨
    (∃ state, (ofValues value combine earlier.length stack tokens).Reaches state ∧
      state.moves = [] ∧
      state.stack.length ≠ 1 ∧
        e = .malformedFilter (earlier ++ tokens).length (.leftover state.stack.length)) := by
  induction tokens generalizing earlier stack deepest with
  | nil =>
    refine .inr ⟨_, .refl, rfl, ?_⟩
    rw [checkFrom] at h
    split at h
    · cases h
    · rename_i hone
      cases h
      exact ⟨hone, by rw [List.append_nil]; rfl⟩
  | cons token rest ih =>
    have hsplit : earlier ++ token :: rest = earlier ++ [token] ++ rest := by simp
    rcases values_step token rest hd with ⟨next, hs, hc⟩ | ⟨connective, rfl, hs, hc⟩
    · rw [hc, show earlier.length + 1 = (earlier ++ [token]).length by simp] at h
      rw [show earlier.length + 1 = (earlier ++ [token]).length by simp] at hs
      rw [hsplit]
      rcases ih (Nat.le_max_right _ _) h with ⟨state, connective, hr, hstop⟩ | ⟨state, hr, hend⟩
      · exact .inl ⟨state, connective, reaches_head hs hr, hstop⟩
      · exact .inr ⟨state, reaches_head hs hr, hend⟩
    · rw [hc] at h
      cases h
      refine .inl ⟨_, connective, .refl, hs, ?_, rfl⟩
      simp [ofValues]

/-- No step leaves the stack empty. -/
theorem stack_ne_nil_of_reaches {machine state : StackMachine α} (h : machine.Reaches state) :
    state = machine ∨ state.stack ≠ [] := by
  rcases Relation.ReflTransGen.cases_tail h with he | ⟨before, _, hs⟩
  · exact .inl he
  · refine .inr ?_
    unfold step at hs
    split at hs <;> cases hs
    · exact List.cons_ne_nil _ _
    · exact List.cons_ne_nil _ _
    · exact List.cons_ne_nil _ _

theorem fails_with_of_check {e : Error} (h : check tokens = .error e) :
    FailsWith tokens (ofValues value combine 0 [] tokens) e := by
  unfold check at h
  split at h
  · rename_i hempty
    cases h
    exact .empty hempty
  · rename_i hsome
    rcases @fails_of_check α value combine tokens 0 [] [] e (Nat.le_refl 0) h with
      ⟨state, connective, hr, hs, ht, rfl⟩ | ⟨state, hr, hdone, hl, rfl⟩
    · exact .noOperands hr hs ht
    · refine .leftover hsome hr hdone ?_
      have hne : state.stack ≠ [] := by
        rcases stack_ne_nil_of_reaches hr with he | hne
        · subst he
          exact absurd (List.map_eq_nil_iff.mp hdone) hsome
        · exact hne
      have hpos := List.length_pos_iff.mpr hne
      omega

/-- A machine with nothing left to do has stopped, but not for a connective. -/
theorem step_done {state : StackMachine α} (h : state.moves = []) :
    ∃ stop, state.step = .inr stop ∧ stop ≠ .noOperands := by
  obtain ⟨index, stack, moves⟩ := state
  cases h
  cases stack with
  | nil => exact ⟨.noValue, rfl, by simp⟩
  | cons top below => exact ⟨.value top, rfl, by simp⟩

/-- The machine does not both fail and end with one value. -/
theorem FailsWith.not_ends {machine : StackMachine α} {e : Error} {index : Nat} {top : α}
    (h : FailsWith tokens machine e) (hne : tokens ≠ []) :
    ¬ machine.Reaches ⟨index, [top], []⟩ := by
  intro hend
  have hstop : (StackMachine.mk index [top] []).step = .inr (.value top) := rfl
  cases h with
  | empty nothing => exact hne nothing
  | noOperands hr hs _ =>
    rw [stop_unique hr hs hend hstop, hstop] at hs
    cases hs
  | leftover _ hr hdone hl =>
    obtain ⟨stop, hs, _⟩ := step_done hdone
    rw [stop_unique hr hs hend hstop] at hl
    exact Nat.lt_irrefl 1 hl

/-- The machine fails in one way only. -/
theorem FailsWith.unique {machine : StackMachine α} {e e' : Error} (h : FailsWith tokens machine e)
    (h' : FailsWith tokens machine e') : e = e' := by
  cases h with
  | empty nothing =>
    subst nothing
    cases h' with
    | empty _ => rfl
    | noOperands _ _ ht => simp at ht
    | leftover hne _ _ _ => exact absurd rfl hne
  | noOperands hr hs ht =>
    cases h' with
    | empty nothing =>
      subst nothing
      simp at ht
    | noOperands hr' hs' ht' =>
      rw [stop_unique hr' hs' hr hs] at ht' ⊢
      rw [ht] at ht'
      cases ht'
      rfl
    | leftover _ hr' hdone _ =>
      obtain ⟨stop, hs', hstop⟩ := step_done hdone
      rw [← stop_unique hr hs hr' hs', hs] at hs'
      cases hs'
      exact absurd rfl hstop
  | leftover hne hr hdone _ =>
    obtain ⟨stop, hs, hstop⟩ := step_done hdone
    cases h' with
    | empty nothing => exact absurd nothing hne
    | noOperands hr' hs' _ =>
      rw [stop_unique hr' hs' hr hs, hs] at hs'
      cases hs'
      exact absurd rfl hstop
    | leftover _ hr' hdone' _ =>
      obtain ⟨stop', hs', _⟩ := step_done hdone'
      rw [stop_unique hr hs hr' hs']

/-- If the check succeeds, the machine ends with one value and the depth is the greatest height of
its stack. -/
theorem greatest_of_check (h : check tokens = .ok depth) : tokens ≠ [] ∧
    (∃ top, (ofValues value combine 0 [] tokens).Reaches ⟨tokens.length, [top], []⟩) ∧
    IsGreatest (ofValues value combine 0 [] tokens).heights depth := by
  obtain ⟨⟨top, hr⟩, hdepth⟩ :=
    @ends_of_check α value combine tokens 0 0 depth [] (Nat.le_refl 0)
      (FilterStream.check_from_of_check h)
  rw [Nat.zero_add] at hr
  refine ⟨?_, ⟨top, hr⟩, ?_, ?_⟩
  · intro hnil
    subst hnil
    cases h
  · rcases hdepth with hzero | hmem
    · subst hzero
      exact height_mem _
    · exact hmem
  · intro height hheight
    obtain ⟨state, hreached, hlength⟩ := hheight
    rw [← hlength]
    exact (runs_within_from_start (follows_tokens _ combine tokens) h state hreached).1

end Values
end StackMachine

open FilterStream (check fold)
open StackMachine

/-- The check is exact. Whatever values its conditions have, a stream passes with a depth if and
only if there is a token at least, the machine comes to its end with one value on the stack, and the
depth is the greatest height of the stack; and it is refused with an error if and only if the error
says what the machine comes to instead: nothing to do, the first connective that finds the stack
empty, or more than one value left at the end. After a check that succeeds, folding the stream and
testing records with it never leave the machine with an empty stack where a value is asked for, also
where conditions have no value, and their stacks do not grow beyond the depth. -/
theorem check_decides_stack_machines (tokens : List FilterToken) :
    (∀ (α : Type) (value : Condition → α) (combine : Connective → α → α → α),
      (∀ depth, check tokens = .ok depth ↔ tokens ≠ [] ∧
        (∃ top, (ofStream (fun c => .ok (value c)) combine tokens).Reaches
          ⟨tokens.length, [top], []⟩) ∧
        IsGreatest (ofStream (fun c => .ok (value c)) combine tokens).heights depth) ∧
      ∀ e, check tokens = .error e ↔
        FailsWith tokens (ofStream (fun c => .ok (value c)) combine tokens) e) ∧
    ∀ depth, check tokens = .ok depth →
      (∀ (α : Type) (leaf : Condition → Except Error α) (combine : Connective → α → α → α),
        (ofStream leaf combine tokens).RunsWithin depth ∧
        ∃ last stop, (ofStream leaf combine tokens).Reaches last ∧ last.step = .inr stop ∧
          fold leaf combine tokens = stop.result last.index) ∧
      ∀ steps, FilterStep.ofTokens 0 tokens = .ok steps →
        compilePredicate tokens = .ok (fun record => runSteps record [] steps) ∧
        ∀ record, (ofSteps record steps).RunsWithin depth ∧
          ∃ last stop, (ofSteps record steps).Reaches last ∧ last.step = .inr stop ∧
            runSteps record [] steps = stop.verdict := by
  refine ⟨?_, ?_⟩
  · intro α value combine
    refine ⟨?_, ?_⟩
    · intro depth
      constructor
      · intro h
        exact greatest_of_check h
      · intro h
        obtain ⟨hne, ⟨top, hend⟩, hgreatest⟩ := h
        cases hc : check tokens with
        | error e => exact absurd hend ((fails_with_of_check hc).not_ends hne)
        | ok other => rw [hgreatest.unique (greatest_of_check hc).2.2]
    · intro e
      constructor
      · intro h
        exact fails_with_of_check h
      · intro h
        cases hc : check tokens with
        | error other => rw [h.unique (fails_with_of_check hc)]
        | ok depth =>
          obtain ⟨hne, ⟨top, hend⟩, _⟩ := @greatest_of_check α value combine tokens depth hc
          exact absurd hend (h.not_ends hne)
  · intro depth h
    refine ⟨?_, ?_⟩
    · intro α leaf combine
      exact ⟨runs_within_from_start (follows_tokens leaf combine tokens) h, fold_ends h⟩
    · intro steps hsteps
      refine ⟨?_, ?_⟩
      · simp [compilePredicate, h, hsteps, bind, Except.bind, pure, Except.pure]
      · intro record
        exact ⟨runs_within_from_start (follows_steps record hsteps) h, run_steps_ends record steps⟩

end PathQuery
