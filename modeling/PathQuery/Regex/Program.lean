import PathQuery.Regex.Pattern

namespace PathQuery.Regex

/-- One instruction. `set` takes a character; the others take none. -/
inductive Instruction where
  | set (codes : CodeSet) (next : Nat)
  | look (condition : Look) (next : Nat)
  | save (slot next : Nat)
  | split (preferred other : Nat)
  | accept
deriving DecidableEq, Repr, Inhabited

/-- The instructions of a program, each at its place. -/
abbrev Code := Array Instruction

/-- Adds an instruction, and tells its place. -/
def Code.add (code : Code) (instruction : Instruction) : Code × Nat :=
  let place := code.size
  (code.push instruction, place)

namespace Pattern

/-- Adds a split; a greedy one prefers `body`. -/
def addSplit (greedy : Bool) (body exit : Nat) (code : Code) : Code × Nat :=
  code.add (if greedy then .split body exit else .split exit body)

/-- Writes a body once or more often, and then `next`. The place of the closing split is taken
before the body that leads to it. Returned is the start of the body and the place of the split. -/
def addLoop (greedy : Bool) (emit : Nat → Code → Code × Nat) (next : Nat) (code : Code) :
    Code × Nat × Nat :=
  let (code, place) := code.add .accept
  let (code, start) := emit place code
  (code.setIfInBounds place (if greedy then .split start next else .split next start), start, place)

/-- Writes a body `count` times before `next`. -/
def addTimes (emit : Nat → Code → Code × Nat) : Nat → Nat → Code → Code × Nat
  | 0, next, code => (code, next)
  | count + 1, next, code =>
    let (code, start) := emit next code
    addTimes emit count start code

/-- Writes a body up to `count` times, each one leading to the next or to `exit`. -/
def addOptional (greedy : Bool) (emit : Nat → Code → Code × Nat) (exit : Nat) :
    Nat → Nat → Code → Code × Nat
  | 0, next, code => (code, next)
  | count + 1, next, code =>
    let (code, start) := emit next code
    let (code, start) := addSplit greedy start exit code
    addOptional greedy emit exit count start code

/-- Writes the instructions of a pattern that go on at `next`, and tells where they start. A
repeated body that may be empty is entered before the loop decides to leave it. -/
def emit : Pattern → (next : Nat) → Code → Code × Nat
  | .empty, next, code => (code, next)
  | .set codes _, next, code => code.add (.set codes next)
  | .look condition, next, code => code.add (.look condition next)
  | .capture index body, next, code =>
    let (code, close) := code.add (.save (2 * index + 1) next)
    let (code, start) := body.emit close code
    code.add (.save (2 * index) start)
  | .seq first second, next, code =>
    let (code, middle) := second.emit next code
    first.emit middle code
  | .alt first second, next, code =>
    let (code, other) := second.emit next code
    let (code, preferred) := first.emit next code
    code.add (.split preferred other)
  | .rep least (some most) greedy body, next, code =>
    let (code, start) := addOptional greedy body.emit next (most - least) next code
    addTimes body.emit least start code
  | .rep 0 none greedy body, next, code =>
    let (code, start, place) := addLoop greedy body.emit next code
    if body.matchesEmpty then addSplit greedy start next code else (code, place)
  | .rep (least + 1) none greedy body, next, code =>
    let (code, start, _) := addLoop greedy body.emit next code
    addTimes body.emit least start code

end Pattern

/-- Instructions and where to start. -/
structure Program where
  code : Code
  start : Nat
deriving DecidableEq, Repr, Inhabited

/-- The program of a pattern; its first instruction accepts. -/
def Program.ofPattern (pattern : Pattern) : Program :=
  let (code, start) := pattern.emit 0 #[.accept]
  ⟨code, start⟩

end PathQuery.Regex
