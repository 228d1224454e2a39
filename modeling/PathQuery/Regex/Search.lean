import PathQuery.Regex.Openings
import PathQuery.Regex.Parser
import PathQuery.Regex.Program
import PathQuery.Regex.Space.Layout

namespace PathQuery

/-- A regular expression ready to match. -/
structure Regex where
  program : Regex.Program
  /-- The number of capturing groups. -/
  groups : Nat
deriving DecidableEq, Inhabited

namespace Regex

/-- How to read an expression from the start. -/
structure Options where
  ignoreCase : Bool := false
  multiLine : Bool := false
  dotAll : Bool := false

/-- The number of words from which on a choice between them is no matter of space. -/
def manyWords : Nat := 3000

/-- Builds the program of a pattern. One that is too large is not lost if all it does is to look for
texts. -/
def ofPattern (pattern : Pattern) : Except Fault Regex :=
  if pattern.fits then .ok ⟨.ofPattern pattern, pattern.groups⟩
  else match pattern.plainTexts? with
    | some texts => .ok ⟨.ofPattern (.ofAlternatives (texts.map .ofText)), 0⟩
    | none =>
      let words := pattern.choices
      if manyWords ≤ words.length && words.all (·.bytes?.isSome) then .ok ⟨.ofPattern pattern, 0⟩
      else .error .tooLarge

/-- Reads an expression and builds its program. -/
def compile (options : Options) (text : List Char) : Except Fault Regex := do
  let flags : Flags :=
    { ignoreCase := options.ignoreCase, multiLine := options.multiLine, dotAll := options.dotAll }
  ofPattern (← readPattern flags text)

def isWord (alphabet : Alphabet) : Option Char → Bool
  | none => false
  | some c =>
    match alphabet with
    | .ascii => asciiWord.has c
    | .unicode => unicodeWord.has c

/-- Whether a condition holds between two neighbouring characters; at an end of the text there is
none. -/
def Look.holds (before after : Option Char) : Look → Bool
  | .textStart => before.isNone
  | .textEnd => after.isNone
  | .lineStart => before.all (· = '\n')
  | .lineEnd => after.all (· = '\n')
  | .lineStartReturn => before.all fun c => c = '\n' || (c = '\r' && after ≠ some '\n')
  | .lineEndReturn => after.all fun c => c = '\r' || (c = '\n' && before ≠ some '\r')
  | .wordBoundary alphabet => isWord alphabet before != isWord alphabet after
  | .notWordBoundary alphabet => isWord alphabet before == isWord alphabet after
  | .wordStart alphabet => !isWord alphabet before && isWord alphabet after
  | .wordEnd alphabet => isWord alphabet before && !isWord alphabet after
  | .wordStartHalf alphabet => !isWord alphabet before
  | .wordEndHalf alphabet => !isWord alphabet after

/-- One way through the program: the next instruction and the places saved so far, last first. -/
structure Thread where
  next : Nat
  saved : List (Nat × Nat)

/-- An instruction visited for the first time leaves fewer to visit. -/
theorem count_set_lt {visited : Array Bool} {next : Nat} (h : next < visited.size)
    (hv : ¬ visited[next] = true) : (visited.set next true).count false < visited.count false := by
  have hmem : false ∈ visited := by
    have := Array.getElem_mem h
    simpa [Bool.eq_false_iff.mpr hv] using this
  have := Array.count_pos_iff.mpr hmem
  simp [Array.count_set, hv]
  omega

/-- Follows threads to the instructions that take a character or accept, in the order of preference.
`place` is the number of characters taken so far. An instruction reached twice counts the first
time. `settled` holds the threads that have arrived, last first. -/
def settle (code : Code) (before after : Option Char) (place : Nat) (visited : Array Bool)
    (settled : List Thread) :
    List Thread → List Thread
  | [] => settled.reverse
  | thread :: rest =>
    if h : thread.next < visited.size then
      if hv : visited[thread.next] then settle code before after place visited settled rest
      else
        let visited' := visited.set thread.next true
        match code[thread.next]? with
        | none => settle code before after place visited' settled rest
        | some (.set ..) => settle code before after place visited' (thread :: settled) rest
        | some .accept => settle code before after place visited' (thread :: settled) rest
        | some (.look condition next) =>
          if condition.holds before after then
            settle code before after place visited' settled (⟨next, thread.saved⟩ :: rest)
          else settle code before after place visited' settled rest
        | some (.save slot next) =>
          settle code before after place visited' settled
            (⟨next, (slot, place) :: thread.saved⟩ :: rest)
        | some (.split preferred other) =>
          settle code before after place visited' settled
            (⟨preferred, thread.saved⟩ :: ⟨other, thread.saved⟩ :: rest)
    else settle code before after place visited settled rest
-- a visit is worth two threads: it takes one away, and puts two in its place at most
termination_by threads => 2 * visited.count false + threads.length
decreasing_by
  all_goals first
    | exact Nat.lt_succ_self _
    | have hfewer := count_set_lt h hv
      simp only [List.length_cons]
      omega

/-- The threads at one place of the text, from those that reach it. -/
def threadsAt (code : Code) (before after : Option Char) (place : Nat) (threads : List Thread) :
    List Thread :=
  settle code before after place (Array.replicate code.size false) [] threads

def Thread.accepts (code : Code) (thread : Thread) : Bool :=
  match code[thread.next]? with
  | some .accept => true
  | _ => false

/-- The threads after taking one character. -/
def take (code : Code) (c : Char) (threads : List Thread) : List Thread :=
  threads.filterMap fun (thread : Thread) =>
    match code[thread.next]? with
    | some (.set codes next) => if codes.has c then some ⟨next, thread.saved⟩ else none
    | _ => none

/-- Follows the threads through the text. `best` is what the last accepting thread saved, with the
number of characters it took. -/
def follow (code : Code) (threads : List Thread) (place : Nat) (before : Option Char)
    (best : Option (Nat × List (Nat × Nat))) (text : List Char) : Option (Nat × List (Nat × Nat)) :=
  let settled := threadsAt code before text.head? place threads
  let live := settled.takeWhile (!·.accepts code)
  let best := ((settled.find? (·.accepts code)).map fun thread => (place, thread.saved)).or best
  match live, text with
  | [], _ => best
  | _, [] => best
  | live, c :: rest => follow code (take code c live) (place + 1) (some c) best rest

/-- A match at the head of a text: the number of characters it takes, and the places saved. -/
structure Match where
  length : Nat
  saved : List (Nat × Nat)

/-- The preferred match that starts where the text does; `before` is the character in front of
it. -/
def matchAt? (regex : Regex) (before : Option Char) (text : List Char) : Option Match :=
  (follow regex.program.code [⟨regex.program.start, []⟩] 0 before none text).map
    fun (length, saved) =>
    ⟨length, saved⟩

/-- The part of the text that a group took, if it took part. -/
def Match.group? (m : Match) (index : Nat) (text : List Char) : Option (List Char) := do
  let start ← m.saved.lookup (2 * index)
  let stop ← m.saved.lookup (2 * index + 1)
  return (text.take stop).drop start

/-- Whether a match ends somewhere in the text. At each place a new start joins the threads. -/
def scan (code : Code) (start : Nat) (threads : List Thread) (before : Option Char)
    (text : List Char) : Bool :=
  let settled := threadsAt code before text.head? 0 (threads ++ [⟨start, []⟩])
  settled.any (·.accepts code) ||
    match text with
    | [] => false
    | c :: rest => scan code start (take code c settled) (some c) rest

def isMatch (regex : Regex) (text : List Char) : Bool :=
  scan regex.program.code regex.program.start [] none text

end Regex
end PathQuery
