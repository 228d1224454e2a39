import PathQuery.Filter.Stream
import PathQuery.Json.Printer
import PathQuery.Records.Comparison
import PathQuery.Regex.Search

namespace PathQuery

/-- What a condition asks of the value it finds. -/
inductive ValueTest where
  | compare (comparator : Comparator) (value : Literal)
  | matches (regex : Regex)

/-- A condition prepared for testing records. -/
structure RecordTest where
  path : List String
  test : ValueTest

/-- A token prepared for testing records. -/
inductive FilterStep where
  | test (test : RecordTest)
  | combine (connective : Connective)

/-- A pattern with the flags that matter to a single match: `i`, `m` and `s`. -/
def compilePattern (pattern flags : String) : Except Error Regex :=
  let options : Regex.Options :=
    { ignoreCase := flags.toList.contains 'i'
      multiLine := flags.toList.contains 'm'
      dotAll := flags.toList.contains 's' }
  (Regex.compile options pattern.toList).mapError (Error.invalidRegex pattern)

/-- Prepares what the condition at an index of the stream asks for. -/
def ValueTest.ofCondition (index : Nat) (condition : Condition) : Except Error ValueTest :=
  match condition.comparator, condition.value with
  | _, .template text => .error (.invalidSubstitution .filterValue text)
  | .matches, .regex pattern flags => (compilePattern pattern flags).map .matches
  | .matches, .string pattern => (compilePattern pattern "").map .matches
  | .matches, _ => .error (.malformedFilter index (.needsPattern condition.key))
  | _, .regex .. => .error (.malformedFilter index (.needsMatch condition.key))
  | comparator, value => .ok (.compare comparator value)

def FilterStep.ofToken (index : Nat) : FilterToken → Except Error FilterStep
  | .condition c => (ValueTest.ofCondition index c).map fun test => .test ⟨segments c.key, test⟩
  | .connective op => .ok (.combine op)

/-- Prepares the tokens of a stream from an index on. -/
def FilterStep.ofTokens (index : Nat) : List FilterToken → Except Error (List FilterStep)
  | [] => .ok []
  | token :: rest => do
    let step ← FilterStep.ofToken index token
    let steps ← FilterStep.ofTokens (index + 1) rest
    return step :: steps

/-- Whether a record passes a test. A missing value matches no pattern. -/
def RecordTest.holds (test : RecordTest) (record : Json) : Bool :=
  let found := record.get? test.path
  match test.test with
  | .compare comparator value => comparator.holds found value
  | .matches regex => found.any fun value => regex.isMatch value.plainText.toList

/-- Runs prepared steps on a record, with the truth values on the stack, top first. -/
def runSteps (record : Json) : List Bool → List FilterStep → Bool
  | stack, [] => stack.headD false
  | stack, .test test :: rest => runSteps record (test.holds record :: stack) rest
  | right :: left :: stack, .combine connective :: rest =>
    runSteps record (connective.apply left right :: stack) rest
  | [only], .combine _ :: rest => runSteps record [only] rest
  | [], .combine _ :: _ => false

/-- The test that a stream of filters puts to records. -/
def compilePredicate (tokens : List FilterToken) : Except Error (Json → Bool) := do
  let _ ← FilterStream.check tokens
  let steps ← FilterStep.ofTokens 0 tokens
  return fun record => runSteps record [] steps

end PathQuery
