import PathQuery.Error
import PathQuery.Filter.Tree

namespace PathQuery.FilterStream

/-- Follows the height of the stack from a token on. `deepest` is the greatest height so far. -/
def checkFrom (index height deepest : Nat) : List FilterToken → Except Error Nat
  | [] => if height = 1 then .ok deepest else .error (.malformedFilter index (.leftover height))
  | .condition _ :: rest => checkFrom (index + 1) (height + 1) (max deepest (height + 1)) rest
  | .connective connective :: rest =>
    match height with
    | 0 => .error (.malformedFilter index (.noOperands connective))
    | 1 => checkFrom (index + 1) 1 deepest rest
    | height + 2 => checkFrom (index + 1) (height + 1) deepest rest

/-- Checks that a stream leaves one value, and tells how high the stack grows. -/
def check (tokens : List FilterToken) : Except Error Nat :=
  if tokens = [] then .error (.malformedFilter 0 .empty) else checkFrom 0 0 0 tokens

/-- Runs a stream from a token on, with the values on the stack, top first. -/
def foldFrom {α : Type} (leaf : Condition → Except Error α) (combine : Connective → α → α → α)
    (index : Nat) :
    List α → List FilterToken → Except Error α
  | top :: _, [] => .ok top
  | [], [] => .error (.malformedFilter index .empty)
  | stack, .condition condition :: rest =>
    match leaf condition with
    | .error e => .error e
    | .ok value => foldFrom leaf combine (index + 1) (value :: stack) rest
  | right :: left :: stack, .connective connective :: rest =>
    foldFrom leaf combine (index + 1) (combine connective left right :: stack) rest
  | [only], .connective _ :: rest => foldFrom leaf combine (index + 1) [only] rest
  | [], .connective _ :: _ => .error (.malformedFilter index .operatorAlone)

/-- The value of a sound stream, from the values of its conditions. The first condition without a
value decides the error. -/
def fold {α : Type} (leaf : Condition → Except Error α) (combine : Connective → α → α → α)
    (tokens : List FilterToken) : Except Error α :=
  match check tokens with
  | .error e => .error e
  | .ok _ => foldFrom leaf combine 0 [] tokens

end PathQuery.FilterStream
