import PathQuery.Query.Basic

namespace PathQuery

inductive FilterTree where
  | leaf (condition : Condition)
  | join (connective : Connective) (left right : FilterTree)
deriving DecidableEq, Repr

namespace FilterTree

/-- The stream of a tree: both sides, then what joins them. -/
def tokens : FilterTree → List FilterToken
  | .leaf condition => [.condition condition]
  | .join connective left right => left.tokens ++ right.tokens ++ [.connective connective]

/-- The value of a tree, from the values of its conditions. -/
def fold {α : Type} (leaf : Condition → α) (combine : Connective → α → α → α) : FilterTree → α
  | .leaf condition => leaf condition
  | .join connective left right =>
    combine connective (left.fold leaf combine) (right.fold leaf combine)

end FilterTree
end PathQuery
