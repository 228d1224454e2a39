import PathQuery.Regex.Space.Basic

namespace PathQuery.Regex.Space

/-- The words between those that are at their end. -/
def spans : List (List Nat) → List (List (List Nat))
  | [] => [[]]
  | [] :: words => [] :: spans words
  | word :: words =>
    match spans words with
    | span :: rest => (word :: span) :: rest
    | [] => [[word]]

/-- The words at a node of the tree. Of the words that end there before any that goes on, one
counts. -/
def nodeWords (words : List (List Nat)) : List (List Nat) :=
  match words with
  | [] :: words => [] :: words.dropWhile List.isEmpty
  | words => words

/-- Adds the states for a node of the tree with the given words of at most `length` bytes. In each
span there is one state that reads the next byte; another chooses between the spans and the ends
between them. -/
def addNode : (length : Nat) → List (List Nat) → Space → Space
  | 0, _, space => space
  | length + 1, words, space =>
    if words.all List.isEmpty then space
    else
      let spans := spans (nodeWords words)
      let space := spans.foldl (fun space span =>
        let heads := (span.filterMap List.head?).eraseDups
        let space := heads.foldl (fun space head =>
          addNode length ((span.filter (·.head? == some head)).map (List.drop 1)) space) space
        match heads.length with
        | 0 => space
        | 1 => space.add
        | count => space.addReader count) space
      space.addFork (spans.length - 1 + (spans.filter (!·.isEmpty)).length)

/-- Adds the states for a choice between words, given by their bytes. -/
def addWords (direction : Direction) (words : List (List Nat)) (space : Space) : Space :=
  let words := match direction with
    | .forward => words
    | .backward => words.map List.reverse
  addNode ((words.map List.length).foldl max 0 + 1) words space.add

end PathQuery.Regex.Space
