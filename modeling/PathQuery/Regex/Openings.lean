import PathQuery.Regex.Normal
import PathQuery.Text.Utf8

namespace PathQuery.Regex
open Text

/-- A text that a match starts with. -/
structure Opening where
  text : List Nat
  /-- The bytes of the text, or as many of them as are kept. -/
  bytes : List Nat
  /-- Whether the match is over behind it. -/
  whole : Bool

/-- Openings in the order of preference; if there are none to speak of, a match may start with
anything. -/
abbrev Openings := Option (List Opening)

namespace Opening

/-- Keeps at most `length` bytes. -/
def cut (length : Nat) (opening : Opening) : Opening :=
  if opening.bytes.length ≤ length then opening
  else { opening with bytes := opening.bytes.take length, whole := false }

def append (a b : Opening) : Opening :=
  ⟨a.text ++ b.text, a.bytes ++ b.bytes, b.whole⟩

/-- Takes neighbours with the same bytes together. -/
def dedup (openings : List Opening) : List Opening :=
  (openings.splitBy fun a b => a.bytes == b.bytes).filterMap fun group =>
    group.head?.map fun opening => { opening with whole := group.all (·.whole) }

/-- Drops openings that start with an earlier one: a match with that is preferred. -/
def minimal (openings : List Opening) : List Opening :=
  openings.foldl (fun kept opening =>
    if kept.any (·.bytes.isPrefixOf opening.bytes) then kept else kept ++ [opening]) []

end Opening

namespace Openings

/-- How many openings are kept. -/
def limit : Nat := 250

/-- The empty text, and then the match is over. -/
def start : Openings := some [⟨[], [], true⟩]

/-- No opening is a whole match. -/
def allOpen (openings : Openings) : Bool :=
  openings.all (·.all (!·.whole))

/-- The same openings of longer matches. -/
def goingOn (openings : Openings) : Openings :=
  openings.map (·.map ({ · with whole := false }))

/-- The openings where what stands behind `before` starts with `after`. -/
def follow (before after : Openings) : Openings :=
  if before.allOpen then before
  else match before, after with
    | none, _ => none
    | some before, none => goBeyond before
    | some before, some after =>
      if limit < before.length * after.length then goBeyond before
      else
        let joined := before.flatMap fun opening =>
          if opening.whole then after.map opening.append else [opening]
        some ((Opening.dedup joined).map (.cut 100))
where
  /-- The openings before anything. -/
  goBeyond (before : List Opening) : Openings :=
    if before.any (·.bytes.isEmpty) then none else goingOn (some before)

/-- The openings of a choice. If there are too many of them, they are kept shorter. -/
def either (first second : Openings) : Openings := do
  let first ← first
  let second ← second
  if first.length + second.length ≤ limit then return Opening.dedup (first ++ second)
  let first := Opening.dedup (first.map (.cut 4))
  let second := Opening.dedup (second.map (.cut 4))
  if first.length + second.length ≤ limit then return Opening.dedup (first ++ second)
  none

/-- The openings of a repetition. -/
def repeated (least : Nat) (most : Option Nat) (greedy : Bool) (body : Openings) : Openings :=
  if least = 0 then
    let body := if most = some 1 then body else body.goingOn
    if greedy then body.either start else start.either body
  else
    let copies := (List.replicate (min least 10) body).foldl follow start
    if most = some least ∧ least ≤ 10 then copies else copies.goingOn

/-- The openings of a set of characters. -/
def ofSet (codes : CodeSet) : Openings :=
  if 10 < codes.count then none
  else some (codes.members.map fun n => ⟨[n], Utf8.bytes n, true⟩)

end Openings

/-- How a pattern is joined to what stands before it. -/
inductive Joint where
  | sequence
  | choice

def Joint.apply : Joint → Openings → Openings → Openings
  | .sequence => Openings.follow
  | .choice => Openings.either

namespace Pattern

/-- Joins the openings of a pattern to those of what stands before it. -/
def joinOpenings : Pattern → Joint → Openings → Openings
  | .empty, joint, before => joint.apply before .start
  | .set codes _, joint, before => joint.apply before (.ofSet codes)
  | .look _, joint, before => joint.apply before .start
  | .capture _ body, joint, before => joint.apply before (body.joinOpenings .sequence .start)
  | .seq first second, .sequence, before =>
    second.joinOpenings .sequence (first.joinOpenings .sequence before)
  | .seq first second, .choice, before =>
    before.either (second.joinOpenings .sequence (first.joinOpenings .sequence .start))
  | .alt first second, .choice, before =>
    second.joinOpenings .choice (first.joinOpenings .choice before)
  | .alt first second, .sequence, before =>
    before.follow (second.joinOpenings .choice (first.joinOpenings .choice (some [])))
  | .rep least most greedy body, joint, before =>
    joint.apply before (.repeated least most greedy (body.joinOpenings .sequence .start))

def openings (pattern : Pattern) : Openings :=
  pattern.joinOpenings .sequence .start

end Pattern

/-- Whether a byte is common in texts; all bytes beyond ASCII are. -/
def isCommonByte (byte : Nat) : Bool :=
  128 ≤ byte || "\n\r (),-./0129:_abcdefghilmnoprstuvxy|".toList.any (·.toNat == byte)

namespace Opening

/-- Keeps fewer bytes of openings as long as there are many of them. -/
def shorten : List (Nat × Nat) → List Opening → List Opening
  | [], openings => openings
  | (length, many) :: rest, openings =>
    if openings.length ≤ many then openings else shorten rest (minimal (openings.map (cut length)))

/-- Whether it is best to look for the whole texts, and not for what they start with. `count` is how
many openings there were before those with earlier ones at their head were dropped. -/
def bestWhole (count : Nat) (openings : List Opening) : Bool :=
  let shared := Pattern.commonStart (openings.map (·.bytes))
  if 1 < count && shared.length ≤ 3 && shared.head?.any (!isCommonByte ·) then
    openings.all (·.bytes.length == 1)
  else if 4 < shared.length || (1 < shared.length && 16 < openings.length) then openings.length == 1
  else
    let short := shorten [(5, 10), (4, 10), (3, 64), (2, 64), (1, 10)] openings
    short.any (·.bytes.length ≤ 2) || 64 < short.length || short.all (·.whole)

end Opening

namespace Pattern

/-- The texts that the pattern looks for, if it does nothing else, in the order of preference. -/
def plainTexts? (pattern : Pattern) : Option (List (List Nat)) := do
  if pattern.hasLook || 0 < pattern.groups then none
  let openings ← pattern.openings
  let minimal := Opening.minimal openings
  if openings.isEmpty || openings.any (·.bytes.isEmpty) then none
  if minimal.all (·.whole) && Opening.bestWhole openings.length minimal then
    return minimal.map (·.text)
  none

end Pattern
end PathQuery.Regex
