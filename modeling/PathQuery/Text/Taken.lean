namespace PathQuery

/-- A value taken from the head of a text, with a rest that is shorter than the text. -/
abbrev Taken (α : Type) (text : List Char) : Type :=
  { result : α × List Char // result.2.length < text.length }

/-- Takes a value from the head of a text, if there is one. -/
abbrev Taker (α : Type) : Type :=
  (text : List Char) → Option (Taken α text)

namespace Taken

variable {α β : Type} {text : List Char}

def map (f : α → β) (taken : Taken α text) : Taken β text :=
  ⟨(f taken.1.1, taken.1.2), taken.2⟩

/-- What is taken from the rest of a text is taken from the text. -/
def widen {rest : List Char} (h : rest.length ≤ text.length) (taken : Taken α rest) :
    Taken α text :=
  ⟨taken.1, Nat.lt_of_lt_of_le taken.2 h⟩

end Taken

/-- A value with its rest, on condition that the rest is shorter than the text. -/
def taken? {α : Type} (text : List Char) (value : α) (rest : List Char) : Option (Taken α text) :=
  if h : rest.length < text.length then some ⟨(value, rest), h⟩ else none

/-- Passes over what may stand between values, without adding to the text. -/
abbrev Skipper : Type :=
  (text : List Char) → Option { rest : List Char // rest.length ≤ text.length }

/-- Takes values with commas between them, up to and with a closing character. `skip` passes over
what may stand around commas; `openEnd` allows a comma before the closing character. There is one
value at least. -/
def takeList {α : Type} (skip : Skipper) (closing : Char) (openEnd : Bool) (item : Taker α)
    (text : List Char) : Option (Taken (List α) text) :=
  match item text with
  | none => none
  | some ⟨(value, rest), hr⟩ =>
    match skip rest with
    | none => none
    | some ⟨[], _⟩ => none
    | some ⟨c :: after, ha⟩ =>
      have ha : after.length < text.length := Nat.lt_trans ha hr
      if c = closing then some ⟨([value], after), ha⟩
      else if c = ',' then
        match skip after with
        | none => none
        | some ⟨[], _⟩ => none
        | some ⟨d :: next, hn⟩ =>
          have hn : (d :: next).length < text.length := Nat.lt_of_le_of_lt hn ha
          if openEnd && d = closing then some ⟨([value], next), Nat.lt_of_succ_lt hn⟩
          else
            match takeList skip closing openEnd item (d :: next) with
            | none => none
            | some ⟨(values, rest), hv⟩ => some ⟨(value :: values, rest), Nat.lt_trans hv hn⟩
      else none
termination_by text.length

/-- Takes values like `takeList`, or none at all before the closing character. -/
def takeItems {α : Type} (skip : Skipper) (closing : Char) (openEnd : Bool) (item : Taker α)
    (text : List Char) : Option (Taken (List α) text) :=
  match skip text with
  | none => none
  | some ⟨[], _⟩ => none
  | some ⟨c :: rest, h⟩ =>
    if c = closing then some ⟨([], rest), h⟩
    else (takeList skip closing openEnd item (c :: rest)).map (Taken.widen h)

end PathQuery
