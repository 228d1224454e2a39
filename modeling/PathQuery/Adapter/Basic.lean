import PathQuery.Placeholder.Clause
import PathQuery.Records.Pipeline

namespace PathQuery

/-- A query as a backend takes it: stages over records, or text. -/
inductive BackendQuery where
  | records (pipeline : Pipeline)
  | text (text : String)

/-- A compiled query, waiting for the values of its placeholders. -/
abbrev Plan := Context → Except Error BackendQuery

/-- An adapter. Compiling may have effects of a monad `m`, so that adapters can keep accounts or
consult a catalogue. -/
structure Adapter (m : Type → Type) where
  name : String
  compile : Query → Marker → m (Except Error Plan)
  canRun : Bool := false
  run : BackendQuery → Json → Except Error Json := fun _ _ => .error (.runNotSupported name)

/-- A limit as a number. Negative ones count from the end. -/
def parseLimit (text : String) : Except Error Int :=
  match Number.readInt64? (Text.trim text.toList) with
  | some limit => .ok limit
  | none => .error (.invalidLimit text)

/-- Binds a clause that may be missing. -/
def bindOption {α β : Type} [Clause α] (marker : Marker) (lower : α → Except Error β) :
    Option α → Except Error (Option (Context → Except Error β))
  | none => .ok none
  | some clause => (marker.bind clause lower).map some

/-- A list of clause parts, as missing if there are none. -/
def nonempty? {α : Type} : List α → Option (List α)
  | [] => none
  | parts => some parts

/-- What a bound clause gives for a context; nothing for a missing one. -/
def resolve {β : Type} (context : Context) :
    Option (Context → Except Error β) → Except Error (Option β)
  | none => .ok none
  | some bound => (bound context).map some

/-- The filters of a query bound. Their shape is checked at once, whatever their placeholders. -/
def bindFilters {β : Type} (marker : Marker) (lower : List FilterToken → Except Error β)
    (tokens : List FilterToken) : Except Error (Option (Context → Except Error β)) :=
  match tokens with
  | [] => .ok none
  | tokens => do
    let _ ← FilterStream.check tokens
    return some (← marker.bind tokens lower)

end PathQuery
