import PathQuery.Placeholder.Clause
import PathQuery.Text.Blank
import PathQuery.Toml.Document

namespace PathQuery

structure Settings where
  defaultAdapter : Option String := none
  context : Context := []

/-- Why a text is no assignment. -/
inductive AssignmentFault where
  | noEquals (text : String)
  | noKey (text : String)
deriving DecidableEq, Repr

def AssignmentFault.message : AssignmentFault → String
  | .noEquals text => "Expected KEY=VALUE, got " ++ Text.quoted text
  | .noKey text => "Missing key in " ++ Text.quoted text

namespace Settings

/-- The settings in the fields of a document. Fields of other names mean nothing. -/
def ofFields? (fields : Json.Fields) : Option Settings := do
  let defaultAdapter ← match Json.Fields.find? "default_adapter" fields with
    | none => some none
    | some (.string name) => some (some name)
    | some _ => none
  let context ← match Json.Fields.find? "context" fields with
    | none => some []
    | some (.object values) => some values
    | some _ => none
  return { defaultAdapter := defaultAdapter, context := context }

/-- The settings in a TOML document. -/
def ofToml? (text : String) : Option Settings :=
  (Toml.parse? text).bind ofFields?

/-- Sets the value of a placeholder from `KEY=VALUE`. The value is read as JSON, and is a string if
that fails. -/
def assign (settings : Settings) (assignment : String) : Except AssignmentFault Settings :=
  match Text.cutAt '=' assignment.toList with
  | none => .error (.noEquals assignment)
  | some (before, after) =>
    let key := Text.trim before
    if key = [] then .error (.noKey assignment)
    else
      let text := String.ofList after
      let value := (Json.parse? text).getD (.string text)
      .ok { settings with context := Json.Fields.insert (String.ofList key) value settings.context }

end Settings
end PathQuery
