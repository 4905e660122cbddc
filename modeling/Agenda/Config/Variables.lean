import Agenda.Config.Basic
import Agenda.Text.Blank
import Agenda.Text.Numeral
import Agenda.Text.Quoted

/-!
# Configurations from variables

Each field can be given by a variable.  Its value is a decimal numeral with any white space
around it; a variable that is missing leaves the standard value.  The first variable that holds
no numeral is reported, in the order of the fields, before any value that is out of range.
-/

namespace Agenda
namespace Config

/-- Why variables give no configuration. -/
inductive VariableError where
  /-- A variable holds no numeral. -/
  | badValue (field : Field) (raw : String) (cause : Text.NumeralError)
  /-- A value is out of range. -/
  | invalid (violation : Violation)
  deriving DecidableEq, Repr

namespace VariableError

/-- The wordings of an error, from the outermost to its root. -/
def chain : VariableError → List String
  | badValue field raw cause =>
      ["invalid value for " ++ field.variableName ++ ": " ++ Text.quoted raw, cause.message]
  | invalid violation => [violation.message]

/-- The outermost wording of an error. -/
def message (error : VariableError) : String := error.chain.headD ""

end VariableError

/-- Read the variable of a field into a configuration. -/
def ofVariable (lookup : String → Option String) (config : Config) (field : Field) :
    Except VariableError Config :=
  match lookup field.variableName with
  | none => .ok config
  | some raw =>
      match Text.readNumeral (Text.trim raw.toList) with
      | .error cause => .error (.badValue field raw cause)
      | .ok value => .ok (config.set field value)

/-- Read a configuration from variables. -/
def ofVariables (lookup : String → Option String) : Except VariableError Config :=
  match Field.all.foldlM (ofVariable lookup) standard with
  | .error error => .error error
  | .ok config => config.validate.mapError .invalid

end Config
end Agenda
