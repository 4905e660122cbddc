import Agenda.Config.Basic
import Agenda.Json.Value
import Agenda.Text.Numeral

/-!
# Configurations as JSON texts

A configuration is written as an object whose members are the fields in their order, without
white space.  It is read from an object with any of the fields, each at most once and among any
other members, or from an array of the first few values.  What is not given keeps its standard
value.  Numbers are plain decimal numerals below 2^64; null leaves the limit on pending items
open and is no value for the other fields.
-/

namespace Agenda
namespace Config

/-- The value of a field in a text. -/
def valueText : Option UInt64 → String
  | some value => Text.numeral value
  | none => "null"

/-- A member of the object that a configuration is written as. -/
def memberText (config : Config) (field : Field) : String :=
  "\"" ++ field.key ++ "\":" ++ valueText (config.get field)

/-- A configuration as a JSON text. -/
def render (config : Config) : String :=
  "\x7b" ++ ",".intercalate (Field.all.map config.memberText) ++ "\x7d"

/-- The number that a plain decimal numeral stands for. -/
def natural? (chars : List Char) : Option UInt64 :=
  if chars.all Char.isDigit then (Text.readNumeral chars).toOption else none

/-- Give a field the value that a JSON value stands for. -/
def assign? (config : Config) (field : Field) : Json → Option Config
  | .number chars => (natural? chars).map fun value => config.set field value
  | .null => config.clear? field
  | _ => none

/-- Read the members of an object, of which the fields that were already given may not be given
again. -/
def ofMembers? (config : Config) (given : List Field) :
    List (List Json.Piece × Json) → Option Config
  | [] => some config
  | (pieces, value) :: rest =>
      match Json.text? pieces with
      | none => none
      | some key =>
          match Field.ofKey? (String.ofList key) with
          | none => ofMembers? config given rest
          | some field =>
              if field ∈ given then none
              else
                match config.assign? field value with
                | none => none
                | some assigned => ofMembers? assigned (field :: given) rest

/-- Read values of fields in their order; there may be fewer values than fields. -/
def ofItems? (config : Config) : List Field → List Json → Option Config
  | _, [] => some config
  | [], _ :: _ => none
  | field :: fields, value :: values =>
      match config.assign? field value with
      | none => none
      | some assigned => ofItems? assigned fields values

/-- The configuration that a JSON value stands for. -/
def ofJson? : Json → Option Config
  | .object members => ofMembers? standard [] members
  | .array items => ofItems? standard Field.all items
  | _ => none

/-- Why a text is no configuration. -/
inductive TextError where
  /-- It is not the text of a configuration. -/
  | malformed
  /-- A value is out of range. -/
  | invalid (violation : Violation)
  deriving DecidableEq, Repr

/-- The wording of an error. -/
def TextError.message : TextError → String
  | malformed => "parse error"
  | invalid violation => violation.message

/-- Read a configuration from a JSON text. -/
def ofText (text : String) : Except TextError Config :=
  match (Json.read? text).bind ofJson? with
  | none => .error .malformed
  | some config => config.validate.mapError .invalid

end Config
end Agenda
