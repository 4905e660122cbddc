import Agenda.Item
import Agenda.Json.Value

/-!
# Reasons as JSON texts

A reason is written as a string.  It is read from a string, or from an object whose one key is
the name and whose value is null.
-/

namespace Agenda
namespace Reason

/-- The reason whose name a string spells. -/
def ofPieces? (pieces : List Json.Piece) : Option Reason :=
  (Json.text? pieces).bind fun chars => ofName? (String.ofList chars)

/-- The reason that a value stands for. -/
def ofJson? : Json → Option Reason
  | .string pieces => ofPieces? pieces
  | .object [(key, .null)] => ofPieces? key
  | _ => none

/-- Read a reason from a JSON text. -/
def read? (text : String) : Option Reason := (Json.read? text).bind ofJson?

/-- A reason as a JSON text. -/
def render (reason : Reason) : String := "\"" ++ reason.name ++ "\""

end Reason
end Agenda
