import Agenda.Text.Unprintable

/-!
# Quoted text

A text between double quotes, in which quotes, backslashes and whatever does not print are
written as escapes: a letter for the common controls, a hexadecimal code point for the rest.
-/

namespace Agenda
namespace Text

/-- A character as it stands between quotes. -/
def escaped (char : Char) : List Char :=
  match char with
  | '"' => ['\\', '"']
  | '\\' => ['\\', '\\']
  | '\t' => ['\\', 't']
  | '\n' => ['\\', 'n']
  | '\r' => ['\\', 'r']
  | '\x00' => ['\\', '0']
  | _ =>
      if isUnprintable char then
        ['\\', 'u', '\x7b'] ++ Nat.toDigits 16 char.toNat ++ ['\x7d']
      else
        [char]

/-- A text in quotes. -/
def quoted (text : String) : String :=
  String.ofList ('"' :: text.toList.flatMap escaped ++ ['"'])

end Text
end Agenda
