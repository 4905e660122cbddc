/-!
# Tokens of a JSON text

A JSON text is a sequence of tokens with white space between them.  A string token keeps what
was written in it: characters, and the 16-bit units that `\u` escapes stand for.  Whether these
units make up text is asked only of strings whose text matters.  A number token keeps its
characters.
-/

namespace Agenda
namespace Json

/-- A part of a string as it was written. -/
inductive Piece where
  /-- A character, or a short escape of one. -/
  | char (char : Char)
  /-- A 16-bit unit written in hexadecimal. -/
  | unit (value : Nat)
  deriving DecidableEq, Repr

/-- The smallest parts of a JSON text. -/
inductive Token where
  | openArray
  | closeArray
  | openObject
  | closeObject
  | comma
  | colon
  | null
  | bool (value : Bool)
  | number (chars : List Char)
  | string (pieces : List Piece)
  deriving DecidableEq, Repr

/-- The white space between tokens. -/
def isSpace (char : Char) : Bool :=
  char == ' ' || char == '\t' || char == '\n' || char == '\r'

/-- The token that a single character makes up. -/
def punctuation? : Char → Option Token
  | '[' => some .openArray
  | ']' => some .closeArray
  | '\x7b' => some .openObject
  | '\x7d' => some .closeObject
  | ',' => some .comma
  | ':' => some .colon
  | _ => none

/-- The character of a short escape. -/
def shortEscape? : Char → Option Char
  | '"' => some '"'
  | '\\' => some '\\'
  | '/' => some '/'
  | 'b' => some '\x08'
  | 'f' => some '\x0c'
  | 'n' => some '\n'
  | 'r' => some '\r'
  | 't' => some '\t'
  | _ => none

/-- The value of a hexadecimal digit in either case. -/
def hexValue? (char : Char) : Option Nat :=
  if '0' ≤ char ∧ char ≤ '9' then some (char.toNat - '0'.toNat)
  else if 'a' ≤ char ∧ char ≤ 'f' then some (char.toNat - 'a'.toNat + 10)
  else if 'A' ≤ char ∧ char ≤ 'F' then some (char.toNat - 'A'.toNat + 10)
  else none

/-- The 16-bit unit of four hexadecimal digits. -/
def hexUnit? (first second third fourth : Char) : Option Nat := do
  let high ← hexValue? first
  let middleHigh ← hexValue? second
  let middleLow ← hexValue? third
  let low ← hexValue? fourth
  return ((high * 16 + middleHigh) * 16 + middleLow) * 16 + low

/-- Read the rest of a string after its opening quote: its pieces, and what follows its closing
quote.  Control characters may not stand in a string. -/
def stringRest? : List Char → Option (List Piece × List Char)
  | [] => none
  | '"' :: rest => some ([], rest)
  | '\\' :: 'u' :: first :: second :: third :: fourth :: rest =>
      match hexUnit? first second third fourth with
      | none => none
      | some value => (stringRest? rest).map fun read => (.unit value :: read.1, read.2)
  | '\\' :: letter :: rest =>
      match shortEscape? letter with
      | none => none
      | some char => (stringRest? rest).map fun read => (.char char :: read.1, read.2)
  | char :: rest =>
      if char = '\\' ∨ char.toNat < 0x20 then none
      else (stringRest? rest).map fun read => (.char char :: read.1, read.2)

/-- A piece put in front of a string that was read changes nothing about what follows it. -/
theorem stringRest?_of_map {chars rest : List Char} {piece : Piece} {pieces : List Piece}
    (reads : (stringRest? chars).map (fun read => (piece :: read.1, read.2)) =
      some (pieces, rest)) :
    ∃ found, stringRest? chars = some (found, rest) := by
  obtain ⟨⟨found, left⟩, foundEq, readEq⟩ := Option.map_eq_some_iff.mp reads
  cases readEq
  exact ⟨found, foundEq⟩

theorem length_stringRest? {chars rest : List Char} {pieces : List Piece}
    (reads : stringRest? chars = some (pieces, rest)) : rest.length < chars.length := by
  fun_induction stringRest? chars generalizing pieces rest with
  | case1 => cases reads
  | case2 => cases reads; simp
  | case3 => cases reads
  | case4 _ _ _ _ _ _ _ inductionHypothesis =>
      obtain ⟨_, found⟩ := stringRest?_of_map reads
      exact Nat.lt_add_right 6 (inductionHypothesis found)
  | case5 => cases reads
  | case6 _ _ _ _ _ inductionHypothesis =>
      obtain ⟨_, found⟩ := stringRest?_of_map reads
      exact Nat.lt_add_right 2 (inductionHypothesis found)
  | case7 => cases reads
  | case8 _ _ _ _ _ _ inductionHypothesis =>
      obtain ⟨_, found⟩ := stringRest?_of_map reads
      exact Nat.lt_add_right 1 (inductionHypothesis found)

/-- The characters of which numbers are made. -/
def isNumberChar (char : Char) : Bool :=
  char.isDigit || char == '-' || char == '+' || char == '.' || char == 'e' || char == 'E'

/-- Whether characters are one or more digits. -/
def isDigits (chars : List Char) : Bool := !chars.isEmpty && chars.all Char.isDigit

/-- Whether characters are digits without a zero that leads others. -/
def isWhole : List Char → Bool
  | ['0'] => true
  | '0' :: _ => false
  | chars => isDigits chars

/-- Whether characters are the exponent of a number, or nothing. -/
def isExponent : List Char → Bool
  | [] => true
  | letter :: '+' :: digits => (letter == 'e' || letter == 'E') && isDigits digits
  | letter :: '-' :: digits => (letter == 'e' || letter == 'E') && isDigits digits
  | letter :: digits => (letter == 'e' || letter == 'E') && isDigits digits

/-- Whether characters are the fraction and the exponent of a number, each of which may be
missing. -/
def isFraction : List Char → Bool
  | '.' :: chars =>
      isDigits (chars.takeWhile Char.isDigit) && isExponent (chars.dropWhile Char.isDigit)
  | chars => isExponent chars

/-- Whether characters are a number without a sign. -/
def isUnsigned (chars : List Char) : Bool :=
  isWhole (chars.takeWhile Char.isDigit) && isFraction (chars.dropWhile Char.isDigit)

/-- Whether characters are a number. -/
def isNumber : List Char → Bool
  | '-' :: chars => isUnsigned chars
  | chars => isUnsigned chars

theorem length_dropWhile_lt (test : Char → Bool) (char : Char) (rest : List Char)
    (passes : test char = true) :
    ((char :: rest).dropWhile test).length < (char :: rest).length := by
  rw [List.dropWhile_cons_of_pos passes]
  exact Nat.lt_succ_of_le (List.dropWhile_sublist test).length_le

/-- The token of a word, and what follows the word. -/
def word? : List Char → Option (Token × List Char)
  | 'n' :: 'u' :: 'l' :: 'l' :: rest => some (.null, rest)
  | 't' :: 'r' :: 'u' :: 'e' :: rest => some (.bool true, rest)
  | 'f' :: 'a' :: 'l' :: 's' :: 'e' :: rest => some (.bool false, rest)
  | _ => none

theorem length_word? {chars rest : List Char} {token : Token}
    (reads : word? chars = some (token, rest)) : rest.length < chars.length := by
  unfold word? at reads
  split at reads <;> simp_all <;> omega

/-- The tokens of a text; a number is as long a run of number characters as there is. -/
def tokens? : List Char → Option (List Token)
  | [] => some []
  | char :: rest =>
      if isSpace char then
        tokens? rest
      else
        match punctuation? char with
        | some token => (tokens? rest).map (token :: ·)
        | none =>
            if char = '"' then
              match _reads : stringRest? rest with
              | none => none
              | some (pieces, left) => (tokens? left).map (.string pieces :: ·)
            else if _numberChar : isNumberChar char then
              if isNumber ((char :: rest).takeWhile isNumberChar) then
                (tokens? ((char :: rest).dropWhile isNumberChar)).map
                  (.number ((char :: rest).takeWhile isNumberChar) :: ·)
              else
                none
            else
              match _reads : word? (char :: rest) with
              | none => none
              | some (token, left) => (tokens? left).map (token :: ·)
  termination_by chars => chars.length
  decreasing_by
    · simp
    · simp
    · have shorter := length_stringRest? _reads
      simp only [List.length_cons]
      omega
    · exact length_dropWhile_lt isNumberChar char rest _numberChar
    · exact length_word? _reads

end Json
end Agenda
