import Agenda.Json.Value
import Agenda.Proofs.Text

/-!
# The grammar of JSON texts

What a JSON text looks like is said here without a reader: how numbers and strings are written,
which values are put together how, and where white space may stand.  A value has many texts, since
white space and escapes are free, and it keeps every member of an object in the order in which it
was written.

The characters of a string are spelled one by one.  A character beyond the first 2^16 may be
spelled by a pair of 16-bit units; half a pair spells nothing.
-/

namespace Agenda
namespace Json

/-- White space that may stand between the tokens of a text. -/
def IsBlank (chars : List Char) : Prop := ∀ char ∈ chars, char ∈ [' ', '\t', '\n', '\r']

instance (chars : List Char) : Decidable (IsBlank chars) :=
  inferInstanceAs (Decidable (∀ char ∈ chars, char ∈ [' ', '\t', '\n', '\r']))

theorem isBlank_nil : IsBlank [] := nofun

/-! ## Numbers -/

/-- The whole part of a number: digits of which a zero leads no others. -/
inductive WholeText : List Char → Prop where
  /-- Zero. -/
  | zero : WholeText ['0']
  /-- Digits that begin with another digit. -/
  | positive {digits : List Char} :
      Text.IsDigits digits → digits.head? ≠ some '0' → WholeText digits

/-- The fraction of a number, which may be missing. -/
inductive FractionText : List Char → Prop where
  /-- There is none. -/
  | none : FractionText []
  /-- A point and digits. -/
  | point {digits : List Char} : Text.IsDigits digits → FractionText ('.' :: digits)

/-- The exponent of a number, which may be missing. -/
inductive ExponentText : List Char → Prop where
  /-- There is none. -/
  | none : ExponentText []
  /-- A letter and digits. -/
  | plain {letter : Char} {digits : List Char} :
      letter ∈ ['e', 'E'] → Text.IsDigits digits → ExponentText (letter :: digits)
  /-- A letter, a sign and digits. -/
  | signed {letter sign : Char} {digits : List Char} :
      letter ∈ ['e', 'E'] → sign ∈ ['+', '-'] → Text.IsDigits digits →
        ExponentText (letter :: sign :: digits)

/-- A number. -/
inductive NumberText : List Char → Prop where
  /-- Without a sign. -/
  | unsigned {whole fraction exponent : List Char} :
      WholeText whole → FractionText fraction → ExponentText exponent →
        NumberText (whole ++ (fraction ++ exponent))
  /-- With a minus sign. -/
  | negative {whole fraction exponent : List Char} :
      WholeText whole → FractionText fraction → ExponentText exponent →
        NumberText ('-' :: (whole ++ (fraction ++ exponent)))

/-! ## Strings -/

/-- What follows the opening quote of a string, up to its closing quote. -/
inductive StringText : List Piece → List Char → Prop where
  /-- The closing quote. -/
  | close : StringText [] ['"']
  /-- A character other than a control character, a quote and a backslash. -/
  | char {char : Char} {pieces : List Piece} {chars : List Char} :
      0x20 ≤ char.toNat → char ≠ '"' → char ≠ '\\' → StringText pieces chars →
        StringText (.char char :: pieces) (char :: chars)
  /-- A character escaped by a letter. -/
  | escape {letter char : Char} {pieces : List Piece} {chars : List Char} :
      shortEscape? letter = some char → StringText pieces chars →
        StringText (.char char :: pieces) ('\\' :: letter :: chars)
  /-- A 16-bit unit in four hexadecimal digits. -/
  | unit {first second third fourth : Char} {value : Nat} {pieces : List Piece}
      {chars : List Char} :
      hexUnit? first second third fourth = some value → StringText pieces chars →
        StringText (.unit value :: pieces)
          ('\\' :: 'u' :: first :: second :: third :: fourth :: chars)

/-- The characters that the pieces of a string spell. -/
inductive Spells : List Piece → List Char → Prop where
  /-- No pieces spell the empty text. -/
  | nil : Spells [] []
  /-- A character spells itself. -/
  | char {char : Char} {pieces : List Piece} {chars : List Char} :
      Spells pieces chars → Spells (.char char :: pieces) (char :: chars)
  /-- A 16-bit unit spells a character unless it is half of a pair. -/
  | unit {value : Nat} {pieces : List Piece} {chars : List Char} :
      value < 0xD800 ∨ 0xE000 ≤ value → Spells pieces chars →
        Spells (.unit value :: pieces) (Char.ofNat value :: chars)
  /-- A pair of 16-bit units spells a character beyond the first 2^16. -/
  | pair {high low : Nat} {pieces : List Piece} {chars : List Char} :
      0xD800 ≤ high → high < 0xDC00 → 0xDC00 ≤ low → low < 0xE000 → Spells pieces chars →
        Spells (.unit high :: .unit low :: pieces)
          (Char.ofNat (0x10000 + (high - 0xD800) * 0x400 + (low - 0xDC00)) :: chars)

/-! ## Values -/

mutual

/-- The texts of a value, without white space around them. -/
inductive ValueText : Json → List Char → Prop where
  | null : ValueText .null ['n', 'u', 'l', 'l']
  | true : ValueText (.bool true) ['t', 'r', 'u', 'e']
  | false : ValueText (.bool false) ['f', 'a', 'l', 's', 'e']
  | number {chars : List Char} : NumberText chars → ValueText (.number chars) chars
  | string {pieces : List Piece} {chars : List Char} :
      StringText pieces chars → ValueText (.string pieces) ('"' :: chars)
  | emptyArray {blank : List Char} :
      IsBlank blank → ValueText (.array []) ('[' :: (blank ++ [']']))
  | array {items : List Json} {inside : List Char} :
      ItemsText items inside → ValueText (.array items) ('[' :: (inside ++ [']']))
  | emptyObject {blank : List Char} :
      IsBlank blank → ValueText (.object []) ('\x7b' :: (blank ++ ['\x7d']))
  | object {members : List (List Piece × Json)} {inside : List Char} :
      MembersText members inside → ValueText (.object members) ('\x7b' :: (inside ++ ['\x7d']))

/-- The texts of one or more items, with commas between them. -/
inductive ItemsText : List Json → List Char → Prop where
  | last {item : Json} {before chars after : List Char} :
      IsBlank before → ValueText item chars → IsBlank after →
        ItemsText [item] (before ++ (chars ++ after))
  | more {item : Json} {items : List Json} {before chars after others : List Char} :
      IsBlank before → ValueText item chars → IsBlank after → ItemsText items others →
        ItemsText (item :: items) (before ++ (chars ++ (after ++ ',' :: others)))

/-- The texts of one or more members, with commas between them. -/
inductive MembersText : List (List Piece × Json) → List Char → Prop where
  | last {key : List Piece} {value : Json}
      {before keyChars between following chars after : List Char} :
      IsBlank before → StringText key keyChars → IsBlank between → IsBlank following →
        ValueText value chars → IsBlank after →
          MembersText [(key, value)]
            (before ++ '"' :: (keyChars ++ (between ++ ':' :: (following ++ (chars ++ after)))))
  | more {key : List Piece} {value : Json} {members : List (List Piece × Json)}
      {before keyChars between following chars after others : List Char} :
      IsBlank before → StringText key keyChars → IsBlank between → IsBlank following →
        ValueText value chars → IsBlank after → MembersText members others →
          MembersText ((key, value) :: members)
            (before ++ '"' :: (keyChars ++ (between ++ ':' ::
              (following ++ (chars ++ (after ++ ',' :: others))))))

end

/-- The texts of a value, with any white space around them. -/
def IsText (text : String) (value : Json) : Prop :=
  ∃ before chars after, IsBlank before ∧ ValueText value chars ∧ IsBlank after ∧
    text.toList = before ++ (chars ++ after)

/-! ## Spelling -/

/-- A character that stands for itself in a string. -/
def IsPlain (char : Char) : Prop := 0x20 ≤ char.toNat ∧ char ≠ '"' ∧ char ≠ '\\'

instance (char : Char) : Decidable (IsPlain char) :=
  inferInstanceAs (Decidable (0x20 ≤ char.toNat ∧ char ≠ '"' ∧ char ≠ '\\'))

theorem StringText.plain
    {chars : List Char}
    (allPlain : ∀ char ∈ chars, IsPlain char)
    {pieces : List Piece}
    {rest : List Char}
    (isText : StringText pieces rest) :
    StringText (chars.map .char ++ pieces) (chars ++ rest) := by
  induction chars with
  | nil => exact isText
  | cons char chars inductionHypothesis =>
      obtain ⟨⟨notControl, notQuote, notBackslash⟩, othersPlain⟩ := List.forall_mem_cons.mp allPlain
      exact .char notControl notQuote notBackslash (inductionHypothesis othersPlain)

theorem StringText.plain_close
    {chars : List Char}
    (allPlain : ∀ char ∈ chars, IsPlain char) :
    StringText (chars.map .char) (chars ++ ['"']) := by
  have isText := StringText.plain allPlain .close
  rwa [List.append_nil] at isText

theorem Spells.chars
    (chars : List Char)
    {pieces : List Piece}
    {others : List Char}
    (spells : Spells pieces others) :
    Spells (chars.map .char ++ pieces) (chars ++ others) := by
  induction chars with
  | nil => exact spells
  | cons char chars inductionHypothesis => exact .char inductionHypothesis

theorem isHighSurrogate_iff (unit : Nat) :
    isHighSurrogate unit = true ↔ 0xD800 ≤ unit ∧ unit < 0xDC00 := by
  simp [isHighSurrogate]

theorem isLowSurrogate_iff (unit : Nat) :
    isLowSurrogate unit = true ↔ 0xDC00 ≤ unit ∧ unit < 0xE000 := by
  simp [isLowSurrogate]

/-- A unit that is not half of a pair stands for itself. -/
theorem text?_unit
    {value : Nat}
    (alone : value < 0xD800 ∨ 0xE000 ≤ value)
    (pieces : List Piece) :
    text? (.unit value :: pieces) = (text? pieces).map (Char.ofNat value :: ·) := by
  have notHigh : ¬ isHighSurrogate value = true := by
    rw [isHighSurrogate_iff]
    omega
  have notLow : ¬ isLowSurrogate value = true := by
    rw [isLowSurrogate_iff]
    omega
  match pieces with
  | [] | .char _ :: _ | .unit _ :: _ => simp [text?, notHigh, notLow]

/-- The text of a string is what its pieces spell. -/
theorem text?_eq_some_iff (pieces : List Piece) (chars : List Char) :
    text? pieces = some chars ↔ Spells pieces chars := by
  constructor
  · intro found
    fun_induction text? pieces generalizing chars with
    | case1 =>
        cases found
        exact .nil
    | case2 char rest inductionHypothesis =>
        obtain ⟨others, othersFound, rfl⟩ := Option.map_eq_some_iff.mp found
        exact .char (inductionHypothesis _ othersFound)
    | case3 high low rest isHigh isLow inductionHypothesis =>
        obtain ⟨others, othersFound, rfl⟩ := Option.map_eq_some_iff.mp found
        rw [isHighSurrogate_iff] at isHigh
        rw [isLowSurrogate_iff] at isLow
        exact .pair isHigh.1 isHigh.2 isLow.1 isLow.2 (inductionHypothesis _ othersFound)
    | case4 | case5 | case7 => cases found
    | case6 unit low rest notHigh notLow inductionHypothesis =>
        obtain ⟨others, othersFound, rfl⟩ := Option.map_eq_some_iff.mp found
        rw [isHighSurrogate_iff] at notHigh
        rw [isLowSurrogate_iff] at notLow
        exact .unit (by omega) (inductionHypothesis _ othersFound)
    | case8 unit rest _ notHalf inductionHypothesis =>
        obtain ⟨others, othersFound, rfl⟩ := Option.map_eq_some_iff.mp found
        rw [Bool.or_eq_true, isHighSurrogate_iff, isLowSurrogate_iff] at notHalf
        exact .unit (by omega) (inductionHypothesis _ othersFound)
  · intro spells
    induction spells with
    | nil => rfl
    | char _ inductionHypothesis => rw [text?, inductionHypothesis, Option.map_some]
    | unit alone _ inductionHypothesis =>
        rw [text?_unit alone, inductionHypothesis, Option.map_some]
    | @pair high low pieces chars high_ge high_lt low_ge low_lt _ inductionHypothesis =>
        have isHigh := (isHighSurrogate_iff high).mpr ⟨high_ge, high_lt⟩
        have isLow := (isLowSurrogate_iff low).mpr ⟨low_ge, low_lt⟩
        rw [text?, if_pos isHigh, if_pos isLow, inductionHypothesis, Option.map_some, pairedChar]

instance (pieces : List Piece) (chars : List Char) : Decidable (Spells pieces chars) :=
  decidable_of_iff _ (text?_eq_some_iff pieces chars)

/-! ## Writing values -/

theorem WholeText.numberText {whole : List Char} (isWhole : WholeText whole) :
    NumberText whole := by
  simpa using NumberText.unsigned isWhole .none .none

/-- The text of a member that is written without white space and without escapes. -/
def WritesMember (member : List Piece × Json) (chars : List Char) : Prop :=
  ∃ key valueChars, (∀ char ∈ key, IsPlain char) ∧ member.1 = key.map .char ∧
    ValueText member.2 valueChars ∧ chars = '"' :: (key ++ '"' :: ':' :: valueChars)

theorem membersText_of_writesMember
    {members : List (List Piece × Json)}
    {texts : List (List Char)}
    (written : List.Forall₂ WritesMember members texts)
    (ne_nil : members ≠ []) :
    MembersText members ([','].intercalate texts) := by
  induction written with
  | nil => exact absurd rfl ne_nil
  | @cons member text members texts writes others inductionHypothesis =>
      obtain ⟨pieces, value⟩ := member
      obtain ⟨key, valueChars, allPlain, rfl, isValue, rfl⟩ := writes
      have isKey := StringText.plain_close allPlain
      cases others with
      | nil =>
          have isLast :=
            MembersText.last isBlank_nil isKey isBlank_nil isBlank_nil isValue isBlank_nil
          simpa using isLast
      | cons =>
          have isMore := MembersText.more isBlank_nil isKey isBlank_nil isBlank_nil isValue
            isBlank_nil (inductionHypothesis (List.cons_ne_nil _ _))
          simpa [List.intercalate] using isMore

/-- An object whose members are written without white space and without escapes. -/
theorem isText_of_writesMember
    {members : List (List Piece × Json)}
    {texts : List (List Char)}
    (written : List.Forall₂ WritesMember members texts)
    (ne_nil : members ≠ [])
    {text : String}
    (text_eq : text.toList = '\x7b' :: ([','].intercalate texts ++ ['\x7d'])) :
    IsText text (.object members) := by
  have isObject := ValueText.object (membersText_of_writesMember written ne_nil)
  refine ⟨[], _, [], isBlank_nil, isObject, isBlank_nil, ?_⟩
  rw [text_eq, List.append_nil, List.nil_append]

end Json
end Agenda
