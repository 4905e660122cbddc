import Agenda.Proofs.Json.Grammar

/-!
# Reading JSON texts

Every text that the grammar allows for a value is read as this value.  The reader is followed
through a text by what it makes of the rest: after a token it stands at the stage to which the
token leads, and after the text of a whole value it stands where the value leads, whatever
containers are still open around it.  A number is told from what follows it because no number
character follows a value.
-/

namespace Agenda
namespace Json

/-! ## The tokens of a text -/

theorem isSpace_of_mem
    {char : Char}
    (isBlank : char ∈ [' ', '\t', '\n', '\r']) :
    isSpace char = true := by
  simp only [List.mem_cons, List.not_mem_nil, or_false] at isBlank
  rcases isBlank with rfl | rfl | rfl | rfl <;> rfl

theorem tokens?_space {char : Char} (space : isSpace char = true) (rest : List Char) :
    tokens? (char :: rest) = tokens? rest := by
  rw [tokens?, if_pos space]

theorem tokens?_blank {blank : List Char} (isBlank : IsBlank blank) (rest : List Char) :
    tokens? (blank ++ rest) = tokens? rest := by
  induction blank with
  | nil => rfl
  | cons char blank inductionHypothesis =>
      have space := isSpace_of_mem (isBlank char List.mem_cons_self)
      rw [List.cons_append, tokens?_space space]
      exact inductionHypothesis fun other present => isBlank other (List.mem_cons_of_mem _ present)

theorem tokens?_punctuation
    {char : Char}
    {token : Token}
    (isPunctuation : punctuation? char = some token)
    (rest : List Char) :
    tokens? (char :: rest) = (tokens? rest).map (token :: ·) := by
  have noSpace : ¬ isSpace char = true := by
    unfold punctuation? at isPunctuation
    split at isPunctuation <;> first | decide | cases isPunctuation
  rw [tokens?, if_neg noSpace]
  simp only [isPunctuation]

/-- The text of a string is read up to its closing quote. -/
theorem stringRest?_of_text
    {pieces : List Piece}
    {chars : List Char}
    (isText : StringText pieces chars)
    (rest : List Char) :
    stringRest? (chars ++ rest) = some (pieces, rest) := by
  induction isText with
  | close => rfl
  | @char char pieces chars notControl notQuote notBackslash _ inductionHypothesis =>
      have allowed : ¬ (char = '\\' ∨ char.toNat < 0x20) := by
        rintro (isBackslash | isControl)
        · exact notBackslash isBackslash
        · exact Nat.not_lt.mpr notControl isControl
      rw [List.cons_append, stringRest?.eq_def]
      split
      next atEnd => cases atEnd
      next atQuote => exact absurd (List.cons.inj atQuote).1 notQuote
      next atEscape => exact absurd (List.cons.inj atEscape).1 notBackslash
      next atEscape => exact absurd (List.cons.inj atEscape).1 notBackslash
      next same =>
        cases same
        rw [if_neg allowed, inductionHypothesis, Option.map_some]
  | escape isEscape _ inductionHypothesis =>
      rw [List.cons_append, List.cons_append, stringRest?.eq_def]
      split
      next atEnd => cases atEnd
      next atQuote => cases atQuote
      next atUnit =>
        obtain rfl := (List.cons.inj (List.cons.inj atUnit).2).1
        cases isEscape
      next same =>
        cases same
        simp only [isEscape, inductionHypothesis, Option.map_some]
      next notEscape same =>
        cases same
        exact (notEscape _ _ rfl rfl).elim
  | unit isUnit _ inductionHypothesis =>
      simp only [List.cons_append, stringRest?, isUnit, inductionHypothesis, Option.map_some]

theorem tokens?_string
    {pieces : List Piece}
    {chars : List Char}
    (isText : StringText pieces chars)
    (rest : List Char) :
    tokens? ('"' :: (chars ++ rest)) = (tokens? rest).map (.string pieces :: ·) := by
  have reads := stringRest?_of_text isText rest
  rw [tokens?, if_neg (by decide)]
  split
  next isPunctuation => cases isPunctuation
  next =>
    rw [if_pos rfl]
    split
    next noString => rw [reads] at noString; cases noString
    next found =>
      rw [reads] at found
      cases found
      rfl

theorem tokens?_word
    {char : Char}
    {others rest : List Char}
    {token : Token}
    (isLetter : char ∈ ['n', 't', 'f'])
    (isWord : word? (char :: others) = some (token, rest)) :
    tokens? (char :: others) = (tokens? rest).map (token :: ·) := by
  have isOther : ¬ isSpace char = true ∧ punctuation? char = none ∧ char ≠ '"' ∧
      ¬ isNumberChar char = true := by
    simp only [List.mem_cons, List.not_mem_nil, or_false] at isLetter
    rcases isLetter with rfl | rfl | rfl <;> decide
  obtain ⟨noSpace, noPunctuation, noQuote, noNumber⟩ := isOther
  rw [tokens?, if_neg noSpace]
  simp only [noPunctuation]
  rw [if_neg noQuote, dif_neg noNumber]
  split
  next noWord =>
    rw [isWord] at noWord
    cases noWord
  next found =>
    rw [isWord] at found
    cases found
    rfl

/-! ## Numbers -/

/-- No number goes on in these characters. -/
def EndsNumber (rest : List Char) : Prop := ∀ char ∈ rest.head?, isNumberChar char = false

theorem endsNumber_nil : EndsNumber [] := nofun

theorem endsNumber_cons
    (char : Char)
    (other : isNumberChar char = false)
    (rest : List Char) :
    EndsNumber (char :: rest) := by
  rintro _ ⟨rfl⟩
  exact other

theorem IsBlank.endsNumber_append
    {blank rest : List Char}
    (isBlank : IsBlank blank)
    (ends : EndsNumber rest) :
    EndsNumber (blank ++ rest) := by
  cases blank with
  | nil => exact ends
  | cons char blank =>
      have isChar := isBlank char List.mem_cons_self
      refine endsNumber_cons char ?_ _
      simp only [List.mem_cons, List.not_mem_nil, or_false] at isChar
      rcases isChar with rfl | rfl | rfl | rfl <;> decide

/-- A character of a number begins no other token. -/
theorem of_isNumberChar {char : Char} (isNumberChar : isNumberChar char = true) :
    ¬ isSpace char = true ∧ punctuation? char = none ∧ char ≠ '"' := by
  refine ⟨?_, ?_, ?_⟩
  · intro space
    simp only [isSpace, Bool.or_eq_true, beq_iff_eq] at space
    rcases space with ((rfl | rfl) | rfl) | rfl <;> cases isNumberChar
  · unfold punctuation?
    split <;> first | rfl | cases isNumberChar
  · rintro rfl
    cases isNumberChar

/-- What a run of characters begins with stays together. -/
theorem takeWhile_append_of_stop
    {α : Type}
    {test : α → Bool}
    {run rest : List α}
    (passes : ∀ member ∈ run, test member = true)
    (stops : ∀ member ∈ rest.head?, test member = false) :
    (run ++ rest).takeWhile test = run ∧ (run ++ rest).dropWhile test = rest := by
  rw [List.takeWhile_append_of_pos passes, List.dropWhile_append_of_pos passes]
  cases rest with
  | nil => simp
  | cons member rest =>
      have stopsHere := stops member rfl
      simp [stopsHere]

theorem isDigits_iff (chars : List Char) : isDigits chars = true ↔ Text.IsDigits chars := by
  rw [isDigits, Bool.and_eq_true, Bool.not_eq_true', List.isEmpty_eq_false_iff, List.all_eq_true]
  exact ⟨fun digits => ⟨digits.1, digits.2⟩, fun digits => ⟨digits.ne_nil, digits.isDigit⟩⟩

theorem isWhole_of_text {chars : List Char} (isText : WholeText chars) : isWhole chars = true := by
  cases isText with
  | zero => rfl
  | positive digits notZero =>
      unfold isWhole
      split
      · rfl
      · exact absurd rfl notZero
      · exact (isDigits_iff _).mpr digits

theorem isExponent_of_text
    {chars : List Char}
    (isText : ExponentText chars) :
    isExponent chars = true := by
  have isExponentLetter : ∀ letter ∈ ['e', 'E'], (letter == 'e' || letter == 'E') = true := by
    decide
  have noSign : ∀ digits, Text.IsDigits digits →
      ∀ sign ∈ digits.head?, sign ≠ '+' ∧ sign ≠ '-' := by
    intro digits isDigits sign isHead
    have isDigit := isDigits.head sign isHead
    constructor <;> rintro rfl <;> cases isDigit
  cases isText with
  | none => rfl
  | @plain letter digits isLetter isDigits =>
      unfold isExponent
      split
      next none => cases none
      next same =>
        cases same
        exact absurd rfl (noSign _ isDigits '+' rfl).1
      next same =>
        cases same
        exact absurd rfl (noSign _ isDigits '-' rfl).2
      next same =>
        cases same
        rw [isExponentLetter _ isLetter, (isDigits_iff _).mpr isDigits, Bool.and_self]
  | signed isLetter isSign digits =>
      simp only [List.mem_cons, List.not_mem_nil, or_false] at isSign
      rcases isSign with rfl | rfl <;>
        rw [isExponent, isExponentLetter _ isLetter, (isDigits_iff _).mpr digits, Bool.and_self]

theorem ExponentText.stops
    {chars : List Char}
    (isText : ExponentText chars) :
    ∀ char ∈ chars.head?, char.isDigit = false ∧ char ≠ '.' := by
  cases isText with
  | none => exact nofun
  | plain isLetter | signed isLetter =>
      rintro _ ⟨rfl⟩
      simp only [List.mem_cons, List.not_mem_nil, or_false] at isLetter
      rcases isLetter with rfl | rfl <;> decide

theorem isFraction_of_text
    {fraction exponent : List Char}
    (isFractionText : FractionText fraction)
    (isExponentText : ExponentText exponent) :
    isFraction (fraction ++ exponent) = true := by
  cases isFractionText with
  | none =>
      unfold isFraction
      split
      next same => exact absurd rfl (isExponentText.stops '.' (congrArg List.head? same)).2
      next => exact isExponent_of_text isExponentText
  | point digits =>
      obtain ⟨taken, dropped⟩ := takeWhile_append_of_stop digits.isDigit
        fun char isHead => (isExponentText.stops char isHead).1
      rw [List.cons_append, isFraction, taken, dropped, Bool.and_eq_true]
      exact ⟨(isDigits_iff _).mpr digits, isExponent_of_text isExponentText⟩

theorem WholeText.head
    {whole : List Char}
    (isText : WholeText whole)
    (rest : List Char) :
    ∀ char ∈ (whole ++ rest).head?, char.isDigit = true := by
  intro char isHead
  cases isText with
  | zero =>
      obtain rfl := Option.some.inj isHead
      rfl
  | positive isDigits notZero =>
      rw [List.head?_append_of_ne_nil _ isDigits.ne_nil] at isHead
      exact isDigits.head char isHead

theorem WholeText.isDigit
    {whole : List Char}
    (isText : WholeText whole) :
    ∀ char ∈ whole, char.isDigit = true := by
  cases isText with
  | zero => simp
  | positive isDigits => exact isDigits.isDigit

theorem isUnsigned_of_text
    {whole fraction exponent : List Char}
    (isWholeText : WholeText whole)
    (isFractionText : FractionText fraction)
    (isExponentText : ExponentText exponent) :
    isUnsigned (whole ++ (fraction ++ exponent)) = true := by
  have stops : ∀ char ∈ (fraction ++ exponent).head?, char.isDigit = false := by
    intro char isHead
    cases isFractionText with
    | none => exact (isExponentText.stops char isHead).1
    | point =>
        obtain rfl := Option.some.inj isHead
        rfl
  obtain ⟨taken, dropped⟩ := takeWhile_append_of_stop isWholeText.isDigit stops
  rw [isUnsigned, taken, dropped, isWhole_of_text isWholeText,
    isFraction_of_text isFractionText isExponentText, Bool.and_self]

theorem NumberText.isNumber {chars : List Char} (isText : NumberText chars) :
    Json.isNumber chars = true := by
  cases isText with
  | unsigned isWhole isFraction isExponent =>
      unfold Json.isNumber
      split
      next same =>
        have isDigit := isWhole.head _ '-' (congrArg List.head? same)
        cases isDigit
      next => exact isUnsigned_of_text isWhole isFraction isExponent
  | negative isWhole isFraction isExponent =>
      exact isUnsigned_of_text isWhole isFraction isExponent

theorem isNumberChar_of_isDigit {char : Char} (isDigit : char.isDigit = true) :
    isNumberChar char = true := by
  rw [isNumberChar, isDigit]
  rfl

theorem isNumberChar_of_isDigits {digits : List Char} (isDigits : Text.IsDigits digits) :
    ∀ char ∈ digits, isNumberChar char = true :=
  fun char present => isNumberChar_of_isDigit (isDigits.isDigit char present)

theorem ExponentText.isNumberChar {chars : List Char} (isText : ExponentText chars) :
    ∀ char ∈ chars, Json.isNumberChar char = true := by
  have isExponentLetter : ∀ letter ∈ ['e', 'E'], Json.isNumberChar letter = true := by decide
  have isSignChar : ∀ sign ∈ ['+', '-'], Json.isNumberChar sign = true := by decide
  cases isText with
  | none => exact nofun
  | plain isLetter isDigits =>
      exact List.forall_mem_cons.mpr
        ⟨isExponentLetter _ isLetter, isNumberChar_of_isDigits isDigits⟩
  | signed isLetter isSign isDigits =>
      exact List.forall_mem_cons.mpr ⟨isExponentLetter _ isLetter,
        List.forall_mem_cons.mpr ⟨isSignChar _ isSign, isNumberChar_of_isDigits isDigits⟩⟩

theorem FractionText.isNumberChar {chars : List Char} (isText : FractionText chars) :
    ∀ char ∈ chars, Json.isNumberChar char = true := by
  cases isText with
  | none => exact nofun
  | point isDigits => exact List.forall_mem_cons.mpr ⟨rfl, isNumberChar_of_isDigits isDigits⟩

theorem NumberText.isNumberChar {chars : List Char} (isText : NumberText chars) :
    ∀ char ∈ chars, Json.isNumberChar char = true := by
  have isUnsigned : ∀ {whole fraction exponent : List Char}, WholeText whole →
      FractionText fraction → ExponentText exponent →
        ∀ char ∈ whole ++ (fraction ++ exponent), Json.isNumberChar char = true := by
    intro whole fraction exponent isWhole isFraction isExponent char present
    rw [List.mem_append, List.mem_append] at present
    rcases present with inWhole | inFraction | inExponent
    · exact isNumberChar_of_isDigit (isWhole.isDigit char inWhole)
    · exact isFraction.isNumberChar char inFraction
    · exact isExponent.isNumberChar char inExponent
  cases isText with
  | unsigned isWhole isFraction isExponent => exact isUnsigned isWhole isFraction isExponent
  | negative isWhole isFraction isExponent =>
      exact List.forall_mem_cons.mpr ⟨rfl, isUnsigned isWhole isFraction isExponent⟩

theorem tokens?_number
    {chars rest : List Char}
    (isText : NumberText chars)
    (ends : EndsNumber rest) :
    tokens? (chars ++ rest) = (tokens? rest).map (.number chars :: ·) := by
  obtain ⟨taken, dropped⟩ := takeWhile_append_of_stop isText.isNumberChar ends
  have isNumber := isText.isNumber
  have numberChars := isText.isNumberChar
  cases chars with
  | nil => cases isNumber
  | cons char others =>
      have numberChar := numberChars char List.mem_cons_self
      obtain ⟨noSpace, noPunctuation, noQuote⟩ := of_isNumberChar numberChar
      rw [List.cons_append] at taken dropped ⊢
      rw [tokens?, if_neg noSpace]
      simp only [noPunctuation]
      rw [if_neg noQuote, dif_pos numberChar, taken, dropped, if_pos isNumber]

/-! ## From one stage to the next -/

namespace Stage

/-- The value that is read if these characters follow. -/
def finish? (stage : Stage) (chars : List Char) : Option Json :=
  (tokens? chars).bind fun tokens => (tokens.foldlM next? stage).bind result?

theorem finish?_token
    {chars rest : List Char}
    {token : Token}
    (begins : tokens? chars = (tokens? rest).map (token :: ·))
    (stage : Stage) :
    stage.finish? chars = (stage.next? token).bind fun reached => reached.finish? rest := by
  rw [finish?, begins]
  unfold finish?
  cases tokens? rest with
  | none =>
      cases stage.next? token with
      | none => rfl
      | some reached => rfl
  | some tokens =>
      rw [Option.map_some, Option.bind_some, List.foldlM_cons]
      exact Option.bind_assoc _ _ _

theorem finish?_blank
    {blank : List Char}
    (isBlank : IsBlank blank)
    (rest : List Char)
    (stage : Stage) :
    stage.finish? (blank ++ rest) = stage.finish? rest := by
  rw [finish?, tokens?_blank isBlank, finish?]

theorem finish?_punctuation
    (char : Char)
    {token : Token}
    (isPunctuation : punctuation? char = some token)
    (rest : List Char)
    (stage : Stage) :
    stage.finish? (char :: rest) =
      (stage.next? token).bind fun reached => reached.finish? rest :=
  stage.finish?_token (tokens?_punctuation isPunctuation rest)

theorem finish?_string
    {pieces : List Piece}
    {chars : List Char}
    (isText : StringText pieces chars)
    (rest : List Char)
    (stage : Stage) :
    stage.finish? ('"' :: (chars ++ rest)) =
      (stage.next? (.string pieces)).bind fun reached => reached.finish? rest :=
  stage.finish?_token (tokens?_string isText rest)

/-- A stage at which a value may begin inside of these containers. -/
inductive Expects : Stage → List Open → Prop where
  /-- A value has to come. -/
  | value (around : List Open) : Expects (beforeValue around) around
  /-- An array may also end without items. -/
  | item (around : List Open) : Expects (firstItem around) (.array [] :: around)

/-- A token that begins a value leads there from every such stage. -/
theorem Expects.finish?_token
    {stage reached : Stage}
    {around : List Open}
    (expects : stage.Expects around)
    {chars rest : List Char}
    {token : Token}
    (begins : tokens? chars = (tokens? rest).map (token :: ·))
    (leads : begin? around token = some reached) :
    stage.finish? chars = reached.finish? rest := by
  have next_eq : stage.next? token = some reached := by
    cases expects with
    | value => exact leads
    | item =>
        cases token with
        | closeArray => cases leads
        | _ => exact leads
  rw [stage.finish?_token begins, next_eq, Option.bind_some]

theorem Expects.finish?_openArray
    {stage : Stage}
    {around : List Open}
    (expects : stage.Expects around)
    (rest : List Char) :
    stage.finish? ('[' :: rest) = (firstItem around).finish? rest :=
  expects.finish?_token (tokens?_punctuation rfl rest) rfl

theorem Expects.finish?_openObject
    {stage : Stage}
    {around : List Open}
    (expects : stage.Expects around)
    (rest : List Char) :
    stage.finish? ('\x7b' :: rest) = (firstKey around).finish? rest :=
  expects.finish?_token (tokens?_punctuation rfl rest) rfl

/-- A stage at which a key may come inside of these containers, after these members. -/
inductive ExpectsKey : Stage → List (List Piece × Json) → List Open → Prop where
  /-- An object may also end without members. -/
  | first (around : List Open) : ExpectsKey (firstKey around) [] around
  /-- A key has to come. -/
  | key (members : List (List Piece × Json)) (around : List Open) :
      ExpectsKey (beforeKey members around) members around

theorem ExpectsKey.next?
    {stage : Stage}
    {members : List (List Piece × Json)}
    {around : List Open}
    (expects : stage.ExpectsKey members around)
    (key : List Piece) :
    stage.next? (.string key) = some (beforeColon members key around) := by
  cases expects <;> rfl

end Stage

/-! ## Whole values -/

open Stage

/-- A member is read from its key to the blank after its value; `valueReads` is what is known of
the value itself. -/
theorem finish?_member
    {stage : Stage}
    {held : List (List Piece × Json)}
    {around : List Open}
    (expects : stage.ExpectsKey held around)
    {key : List Piece}
    {value : Json}
    {before keyChars between following chars rest : List Char}
    (beforeBlank : IsBlank before)
    (isKey : StringText key keyChars)
    (betweenBlank : IsBlank between)
    (followingBlank : IsBlank following)
    (valueReads : ∀ inside : List Open,
      (beforeValue inside).finish? (chars ++ rest) = (fill value inside).finish? rest) :
    stage.finish?
        (before ++ '"' :: (keyChars ++ (between ++ ':' :: (following ++ (chars ++ rest))))) =
      (afterMember ((key, value) :: held) around).finish? rest := by
  rw [finish?_blank beforeBlank, finish?_string isKey, expects.next? key, Option.bind_some,
    finish?_blank betweenBlank, finish?_punctuation ':' rfl]
  change (beforeValue (.object held key :: around)).finish? _ = _
  rw [finish?_blank followingBlank]
  exact valueReads _

mutual

/-- The text of a value leads to where the value leads. -/
theorem finish?_value
    {value : Json}
    {chars rest : List Char}
    (isText : ValueText value chars)
    {stage : Stage}
    {around : List Open}
    (expects : stage.Expects around)
    (ends : EndsNumber rest) :
    stage.finish? (chars ++ rest) = (fill value around).finish? rest := by
  cases isText with
  | null | true | false =>
      refine expects.finish?_token (tokens?_word ?_ rfl) rfl
      decide
  | number isNumber => exact expects.finish?_token (tokens?_number isNumber ends) rfl
  | string isString => exact expects.finish?_token (tokens?_string isString rest) rfl
  | emptyArray isBlank =>
      rw [List.cons_append, expects.finish?_openArray, List.append_assoc, finish?_blank isBlank,
        List.singleton_append, finish?_punctuation ']' rfl]
      rfl
  | array isItems =>
      rw [List.cons_append, expects.finish?_openArray, List.append_assoc, List.singleton_append]
      exact finish?_items isItems (.item around) rest
  | emptyObject isBlank =>
      rw [List.cons_append, expects.finish?_openObject, List.append_assoc, finish?_blank isBlank,
        List.singleton_append, finish?_punctuation '\x7d' rfl]
      rfl
  | object isMembers =>
      rw [List.cons_append, expects.finish?_openObject, List.append_assoc, List.singleton_append]
      exact finish?_members isMembers (.first around) rest

/-- The items of an array are read after those that it holds. -/
theorem finish?_items
    {items : List Json}
    {inside : List Char}
    (isText : ItemsText items inside)
    {stage : Stage}
    {held : List Json}
    {around : List Open}
    (expects : stage.Expects (.array held :: around))
    (rest : List Char) :
    stage.finish? (inside ++ ']' :: rest) =
      (fill (.array (held.reverse ++ items)) around).finish? rest := by
  cases isText with
  | @last item _ _ _ beforeBlank isValue afterBlank =>
      have ends := afterBlank.endsNumber_append (endsNumber_cons ']' rfl rest)
      rw [List.append_assoc, List.append_assoc, finish?_blank beforeBlank,
        finish?_value isValue expects ends, finish?_blank afterBlank,
        finish?_punctuation ']' rfl, ← List.reverse_cons]
      rfl
  | @more item items _ _ _ others beforeBlank isValue afterBlank isItems =>
      have ends := afterBlank.endsNumber_append
        (endsNumber_cons ',' rfl (others ++ ']' :: rest))
      rw [List.append_assoc, List.append_assoc, List.append_assoc, List.cons_append,
        finish?_blank beforeBlank, finish?_value isValue expects ends, finish?_blank afterBlank,
        finish?_punctuation ',' rfl]
      change (beforeValue (.array (item :: held) :: around)).finish? _ = _
      rw [finish?_items isItems (.value _) rest, List.reverse_cons, List.append_assoc,
        List.singleton_append]

/-- The members of an object are read after those that it holds. -/
theorem finish?_members
    {members : List (List Piece × Json)}
    {inside : List Char}
    (isText : MembersText members inside)
    {stage : Stage}
    {held : List (List Piece × Json)}
    {around : List Open}
    (expects : stage.ExpectsKey held around)
    (rest : List Char) :
    stage.finish? (inside ++ '\x7d' :: rest) =
      (fill (.object (held.reverse ++ members)) around).finish? rest := by
  cases isText with
  | @last key value _ _ _ _ _ after beforeBlank isKey betweenBlank followingBlank isValue
      afterBlank =>
      have ends := afterBlank.endsNumber_append (endsNumber_cons '\x7d' rfl rest)
      have member := finish?_member expects beforeBlank isKey betweenBlank followingBlank
        fun inside => finish?_value isValue (.value inside) ends
      simp only [List.append_assoc, List.cons_append]
      rw [member, finish?_blank afterBlank, finish?_punctuation '\x7d' rfl,
        ← List.reverse_cons]
      rfl
  | @more key value members _ _ _ _ _ after others beforeBlank isKey betweenBlank followingBlank
      isValue afterBlank isMembers =>
      have ends := afterBlank.endsNumber_append
        (endsNumber_cons ',' rfl (others ++ '\x7d' :: rest))
      have member := finish?_member expects beforeBlank isKey betweenBlank followingBlank
        fun inside => finish?_value isValue (.value inside) ends
      simp only [List.append_assoc, List.cons_append]
      rw [member, finish?_blank afterBlank, finish?_punctuation ',' rfl]
      change (beforeKey ((key, value) :: held) around).finish? _ = _
      rw [finish?_members isMembers (.key _ _) rest, List.reverse_cons, List.append_assoc,
        List.singleton_append]

end

/-- Every text of a value is read as this value. -/
theorem read?_of_isText
    {text : String}
    {value : Json}
    (isText : IsText text value) :
    read? text = some value := by
  obtain ⟨before, chars, after, beforeBlank, isValue, afterBlank, text_eq⟩ := isText
  have ends := afterBlank.endsNumber_append endsNumber_nil
  change (beforeValue []).finish? text.toList = some value
  rw [text_eq, finish?_blank beforeBlank, ← List.append_nil after,
    finish?_value isValue (.value []) ends, finish?_blank afterBlank, finish?, tokens?]
  rfl

end Json
end Agenda
