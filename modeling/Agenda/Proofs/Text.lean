import Agenda.Text.Blank
import Agenda.Text.Numeral
import Mathlib.Data.List.DropRight
import Mathlib.Data.List.TakeWhile

/-!
# Trimmed texts and the numbers of numerals

A text is trimmed to what stands between the blank characters at its ends.  A numeral stands for
the number of its digits in base ten, and it is read exactly if this number is below 2^64, however
many zeros lead the digits.
-/

namespace Agenda
namespace Text

/-- What is claimed of each character of a text is decided character by character, and not for all
the characters there are. -/
instance decidableForallMem (P : Char → Prop) [DecidablePred P] (chars : List Char) :
    Decidable (∀ char ∈ chars, P char) :=
  List.decidableBAll P chars

/-! ## Trimming -/

/-- A text consists of blank characters, the characters to which it is trimmed, and blank
characters again. -/
structure Trims (chars core : List Char) : Prop where
  /-- Nothing but blank characters is left out. -/
  exists_blanks : ∃ before after, chars = before ++ core ++ after ∧
    (∀ char ∈ before, isBlank char = true) ∧ ∀ char ∈ after, isBlank char = true
  /-- What is left does not begin with a blank character. -/
  head : ∀ char ∈ core.head?, isBlank char = false
  /-- It does not end with one either. -/
  last : ∀ char ∈ core.getLast?, isBlank char = false

private theorem dropWhile_isBlank_eq
    {blanks chars : List Char}
    (allBlank : ∀ char ∈ blanks, isBlank char = true)
    (head : ∀ char ∈ chars.head?, isBlank char = false) :
    (blanks ++ chars).dropWhile isBlank = chars := by
  rw [List.dropWhile_append_of_pos allBlank]
  cases chars with
  | nil => rfl
  | cons char rest =>
      have notBlank := head char rfl
      rw [List.dropWhile_cons_of_neg (by simp [notBlank])]

/-- Trimming leaves what no blank character begins or ends. -/
theorem trim_eq_iff (chars core : List Char) : trim chars = core ↔ Trims chars core := by
  constructor
  · rintro rfl
    let begun := chars.dropWhile isBlank
    have trim_eq : trim chars = begun.rdropWhile isBlank := rfl
    refine ⟨⟨chars.takeWhile isBlank, begun.rtakeWhile isBlank, ?_, ?_, ?_⟩, ?_, ?_⟩
    · rw [trim_eq, List.append_assoc, List.rdropWhile_append_rtakeWhile,
        List.takeWhile_append_dropWhile]
    · exact fun char => List.mem_takeWhile_imp
    · exact fun char => List.mem_rtakeWhile_imp
    · intro char isHead
      obtain ⟨dropped, begun_eq⟩ : trim chars <+: begun := List.rdropWhile_prefix isBlank begun
      have isFirst : begun.head? = some char := by
        rw [← begun_eq, List.head?_append, Option.mem_def.mp isHead, Option.some_or]
      have stops := List.head?_dropWhile_not isBlank chars
      rw [isFirst] at stops
      simpa using stops
    · rw [trim_eq]
      intro char isLast
      obtain ⟨notEmpty, rfl⟩ := List.mem_getLast?_eq_getLast isLast
      simpa using List.rdropWhile_last_not isBlank begun notEmpty
  · intro trims
    obtain ⟨before, after, rfl, beforeBlank, afterBlank⟩ := trims.exists_blanks
    have begun_eq : (before ++ core ++ after).dropWhile isBlank = core ++ after ∨ core = [] := by
      cases core with
      | nil => exact Or.inr rfl
      | cons first rest =>
          rw [List.append_assoc]
          exact Or.inl (dropWhile_isBlank_eq beforeBlank trims.head)
    rcases begun_eq with begun_eq | rfl
    · rw [trim, begun_eq, List.reverse_append, dropWhile_isBlank_eq, List.reverse_reverse]
      · simpa using afterBlank
      · simpa using trims.last
    · have allBlank : ∀ char ∈ before ++ [] ++ after, isBlank char = true := by
        intro char present
        simp only [List.append_nil, List.mem_append] at present
        exact present.elim (beforeBlank char) (afterBlank char)
      rw [trim, List.dropWhile_eq_nil_iff.mpr allBlank]
      rfl

/-! ## Numerals -/

/-- One or more ASCII digits. -/
structure IsDigits (chars : List Char) : Prop where
  /-- There is a digit. -/
  ne_nil : chars ≠ []
  /-- There is nothing else. -/
  isDigit : ∀ char ∈ chars, char.isDigit = true

theorem IsDigits.head
    {chars : List Char}
    (isDigits : IsDigits chars) :
    ∀ char ∈ chars.head?, char.isDigit = true :=
  fun char isHead => isDigits.isDigit char (List.mem_of_mem_head? isHead)

/-- Digits, which a plus sign may lead, stand for a number below 2^64. -/
inductive IsNumeral : List Char → UInt64 → Prop where
  /-- The digits alone. -/
  | plain {digits : List Char} {value : UInt64} :
      IsDigits digits → Nat.ofDigitChars 10 digits 0 = value.toNat → IsNumeral digits value
  /-- The digits after a plus sign. -/
  | signed {digits : List Char} {value : UInt64} :
      IsDigits digits → Nat.ofDigitChars 10 digits 0 = value.toNat →
        IsNumeral ('+' :: digits) value

/-- Further digits make no number smaller. -/
theorem le_ofDigitChars (before : Nat) (digits : List Char) :
    before ≤ Nat.ofDigitChars 10 digits before := by
  induction digits generalizing before with
  | nil => exact Nat.le_refl before
  | cons digit rest inductionHypothesis =>
      rw [Nat.ofDigitChars_cons]
      exact Nat.le_trans (by omega) (inductionHypothesis _)

/-- Digits are read up to the end, or up to the first character that makes it impossible. -/
theorem readDigits_eq_ok_iff
    {before : Nat}
    (fits : before < numeralBound)
    (chars : List Char)
    (value : Nat) :
    readDigits before chars = .ok value ↔
      (∀ char ∈ chars, char.isDigit = true) ∧ Nat.ofDigitChars 10 chars before = value ∧
        value < numeralBound := by
  induction chars generalizing before with
  | nil =>
      rw [readDigits, Nat.ofDigitChars_nil]
      constructor
      · rintro ⟨rfl⟩
        exact ⟨by simp, rfl, fits⟩
      · rintro ⟨-, rfl, -⟩
        rfl
  | cons char rest inductionHypothesis =>
      rw [readDigits, digitValue?, Nat.ofDigitChars_cons, List.forall_mem_cons, Nat.mul_comm 10]
      by_cases isDigit : char.isDigit = true
      · rw [if_pos isDigit]
        dsimp only
        split
        next stillFits => rw [inductionHypothesis stillFits, and_assoc, and_iff_right isDigit]
        next tooLarge =>
          refine iff_of_false nofun ?_
          rintro ⟨-, rfl, value_lt⟩
          have grown := le_ofDigitChars (before * 10 + (char.toNat - '0'.toNat)) rest
          exact tooLarge (Nat.lt_of_le_of_lt grown value_lt)
      · rw [if_neg isDigit]
        exact iff_of_false nofun fun read => isDigit read.1.1

private theorem map_readDigits_eq_ok_iff
    {digits : List Char}
    (ne_nil : digits ≠ [])
    (value : UInt64) :
    (readDigits 0 digits).map UInt64.ofNat = .ok value ↔
      IsDigits digits ∧ Nat.ofDigitChars 10 digits 0 = value.toNat := by
  have positive : 0 < numeralBound := by decide
  cases read : readDigits 0 digits with
  | error cause =>
      refine iff_of_false nofun ?_
      rintro ⟨isDigits, value_eq⟩
      have reads := (readDigits_eq_ok_iff positive digits value.toNat).mpr
        ⟨isDigits.isDigit, value_eq, value.toNat_lt⟩
      rw [read] at reads
      cases reads
  | ok number =>
      obtain ⟨allDigits, rfl, number_lt⟩ :=
        (readDigits_eq_ok_iff positive digits number).mp read
      rw [Except.map, Except.ok.injEq, ← UInt64.toNat_inj, UInt64.toNat_ofNat_of_lt' number_lt]
      exact ⟨fun same => ⟨⟨ne_nil, allDigits⟩, same⟩, fun read => read.2⟩

/-- Numerals and nothing else are read, and as the numbers that they stand for. -/
theorem readNumeral_eq_ok_iff (chars : List Char) (value : UInt64) :
    readNumeral chars = .ok value ↔ IsNumeral chars value := by
  have noSign : ∀ digits : List Char, ¬ IsDigits ('+' :: digits) := by
    intro digits isDigits
    exact absurd (isDigits.isDigit '+' List.mem_cons_self) (by decide)
  unfold readNumeral
  split
  next =>
    refine iff_of_false nofun ?_
    rintro (⟨isDigits, -⟩ | _)
    exact isDigits.ne_nil rfl
  next =>
    refine iff_of_false nofun ?_
    rintro (⟨isDigits, -⟩ | ⟨isDigits, -⟩)
    · exact noSign [] isDigits
    · exact isDigits.ne_nil rfl
  next digits notLone =>
    rw [map_readDigits_eq_ok_iff fun none => notLone none]
    constructor
    · rintro ⟨isDigits, value_eq⟩
      exact .signed isDigits value_eq
    · rintro (⟨isDigits, -⟩ | ⟨isDigits, value_eq⟩)
      · exact absurd isDigits (noSign digits)
      · exact ⟨isDigits, value_eq⟩
  next notEmpty _ noPlus =>
    rw [map_readDigits_eq_ok_iff notEmpty]
    constructor
    · rintro ⟨isDigits, value_eq⟩
      exact .plain isDigits value_eq
    · rintro (⟨isDigits, value_eq⟩ | _)
      · exact ⟨isDigits, value_eq⟩
      · exact absurd rfl (noPlus _)

theorem isBlank_of_isDigit {char : Char} (isDigit : char.isDigit = true) :
    isBlank char = false := by
  have bounds : 48 ≤ char.toNat ∧ char.toNat ≤ 57 := by
    simpa [Char.isDigit, UInt32.le_iff_toNat_le] using isDigit
  simp only [isBlank, blankRanges, List.any_cons, List.any_nil, Bool.or_eq_false_iff,
    Bool.and_eq_false_iff, decide_eq_false_iff_not, and_true]
  omega

/-- A numeral is what a text is trimmed to if the rest of the text is blank. -/
theorem IsNumeral.trims
    {core : List Char}
    {value : UInt64}
    (isNumeral : IsNumeral core value)
    {before after : List Char}
    (beforeBlank : ∀ char ∈ before, isBlank char = true)
    (afterBlank : ∀ char ∈ after, isBlank char = true) :
    Trims (before ++ core ++ after) core := by
  have last : ∀ {digits : List Char}, IsDigits digits →
      ∀ char ∈ digits.getLast?, isBlank char = false := fun isDigits char isLast =>
    isBlank_of_isDigit (isDigits.isDigit char (List.mem_of_getLast? isLast))
  refine ⟨⟨before, after, rfl, beforeBlank, afterBlank⟩, ?_, ?_⟩
  · cases isNumeral with
    | plain isDigits => exact fun char isHead => isBlank_of_isDigit (isDigits.head char isHead)
    | signed =>
        rintro _ ⟨rfl⟩
        decide
  · cases isNumeral with
    | plain isDigits => exact last isDigits
    | signed isDigits =>
        rw [List.getLast?_cons_of_ne_nil isDigits.ne_nil]
        exact last isDigits

/-! ## Writing numerals -/

theorem toList_numeral (value : UInt64) :
    (numeral value).toList = Nat.toDigits 10 value.toNat := by
  rw [numeral, Nat.toString_eq_repr, Nat.toList_repr]

theorem isDigits_numeral (value : UInt64) : IsDigits (numeral value).toList := by
  rw [toList_numeral]
  exact ⟨Nat.toDigits_ne_nil, fun _ => Nat.isDigit_of_mem_toDigits (by decide) (by decide)⟩

theorem ofDigitChars_numeral (value : UInt64) :
    Nat.ofDigitChars 10 (numeral value).toList 0 = value.toNat := by
  rw [toList_numeral, Nat.ofDigitChars_ten_toDigits]

/-- The digits of a positive number do not begin with zero. -/
theorem head_toDigits_of_pos
    {number : Nat}
    (positive : 0 < number) :
    (Nat.toDigits 10 number).head? ≠ some '0' := by
  induction number using Nat.strongRecOn with
  | _ number inductionHypothesis =>
      rw [Nat.toDigits_eq_if (by decide)]
      split
      next small =>
        intro isZero
        have code := Nat.toNat_digitChar_of_lt_ten small
        rw [Option.some.inj isZero, show '0'.toNat = 48 from rfl] at code
        omega
      next large =>
        rw [List.head?_append_of_ne_nil _ Nat.toDigits_ne_nil]
        exact inductionHypothesis (number / 10) (by omega) (by omega)

/-- Zeros in front of a numeral, and a plus sign in front of them, change nothing. -/
theorem isNumeral_padded
    {sign : List Char}
    (isSign : sign ∈ [[], ['+']])
    (zeros : Nat)
    (value : UInt64) :
    IsNumeral (sign ++ (List.replicate zeros '0' ++ (numeral value).toList)) value := by
  have isDigits : IsDigits (List.replicate zeros '0' ++ (numeral value).toList) := by
    refine ⟨List.append_ne_nil_of_right_ne_nil _ (isDigits_numeral value).ne_nil, ?_⟩
    intro char present
    rcases List.mem_append.mp present with isZero | inNumeral
    · rw [List.eq_of_mem_replicate isZero]
      rfl
    · exact (isDigits_numeral value).isDigit char inNumeral
  have value_eq : Nat.ofDigitChars 10 (List.replicate zeros '0' ++ (numeral value).toList) 0 =
      value.toNat := by
    rw [Nat.ofDigitChars_append, Nat.ofDigitChars_replicate_zero, Nat.mul_zero,
      ofDigitChars_numeral]
  simp only [List.mem_cons, List.not_mem_nil, or_false] at isSign
  rcases isSign with rfl | rfl
  · exact .plain isDigits value_eq
  · exact .signed isDigits value_eq

end Text
end Agenda
