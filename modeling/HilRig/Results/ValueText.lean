import HilRig.Foundations.JsonText
import HilRig.Models.Numbers
import HilRig.Results.JsonEncoding
import Mathlib.Tactic.FieldSimp
import Mathlib.Tactic.Positivity

/-!
# The JSON texts of values

`json.dumps` writes an integer by `str`, a float by `repr`, and the constants of Python by their
JSON names; a float that is not finite is `NaN` or an infinity. `readScalar` is what `json.loads`
makes of such a text: a number with a point or an exponent is a float. A float that `str` prints is
read back as the decimal that it prints (`readDecimal_floatText`), so every value with a text is
read back as itself, whatever the layout of its text (`loads_dumpsText`).
-/

set_option autoImplicit false
set_option relaxedAutoImplicit false

namespace HilRig.Results

open HilRig.Models HilRig.Foundations

/-! ### The parts of a float's text -/

/-- Digits without the zeros they end with. -/
def stripZeros (digits : List Char) : List Char :=
  (digits.reverse.dropWhile fun digit ↦ digit = '0').reverse

/-- The text of digits of which some stand before the decimal point. -/
def magnitudeText (digits : List Char) (point : ℤ) : List Char :=
  if point ≤ -4 ∨ 16 < point then
    let exponent := toString (point - 1).natAbs
    digits.take 1 ++ (if digits.length = 1 then [] else '.' :: digits.drop 1) ++
      ['e', if point ≤ 0 then '-' else '+'] ++
        List.replicate (2 - exponent.length) '0' ++ exponent.toList
  else if point ≤ 0 then
    "0.".toList ++ List.replicate (-point).toNat '0' ++ digits
  else if digits.length ≤ point then
    digits ++ List.replicate (point - digits.length).toNat '0' ++ ".0".toList
  else digits.take point.toNat ++ '.' :: digits.drop point.toNat

/-- The decimal places of a value. -/
def decimalPlaces (value : ℚ) : ℕ :=
  ((List.range 400).find? fun places ↦ (value * 10 ^ places).den = 1).getD 0

/-- The digits of a value without its point. -/
def decimalDigits (value : ℚ) : List Char :=
  Nat.toDigits 10 (value * 10 ^ decimalPlaces value).num.natAbs

/-- The text of a value without its sign. -/
def unsignedText (value : ℚ) : List Char :=
  if (value * 10 ^ decimalPlaces value).num.natAbs = 0 then "0.0".toList
  else magnitudeText (stripZeros (decimalDigits value))
    ((decimalDigits value).length - decimalPlaces value)

theorem floatText_eq (value : ℚ) : floatText value =
    String.ofList (if value < 0 then '-' :: unsignedText value else unsignedText value) := by
  have hdigits : (toString (value * 10 ^ decimalPlaces value).num.natAbs).toList =
      decimalDigits value := Nat.toList_repr
  unfold unsignedText magnitudeText stripZeros
  rw [← hdigits, String.length_toList]
  rfl

/-! ### Reading a decimal -/

/-- The exponent of a number, with the letter in front of it. -/
def readExponent : List Char → Option ℤ
  | [] => some 0
  | [_] => none
  | _ :: sign :: digits =>
    if sign = '-' then (readNumeral 10 digits).map fun number : ℕ ↦ -(number : ℤ)
    else if sign = '+' then (readNumeral 10 digits).map fun number : ℕ ↦ (number : ℤ)
    else (readNumeral 10 (sign :: digits)).map fun number : ℕ ↦ (number : ℤ)

/-- A decimal without a sign. -/
def readMagnitude (text : List Char) : Option ℚ := do
  let mantissa := text.takeWhile fun character ↦ character ≠ 'e'
  let fraction := (mantissa.dropWhile fun character ↦ character ≠ '.').tail
  let number ← readNumeral 10 ((mantissa.takeWhile fun character ↦ character ≠ '.') ++ fraction)
  let exponent ← readExponent (text.dropWhile fun character ↦ character ≠ 'e')
  return (number : ℚ) * 10 ^ (exponent - fraction.length)

/-- A decimal. -/
def readDecimal (text : List Char) : Option ℚ :=
  if text.head? = some '-' then (readMagnitude text.tail).map fun value ↦ -value
  else readMagnitude text

section Reading

variable {whole pointed suffix digits : List Char} {number : ℕ} {point : ℤ}

/-- A mantissa is cut at its point. -/
theorem cut_mantissa (hwhole : ∀ character ∈ whole, character ≠ '.')
    (hpointed : ∀ character ∈ pointed.head?, character = '.') :
    ((whole ++ pointed).takeWhile fun character ↦ character ≠ '.') = whole ∧
      ((whole ++ pointed).dropWhile fun character ↦ character ≠ '.') = pointed := by
  have hall : ∀ character ∈ whole, decide (character ≠ '.') = true := fun character hcharacter ↦
    decide_eq_true (hwhole character hcharacter)
  rw [List.takeWhile_append_of_pos hall, List.dropWhile_append_of_pos hall]
  cases pointed with
  | nil => exact ⟨List.append_nil whole, rfl⟩
  | cons character pointed =>
    obtain rfl := hpointed character rfl
    exact ⟨List.append_nil whole, rfl⟩

theorem readMagnitude_eq (hwhole : ∀ character ∈ whole, character ≠ '.')
    (hpointed : ∀ character ∈ pointed.head?, character = '.')
    (hmantissa : ∀ character ∈ whole ++ pointed, character ≠ 'e')
    (hsuffix : ∀ character ∈ suffix.head?, character = 'e') :
    readMagnitude (whole ++ pointed ++ suffix) = (readNumeral 10 (whole ++ pointed.tail)).bind
      fun number ↦ (readExponent suffix).bind fun exponent ↦
        some ((number : ℚ) * 10 ^ (exponent - pointed.tail.length)) := by
  have hall : ∀ character ∈ whole ++ pointed, decide (character ≠ 'e') = true :=
    fun character hcharacter ↦ decide_eq_true (hmantissa character hcharacter)
  have hcut : ((whole ++ pointed ++ suffix).takeWhile fun character ↦ character ≠ 'e') =
      whole ++ pointed ∧
      ((whole ++ pointed ++ suffix).dropWhile fun character ↦ character ≠ 'e') = suffix := by
    rw [List.takeWhile_append_of_pos hall, List.dropWhile_append_of_pos hall]
    cases suffix with
    | nil => exact ⟨List.append_nil _, rfl⟩
    | cons character suffix =>
      obtain rfl := hsuffix character rfl
      exact ⟨List.append_nil _, rfl⟩
  unfold readMagnitude
  dsimp only
  rw [hcut.1, hcut.2, (cut_mantissa hwhole hpointed).1, (cut_mantissa hwhole hpointed).2]
  rfl

theorem readExponent_signed :
    readExponent ('e' :: (if point ≤ 0 then '-' else '+') ::
      padded 2 (Nat.toDigits 10 (point - 1).natAbs)) = some (point - 1) := by
  have hdigits := @readNumeral_padded 10 (by decide) (by decide) 2 (point - 1).natAbs
  by_cases hnegative : point ≤ 0
  · rw [if_pos hnegative, readExponent, if_pos rfl, hdigits, Option.map_some]
    exact congrArg some (by omega)
  · rw [if_neg hnegative, readExponent, if_neg (by decide), if_pos rfl, hdigits, Option.map_some]
    exact congrArg some (by omega)

/-- A scientific text has one digit in front of its point. -/
theorem readMagnitude_scientific (hdigits : digits ≠ [])
    (hdecimal : ∀ digit ∈ digits, digit ≠ '.' ∧ digit ≠ 'e')
    (hnumber : digitsFrom 10 0 digits = some number) :
    readMagnitude (digits.take 1 ++ (if digits.length = 1 then [] else '.' :: digits.drop 1) ++
      'e' :: (if point ≤ 0 then '-' else '+') ::
        padded 2 (Nat.toDigits 10 (point - 1).natAbs)) =
      some ((number : ℚ) * 10 ^ (point - digits.length)) := by
  obtain ⟨first, rest, rfl⟩ := List.exists_cons_of_ne_nil hdigits
  have htail : (if (first :: rest).length = 1 then [] else '.' :: (first :: rest).drop 1).tail =
      rest := by
    by_cases hsingle : (first :: rest).length = 1
    · rw [if_pos hsingle, List.eq_nil_of_length_eq_zero (Nat.succ.inj hsingle)]
      rfl
    · rw [if_neg hsingle]
      rfl
  have hpointed : ∀ character ∈ if (first :: rest).length = 1 then []
      else '.' :: (first :: rest).drop 1, character = '.' ∨ character ∈ rest := by
    split_ifs
    · exact fun character hcharacter ↦ absurd hcharacter List.not_mem_nil
    · exact fun character hcharacter ↦ List.mem_cons.1 hcharacter
  have hmantissa : ∀ character ∈ (first :: rest).take 1 ++ (if (first :: rest).length = 1 then []
      else '.' :: (first :: rest).drop 1), character ≠ 'e' := by
    intro character hcharacter
    rcases List.mem_append.1 hcharacter with hcharacter | hcharacter
    · exact (hdecimal character (List.mem_of_mem_take hcharacter)).2
    · rcases hpointed character hcharacter with rfl | hcharacter
      · decide
      · exact (hdecimal character (List.mem_cons_of_mem _ hcharacter)).2
  rw [readMagnitude_eq (fun character hcharacter ↦
    (hdecimal character (List.mem_of_mem_take hcharacter)).1) ?_ hmantissa
      (fun character hcharacter ↦ (Option.mem_some.1 hcharacter).symm), htail,
    readExponent_signed]
  · have hread : readNumeral 10 ((first :: rest).take 1 ++ rest) = some number :=
      (if_neg (List.cons_ne_nil _ _)).trans hnumber
    rw [hread, Option.bind_some, Option.bind_some, List.length_cons]
    congr 3
    push_cast
    ring
  · split_ifs
    · exact fun character hcharacter ↦ absurd hcharacter (Option.not_mem_none _)
    · exact fun character hcharacter ↦ (Option.mem_some.1 hcharacter).symm

/-- A positional text has digits on both sides of its point. -/
theorem readMagnitude_positional {fraction : List Char} (hwhole : whole ≠ [])
    (hdecimal : ∀ digit ∈ whole ++ fraction, digit ≠ '.' ∧ digit ≠ 'e')
    (hnumber : digitsFrom 10 0 (whole ++ fraction) = some number) :
    readMagnitude (whole ++ '.' :: fraction) =
      some ((number : ℚ) * 10 ^ (-fraction.length : ℤ)) := by
  have hmantissa : ∀ character ∈ whole ++ '.' :: fraction, character ≠ 'e' := by
    intro character hcharacter
    rcases List.mem_append.1 hcharacter with hcharacter | hcharacter
    · exact (hdecimal character (List.mem_append_left _ hcharacter)).2
    · rcases List.mem_cons.1 hcharacter with rfl | hcharacter
      · decide
      · exact (hdecimal character (List.mem_append_right _ hcharacter)).2
  have hread := @readMagnitude_eq whole ('.' :: fraction) [] (fun character hcharacter ↦
    (hdecimal character (List.mem_append_left _ hcharacter)).1)
    (fun character hcharacter ↦ (Option.mem_some.1 hcharacter).symm) hmantissa
    fun character hcharacter ↦ absurd hcharacter (Option.not_mem_none _)
  have hdigits : readNumeral 10 (whole ++ fraction) = some number :=
    (if_neg (List.append_ne_nil_of_left_ne_nil hwhole _)).trans hnumber
  rw [List.append_nil] at hread
  rw [hread, List.tail_cons, hdigits, Option.bind_some, readExponent, Option.bind_some, zero_sub]

theorem decimal_replicate (count : ℕ) :
    ∀ digit ∈ List.replicate count '0', digit ≠ '.' ∧ digit ≠ 'e' := by
  intro digit hdigit
  rw [List.eq_of_mem_replicate hdigit]
  decide

section Positions

variable (hdigits : digits ≠ []) (hdecimal : ∀ digit ∈ digits, digit ≠ '.' ∧ digit ≠ 'e')
  (hnumber : digitsFrom 10 0 digits = some number)

include hdecimal hnumber

/-- All digits stand behind the decimal point. -/
theorem readMagnitude_below (hsmall : point ≤ 0) :
    readMagnitude ("0.".toList ++ List.replicate (-point).toNat '0' ++ digits) =
      some ((number : ℚ) * 10 ^ (point - digits.length)) := by
  have hfraction : digitsFrom 10 0 (['0'] ++ (List.replicate (-point).toNat '0' ++ digits)) =
      some number := by
    rw [← List.append_assoc, digitsFrom_append, List.singleton_append, ← List.replicate_succ,
      digitsFrom_zeros (by decide) (by decide), Nat.zero_mul, Option.bind_some, hnumber]
  have hread := readMagnitude_positional (List.cons_ne_nil '0' []) (fun digit hdigit ↦ ?_)
    hfraction
  · rw [List.append_assoc]
    refine hread.trans ?_
    rw [List.length_append, List.length_replicate]
    congr 3
    push_cast
    omega
  · rcases List.mem_append.1 hdigit with hdigit | hdigit
    · exact decimal_replicate 1 digit hdigit
    · rcases List.mem_append.1 hdigit with hdigit | hdigit
      · exact decimal_replicate _ digit hdigit
      · exact hdecimal digit hdigit

include hdigits

/-- All digits stand before the decimal point. -/
theorem readMagnitude_above (hlarge : digits.length ≤ point) :
    readMagnitude (digits ++ List.replicate (point - digits.length).toNat '0' ++ ".0".toList) =
      some ((number : ℚ) * 10 ^ (point - digits.length)) := by
  have hwhole : digitsFrom 10 0 (digits ++ List.replicate (point - digits.length).toNat '0' ++
      ['0']) = some (number * 10 ^ ((point - digits.length).toNat + 1)) := by
    rw [List.append_assoc, ← List.replicate_succ', digitsFrom_append, hnumber, Option.bind_some,
      digitsFrom_zeros (by decide) (by decide)]
  have hread := readMagnitude_positional
    (List.append_ne_nil_of_left_ne_nil hdigits _) (fun digit hdigit ↦ ?_) hwhole
  · refine hread.trans (congrArg some ?_)
    obtain ⟨count, hcount⟩ := Int.eq_ofNat_of_zero_le (sub_nonneg.2 hlarge)
    rw [hcount, Int.toNat_natCast, List.length_singleton]
    push_cast
    rw [zpow_neg, zpow_one, zpow_natCast, pow_succ]
    field_simp
  · rcases List.mem_append.1 hdigit with hdigit | hdigit
    · rcases List.mem_append.1 hdigit with hdigit | hdigit
      · exact hdecimal digit hdigit
      · exact decimal_replicate _ digit hdigit
    · exact decimal_replicate 1 digit hdigit

/-- The decimal point stands between digits. -/
theorem readMagnitude_between (hsmall : ¬point ≤ 0) (hlarge : ¬digits.length ≤ point) :
    readMagnitude (digits.take point.toNat ++ '.' :: digits.drop point.toNat) =
      some ((number : ℚ) * 10 ^ (point - digits.length)) := by
  have hcut : digitsFrom 10 0 (digits.take point.toNat ++ digits.drop point.toNat) =
      some number := by
    rw [List.take_append_drop, hnumber]
  have hwhole : digits.take point.toNat ≠ [] := by
    rw [Ne, List.take_eq_nil_iff]
    rintro (hzero | hnil)
    · omega
    · exact hdigits hnil
  have hread := readMagnitude_positional hwhole (fun digit hdigit ↦ ?_) hcut
  · refine hread.trans ?_
    rw [List.length_drop]
    congr 3
    omega
  · rw [List.take_append_drop] at hdigit
    exact hdecimal digit hdigit

/-- The value of digits of which some stand before the decimal point. -/
theorem readMagnitude_magnitudeText :
    readMagnitude (magnitudeText digits point) =
      some ((number : ℚ) * 10 ^ (point - digits.length)) := by
  unfold magnitudeText
  by_cases hscientific : point ≤ -4 ∨ 16 < point
  · rw [if_pos hscientific, ← readMagnitude_scientific hdigits hdecimal hnumber, padded,
      ← Nat.toList_repr, ← Nat.toString_eq_repr, String.length_toList]
    simp only [List.append_assoc, List.cons_append, List.nil_append]
  rw [if_neg hscientific]
  by_cases hsmall : point ≤ 0
  · rw [if_pos hsmall]
    exact readMagnitude_below hdecimal hnumber hsmall
  rw [if_neg hsmall]
  by_cases hlarge : digits.length ≤ point
  · rw [if_pos hlarge]
    exact readMagnitude_above hdigits hdecimal hnumber hlarge
  · rw [if_neg hlarge]
    exact readMagnitude_between hdigits hdecimal hnumber hsmall hlarge

end Positions

/-- Digits are what is left of them in front of zeros. -/
theorem stripZeros_append (digits : List Char) :
    stripZeros digits ++ List.replicate (digits.length - (stripZeros digits).length) '0' =
      digits := by
  have hzeros : ∀ digit ∈ digits.reverse.takeWhile fun digit ↦ digit = '0', digit = '0' :=
    fun digit hdigit ↦ decide_eq_true_iff.1 (List.all_eq_true.1 List.all_takeWhile digit hdigit)
  have hsplit : digits.reverse = (digits.reverse.takeWhile fun digit ↦ digit = '0') ++
      digits.reverse.dropWhile fun digit ↦ digit = '0' :=
    List.takeWhile_append_dropWhile.symm
  have hlength := congrArg List.length hsplit
  rw [List.length_reverse, List.length_append] at hlength
  have hcount : digits.length - (stripZeros digits).length =
      (digits.reverse.takeWhile fun digit ↦ digit = '0').length := by
    rw [stripZeros, List.length_reverse]
    omega
  rw [hcount, stripZeros, ← List.reverse_replicate, ← List.reverse_append,
    ← List.eq_replicate_of_mem hzeros, ← hsplit, List.reverse_reverse]

/-- The number of some digits is that of what is left of them, shifted. -/
theorem digitsFrom_stripZeros (hnumber : digitsFrom 10 0 digits = some number) :
    ∃ stripped, digitsFrom 10 0 (stripZeros digits) = some stripped ∧
      stripped * 10 ^ (digits.length - (stripZeros digits).length) = number := by
  rw [← stripZeros_append digits, digitsFrom_append, Option.bind_eq_some_iff] at hnumber
  obtain ⟨stripped, hstripped, hshifted⟩ := hnumber
  rw [digitsFrom_zeros (by decide) (by decide)] at hshifted
  exact ⟨stripped, hstripped, Option.some.inj hshifted⟩

end Reading

/-! ### Floats -/

/-- A character of a number. -/
def isNumeric (character : Char) : Bool :=
  character.isDigit || character = '.' || character = 'e' || character = '+' || character = '-'

/-- A text of a number that starts with a digit. -/
def IsUnsigned (text : List Char) : Prop :=
  (∃ first ∈ text.head?, first.isDigit = true) ∧ ∀ character ∈ text, isNumeric character = true

section Floats

variable {value : ℚ} {digits : List Char}

theorem isNumeric_of_isDigit {character : Char} (hdigit : character.isDigit = true) :
    isNumeric character = true := by
  simp [isNumeric, hdigit]

theorem isUnsigned_toDigits (number : ℕ) : IsUnsigned (Nat.toDigits 10 number) := by
  have hdecimal : ∀ digit ∈ Nat.toDigits 10 number, digit.isDigit = true :=
    fun digit hdigit ↦ Nat.isDigit_of_mem_toDigits (by decide) (by decide) hdigit
  obtain ⟨first, rest, hdigits⟩ := List.exists_cons_of_ne_nil (@Nat.toDigits_ne_nil number 10)
  rw [hdigits] at hdecimal ⊢
  exact ⟨⟨first, rfl, hdecimal first List.mem_cons_self⟩, fun digit hdigit ↦
    isNumeric_of_isDigit (hdecimal digit hdigit)⟩

/-- A text whose parts are numeric, behind some digits. -/
theorem IsUnsigned.append {rest : List Char} (hdigits : digits ≠ [])
    (hdecimal : ∀ digit ∈ digits, digit.isDigit = true)
    (hrest : ∀ character ∈ rest, isNumeric character = true) : IsUnsigned (digits ++ rest) := by
  obtain ⟨first, others, rfl⟩ := List.exists_cons_of_ne_nil hdigits
  refine ⟨⟨first, rfl, hdecimal first List.mem_cons_self⟩, fun character hcharacter ↦ ?_⟩
  rcases List.mem_append.1 hcharacter with hcharacter | hcharacter
  · exact isNumeric_of_isDigit (hdecimal character hcharacter)
  · exact hrest character hcharacter

section Positions

variable (hdigits : digits ≠ []) (hdecimal : ∀ digit ∈ digits, digit.isDigit = true)

theorem isNumeric_replicate (count : ℕ) :
    ∀ digit ∈ List.replicate count '0', isNumeric digit = true :=
  fun _ hdigit ↦ List.eq_of_mem_replicate hdigit ▸ rfl

include hdecimal

theorem isNumeric_drop (count : ℕ) :
    ∀ character ∈ '.' :: digits.drop count, isNumeric character = true :=
  List.forall_mem_cons.2 ⟨rfl, fun digit hdigit ↦
    isNumeric_of_isDigit (hdecimal digit (List.mem_of_mem_drop hdigit))⟩

include hdigits

/-- Some first digits are the start of an unsigned text. -/
theorem isUnsigned_take {count : ℕ} (hcount : 0 < count) {rest : List Char}
    (hrest : ∀ character ∈ rest, isNumeric character = true) :
    IsUnsigned (digits.take count ++ rest) := by
  refine IsUnsigned.append ?_ (fun digit hdigit ↦
    hdecimal digit (List.mem_of_mem_take hdigit)) hrest
  rw [Ne, List.take_eq_nil_iff]
  rintro (hzero | hnil)
  · omega
  · exact hdigits hnil

/-- The text with an exponent. -/
theorem isUnsigned_scientific (point : ℤ) (count : ℕ) :
    IsUnsigned (digits.take 1 ++ (if digits.length = 1 then [] else '.' :: digits.drop 1) ++
      ['e', if point ≤ 0 then '-' else '+'] ++
        List.replicate count '0' ++ (toString (point - 1).natAbs).toList) := by
  have hexponent := (isUnsigned_toDigits (point - 1).natAbs).2
  rw [List.append_assoc, List.append_assoc, List.append_assoc]
  refine isUnsigned_take hdigits hdecimal Nat.one_pos fun character hcharacter ↦ ?_
  rcases List.mem_append.1 hcharacter with hcharacter | hcharacter
  · by_cases hsingle : digits.length = 1
    · rw [if_pos hsingle] at hcharacter
      exact absurd hcharacter List.not_mem_nil
    · rw [if_neg hsingle] at hcharacter
      exact isNumeric_drop hdecimal 1 character hcharacter
  · rw [List.mem_append, List.mem_append, Nat.toString_eq_repr, Nat.toList_repr] at hcharacter
    rcases hcharacter with hcharacter | hcharacter | hcharacter
    · have hminus : ∀ character ∈ ['e', '-'], isNumeric character = true :=
        List.all_eq_true.1 (by decide)
      have hplus : ∀ character ∈ ['e', '+'], isNumeric character = true :=
        List.all_eq_true.1 (by decide)
      by_cases hnegative : point ≤ 0
      · rw [if_pos hnegative] at hcharacter
        exact hminus character hcharacter
      · rw [if_neg hnegative] at hcharacter
        exact hplus character hcharacter
    · exact isNumeric_replicate _ character hcharacter
    · exact hexponent character hcharacter

theorem isUnsigned_magnitudeText (point : ℤ) : IsUnsigned (magnitudeText digits point) := by
  unfold magnitudeText
  by_cases hscientific : point ≤ -4 ∨ 16 < point
  · rw [if_pos hscientific]
    exact isUnsigned_scientific hdigits hdecimal point _
  rw [if_neg hscientific]
  by_cases hsmall : point ≤ 0
  · rw [if_pos hsmall, List.append_assoc]
    show IsUnsigned (['0'] ++ '.' :: (List.replicate (-point).toNat '0' ++ digits))
    refine IsUnsigned.append (List.cons_ne_nil '0' [])
      (List.forall_mem_singleton.2 (by decide)) (List.forall_mem_cons.2
      ⟨rfl, fun character hcharacter ↦ ?_⟩)
    rcases List.mem_append.1 hcharacter with hcharacter | hcharacter
    · exact isNumeric_replicate _ character hcharacter
    · exact isNumeric_of_isDigit (hdecimal character hcharacter)
  rw [if_neg hsmall]
  by_cases hlarge : digits.length ≤ point
  · have hpoint : ∀ character ∈ ".0".toList, isNumeric character = true :=
      List.all_eq_true.1 (by decide)
    rw [if_pos hlarge, List.append_assoc]
    refine IsUnsigned.append hdigits hdecimal fun character hcharacter ↦ ?_
    rcases List.mem_append.1 hcharacter with hcharacter | hcharacter
    · exact isNumeric_replicate _ character hcharacter
    · exact hpoint character hcharacter
  · rw [if_neg hlarge]
    exact isUnsigned_take hdigits hdecimal (show 0 < point.toNat by omega)
      (isNumeric_drop hdecimal _)

end Positions

/-- The digits of a value that is not zero, without the zeros they end with. -/
theorem stripZeros_decimalDigits (hzero : (value * 10 ^ decimalPlaces value).num.natAbs ≠ 0) :
    stripZeros (decimalDigits value) ≠ [] ∧
      ∀ digit ∈ stripZeros (decimalDigits value), digit.isDigit = true := by
  constructor
  · intro hnil
    have hzeros := stripZeros_append (decimalDigits value)
    have hnumber := digitsFrom_toDigits (by decide) (show 10 ≤ 16 by decide)
      (value * 10 ^ decimalPlaces value).num.natAbs
    rw [hnil, List.nil_append] at hzeros
    rw [← decimalDigits, ← hzeros, digitsFrom_zeros (by decide) (by decide),
      Nat.zero_mul] at hnumber
    exact hzero (Option.some.inj hnumber).symm
  · intro digit hdigit
    refine Nat.isDigit_of_mem_toDigits (by decide) (by decide)
      (show digit ∈ decimalDigits value from ?_)
    rw [← stripZeros_append (decimalDigits value)]
    exact List.mem_append_left _ hdigit

theorem isUnsigned_unsignedText (value : ℚ) : IsUnsigned (unsignedText value) := by
  unfold unsignedText
  by_cases hzero : (value * 10 ^ decimalPlaces value).num.natAbs = 0
  · rw [if_pos hzero]
    exact IsUnsigned.append (List.cons_ne_nil '0' []) (List.all_eq_true.1 (by decide))
      (List.all_eq_true.1 (by decide))
  · rw [if_neg hzero]
    obtain ⟨hdigits, hdecimal⟩ := stripZeros_decimalDigits hzero
    exact isUnsigned_magnitudeText hdigits hdecimal _

/-- A float that `str` prints has fewer than four hundred decimal places. -/
theorem exists_places (hprinted : (PyFloat.finite value).Printed) :
    (value * 10 ^ decimalPlaces value).den = 1 := by
  obtain ⟨coefficient, exponent, -, hlow, -, hvalue⟩ := hprinted
  have hwhole : (value * 10 ^ 324).den = 1 := by
    obtain ⟨shift, hshift⟩ := Int.eq_ofNat_of_zero_le (show 0 ≤ exponent + 324 by omega)
    have hshifted : value * 10 ^ 324 = ((coefficient * 10 ^ shift : ℤ) : ℚ) := by
      rw [hvalue, mul_assoc, ← zpow_natCast, ← zpow_add₀ (by norm_num)]
      push_cast
      rw [← zpow_natCast, ← hshift]
    rw [hshifted, Rat.den_intCast]
  have hfound : ((List.range 400).find? fun places ↦ (value * 10 ^ places).den = 1).isSome := by
    rw [List.find?_isSome]
    exact ⟨324, List.mem_range.2 (by decide), decide_eq_true hwhole⟩
  obtain ⟨places, hplaces⟩ := Option.isSome_iff_exists.1 hfound
  have hplace := List.find?_some hplaces
  rw [decimalPlaces, hplaces, Option.getD_some]
  exact decide_eq_true_iff.1 hplace

/-- The digits of a printed float stand for its magnitude. -/
theorem readMagnitude_unsignedText (hprinted : (PyFloat.finite value).Printed) :
    readMagnitude (unsignedText value) = some |value| := by
  have hmagnitude : ((value * 10 ^ decimalPlaces value).num.natAbs : ℚ) =
      |value| * 10 ^ decimalPlaces value := by
    rw [Nat.cast_natAbs, Int.cast_abs, Rat.coe_int_num_of_den_eq_one (exists_places hprinted),
      abs_mul, abs_of_pos (show (0 : ℚ) < 10 ^ decimalPlaces value by positivity)]
  unfold unsignedText
  by_cases hzero : (value * 10 ^ decimalPlaces value).num.natAbs = 0
  · rw [hzero, Nat.cast_zero, eq_comm, mul_eq_zero_iff_right (by positivity)] at hmagnitude
    have hdecimal : ∀ digit ∈ ['0'] ++ ['0'], digit ≠ '.' ∧ digit ≠ 'e' :=
      forall_mem_of_all (by decide)
    have hread := readMagnitude_positional (List.cons_ne_nil _ _) hdecimal
      (digitsFrom_zeros (by decide) (by decide) 0 2)
    rw [Nat.zero_mul, Nat.cast_zero, zero_mul] at hread
    rw [if_pos hzero]
    exact hread.trans (congrArg some hmagnitude.symm)
  · have hnumber := digitsFrom_toDigits (by decide) (show 10 ≤ 16 by decide)
      (value * 10 ^ decimalPlaces value).num.natAbs
    obtain ⟨stripped, hstripped, hshifted⟩ := digitsFrom_stripZeros hnumber
    obtain ⟨hdigits, hisDigit⟩ := stripZeros_decimalDigits hzero
    have hdecimal : ∀ digit ∈ stripZeros (decimalDigits value), digit ≠ '.' ∧ digit ≠ 'e' :=
      fun digit hdigit ↦ ⟨fun hpoint ↦ absurd (hpoint ▸ hisDigit digit hdigit) (by decide),
        fun hletter ↦ absurd (hletter ▸ hisDigit digit hdigit) (by decide)⟩
    have hlength : (stripZeros (decimalDigits value)).length ≤ (decimalDigits value).length := by
      have hsplit := congrArg List.length (stripZeros_append (decimalDigits value))
      rw [List.length_append] at hsplit
      omega
    have hshift : ((decimalDigits value).length - decimalPlaces value -
        (stripZeros (decimalDigits value)).length : ℤ) =
          (((decimalDigits value).length - (stripZeros (decimalDigits value)).length : ℕ) : ℤ) -
            decimalPlaces value := by
      omega
    rw [← hshifted] at hmagnitude
    rw [if_neg hzero, readMagnitude_magnitudeText hdigits hdecimal hstripped, hshift,
      zpow_sub₀ (by norm_num), zpow_natCast, zpow_natCast, ← mul_div_assoc]
    refine congrArg some ((div_eq_iff (by positivity)).2 ?_)
    push_cast at hmagnitude
    exact hmagnitude

/-- A float that `str` prints is read back as the decimal that it prints. -/
theorem readDecimal_floatText (hprinted : (PyFloat.finite value).Printed) :
    readDecimal (floatText value).toList = some value := by
  rw [floatText_eq, String.toList_ofList, readDecimal]
  by_cases hnegative : value < 0
  · rw [if_pos hnegative, List.head?_cons, if_pos rfl, List.tail_cons,
      readMagnitude_unsignedText hprinted, Option.map_some, abs_of_neg hnegative, neg_neg]
  · obtain ⟨first, hfirst, hdigit⟩ := (isUnsigned_unsignedText value).1
    have hminus : (unsignedText value).head? ≠ some '-' := by
      rw [Option.mem_def.1 hfirst]
      exact fun hminus ↦ absurd (Option.some.inj hminus ▸ hdigit) (by decide)
    rw [if_neg hnegative, if_neg hminus, readMagnitude_unsignedText hprinted,
      abs_of_nonneg (not_lt.1 hnegative)]

end Floats

/-! ### Scalars -/

/-- The text of a float, also of one that is not finite. -/
def floatLiteralText : PyFloat → List Char
  | .finite value => (floatText value).toList
  | .infinite negative => if negative then "-Infinity".toList else "Infinity".toList
  | .nan => "NaN".toList

/-- The constants of a JSON text. -/
def jsonConstants : List (List Char × IRScalar) :=
  [("null".toList, .none), ("true".toList, .bool true), ("false".toList, .bool false),
    ("NaN".toList, .float .nan), ("Infinity".toList, .float (.infinite false)),
    ("-Infinity".toList, .float (.infinite true))]

/-- The scalar that a number stands for. -/
def readNumber (text : List Char) : Option IRScalar :=
  if text.any fun character ↦ character = '.' || character = 'e' then
    (readDecimal text).map fun value ↦ .float (.finite value)
  else (readInteger text).map .int

/-- The scalar that a literal stands for. -/
def readLiteral (text : List Char) : Option IRScalar :=
  (jsonConstants.lookup text).or (readNumber text)

/-- The scalar that a document stands for. -/
def readScalar : JsonDocument → Option IRScalar
  | .string value => some (.str value)
  | .literal literal => readLiteral literal.text
  | _ => none

section Scalars

theorem isLiteral_of_isNumeric {text : List Char} (hnonempty : text ≠ [])
    (hnumeric : ∀ character ∈ text, isNumeric character = true) : isLiteral text = true := by
  rw [isLiteral, Bool.and_eq_true, List.all_eq_true, Bool.not_eq_true', List.isEmpty_eq_false_iff]
  refine ⟨hnonempty, fun character hcharacter ↦ ?_⟩
  have hnumber := hnumeric character hcharacter
  simp only [isNumeric, Bool.or_eq_true, decide_eq_true_eq] at hnumber
  rcases hnumber with (((hdigit | rfl) | rfl) | rfl) | rfl
  · simp [isLiteralCharacter, Char.isAlphanum, hdigit]
  all_goals rfl

theorem IsUnsigned.ne_nil {text : List Char} (hunsigned : IsUnsigned text) : text ≠ [] := by
  rintro rfl
  obtain ⟨_, hfirst, -⟩ := hunsigned.1
  exact Option.not_mem_none _ hfirst

theorem isNumeric_toString (value : ℤ) :
    (toString value).toList ≠ [] ∧ ∀ character ∈ (toString value).toList,
      isNumeric character = true := by
  rw [Int.toString_eq_repr, Int.repr_eq_if]
  split_ifs
  · rw [Nat.toList_repr]
    exact ⟨Nat.toDigits_ne_nil, (isUnsigned_toDigits _).2⟩
  · rw [String.toList_append, Nat.toList_repr]
    exact ⟨List.cons_ne_nil _ _, List.forall_mem_cons.2 ⟨rfl, (isUnsigned_toDigits _).2⟩⟩

theorem isNumeric_floatText (value : ℚ) :
    (floatText value).toList ≠ [] ∧ ∀ character ∈ (floatText value).toList,
      isNumeric character = true := by
  have hunsigned := isUnsigned_unsignedText value
  rw [floatText_eq, String.toList_ofList]
  split_ifs
  · exact ⟨List.cons_ne_nil _ _, List.forall_mem_cons.2 ⟨rfl, hunsigned.2⟩⟩
  · exact ⟨hunsigned.ne_nil, hunsigned.2⟩

theorem isLiteral_floatLiteralText (value : PyFloat) :
    isLiteral (floatLiteralText value) = true := by
  cases value with
  | finite value =>
    exact isLiteral_of_isNumeric (isNumeric_floatText value).1 (isNumeric_floatText value).2
  | infinite negative => cases negative <;> rfl
  | nan => rfl

/-- The document of a scalar. -/
def scalarDocument : IRScalar → JsonDocument
  | .str value => .string value
  | .int value => .literal ⟨(toString value).toList,
      isLiteral_of_isNumeric (isNumeric_toString value).1 (isNumeric_toString value).2⟩
  | .float value => .literal ⟨floatLiteralText value, isLiteral_floatLiteralText value⟩
  | .bool value => .literal ⟨if value then "true".toList else "false".toList,
      by cases value <;> rfl⟩
  | .none => .literal ⟨"null".toList, rfl⟩

/-- Whether a scalar is one that Python can hold: a finite float is the decimal that `str`
prints. -/
def IsPrinted : IRScalar → Prop
  | .float value => value.Printed
  | _ => True

/-- A number is none of the constants. -/
theorem lookup_jsonConstants {text : List Char}
    (hnumeric : ∀ character ∈ text, isNumeric character = true) :
    jsonConstants.lookup text = none := by
  have hconstants :
      ∀ entry ∈ jsonConstants, ¬∀ character ∈ entry.1, isNumeric character = true := by
    simp only [← List.all_eq_true]
    exact forall_mem_of_all (by decide)
  rw [List.lookup_eq_none_iff]
  intro entry hentry
  have hother : text ≠ entry.1 := fun hsame ↦ hconstants entry hentry (hsame ▸ hnumeric)
  exact bne_iff_ne.2 hother

/-- The text of an integer has no point and no exponent. -/
theorem isInteger_toString (value : ℤ) : ((toString value).toList.any fun character ↦
    character = '.' || character = 'e') = false := by
  have hdigits (number : ℕ) : ((Nat.toDigits 10 number).any fun character ↦
      character = '.' || character = 'e') = false := by
    rw [List.any_eq_false]
    intro digit hdigit
    have hisDigit := Nat.isDigit_of_mem_toDigits (by decide) (by decide) hdigit
    rw [Bool.or_eq_true, decide_eq_true_eq, decide_eq_true_eq]
    rintro (rfl | rfl) <;> exact absurd hisDigit (by decide)
  rw [Int.toString_eq_repr, Int.repr_eq_if]
  split_ifs
  · rw [Nat.toList_repr, hdigits]
  · rw [String.toList_append, Nat.toList_repr, List.any_append, hdigits]
    rfl

/-- The text of a float has a point or an exponent. -/
theorem isFloat_floatText (value : ℚ) : ((floatText value).toList.any fun character ↦
    character = '.' || character = 'e') = true := by
  have hmagnitude : ∃ character ∈ unsignedText value, character = '.' ∨ character = 'e' := by
    unfold unsignedText magnitudeText
    by_cases hzero : (value * 10 ^ decimalPlaces value).num.natAbs = 0
    · rw [if_pos hzero]
      exact ⟨'.', by decide, .inl rfl⟩
    rw [if_neg hzero]
    split_ifs
    · exact ⟨'e', by simp, .inr rfl⟩
    · exact ⟨'e', by simp, .inr rfl⟩
    · exact ⟨'e', by simp, .inr rfl⟩
    · exact ⟨'e', by simp, .inr rfl⟩
    · exact ⟨'.', by simp, .inl rfl⟩
    · exact ⟨'.', by simp, .inl rfl⟩
    · exact ⟨'.', by simp, .inl rfl⟩
  obtain ⟨character, hcharacter, hpoint⟩ := hmagnitude
  rw [floatText_eq, String.toList_ofList, List.any_eq_true]
  refine ⟨character, ?_, by simpa using hpoint⟩
  split_ifs
  · exact List.mem_cons_of_mem _ hcharacter
  · exact hcharacter

/-- A scalar is read back from its document. -/
theorem readScalar_scalarDocument {value : IRScalar} (hprinted : IsPrinted value) :
    readScalar (scalarDocument value) = some value := by
  cases value with
  | str value => rfl
  | int value =>
    show readLiteral (toString value).toList = _
    rw [readLiteral, lookup_jsonConstants (isNumeric_toString value).2, Option.none_or, readNumber,
      isInteger_toString, if_neg Bool.false_ne_true, readInteger_toString]
    rfl
  | float value =>
    cases value with
    | finite value =>
      show readLiteral (floatText value).toList = _
      rw [readLiteral, lookup_jsonConstants (isNumeric_floatText value).2, Option.none_or,
        readNumber, isFloat_floatText, if_pos rfl, readDecimal_floatText hprinted]
      rfl
    | infinite negative => cases negative <;> rfl
    | nan => rfl
  | bool value => cases value <;> rfl
  | none => rfl

end Scalars

/-! ### Values -/

/-- Whether a scalar has a text when floats need not be finite. -/
def hasText : IRScalar → Bool
  | .int value => value.natAbs < 10 ^ 4300
  | _ => true

mutual

/-- The document of a value. -/
def JsonValue.document : JsonValue → JsonDocument
  | .scalar value => scalarDocument value
  | .array items => .array (itemDocuments items)
  | .object members => .object (memberDocuments members)

def itemDocuments : List JsonValue → List JsonDocument
  | [] => []
  | item :: items => item.document :: itemDocuments items

def memberDocuments : List (String × JsonValue) → List (String × JsonDocument)
  | [] => []
  | (name, value) :: members => (name, value.document) :: memberDocuments members

end

mutual

/-- The scalars inside a value. -/
def JsonValue.scalars : JsonValue → List IRScalar
  | .scalar value => [value]
  | .array items => itemScalars items
  | .object members => memberScalars members

def itemScalars : List JsonValue → List IRScalar
  | [] => []
  | item :: items => item.scalars ++ itemScalars items

def memberScalars : List (String × JsonValue) → List IRScalar
  | [] => []
  | (_, value) :: members => value.scalars ++ memberScalars members

end

mutual

/-- The value that a document stands for. -/
def readDocument : JsonDocument → Option JsonValue
  | .literal literal => (readLiteral literal.text).map .scalar
  | .string value => some (.scalar (.str value))
  | .array items => (readItems items).map .array
  | .object members => (readMembers members).map .object

def readItems : List JsonDocument → Option (List JsonValue)
  | [] => some []
  | item :: items => do
    let value ← readDocument item
    let values ← readItems items
    return value :: values

def readMembers : List (String × JsonDocument) → Option (List (String × JsonValue))
  | [] => some []
  | (name, member) :: members => do
    let value ← readDocument member
    let values ← readMembers members
    return (name, value) :: values

end

/-- `json.dumps(value)` in some layout. -/
def dumpsText (layout : JsonLayout) (value : JsonValue) : Except HilRigError String :=
  if value.scalars.all hasText then .ok (writeJson layout value.document)
  else .error (.value "Exceeds the limit (4300 digits) for integer string conversion")

/-- `json.loads(text)`. -/
def loads (text : String) : Option JsonValue :=
  (readJson text).bind readDocument

section Values

theorem readDocument_scalarDocument {value : IRScalar} (hprinted : IsPrinted value) :
    readDocument (scalarDocument value) = some (.scalar value) := by
  have hread := readScalar_scalarDocument hprinted
  cases hdocument : scalarDocument value with
  | string text =>
    rw [hdocument, readScalar] at hread
    rw [readDocument, Option.some.inj hread]
  | literal literal =>
    rw [hdocument, readScalar] at hread
    rw [readDocument, hread, Option.map_some]
  | _ => rw [hdocument] at hread; cases hread

mutual

/-- A value is read back from its document. -/
theorem readDocument_document (value : JsonValue)
    (hprinted : ∀ scalar ∈ value.scalars, IsPrinted scalar) :
    readDocument value.document = some value := by
  cases value with
  | scalar value =>
    rw [JsonValue.scalars, List.forall_mem_singleton] at hprinted
    exact readDocument_scalarDocument hprinted
  | array items =>
    rw [JsonValue.document, readDocument, readItems_itemDocuments items hprinted]
    rfl
  | object members =>
    rw [JsonValue.document, readDocument, readMembers_memberDocuments members hprinted]
    rfl

theorem readItems_itemDocuments (items : List JsonValue)
    (hprinted : ∀ scalar ∈ itemScalars items, IsPrinted scalar) :
    readItems (itemDocuments items) = some items := by
  cases items with
  | nil => rfl
  | cons item items =>
    rw [itemScalars, List.forall_mem_append] at hprinted
    rw [itemDocuments, readItems, readDocument_document item hprinted.1,
      readItems_itemDocuments items hprinted.2]
    rfl

theorem readMembers_memberDocuments (members : List (String × JsonValue))
    (hprinted : ∀ scalar ∈ memberScalars members, IsPrinted scalar) :
    readMembers (memberDocuments members) = some members := by
  cases members with
  | nil => rfl
  | cons member members =>
    obtain ⟨name, value⟩ := member
    rw [memberScalars, List.forall_mem_append] at hprinted
    rw [memberDocuments, readMembers, readDocument_document value hprinted.1,
      readMembers_memberDocuments members hprinted.2]
    rfl

end

/-- Whether Python can hold the floats of a value. -/
def JsonValue.Printed (value : JsonValue) : Prop :=
  ∀ scalar ∈ value.scalars, IsPrinted scalar

theorem printed_scalar {value : IRScalar} (hprinted : IsPrinted value) :
    (JsonValue.scalar value).Printed :=
  fun _ hscalar ↦ List.mem_singleton.1 hscalar ▸ hprinted

theorem printed_array {items : List JsonValue} (hitems : ∀ item ∈ items, item.Printed) :
    (JsonValue.array items).Printed := by
  intro scalar hscalar
  rw [JsonValue.scalars] at hscalar
  induction items with
  | nil => exact absurd hscalar List.not_mem_nil
  | cons item items ih =>
    obtain ⟨hitem, hitems⟩ := List.forall_mem_cons.1 hitems
    rcases List.mem_append.1 hscalar with hscalar | hscalar
    · exact hitem scalar hscalar
    · exact ih hitems hscalar

theorem printed_object {members : List (String × JsonValue)}
    (hmembers : ∀ member ∈ members, member.2.Printed) : (JsonValue.object members).Printed := by
  intro scalar hscalar
  rw [JsonValue.scalars] at hscalar
  induction members with
  | nil => exact absurd hscalar List.not_mem_nil
  | cons member members ih =>
    obtain ⟨hmember, hmembers⟩ := List.forall_mem_cons.1 hmembers
    rcases List.mem_append.1 hscalar with hscalar | hscalar
    · exact hmember scalar hscalar
    · exact ih hmembers hscalar

theorem dumpsText_of_hasText {value : JsonValue} (hscalars : value.scalars.all hasText = true)
    (layout : JsonLayout) : dumpsText layout value = .ok (writeJson layout value.document) :=
  if_pos hscalars

/-- A value with a text is read back from it, whatever its layout, also in front of white space. -/
theorem loads_dumpsText {layout : JsonLayout} {value : JsonValue} {text blank : String}
    (hprinted : value.Printed) (htext : dumpsText layout value = .ok text)
    (hblank : ∀ character ∈ blank.toList, isJsonSpace character = true) :
    loads (text ++ blank) = some value := by
  unfold dumpsText at htext
  split_ifs at htext
  rw [← Except.ok.inj htext, loads, readJson_writeJson layout _ hblank, Option.bind_some,
    readDocument_document value hprinted]

end Values

end HilRig.Results
