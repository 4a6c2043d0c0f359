import Mathlib.Algebra.Ring.Nat
import Mathlib.Data.List.Basic
import Mathlib.Data.Option.Basic

/-!
# Numerals

The digits of a number in a base of at most sixteen are `Nat.toDigits`, and `readNumeral` reads them
back, also behind leading zeros. Bytes are written as pairs of hexadecimal digits, and integers as
Python's `str` writes them.
-/

set_option autoImplicit false
set_option relaxedAutoImplicit false

namespace HilRig.Foundations

/-- A property of the members of a list that is checked on each. -/
theorem forall_mem_of_all {α : Type} {items : List α} {property : α → Prop}
    [DecidablePred property] (hall : items.all (fun item ↦ decide (property item)) = true) :
    ∀ item ∈ items, property item :=
  fun item hitem ↦ of_decide_eq_true (List.all_eq_true.1 hall item hitem)

/-! ### Digits -/

/-- The value of a digit of a base. -/
def digitValue (base : ℕ) (digit : Char) : Option ℕ :=
  (List.range base).find? fun value ↦ value.digitChar = digit

/-- The number that digits of a base stand for, behind those of another. -/
def digitsFrom (base : ℕ) (number : ℕ) (digits : List Char) : Option ℕ :=
  digits.foldlM (fun number digit ↦ (digitValue base digit).map fun value ↦ base * number + value)
    number

/-- The number that some digits of a base stand for. -/
def readNumeral (base : ℕ) (digits : List Char) : Option ℕ :=
  if digits = [] then none else digitsFrom base 0 digits

/-- Digits behind as many zeros as a width needs. -/
def padded (width : ℕ) (digits : List Char) : List Char :=
  List.replicate (width - digits.length) '0' ++ digits

section Digits

variable {base : ℕ}

theorem digitChar_injective : ∀ first < 16, ∀ second < 16,
    Nat.digitChar first = Nat.digitChar second → first = second := by
  decide

theorem digitValue_digitChar (hbase : base ≤ 16) {value : ℕ} (hvalue : value < base) :
    digitValue base value.digitChar = some value := by
  rw [digitValue, List.find?_range_eq_some]
  refine ⟨decide_eq_true rfl, List.mem_range.2 hvalue, fun other hother ↦ ?_⟩
  have hne : other.digitChar ≠ value.digitChar := fun hsame ↦
    (Nat.ne_of_lt hother) (digitChar_injective other (by omega) value (by omega) hsame)
  simp [hne]

theorem digitsFrom_append (number : ℕ) (first second : List Char) :
    digitsFrom base number (first ++ second) =
      (digitsFrom base number first).bind fun middle ↦ digitsFrom base middle second :=
  List.foldlM_append

theorem digitsFrom_digitChar (hbase : base ≤ 16) (number : ℕ) {value : ℕ} (hvalue : value < base) :
    digitsFrom base number [value.digitChar] = some (base * number + value) := by
  rw [digitsFrom, List.foldlM_cons, digitValue_digitChar hbase hvalue]
  rfl

/-- The digits of a number stand for it. -/
theorem digitsFrom_toDigits (hpos : 1 < base) (hbase : base ≤ 16) (number : ℕ) :
    digitsFrom base 0 (Nat.toDigits base number) = some number := by
  induction number using Nat.strong_induction_on with
  | _ number ih =>
    by_cases hsmall : number < base
    · rw [Nat.toDigits_of_lt_base hsmall, digitsFrom_digitChar hbase 0 hsmall, Nat.mul_zero,
        Nat.zero_add]
    · have hle : base ≤ number := not_lt.1 hsmall
      rw [Nat.toDigits_of_base_le hpos hle, digitsFrom_append,
        ih (number / base) (Nat.div_lt_self (by omega) hpos), Option.bind_some,
        digitsFrom_digitChar hbase _ (Nat.mod_lt number (by omega)), Nat.div_add_mod]

/-- Zeros behind a number shift it. -/
theorem digitsFrom_zeros (hpos : 1 < base) (hbase : base ≤ 16) (number count : ℕ) :
    digitsFrom base number (List.replicate count '0') = some (number * base ^ count) := by
  induction count generalizing number with
  | zero => rw [Nat.pow_zero, Nat.mul_one]; rfl
  | succ count ih =>
    have hzero : digitsFrom base number ['0'] = some (base * number) :=
      digitsFrom_digitChar hbase number (show 0 < base by omega)
    rw [List.replicate_succ, ← List.singleton_append, digitsFrom_append, hzero, Option.bind_some,
      ih, Nat.pow_succ, Nat.mul_comm base number, Nat.mul_assoc, Nat.mul_comm base]

theorem length_padded (width : ℕ) (digits : List Char) :
    (padded width digits).length = max width digits.length := by
  rw [padded, List.length_append, List.length_replicate]
  omega

/-- Digits behind zeros are read back. -/
theorem readNumeral_padded (hpos : 1 < base) (hbase : base ≤ 16) (width number : ℕ) :
    readNumeral base (padded width (Nat.toDigits base number)) = some number := by
  have hnonempty : padded width (Nat.toDigits base number) ≠ [] :=
    List.append_ne_nil_of_right_ne_nil _ Nat.toDigits_ne_nil
  rw [readNumeral, if_neg hnonempty, padded, digitsFrom_append, digitsFrom_zeros hpos hbase,
    Nat.zero_mul, Option.bind_some, digitsFrom_toDigits hpos hbase]

theorem readNumeral_toDigits (hpos : 1 < base) (hbase : base ≤ 16) (number : ℕ) :
    readNumeral base (Nat.toDigits base number) = some number := by
  rw [readNumeral, if_neg Nat.toDigits_ne_nil, digitsFrom_toDigits hpos hbase]

end Digits

/-! ### Hexadecimal texts -/

/-- A number in hexadecimal digits, behind zeros up to a width. -/
def hexadecimal (width number : ℕ) : String :=
  String.ofList (padded width (Nat.toDigits 16 number))

/-- `int(text, 16)` of digits without a sign. -/
def readHexadecimal (text : String) : Option ℕ :=
  readNumeral 16 text.toList

theorem readHexadecimal_hexadecimal (width number : ℕ) :
    readHexadecimal (hexadecimal width number) = some number := by
  rw [readHexadecimal, hexadecimal, String.toList_ofList,
    readNumeral_padded (by decide) (by decide)]

/-- `bytes.hex()`. -/
def hexOfBytes (bytes : List UInt8) : List Char :=
  bytes.flatMap fun byte ↦ [(byte.toNat / 16).digitChar, (byte.toNat % 16).digitChar]

/-- `bytes.fromhex` of pairs of digits. -/
def readBytes : List Char → Option (List UInt8)
  | [] => some []
  | [_] => none
  | high :: low :: digits => do
    let byte ← readNumeral 16 [high, low]
    let bytes ← readBytes digits
    return UInt8.ofNat byte :: bytes

theorem readBytes_hexOfBytes (bytes : List UInt8) : readBytes (hexOfBytes bytes) = some bytes := by
  induction bytes with
  | nil => rfl
  | cons byte bytes ih =>
    have hbyte : byte.toNat < 256 := byte.toNat_lt
    have hpair : readNumeral 16 [(byte.toNat / 16).digitChar, (byte.toNat % 16).digitChar] =
        some byte.toNat := by
      rw [readNumeral, if_neg (List.cons_ne_nil _ _), ← List.singleton_append, digitsFrom_append,
        digitsFrom_digitChar le_rfl 0 (show byte.toNat / 16 < 16 by omega), Option.bind_some,
        digitsFrom_digitChar le_rfl _ (Nat.mod_lt _ (by decide)), Nat.mul_zero, Nat.zero_add,
        Nat.div_add_mod]
    rw [hexOfBytes, List.flatMap_cons, List.cons_append, List.cons_append, List.nil_append,
      readBytes, hpair]
    show (readBytes (hexOfBytes bytes)).bind _ = _
    rw [ih, Option.bind_some, UInt8.ofNat_toNat]
    rfl

/-! ### Decimal texts -/

/-- `int(text)` of digits without a sign. -/
def readNatural (text : List Char) : Option ℕ :=
  readNumeral 10 text

/-- `int(text)`. -/
def readInteger (text : List Char) : Option ℤ :=
  if text.head? = some '-' then (readNumeral 10 text.tail).map fun number : ℕ ↦ -(number : ℤ)
  else (readNumeral 10 text).map fun number : ℕ ↦ (number : ℤ)

theorem readNatural_toString (number : ℕ) : readNatural (toString number).toList = some number := by
  rw [readNatural, Nat.toString_eq_repr, Nat.toList_repr,
    readNumeral_toDigits (by decide) (by decide)]

theorem head?_toDigits_ne (number : ℕ) : (Nat.toDigits 10 number).head? ≠ some '-' := fun hhead ↦
  absurd (Nat.isDigit_of_mem_toDigits (by decide) (by decide) (List.mem_of_mem_head? hhead))
    (by decide)

theorem readInteger_toString (value : ℤ) : readInteger (toString value).toList = some value := by
  rw [Int.toString_eq_repr, Int.repr_eq_if]
  by_cases hnonneg : 0 ≤ value
  · rw [if_pos hnonneg, Nat.toList_repr, readInteger, if_neg (head?_toDigits_ne _),
      readNumeral_toDigits (by decide) (by decide), Option.map_some, Int.toNat_of_nonneg hnonneg]
  · have hminus : ("-" ++ (-value).toNat.repr).toList = '-' :: Nat.toDigits 10 (-value).toNat := by
      rw [String.toList_append, Nat.toList_repr]
      rfl
    rw [if_neg hnonneg, hminus, readInteger, List.head?_cons, if_pos rfl, List.tail_cons,
      readNumeral_toDigits (by decide) (by decide), Option.map_some,
      Int.toNat_of_nonneg (by omega), Int.neg_neg]

end HilRig.Foundations
