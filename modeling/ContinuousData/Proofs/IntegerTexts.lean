import ContinuousData.Proofs.OrdinalTexts
import ContinuousData.Yaml.Integer
import Mathlib.Data.Option.Basic

/-! Decimal texts of integers, and that they are read back as the integer they are the text of. -/
namespace ContinuousData.Yaml

open OrdinalDate (toNat_of_isDigit)

theorem digitValue_lt_ten {c : Char} (digit : c.isDigit = true) : digitValue c < 10 := by
  have small := toNat_of_isDigit digit
  rw [digitValue, if_pos digit]
  omega

theorem foldlM_digits {cs : List Char} (digits : ∀ c ∈ cs, c.isDigit = true) (value : Nat) :
    cs.foldlM (fun value c =>
      if digitValue c < 10 then some (value * 10 + digitValue c) else none) value =
      some (Nat.ofDigitChars 10 cs value) := by
  induction cs generalizing value with
  | nil => rfl
  | cons c cs ih =>
    obtain ⟨first, others⟩ := List.forall_mem_cons.mp digits
    rw [List.foldlM_cons, if_pos (digitValue_lt_ten first), digitValue, if_pos first]
    rw [Nat.mul_comm]
    exact ih others _

/-- The decimal digits of a number. -/
def decimal (n : Nat) : List Char :=
  Nat.toDigits 10 n

theorem isDigit_of_mem_decimal {n : Nat} {c : Char} (h : c ∈ decimal n) : c.isDigit = true :=
  Nat.isDigit_of_mem_toDigits (by decide) (by decide) h

theorem decimal_step (n : Nat) (large : 10 ≤ n) :
    decimal n = decimal (n / 10) ++ decimal (n % 10) := by
  have joined := Nat.toDigits_append_toDigits (b := 10) (n := n / 10) (by decide)
    (Nat.div_pos large (by decide)) (Nat.mod_lt n (by decide))
  rw [Nat.div_add_mod] at joined
  exact joined.symm

/-- Only zero starts with a zero. -/
theorem exists_decimal_ne_zero {n : Nat} (positive : 0 < n) :
    ∃ c rest, decimal n = c :: rest ∧ c ≠ '0' := by
  induction n using Nat.strongRecOn with
  | ind n ih =>
    by_cases large : 10 ≤ n
    · obtain ⟨c, rest, front, notZero⟩ := ih (n / 10) (by omega) (by omega)
      exact ⟨c, rest ++ decimal (n % 10), by rw [decimal_step n large, front]; rfl, notZero⟩
    · refine ⟨n.digitChar, [], Nat.toDigits_of_lt_base (by omega), ?_⟩
      have small : n < 10 := by omega
      revert positive
      clear ih large
      decide +revert

theorem exists_decimal_isDigit (n : Nat) :
    ∃ c rest, decimal n = c :: rest ∧ c.isDigit = true := by
  by_cases zero : n = 0
  · subst zero
    exact ⟨'0', [], rfl, rfl⟩
  · obtain ⟨c, rest, text, -⟩ := exists_decimal_ne_zero (Nat.pos_of_ne_zero zero)
    exact ⟨c, rest, text, isDigit_of_mem_decimal (text ▸ List.mem_cons_self)⟩

theorem natOfDigits?_decimal (n : Nat) : natOfDigits? 10 (decimal n) = some n := by
  have nonempty : decimal n ≠ [] := by
    obtain ⟨c, rest, text, -⟩ := exists_decimal_isDigit n
    rw [text]
    exact List.cons_ne_nil c rest
  rw [natOfDigits?, if_neg nonempty, foldlM_digits fun c h => isDigit_of_mem_decimal h]
  exact congrArg some (Nat.ofDigitChars_toDigits (by decide) (by decide))

theorem magnitude?_decimal (n : Nat) : magnitude? (decimal n) = some n := by
  by_cases zero : n = 0
  · subst zero
    decide
  · obtain ⟨c, rest, text, notZero⟩ := exists_decimal_ne_zero (Nat.pos_of_ne_zero zero)
    have plain : magnitude? (decimal n) = natOfDigits? 10 (decimal n) := by
      rw [text]
      unfold magnitude? hasLeadingZero
      split <;> simp_all
    rw [plain, natOfDigits?_decimal]

theorem toList_unsigned (n : UInt64) : (toString n).toList = decimal n.toNat :=
  Nat.toList_repr

/-- The text of an integer below zero is that of its magnitude behind a hyphen. -/
theorem toList_signed (i : Int64) :
    ∃ n : Nat, i.toInt = n ∧ (toString i).toList = decimal n ∨
      i.toInt = -n ∧ (toString i).toList = '-' :: decimal n := by
  have text : (toString i).toList = i.toInt.repr.toList := rfl
  rw [text]
  cases i.toInt with
  | ofNat n => exact ⟨n, .inl ⟨rfl, Nat.toList_repr⟩⟩
  | negSucc n =>
    refine ⟨n + 1, .inr ⟨rfl, ?_⟩⟩
    rw [Int.repr, String.toList_append, Nat.toList_repr]
    rfl

theorem unsigned?_toString (n : UInt64) : unsigned? (toString n).toList = some n := by
  obtain ⟨c, rest, digits, digit⟩ := exists_decimal_isDigit n.toNat
  have unsigned : c ≠ '+' := by
    rintro rfl
    exact absurd digit (by decide)
  have bare : unsigned? (c :: rest) = (do
      let magnitude ← magnitude? (c :: rest)
      guard (magnitude < UInt64.size)
      return UInt64.ofNat magnitude) := by
    unfold unsigned?
    split <;> simp_all
  rw [toList_unsigned, digits, bare, ← digits, magnitude?_decimal]
  simp [n.toNat_lt]

theorem signed?_toString (i : Int64) : signed? (toString i).toList = some i := by
  have inside : Int64.minValue.toInt ≤ i.toInt ∧ i.toInt ≤ Int64.maxValue.toInt :=
    ⟨i.le_toInt, Int.le_of_lt_add_one i.toInt_lt⟩
  have checked : (do
      guard (Int64.minValue.toInt ≤ i.toInt && i.toInt ≤ Int64.maxValue.toInt)
      return Int64.ofInt i.toInt) = some i := by
    rw [decide_eq_true inside.1, decide_eq_true inside.2, Int64.ofInt_toInt]
    rfl
  obtain ⟨n, ⟨same, text⟩ | ⟨same, text⟩⟩ := toList_signed i
  · obtain ⟨c, rest, digits, digit⟩ := exists_decimal_isDigit n
    have unsigned : c ≠ '-' ∧ c ≠ '+' := by
      constructor <;> rintro rfl <;> exact absurd digit (by decide)
    have bare : signed? (c :: rest) = (do
        let value ← Int.ofNat <$> magnitude? (c :: rest)
        guard (Int64.minValue.toInt ≤ value && value ≤ Int64.maxValue.toInt)
        return Int64.ofInt value) := by
      unfold signed?
      split <;> simp_all
    rw [text, digits, bare, ← digits, magnitude?_decimal, Option.map_eq_map, Option.map_some]
    rwa [same] at checked
  · have bare : signed? ('-' :: decimal n) = (do
        let value ← (- Int.ofNat ·) <$> magnitude? (decimal n)
        guard (Int64.minValue.toInt ≤ value && value ≤ Int64.maxValue.toInt)
        return Int64.ofInt value) := rfl
    rw [text, bare, magnitude?_decimal, Option.map_eq_map, Option.map_some]
    rwa [same] at checked

end ContinuousData.Yaml
