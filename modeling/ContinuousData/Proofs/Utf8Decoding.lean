import ContinuousData.Text.Utf8
import Mathlib.Data.List.TakeWhile
import Mathlib.Tactic.SplitIfs

/-! Texts are read back from their bytes: the sequence of each character is recognised whole and
has the value of the character, whatever follows it. -/
namespace ContinuousData.Text

theorem announced_eq (lead : UInt8) :
    announced lead =
      if lead.toNat < 0x80 then 1 else if lead.toNat < 0xC2 then 0
      else if lead.toNat < 0xE0 then 2 else if lead.toNat < 0xF0 then 3
      else if lead.toNat < 0xF5 then 4 else 0 := by
  simp [announced, UInt8.lt_iff_toNat_lt]

theorem isContinuation_iff (byte : UInt8) :
    isContinuation byte = true ↔ 0x80 ≤ byte.toNat ∧ byte.toNat ≤ 0xBF := by
  simp [isContinuation, UInt8.le_iff_toNat_le]

theorem isSecond_iff (lead second : UInt8) :
    isSecond lead second = true ↔
      (if lead.toNat = 0xE0 then 0xA0 else if lead.toNat = 0xF0 then 0x90 else 0x80) ≤
        second.toNat ∧
      second.toNat ≤ (if lead.toNat = 0xED then 0x9F else if lead.toNat = 0xF4 then 0x8F
        else 0xBF) := by
  simp only [isSecond, Bool.and_eq_true, decide_eq_true_eq, UInt8.le_iff_toNat_le,
    ← UInt8.toNat_inj, apply_ite UInt8.toNat]
  rfl

/-- A sequence as long as its lead announces is found whole. -/
theorem continuation_append {lead : UInt8} {tail : Bytes} (rest : Bytes)
    (whole : tail.length + 1 = announced lead) (inner : ∀ byte ∈ tail, isContinuation byte = true)
    (second : ∀ byte ∈ tail.head?, isSecond lead byte = true) :
    continuation lead (tail ++ rest) = tail := by
  have count : announced lead - 1 = tail.length := by omega
  cases tail with
  | nil =>
    cases rest with
    | nil => rfl
    | cons byte rest => simp [continuation, count]
  | cons byte others =>
    have first := second byte rfl
    rw [List.cons_append, continuation, if_pos first, count, ← List.cons_append, List.take_left]
    exact List.takeWhile_eq_self_iff.mpr inner

theorem decodeFrom_length (tail rest : Bytes) :
    decodeFrom tail.length (tail ++ rest) = decodeFrom 0 rest := by
  induction tail with
  | nil => rfl
  | cons byte tail ih => simpa [decodeFrom] using ih

theorem decodeFrom_sequence (lead : UInt8) (tail : Bytes) {c : Char} (rest : Bytes)
    (whole : tail.length + 1 = announced lead) (inner : ∀ byte ∈ tail, isContinuation byte = true)
    (second : ∀ byte ∈ tail.head?, isSecond lead byte = true)
    (value : codePoint lead tail = c.toNat) :
    decodeFrom 0 (lead :: tail ++ rest) = c :: decodeFrom 0 rest := by
  have found := continuation_append rest whole inner second
  have character : front lead (tail ++ rest) = (c, tail.length) := by
    simp [front, found, whole, value, Char.ofNat_toNat]
  rw [List.cons_append, decodeFrom, character, decodeFrom_length]

theorem announced_ofNat {n : Nat} (h : n < 256) :
    announced (UInt8.ofNat n) =
      if n < 0x80 then 1 else if n < 0xC2 then 0 else if n < 0xE0 then 2
      else if n < 0xF0 then 3 else if n < 0xF5 then 4 else 0 := by
  rw [announced_eq, UInt8.toNat_ofNat_of_lt' h]

theorem isContinuation_ofNat (n : Nat) : isContinuation (UInt8.ofNat (n % 0x40 + 0x80)) = true := by
  rw [isContinuation_iff, UInt8.toNat_ofNat_of_lt' (by simp [UInt8.size]; omega)]
  omega

theorem decodeFrom_encodeChar (c : Char) (rest : Bytes) :
    decodeFrom 0 (String.utf8EncodeChar c ++ rest) = c :: decodeFrom 0 rest := by
  have valid : c.val.toNat < 0xD800 ∨ 0xDFFF < c.val.toNat ∧ c.val.toNat < 0x110000 := c.valid
  have value : c.toNat = c.val.toNat := rfl
  unfold String.utf8EncodeChar
  dsimp only
  generalize c.val.toNat = n at valid value
  split_ifs with one two three
  · apply decodeFrom_sequence _ [] rest
    case whole =>
      rw [announced_ofNat (by omega)]
      grind
    case inner => simp
    case second => simp
    case value =>
      simp [codePoint, value]
      omega
  · apply decodeFrom_sequence _ [_] rest
    case whole =>
      rw [announced_ofNat (by omega)]
      grind
    case inner =>
      simp only [List.forall_mem_cons, isContinuation_ofNat, List.not_mem_nil, false_implies,
        implies_true, and_true]
    case second =>
      simp [isSecond_iff]
      split_ifs <;> omega
    case value =>
      simp [codePoint, value]
      omega
  · apply decodeFrom_sequence _ [_, _] rest
    case whole =>
      rw [announced_ofNat (by omega)]
      grind
    case inner =>
      simp only [List.forall_mem_cons, isContinuation_ofNat, List.not_mem_nil, false_implies,
        implies_true, and_true]
    case second =>
      simp [isSecond_iff]
      split_ifs <;> omega
    case value =>
      simp [codePoint, value]
      omega
  · apply decodeFrom_sequence _ [_, _, _] rest
    case whole =>
      rw [announced_ofNat (by omega)]
      grind
    case inner =>
      simp only [List.forall_mem_cons, isContinuation_ofNat, List.not_mem_nil, false_implies,
        implies_true, and_true]
    case second =>
      simp [isSecond_iff]
      split_ifs <;> omega
    case value =>
      simp [codePoint, value]
      omega

theorem decode_flatMap (cs : List Char) : decode (cs.flatMap String.utf8EncodeChar) = cs := by
  unfold decode
  induction cs with
  | nil => rfl
  | cons c cs ih => rw [List.flatMap_cons, decodeFrom_encodeChar, ih]

/-- Only the NUL character has a zero byte in its sequence. -/
theorem ne_zero_of_mem_encodeChar {c : Char} (h : c ≠ '\x00') :
    ∀ byte ∈ String.utf8EncodeChar c, byte ≠ 0 := by
  have positive : c.val.toNat ≠ 0 := fun zero => h (Char.ext (UInt32.toNat_inj.mp zero))
  have valid : c.val.toNat < 0xD800 ∨ 0xDFFF < c.val.toNat ∧ c.val.toNat < 0x110000 := c.valid
  unfold String.utf8EncodeChar
  dsimp only
  split_ifs <;> simp only [List.forall_mem_cons, List.not_mem_nil, false_implies, implies_true,
    and_true, ne_eq, ← UInt8.toNat_inj, UInt8.toNat_ofNat', UInt8.toNat_zero] <;> omega

theorem filter_encodeChar (c : Char) :
    (String.utf8EncodeChar c).filter (· ≠ 0) =
      ([c].filter (· ≠ '\x00')).flatMap String.utf8EncodeChar := by
  by_cases h : c = '\x00'
  · subst h
    rfl
  · rw [List.filter_eq_self.mpr (by simpa using ne_zero_of_mem_encodeChar h)]
    simp [h]

theorem filter_flatMap_encodeChar (cs : List Char) :
    (cs.flatMap String.utf8EncodeChar).filter (· ≠ 0) =
      (cs.filter (· ≠ '\x00')).flatMap String.utf8EncodeChar := by
  induction cs with
  | nil => rfl
  | cons c cs ih =>
    rw [List.flatMap_cons, List.filter_append, ih, filter_encodeChar, ← List.flatMap_append,
      ← List.filter_append, List.singleton_append]

/-- The second byte of a sequence is one that may follow its lead. -/
theorem isSecond_of_continuation {lead : UInt8} {rest : Bytes} :
    ∀ byte ∈ (continuation lead rest).head?, isSecond lead byte = true := by
  cases rest with
  | nil => simp [continuation]
  | cons second others =>
    by_cases h : isSecond lead second = true
    · rw [continuation, if_pos h]
      intro byte first
      obtain ⟨back, split⟩ := (List.takeWhile_prefix (l := (second :: others).take
        (announced lead - 1)) isContinuation).trans (List.take_prefix _ _)
      have same : (second :: others).head? = some byte := by
        rw [← split, List.head?_append, Option.mem_def.mp first]
        rfl
      rwa [← Option.some.inj same]
    · simp [continuation, h]

/-- A complete sequence has the value of a character, and only the zero byte that of NUL. -/
theorem codePoint_isValid {lead : UInt8} {tail : Bytes} (nonzero : lead ≠ 0)
    (whole : tail.length + 1 = announced lead)
    (second : ∀ byte ∈ tail.head?, isSecond lead byte = true) :
    (codePoint lead tail).isValidChar ∧ codePoint lead tail ≠ 0 := by
  have positive : lead.toNat ≠ 0 := fun zero => nonzero (UInt8.toNat_inj.mp zero)
  rw [announced_eq] at whole
  match tail with
  | [] =>
    simp only [List.length_nil, Nat.zero_add] at whole
    simp only [codePoint, Nat.isValidChar, List.length_nil, if_true, List.foldl_nil]
    split_ifs at whole <;> omega
  | [first] =>
    simp only [List.length_cons, List.length_nil, Nat.zero_add, Nat.reduceAdd] at whole
    simp [codePoint, Nat.isValidChar]
    split_ifs at whole <;> omega
  | [first, last] =>
    have bounds := (isSecond_iff lead first).mp (second first rfl)
    simp only [List.length_cons, List.length_nil, Nat.zero_add, Nat.reduceAdd] at whole
    simp [codePoint, Nat.isValidChar]
    split_ifs at whole bounds <;> omega
  | [first, middle, last] =>
    have bounds := (isSecond_iff lead first).mp (second first rfl)
    simp only [List.length_cons, List.length_nil, Nat.zero_add, Nat.reduceAdd] at whole
    simp [codePoint, Nat.isValidChar]
    split_ifs at whole bounds <;> omega
  | _ :: _ :: _ :: _ :: more =>
    simp only [List.length_cons] at whole
    split_ifs at whole <;> omega

theorem front_ne_nul {lead : UInt8} (nonzero : lead ≠ 0) (rest : Bytes) :
    (front lead rest).1 ≠ '\x00' := by
  unfold front
  dsimp only
  split
  case isFalse =>
    show replacement ≠ '\x00'
    decide
  case isTrue whole =>
    obtain ⟨valid, positive⟩ := codePoint_isValid nonzero whole isSecond_of_continuation
    intro nul
    have value := congrArg Char.toNat nul
    rw [Char.ofNat, dif_pos valid] at value
    exact positive value

/-- Without zero bytes there are no NUL characters. -/
theorem nul_notMem_decodeFrom {bytes : Bytes} (h : 0 ∉ bytes) (skip : Nat) :
    '\x00' ∉ decodeFrom skip bytes := by
  fun_induction decodeFrom skip bytes with
  | case1 skip => simp
  | case2 skip byte rest ih => exact ih fun member => h (List.mem_cons_of_mem _ member)
  | case3 lead rest ih =>
    rw [List.mem_cons, not_or] at h ⊢
    exact ⟨(front_ne_nul (Ne.symm h.1) rest).symm, ih h.2⟩

end ContinuousData.Text
