import ContinuousData.Proofs.FieldReading
import ContinuousData.Proofs.Utf8Decoding
import Mathlib.Data.List.Flatten

/-! Texts in fields of fixed width. What comes back is the text without NUL characters and without
white space at its ends, so plain texts come back as they are. Of a text without anything to see,
nothing comes back. -/
namespace ContinuousData

namespace Text

/-- Text without NUL characters and without white space at its ends. -/
def IsPlain (s : String) : Prop :=
  '\x00' ∉ s.toList ∧ (∀ c ∈ s.toList.head?, isBlank c = false) ∧
    ∀ c ∈ s.toList.getLast?, isBlank c = false

-- A search could find the instance that goes through all characters there are.
instance (s : String) : Decidable (IsPlain s) :=
  @instDecidableAnd _ _ inferInstance
    (@instDecidableAnd _ _ (Option.decidableForallMem _) (Option.decidableForallMem _))

theorem dropWhile_isBlank {cs : List Char} (h : ∀ c ∈ cs.head?, isBlank c = false) :
    cs.dropWhile isBlank = cs := by
  cases cs with
  | nil => rfl
  | cons c cs => simp [h c rfl]

theorem trimChars_of_ends {cs : List Char} (first : ∀ c ∈ cs.head?, isBlank c = false)
    (last : ∀ c ∈ cs.getLast?, isBlank c = false) : trimChars cs = cs := by
  unfold trimChars
  rw [dropWhile_isBlank first, dropWhile_isBlank (by simpa using last), List.reverse_reverse]

/-- What a field keeps of a text. -/
def kept (s : String) : String :=
  String.ofList (trimChars (s.toList.filter (· ≠ '\x00')))

/-- A field filled up with NUL bytes. -/
theorem strip_encode_append (s : String) (count : Nat) :
    strip (encode s ++ Bytes.zeros count) = kept s := by
  have zeros : (Bytes.zeros count).filter (· ≠ 0) = [] := by simp [Bytes.zeros]
  unfold strip encode kept
  rw [List.filter_append, zeros, List.append_nil, filter_flatMap_encodeChar, decode_flatMap]

theorem strip_encode (s : String) : strip (encode s) = kept s := by
  simpa [Bytes.zeros] using strip_encode_append s 0

theorem kept_of_plain {s : String} (plain : IsPlain s) : kept s = s := by
  have all : s.toList.filter (· ≠ '\x00') = s.toList :=
    List.filter_eq_self.mpr fun c hc => by
      have : c ≠ '\x00' := fun nul => plain.1 (nul ▸ hc)
      simpa using this
  rw [kept, all, trimChars_of_ends plain.2.1 plain.2.2, String.ofList_toList]

theorem head?_dropWhile_isBlank (cs : List Char) :
    ∀ c ∈ (cs.dropWhile isBlank).head?, isBlank c = false := by
  intro c h
  have first := List.head?_dropWhile_not isBlank cs
  rwa [Option.mem_def.mp h] at first

theorem ends_trimChars (cs : List Char) :
    (∀ c ∈ (trimChars cs).head?, isBlank c = false) ∧
      ∀ c ∈ (trimChars cs).getLast?, isBlank c = false := by
  constructor
  · intro c h
    obtain ⟨back, front⟩ : trimChars cs <+: cs.dropWhile isBlank := by
      rw [trimChars, ← List.reverse_suffix, List.reverse_reverse]
      exact List.dropWhile_suffix isBlank
    apply head?_dropWhile_isBlank cs
    rw [← front, List.head?_append, Option.mem_def.mp h]
    rfl
  · rw [trimChars, List.getLast?_reverse]
    exact head?_dropWhile_isBlank _

theorem trimChars_sublist_self (cs : List Char) : (trimChars cs).Sublist cs := by
  have back := List.dropWhile_sublist (l := (cs.dropWhile isBlank).reverse) isBlank
  rw [← List.reverse_sublist, List.reverse_reverse] at back
  exact back.trans (List.dropWhile_sublist isBlank)

/-- What a field has kept of a text, another field keeps as it is. -/
theorem isPlain_kept (s : String) : IsPlain (kept s) := by
  unfold IsPlain kept
  rw [String.toList_ofList]
  refine ⟨fun nul => ?_, ends_trimChars _⟩
  simpa using List.of_mem_filter ((trimChars_sublist_self _).subset nul)

/-- What is read from a field is plain, whatever its bytes are. -/
theorem isPlain_strip (raw : Bytes) : IsPlain (strip raw) := by
  unfold IsPlain strip
  rw [String.toList_ofList]
  refine ⟨fun nul => ?_, ends_trimChars _⟩
  have nonzero : (0 : UInt8) ∉ raw.filter (· ≠ 0) := by simp
  exact nul_notMem_decodeFrom nonzero 0 ((trimChars_sublist_self _).subset nul)

/-- Text in which there is something to see. -/
def IsLegible (s : String) : Prop :=
  ∃ c ∈ s.toList, c ≠ '\x00' ∧ isBlank c = false

instance (s : String) : Decidable (IsLegible s) :=
  List.decidableBEx _ _

theorem trimChars_eq_nil_iff {cs : List Char} :
    trimChars cs = [] ↔ ∀ c ∈ cs, isBlank c = true := by
  unfold trimChars
  rw [List.reverse_eq_nil_iff, List.dropWhile_eq_nil_iff]
  simp only [List.mem_reverse]
  constructor
  · intro h c hc
    rw [← List.takeWhile_append_dropWhile (p := isBlank) (l := cs), List.mem_append] at hc
    exact hc.elim List.mem_takeWhile_imp (h c)
  · intro h c hc
    exact h c (List.dropWhile_subset isBlank hc)

theorem kept_eq_empty_iff {s : String} : kept s = "" ↔ ¬ IsLegible s := by
  unfold kept IsLegible
  rw [String.ofList_eq_empty_iff, trimChars_eq_nil_iff]
  simp

theorem isBlankText_iff {s : String} (plain : IsPlain s) : isBlankText s = true ↔ s = "" := by
  rw [isBlankText, List.all_eq_true, ← trimChars_eq_nil_iff,
    trimChars_of_ends plain.2.1 plain.2.2, String.toList_eq_nil_iff]

theorem isLegible_of_plain {s : String} (plain : IsPlain s) (some : s ≠ "") : IsLegible s := by
  by_contra illegible
  rw [← kept_eq_empty_iff, kept_of_plain plain] at illegible
  contradiction

theorem trim_of_plain {s : String} (plain : IsPlain s) : trim s = s := by
  rw [trim, trimChars_of_ends plain.2.1 plain.2.2, String.ofList_toList]

theorem dropWhile_isBlank_sublist {xs ys : List Char} (h : xs.Sublist ys) :
    (xs.dropWhile isBlank).Sublist (ys.dropWhile isBlank) := by
  induction h with
  | slnil => exact .slnil
  | cons c h ih =>
    rw [List.dropWhile_cons]
    split
    · exact ih
    · exact ((List.dropWhile_sublist isBlank).trans h).cons c
  | cons_cons c h ih =>
    rw [List.dropWhile_cons, List.dropWhile_cons]
    split
    · exact ih
    · exact h.cons_cons c

theorem trimChars_sublist {xs ys : List Char} (h : xs.Sublist ys) :
    (trimChars xs).Sublist (trimChars ys) :=
  (dropWhile_isBlank_sublist (dropWhile_isBlank_sublist h).reverse).reverse

/-- White space behind NUL characters is not kept either. -/
theorem size_kept_le_trim (s : String) : size (kept s) ≤ size (trim s) := by
  unfold size encode kept trim
  rw [String.toList_ofList, String.toList_ofList]
  exact ((trimChars_sublist List.filter_sublist).flatMap _).length_le

theorem size_kept_le (s : String) : size (kept s) ≤ size s := by
  unfold size encode kept
  rw [String.toList_ofList]
  exact (((trimChars_sublist_self _).trans List.filter_sublist).flatMap _).length_le

theorem size_eq_zero_iff {s : String} : size s = 0 ↔ s = "" := by
  unfold size encode
  rw [List.length_eq_zero_iff, List.flatMap_eq_nil_iff, ← String.toList_eq_nil_iff]
  refine ⟨fun h => List.eq_nil_iff_forall_not_mem.mpr fun c hc => ?_, fun h => by simp [h]⟩
  have long := c.utf8Size_pos
  rw [← String.length_utf8EncodeChar, h c hc] at long
  contradiction

/-- Each character of seven bits takes one byte. -/
theorem size_of_ascii {s : String} (h : ∀ c ∈ s.toList, c.toNat < 128) :
    size s = s.toList.length := by
  unfold size encode
  generalize s.toList = cs at h
  induction cs with
  | nil => rfl
  | cons c cs ih =>
    obtain ⟨small, others⟩ := List.forall_mem_cons.mp h
    have one : String.utf8EncodeChar c = [UInt8.ofNat c.val.toNat] :=
      if_pos (Nat.le_of_lt_succ small)
    rw [List.flatMap_cons, List.length_append, ih others, one, List.length_cons, List.length_cons,
      List.length_nil]
    omega

end Text

namespace Encoder

theorem text_eq_ok {s : String} {width : Nat} {written : Bytes} (h : text s width = .ok written) :
    Text.size s ≤ width ∧ written = Text.encode s ++ Bytes.zeros (width - Text.size s) := by
  unfold text at h
  split at h
  · contradiction
  · exact ⟨by omega, (Except.ok.inj h).symm⟩

theorem text_of_size {s : String} {width : Nat} (h : Text.size s ≤ width) :
    text s width = .ok (Text.encode s ++ Bytes.zeros (width - Text.size s)) := by
  rw [text, if_neg (by omega)]
  rfl

theorem length_text {s : String} {width : Nat} {written : Bytes} (h : text s width = .ok written) :
    written.length = width := by
  obtain ⟨fits, rfl⟩ := text_eq_ok h
  unfold Text.size at *
  simp
  omega

end Encoder

namespace Decoder

/-- Any text can be read back, though not as it was. -/
theorem reads_text_kept {s : String} {width : Nat} {written : Bytes}
    (h : Encoder.text s width = .ok written) : Reads (text width) written (Text.kept s) := by
  have read := (reads_bytes written).map Text.strip
  rw [Encoder.length_text h] at read
  obtain ⟨-, rfl⟩ := Encoder.text_eq_ok h
  rwa [Text.strip_encode_append] at read

theorem reads_text {s : String} {width : Nat} {written : Bytes}
    (h : Encoder.text s width = .ok written) (plain : Text.IsPlain s) :
    Reads (text width) written s := by
  have read := reads_text_kept h
  rwa [Text.kept_of_plain plain] at read

end Decoder

namespace Text

/-- What is left of a text without the white space around it. -/
structure IsInner (cs inner : List Char) : Prop where
  around : ∃ before after, cs = before ++ inner ++ after ∧ (∀ c ∈ before, isBlank c = true) ∧
    ∀ c ∈ after, isBlank c = true
  first : ∀ c ∈ inner.head?, isBlank c = false
  last : ∀ c ∈ inner.getLast?, isBlank c = false

theorem isInner_trimChars (cs : List Char) : IsInner cs (trimChars cs) where
  around := by
    refine ⟨cs.takeWhile isBlank, ((cs.dropWhile isBlank).reverse.takeWhile isBlank).reverse, ?_,
      fun _ => List.mem_takeWhile_imp, fun c hc => ?_⟩
    · rw [List.append_assoc, trimChars, ← List.reverse_append, List.takeWhile_append_dropWhile,
        List.reverse_reverse, List.takeWhile_append_dropWhile]
    · exact List.mem_takeWhile_imp (List.mem_reverse.mp hc)
  first := (ends_trimChars cs).1
  last := (ends_trimChars cs).2

theorem IsInner.eq_trimChars {cs inner : List Char} (h : IsInner cs inner) :
    inner = trimChars cs := by
  obtain ⟨before, after, rfl, front, back⟩ := h.around
  cases inner with
  | nil =>
    symm
    rw [trimChars_eq_nil_iff, List.append_nil]
    exact fun c hc => (List.mem_append.mp hc).elim (front c) (back c)
  | cons c inner =>
    have visible : ∀ x ∈ (c :: inner ++ after).head?, isBlank x = false := h.first
    have start : (before ++ (c :: inner) ++ after).dropWhile isBlank = c :: inner ++ after := by
      rw [List.append_assoc, List.dropWhile_append_of_pos front, dropWhile_isBlank visible]
    have rest : (c :: inner ++ after).reverse.dropWhile isBlank = (c :: inner).reverse := by
      rw [List.reverse_append, List.dropWhile_append_of_pos (by simpa using back),
        dropWhile_isBlank (by rw [List.head?_reverse]; exact h.last)]
    rw [trimChars, start, rest, List.reverse_reverse]

theorem isInner_iff {cs inner : List Char} : IsInner cs inner ↔ inner = trimChars cs :=
  ⟨IsInner.eq_trimChars, fun h => h ▸ isInner_trimChars cs⟩

theorem kept_eq_self_iff {s : String} : kept s = s ↔ IsPlain s :=
  ⟨fun same => same ▸ isPlain_kept s, kept_of_plain⟩

theorem strip_encode_strip (raw : Bytes) : strip (encode (strip raw)) = strip raw := by
  rw [strip_encode, kept_of_plain (isPlain_strip raw)]

/-- A field holds any text that is short enough, and what is read from it is the text without its
NUL characters and then without the white space around it. Once read, a text does not change. -/
theorem strips_fields :
    (∀ (s : String) (width : Nat), size s ≤ width →
      ∃ written inner, Encoder.text s width = .ok written ∧ written.length = width ∧
        (∀ rest, Decoder.text width (written ++ rest) = .ok inner rest) ∧
        (∀ cs, IsInner (s.toList.filter (· ≠ '\x00')) cs ↔ cs = inner.toList) ∧
        (inner = s ↔ IsPlain s)) ∧
    ∀ raw, strip (encode (strip raw)) = strip raw := by
  refine ⟨fun s width fits => ?_, strip_encode_strip⟩
  have written := Encoder.text_of_size fits
  refine ⟨_, kept s, written, Encoder.length_text written, Decoder.reads_text_kept written,
    fun cs => ?_, kept_eq_self_iff⟩
  rw [isInner_iff, kept, String.toList_ofList]

/-- A text with a NUL character behind a blank, and bytes of a character that a zero byte interrupts,
in front of one that begins nothing. -/
theorem strips_fields_interrupted :
    size " \x00A" ≤ 5 ∧
      (∃ written inner, Encoder.text " \x00A" 5 = .ok written ∧ written.length = 5 ∧
        (∀ rest, Decoder.text 5 (written ++ rest) = .ok inner rest) ∧ inner = "A") ∧
      strip [0xE2, 0x82, 0, 0xAC, 0xFF] = "€\uFFFD" ∧
      strip (encode "€\uFFFD") = "€\uFFFD" := by
  have fits : size " \x00A" ≤ 5 := by decide
  have read : strip [0xE2, 0x82, 0, 0xAC, 0xFF] = "€\uFFFD" := by decide
  obtain ⟨fields, again⟩ := strips_fields
  obtain ⟨written, inner, stored, width, back, unique, -⟩ := fields " \x00A" 5 fits
  refine ⟨fits, ⟨written, inner, stored, width, back, ?_⟩, read, read ▸ again _⟩
  have visible : ∀ c ∈ some 'A', isBlank c = false := by
    rintro _ ⟨⟩
    decide
  have alone : IsInner (" \x00A".toList.filter (· ≠ '\x00')) ['A'] :=
    ⟨⟨[' '], [], rfl, List.forall_mem_singleton.mpr (by decide), nofun⟩, visible, visible⟩
  rw [← String.toList_inj, ← (unique _).mp alone]
  rfl

end Text

end ContinuousData
