import ContinuousData.Proofs.StreamConservation

/-! How far garbage extends. What is at fault in front of a buffer tells how many bytes have to go
at least. From there on, everything goes up to the next type code, and not a word more. -/
namespace ContinuousData

namespace Splitter

/-- The signed number that stands at a place. -/
def wordAt (place : Nat) (buffer : Bytes) : Int32 :=
  word ((buffer.drop place).take 4)

theorem wordAt_append {place : Nat} {front rest : Bytes} (inside : place + 4 ≤ front.length) :
    wordAt place (front ++ rest) = wordAt place front := by
  rw [wordAt, List.drop_append_of_le_length (by omega),
    List.take_append_of_le_length (by rw [List.length_drop]; omega), wordAt]

theorem stops_drop_iff {place : Nat} {buffer : Bytes} :
    Stops (buffer.drop place) ↔
      buffer.length < place + 4 ∨ (FrameType.ofWire? (wordAt place buffer)).isSome :=
  or_congr_left (by rw [List.length_drop]; omega)

/-- A header has arrived that is of a known type, and its trailer is at `offset`. -/
structure HasOffset (buffer : Bytes) (offset : Nat) : Prop where
  arrived : Header.width ≤ buffer.length
  known : (FrameType.ofWire? (wordAt 0 buffer)).isSome
  value : (wordAt 4 buffer).toInt = offset
  behind : Header.width ≤ offset

/-- What can be at fault in front of a buffer, with the number of bytes up to the end of what is at
fault. The header can be, up to its own end, or the start of the trailer, up to the end of its
size. -/
inductive Fault (limit : Nat) (buffer : Bytes) : Nat → Error → Prop where
  | type (arrived : Header.width ≤ buffer.length)
      (unknown : FrameType.ofWire? (wordAt 0 buffer) = none) :
      Fault limit buffer Header.width (.unknownFrameType (wordAt 0 buffer))
  | early (arrived : Header.width ≤ buffer.length)
      (known : (FrameType.ofWire? (wordAt 0 buffer)).isSome) (early : wordAt 4 buffer < 36) :
      Fault limit buffer Header.width (.trailerInsideHeader (wordAt 4 buffer))
  | late {offset : Nat} (header : HasOffset buffer offset) (late : limit < offset) :
      Fault limit buffer Header.width (.offsetExceedsLimit offset limit)
  | size {offset : Nat} (header : HasOffset buffer offset) (near : offset ≤ limit)
      (arrived : offset + Trailer.fixedWidth ≤ buffer.length)
      (negative : wordAt (offset + 4) buffer < 0) :
      Fault limit buffer (offset + Trailer.fixedWidth)
        (.negativeAuthenticationSize (wordAt (offset + 4) buffer))
  | length {offset size : Nat} (header : HasOffset buffer offset) (near : offset ≤ limit)
      (arrived : offset + Trailer.fixedWidth ≤ buffer.length)
      (value : (wordAt (offset + 4) buffer).toInt = size)
      (long : limit < offset + Trailer.lengthFor size) :
      Fault limit buffer (offset + Trailer.fixedWidth)
        (.frameExceedsLimit (offset + Trailer.lengthFor size) limit)

variable {limit : Nat} {buffer : Bytes} {least offset : Nat} {reason : Error}

/-- The two leading fields of a header that is long enough. -/
theorem readTypeAndOffset_eq (arrived : Header.width ≤ buffer.length) :
    Header.readTypeAndOffset buffer =
      match FrameType.ofWire? (wordAt 0 buffer) with
      | none => .error (.unknownFrameType (wordAt 0 buffer)) (buffer.drop 4)
      | some type =>
        if wordAt 4 buffer < 36 then
          .error (.trailerInsideHeader (wordAt 4 buffer)) (buffer.drop 8)
        else .ok (type, (wordAt 4 buffer).toInt.toNat) (buffer.drop 8) :=
  Header.readTypeAndOffset_of_length (Nat.le_trans (by decide) arrived)

theorem not_lt_of_toInt {value bound : Int32} (h : bound.toInt ≤ value.toInt) : ¬ value < bound :=
  Int32.not_lt.mpr (Int32.le_iff_toInt_le.mpr h)

theorem HasOffset.exists_read (h : HasOffset buffer offset) :
    ∃ type left, Header.readTypeAndOffset buffer = .ok (type, offset) left := by
  obtain ⟨type, known⟩ := Option.isSome_iff_exists.mp h.known
  have behind : (36 : Int32).toInt ≤ (wordAt 4 buffer).toInt := by
    rw [h.value]
    exact Int.ofNat_le.mpr h.behind
  refine ⟨type, buffer.drop 8, ?_⟩
  rw [readTypeAndOffset_eq h.arrived, known]
  dsimp only
  rw [if_neg (not_lt_of_toInt behind), h.value, Int.toNat_natCast]

/-- Behind a sound header, the size of the authentication value decides. -/
theorem HasOffset.next_eq (h : HasOffset buffer offset) (near : offset ≤ limit)
    (arrived : offset + Trailer.fixedWidth ≤ buffer.length) :
    next limit buffer =
      if wordAt (offset + 4) buffer < 0 then
        dropGarbage (offset + Trailer.fixedWidth)
          (.negativeAuthenticationSize (wordAt (offset + 4) buffer)) buffer
      else
        let length := offset + Trailer.lengthFor (wordAt (offset + 4) buffer).toInt.toNat
        if limit < length then
          dropGarbage (offset + Trailer.fixedWidth) (.frameExceedsLimit length limit) buffer
        else if buffer.length < length then none
        else some (.frame (buffer.take length), buffer.drop length) := by
  obtain ⟨type, left, read⟩ := h.exists_read
  rw [next, if_neg (Nat.not_lt.mpr h.arrived), read]
  dsimp only
  rw [if_neg (Nat.not_lt.mpr near), if_neg (Nat.not_lt.mpr arrived)]
  rfl

theorem next_of_fault (h : Fault limit buffer least reason) :
    next limit buffer = dropGarbage least reason buffer := by
  cases h with
  | type arrived unknown =>
    rw [next, if_neg (Nat.not_lt.mpr arrived), readTypeAndOffset_eq arrived, unknown]
  | early arrived known early =>
    obtain ⟨type, known⟩ := Option.isSome_iff_exists.mp known
    rw [next, if_neg (Nat.not_lt.mpr arrived), readTypeAndOffset_eq arrived, known]
    dsimp only
    rw [if_pos early]
  | late header late =>
    obtain ⟨type, left, read⟩ := header.exists_read
    rw [next, if_neg (Nat.not_lt.mpr header.arrived), read]
    exact if_pos late
  | size header near arrived negative =>
    rw [header.next_eq near arrived, if_pos negative]
  | length header near arrived value long =>
    have nonneg : (0 : Int32).toInt ≤ (wordAt (_ + 4) buffer).toInt :=
      value ▸ Int.natCast_nonneg _
    rw [header.next_eq near arrived, if_neg (not_lt_of_toInt nonneg), value, Int.toNat_natCast]
    exact if_pos long

/-- Nothing is dropped without a fault. -/
theorem exists_fault {raw rest : Bytes} (h : next limit buffer = some (.garbage raw reason, rest)) :
    ∃ least, Fault limit buffer least reason ∧
      dropGarbage least reason buffer = some (.garbage raw reason, rest) := by
  have found (least : Nat) (why : Error) (fault : Fault limit buffer least why) :
      ∃ least, Fault limit buffer least reason ∧
        dropGarbage least reason buffer = some (.garbage raw reason, rest) := by
    rw [next_of_fault fault] at h
    obtain ⟨same, -⟩ := Prod.mk.inj (Option.some.inj h)
    obtain ⟨-, rfl⟩ := Piece.garbage.inj same
    exact ⟨least, fault, h⟩
  by_cases arrived : buffer.length < Header.width
  · rw [next, if_pos arrived] at h
    contradiction
  replace arrived := Nat.not_lt.mp arrived
  cases known : FrameType.ofWire? (wordAt 0 buffer) with
  | none => exact found _ _ (.type arrived known)
  | some type =>
    replace known := Option.isSome_of_eq_some known
    by_cases early : wordAt 4 buffer < 36
    · exact found _ _ (.early arrived known early)
    have behind : 36 ≤ (wordAt 4 buffer).toInt := Int32.le_iff_toInt_le.mp (Int32.not_lt.mp early)
    obtain ⟨offset, value⟩ := Int.eq_ofNat_of_zero_le (Int.le_trans (by decide) behind)
    have header : HasOffset buffer offset :=
      ⟨arrived, known, value, Int.ofNat_le.mp (value ▸ behind)⟩
    by_cases late : limit < offset
    · exact found _ _ (.late header late)
    replace late := Nat.not_lt.mp late
    by_cases fixed : buffer.length < offset + Trailer.fixedWidth
    · obtain ⟨_, _, read⟩ := header.exists_read
      rw [next, if_neg (Nat.not_lt.mpr arrived), read] at h
      dsimp only at h
      rw [if_neg (Nat.not_lt.mpr late), if_pos fixed] at h
      contradiction
    replace fixed := Nat.not_lt.mp fixed
    by_cases negative : wordAt (offset + 4) buffer < 0
    · exact found _ _ (.size header late fixed negative)
    obtain ⟨size, sizeValue⟩ := Int.eq_ofNat_of_zero_le
      (Int32.le_iff_toInt_le.mp (Int32.not_lt.mp negative))
    by_cases long : limit < offset + Trailer.lengthFor size
    · exact found _ _ (.length header late fixed sizeValue long)
    -- Otherwise there is a frame, or some of it has not arrived.
    rw [header.next_eq late fixed, if_neg negative, sizeValue] at h
    dsimp only at h
    rw [Int.toNat_natCast, if_neg long] at h
    split at h
    · contradiction
    · obtain ⟨same, -⟩ := Prod.mk.inj (Option.some.inj h)
      contradiction

/-- What is at fault has arrived. -/
theorem Fault.least_le (h : Fault limit buffer least reason) : least ≤ buffer.length := by
  cases h with
  | type arrived => exact arrived
  | early arrived => exact arrived
  | late header => exact header.arrived
  | size _ _ arrived => exact arrived
  | length _ _ arrived => exact arrived

/-- The search goes on word by word, and stops as soon as it can. -/
theorem exists_distance (bytes : Bytes) :
    ∃ words, distance bytes = 4 * words ∧
      IsLeast {count | Stops (bytes.drop (4 * count))} words := by
  fun_induction distance bytes with
  | case1 a b c d rest found =>
    exact ⟨0, rfl, .inr found, fun _ _ => Nat.zero_le _⟩
  | case2 a b c d rest codeless ih =>
    obtain ⟨words, length, stops, first⟩ := ih
    refine ⟨words + 1, by omega, stops, ?_⟩
    intro count stop
    cases count with
    | zero =>
      have start : Stops (a :: b :: c :: d :: rest) := stop
      rcases start with short | found
      · simp only [List.length_cons] at short
        omega
      · exact absurd found codeless
    | succ count => exact Nat.succ_le_succ (first stop)
  | case3 bytes short =>
    refine ⟨0, rfl, .inl ?_, fun _ _ => Nat.zero_le _⟩
    by_contra long
    rcases bytes with _ | ⟨a, _ | ⟨b, _ | ⟨c, _ | ⟨d, rest⟩⟩⟩⟩
    case cons.cons.cons.cons => exact short a b c d rest rfl
    all_goals simp at long

theorem dropGarbage_iff {raw rest : Bytes} (inside : least ≤ buffer.length) :
    dropGarbage least reason buffer = some (.garbage raw reason, rest) ↔
      ∃ words, IsLeast {count | Stops (buffer.drop (least + 4 * count))} words ∧
        raw.length = least + 4 * words ∧ raw ++ rest = buffer := by
  obtain ⟨words, length, least'⟩ := exists_distance (buffer.drop least)
  simp only [List.drop_drop] at least'
  have count : garbageLength least buffer = least + 4 * words := by rw [garbageLength, length]
  have within : least + 4 * words ≤ buffer.length := by
    have := distance_le (buffer.drop least)
    rw [List.length_drop] at this
    omega
  unfold dropGarbage
  dsimp only
  rw [count]
  constructor
  · intro h
    obtain ⟨same, rfl⟩ := Prod.mk.inj (Option.some.inj h)
    rw [← (Piece.garbage.inj same).1]
    exact ⟨words, least', List.length_take_of_le within, List.take_append_drop _ buffer⟩
  · rintro ⟨others, least'', long, rfl⟩
    obtain rfl := least''.unique least'
    rw [← long, List.take_left, List.drop_left]

/-- The search for garbage stops at frames, and at the end of the buffer. -/
theorem stops_of_outlines (outlines : List Outline) :
    Stops (outlines.map (·.raw)).flatten := by
  cases outlines with
  | nil => exact .inl (by decide)
  | cons first others => exact stops_of_flatten (List.append_nil _)

theorem pieces_of_outlines {outlines : List Outline}
    (short : ∀ o ∈ outlines, o.raw.length ≤ limit) :
    pieces limit (outlines.map (·.raw)).flatten = (outlines.map (.frame ·.raw), []) := by
  have all : feedAll limit [] [(outlines.map (·.raw)).flatten] =
      (outlines.map (.frame ·.raw), []) :=
    feedAll_of_flatten short rfl (List.append_nil _)
  rw [feedAll, feed, List.nil_append] at all
  dsimp only [feedAll] at all
  rwa [List.append_nil] at all

/-- Something is dropped exactly if there is a fault, and then no more than what is at fault and the
words that follow up to the first one that may be a frame, or up to the last one that has arrived.
So if there are frames behind garbage without a type code, all of the garbage is dropped at once,
and the frames are found. -/
theorem next_eq_garbage_iff (limit : Nat) (buffer : Bytes) :
    (∀ raw reason rest, next limit buffer = some (.garbage raw reason, rest) ↔
      ∃ least words, Fault limit buffer least reason ∧
        IsLeast {count | Stops (buffer.drop (least + 4 * count))} words ∧
        raw.length = least + 4 * words ∧ raw ++ rest = buffer) ∧
    ∀ (garbage : Bytes) (outlines : List Outline) (least words : Nat) (reason : Error),
      buffer = garbage ++ (outlines.map (·.raw)).flatten → Fault limit buffer least reason →
      garbage.length = least + 4 * words →
      (∀ count < words, FrameType.ofWire? (wordAt (least + 4 * count) garbage) = none) →
      (∀ o ∈ outlines, o.raw.length ≤ limit) →
      pieces limit buffer = (.garbage garbage reason :: outlines.map (.frame ·.raw), []) := by
  constructor
  · intro raw reason rest
    constructor
    · intro h
      obtain ⟨least, fault, dropped⟩ := exists_fault h
      obtain ⟨words, stop⟩ := (dropGarbage_iff fault.least_le).mp dropped
      exact ⟨least, words, fault, stop⟩
    · rintro ⟨least, words, fault, stop⟩
      rw [next_of_fault fault]
      exact (dropGarbage_iff fault.least_le).mpr ⟨words, stop⟩
  · rintro garbage outlines least words reason rfl fault length codeless short
    have first : IsLeast
        {count | Stops ((garbage ++ (outlines.map (·.raw)).flatten).drop (least + 4 * count))}
        words := by
      refine ⟨?_, ?_⟩
      · rw [Set.mem_ofPred_eq, ← length, List.drop_left]
        exact stops_of_outlines outlines
      · intro count stop
        by_contra before
        rcases stops_drop_iff.mp stop with few | found
        · rw [List.length_append] at few
          omega
        · rw [wordAt_append (by omega), codeless count (Nat.not_le.mp before)] at found
          contradiction
    have dropped : dropGarbage least reason (garbage ++ (outlines.map (·.raw)).flatten) =
        some (.garbage garbage reason, (outlines.map (·.raw)).flatten) :=
      (dropGarbage_iff fault.least_le).mpr ⟨words, first, length, rfl⟩
    rw [← next_of_fault fault] at dropped
    rw [pieces_of_some dropped, pieces_of_outlines short]

/-- A header of a known type, whose trailer starts within a word and has a negative size. One more
word follows. -/
def misplaced : Bytes :=
  Encoder.i32 FrameType.customReset.code ++ Encoder.length 38 ++ Bytes.zeros 34 ++ noise 2

/-- The reason is found behind the offset of the trailer, the frame one word later. -/
theorem next_eq_garbage_misplaced :
    ∃ frame : Outline, frame.raw.length = 52 ∧
      Fault 52 (misplaced ++ frame.raw) 46 (.negativeAuthenticationSize (-1)) ∧
      next 52 misplaced = some (.garbage misplaced (.negativeAuthenticationSize (-1)), []) ∧
      pieces 52 (misplaced ++ frame.raw) =
        ([.garbage misplaced (.negativeAuthenticationSize (-1)), .frame frame.raw], []) := by
  have outline : ∃ frame : Outline, frame.raw.length = 52 :=
    ⟨⟨.customReset, Bytes.zeros 28, Bytes.zeros 4, 0, Bytes.zeros 8, by decide, by decide,
      by decide, by decide, rfl, rfl⟩, rfl⟩
  obtain ⟨frame, length⟩ := outline
  have fault (rest : Bytes) :
      Fault 52 (misplaced ++ rest) 46 (.negativeAuthenticationSize (-1)) := by
    have inside : 50 ≤ (misplaced ++ rest).length := by
      rw [List.length_append]
      exact Nat.le_add_right _ _
    have type : wordAt 0 (misplaced ++ rest) = FrameType.customReset.code :=
      (wordAt_append (by decide)).trans (by decide)
    have offset : wordAt 4 (misplaced ++ rest) = 38 :=
      (wordAt_append (by decide)).trans (by decide)
    have size : wordAt 42 (misplaced ++ rest) = -1 :=
      (wordAt_append (by decide)).trans (by decide)
    have header : HasOffset (misplaced ++ rest) 38 :=
      ⟨Nat.le_trans (by decide) inside, by rw [type]; rfl, by rw [offset]; rfl, by decide⟩
    rw [← size]
    exact .size header (by decide) (Nat.le_trans (by decide) inside) (by rw [size]; decide)
  have alone : Fault 52 misplaced 46 (.negativeAuthenticationSize (-1)) :=
    List.append_nil misplaced ▸ fault []
  refine ⟨frame, length, fault _, ?_, ?_⟩
  · refine ((next_eq_garbage_iff 52 misplaced).1 _ _ _).mpr ⟨46, 1, alone, ⟨?_, ?_⟩, rfl, rfl⟩
    · exact .inl (by decide)
    · intro count stop
      by_contra before
      obtain rfl : count = 0 := by omega
      exact absurd (stops_drop_iff.mp stop) (by decide)
  · refine (next_eq_garbage_iff 52 _).2 misplaced [frame] 46 1 _ ?_ (fault _) rfl ?_ ?_
    · simp
    · intro count before
      obtain rfl : count = 0 := by omega
      rfl
    · simp [length]

end Splitter

end ContinuousData
