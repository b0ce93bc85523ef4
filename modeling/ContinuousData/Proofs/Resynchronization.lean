import ContinuousData.Proofs.FrameBoundaries
import Mathlib

/-! Garbage in front of frames. It is dropped as far as it has arrived, and never less than a
header's length at once. A drop that starts too close to the end of the garbage takes the first
bytes of the frames with it. -/
namespace ContinuousData

/-- The bytes of a frame that was found. -/
def Piece.frame? : Piece → Option Bytes
  | .frame raw => some raw
  | .garbage _ _ => none

namespace Splitter

theorem word_i32 (value : Int32) : word (Encoder.i32 value) = value := by
  have whole : value.toUInt32.toNat % Nat.pow 256 4 = value.toUInt32.toNat :=
    Nat.mod_eq_of_lt value.toUInt32.toNat_lt
  rw [word, Encoder.i32, Bytes.ofBigEndian_bigEndian, whole, UInt32.ofNat_toNat]
  exact Int32.toInt32_toUInt32 value

/-- Whole words, none of which is a type code. -/
structure IsGarbage (bytes : Bytes) : Prop where
  aligned : bytes.length % 4 = 0
  codeless : ∀ start, start % 4 = 0 → start < bytes.length →
    FrameType.ofWire? (word ((bytes.drop start).take 4)) = none

theorem IsGarbage.drop {bytes : Bytes} (h : IsGarbage bytes) {count : Nat} (whole : count % 4 = 0) :
    IsGarbage (bytes.drop count) where
  aligned := by
    have := h.aligned
    rw [List.length_drop]
    omega
  codeless := by
    intro start aligned inside
    rw [List.length_drop] at inside
    rw [List.drop_drop]
    exact h.codeless (count + start) (by omega) (by omega)

theorem IsGarbage.take {bytes : Bytes} (h : IsGarbage bytes) {count : Nat} (whole : count % 4 = 0) :
    IsGarbage (bytes.take count) where
  aligned := by
    have := h.aligned
    rw [List.length_take]
    omega
  codeless := by
    intro start aligned inside
    rw [List.length_take] at inside
    have behind : min 4 (count - start) = 4 := by omega
    rw [List.drop_take, List.take_take, behind]
    exact h.codeless start aligned (by omega)

/-- Of garbage that is still arriving, all but the last few bytes are whole words. -/
theorem IsGarbage.exists_words {bytes later : Bytes} (h : IsGarbage (bytes ++ later)) :
    ∃ words rest, bytes = words ++ rest ∧ words.length = bytes.length / 4 * 4 ∧
      rest.length = bytes.length % 4 ∧ IsGarbage words ∧ IsGarbage (rest ++ later) := by
  have count := Nat.div_mul_le_self bytes.length 4
  have whole := Nat.mul_mod_left (bytes.length / 4) 4
  have front := h.take whole
  have back := h.drop whole
  rw [List.take_append_of_le_length count] at front
  rw [List.drop_append_of_le_length count] at back
  refine ⟨_, _, (List.take_append_drop _ bytes).symm, List.length_take_of_le count, ?_, front, back⟩
  rw [List.length_drop]
  omega

/-- What stops a search for the next frame: the type code of one, or too few bytes to tell. -/
def Stops (bytes : Bytes) : Prop :=
  bytes.length < 4 ∨ (FrameType.ofWire? (word (bytes.take 4))).isSome

theorem distance_of_stops {bytes : Bytes} (h : Stops bytes) : distance bytes = 0 := by
  fun_cases distance bytes with
  | case1 a b c d rest found => rfl
  | case2 a b c d rest notFound =>
    rcases h with short | found
    · simp only [List.length_cons] at short
      omega
    · exact absurd found notFound
  | case3 bytes short => rfl

/-- All of the garbage is passed over. -/
theorem distance_append {garbage rest : Bytes} (h : IsGarbage garbage) (stop : Stops rest) :
    distance (garbage ++ rest) = garbage.length := by
  fun_induction distance garbage with
  | case1 a b c d others found =>
    have codeless := h.codeless 0 rfl (by simp)
    simp only [List.drop_zero, List.take_succ_cons, List.take_zero] at codeless
    rw [codeless] at found
    contradiction
  | case2 a b c d others notFound ih =>
    have fewer : IsGarbage others := @IsGarbage.drop _ h 4 rfl
    have later := ih fewer
    rw [List.cons_append, List.cons_append, List.cons_append, List.cons_append, distance,
      if_neg notFound, later]
    simp only [List.length_cons]
    omega
  | case3 bytes short =>
    have aligned := h.aligned
    match bytes, short with
    | [], _ => exact distance_of_stops stop
    | [_], _ | [_, _], _ | [_, _, _], _ => simp at aligned
    | a :: b :: c :: d :: others, short => exact absurd rfl (short a b c d others)

/-- A header makes no sense where its first word is no type code. -/
theorem readTypeAndOffset_of_codeless {buffer : Bytes} (long : 4 ≤ buffer.length)
    (codeless : FrameType.ofWire? (word (buffer.take 4)) = none) :
    Header.readTypeAndOffset buffer =
      .error (.unknownFrameType (word (buffer.take 4))) (buffer.drop 4) := by
  unfold Header.readTypeAndOffset
  rw [Decoder.bind_of_ok (Decoder.i32_of_length long), codeless]
  rfl

theorem next_of_codeless {limit : Nat} {buffer : Bytes} (arrived : Header.width ≤ buffer.length)
    (codeless : FrameType.ofWire? (word (buffer.take 4)) = none) :
    ∃ reason, next limit buffer =
      some (.garbage (buffer.take (garbageLength Header.width buffer)) reason,
        buffer.drop (garbageLength Header.width buffer)) := by
  have long : 4 ≤ buffer.length := Nat.le_trans (by decide) arrived
  refine ⟨.unknownFrameType (word (buffer.take 4)), ?_⟩
  rw [next, if_neg (Nat.not_lt.mpr arrived), readTypeAndOffset_of_codeless long codeless]
  rfl

/-- A drop takes all of the garbage that has arrived, if that is a header's length. -/
theorem garbageLength_append {garbage rest : Bytes} (h : IsGarbage garbage)
    (long : Header.width ≤ garbage.length) (stop : Stops rest) :
    garbageLength Header.width (garbage ++ rest) = garbage.length := by
  rw [garbageLength, List.drop_append_of_le_length long, distance_append (h.drop rfl) stop,
    List.length_drop]
  omega

variable {limit : Nat}

theorem feedAll_of_none {buffer chunk : Bytes} (chunks : List Bytes)
    (h : next limit (buffer ++ chunk) = none) :
    feedAll limit buffer (chunk :: chunks) = feedAll limit (buffer ++ chunk) chunks := by
  rw [feedAll, feed, pieces_of_none h]
  rfl

/-- What is left behind a piece might as well have arrived after it. -/
theorem feedAll_of_some {buffer chunk rest : Bytes} {piece : Piece} (chunks : List Bytes)
    (h : next limit (buffer ++ chunk) = some (piece, rest)) :
    feedAll limit buffer (chunk :: chunks) =
      (piece :: (feedAll limit [] (rest :: chunks)).1, (feedAll limit [] (rest :: chunks)).2) := by
  rw [feedAll, feed, pieces_of_some h, feedAll, feed, List.nil_append]
  rfl

theorem raw_pieces (buffer : Bytes) :
    ((pieces limit buffer).1.map Piece.raw).flatten ++ (pieces limit buffer).2 = buffer := by
  fun_induction pieces limit buffer with
  | case1 buffer none => rfl
  | case2 buffer piece rest found others left same ih =>
    rw [same] at ih
    rw [List.map_cons, List.flatten_cons, List.append_assoc, ih, next_append found]

/-- No byte is lost, and none is added. -/
theorem raw_feedAll (buffer : Bytes) (chunks : List Bytes) :
    ((feedAll limit buffer chunks).1.map Piece.raw).flatten ++ (feedAll limit buffer chunks).2 =
      buffer ++ chunks.flatten := by
  induction chunks generalizing buffer with
  | nil => simp [feedAll]
  | cons chunk chunks ih =>
    have later := ih (pieces limit (buffer ++ chunk)).2
    rw [feedAll, feed, List.map_append, List.flatten_append, List.append_assoc, later,
      ← List.append_assoc, raw_pieces, List.flatten_cons, List.append_assoc]

/-- The bytes of frames are bytes of the stream. -/
theorem length_frames_le (found : List Piece) :
    (found.filterMap Piece.frame?).flatten.length ≤ (found.map Piece.raw).flatten.length := by
  induction found with
  | nil => exact Nat.le_refl 0
  | cons piece found ih =>
    cases piece with
    | frame raw =>
      change (raw :: found.filterMap Piece.frame?).flatten.length ≤ _
      rw [List.map_cons, List.flatten_cons, List.flatten_cons,
        List.length_append, List.length_append]
      exact Nat.add_le_add_left ih _
    | garbage raw reason =>
      change (found.filterMap Piece.frame?).flatten.length ≤ _
      rw [List.map_cons, List.flatten_cons, List.length_append]
      omega

/-- Whether no drop reaches into the frames. In front of them, `left` bytes of garbage have not been
dropped yet, `waiting` bytes are in the buffer, and the sizes are those of the chunks to come. As
soon as a header's length has arrived, a drop takes that much, and then the whole words of garbage
that have arrived. -/
def dropsFit (left waiting : Nat) : List Nat → Bool
  | [] => true
  | size :: sizes =>
    let buffered := waiting + size
    if buffered < Header.width then dropsFit left buffered sizes
    else if left < Header.width then false
    else if left ≤ buffered then true
    else dropsFit (left - buffered / 4 * 4) (buffered % 4) sizes

/-- The first frame stops a search as soon as its type code has arrived. -/
theorem stops_of_flatten {first : Outline} {others : List Outline} {rest later : Bytes}
    (h : rest ++ later = ((first :: others).map (·.raw)).flatten) : Stops rest := by
  by_cases short : rest.length < 4
  · exact .inl short
  have front : Encoder.i32 first.type.code <+: rest := by
    apply List.prefix_of_prefix_length_le ?_ (List.prefix_append rest later) ?_
    · rw [h]
      simp only [List.map_cons, List.flatten_cons, Outline.raw, Outline.front, Outline.head,
        List.append_assoc, List.prefix_append]
    · rw [Encoder.length_i32]
      omega
  obtain ⟨others, rfl⟩ := front
  right
  rw [List.take_left' (Encoder.length_i32 _), word_i32, FrameType.ofWire?_code first.sent]
  rfl

/-- While garbage is in front, the stream starts with no type code. -/
theorem IsGarbage.first_word {garbage buffer rest frames : Bytes} (h : IsGarbage garbage)
    (some : garbage ≠ []) (arrived : Header.width ≤ buffer.length)
    (same : buffer ++ rest = garbage ++ frames) :
    FrameType.ofWire? (word (buffer.take 4)) = none := by
  have aligned := h.aligned
  have positive := List.length_pos_iff.mpr some
  unfold Header.width at arrived
  have front : buffer.take 4 = garbage.take 4 := by
    have both := congrArg (List.take 4) same
    rwa [List.take_append_of_le_length (by omega), List.take_append_of_le_length (by omega)] at both
  rw [front]
  exact h.codeless 0 rfl positive

/-- Where a drop takes bytes of the frames, the frames that are found have fewer bytes. -/
theorem frames_ne_of_drop {buffer chunk : Bytes} {chunks raws : List Bytes} {left : Nat}
    (total : (buffer ++ chunk).length + chunks.flatten.length = left + raws.flatten.length)
    (arrived : Header.width ≤ (buffer ++ chunk).length)
    (codeless : FrameType.ofWire? (word ((buffer ++ chunk).take 4)) = none)
    (close : left < Header.width) :
    (feedAll limit buffer (chunk :: chunks)).1.filterMap Piece.frame? ≠ raws := by
  obtain ⟨reason, found⟩ := @next_of_codeless limit _ arrived codeless
  have dropped : Header.width ≤ garbageLength Header.width (buffer ++ chunk) :=
    Nat.le_add_right _ _
  have kept := congrArg List.length (@raw_feedAll limit []
    ((buffer ++ chunk).drop (garbageLength Header.width (buffer ++ chunk)) :: chunks))
  rw [List.nil_append, List.flatten_cons, List.length_append, List.length_append,
    List.length_drop] at kept
  rw [feedAll_of_some chunks found]
  rintro rfl
  have fewer := length_frames_le (feedAll limit []
    ((buffer ++ chunk).drop (garbageLength Header.width (buffer ++ chunk)) :: chunks)).1
  rw [List.filterMap_cons_none rfl] at total
  omega

/-- Garbage in front is dropped up to where the search stops, and the rest is searched next. -/
theorem frames_feedAll_of_stops {garbage rest buffer chunk : Bytes} {chunks : List Bytes}
    (h : IsGarbage garbage) (long : Header.width ≤ garbage.length) (stop : Stops rest)
    (arrived : buffer ++ chunk = garbage ++ rest) :
    (feedAll limit buffer (chunk :: chunks)).1.filterMap Piece.frame? =
      (feedAll limit [] (rest :: chunks)).1.filterMap Piece.frame? := by
  have enough : Header.width ≤ (garbage ++ rest).length := by
    rw [List.length_append]
    omega
  have some : garbage ≠ [] := List.length_pos_iff.mp (Nat.lt_of_lt_of_le (by decide) long)
  have codeless := h.first_word some enough (List.append_nil _)
  obtain ⟨reason, found⟩ := @next_of_codeless limit _ enough codeless
  rw [garbageLength_append h long stop, List.drop_left, ← arrived] at found
  rw [feedAll_of_some chunks found, List.filterMap_cons_none rfl]

theorem filterMap_frames (outlines : List Outline) :
    (outlines.map (.frame ·.raw)).filterMap Piece.frame? = outlines.map (·.raw) := by
  rw [List.filterMap_map]
  exact congrFun List.filterMap_eq_map' outlines

/-- The invariant between two chunks: the buffer and what is still to come are the rest of the
garbage and the frames, and the buffer is too short for a header. -/
theorem frames_feedAll_of_garbage {garbage buffer : Bytes} {chunks : List Bytes} {first : Outline}
    {others : List Outline} (h : IsGarbage garbage) (some : garbage ≠ [])
    (waiting : buffer.length < Header.width)
    (short : ∀ o ∈ first :: others, o.raw.length ≤ limit)
    (same : buffer ++ chunks.flatten = garbage ++ ((first :: others).map (·.raw)).flatten) :
    (feedAll limit buffer chunks).1.filterMap Piece.frame? = (first :: others).map (·.raw) ↔
      dropsFit garbage.length buffer.length (chunks.map List.length) = true := by
  induction chunks generalizing garbage buffer with
  | nil =>
    have all := congrArg List.length same
    have long := first.length_raw
    have behind := first.width_le_offset
    simp only [List.flatten_nil, List.append_nil, List.map_cons, List.flatten_cons,
      List.length_append] at all
    omega
  | cons chunk chunks ih =>
    obtain ⟨arrived, joined⟩ : ∃ arrived, buffer ++ chunk = arrived := ⟨_, rfl⟩
    rw [List.flatten_cons, ← List.append_assoc, joined] at same
    have total := congrArg List.length same
    rw [List.length_append, List.length_append] at total
    change _ ↔ dropsFit _ _ (chunk.length :: chunks.map List.length) = true
    rw [dropsFit, ← List.length_append, joined]
    by_cases few : arrived.length < Header.width
    · have none : next limit (buffer ++ chunk) = none := if_pos (joined ▸ few)
      rw [if_pos few, feedAll_of_none chunks none, joined]
      exact ih h some few same
    rw [if_neg few]
    by_cases close : garbage.length < Header.width
    · have codeless := h.first_word some (Nat.not_lt.mp few) same
      subst joined
      rw [if_pos close]
      exact iff_of_false (frames_ne_of_drop total (Nat.not_lt.mp few) codeless close) nofun
    rw [if_neg close]
    by_cases complete : garbage.length ≤ arrived.length
    · obtain ⟨rest, rfl⟩ : garbage <+: arrived :=
        List.prefix_of_prefix_length_le (same ▸ List.prefix_append garbage _)
          (List.prefix_append _ _) complete
      rw [List.append_assoc, List.append_cancel_left_eq] at same
      have found : feedAll limit [] (rest :: chunks) = ((first :: others).map (.frame ·.raw), []) :=
        feedAll_of_flatten short rfl same
      rw [if_pos complete, frames_feedAll_of_stops h (Nat.not_lt.mp close) (stops_of_flatten same)
        joined, found, filterMap_frames]
      exact iff_of_true rfl rfl
    · obtain ⟨later, rfl⟩ : arrived <+: garbage :=
        List.prefix_of_prefix_length_le (same ▸ List.prefix_append _ _)
          (List.prefix_append _ _) (Nat.le_of_lt (Nat.not_le.mp complete))
      rw [List.append_assoc, List.append_cancel_left_eq] at same
      obtain ⟨words, rest, rfl, wordsLength, restLength, front, back⟩ := h.exists_words
      unfold Header.width at few ih close
      have left : (words ++ rest ++ later).length - (words ++ rest).length / 4 * 4 =
          (rest ++ later).length := by
        rw [← wordsLength, List.append_assoc, List.length_append, Nat.add_sub_cancel_left]
      have waitingRest : rest.length < 36 := by omega
      have none : next limit ([] ++ rest) = none := if_pos waitingRest
      have someLater : rest ++ later ≠ [] := by
        rintro nothing
        rw [List.append_assoc, nothing, List.append_nil] at complete
        rw [List.append_eq_nil_iff] at nothing
        exact complete (by simp)
      rw [if_neg complete, frames_feedAll_of_stops front (by unfold Header.width; omega)
        (.inl (by omega)) joined, feedAll_of_none chunks none, left, ← restLength]
      exact ih back someLater waitingRest (by rw [List.nil_append, same, List.append_assoc])

/-- Drops start where a chunk has ended. None of them takes too much if no chunk ends within the
last eight words of the garbage. -/
theorem dropsFit_of_ends {left waiting : Nat} {sizes : List Nat} (aligned : left % 4 = 0)
    (ends : ∀ front, front <+: sizes →
      waiting + front.sum + 32 < left ∨ left ≤ waiting + front.sum) (inside : waiting < left) :
    dropsFit left waiting sizes = true := by
  induction sizes generalizing left waiting with
  | nil => rfl
  | cons size sizes ih =>
    have first := ends [] List.nil_prefix
    have second := ends [size] (List.prefix_append [size] sizes)
    rw [List.sum_nil, Nat.add_zero] at first
    rw [List.sum_singleton] at second
    have later : ∀ front, front <+: sizes →
        waiting + size + front.sum + 32 < left ∨ left ≤ waiting + size + front.sum := by
      intro front h
      have := ends (size :: front) (List.cons_prefix_cons.mpr ⟨rfl, h⟩)
      rwa [List.sum_cons, ← Nat.add_assoc] at this
    rw [dropsFit]
    unfold Header.width
    by_cases few : waiting + size < 36
    · rw [if_pos few]
      by_cases more : waiting + size < left
      · exact ih aligned later more
      · omega
    rw [if_neg few, if_neg (by omega)]
    by_cases complete : left ≤ waiting + size
    · rw [if_pos complete]
    rw [if_neg complete]
    refine ih (by omega) (fun front h => ?_) (by omega)
    have := later front h
    omega

/-- The exact condition on the chunks. The header at the front of the garbage makes no sense, as its
first word is no type code. -/
theorem frames_feedAll_iff_dropsFit {garbage : Bytes} {frames : List Frame} {chunks : List Bytes}
    (garbled : IsGarbage garbage) (long : Header.width ≤ garbage.length) (sent : frames ≠ [])
    (obtained : ∀ frame ∈ frames, frame.IsObtained)
    (short : ∀ frame ∈ frames, frame.raw.length ≤ limit)
    (h : chunks.flatten = garbage ++ (frames.map (·.raw)).flatten) :
    (feedAll limit [] chunks).1.filterMap Piece.frame? = frames.map (·.raw) ↔
      dropsFit garbage.length 0 (chunks.map List.length) = true := by
  obtain ⟨outlines, raws⟩ := exists_outlines obtained
  have shortOutlines : ∀ o ∈ outlines, o.raw.length ≤ limit := by
    intro o ho
    have member : o.raw ∈ frames.map (·.raw) := raws ▸ List.mem_map_of_mem ho
    obtain ⟨frame, hf, same⟩ := List.mem_map.mp member
    rw [← same]
    exact short frame hf
  have noisy : garbage ≠ [] := List.length_pos_iff.mp (Nat.lt_of_lt_of_le (by decide) long)
  rw [← raws] at h ⊢
  cases outlines with
  | nil => exact absurd (List.map_eq_nil_iff.mp raws.symm) sent
  | cons first others =>
    exact frames_feedAll_of_garbage garbled noisy (by decide) shortOutlines h

/-- Frames behind garbage are found exactly when no drop reaches into them, which depends on where
the chunks end. No frame is lost if none of them ends within the last eight words of the garbage. -/
theorem frames_feedAll_iff {garbage : Bytes} {frames : List Frame} {chunks : List Bytes}
    (garbled : IsGarbage garbage) (long : Header.width ≤ garbage.length) (sent : frames ≠ [])
    (obtained : ∀ frame ∈ frames, frame.IsObtained)
    (short : ∀ frame ∈ frames, frame.raw.length ≤ limit)
    (h : chunks.flatten = garbage ++ (frames.map (·.raw)).flatten) :
    ((feedAll limit [] chunks).1.filterMap Piece.frame? = frames.map (·.raw) ↔
      dropsFit garbage.length 0 (chunks.map List.length) = true) ∧
    ((∀ front, front <+: chunks → front.flatten.length + 32 < garbage.length ∨
        garbage.length ≤ front.flatten.length) →
      (feedAll limit [] chunks).1.filterMap Piece.frame? = frames.map (·.raw)) := by
  have exact := frames_feedAll_iff_dropsFit garbled long sent obtained short h
  refine ⟨exact, fun ends => exact.mpr (dropsFit_of_ends garbled.aligned ?_ ?_)⟩
  · intro sizes hs
    obtain ⟨front, hf, rfl⟩ := List.prefix_map_iff.mp hs
    rw [Nat.zero_add, ← List.length_flatten]
    exact ends front hf
  · exact Nat.lt_of_lt_of_le (by decide) long

/-- Bytes that are no type code wherever they are read. -/
def noise (words : Nat) : Bytes :=
  List.replicate (4 * words) 0xFF

theorem isGarbage_noise (words : Nat) : IsGarbage (noise words) where
  aligned := by
    rw [noise, List.length_replicate]
    omega
  codeless := by
    intro start aligned inside
    rw [noise, List.length_replicate] at inside
    have whole : min 4 (4 * words - start) = 4 := by omega
    rw [noise, List.drop_replicate, List.take_replicate, whole]
    rfl

theorem exists_reset :
    ∃ reset : Frame,
      Frame.assemble ⟨.customReset, 36, "A", "B", 0, 0⟩ (.customReset []) ⟨0, [], 0⟩ = .ok reset ∧
      reset.raw.length = 52 :=
  ⟨_, rfl, rfl⟩

/-- Ten words of garbage that arrive at once. -/
theorem frames_feedAll_iff_at_once :
    ∃ reset : Frame,
      Frame.assemble ⟨.customReset, 36, "A", "B", 0, 0⟩ (.customReset []) ⟨0, [], 0⟩ = .ok reset ∧
      (feedAll 52 [] [noise 10 ++ reset.raw.take 1, reset.raw.drop 1]).1.filterMap Piece.frame? =
        [reset.raw] := by
  obtain ⟨reset, assembled, length⟩ := exists_reset
  have stream : [noise 10 ++ reset.raw.take 1, reset.raw.drop 1].flatten =
      noise 10 ++ ([reset].map (·.raw)).flatten := by
    simp only [List.flatten_cons, List.flatten_nil, List.map_cons, List.map_nil, List.append_nil,
      List.append_assoc, List.take_append_drop]
  obtain ⟨exact, -⟩ := @frames_feedAll_iff 52 (noise 10) [reset] _ (isGarbage_noise 10) (by decide)
    (List.cons_ne_nil reset []) (by simpa using Frame.IsObtained.assembled assembled)
    (by simp [length]) stream
  refine ⟨reset, assembled, exact.mpr ?_⟩
  simp [length, noise, dropsFit, Header.width]

/-- The same garbage in two chunks, of which the first one is dropped before the second arrives. The
four bytes that are left of it take a part of the frame with them. -/
theorem frames_feedAll_ne_of_late_end :
    IsGarbage (noise 10) ∧ Header.width ≤ (noise 10).length ∧
      (∃ reason rest, Header.read (noise 10) = .error reason rest) ∧ ∃ reset : Frame,
      Frame.assemble ⟨.customReset, 36, "A", "B", 0, 0⟩ (.customReset []) ⟨0, [], 0⟩ = .ok reset ∧
      reset.raw.length ≤ 52 ∧
      [noise 9, noise 1 ++ reset.raw].flatten = noise 10 ++ reset.raw ∧
      (feedAll 52 [] [noise 9, noise 1 ++ reset.raw]).1.filterMap Piece.frame? ≠ [reset.raw] := by
  obtain ⟨reset, assembled, length⟩ := exists_reset
  have stream : [noise 9, noise 1 ++ reset.raw].flatten = noise 10 ++ reset.raw := by
    simp [noise]
  have exact := @frames_feedAll_iff_dropsFit 52 (noise 10) [reset] _ (isGarbage_noise 10)
    (by decide) (List.cons_ne_nil reset []) (by simpa using Frame.IsObtained.assembled assembled)
    (by simp [length]) (stream.trans (by simp))
  refine ⟨isGarbage_noise 10, by decide, ⟨_, _, rfl⟩, reset, assembled, by omega, stream,
    fun found => ?_⟩
  have fit := exact.mp found
  simp [length, noise, dropsFit, Header.width] at fit

end Splitter

end ContinuousData
