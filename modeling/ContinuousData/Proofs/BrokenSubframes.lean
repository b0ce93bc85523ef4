import ContinuousData.Proofs.CheckedBodies
import ContinuousData.Proofs.HeededBytes

/-! Broken subframes. Where the bytes of a body are cut off or garbled behind some of its subframes,
the header and these subframes are read as before, however long the body is and whatever follows
them. -/
namespace ContinuousData

open Decoder Splitter

/-- Lists that start alike still do so behind other bytes. -/
theorem Bytes.take_append_congr {front rest other : Bytes} {count : Nat}
    (same : other.take count = rest.take count) :
    (front ++ other).take count = (front ++ rest).take count := by
  have fewer (bytes : Bytes) :
      bytes.take (count - front.length) = (bytes.take count).take (count - front.length) := by
    rw [List.take_take, Nat.min_eq_left (Nat.sub_le _ _)]
  rw [List.take_append, List.take_append, fewer other, same, ← fewer rest]

namespace DataHeader

theorem padding_le (count : Nat) : Bytes.padding count 4 ≤ 4 := by
  unfold Bytes.padding
  split_ifs <;> omega

/-- The length of a header, with or without its padding. -/
def extent (header : DataHeader) (aligned : Bool) : Nat :=
  32 + header.channelString.length +
    if aligned then Bytes.padding header.channelString.length 4 else 0

/-- The fields in front of the padding, and the length of the last one. -/
def readLeading : Decoder (DataHeader × Nat) := do
  let channels ← Decoder.i32
  let timeLength ← Decoder.i32
  let nominalTime ← OrdinalDate.read
  let count ← Decoder.length "channel string count"
  let channelString ← Decoder.bytes count
  return ({ channels, timeLength, nominalTime, channelString }, count)

/-- The padding, where it is in place. -/
def readPadding (header : DataHeader) (count : Nat) : Decoder (DataHeader × Bool) := do
  let padding := Bytes.padding count 4
  if padding = 0 then return (header, true)
  if (← readFields.nextIsZero) then
    Decoder.skip padding
    return (header, true)
  return (header, false)

theorem readFields_eq :
    readFields = readLeading >>= fun (header, count) => readPadding header count := by
  unfold readFields readLeading
  simp only [bind_assoc, pure_bind]
  rfl

theorem spends_readLeading :
    Spends readLeading fun fields count =>
      count = 32 + fields.1.channelString.length ∧ fields.2 = fields.1.channelString.length := by
  refine spans_i32.then fun _ => spans_i32.then fun _ => OrdinalDate.spans_read.then fun _ =>
    (spans_length _).then fun count => (spends_bytes count).bind fun channelString width known =>
    Spends.pure ?_
  obtain ⟨length, rfl⟩ := known
  refine ⟨?_, length.symm⟩
  dsimp only
  rw [length]
  unfold OrdinalDate.width
  omega

/-- Padding that is not there cannot be skipped, and there are four bytes where it is. -/
theorem readPadding_apply (header : DataHeader) (count : Nat) (input : Bytes) :
    readPadding header count input =
      if Bytes.padding count 4 = 0 ∨ input.take 4 = Bytes.zeros 4 then
        .ok (header, true) (input.drop (Bytes.padding count 4))
      else .ok (header, false) input := by
  have look : readFields.nextIsZero input = .ok (input.take 4 == Bytes.zeros 4) input := rfl
  unfold readPadding
  by_cases none : Bytes.padding count 4 = 0
  · rw [if_pos none, if_pos (.inl none), none]
    rfl
  rw [if_neg none, bind_of_ok look]
  by_cases zero : input.take 4 = Bytes.zeros 4
  · rw [if_pos (beq_iff_eq.mpr zero), if_pos (.inr zero)]
    have enough := length_of_take_zeros zero
    exact bind_of_ok (if_neg (Nat.not_lt.mpr (Nat.le_trans (padding_le count) enough)))
  · rw [if_neg (mt beq_iff_eq.mp zero), if_neg (not_or.mpr ⟨none, zero⟩)]
    rfl

theorem readPadding_eq_ok {header found : DataHeader} {count : Nat} {input rest : Bytes}
    {aligned : Bool} (h : readPadding header count input = .ok (found, aligned) rest) :
    found = header ∧ ∃ skipped : Bytes,
      skipped.length = (if aligned then Bytes.padding count 4 else 0) ∧ input = skipped ++ rest ∧
        ∀ other, other.take 4 = rest.take 4 →
          readPadding header count (skipped ++ other) = .ok (header, aligned) other := by
  rw [readPadding_apply] at h
  by_cases inPlace : Bytes.padding count 4 = 0 ∨ input.take 4 = Bytes.zeros 4
  · rw [if_pos inPlace] at h
    obtain ⟨same, rfl⟩ := EStateM.Result.ok.inj h
    obtain ⟨rfl, rfl⟩ := Prod.mk.inj same
    have enough : Bytes.padding count 4 ≤ input.length := by
      rcases inPlace with none | zero
      · omega
      · exact Nat.le_trans (padding_le count) (length_of_take_zeros zero)
    have width : (input.take (Bytes.padding count 4)).length = Bytes.padding count 4 :=
      List.length_take_of_le enough
    refine ⟨rfl, input.take (Bytes.padding count 4), width, (List.take_append_drop _ _).symm,
      fun other alike => ?_⟩
    have start := @Bytes.take_append_congr (input.take (Bytes.padding count 4)) _ other 4 alike
    rw [List.take_append_drop] at start
    rw [readPadding_apply, start, if_pos inPlace, List.drop_left' width]
  · rw [if_neg inPlace] at h
    obtain ⟨same, rfl⟩ := EStateM.Result.ok.inj h
    obtain ⟨rfl, rfl⟩ := Prod.mk.inj same
    refine ⟨rfl, [], rfl, rfl, fun other alike => ?_⟩
    rw [List.nil_append, readPadding_apply, alike, if_neg inPlace]

/-- A header is read from its own bytes and the four that follow them. -/
theorem readFields_eq_ok {header : DataHeader} {aligned : Bool} {input rest : Bytes}
    (h : readFields input = .ok (header, aligned) rest) :
    ∃ front, front.length = header.extent aligned ∧ input = front ++ rest ∧
      ∀ other, other.take 4 = rest.take 4 →
        readFields (front ++ other) = .ok (header, aligned) other := by
  rw [readFields_eq] at h
  obtain ⟨⟨fields, count⟩, left, leading, padding⟩ := Decoder.bind_eq_ok.mp h
  obtain ⟨taken, ⟨width, length⟩, rfl, reads⟩ := spends_readLeading _ _ _ leading
  obtain ⟨rfl, skipped, skippedWidth, rfl, others⟩ := readPadding_eq_ok padding
  dsimp only at width length
  refine ⟨taken ++ skipped, ?_, (List.append_assoc ..).symm, fun other alike => ?_⟩
  · rw [List.length_append, width, skippedWidth, length]
    rfl
  · rw [readFields_eq, List.append_assoc, bind_of_ok (reads _)]
    exact others other alike

theorem channelStringUnaligned_not_mem_notices (header : DataHeader) :
    .channelStringUnaligned ∉ header.notices := by
  intro h
  rcases mem_notices h with h | h | ⟨_, h⟩ <;> contradiction

end DataHeader

namespace DataFrame

variable {count index : Nat} {input rest : Bytes} {subframes : List Subframe}
  {stopped : List Notice}

/-- The length of the header and the first `count` subframes. The notices tell whether there is
padding between them. -/
def extent (frame : DataFrame) (notices : List Notice) (count : Nat) : Nat :=
  frame.header.extent (.channelStringUnaligned ∉ notices) +
    ((frame.subframes.take count).map Subframe.wireLength).sum

/-- No more subframes are read than are looked for. -/
theorem length_readSubframes (count index : Nat) (input : Bytes) :
    (readSubframes count index input).1.length ≤ count := by
  induction count generalizing index input with
  | zero => exact Nat.le_refl 0
  | succ count ih =>
    rw [readSubframes]
    cases Subframe.read input with
    | error reason rest => exact Nat.zero_le _
    | ok subframe rest => exact Nat.succ_le_succ (ih (index + 1) rest)

theorem mem_stopped {notice : Notice} (h : notice ∈ (readSubframes count index input).2.1) :
    ∃ at_ reason, notice = .stoppedAtSubframe at_ reason := by
  induction count generalizing index input with
  | zero => exact absurd h List.not_mem_nil
  | succ count ih =>
    rw [readSubframes] at h
    cases read : Subframe.read input with
    | error reason rest =>
      rw [read] at h
      exact ⟨index, reason, List.mem_singleton.mp h⟩
    | ok subframe rest =>
      rw [read] at h
      exact ih h

/-- Some of the subframes that are read, and their bytes. They are read from these bytes whatever
follows them. -/
theorem readSubframes_prefix (h : readSubframes count index input = (subframes, stopped, rest))
    {kept : Nat} (some : kept ≤ subframes.length) :
    ∃ front left, input = front ++ left ∧
      front.length = ((subframes.take kept).map Subframe.wireLength).sum ∧
      ∀ other, subframes.take kept <+: (readSubframes count index (front ++ other)).1 := by
  induction count generalizing index input subframes stopped kept with
  | zero =>
    obtain ⟨rfl, -⟩ := Prod.mk.inj h
    exact ⟨[], input, rfl, by simp, fun _ => by simp⟩
  | succ count ih =>
    cases kept with
    | zero => exact ⟨[], input, rfl, rfl, fun _ => List.nil_prefix⟩
    | succ kept =>
      rw [readSubframes] at h
      cases read : Subframe.read input with
      | error reason left =>
        rw [read] at h
        obtain ⟨rfl, -⟩ := Prod.mk.inj h
        contradiction
      | ok first left =>
        obtain ⟨taken, length, rfl, reads⟩ := Subframe.spends_read input first left read
        rcases later : readSubframes count (index + 1) left with ⟨others, more, last⟩
        rw [read] at h
        dsimp only at h
        rw [later] at h
        dsimp only at h
        obtain ⟨rfl, tail⟩ := Prod.mk.inj h
        obtain ⟨-, rfl⟩ := Prod.mk.inj tail
        obtain ⟨front, behind, rfl, extent, start⟩ := ih later (Nat.le_of_succ_le_succ some)
        refine ⟨taken ++ front, behind, (List.append_assoc ..).symm, ?_, fun other => ?_⟩
        · rw [List.length_append, length, extent, List.take_succ_cons, List.map_cons, List.sum_cons]
        · rw [List.append_assoc, readSubframes, reads, List.take_succ_cons]
          exact List.cons_prefix_cons.mpr ⟨rfl, start other⟩

/-- The notices of a frame tell whether its channel string is aligned. -/
theorem channelStringUnaligned_mem_iff (header : DataHeader) (aligned : Bool) (rest : Bytes)
    (others : ∀ notice ∈ stopped, notice ≠ .channelStringUnaligned) :
    .channelStringUnaligned ∈ (if aligned then [] else [.channelStringUnaligned]) ++
        header.notices ++ stopped ++ (if rest = [] then [] else [.unparsedBytes rest.length]) ↔
      aligned = false := by
  have fromStopped : .channelStringUnaligned ∉ stopped := fun h => others _ h rfl
  have fromRest : Notice.channelStringUnaligned ∉
      (if rest = [] then [] else [.unparsedBytes rest.length]) := by
    split_ifs <;> simp
  cases aligned <;>
    simp [header.channelStringUnaligned_not_mem_notices, fromStopped, fromRest]

/-- What has been read of a body that makes a frame. -/
theorem read_eq_ok {body : Bytes} {frame : DataFrame} {notices : List Notice}
    (h : read body = (.ok frame, notices)) :
    ∃ left stopped rest,
      DataHeader.readFields body =
        .ok (frame.header, .channelStringUnaligned ∉ notices) left ∧
      frame.header.check = .ok () ∧
      readSubframes frame.header.idCount 0 left = (frame.subframes, stopped, rest) := by
  unfold read at h
  cases fields : DataHeader.readFields body with
  | error reason left =>
    rw [fields] at h
    exact nomatch (Prod.mk.inj h).1
  | ok found left =>
    obtain ⟨header, aligned⟩ := found
    rw [fields] at h
    dsimp only at h
    cases valid : header.check with
    | error reason =>
      rw [valid] at h
      exact nomatch (Prod.mk.inj h).1
    | ok =>
      rcases read : readSubframes header.idCount 0 left with ⟨subframes, stopped, rest⟩
      rw [valid] at h
      dsimp only at h
      rw [read] at h
      dsimp only at h
      by_cases none : subframes = []
      · rw [if_pos none] at h
        exact nomatch (Prod.mk.inj h).1
      rw [if_neg none] at h
      obtain ⟨same, rfl⟩ := Prod.mk.inj h
      obtain rfl := Except.ok.inj same
      have others : ∀ notice ∈ stopped, notice ≠ .channelStringUnaligned := by
        intro notice member
        have member : notice ∈ (readSubframes header.idCount 0 left).2.1 := by rwa [read]
        obtain ⟨_, _, rfl⟩ := mem_stopped member
        exact nofun
      have told := channelStringUnaligned_mem_iff header aligned rest others
      refine ⟨left, stopped, rest, ?_, valid, read⟩
      simp only [told, Bool.not_eq_false, Bool.decide_eq_true]

/-- A header and one subframe behind it make a frame. -/
theorem read_of_readFields {header : DataHeader} {aligned : Bool} {left : Bytes}
    (fields : DataHeader.readFields input = .ok (header, aligned) left)
    (valid : header.check = .ok ()) (found : (readSubframes header.idCount 0 left).1 ≠ []) :
    (read input).1 = .ok { header, subframes := (readSubframes header.idCount 0 left).1 } := by
  unfold read
  rw [fields]
  dsimp only
  rw [valid]
  generalize readSubframes header.idCount 0 left = result at found ⊢
  obtain ⟨subframes, stopped, rest⟩ := result
  dsimp only at found ⊢
  rw [if_neg found]

theorem minLength_le_sum (some : subframes ≠ []) :
    Subframe.minLength ≤ (subframes.map Subframe.wireLength).sum := by
  obtain ⟨first, member⟩ := List.exists_mem_of_ne_nil subframes some
  have long : Subframe.minLength ≤ first.wireLength := by
    unfold Subframe.wireLength
    omega
  exact long.trans (wireLength_le member)

theorem read_of_take_prefix {body other : Bytes} {frame : DataFrame} {notices : List Notice}
    (h : read body = (.ok frame, notices)) (some : 1 ≤ count)
    (enough : count ≤ frame.subframes.length)
    (alike : body.take (frame.extent notices count) <+: other) :
    frame.extent notices count ≤ body.length ∧
      ∃ whole, (read other).1 = .ok whole ∧ whole.header = frame.header ∧
        frame.subframes.take count <+: whole.subframes := by
  obtain ⟨left, stopped, rest, fields, valid, found⟩ := read_eq_ok h
  obtain ⟨head, width, rfl, headAgain⟩ := DataHeader.readFields_eq_ok fields
  obtain ⟨front, behind, rfl, length, frontAgain⟩ := readSubframes_prefix found enough
  have extent : (head ++ front).length = frame.extent notices count := by
    rw [List.length_append, width, length]
    rfl
  rw [← List.append_assoc, ← extent, List.take_left] at alike
  obtain ⟨tail, rfl⟩ := alike
  have kept : frame.subframes.take count ≠ [] := by
    rw [← List.length_pos_iff_ne_nil, List.length_take]
    omega
  -- The first subframe covers the four bytes that tell whether there is padding.
  have covered : 4 ≤ front.length := by
    have long := minLength_le_sum kept
    unfold Subframe.minLength at long
    omega
  have looked : (front ++ tail).take 4 = (front ++ behind).take 4 := by
    rw [List.take_append_of_le_length covered, List.take_append_of_le_length covered]
  have start := frontAgain tail
  have found : (readSubframes frame.header.idCount 0 (front ++ tail)).1 ≠ [] := by
    intro none
    rw [none] at start
    exact kept (List.prefix_nil.mp start)
  have again := read_of_readFields (headAgain _ looked) valid found
  rw [← List.append_assoc] at again
  refine ⟨?_, _, again, rfl, start⟩
  rw [← extent, ← List.append_assoc, @List.length_append _ (head ++ front)]
  exact Nat.le_add_right _ _

theorem length_subframes_le {body : Bytes} {frame : DataFrame} (h : (read body).1 = .ok frame) :
    frame.subframes.length ≤ frame.header.idCount := by
  obtain ⟨left, stopped, rest, -, -, found⟩ := read_eq_ok (Prod.ext h rfl : read body = (_, _))
  have bound := length_readSubframes frame.header.idCount 0 left
  rwa [found] at bound

/-- What a body has in common with one that makes a frame is read as it is read there, if a
subframe is whole. There are never more subframes than ids, no byte is looked for outside the body,
and none of a frame is left over. -/
theorem read_damaged (body : Bytes) :
    (∀ frame notices count other, read body = (.ok frame, notices) → 1 ≤ count →
      count ≤ frame.subframes.length → body.take (frame.extent notices count) <+: other →
        frame.extent notices count ≤ body.length ∧
          ∃ whole, (read other).1 = .ok whole ∧ whole.header = frame.header ∧
            frame.subframes.take count <+: whole.subframes) ∧
    (∀ frame, (read body).1 = .ok frame → frame.subframes.length ≤ frame.header.idCount) ∧
    (body.length ≤ capacity →
      ∃ place ≤ body.length, walk body = some (read body, place) ∧
        ∀ frame, (read body).1 = .ok frame → place = body.length) :=
  ⟨fun _ _ _ _ h some enough alike => read_of_take_prefix h some enough alike,
    fun _ h => length_subframes_le h, walk_eq⟩

/-- The first channel of two is kept when a byte that makes no sense follows it. -/
theorem read_damaged_cut :
    ∃ frame body notices, ofSubframes [Endpoint.silence 40, Endpoint.silence 60] = .ok frame ∧
      frame.write = .ok body ∧ read body = (.ok frame, notices) ∧
      ∃ whole, (read (body.take (frame.extent notices 1) ++ [0xFF])).1 = .ok whole ∧
        whole.header = frame.header ∧ [Endpoint.silence 40] <+: whole.subframes := by
  have canonical : ∀ s ∈ [Endpoint.silence 40, Endpoint.silence 60], s.IsCanonical := by
    simpa using ⟨Endpoint.isCanonical_silence rfl, Endpoint.isCanonical_silence rfl⟩
  obtain ⟨header, head, written, made, ids, exact, hh, each, whole, -⟩ :=
    exists_write canonical (by decide) (by decide)
  have aligned := (isAligned_iff ids each (by decide)).mpr (.inl rfl)
  have back := read_of_isAligned hh exact (List.cons_ne_nil _ _) ids each canonical aligned
  obtain ⟨keeps, -⟩ := read_damaged (head ++ written.flatten)
  obtain ⟨-, kept⟩ := keeps _ _ 1 _ back le_rfl (Nat.le_add_left 1 1) (List.prefix_append _ [0xFF])
  exact ⟨_, _, _, made, whole, back, kept⟩

end DataFrame

end ContinuousData
