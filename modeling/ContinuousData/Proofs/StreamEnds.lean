import ContinuousData.Proofs.FrameExtents
import ContinuousData.Stream.Reader

/-! Reading a stream to its end. A stream of whole frames, of which the last one may be cut off, is
read frame by frame in whatever portions it comes, and its end tells whether a frame was cut off.
A call that is cancelled loses nothing: the next one goes on with the same buffer. -/
namespace ContinuousData

open Splitter

namespace Delivery

def portion : Delivery → Bytes
  | bytes portion => portion
  | cancelled => []

/-- The bytes that come with all of them. -/
def sent (deliveries : List Delivery) : Bytes :=
  deliveries.flatMap portion

@[simp] theorem sent_cons (delivery : Delivery) (deliveries : List Delivery) :
    sent (delivery :: deliveries) = delivery.portion ++ sent deliveries :=
  List.flatMap_cons

end Delivery

theorem Frame.IsObtained.isDelimited {frame : Frame} (h : frame.IsObtained) :
    IsDelimited frame.raw := by
  obtain ⟨o, raw⟩ := h.outline
  have cut := @Outline.next_of_prefix _ o (o.raw ++ []) [] le_rfl List.prefix_rfl
  rw [if_neg (by simp), List.drop_left] at cut
  rw [← raw, isDelimited_iff]
  exact hasEnds_of_next cut

/-- Whole frames, and what is there of one that the end of the stream cuts off. -/
structure IsTransmission (limit : Nat) (frames : List Bytes) (tail : Bytes) : Prop where
  delimited : ∀ raw ∈ frames, Frame.IsDelimited raw
  short : ∀ raw ∈ frames, raw.length ≤ limit
  unfinished : tail = [] ∨ ∃ raw, Frame.IsDelimited raw ∧ raw.length ≤ limit ∧ tail <+: raw ∧
    tail ≠ raw

variable {limit : Nat} {frames : List Bytes} {raw buffer rest tail : Bytes}

theorem Frame.IsDelimited.next_of_begins (h : Frame.IsDelimited raw) (short : raw.length ≤ limit)
    (begins : buffer <+: raw ++ rest) :
    next limit buffer =
      if buffer.length < raw.length then none
      else some (.frame raw, buffer.drop raw.length) := by
  obtain ⟨header, trailer, ends⟩ := Frame.isDelimited_iff.mp h
  obtain ⟨o, rfl⟩ := Outline.exists_of_hasEnds ends
  exact Outline.next_of_prefix short begins

namespace IsTransmission

theorem behind_first (h : IsTransmission limit (raw :: frames) tail) :
    IsTransmission limit frames tail where
  delimited := (List.forall_mem_cons.mp h.delimited).2
  short := (List.forall_mem_cons.mp h.short).2
  unfinished := h.unfinished

theorem next_of_nil (h : IsTransmission limit [] tail) (begins : buffer <+: tail) :
    next limit buffer = none := by
  rcases h.unfinished with rfl | ⟨raw, delimited, short, cutOff, strict⟩
  · rw [List.prefix_nil.mp begins]
    rfl
  · have incomplete : tail.length < raw.length :=
      Nat.lt_of_le_of_ne cutOff.length_le (mt cutOff.eq_of_length strict)
    have begun : buffer <+: raw ++ [] := by
      rw [List.append_nil]
      exact begins.trans cutOff
    rw [delimited.next_of_begins short begun, if_pos (begins.length_le.trans_lt incomplete)]

/-- The first frame is cut off once it is there; before that there is something to wait for. -/
theorem next_cases (h : IsTransmission limit frames tail)
    (split : buffer ++ rest = frames.flatten ++ tail) :
    (next limit buffer = none ∧ (rest = [] → frames = [] ∧ buffer = tail)) ∨
      ∃ raw others left, frames = raw :: others ∧ next limit buffer = some (.frame raw, left) ∧
        left ++ rest = others.flatten ++ tail := by
  cases frames with
  | nil =>
    rw [List.flatten_nil, List.nil_append] at split
    refine .inl ⟨h.next_of_nil ⟨rest, split⟩, fun none => ⟨rfl, ?_⟩⟩
    rw [← split, none, List.append_nil]
  | cons raw others =>
    rw [List.flatten_cons, List.append_assoc] at split
    have found := (h.delimited raw List.mem_cons_self).next_of_begins
      (h.short raw List.mem_cons_self) ⟨rest, split⟩
    by_cases incomplete : buffer.length < raw.length
    · rw [if_pos incomplete] at found
      refine .inl ⟨found, fun none => ?_⟩
      have total := congrArg List.length split
      rw [none, List.append_nil, List.length_append] at total
      omega
    · rw [if_neg incomplete] at found
      refine .inr ⟨raw, others, _, rfl, found, ?_⟩
      rw [← next_append found, Piece.raw, List.append_assoc, List.append_cancel_left_eq] at split
      exact split

end IsTransmission

namespace StreamReader

open Delivery (sent sent_cons)

variable {deliveries : List Delivery}

/-- How a call can go, while there are `frames` and `tail` to be read: it returns the first frame,
it is cancelled, or it comes to the end. The bytes that it leaves, and those still to come, are
all that has not been returned. -/
inductive Goes (tail : Bytes) :
    List Bytes → List Delivery → ReadResult × Bytes × List Delivery → Prop where
  | frame {raw left : Bytes} {others : List Bytes} {deliveries later : List Delivery}
    (kept : left ++ sent later = others.flatten ++ tail)
    (count : deliveries.count .cancelled = later.count .cancelled) :
    Goes tail (raw :: others) deliveries (.piece (.frame raw), left, later)
  | cancelled {frames : List Bytes} {left : Bytes} {deliveries later : List Delivery}
    (kept : left ++ sent later = frames.flatten ++ tail)
    (count : deliveries.count .cancelled = later.count .cancelled + 1) :
    Goes tail frames deliveries (.ended, left, later)
  | ended {deliveries : List Delivery} (count : deliveries.count .cancelled = 0) :
    Goes tail [] deliveries (atEnd tail, tail, [])

theorem Goes.bytes_cons {outcome : ReadResult × Bytes × List Delivery}
    (h : Goes tail frames deliveries outcome) (portion : Bytes) :
    Goes tail frames (.bytes portion :: deliveries) outcome := by
  have other : Delivery.bytes portion ≠ .cancelled := nofun
  have same : (Delivery.bytes portion :: deliveries).count .cancelled =
      deliveries.count .cancelled := List.count_cons_of_ne other
  cases h with
  | frame kept count => exact .frame kept (same.trans count)
  | cancelled kept count => exact .cancelled kept (same.trans count)
  | ended count => exact .ended (same.trans count)

/-- A call takes its deliveries from the front. -/
theorem read_suffix (limit : Nat) (buffer : Bytes) (deliveries : List Delivery) :
    (read limit buffer deliveries).2.2 <:+ deliveries := by
  fun_induction read limit buffer deliveries with
  | case1 => exact List.suffix_rfl
  | case2 => exact List.suffix_rfl
  | case3 => exact List.suffix_rfl
  | case4 => exact List.suffix_cons _ _
  | case5 => exact List.suffix_cons _ _
  | case6 _ _ _ _ _ ih => exact ih.trans (List.suffix_cons _ _)

theorem lasting_of_read {result : ReadResult} {left : Bytes} {later : List Delivery}
    (h : read limit buffer deliveries = (result, left, later))
    (lasting : .bytes [] ∉ deliveries) : .bytes [] ∉ later := by
  have suffix := read_suffix limit buffer deliveries
  rw [h] at suffix
  exact fun ended => lasting (suffix.subset ended)

theorem read_goes (h : IsTransmission limit frames tail) (lasting : .bytes [] ∉ deliveries)
    (split : buffer ++ sent deliveries = frames.flatten ++ tail) :
    Goes tail frames deliveries (read limit buffer deliveries) := by
  induction deliveries generalizing buffer with
  | nil =>
    rcases h.next_cases split with ⟨waiting, last⟩ | ⟨raw, others, left, rfl, found, kept⟩
    · obtain ⟨rfl, rfl⟩ := last rfl
      simp only [read, waiting]
      exact .ended rfl
    · simp only [read, found]
      exact .frame kept rfl
  | cons delivery deliveries ih =>
    rw [List.mem_cons, not_or] at lasting
    rcases h.next_cases split with ⟨waiting, -⟩ | ⟨raw, others, left, rfl, found, kept⟩
    · cases delivery with
      | cancelled =>
        simp only [read, waiting]
        exact .cancelled split List.count_cons_self
      | bytes portion =>
        cases portion with
        | nil => exact absurd rfl lasting.1
        | cons byte bytes =>
          simp only [read, waiting]
          rw [sent_cons, Delivery.portion, ← List.append_assoc] at split
          exact (ih lasting.2 split).bytes_cons _
    · simp only [read, found]
      exact .frame kept rfl

/-- What comes of so many calls on the same buffer, each of which takes up the stream where the one
before has left it. -/
def calls (limit : Nat) : Nat → Bytes → List Delivery → List ReadResult × Bytes
  | 0, buffer, _ => ([], buffer)
  | count + 1, buffer, deliveries =>
    let (result, left, later) := read limit buffer deliveries
    let (others, last) := calls limit count left later
    (result :: others, last)

theorem calls_succ {count : Nat} {left : Bytes} {later : List Delivery} {result : ReadResult}
    (h : read limit buffer deliveries = (result, left, later)) :
    calls limit (count + 1) buffer deliveries =
      (result :: (calls limit count left later).1, (calls limit count left later).2) := by
  rw [calls, h]

/-- At the end of the stream all calls are alike. -/
theorem calls_at_end (h : IsTransmission limit [] tail) (count : Nat) :
    calls limit count tail [] = (List.replicate count (atEnd tail), tail) := by
  have waiting := h.next_of_nil List.prefix_rfl
  have last : read limit tail [] = (atEnd tail, tail, []) := by simp only [read, waiting]
  induction count with
  | zero => rfl
  | succ count ih =>
    rw [calls_succ last, ih]
    rfl

/-- Each call that is not at the end returns a frame or is cancelled. -/
theorem exists_calls (h : IsTransmission limit frames tail) (lasting : .bytes [] ∉ deliveries)
    (split : buffer ++ sent deliveries = frames.flatten ++ tail) :
    ∃ results : List ReadResult,
      results.filter (· ≠ .ended) = frames.map (.piece <| .frame ·) ∧
      results.length = frames.length + deliveries.count .cancelled ∧
      ∀ more, calls limit (results.length + more + 1) buffer deliveries =
        (results ++ List.replicate (more + 1) (atEnd tail), tail) := by
  generalize total : frames.length + deliveries.count .cancelled = size
  induction size using Nat.strongRecOn generalizing frames buffer deliveries with
  | ind size ih =>
    have course := read_goes h lasting split
    generalize called : read limit buffer deliveries = outcome at course
    cases course with
    | @frame raw left others _ rest kept count =>
      obtain ⟨results, returned, length, after⟩ :=
        ih _ (by simp only [List.length_cons] at total; omega) h.behind_first
          (lasting_of_read called lasting) kept rfl
      refine ⟨.piece (.frame raw) :: results, ?_, ?_, fun more => ?_⟩
      · rw [List.filter_cons_of_pos (by simp), returned, List.map_cons]
      · rw [← total, List.length_cons, List.length_cons, length, count]
        omega
      · rw [List.length_cons, Nat.add_right_comm _ 1, calls_succ called, after, List.cons_append]
    | @cancelled _ left _ rest kept count =>
      obtain ⟨results, returned, length, after⟩ :=
        ih _ (by omega) h (lasting_of_read called lasting) kept rfl
      refine ⟨.ended :: results, ?_, ?_, fun more => ?_⟩
      · rw [List.filter_cons_of_neg (by simp), returned]
      · rw [← total, List.length_cons, length, count]
        omega
      · rw [List.length_cons, Nat.add_right_comm _ 1, calls_succ called, after, List.cons_append]
    | ended count =>
      refine ⟨[], rfl, by rw [← total, count]; rfl, fun more => ?_⟩
      rw [List.length_nil, Nat.zero_add, calls_succ called, calls_at_end h]
      rfl

/-- Calls return the frames of a stream in their order and then, however often, what its end means
for the bytes that are left. Calls that are cancelled come in between and change nothing else. -/
theorem calls_of_isTransmission (h : IsTransmission limit frames tail)
    (lasting : .bytes [] ∉ deliveries) (split : sent deliveries = frames.flatten ++ tail) :
    (.cancelled ∉ deliveries → ∀ more,
      calls limit (frames.length + more + 1) [] deliveries =
        (frames.map (.piece <| .frame ·) ++ List.replicate (more + 1)
          (if tail = [] then .ended else .failed (.closedInsideFrame tail.length)), tail)) ∧
    ∃ results : List ReadResult,
      results.filter (· ≠ .ended) = frames.map (.piece <| .frame ·) ∧
      results.length = frames.length + deliveries.count .cancelled ∧
      ∀ more, calls limit (results.length + more + 1) [] deliveries =
        (results ++ List.replicate (more + 1)
          (if tail = [] then .ended else .failed (.closedInsideFrame tail.length)), tail) := by
  obtain ⟨results, returned, length, called⟩ := @exists_calls limit _ [] _ _ h lasting split
  refine ⟨fun uncancelled more => ?_, results, returned, length, called⟩
  rw [List.count_eq_zero.mpr uncancelled, Nat.add_zero] at length
  have all : results.filter (· ≠ .ended) = results := by
    rw [← List.length_filter_eq_length_iff.trans List.filter_eq_self.symm, returned, length,
      List.length_map]
  rw [← length, called, ← returned, all]
  rfl

/-- A reset and all but two bytes of another one, read at once and with a call that is cancelled
inside the first of them. -/
theorem calls_of_isTransmission_cancelled :
    ∃ reset : Frame,
      Frame.assemble ⟨.customReset, 36, "A", "B", 0, 0⟩ (.customReset []) ⟨0, [], 0⟩ = .ok reset ∧
      calls 52 2 [] [.bytes (reset.raw ++ reset.raw.take 50)] =
        ([.piece (.frame reset.raw), .failed (.closedInsideFrame 50)], reset.raw.take 50) ∧
      ∃ results : List ReadResult,
        results.filter (· ≠ .ended) = [.piece (.frame reset.raw)] ∧ results.length = 2 ∧
        calls 52 3 [] [.bytes (reset.raw.take 20), .cancelled,
            .bytes (reset.raw.drop 20 ++ reset.raw.take 50)] =
          (results ++ [.failed (.closedInsideFrame 50)], reset.raw.take 50) := by
  obtain ⟨reset, assembled⟩ : ∃ reset, Frame.assemble ⟨.customReset, 36, "A", "B", 0, 0⟩
      (.customReset []) ⟨0, [], 0⟩ = .ok reset := ⟨_, rfl⟩
  have length : reset.raw.length = 52 := by
    obtain rfl := Except.ok.inj assembled
    rfl
  have delimited := (Frame.IsObtained.assembled assembled).isDelimited
  have cutOff : (reset.raw.take 50).length = 50 := List.length_take_of_le (by omega)
  have strict : reset.raw.take 50 ≠ reset.raw := fun same => by
    rw [same] at cutOff
    omega
  have transmission : IsTransmission 52 [reset.raw] (reset.raw.take 50) :=
    ⟨by simpa using delimited, by simp [length],
      .inr ⟨reset.raw, delimited, length.le, List.take_prefix _ _, strict⟩⟩
  have some : reset.raw ≠ [] := fun none => by simp [none] at length
  have rest : reset.raw.take 50 ≠ [] := by simp [some]
  have atOnce : sent [.bytes (reset.raw ++ reset.raw.take 50)] =
      [reset.raw].flatten ++ reset.raw.take 50 := by
    simp [sent, Delivery.portion]
  have inPortions : sent [.bytes (reset.raw.take 20), .cancelled,
      .bytes (reset.raw.drop 20 ++ reset.raw.take 50)] =
      [reset.raw].flatten ++ reset.raw.take 50 := by
    simp [sent, Delivery.portion, ← List.append_assoc]
  obtain ⟨uncancelled, -⟩ := calls_of_isTransmission transmission (by simp [some]) atOnce
  obtain ⟨-, results, returned, count, called⟩ :=
    calls_of_isTransmission transmission (by simp [some]) inPortions
  rw [if_neg rest, cutOff] at uncancelled called
  have two : results.length = 2 := count
  have last := called 0
  rw [two] at last
  exact ⟨reset, assembled, uncancelled (by simp) 0, results, returned, two, last⟩

end StreamReader

end ContinuousData
