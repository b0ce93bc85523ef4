import ContinuousData.Proofs.Resynchronization

/-! A stream of bytes is taken apart without loss, and the splitter never gets stuck. Its pieces and
the bytes that are left are those that have arrived; each piece is at least as long as a header, and
few bytes are left. Index by index, with lengths of 64 bits and checked bounds, the splitter does
the same. -/
namespace ContinuousData

namespace Header

/-- The two leading fields, where their bytes are there. -/
theorem readTypeAndOffset_of_length {input : Bytes} (long : 8 ≤ input.length) :
    readTypeAndOffset input =
      match FrameType.ofWire? (Splitter.word (input.take 4)) with
      | none => .error (.unknownFrameType (Splitter.word (input.take 4))) (input.drop 4)
      | some type =>
        if Splitter.word ((input.drop 4).take 4) < 36 then
          .error (.trailerInsideHeader (Splitter.word ((input.drop 4).take 4))) (input.drop 8)
        else .ok (type, (Splitter.word ((input.drop 4).take 4)).toInt.toNat) (input.drop 8) := by
  unfold readTypeAndOffset
  rw [Decoder.bind_of_ok (Decoder.i32_of_length (by omega))]
  cases FrameType.ofWire? (Splitter.word (input.take 4)) with
  | none => rfl
  | some type =>
    dsimp only
    rw [Decoder.bind_of_ok (Decoder.i32_of_length (by rw [List.length_drop]; omega))]
    split_ifs <;> rw [List.drop_drop] <;> rfl

end Header

namespace Splitter

/-- Lengths are counted in 64 bits. -/
def sum? (a b : Nat) : Option Nat :=
  if a + b < 2 ^ 64 then some (a + b) else none

def difference? (a b : Nat) : Option Nat :=
  if b ≤ a then some (a - b) else none

/-- The bytes from one place to another, if both are in the buffer. -/
def slice? (start stop : Nat) (buffer : Bytes) : Option Bytes :=
  if start ≤ stop ∧ stop ≤ buffer.length then some ((buffer.take stop).drop start) else none

def splitAt? (count : Nat) (buffer : Bytes) : Option (Bytes × Bytes) :=
  if count ≤ buffer.length then some (buffer.take count, buffer.drop count) else none

/-- The place of the next type code from `place` on, in steps of four bytes. -/
def search? (buffer : Bytes) (place : Nat) : Option Nat :=
  match _next : sum? place 4 with
  | none => none
  | some stop =>
    if _inside : stop ≤ buffer.length then
      match slice? place stop buffer with
      | none => none
      | some code =>
        if (FrameType.ofWire? (word code)).isSome then some place else search? buffer stop
    else some place
termination_by buffer.length - place
decreasing_by
  unfold sum? at _next
  split at _next
  · obtain rfl := Option.some.inj _next
    omega
  · contradiction

def dropGarbage? (least : Nat) (reason : Error) (buffer : Bytes) : Option (Piece × Bytes) := do
  let count ← search? buffer least
  let (dropped, rest) ← splitAt? count buffer
  return (.garbage dropped reason, rest)

def padding? (size : Nat) : Option Nat :=
  if size % 4 = 0 then some 0 else difference? 4 (size % 4)

def trailerLength? (size : Nat) : Option Nat := do
  let padded ← sum? size (← padding? size)
  sum? (← sum? Trailer.fixedWidth padded) Trailer.checksumWidth

/-- What is found once the size of the authentication value has been read. -/
def nextOfSize? (limit offset fixedEnd : Nat) (size : Int32) (buffer : Bytes) :
    Option (Option (Piece × Bytes)) :=
  if size < 0 then do
    return some (← dropGarbage? fixedEnd (.negativeAuthenticationSize size) buffer)
  else do
    let length ← sum? offset (← trailerLength? size.toInt.toNat)
    if limit < length then
      return some (← dropGarbage? fixedEnd (.frameExceedsLimit length limit) buffer)
    if buffer.length < length then return none
    let (raw, rest) ← splitAt? length buffer
    return some (.frame raw, rest)

/-- What `next` finds, unless a length overflows or a place is beyond the buffer. -/
def next? (limit : Nat) (buffer : Bytes) : Option (Option (Piece × Bytes)) :=
  if buffer.length < Header.width then some none
  else do
    let head ← slice? 0 Header.width buffer
    match Header.readTypeAndOffset head with
    | .error reason _ => return some (← dropGarbage? Header.width reason buffer)
    | .ok (_, offset) _ =>
      if limit < offset then
        return some (← dropGarbage? Header.width (.offsetExceedsLimit offset limit) buffer)
      let fixedEnd ← sum? offset Trailer.fixedWidth
      if buffer.length < fixedEnd then return none
      let size ← slice? (← difference? fixedEnd 4) fixedEnd buffer
      nextOfSize? limit offset fixedEnd (word size) buffer

/-- All pieces, unless one of them takes nothing off the buffer. -/
def pieces? (limit : Nat) (buffer : Bytes) : Option (List Piece × Bytes) :=
  match next? limit buffer with
  | none => none
  | some none => some ([], buffer)
  | some (some (piece, rest)) =>
    if rest.length < buffer.length then do
      let (others, left) ← pieces? limit rest
      return (piece :: others, left)
    else none
termination_by buffer.length

def feedAll? (limit : Nat) : Bytes → List Bytes → Option (List Piece × Bytes)
  | buffer, [] => some ([], buffer)
  | buffer, chunk :: chunks => do
    let (found, left) ← pieces? limit (buffer ++ chunk)
    let (later, left) ← feedAll? limit left chunks
    return (found ++ later, left)

/-- A buffer can hold this many bytes. -/
def capacity : Nat := 2 ^ 63 - 1

/-- There is room in the buffer for each chunk, behind what is left of those before it. -/
def HasRoom (limit : Nat) : Bytes → List Bytes → Prop
  | _, [] => True
  | buffer, chunk :: chunks =>
    (buffer ++ chunk).length ≤ capacity ∧ HasRoom limit (feed limit buffer chunk).2 chunks

theorem sum?_eq {a b : Nat} (h : a + b < 2 ^ 64) : sum? a b = some (a + b) :=
  if_pos h

theorem slice?_eq {start stop : Nat} {buffer : Bytes} (forward : start ≤ stop)
    (inside : stop ≤ buffer.length) :
    slice? start stop buffer = some ((buffer.take stop).drop start) :=
  if_pos ⟨forward, inside⟩

theorem splitAt?_eq {count : Nat} {buffer : Bytes} (inside : count ≤ buffer.length) :
    splitAt? count buffer = some (buffer.take count, buffer.drop count) :=
  if_pos inside

/-- Four bytes that are no type code are passed over. -/
theorem distance_drop {bytes : Bytes} (long : 4 ≤ bytes.length)
    (codeless : ¬ (FrameType.ofWire? (word (bytes.take 4))).isSome) :
    distance bytes = 4 + distance (bytes.drop 4) := by
  match bytes, long with
  | a :: b :: c :: d :: rest, _ => exact if_neg codeless

variable {limit : Nat} {buffer : Bytes}

/-- Before every step of the search, its place is in the buffer. -/
theorem search?_eq (room : buffer.length ≤ capacity) {place : Nat}
    (inside : place ≤ buffer.length) :
    search? buffer place = some (place + distance (buffer.drop place)) := by
  unfold capacity at room
  have sum := @sum?_eq place 4 (by omega)
  have code : (buffer.take (place + 4)).drop place = (buffer.drop place).take 4 := by
    rw [List.drop_take, Nat.add_sub_cancel_left]
  -- The search goes on only if the next place is in the buffer, too.
  fun_induction search? buffer place with
  | case1 place overflow =>
    rw [sum] at overflow
    contradiction
  | case2 place stop next within beyond =>
    rw [sum] at next
    obtain rfl := Option.some.inj next
    rw [slice?_eq (Nat.le_add_right place 4) within] at beyond
    contradiction
  | case3 place stop next within bytes read found =>
    rw [sum] at next
    obtain rfl := Option.some.inj next
    rw [slice?_eq (Nat.le_add_right place 4) within, code] at read
    obtain rfl := Option.some.inj read
    rw [distance_of_stops (.inr found), Nat.add_zero]
  | case4 place stop next within bytes read codeless ih =>
    rw [sum] at next
    obtain rfl := Option.some.inj next
    rw [slice?_eq (Nat.le_add_right place 4) within, code] at read
    obtain rfl := Option.some.inj read
    rw [ih within (sum?_eq (by omega)) (by rw [List.drop_take, Nat.add_sub_cancel_left]),
      distance_drop (by rw [List.length_drop]; omega) codeless, List.drop_drop, Nat.add_assoc]
  | case5 place stop next within =>
    rw [sum] at next
    obtain rfl := Option.some.inj next
    rw [distance_of_stops (.inl (by rw [List.length_drop]; omega)), Nat.add_zero]

theorem dropGarbage?_eq (room : buffer.length ≤ capacity) {least : Nat} (reason : Error)
    (inside : least ≤ buffer.length) :
    dropGarbage? least reason buffer = dropGarbage least reason buffer := by
  have within : garbageLength least buffer ≤ buffer.length := by
    have := distance_le (buffer.drop least)
    rw [List.length_drop] at this
    unfold garbageLength
    omega
  unfold dropGarbage?
  rw [search?_eq room inside, Option.bind_eq_bind, Option.bind_some]
  rw [← garbageLength, splitAt?_eq within]
  rfl

theorem padding?_eq (size : Nat) : padding? size = some (Bytes.padding size 4) := by
  unfold padding? Bytes.padding
  split_ifs
  · rfl
  · exact if_pos (by omega)

theorem trailerLength?_eq {size : Nat} (small : size < 2 ^ 31) :
    trailerLength? size = some (Trailer.lengthFor size) := by
  have less : Bytes.padding size 4 < 4 := by
    unfold Bytes.padding
    split_ifs <;> omega
  have aligned : Bytes.aligned size = size + Bytes.padding size 4 := rfl
  unfold trailerLength? Trailer.fixedWidth Trailer.checksumWidth
  rw [padding?_eq, Option.bind_eq_bind, Option.bind_some, sum?_eq (by omega), Option.bind_some,
    sum?_eq (by omega), Option.bind_some, sum?_eq (by omega)]
  rfl

theorem lengthFor_le (size : Nat) : Trailer.lengthFor size ≤ size + 19 := by
  unfold Trailer.lengthFor Trailer.fixedWidth Trailer.checksumWidth Bytes.aligned Bytes.padded
    Bytes.padding
  split_ifs <;> omega

theorem return_dropGarbage?_eq (room : buffer.length ≤ capacity) {least : Nat} (reason : Error)
    (inside : least ≤ buffer.length) :
    (do return some (← dropGarbage? least reason buffer)) =
      some (dropGarbage least reason buffer) := by
  rw [dropGarbage?_eq room reason inside]
  rfl

theorem nextOfSize?_eq (room : buffer.length ≤ capacity) {offset fixedEnd : Nat}
    (near : offset < 2 ^ 31) (arrived : fixedEnd ≤ buffer.length) (size : Int32) :
    nextOfSize? limit offset fixedEnd size buffer =
      some (if size < 0 then dropGarbage fixedEnd (.negativeAuthenticationSize size) buffer
        else if limit < offset + Trailer.lengthFor size.toInt.toNat then
          dropGarbage fixedEnd
            (.frameExceedsLimit (offset + Trailer.lengthFor size.toInt.toNat) limit) buffer
        else if buffer.length < offset + Trailer.lengthFor size.toInt.toNat then none
        else some (.frame (buffer.take (offset + Trailer.lengthFor size.toInt.toNat)),
          buffer.drop (offset + Trailer.lengthFor size.toInt.toNat))) := by
  unfold nextOfSize?
  by_cases negative : size < 0
  · rw [if_pos negative, if_pos negative]
    exact return_dropGarbage?_eq room _ arrived
  have small : size.toInt.toNat < 2 ^ 31 := by
    have := size.toInt_lt
    omega
  have bound := lengthFor_le size.toInt.toNat
  rw [if_neg negative, if_neg negative, trailerLength?_eq small, Option.bind_eq_bind,
    Option.bind_some, sum?_eq (by omega), Option.bind_some]
  by_cases late : limit < offset + Trailer.lengthFor size.toInt.toNat
  · rw [if_pos late, if_pos late]
    exact return_dropGarbage?_eq room _ arrived
  rw [if_neg late, if_neg late]
  by_cases incomplete : buffer.length < offset + Trailer.lengthFor size.toInt.toNat
  · rw [if_pos incomplete, if_pos incomplete]
    rfl
  rw [if_neg incomplete, if_neg incomplete, splitAt?_eq (Nat.not_lt.mp incomplete)]
  rfl

/-- The header is read from a slice, and so is the size. -/
theorem next?_eq (room : buffer.length ≤ capacity) :
    next? limit buffer = some (next limit buffer) := by
  unfold next? next
  by_cases noHeader : buffer.length < Header.width
  · rw [if_pos noHeader, if_pos noHeader]
  have arrived := Nat.not_lt.mp noHeader
  -- The plain splitter reads the whole buffer, but no further than the eighth byte.
  have first : (buffer.take Header.width).take 4 = buffer.take 4 := List.take_take
  have second : ((buffer.take Header.width).drop 4).take 4 = (buffer.drop 4).take 4 := by
    rw [List.drop_take, List.take_take]
    rfl
  have head : 8 ≤ (buffer.take Header.width).length := by
    rw [List.length_take_of_le arrived]
    decide
  have long : 8 ≤ buffer.length := Nat.le_trans (by decide) arrived
  rw [if_neg noHeader, if_neg noHeader, slice?_eq (Nat.zero_le _) arrived, Option.bind_eq_bind,
    Option.bind_some, List.drop_zero, Header.readTypeAndOffset_of_length head,
    Header.readTypeAndOffset_of_length long, first, second]
  cases FrameType.ofWire? (word (buffer.take 4)) with
  | none => exact return_dropGarbage?_eq room _ arrived
  | some type =>
    dsimp only
    generalize word ((buffer.drop 4).take 4) = offset
    by_cases early : offset < 36
    · rw [if_pos early, if_pos early]
      exact return_dropGarbage?_eq room _ arrived
    rw [if_neg early, if_neg early]
    dsimp only
    have near : offset.toInt.toNat < 2 ^ 31 := by
      have := offset.toInt_lt
      omega
    generalize offset.toInt.toNat = offset at near
    by_cases far : limit < offset
    · rw [if_pos far, if_pos far]
      exact return_dropGarbage?_eq room _ arrived
    have fixedWidth : Trailer.fixedWidth = 8 := rfl
    rw [if_neg far, if_neg far, sum?_eq (by omega), Option.bind_eq_bind, Option.bind_some]
    by_cases noSize : buffer.length < offset + Trailer.fixedWidth
    · rw [if_pos noSize, if_pos noSize]
      rfl
    have fixedEnd := Nat.not_lt.mp noSize
    have place : difference? (offset + Trailer.fixedWidth) 4 =
        some (offset + Trailer.fixedWidth - 4) := if_pos (by omega)
    have bytes :
        (buffer.take (offset + Trailer.fixedWidth)).drop (offset + Trailer.fixedWidth - 4) =
          (buffer.drop (offset + Trailer.fixedWidth - 4)).take 4 := by
      rw [List.drop_take, Nat.sub_sub_self (by omega)]
    rw [if_neg noSize, if_neg noSize, place, Option.bind_some, slice?_eq (Nat.sub_le _ 4) fixedEnd,
      Option.bind_some, bytes]
    exact nextOfSize?_eq room near fixedEnd _

theorem pieces?_eq (room : buffer.length ≤ capacity) :
    pieces? limit buffer = some (pieces limit buffer) := by
  fun_induction pieces limit buffer with
  | case1 buffer waiting =>
    rw [pieces?, next?_eq room, waiting]
  | case2 buffer piece rest found others left same ih =>
    have shorter := next_length found
    rw [pieces?, next?_eq room, found]
    dsimp only
    rw [if_pos (by omega), ih (by omega), same]
    rfl

/-- Where the chunks fit in, no call of the splitter goes wrong. -/
theorem feedAll?_eq {chunks : List Bytes} (room : HasRoom limit buffer chunks) :
    feedAll? limit buffer chunks = some (feedAll limit buffer chunks) := by
  induction chunks generalizing buffer with
  | nil => rfl
  | cons chunk chunks ih =>
    obtain ⟨fits, later⟩ := room
    rw [feedAll?, pieces?_eq fits, Option.bind_eq_bind, Option.bind_some, ← feed]
    dsimp only
    rw [ih later]
    rfl

/-- What is waited for is a header, the size of an authentication value or the rest of a frame. -/
theorem length_of_waiting (h : next limit buffer = none) : buffer.length < max 36 (limit + 8) := by
  revert h
  unfold next dropGarbage Header.width Trailer.fixedWidth
  dsimp only
  repeat' split
  all_goals
    intro h
    first
      | contradiction
      | omega

theorem next_pieces (buffer : Bytes) : next limit (pieces limit buffer).2 = none := by
  fun_induction pieces limit buffer with
  | case1 buffer waiting => exact waiting
  | case2 buffer piece rest found others left same ih =>
    rw [same] at ih
    exact ih

theorem next_feedAll {chunks : List Bytes} (waiting : next limit buffer = none) :
    next limit (feedAll limit buffer chunks).2 = none := by
  induction chunks generalizing buffer with
  | nil => exact waiting
  | cons chunk chunks ih => exact ih (next_pieces (buffer ++ chunk))

/-- There is room for chunks that are read in small portions. -/
theorem hasRoom_of_short {chunks : List Bytes} (waiting : next limit buffer = none)
    (short : ∀ chunk ∈ chunks, max 36 (limit + 8) + chunk.length ≤ capacity) :
    HasRoom limit buffer chunks := by
  induction chunks generalizing buffer with
  | nil => trivial
  | cons chunk chunks ih =>
    obtain ⟨first, others⟩ := List.forall_mem_cons.mp short
    have left := length_of_waiting waiting
    refine ⟨?_, ih (next_pieces (buffer ++ chunk)) others⟩
    rw [List.length_append]
    omega

theorem length_pieces_le (buffer : Bytes) :
    36 * (pieces limit buffer).1.length + (pieces limit buffer).2.length ≤ buffer.length := by
  fun_induction pieces limit buffer with
  | case1 buffer waiting => simp
  | case2 buffer piece rest found others left same ih =>
    have shorter := next_length found
    rw [same] at ih
    dsimp only at ih ⊢
    rw [List.length_cons]
    omega

/-- The number of pieces is limited by that of the bytes. -/
theorem length_feedAll_le (buffer : Bytes) (chunks : List Bytes) :
    36 * (feedAll limit buffer chunks).1.length + (feedAll limit buffer chunks).2.length ≤
      buffer.length + chunks.flatten.length := by
  induction chunks generalizing buffer with
  | nil => simp [feedAll]
  | cons chunk chunks ih =>
    have now := @length_pieces_le limit (buffer ++ chunk)
    have later := ih (pieces limit (buffer ++ chunk)).2
    rw [List.length_append] at now
    rw [feedAll, feed, List.flatten_cons, List.length_append]
    dsimp only
    rw [List.length_append]
    omega

/-- Nothing is lost, doubled or swapped, every piece makes progress, no index leaves the buffer, and
little is waited for. -/
theorem feedAll_conserves (limit : Nat) (chunks : List Bytes) :
    ((feedAll limit [] chunks).1.map Piece.raw).flatten ++ (feedAll limit [] chunks).2 =
        chunks.flatten ∧
      (∀ buffer piece rest, next limit buffer = some (piece, rest) →
        piece.raw ++ rest = buffer ∧ 36 ≤ piece.raw.length) ∧
      36 * (feedAll limit [] chunks).1.length ≤ chunks.flatten.length ∧
      next limit (feedAll limit [] chunks).2 = none ∧
      (HasRoom limit [] chunks → feedAll? limit [] chunks = some (feedAll limit [] chunks)) ∧
      ∀ buffer, next limit buffer = none → buffer.length < max 36 (limit + 8) := by
  refine ⟨raw_feedAll [] chunks, ?_, ?_, next_feedAll rfl, feedAll?_eq,
    fun _ => length_of_waiting⟩
  · intro buffer piece rest found
    have whole := next_append found
    have shorter := next_length found
    rw [← whole, List.length_append] at shorter
    exact ⟨whole, by omega⟩
  · have total := @length_feedAll_le limit [] chunks
    rw [List.length_nil] at total
    omega

/-- Forty bytes are dropped at once, and three are left for later. -/
theorem feedAll_conserves_zeros :
    HasRoom 64 [] [Bytes.zeros 30, Bytes.zeros 13] ∧
      feedAll? 64 [] [Bytes.zeros 30, Bytes.zeros 13] =
        some ([.garbage (Bytes.zeros 40) (.unknownFrameType 0)], Bytes.zeros 3) := by
  have room : HasRoom 64 [] [Bytes.zeros 30, Bytes.zeros 13] :=
    hasRoom_of_short rfl (by decide)
  obtain ⟨-, -, -, -, checked, -⟩ := feedAll_conserves 64 [Bytes.zeros 30, Bytes.zeros 13]
  have found : next 64 ([] ++ Bytes.zeros 30 ++ Bytes.zeros 13) =
      some (.garbage (Bytes.zeros 40) (.unknownFrameType 0), Bytes.zeros 3) := rfl
  have waiting : next 64 ([] ++ Bytes.zeros 3) = none := rfl
  refine ⟨room, ?_⟩
  rw [checked room, feedAll_of_none _ rfl, feedAll_of_some _ found, feedAll_of_none _ waiting]
  rfl

end Splitter

end ContinuousData
