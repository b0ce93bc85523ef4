import ContinuousData.Duration
import ContinuousData.Error

/-! Connecting to a peer that may not be there yet: an attempt at once and one every half second,
until one succeeds or the next would come too late. -/
namespace ContinuousData

namespace Dial

def retryInterval : Duration := .ofMillis 500

/-- How often dialling is retried while no attempt succeeds. -/
def retries (maxWait : Duration) : Nat :=
  maxWait / retryInterval

/-- Dials an address that never answers: the failure, and when it is known. -/
def failing (address : String) (reason : Error) (maxWait : Duration) : Error × Duration :=
  (.unreachable address (retries maxWait + 1) reason.message, retries maxWait * retryInterval)

/-- What is found at an address. -/
inductive Found where
  | noNetwork
  | nobody
  | listener
  deriving DecidableEq, Repr

/-- One attempt. -/
def attempt : Found → Except Error Unit
  | .noNetwork => throw .networkUnreachable
  | .nobody => throw .connectionRefused
  | .listener => return

/-- Dials an address, with what is found at each attempt. Only the last failure is reported. -/
def dial (address : String) (maxWait : Duration) (found : Nat → Found) :
    Except Error Unit × Duration :=
  match (List.range (retries maxWait)).find? (fun count => found count = .listener) with
  | some count => (.ok (), count * retryInterval)
  | none =>
    match attempt (found (retries maxWait)) with
    | .ok () => (.ok (), retries maxWait * retryInterval)
    | .error reason =>
      let (failure, elapsed) := failing address reason maxWait
      (.error failure, elapsed)

/-- A listener is reached if it is there in time. -/
theorem dial_eq_ok_iff (address : String) (maxWait : Duration) (found : Nat → Found) :
    (dial address maxWait found).1 = .ok () ↔
      ∃ count ≤ retries maxWait, found count = .listener := by
  unfold dial
  cases early : (List.range (retries maxWait)).find? (fun count => found count = .listener) with
  | some count =>
    have before := List.mem_range.mp (List.mem_of_find?_eq_some early)
    have reached : found count = .listener := by simpa using List.find?_some early
    exact iff_of_true rfl ⟨count, Nat.le_of_lt before, reached⟩
  | none =>
    have missed (count : Nat) (before : count < retries maxWait) : found count ≠ .listener :=
      by simpa using List.find?_eq_none.mp early count (List.mem_range.mpr before)
    cases last : found (retries maxWait) with
    | listener => exact iff_of_true rfl ⟨_, Nat.le_refl _, last⟩
    | noNetwork | nobody =>
      refine iff_of_false nofun ?_
      rintro ⟨count, inTime, reached⟩
      rcases Nat.lt_or_eq_of_le inTime with before | rfl
      · exact missed count before reached
      · exact nomatch last.symm.trans reached

end Dial

end ContinuousData
