import ContinuousData.Duration

/-! Timers that tick at regular intervals, on a clock that moves in leaps. A leap may pass over many
ticks, all of which are then late. -/
namespace ContinuousData

structure Ticker where
  period : Duration
  /-- When the next tick is due. -/
  next : Duration
  /-- A tick that is not later than this counts as in time. -/
  tolerance : Duration := .ofMillis 5
  deriving DecidableEq, Repr

namespace Ticker

/-- Ticks start one period after `now`. -/
def after (now period : Duration) : Ticker :=
  { period, next := now + period }

/-- A tick that is taken in time does not change the rhythm, a late one starts it anew. -/
def advance (ticker : Ticker) (now : Duration) : Ticker :=
  { ticker with
    next := (if ticker.next + ticker.tolerance < now then now else ticker.next) + ticker.period }

theorem next_lt_advance {ticker : Ticker} {now : Duration} (due : ticker.next ≤ now)
    (positive : 0 < ticker.period) : ticker.next < (ticker.advance now).next := by
  unfold advance
  split
  · exact Nat.lt_of_le_of_lt due (Nat.lt_add_of_pos_right positive)
  · exact Nat.lt_add_of_pos_right positive

theorem sub_advance_lt {ticker : Ticker} {now : Duration}
    (due : ticker.next ≤ now ∧ 0 < ticker.period) :
    now + 1 - (ticker.advance now).next < now + 1 - ticker.next :=
  Nat.sub_lt_sub_left (Nat.lt_succ_of_le due.1) (next_lt_advance due.1 due.2)

/-- How many ticks are taken at `now`. -/
def take (ticker : Ticker) (now : Duration) : Nat × Ticker :=
  if _due : ticker.next ≤ now ∧ 0 < ticker.period then
    let (others, later) := (ticker.advance now).take now
    (others + 1, later)
  else (0, ticker)
termination_by now + 1 - ticker.next
decreasing_by exact sub_advance_lt _due

/-- Makes up for all ticks that were missed, in the old rhythm; tells whether there were any. -/
def catchUp (ticker : Ticker) (now : Duration) : Bool × Ticker :=
  if ticker.next ≤ now then
    (true, { ticker with
      next := ticker.next + ((now - ticker.next) / ticker.period + 1) * ticker.period })
  else (false, ticker)

/-- A clock leaps by this time at most. -/
def leapLimit : Duration := .ofSeconds 1

/-- The leaps in which a clock is moved by `time`. -/
def leaps (time : Duration) : List Duration :=
  List.replicate (time / leapLimit) leapLimit ++
    if time % leapLimit = 0 then [] else [time % leapLimit]

end Ticker

end ContinuousData
