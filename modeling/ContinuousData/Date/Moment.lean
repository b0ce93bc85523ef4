import ContinuousData.Date.Timestamp
import ContinuousData.Duration

/-! Moments on two clocks: that on the wall, which stamps gaps and may be set at any time, and the
time that the program has been up, which measures how long something takes. -/
namespace ContinuousData

structure Moment where
  wall : Timestamp
  uptime : Duration
  deriving DecidableEq, Repr

end ContinuousData
