/-! Points in time. -/
namespace ContinuousData

/-- Nanoseconds since 1970-01-01T00:00:00Z. -/
abbrev Timestamp := Int

namespace Timestamp

/-- Whole milliseconds since 1970, rounded down; they wrap around at 64 bits. -/
def millis (time : Timestamp) : Int64 :=
  Int64.ofInt (time / 1000000)

def ofMillis (millis : Int64) : Timestamp :=
  millis.toInt * 1000000

end Timestamp

end ContinuousData
