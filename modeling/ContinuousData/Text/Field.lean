import ContinuousData.Text.Blank
import ContinuousData.Text.Utf8

/-! Texts of fixed-width fields, which may be filled up with NUL bytes or spaces. -/
namespace ContinuousData.Text

/-- The text of a field: without NUL bytes anywhere and without white space at its ends. -/
def strip (raw : Bytes) : String :=
  String.ofList (trimChars (decode (raw.filter (· ≠ 0))))

end ContinuousData.Text
