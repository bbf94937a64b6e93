import FrameCheck.Frame

/-!
Which frames serve where another is asked for: all its columns are there, and values that
are never null serve where null is allowed.
-/

namespace FrameCheck.Typing

def serves (actual expected : ColumnType) : Bool :=
  if actual.same expected then true
  else match expected with
    | .nullable inner => !actual.isNullable && actual.same inner
    | _ => false

/-- Whether a frame serves where another is asked for; it may have further columns. -/
def frameServes (actual expected : Frame) : Bool :=
  expected.columns.entries.all fun column =>
    match actual.column? column.1 with
    | some type => serves type column.2
    | none => false

end FrameCheck.Typing
