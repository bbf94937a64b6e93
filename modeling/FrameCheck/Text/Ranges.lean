/-! Sets of characters, written as sorted ranges of code points. -/

namespace FrameCheck.Text

/-- Inclusive ranges of code points. -/
abbrev Ranges := Array (Nat × Nat)

namespace Ranges

def contains (ranges : Ranges) (char : Char) : Bool :=
  ranges.any fun range => range.1 ≤ char.toNat && char.toNat ≤ range.2

end Ranges

end FrameCheck.Text
