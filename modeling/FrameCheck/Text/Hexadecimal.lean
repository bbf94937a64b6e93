/-! Numbers in base sixteen. -/

namespace FrameCheck.Text

/-- The value of digits in base sixteen, with capital letters. -/
def hexadecimalValue (digits : List Char) : Nat :=
  digits.foldl (fun value digit =>
    value * 16 + (if digit.isDigit then digit.toNat - 48 else digit.toNat - 55)) 0

def hexadecimal (width number : Nat) : String :=
  let digits := Nat.toDigits 16 number
  String.ofList (List.replicate (width - digits.length) '0' ++ digits)

end FrameCheck.Text
