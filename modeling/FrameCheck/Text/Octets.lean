import FrameCheck.Text.Quoted

/-!
Text as octets: one to four of them for a character. Reading stops at the first octet that
cannot stand where it is.
-/

namespace FrameCheck.Text

inductive OctetsFault where
  | start
  | continuation
  | ending
deriving DecidableEq, Repr

/-- Where octets are no text: the octets from `first` up to `next` have no place. -/
structure OctetsError where
  fault : OctetsFault
  first : Nat
  next : Nat
  octet : UInt8
deriving DecidableEq, Repr

def OctetsFault.reason : OctetsFault → String
  | .start => "invalid start byte"
  | .continuation => "invalid continuation byte"
  | .ending => "unexpected end of data"

def OctetsError.message (error : OctetsError) : String :=
  let place :=
    if error.next = error.first + 1 then
      "byte 0x" ++ hexadecimal 2 error.octet.toNat ++ " in position " ++ toString error.first
    else "bytes in position " ++ toString error.first ++ "-" ++ toString (error.next - 1)
  "'utf-8' codec can't decode " ++ place ++ ": " ++ error.fault.reason

/-- A character that has begun: how many octets are still to come, between which bounds the
next one is, and the number that the octets so far make. -/
structure OpenCharacter where
  first : Nat
  octet : UInt8
  owed : Nat
  low : Nat
  high : Nat
  number : Nat

def openCharacter? (position : Nat) (octet : UInt8) : Option OpenCharacter :=
  let code := octet.toNat
  let opened (owed low high leading : Nat) : Option OpenCharacter :=
    some { first := position, octet, owed, low, high, number := code - leading }
  if code < 0xC2 then none
  else if code < 0xE0 then opened 1 0x80 0xBF 0xC0
  else if code = 0xE0 then opened 2 0xA0 0xBF 0xE0
  else if code = 0xED then opened 2 0x80 0x9F 0xE0
  else if code < 0xF0 then opened 2 0x80 0xBF 0xE0
  else if code = 0xF0 then opened 3 0x90 0xBF 0xF0
  else if code < 0xF4 then opened 3 0x80 0xBF 0xF0
  else if code = 0xF4 then opened 3 0x80 0x8F 0xF0
  else none

def readOctets (position : Nat) (done : List Char) :
    Option OpenCharacter → List UInt8 → Except OctetsError (List Char)
  | none, [] => .ok done.reverse
  | some opened, [] =>
    .error { fault := .ending, first := opened.first, next := position, octet := opened.octet }
  | none, octet :: rest =>
    if octet.toNat < 0x80 then
      readOctets (position + 1) (Char.ofNat octet.toNat :: done) none rest
    else
      match openCharacter? position octet with
      | some opened => readOctets (position + 1) done (some opened) rest
      | none => .error { fault := .start, first := position, next := position + 1, octet }
  | some opened, octet :: rest =>
    let code := octet.toNat
    if opened.low ≤ code && code ≤ opened.high then
      let number := opened.number * 64 + (code - 0x80)
      if opened.owed ≤ 1 then readOctets (position + 1) (Char.ofNat number :: done) none rest
      else
        let next := { opened with owed := opened.owed - 1, low := 0x80, high := 0xBF, number }
        readOctets (position + 1) done (some next) rest
    else
      .error
        { fault := .continuation, first := opened.first, next := position, octet := opened.octet }

def ofOctets (octets : List UInt8) : Except OctetsError String :=
  (readOctets 0 [] none octets).map String.ofList

end FrameCheck.Text
