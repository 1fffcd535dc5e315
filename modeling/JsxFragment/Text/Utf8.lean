import JsxFragment.Text.Quoted

/-!
Reading of UTF-8. The reader takes one byte at a time; it stops at the first byte that rules the
text out, or at the end if a character is unfinished there, and tells which bytes are at fault.
-/

namespace JsxFragment.Text

/-- Why bytes are not UTF-8. -/
inductive Utf8Cause where
  | startByte
  | continuationByte
  | endOfData
  deriving DecidableEq, Repr

/-- The bytes at fault: the first of them, where it stands, how many they are, and the reason. -/
structure Utf8Fault where
  position : Nat
  length : Nat
  byte : UInt8
  cause : Utf8Cause
  deriving DecidableEq, Repr

/-- A character whose first bytes have been read. -/
structure Utf8Unfinished where
  position : Nat
  byte : UInt8
  /-- How many of its bytes have been read. -/
  length : Nat
  /-- How many of its bytes are still to come. -/
  owed : Nat
  /-- The least value that the next byte may have. -/
  least : UInt8
  /-- The greatest value that the next byte may have. -/
  greatest : UInt8
  /-- The bits of the code point so far. -/
  bits : Nat

namespace Utf8

/-- The character that a first byte begins. -/
def begin (position : Nat) (byte : UInt8) : Option Utf8Unfinished :=
  let b := byte.toNat
  if 0xC2 ≤ b && b ≤ 0xDF then some ⟨position, byte, 1, 1, 0x80, 0xBF, b - 0xC0⟩
  else if b == 0xE0 then some ⟨position, byte, 1, 2, 0xA0, 0xBF, b - 0xE0⟩
  else if b == 0xED then some ⟨position, byte, 1, 2, 0x80, 0x9F, b - 0xE0⟩
  else if 0xE1 ≤ b && b ≤ 0xEF then some ⟨position, byte, 1, 2, 0x80, 0xBF, b - 0xE0⟩
  else if b == 0xF0 then some ⟨position, byte, 1, 3, 0x90, 0xBF, b - 0xF0⟩
  else if b == 0xF4 then some ⟨position, byte, 1, 3, 0x80, 0x8F, b - 0xF0⟩
  else if 0xF1 ≤ b && b ≤ 0xF3 then some ⟨position, byte, 1, 3, 0x80, 0xBF, b - 0xF0⟩
  else none

/-- The fault of an unfinished character. -/
def Utf8Unfinished.fault (u : Utf8Unfinished) (cause : Utf8Cause) : Utf8Fault :=
  ⟨u.position, u.length, u.byte, cause⟩

/-- Reads bytes from `position` on, after the characters `done`, the last of which comes first. -/
def decodeFrom (position : Nat) (done : List Char) (unfinished : Option Utf8Unfinished) :
    List UInt8 → Except Utf8Fault (List Char)
  | [] =>
    match unfinished with
    | none => .ok done.reverse
    | some u => .error (Utf8Unfinished.fault u .endOfData)
  | byte :: rest =>
    match unfinished with
    | none =>
      if byte.toNat < 0x80 then
        decodeFrom (position + 1) (Char.ofNat byte.toNat :: done) none rest
      else
        match begin position byte with
        | some u => decodeFrom (position + 1) done (some u) rest
        | none => .error ⟨position, 1, byte, .startByte⟩
    | some u =>
      if u.least ≤ byte && byte ≤ u.greatest then
        let bits := u.bits * 0x40 + (byte.toNat - 0x80)
        if u.owed ≤ 1 then decodeFrom (position + 1) (Char.ofNat bits :: done) none rest
        else
          decodeFrom (position + 1) done
            (some { u with
              length := u.length + 1, owed := u.owed - 1, least := 0x80, greatest := 0xBF, bits })
            rest
      else .error (Utf8Unfinished.fault u .continuationByte)

/-- The text that the bytes encode. -/
def decode (bytes : List UInt8) : Except Utf8Fault (List Char) :=
  decodeFrom 0 [] none bytes

end Utf8

/-- The reason in words. -/
def Utf8Cause.message : Utf8Cause → String
  | .startByte => "invalid start byte"
  | .continuationByte => "invalid continuation byte"
  | .endOfData => "unexpected end of data"

/-- The fault in words: a single byte is shown, several are told by their positions. -/
def Utf8Fault.message (fault : Utf8Fault) : String :=
  let whereFound :=
    if fault.length ≤ 1 then
      "byte 0x" ++ String.ofList (hexDigits 2 fault.byte.toNat) ++ " in position "
        ++ toString fault.position
    else
      "bytes in position " ++ toString fault.position ++ "-"
        ++ toString (fault.position + fault.length - 1)
  "'utf-8' codec can't decode " ++ whereFound ++ ": " ++ fault.cause.message

end JsxFragment.Text
