import DocBinder.Text.Basic
import DocBinder.Value.Literal

/-!
# Reading UTF-8

Bytes are read as characters. What is no character is either reported with its place and reason, or
replaced; in both cases it covers the longest beginning of a character that stands there.
-/

namespace DocBinder.Text

/-- Why bytes are no character. -/
inductive Utf8Defect where
  | invalidStart
  | invalidContinuation
  | unexpectedEnd
deriving DecidableEq, Repr

/-- The defect in words. -/
def Utf8Defect.reason : Utf8Defect → String
  | .invalidStart => "invalid start byte"
  | .invalidContinuation => "invalid continuation byte"
  | .unexpectedEnd => "unexpected end of data"

/-- What stands at the head of bytes: a character, or a defect, and the number of bytes it
covers. -/
inductive Utf8Unit where
  | character (value : Char) (size : Nat)
  | defect (reason : Utf8Defect) (size : Nat)
deriving Repr

/-- The number of bytes a character has by its first byte, and the range of its second one. -/
def utf8Lead (byte : UInt8) : Option (Nat × UInt8 × UInt8) :=
  if 0xC2 ≤ byte && byte ≤ 0xDF then some (2, 0x80, 0xBF)
  else if byte == 0xE0 then some (3, 0xA0, 0xBF)
  else if byte == 0xED then some (3, 0x80, 0x9F)
  else if 0xE1 ≤ byte && byte ≤ 0xEF then some (3, 0x80, 0xBF)
  else if byte == 0xF0 then some (4, 0x90, 0xBF)
  else if byte == 0xF4 then some (4, 0x80, 0x8F)
  else if 0xF1 ≤ byte && byte ≤ 0xF3 then some (4, 0x80, 0xBF)
  else none

/-- Read the bytes of a character after its first one. `size` counts the bytes already read. -/
def utf8Rest (low high : UInt8) (code size : Nat) : Nat → List UInt8 → Utf8Unit
  | 0, _ => .character (Char.ofNat code) size
  | _ + 1, [] => .defect .unexpectedEnd size
  | missing + 1, byte :: rest =>
      if low ≤ byte && byte ≤ high then
        utf8Rest 0x80 0xBF (code * 64 + byte.toNat % 64) (size + 1) missing rest
      else .defect .invalidContinuation size

/-- What stands at the head of bytes. -/
def utf8Head (byte : UInt8) (rest : List UInt8) : Utf8Unit :=
  if byte < 0x80 then .character (Char.ofNat byte.toNat) 1
  else
    match utf8Lead byte with
    | some (size, low, high) =>
        utf8Rest low high (byte.toNat % Nat.pow 2 (7 - size)) 1 (size - 1) rest
    | none => .defect .invalidStart 1

/-- A place in bytes where no character stands. -/
structure Utf8Fault where
  defect : Utf8Defect
  position : Nat
  bytes : List UInt8
deriving Repr

/-- The fault in words. -/
def Utf8Fault.message (fault : Utf8Fault) : String :=
  match fault.bytes with
  | [byte] =>
      s!"'utf-8' codec can't decode byte 0x{String.ofList (hexDigits 2 byte.toNat)} in position "
        ++ s!"{fault.position}: {fault.defect.reason}"
  | bytes =>
      s!"'utf-8' codec can't decode bytes in position {fault.position}-"
        ++ s!"{fault.position + bytes.length - 1}: {fault.defect.reason}"

/-- Read bytes from a position on; `skip` counts the bytes of a character still to pass. -/
def decodeFrom (position skip : Nat) : List UInt8 → Text → Except Utf8Fault Text
  | [], read => .ok read.reverse
  | byte :: rest, read =>
      match skip with
      | skip + 1 => decodeFrom (position + 1) skip rest read
      | 0 =>
          match utf8Head byte rest with
          | .character value size => decodeFrom (position + 1) (size - 1) rest (value :: read)
          | .defect reason size => .error ⟨reason, position, (byte :: rest).take size⟩

/-- The text that bytes hold, or where they hold none. -/
def decodeUtf8 (bytes : List UInt8) : Except Utf8Fault Text :=
  decodeFrom 0 0 bytes []

/-- Read bytes and put a replacement character for each defect. -/
def decodeLossyFrom (skip : Nat) : List UInt8 → Text
  | [] => []
  | byte :: rest =>
      match skip with
      | skip + 1 => decodeLossyFrom skip rest
      | 0 =>
          match utf8Head byte rest with
          | .character value size => value :: decodeLossyFrom (size - 1) rest
          | .defect _ size => '\ufffd' :: decodeLossyFrom (size - 1) rest

/-- The text that bytes hold, with a replacement character for each defect. -/
def decodeUtf8Lossy (bytes : List UInt8) : Text :=
  decodeLossyFrom 0 bytes

end DocBinder.Text
