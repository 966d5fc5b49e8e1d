import CodeMetrics.Number.Layout
import CodeMetrics.Text.Quoted

/-!
# UTF-8

Strict decoding. A malformed sequence is reported by the position of its first byte, the last byte that could still
have belonged to a character, and one of three causes. `newlines` then turns each `\r\n` and each lone `\r` into a
line feed, as text files are read.
-/

namespace CodeMetrics.Text

/-- Why a byte sequence is no character. -/
inductive Utf8Fault where
  | start
  | continuation
  | truncated
  deriving DecidableEq, Repr

/-- A malformed sequence: `count` bytes from position `first` on, of which the first has the value `byte`. -/
structure Utf8Error where
  first : Nat
  count : Nat
  byte : Nat
  fault : Utf8Fault
  deriving DecidableEq, Repr

def Utf8Fault.reason : Utf8Fault → String
  | start => "invalid start byte"
  | continuation => "invalid continuation byte"
  | truncated => "unexpected end of data"

def Utf8Error.message (e : Utf8Error) : String :=
  let place :=
    if e.count = 1 then
      "byte 0x" ++ String.ofList (hex 2 e.byte) ++ " in position " ++ Number.natText e.first
    else
      "bytes in position " ++ Number.natText e.first ++ "-" ++ Number.natText (e.first + e.count - 1)
  "'utf-8' codec can't decode " ++ place ++ ": " ++ e.fault.reason

/-- The number of bytes that follow a first byte, and the range of the first of them. -/
structure Utf8Lead where
  following : Nat
  least : Nat
  greatest : Nat
  /-- The bits that the first byte contributes. -/
  bits : Nat

/-- The first bytes of sequences of two, three and four bytes. The narrowed ranges leave out overlong forms,
surrogates and numbers beyond the last code point. -/
def utf8Lead? (b : Nat) : Option Utf8Lead :=
  if 0xc2 ≤ b ∧ b ≤ 0xdf then some ⟨1, 0x80, 0xbf, b - 0xc0⟩
  else if b = 0xe0 then some ⟨2, 0xa0, 0xbf, 0⟩
  else if b = 0xed then some ⟨2, 0x80, 0x9f, 0xd⟩
  else if 0xe1 ≤ b ∧ b ≤ 0xef then some ⟨2, 0x80, 0xbf, b - 0xe0⟩
  else if b = 0xf0 then some ⟨3, 0x90, 0xbf, 0⟩
  else if 0xf1 ≤ b ∧ b ≤ 0xf3 then some ⟨3, 0x80, 0xbf, b - 0xf0⟩
  else if b = 0xf4 then some ⟨3, 0x80, 0x8f, 4⟩
  else none

/-- Collects the bytes that follow: the code point and the rest, or the number of bytes seen and the fault. -/
def utf8Tail (least greatest : Nat) : Nat → Nat → Nat → List Nat → Except (Nat × Utf8Fault) (Nat × List Nat)
  | 0, _, bits, rest => .ok (bits, rest)
  | _ + 1, seen, _, [] => .error (seen, .truncated)
  | following + 1, seen, bits, b :: rest =>
    if least ≤ b ∧ b ≤ greatest then utf8Tail 0x80 0xbf following (seen + 1) (bits * 64 + (b - 0x80)) rest
    else .error (seen, .continuation)

/-- Decodes from position `at` on; `fuel` is at least the number of bytes. -/
def utf8Decode : Nat → Nat → List Nat → Except Utf8Error (List Char)
  | _, _, [] => .ok []
  | 0, _, _ => .ok []
  | fuel + 1, position, b :: rest =>
    if b < 0x80 then (utf8Decode fuel (position + 1) rest).map (Char.ofNat b :: ·)
    else
      match utf8Lead? b with
      | none => .error ⟨position, 1, b, .start⟩
      | some lead =>
        match utf8Tail lead.least lead.greatest lead.following 1 lead.bits rest with
        | .error (seen, fault) => .error ⟨position, seen, b, fault⟩
        | .ok (code, rest') =>
          (utf8Decode fuel (position + 1 + lead.following) rest').map (Char.ofNat code :: ·)

/-- Strict decoding of a file's bytes. -/
def decodeUtf8 (bytes : List Nat) : Except Utf8Error (List Char) := utf8Decode bytes.length 0 bytes

/-- The bytes of a text. -/
def encodeUtf8 (text : String) : List Nat := text.toUTF8.toList.map UInt8.toNat

/-- Every line end as a line feed. -/
def newlines : List Char → List Char
  | [] => []
  | '\r' :: '\n' :: rest => '\n' :: newlines rest
  | '\r' :: rest => '\n' :: newlines rest
  | c :: rest => c :: newlines rest

end CodeMetrics.Text
