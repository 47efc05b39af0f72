/-!
# UTF-8

Blobs hold bytes; keys, property files and reference names are text. This module reads bytes as
UTF-8 twice over: strictly (`BlobRemote.Utf8.decode`), where the first broken sequence is reported
with the place and the reason, and leniently (`BlobRemote.Utf8.decodeLossy`), where every broken
sequence becomes one replacement character. Both rest on one function, `BlobRemote.Utf8.next`, that
says what the bytes at the front are and how many of them belong together: the longest beginning of
a well-formed sequence, or a single byte that begins none.

The recursion walks over the list one byte at a time and counts down the bytes that belong to a
sequence already read, so that it is structural.
-/

namespace BlobRemote

/-- The contents of a blob. -/
abbrev Bytes := List UInt8

namespace Utf8

/-! ### One sequence -/

/-- Why bytes are not UTF-8. -/
inductive Reason where
  /-- The byte begins no sequence. -/
  | start
  /-- A byte inside a sequence is not one that may follow. -/
  | continuation
  /-- The text ends inside a sequence. -/
  | truncated
  deriving DecidableEq

/-- What the bytes at the front of a text are. -/
inductive Piece where
  /-- A well-formed sequence. -/
  | char (c : Char)
  /-- A broken one. -/
  | broken (reason : Reason)
  deriving DecidableEq

/-- Whether a byte may follow the first byte of a sequence. -/
def isTail (b : UInt8) : Bool := 0x80 ≤ b && b ≤ 0xBF

/-- The six bits that a following byte carries. -/
def tailBits (b : UInt8) : Nat := b.toNat - 0x80

/-- A sequence of two bytes, of which `b` is the first. -/
def nextTwo (b : UInt8) : Bytes → Piece × Nat
  | [] => (.broken .truncated, 1)
  | c :: _ =>
    if isTail c then (.char (Char.ofNat ((b.toNat - 0xC0) * 0x40 + tailBits c)), 2)
    else (.broken .continuation, 1)

/-- Whether `c` may stand second in a sequence of three bytes that begins with `b`: overlong
spellings and surrogates are left out. -/
def isSecondOfThree (b c : UInt8) : Bool :=
  isTail c && !(b == 0xE0 && c < 0xA0) && !(b == 0xED && 0xA0 ≤ c)

/-- A sequence of three bytes, of which `b` is the first. -/
def nextThree (b : UInt8) : Bytes → Piece × Nat
  | [] => (.broken .truncated, 1)
  | c :: rest =>
    if isSecondOfThree b c then
      match rest with
      | [] => (.broken .truncated, 2)
      | d :: _ =>
        if isTail d then
          (.char (Char.ofNat (((b.toNat - 0xE0) * 0x40 + tailBits c) * 0x40 + tailBits d)), 3)
        else (.broken .continuation, 2)
    else (.broken .continuation, 1)

/-- Whether `c` may stand second in a sequence of four bytes that begins with `b`: overlong
spellings and what lies beyond the last character are left out. -/
def isSecondOfFour (b c : UInt8) : Bool :=
  isTail c && !(b == 0xF0 && c < 0x90) && !(b == 0xF4 && 0x90 ≤ c)

/-- A sequence of four bytes, of which `b` is the first. -/
def nextFour (b : UInt8) : Bytes → Piece × Nat
  | [] => (.broken .truncated, 1)
  | c :: rest =>
    if isSecondOfFour b c then
      match rest with
      | [] => (.broken .truncated, 2)
      | d :: rest =>
        if isTail d then
          match rest with
          | [] => (.broken .truncated, 3)
          | e :: _ =>
            if isTail e then
              (.char (Char.ofNat
                ((((b.toNat - 0xF0) * 0x40 + tailBits c) * 0x40 + tailBits d) * 0x40 + tailBits e)),
                4)
            else (.broken .continuation, 3)
        else (.broken .continuation, 2)
    else (.broken .continuation, 1)

/-- What begins with the byte `b`, and how many bytes belong to it. -/
def next (b : UInt8) (rest : Bytes) : Piece × Nat :=
  if b < 0x80 then (.char (Char.ofNat b.toNat), 1)
  else if b < 0xC2 then (.broken .start, 1)
  else if b < 0xE0 then nextTwo b rest
  else if b < 0xF0 then nextThree b rest
  else if b < 0xF5 then nextFour b rest
  else (.broken .start, 1)

/-! ### Strict reading -/

/-- The first broken sequence of a text: its first byte, the positions it spans and the reason. -/
structure Fault where
  /-- The first byte of the sequence. -/
  byte : UInt8
  /-- Its position. -/
  start : Nat
  /-- The position after the sequence. -/
  stop : Nat
  /-- What is wrong with it. -/
  reason : Reason
  deriving DecidableEq

/-- The characters spelled by the bytes from position `pos` on, the first `skip` of which belong to
a sequence already read. -/
def decodeFrom : Nat → Nat → Bytes → Except Fault (List Char)
  | _, _, [] => .ok []
  | skip + 1, pos, _ :: rest => decodeFrom skip (pos + 1) rest
  | 0, pos, b :: rest =>
    match next b rest with
    | (.char c, width) => (decodeFrom (width - 1) (pos + 1) rest).map (c :: ·)
    | (.broken reason, width) => .error ⟨b, pos, pos + width, reason⟩

/-- The characters that the bytes spell, or the first broken sequence. -/
def decode (bs : Bytes) : Except Fault (List Char) := decodeFrom 0 0 bs

/-- Text spelled by bytes. -/
def decodeText (bs : Bytes) : Except Fault String := (decode bs).map String.ofList

/-! ### Lenient reading -/

/-- The characters spelled by the bytes, the first `skip` of which belong to a sequence already
read. -/
def lossyFrom : Nat → Bytes → List Char
  | _, [] => []
  | skip + 1, _ :: rest => lossyFrom skip rest
  | 0, b :: rest =>
    match next b rest with
    | (.char c, width) => c :: lossyFrom (width - 1) rest
    | (.broken _, width) => '\ufffd' :: lossyFrom (width - 1) rest

/-- **Lenient reading**: one replacement character for each broken sequence. -/
def decodeLossy (bs : Bytes) : String := String.ofList (lossyFrom 0 bs)

/-! ### Writing -/

/-- The bytes that spell the characters. -/
def encode (s : List Char) : Bytes := s.flatMap String.utf8EncodeChar

/-- The bytes that spell a text. -/
def encodeText (s : String) : Bytes := encode s.toList

@[simp] theorem encode_nil : encode [] = [] := rfl

@[simp] theorem encode_cons (c : Char) (s : List Char) :
    encode (c :: s) = String.utf8EncodeChar c ++ encode s := rfl

@[simp] theorem encode_append (s t : List Char) : encode (s ++ t) = encode s ++ encode t := by
  simp [encode]

/-! ### Wording -/

/-- A byte in two hexadecimal digits. -/
def hexByte (b : UInt8) : String :=
  String.ofList [Nat.digitChar (b.toNat / 16), Nat.digitChar (b.toNat % 16)]

/-- What is wrong, in words. -/
def Reason.message : Reason → String
  | .start => "invalid start byte"
  | .continuation => "invalid continuation byte"
  | .truncated => "unexpected end of data"

/-- The place and the reason, in words. A single byte is shown, a longer sequence is placed. -/
def Fault.message (f : Fault) : String :=
  let place :=
    if f.stop = f.start + 1 then s!"byte 0x{hexByte f.byte} in position {f.start}"
    else s!"bytes in position {f.start}-{f.stop - 1}"
  "'utf-8' codec can't decode " ++ place ++ ": " ++ f.reason.message

end Utf8

end BlobRemote
