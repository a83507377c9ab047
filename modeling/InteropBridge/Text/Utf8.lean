/-!
# UTF-8 text

Native text is UTF-8.  A character takes one to four bytes, always the
shortest form; surrogates and anything above U+10FFFF have no form.  `decode`
reads whole characters from the front and refuses the text after the last byte
of the longest readable part.
-/

namespace InteropBridge

/-- Text of the native side: a list of characters. -/
abbrev NativeText := List Char

namespace Utf8

/-- The bytes of a text. -/
def encode (text : NativeText) : List UInt8 :=
  text.flatMap String.utf8EncodeChar

/-- Continuation bytes, 80 to BF, carry six bits. -/
def isContinuation (byte : UInt8) : Bool :=
  0x80 ≤ byte.toNat && byte.toNat < 0xC0

/-- The six bits of a continuation byte. -/
def sixBits (byte : UInt8) : Nat :=
  byte.toNat % 0x40

/-- Two bytes that form a character.  C0 and C1 would be overlong. -/
def isTwoByte (first second : UInt8) : Bool :=
  0xC2 ≤ first.toNat && first.toNat < 0xE0 && isContinuation second

/-- Two bytes that begin a three-byte character.  After E0 a small second byte
would be overlong, after ED a large one would spell a surrogate. -/
def opensThreeByte (first second : UInt8) : Bool :=
  0xE0 ≤ first.toNat && first.toNat < 0xF0 && isContinuation second &&
    (first.toNat != 0xE0 || 0xA0 ≤ second.toNat) &&
    (first.toNat != 0xED || second.toNat < 0xA0)

/-- Two bytes that begin a four-byte character.  After F0 a small second byte
would be overlong, after F4 a large one would pass U+10FFFF. -/
def opensFourByte (first second : UInt8) : Bool :=
  0xF0 ≤ first.toNat && first.toNat < 0xF5 && isContinuation second &&
    (first.toNat != 0xF0 || 0x90 ≤ second.toNat) &&
    (first.toNat != 0xF4 || second.toNat < 0x90)

/-- The characters of a text whose first byte stands at `index`, or the number
of bytes up to there that can be read. -/
def decodeFrom (index : Nat) : List UInt8 → Except Nat NativeText
  | [] => .ok []
  | first :: rest =>
      if first.toNat < 0x80 then
        (Char.ofNat first.toNat :: ·) <$> decodeFrom (index + 1) rest
      else match rest with
      | [] => .error index
      | second :: rest =>
          if isTwoByte first second then
            (Char.ofNat ((first.toNat % 0x20) * 0x40 + sixBits second) :: ·) <$>
              decodeFrom (index + 2) rest
          else match rest with
          | [] => .error index
          | third :: rest =>
              if opensThreeByte first second && isContinuation third then
                (Char.ofNat ((first.toNat % 0x10) * 0x1000 + sixBits second * 0x40 +
                  sixBits third) :: ·) <$> decodeFrom (index + 3) rest
              else match rest with
              | [] => .error index
              | fourth :: rest =>
                  if opensFourByte first second && isContinuation third &&
                      isContinuation fourth then
                    (Char.ofNat ((first.toNat % 0x08) * 0x40000 + sixBits second * 0x1000 +
                      sixBits third * 0x40 + sixBits fourth) :: ·) <$>
                        decodeFrom (index + 4) rest
                  else
                    .error index

/-- The characters of a text, or the number of leading bytes that can be read
before the first fault. -/
def decode (bytes : List UInt8) : Except Nat NativeText :=
  decodeFrom 0 bytes

end Utf8

end InteropBridge
