/-!
# UTF-16 text

Managed text is a list of sixteen-bit units.  A character below U+10000 is one
unit; any other is a high surrogate followed by a low one.  Units that pair up
no other way are unpaired surrogates: `decode` refuses the text at the first of
them, `decodeLossy` puts U+FFFD in the place of each.
-/

namespace InteropBridge.Utf16

/-- High surrogates, D800 to DBFF, open a pair. -/
def isHigh (unit : UInt16) : Bool :=
  0xD800 ≤ unit.toNat && unit.toNat < 0xDC00

/-- Low surrogates, DC00 to DFFF, close a pair. -/
def isLow (unit : UInt16) : Bool :=
  0xDC00 ≤ unit.toNat && unit.toNat < 0xE000

/-- The character spelled by a high and a low surrogate: ten bits from each,
counted from U+10000. -/
def joinPair (high low : UInt16) : Char :=
  Char.ofNat (0x10000 + (high.toNat - 0xD800) * 0x400 + (low.toNat - 0xDC00))

/-- The one or two units of a character. -/
def encodeChar (c : Char) : List UInt16 :=
  if c.toNat < 0x10000 then
    [UInt16.ofNat c.toNat]
  else
    [UInt16.ofNat (0xD800 + (c.toNat - 0x10000) / 0x400),
      UInt16.ofNat (0xDC00 + (c.toNat - 0x10000) % 0x400)]

/-- The units of a text. -/
def encode (text : List Char) : List UInt16 :=
  text.flatMap encodeChar

/-- The characters of a text whose first unit stands at `index`, or the place
of the first unpaired surrogate. -/
def decodeFrom (index : Nat) : List UInt16 → Except Nat (List Char)
  | [] => .ok []
  | unit :: rest =>
      if isHigh unit then
        match rest with
        | [] => .error index
        | next :: rest =>
            if isLow next then
              (joinPair unit next :: ·) <$> decodeFrom (index + 2) rest
            else
              .error index
      else if isLow unit then
        .error index
      else
        (Char.ofNat unit.toNat :: ·) <$> decodeFrom (index + 1) rest

/-- The characters of a text, or the place of its first unpaired surrogate,
counted in units. -/
def decode (units : List UInt16) : Except Nat (List Char) :=
  decodeFrom 0 units

/-- The character that stands for an unpaired surrogate. -/
def replacement : Char := Char.ofNat 0xFFFD

/-- The character of a unit that is no part of a pair. -/
def lossyChar (unit : UInt16) : Char :=
  if isHigh unit || isLow unit then replacement else Char.ofNat unit.toNat

/-- The characters of a text, with `replacement` for each unpaired surrogate.
A high surrogate that lacks its partner does not consume the unit after it. -/
def decodeLossy : List UInt16 → List Char
  | [] => []
  | [unit] => [lossyChar unit]
  | unit :: next :: rest =>
      if isHigh unit && isLow next then
        joinPair unit next :: decodeLossy rest
      else
        lossyChar unit :: decodeLossy (next :: rest)

end InteropBridge.Utf16
