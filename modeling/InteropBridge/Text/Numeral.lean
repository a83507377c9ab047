/-!
# Numerals

Hexadecimal digits for handles and escapes, the reading of a decimal numeral
that must fit a sixty-four-bit word, and the form of numbers with a fraction or
an exponent.
-/

namespace InteropBridge.Text

/-- Lower-case hexadecimal digits, without leading zeros. -/
def hexDigits (n : Nat) : String :=
  String.ofList (Nat.toDigits 16 n)

/-- The value of a hexadecimal digit of either case. -/
def hexValue? (c : Char) : Option Nat :=
  if c.isDigit then some (c.toNat - 48)
  else if 'a' ≤ c && c ≤ 'f' then some (c.toNat - 87)
  else if 'A' ≤ c && c ≤ 'F' then some (c.toNat - 55)
  else none

/-- The value of a list of decimal digits, or nothing if some character is no
digit. -/
def digitsValue? (digits : List Char) : Option Nat :=
  digits.foldl
    (fun value c => value.bind fun value =>
      if c.isDigit then some (10 * value + (c.toNat - 48)) else none)
    (some 0)

/-- A decimal numeral: an optional plus, at least one digit, any number of
leading zeros, and a value below two to the sixty-fourth. -/
def wordNumeral? (text : String) : Option Nat :=
  let digits := match text.toList with
    | '+' :: rest => rest
    | digits => digits
  if digits.isEmpty then none
  else (digitsValue? digits).filter (· < UInt64.size)

/-- A text without the sign that it may begin with. -/
def withoutSign : List Char → List Char
  | '+' :: rest => rest
  | '-' :: rest => rest
  | rest => rest

/-- Whether the text is a number without a sign: digits, perhaps with a point
before, among or after them, and perhaps an exponent. -/
def isUnsignedNumber (text : List Char) : Bool :=
  let whole := text.takeWhile Char.isDigit
  let afterWhole := text.dropWhile Char.isDigit
  let afterPoint := match afterWhole with
    | '.' :: rest => rest
    | _ => []
  let fraction := afterPoint.takeWhile Char.isDigit
  let exponent := match afterWhole with
    | '.' :: rest => rest.dropWhile Char.isDigit
    | rest => rest
  !(whole ++ fraction).isEmpty &&
    match exponent with
    | [] => true
    | mark :: digits =>
        (mark == 'e' || mark == 'E') && !(withoutSign digits).isEmpty &&
          (withoutSign digits).all Char.isDigit

/-- Whether the text is a number: perhaps a sign, and then a number without one
or a word for an infinity or for no number, in any case. -/
def isNumber (text : List Char) : Bool :=
  let unsigned := withoutSign text
  isUnsignedNumber unsigned ||
    ["inf", "infinity", "nan"].contains (String.ofList (unsigned.map Char.toLower))

end InteropBridge.Text
