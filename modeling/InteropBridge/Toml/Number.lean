import InteropBridge.Toml.Value

/-!
# Numbers of a document

The notations of integers and fractions, read from a whole word.  Single
underscores may stand between digits.  Integers must fit a signed
sixty-four-bit word; fractions must not round to positive infinity.
-/

namespace InteropBridge.Toml.Number

/-- The digits of a run in which single underscores may stand between digits,
or nothing if the run is formed in any other way. -/
def ungroup (isDigit : Char → Bool) : List Char → Option (List Char)
  | [] => none
  | [c] => if isDigit c then some [c] else none
  | c :: '_' :: rest =>
      if isDigit c then (c :: ·) <$> ungroup isDigit rest else none
  | c :: rest =>
      if isDigit c then (c :: ·) <$> ungroup isDigit rest else none

/-- The value of a digit, letters counting from ten in either case. -/
def digitValue (c : Char) : Nat :=
  if c.isDigit then c.toNat - 48
  else if c.toNat < 97 then c.toNat - 55
  else c.toNat - 87

/-- The value of a run of digits in the given base. -/
def valueIn (base : Nat) (digits : List Char) : Nat :=
  digits.foldl (fun value c => value * base + digitValue c) 0

/-- Whether the digits are written without a needless zero in front. -/
def isTight : List Char → Bool
  | '0' :: _ :: _ => false
  | _ => true

/-- Splits a sign off a word: whether it is negative, and the rest. -/
def splitSign : List Char → Bool × List Char
  | '+' :: rest => (false, rest)
  | '-' :: rest => (true, rest)
  | rest => (false, rest)

/-- The digits of a decimal integer without its sign. -/
def decimalDigits? (word : List Char) : Option (List Char) :=
  (ungroup Char.isDigit word).filter isTight

/-- One more than the largest integer. -/
def integerBound : Nat := 0x8000000000000000

/-- The value of digits after a base mark, if it fits. -/
def based? (base : Nat) (isDigit : Char → Bool) (digits : List Char) : Option Value := do
  let value := valueIn base (← ungroup isDigit digits)
  if value < integerBound then return .integer value else none

/-- Hexadecimal digits. -/
def isHexDigit (c : Char) : Bool :=
  c.isDigit || ('a' ≤ c && c ≤ 'f') || ('A' ≤ c && c ≤ 'F')

/-- The integer that a word denotes. -/
def integer? (word : List Char) : Option Value :=
  match word with
  | '0' :: 'x' :: digits => based? 16 isHexDigit digits
  | '0' :: 'o' :: digits => based? 8 (fun c => '0' ≤ c && c ≤ '7') digits
  | '0' :: 'b' :: digits => based? 2 (fun c => c == '0' || c == '1') digits
  | _ => do
      let (negative, digits) := splitSign word
      let value := valueIn 10 (← decimalDigits? digits)
      if negative then
        if value ≤ integerBound then return .integer (-value) else none
      else
        if value < integerBound then return .integer value else none

/-! ## Fractions -/

/-- Whether `digits` times ten to the `exponent` is too large for a double and
would round to infinity.  Half a unit above the largest double is the first
such value. -/
def overflows (digits : List Char) (exponent : Int) : Bool :=
  let significant := digits.dropWhile (· == '0')
  let magnitude : Int := significant.length + exponent
  if significant.isEmpty || magnitude < 300 then false
  else if magnitude > 320 then true
  else
    let value := valueIn 10 significant
    let bound := Nat.pow 2 1024 - Nat.pow 2 970
    if exponent < 0 then bound * Nat.pow 10 exponent.natAbs ≤ value
    else bound ≤ value * Nat.pow 10 exponent.toNat

/-- The exponent that follows its mark. -/
def exponent? (word : List Char) : Option Int := do
  let (negative, digits) := splitSign word
  let value := valueIn 10 (← ungroup Char.isDigit digits)
  return if negative then -value else value

/-- The fraction that a word denotes: a decimal integer followed by decimal
places, an exponent, or both; infinity and not-a-number have names. -/
def fraction? (word : List Char) : Option Value := do
  let (negative, body) := splitSign word
  if body == "inf".toList || body == "nan".toList then
    return .fraction (String.ofList word)
  let isMark := fun c => c == 'e' || c == 'E'
  let mantissa := body.takeWhile (!isMark ·)
  let exponent ← match body.dropWhile (!isMark ·) with
    | [] => some 0
    | _ :: rest => exponent? rest
  let whole ← decimalDigits? (mantissa.takeWhile (· != '.'))
  let places ← match mantissa.dropWhile (· != '.') with
    | [] => some []
    | _ :: rest => ungroup Char.isDigit rest
  if places.isEmpty && !body.any isMark then none
  else if !negative && overflows (whole ++ places) (exponent - places.length) then none
  else return .fraction (String.ofList word)

end InteropBridge.Toml.Number
