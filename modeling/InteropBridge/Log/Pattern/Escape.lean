import InteropBridge.Log.Pattern.Reader
import InteropBridge.Text.Numeral

/-!
# Escapes of a pattern

After a backslash, letters name classes, places and control characters, or
announce the hexadecimal digits of a code point.  Every other character of the
ASCII alphabet that is neither a letter nor a digit stands for itself.
-/

namespace InteropBridge.Log.Pattern

open Reader

/-- The pattern that matches just the character. -/
def plain (c : Char) : Pattern :=
  letter { char := c, isByte := false }

/-- Takes `count` more hexadecimal digits of a number that begins with
`value`. -/
def hexNumber (value : Nat) : Nat → Reader Nat
  | 0 => return value
  | count + 1 => do
      skip
      match Text.hexValue? (← take) with
      | some digit => hexNumber (value * 16 + digit) count
      | none => failure

/-- Takes the digits of a code point; surrogates have none. -/
def codePoint (digits : Nat) : Reader Pattern := do
  let code ← hexNumber 0 digits
  if code.isValidChar then return letter { char := Char.ofNat code, isByte := digits == 2 }
  else failure

/-- Takes what follows a backslash. -/
def escape : Reader Pattern := do
  match ← take with
  | 'x' => codePoint 2
  | 'u' => codePoint 4
  | 'U' => codePoint 8
  | 'd' | 's' | 'w' => return oneOf (.shorthand false)
  | 'D' | 'S' | 'W' => return oneOf (.shorthand true)
  | 'A' | 'z' => return anchor
  | 'b' | 'B' | '<' | '>' => return wordEdge
  | 'a' => return plain '\x07'
  | 'f' => return plain '\x0c'
  | 'n' => return plain '\n'
  | 'r' => return plain '\r'
  | 't' => return plain '\t'
  | 'v' => return plain '\x0b'
  | c => if c.toNat < 0x80 && !c.isAlphanum then return plain c else failure

end InteropBridge.Log.Pattern
