import InteropBridge.Text.Numeral
import InteropBridge.Toml.Reader

/-!
# Texts of a document

Texts stand between quotes.  Double quotes admit escapes, single quotes take
every character as it is.  Three quotes open a text of several lines: a line end
right after them is dropped, up to two quotes may stand together inside, and a
backslash at the end of a line swallows the line end and all blanks after it.
-/

namespace InteropBridge.Toml.Text

open Reader

/-- Takes `count` hexadecimal digits. -/
def hexNumber (count : Nat) : Reader Nat := do
  let mut value := 0
  for _ in List.range count do
    match InteropBridge.Text.hexValue? (← take) with
    | some digit => value := value * 16 + digit
    | none => failure
  return value

/-- Takes the rest of an escape by code point; surrogates have none. -/
def codePoint (digits : Nat) : Reader Char := do
  let code ← hexNumber digits
  if code.isValidChar then return Char.ofNat code else failure

/-- Takes what follows the backslash of an escape. -/
def escape : Reader Char := do
  match ← take with
  | 'b' => return '\x08'
  | 't' => return '\t'
  | 'n' => return '\n'
  | 'f' => return '\x0c'
  | 'r' => return '\r'
  | '"' => return '"'
  | '\\' => return '\\'
  | 'u' => codePoint 4
  | 'U' => codePoint 8
  | _ => failure

/-- Takes a text in double quotes. -/
def quoted : Reader String := do
  expect "\""
  let chars ← many do
    match ← peek with
    | some '"' => return none
    | some '\\' => let _ ← take; return some (← escape)
    | some c => if isPlain c then return some (← take) else failure
    | none => failure
  expect "\""
  return String.ofList chars

/-- The single quote. -/
def singleQuote : Char := Char.ofNat 0x27

/-- Takes a text in single quotes. -/
def literal : Reader String := do
  expect "'"
  let chars ← takeWhile fun c => isPlain c && c != singleQuote
  expect "'"
  return String.ofList chars

/-- The number of quotes that are next. -/
def quoteRun (quote : Char) : Reader Nat := do
  return ((← get).takeWhile (· == quote)).length

/-- Takes one or two quotes inside a text of several lines; three or more
close it. -/
def innerQuotes (quote : Char) : Reader (Option (List Char)) := do
  let run ← quoteRun quote
  if run ≤ 2 then
    modify (·.drop run)
    return some (List.replicate run quote)
  else return none

/-- Takes the three quotes that close a text of several lines, and the up to
two before them that belong to it. -/
def closing (quote : Char) : Reader (List Char) := do
  let inner := min (← quoteRun quote) 5 - 3
  modify (·.drop inner)
  expect (String.ofList [quote, quote, quote])
  return List.replicate inner quote

/-- Takes a backslash that ends a line, and all blanks and line ends after it,
if one is next. -/
def acceptContinuation : Reader Bool := do
  let input ← get
  let _ ← take
  blanks
  if ← acceptLineEnd then
    let _ ← many (α := Unit) do
      match ← peek with
      | some c =>
          if isBlank c then let _ ← take; return some ()
          else if ← acceptLineEnd then return some ()
          else return none
      | none => return none
    return true
  else
    set input
    return false

/-- Takes one part of a text of several lines, up to its closing quotes. -/
def part (quote : Char) (hasEscapes : Bool) : Reader (Option (List Char)) := do
  match ← peek with
  | none => failure
  | some c =>
      if c == quote then innerQuotes quote
      else if hasEscapes && c == '\\' then
        if ← acceptContinuation then return some []
        else
          let _ ← take
          return some [← escape]
      else if ← acceptLineEnd then return some ['\n']
      else if isPlain c then return some [← take]
      else failure

/-- Takes a text of several lines. -/
def multiline (quote : Char) (hasEscapes : Bool) : Reader String := do
  expect (String.ofList [quote, quote, quote])
  let _ ← acceptLineEnd
  let parts ← many (part quote hasEscapes)
  return String.ofList (parts.flatten ++ (← closing quote))

/-- Takes a text in any of the four notations. -/
def any : Reader String := do
  let input ← get
  if "\"\"\"".toList.isPrefixOf input then multiline '"' true
  else if "'''".toList.isPrefixOf input then multiline singleQuote false
  else if input.head? == some '"' then quoted
  else literal

end InteropBridge.Toml.Text
