import InteropBridge.Toml.Document
import InteropBridge.Toml.Moment
import InteropBridge.Toml.Number
import InteropBridge.Toml.Text

/-!
# Reading a document

A document is read line by line: empty lines and comments, headers in brackets,
and pairs of a dotted key and a value.  Values may be nested and keys dotted up
to a fixed depth, which is far beyond what any configuration needs and bounds
the recursion.
-/

namespace InteropBridge.Toml

open Reader

/-- How deep values may be nested, and how many parts a dotted key may have. -/
def maxDepth : Nat := 79

/-! ## Keys -/

/-- Characters of keys without quotes. -/
def isBareKey (c : Char) : Bool :=
  c.isAlphanum || c == '-' || c == '_'

/-- Takes one part of a key. -/
def simpleKey : Reader String := do
  match ← peek with
  | some '"' => Text.quoted
  | some c =>
      if c == Text.singleQuote then Text.literal
      else
        let key ← takeWhile isBareKey
        if key.isEmpty then failure else return String.ofList key
  | none => failure

/-- Takes a dotted key with the blanks around its parts: all parts but the
last, and the last. -/
def dottedKey : Reader (List String × String) := do
  let spaced : Reader String := do
    blanks
    let part ← simpleKey
    blanks
    return part
  let first ← spaced
  let others ← manyUpTo (do if ← accept "." then return some (← spaced) else return none) maxDepth
  return ((first :: others).dropLast, others.getLast?.getD first)

/-! ## Values -/

/-- Characters of numbers, moments and names. -/
def isWordChar (c : Char) : Bool :=
  c.isAlphanum || c == '+' || c == '-' || c == '_' || c == '.' || c == ':'

/-- The value of a single word. -/
def wordValue? (word : List Char) : Option Value :=
  if word == "true".toList then some (.boolean true)
  else if word == "false".toList then some (.boolean false)
  else if Moment.isMoment word then some (.moment (String.ofList word))
  else (Number.fraction? word).or (Number.integer? word)

/-- Takes the time of day that follows a date after a blank, if one does. -/
def timeAfterDate : Reader Unit := do
  match ← get with
  | ' ' :: rest =>
      if rest.head?.any Char.isDigit then
        if Moment.isTimeWithOffset (rest.takeWhile isWordChar) then
          set (rest.dropWhile isWordChar)
        else failure
  | _ => return ()

/-- Takes a number, a moment or a name. -/
def plainValue : Reader Value := do
  let word ← takeWhile isWordChar
  match wordValue? word with
  | none => failure
  | some value =>
      if Moment.isDate word then timeAfterDate
      return value

/-- Takes the rest of an array after its opening bracket.  A comma may follow
the last item. -/
def arrayItems (value : Reader Value) : Reader (List Value) := do
  let item : Reader (Option Value) := do
    trivia
    if (← peek) == some ']' then return none
    else
      let item ← value
      trivia
      if (← peek) != some ']' then expect ","
      return some item
  let items ← many item
  expect "]"
  return items

/-- Takes a pair of a dotted key and a value. -/
def pair (value : Reader Value) : Reader Pair := do
  let (path, key) ← dottedKey
  expect "="
  blanks
  return { path, key, value := ← value }

/-- Takes the rest of a table in one piece after its opening brace.  All of it
stands on one line, and no comma follows the last pair. -/
def inlinePairs (value : Reader Value) : Reader (List Pair) := do
  let spaced : Reader Pair := do
    let pair ← pair value
    blanks
    return pair
  blanks
  if ← accept "\x7d" then return []
  else
    let first ← spaced
    let others ← many do
      if ← accept "," then return some (← spaced) else return none
    expect "\x7d"
    return first :: others

/-- Takes a value in which `room` levels of nesting are left. -/
def value : Nat → Reader Value
  | 0 => do
      match ← peek with
      | some c => if c == '"' || c == Text.singleQuote then return .text (← Text.any) else plainValue
      | none => failure
  | room + 1 => do
      match ← peek with
      | some c =>
          if c == '"' || c == Text.singleQuote then return .text (← Text.any)
          else if ← accept "[" then return .array (← arrayItems (value room))
          else if ← accept "\x7b" then
            match Value.ofPairs? (← inlinePairs (value room)) with
            | some table => return table
            | none => failure
          else plainValue
      | none => failure

/-! ## Documents -/

/-- Takes the pairs up to the next header or the end of the document. -/
def pairs : Reader (List Pair) := do
  let line : Reader (Option (Option Pair)) := do
    blanks
    match ← peek with
    | none | some '[' => return none
    | some '#' => endOfLine; return some none
    | some c =>
        if c == '\n' || c == '\r' then
          endOfLine
          return some none
        else
          let pair ← pair (value maxDepth)
          endOfLine
          return some (some pair)
  return (← many line).filterMap id

/-- Takes a header and its line. -/
def header : Reader Header := do
  expect "["
  if ← accept "[" then
    let (path, key) ← dottedKey
    expect "]]"
    endOfLine
    return .element path key
  else
    let (path, key) ← dottedKey
    expect "]"
    endOfLine
    return .table path key

/-- Takes sections up to the end of the document. -/
def sections : Reader (List Section) :=
  many do
    match ← peek with
    | some '[' => return some { header := ← header, pairs := ← pairs }
    | _ => return none

/-- Takes a whole document. -/
def document : Reader Value := do
  let _ ← accept (String.ofList [Char.ofNat 0xFEFF])
  let first ← pairs
  let rest ← sections
  match Value.ofSections? first rest with
  | some value => return value
  | none => failure

/-- The value of a document, if the whole of it is well formed. -/
def parse? (text : String) : Option Value :=
  match document.run text.toList with
  | some (value, []) => some value
  | _ => none

end InteropBridge.Toml
