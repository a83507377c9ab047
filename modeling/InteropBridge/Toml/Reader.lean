/-!
# Readers

A reader takes characters from the front of a document and either comes back
with a result and the rest, or finds the document malformed.  Blanks, line ends
and comments are read here.
-/

namespace InteropBridge.Toml

/-- A computation over the unread part of a document. -/
abbrev Reader := StateT (List Char) Option

namespace Reader

/-- The next character, left in place. -/
def peek : Reader (Option Char) := do
  return (← get).head?

/-- Takes the next character. -/
def take : Reader Char := do
  match ← get with
  | [] => failure
  | c :: rest => set rest; return c

/-- Takes the given text. -/
def expect (text : String) : Reader Unit := do
  let input ← get
  if text.toList.isPrefixOf input then set (input.drop text.toList.length) else failure

/-- Takes the given text if it is next, and tells whether it was. -/
def accept (text : String) : Reader Bool := do
  let input ← get
  if text.toList.isPrefixOf input then
    set (input.drop text.toList.length)
    return true
  else return false

/-- Takes the longest run of characters that pass a test. -/
def takeWhile (test : Char → Bool) : Reader (List Char) := do
  let input ← get
  set (input.dropWhile test)
  return input.takeWhile test

/-- Repeats a reader until it declines, which it has to do by its turn number
`bound`. -/
def manyUpTo {α : Type} (item : Reader (Option α)) : Nat → Reader (List α)
  | 0 => failure
  | bound + 1 => do
      match ← item with
      | none => return []
      | some first => return first :: (← manyUpTo item bound)

/-- Repeats a reader until it declines.  A reader that takes a character each
time cannot be repeated more often than there are characters. -/
def many {α : Type} (item : Reader (Option α)) : Reader (List α) := do
  manyUpTo item ((← get).length + 1)

/-! ## Blanks, line ends and comments -/

/-- Blanks within a line: the space and the tab. -/
def isBlank (c : Char) : Bool :=
  c == ' ' || c == '\t'

/-- Characters that may stand in comments and literal texts: the tab and
everything that is no control character of the ASCII alphabet. -/
def isPlain (c : Char) : Bool :=
  c == '\t' || (0x20 ≤ c.toNat && c.toNat != 0x7F)

/-- Takes the blanks that are next. -/
def blanks : Reader Unit := do
  let _ ← takeWhile isBlank

/-- Takes a line end if one is next: a line feed, perhaps after a carriage
return. -/
def acceptLineEnd : Reader Bool := do
  if ← accept "\n" then return true else accept "\r\n"

/-- Takes a comment if one is next, up to the end of its line. -/
def comment : Reader Unit := do
  if ← accept "#" then
    let _ ← takeWhile isPlain

/-- Takes the rest of a line that has to be empty but for a comment. -/
def endOfLine : Reader Unit := do
  blanks
  comment
  unless (← get).isEmpty do
    unless ← acceptLineEnd do failure

/-- What follows blanks, line ends and whole comments; `inComment` says whether
the text begins inside a comment. -/
def afterTrivia (inComment : Bool) : List Char → Option (List Char)
  | [] => some []
  | '\n' :: rest => afterTrivia false rest
  | '\r' :: '\n' :: rest => afterTrivia false rest
  | c :: rest =>
      if inComment then
        if isPlain c then afterTrivia true rest else none
      else if c == '#' then afterTrivia true rest
      else if isBlank c then afterTrivia false rest
      else some (c :: rest)

/-- Takes blanks, line ends and whole comments. -/
def trivia : Reader Unit := do
  set (← afterTrivia false (← get))

end Reader

end InteropBridge.Toml
