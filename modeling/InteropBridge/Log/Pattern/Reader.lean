import InteropBridge.Log.Pattern
import InteropBridge.Text.Blank

/-!
# Reading from a pattern

A reader takes characters from the front of a pattern's text and either comes
back with a result or finds the text malformed.  A switch tells whether blanks
and comments between the parts of a pattern are passed over.
-/

namespace InteropBridge.Log.Pattern

/-- The unread part of a pattern. -/
structure Unread where
  text : List Char
  /-- Whether blanks and comments are passed over. -/
  ignoreBlanks : Bool

/-- A computation over the unread part of a pattern. -/
abbrev Reader := StateT Unread Option

namespace Reader

/-- Takes the next character. -/
def take : Reader Char := do
  let unread ← get
  match unread.text with
  | [] => failure
  | c :: text => set { unread with text }; return c

/-- Takes the given text if it is next, and tells whether it was. -/
def accept (token : String) : Reader Bool := do
  let unread ← get
  if token.toList.isPrefixOf unread.text then
    set { unread with text := unread.text.drop token.toList.length }
    return true
  else return false

/-- Takes the longest run of characters that pass a test. -/
def takeWhile (test : Char → Bool) : Reader (List Char) := do
  let unread ← get
  set { unread with text := unread.text.dropWhile test }
  return unread.text.takeWhile test

/-- Repeats a reader until it declines, which it has to do by its turn number
`bound`. -/
def manyUpTo {α : Type} (item : Reader (Option α)) : Nat → Reader (List α)
  | 0 => failure
  | bound + 1 => do
      match ← item with
      | none => return []
      | some first => return first :: (← manyUpTo item bound)

/-- Repeats a reader until it declines.  A reader that takes a character each
time cannot be repeated more often than there are characters. -/
def many {α : Type} (item : Reader (Option α)) : Reader (List α) := do
  manyUpTo item ((← get).text.length + 1)

/-- What follows blanks and comments.  A comment runs from a number sign to the
end of its line; `inComment` says whether the text begins inside one. -/
def afterBlanks (inComment : Bool) : List Char → List Char
  | [] => []
  | c :: rest =>
      if inComment then afterBlanks (c != '\n') rest
      else if c == '#' then afterBlanks true rest
      else if Text.isBlank c then afterBlanks false rest
      else c :: rest

/-- Passes over blanks and comments where they count for nothing. -/
def skip : Reader Unit := do
  let unread ← get
  if unread.ignoreBlanks then set { unread with text := afterBlanks false unread.text }

/-- Decides from now on whether blanks and comments are passed over. -/
def ignoreBlanks (ignored : Bool) : Reader Unit := do
  set { (← get) with ignoreBlanks := ignored }

end Reader

end InteropBridge.Log.Pattern
