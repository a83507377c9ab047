import InteropBridge.Log.Pattern.Escape

/-!
# Brackets of a pattern

Brackets enclose letters, ranges, named classes and further brackets, and after
a caret stand for everything else.  Doubled signs join what is before and after
them: ampersands for the common characters, hyphens and tildes for differences.
-/

namespace InteropBridge.Log.Pattern

open Reader

/-- The names of classes. -/
def classNames : List String :=
  ["alnum", "alpha", "ascii", "blank", "cntrl", "digit", "graph", "lower", "print", "punct",
    "space", "upper", "word", "xdigit"]

/-- A named class after its opening bracket: whether it is negated, and what
follows its closing bracket. -/
def namedClass? (text : List Char) : Option (Bool × List Char) :=
  let read (negated : Bool) (text : List Char) : Option (Bool × List Char) :=
    match text.dropWhile (· != ':') with
    | ':' :: ']' :: rest =>
        if classNames.contains (String.ofList (text.takeWhile (· != ':'))) then
          some (negated, rest)
        else none
    | _ => none
  match text with
  | ':' :: '^' :: text => read true text
  | ':' :: text => read false text
  | _ => none

/-- Takes a named class if one is next, and tells whether it was negated. -/
def acceptNamedClass : Reader (Option Bool) := do
  let unread ← get
  match namedClass? unread.text with
  | some (negated, text) => set { unread with text }; return some negated
  | none => return none

/-- Takes a letter or an escape. -/
def bracketItem : Reader Pattern := do
  match ← take with
  | '\\' => escape
  | c => return plain c

/-- The character after a hyphen that decides what the hyphen means.  Where
blanks are ignored, those after the hyphen do not count, nor do a number sign
and the blanks after it, unless nothing else is left. -/
def deciding (unread : Unread) (text : List Char) : Option Char :=
  if unread.ignoreBlanks then
    let beyond := match text.dropWhile Text.isBlank with
      | '#' :: rest => rest.dropWhile Text.isBlank
      | rest => rest
    beyond.head?.or text.head?
  else text.head?

/-- Takes the hyphen of a range if one is next.  A hyphen before a closing
bracket or another hyphen makes no range. -/
def acceptHyphen : Reader Bool := do
  let unread ← get
  match unread.text with
  | '-' :: text =>
      let decider := deciding unread text
      if decider == some ']' || decider == some '-' then return false
      else set { unread with text }; return true
  | _ => return false

/-- Takes a letter, a range of letters in rising order, or a class that is
spelled by an escape. -/
def rangeOrClass : Reader CharSet := do
  let first ← bracketItem
  skip
  if ← acceptHyphen then
    skip
    match first, ← bracketItem with
    | letter first, letter last =>
        if first.char ≤ last.char then return .range first last else failure
    | _, _ => failure
  else match first with
    | letter only => return .range only only
    | oneOf chars => return chars
    | _ => failure

/-- A part of what brackets enclose. -/
inductive BracketPiece
  | part (part : CharSet)
  /-- A sign that joins what is before and after it. -/
  | join

/-- The parts before the first joining sign, and those after each. -/
def operands : List BracketPiece → List CharSet × List (List CharSet)
  | [] => ([], [])
  | .join :: pieces => ([], (operands pieces).1 :: (operands pieces).2)
  | .part part :: pieces => (part :: (operands pieces).1, (operands pieces).2)

/-- The class that the pieces make: joining signs bind from the left and more
loosely than union. -/
def CharSet.ofPieces (pieces : List BracketPiece) : CharSet :=
  (operands pieces).2.foldl (fun left parts => .combination left (.union parts))
    (.union (operands pieces).1)

/-- Takes the next piece inside brackets, or the closing bracket.  `inner`
takes brackets inside the brackets. -/
def bracketPiece (inner : Reader CharSet) : Reader (Option BracketPiece) := do
  skip
  if ← accept "]" then return none
  else if ← accept "&&" then return some .join
  else if ← accept "--" then return some .join
  else if ← accept "~~" then return some .join
  else if ← accept "[" then
    match ← acceptNamedClass with
    | some negated => return some (.part (.named negated))
    | none => return some (.part (← inner))
  else return some (.part (← rangeOrClass))

/-- Takes a hyphen that stands at the beginning of brackets for itself. -/
def leadingHyphen : Reader (Option BracketPiece) := do
  skip
  if ← accept "-" then
    let hyphen : Letter := { char := '-', isByte := false }
    return some (.part (.range hyphen hyphen))
  else return none

/-- Takes what follows an opening bracket up to the closing one, with at most
`room` brackets nested in one another.  A closing bracket that comes first
stands for itself. -/
def bracket : Nat → Reader CharSet
  | 0 => failure
  | room + 1 => do
      skip
      let negated ← accept "^"
      let hyphens ← many leadingHyphen
      let closing : Letter := { char := ']', isByte := false }
      let leading ←
        if hyphens.isEmpty then
          if ← accept "]" then pure [.part (.range closing closing)] else pure []
        else pure hyphens
      let pieces ← many (bracketPiece (bracket room))
      return .bracket negated (.ofPieces (leading ++ pieces))

end InteropBridge.Log.Pattern
