import InteropBridge.Log.Pattern.Bracket
import InteropBridge.Text.Classes

/-!
# Reading a pattern

A pattern is one branch or several between bars; a branch is a sequence of
items, each perhaps followed by signs of repetition.  A group opens with a
parenthesis, and after a question mark may have a name or change switches; a
parenthesis that encloses nothing but switches changes them for the rest of the
group around it.
-/

namespace InteropBridge.Log.Pattern

open Reader

/-! ## Openings of groups -/

/-- The switch that a letter names. -/
def Switch.ofChar? : Char → Option Switch
  | 'i' => some .ignoreCase
  | 'm' => some .multiLine
  | 's' => some .dotTakesLineEnds
  | 'U' => some .lazyFirst
  | 'R' => some .carriageReturns
  | 'u' => some .unicode
  | 'x' => some .ignoreBlanks
  | _ => none

/-- The change that a run of letters asks for: those after a hyphen are turned
off.  No switch comes twice, and a hyphen is followed by a letter. -/
def Change.ofChars? (text : List Char) : Option Change := do
  let on ← (text.takeWhile (· != '-')).mapM Switch.ofChar?
  let off ← match text.dropWhile (· != '-') with
    | [] => some []
    | [_] => none
    | _ :: letters => letters.mapM Switch.ofChar?
  if (on ++ off).Nodup then some { on, off } else none

/-- Whether the text names a group: a letter or an underscore, then letters,
numbers, underscores, dots and brackets. -/
def isGroupName : List Char → Bool
  | [] => false
  | first :: rest =>
      (first == '_' || Text.isAlphabetic first) &&
        rest.all fun c => c == '_' || c == '.' || c == '[' || c == ']' || Text.isAlphanumeric c

/-- What a parenthesis opens. -/
inductive Opening
  | group (name : Option String) (change : Change)
  /-- Nothing: it only changes switches. -/
  | switches (change : Change)

/-- Takes the name of a group and the sign that closes it. -/
def groupName : Reader Opening := do
  let name ← takeWhile (· != '>')
  if isGroupName name && (← accept ">") then
    return .group (some (String.ofList name)) Change.nothing
  else failure

/-- Takes the letters of switches and the sign that closes them: a colon before
the content of a group, or a parenthesis if there is none. -/
def switchLetters : Reader Opening := do
  let letters ← takeWhile fun c => c != ':' && c != ')'
  match Change.ofChars? letters with
  | none => failure
  | some change =>
      if (← take) == ':' then return .group none change
      else if letters.isEmpty then failure
      else return .switches change

/-- Takes what follows an opening parenthesis up to the content. -/
def opening : Reader Opening := do
  skip
  if ← accept "?P<" then groupName
  else if ← accept "?<" then groupName
  else if ← accept "?" then switchLetters
  else return .group none Change.nothing

/-! ## Items and branches -/

/-- A part of the text of a pattern. -/
inductive Piece
  | item (item : Pattern)
  | bar
  /-- A sign that repeats the item before it. -/
  | again

/-- Takes what follows an opening parenthesis up to the closing one.  Inside a
group blanks may begin or cease to count; after it they count as before. -/
def parenthesized (content : Reader Pattern) : Reader Pattern := do
  let before := (← get).ignoreBlanks
  match ← opening with
  | .switches change =>
      ignoreBlanks (change.apply .ignoreBlanks before)
      return switches change
  | .group name change =>
      ignoreBlanks (change.apply .ignoreBlanks before)
      let content ← content
      ignoreBlanks before
      return group name change content

/-- Takes the next piece, or the end: a closing parenthesis in a group, and the
end of the text outside. -/
def piece (inGroup : Bool) (content : Reader Pattern) : Reader (Option Piece) := do
  skip
  if (← get).text.isEmpty then
    if inGroup then failure else return none
  else
    match ← take with
    | ')' => if inGroup then return none else failure
    | '(' => return some (.item (← parenthesized content))
    | '[' => return some (.item (oneOf (← bracket maxDepth)))
    | '|' => return some .bar
    | '*' | '+' | '?' =>
        let _ ← accept "?"
        return some .again
    | '{' => failure
    | '\\' => return some (.item (← escape))
    | '.' => return some (.item anyChar)
    | '^' | '$' => return some (.item anchor)
    | c => return some (.item (plain c))

/-- The branches read so far: the finished ones and the items of the last one,
in both the latest first. -/
structure Branches where
  finished : List (List Pattern)
  last : List Pattern

/-- The branches with one more piece.  A repetition needs an item before it in
its branch, and switches are no item. -/
def Branches.add (branches : Branches) : Piece → Option Branches
  | .item item => some { branches with last := item :: branches.last }
  | .bar => some { finished := branches.last.reverse :: branches.finished, last := [] }
  | .again => match branches.last with
    | [] => none
    | switches _ :: _ => none
    | item :: items => some { branches with last := repetition item :: items }

/-- The pattern that pieces make. -/
def ofPieces? (pieces : List Piece) : Option Pattern := do
  let branches ← pieces.foldlM Branches.add { finished := [], last := [] }
  return choice ((branches.last.reverse :: branches.finished).reverse.map sequence)

/-- Takes branches up to the end of their group or of the text.  `content`
takes the content of groups inside. -/
def branches (inGroup : Bool) (content : Reader Pattern) : Reader Pattern := do
  ofPieces? (← many (piece inGroup content))

/-- Takes the content of a group, with at most `room` groups nested in one
another inside it. -/
def groupContent : Nat → Reader Pattern
  | 0 => branches true failure
  | room + 1 => branches true (groupContent room)

/-- The pattern that a text denotes.  Its parts are nested at most `maxDepth`
deep, and its groups have different names. -/
def ofChars? (text : List Char) : Option Pattern := do
  let pattern ← (branches false (groupContent maxDepth)).run' { text, ignoreBlanks := false }
  if pattern.depth ≤ maxDepth && pattern.names.Nodup then some pattern else none

end InteropBridge.Log.Pattern
