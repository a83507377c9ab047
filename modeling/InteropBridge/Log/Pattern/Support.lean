import InteropBridge.Log.Pattern.Parse
import InteropBridge.Text.Numeral

/-!
# Patterns that the filter supports

The filter compares texts without tables of cases, scripts or words.  Where
patterns are about all characters it therefore refuses to ignore case and knows
neither classes with a letter nor the edges of words; where they are about the
ASCII alphabet it refuses everything that could match a part of a character
outside of it.
-/

namespace InteropBridge.Log.Pattern

/-- The switches that decide what is supported. -/
structure Mode where
  ignoreCase : Bool
  unicode : Bool
  deriving DecidableEq

namespace Mode

/-- Patterns begin with case distinguished and all characters in view. -/
def initial : Mode :=
  { ignoreCase := false, unicode := true }

/-- The mode after a change of switches. -/
def after (mode : Mode) (change : Change) : Mode :=
  { ignoreCase := change.apply .ignoreCase mode.ignoreCase,
    unicode := change.apply .unicode mode.unicode }

/-- Whether a letter is supported: while all characters are in view if case
counts, and otherwise unless it is a byte outside the ASCII alphabet. -/
def allows (mode : Mode) (letter : Letter) : Bool :=
  if mode.unicode then !mode.ignoreCase
  else !letter.isByte || letter.char.toNat < 0x80

/-- Whether a letter is supported within a class: while all characters are in
view if case counts, and otherwise if it belongs to the ASCII alphabet. -/
def allowsInClass (mode : Mode) (letter : Letter) : Bool :=
  if mode.unicode then !mode.ignoreCase else letter.char.toNat < 0x80

end Mode

namespace CharSet

mutual

/-- Whether a class is supported. -/
def isSupported (mode : Mode) : CharSet → Bool
  | range first last => mode.allowsInClass first && mode.allowsInClass last
  | named negated => if mode.unicode then !mode.ignoreCase else !negated
  | shorthand negated => !mode.unicode && !negated
  | bracket negated content => (mode.unicode || !negated) && isSupported mode content
  | union parts => areSupported mode parts
  | combination left right => isSupported mode left && isSupported mode right

/-- Whether all the classes are supported. -/
def areSupported (mode : Mode) : List CharSet → Bool
  | [] => true
  | part :: parts => isSupported mode part && areSupported mode parts

end

end CharSet

mutual

/-- The mode after a pattern, or nothing if the filter does not support it.  A
group ends in the mode it began in. -/
def modeAfter (mode : Mode) : Pattern → Option Mode
  | letter spelled => if mode.allows spelled then some mode else none
  | anyChar => if mode.unicode then some mode else none
  | oneOf chars => if chars.isSupported mode then some mode else none
  | anchor => some mode
  | wordEdge => if mode.unicode then none else some mode
  | switches change => some (mode.after change)
  | repetition item => modeAfter mode item
  | group _ change content => (modeAfter (mode.after change) content).map fun _ => mode
  | sequence items => modeAfterAll mode items
  | choice branches => modeAfterAll mode branches

/-- The mode after the patterns, each read in the mode after the one before. -/
def modeAfterAll (mode : Mode) : List Pattern → Option Mode
  | [] => some mode
  | item :: items => (modeAfter mode item).bind fun mode => modeAfterAll mode items

end

/-- Whether the filter supports the pattern. -/
def isSupported (pattern : Pattern) : Bool :=
  (modeAfter Mode.initial pattern).isSome

/-- Whether a directive may ask for the value: a number, which is compared as
such, or a pattern that is supported. -/
def isValue (text : List Char) : Bool :=
  Text.isNumber text || (ofChars? text).any isSupported

end InteropBridge.Log.Pattern
