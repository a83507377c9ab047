/-!
# Patterns

A directive may ask that the value of a field match a pattern.  This module
holds the form of patterns: letters, classes of characters, places, repetition,
groups, and switches that change how the rest of a group is read or matched.
-/

namespace InteropBridge.Log

namespace Pattern

/-- What a pattern can switch on and off for the rest of the group that it
stands in. -/
inductive Switch
  | ignoreCase
  | multiLine
  | dotTakesLineEnds
  | lazyFirst
  | carriageReturns
  | unicode
  | ignoreBlanks
  deriving DecidableEq

/-- A change of switches: those it turns on and those it turns off. -/
structure Change where
  on : List Switch
  off : List Switch
  deriving DecidableEq

namespace Change

/-- The change that leaves every switch alone. -/
def nothing : Change :=
  { on := [], off := [] }

/-- The position of a switch after the change. -/
def apply (change : Change) (switch : Switch) (before : Bool) : Bool :=
  if change.on.contains switch then true
  else if change.off.contains switch then false
  else before

end Change

/-- A character that stands for itself. -/
structure Letter where
  char : Char
  /-- Whether it is spelled by two hexadecimal digits and so may mean a byte. -/
  isByte : Bool
  deriving DecidableEq

/-- A class of characters. -/
inductive CharSet
  /-- The characters from the first to the last. -/
  | range (first last : Letter)
  /-- A class with a name, such as the punctuation marks, or its complement. -/
  | named (negated : Bool)
  /-- The digits, the blanks or the characters of words, or a complement. -/
  | shorthand (negated : Bool)
  /-- What brackets enclose, or its complement. -/
  | bracket (negated : Bool) (content : CharSet)
  | union (parts : List CharSet)
  /-- What an intersection or a difference makes of two classes. -/
  | combination (left right : CharSet)

namespace CharSet

mutual

/-- How deep the brackets, unions and combinations of a class are nested; a
union of fewer than two parts is none. -/
def depth : CharSet → Nat
  | range _ _ => 0
  | named _ => 0
  | shorthand _ => 0
  | bracket _ content => depth content + 1
  | union parts => depthOfAll parts + (if parts.length < 2 then 0 else 1)
  | combination left right => max (depth left) (depth right) + 1

/-- The greatest depth among the classes. -/
def depthOfAll : List CharSet → Nat
  | [] => 0
  | part :: parts => max (depth part) (depthOfAll parts)

end

end CharSet

end Pattern

/-- A pattern that texts can match. -/
inductive Pattern
  | letter (spelled : Pattern.Letter)
  | anyChar
  | oneOf (chars : Pattern.CharSet)
  /-- The beginning or the end of a line or of the text. -/
  | anchor
  /-- The edge of a word, or a place that is none. -/
  | wordEdge
  | switches (change : Pattern.Change)
  | repetition (item : Pattern)
  /-- A group, perhaps with a name, and the switches it changes inside. -/
  | group (name : Option String) (change : Pattern.Change) (content : Pattern)
  | sequence (items : List Pattern)
  | choice (branches : List Pattern)

namespace Pattern

mutual

/-- How deep the parts of a pattern are nested; a sequence of fewer than two
items and a choice of one branch are no level of their own. -/
def depth : Pattern → Nat
  | letter _ => 0
  | anyChar => 0
  | oneOf chars => chars.depth
  | anchor => 0
  | wordEdge => 0
  | switches _ => 0
  | repetition item => depth item + 1
  | group _ _ content => depth content + 1
  | sequence items => depthOfAll items + (if items.length < 2 then 0 else 1)
  | choice branches => depthOfAll branches + (if branches.length < 2 then 0 else 1)

/-- The greatest depth among the patterns. -/
def depthOfAll : List Pattern → Nat
  | [] => 0
  | item :: items => max (depth item) (depthOfAll items)

end

mutual

/-- The names of the groups, in the order of their opening. -/
def names : Pattern → List String
  | repetition item => names item
  | group name _ content => name.toList ++ names content
  | sequence items => namesOfAll items
  | choice branches => namesOfAll branches
  | _ => []

/-- The names of the groups of all the patterns. -/
def namesOfAll : List Pattern → List String
  | [] => []
  | item :: items => names item ++ namesOfAll items

end

/-- How deep the parts of a pattern may be nested. -/
def maxDepth : Nat := 250

end Pattern

end InteropBridge.Log
