import InteropBridge.Toml.Value

/-!
# Assembling a document

A document is a sequence of sections, each with a header and pairs of a dotted
key and a value.  Every table is defined once: by a header, by the dotted keys
of one section, or in one piece as a value.  A header may still define a table
that earlier headers only passed through.
-/

namespace InteropBridge.Toml

/-- How a table came into being. -/
inductive Origin
  /-- By its own header, or as the root. -/
  | header
  /-- On the way to a table further down. -/
  | passage
  /-- By dotted keys. -/
  | dottedKey
  deriving DecidableEq

/-- A document while it is assembled. -/
inductive Node
  | leaf (value : Value)
  | table (origin : Origin) (entries : List (String × Node))
  /-- The tables of an array, newest first. -/
  | tables (elements : List Node)

/-- A dotted key and its value; `path` is all of the key but its last part. -/
structure Pair where
  path : List String
  key : String
  value : Value

/-- The header of a section.  `path` is all of the name but its last part. -/
inductive Header
  | table (path : List String) (key : String)
  /-- One more table of an array. -/
  | element (path : List String) (key : String)

/-- A header and the pairs below it. -/
structure Section where
  header : Header
  pairs : List Pair

namespace Node

/-- A table without entries, defined by a header. -/
def empty : Node :=
  .table .header []

/-- Puts an entry in the place of any other with its key. -/
def setEntry (entries : List (String × Node)) (key : String) (child : Node) :
    List (String × Node) :=
  (key, child) :: entries.filter (·.1 ≠ key)

/-- Changes the table that a path leads to, making tables of the given origin
where there are none.  A path goes through the newest table of an array and
never through a value; dotted keys do not enter tables that have a header. -/
def alter (made : Origin) (change : Node → Option Node) : List String → Node → Option Node
  | [], node => change node
  | key :: path, .table origin entries =>
      let put := fun child => .table origin (setEntry entries key child)
      match entries.lookup key with
      | none => put <$> alter made change path (.table made [])
      | some (.table .header below) =>
          if made = .dottedKey then none
          else put <$> alter made change path (.table .header below)
      | some (.table other below) => put <$> alter made change path (.table other below)
      | some (.tables (newest :: older)) => do
          return put (.tables ((← alter made change path newest) :: older))
      | some _ => none
  | _, _ => none

/-- Adds the last part of a dotted key and its value to the table that the
other parts lead to.  If there are other parts, that table has to be made by
dotted keys; no key is given twice. -/
def addLast (pair : Pair) : Node → Option Node
  | .table origin entries =>
      if (origin == .dottedKey) == pair.path.isEmpty then none
      else if (entries.lookup pair.key).isSome then none
      else some (.table origin ((pair.key, .leaf pair.value) :: entries))
  | _ => none

/-- Adds a pair to the table of its section. -/
def addPair (node : Node) (pair : Pair) : Option Node :=
  alter .dottedKey (addLast pair) pair.path node

/-- Adds pairs to the table of their section, in order. -/
def addPairs (node : Node) (pairs : List Pair) : Option Node :=
  pairs.foldlM addPair node

/-- Defines a table in the table above it.  It may be there already only if
headers passed through it. -/
def defineTable (key : String) (pairs : List Pair) : Node → Option Node
  | .table origin entries => do
      let below ← match entries.lookup key with
        | none => some []
        | some (.table .passage below) => some below
        | some _ => none
      let child ← addPairs (.table .header below) pairs
      return .table origin (setEntry entries key child)
  | _ => none

/-- Adds a table to an array in the table above it. -/
def defineElement (key : String) (pairs : List Pair) : Node → Option Node
  | .table origin entries => do
      let older ← match entries.lookup key with
        | none => some []
        | some (.tables older) => some older
        | some _ => none
      let child ← addPairs empty pairs
      return .table origin (setEntry entries key (.tables (child :: older)))
  | _ => none

/-- Adds a section to a document. -/
def addSection (root : Node) (part : Section) : Option Node :=
  match part.header with
  | .table path key => alter .passage (defineTable key part.pairs) path root
  | .element path key => alter .passage (defineElement key part.pairs) path root

mutual

/-- The value that a finished document stands for. -/
def toValue : Node → Value
  | .leaf value => value
  | .table _ entries => .table (entriesToValues entries)
  | .tables elements => .array (elementsToValues elements).reverse

/-- The values of the entries of a table. -/
def entriesToValues : List (String × Node) → List (String × Value)
  | [] => []
  | (key, node) :: rest => (key, toValue node) :: entriesToValues rest

/-- The values of the tables of an array. -/
def elementsToValues : List Node → List Value
  | [] => []
  | node :: rest => toValue node :: elementsToValues rest

end

end Node

namespace Value

/-- A table written in one piece. -/
def ofPairs? (pairs : List Pair) : Option Value :=
  (Node.empty.addPairs pairs).map Node.toValue

/-- The document made of the pairs before the first header and the sections
after them. -/
def ofSections? (pairs : List Pair) (sections : List Section) : Option Value := do
  let root ← Node.empty.addPairs pairs
  return (← sections.foldlM Node.addSection root).toValue

end Value

end InteropBridge.Toml
