/-!
# Blanks and pieces

A comma-separated list of pieces, each without the blanks around it.  Blanks
are the characters with the white-space property.
-/

namespace InteropBridge.Text

/-- The characters with the white-space property. -/
def isBlank (c : Char) : Bool :=
  let code := c.toNat
  (0x09 ≤ code && code ≤ 0x0D) || code == 0x20 || code == 0x85 || code == 0xA0 ||
    code == 0x1680 || (0x2000 ≤ code && code ≤ 0x200A) || code == 0x2028 ||
    code == 0x2029 || code == 0x202F || code == 0x205F || code == 0x3000

/-- The text without the blanks at its two ends. -/
def trimBlanks (text : List Char) : List Char :=
  ((text.dropWhile isBlank).reverse.dropWhile isBlank).reverse

/-- The parts of a text between its commas; a text without a comma is one
part. -/
def splitCommas : List Char → List (List Char)
  | [] => [[]]
  | c :: rest =>
      if c = ',' then [] :: splitCommas rest
      else match splitCommas rest with
        | [] => [[c]]
        | part :: parts => (c :: part) :: parts

/-- The parts of a text between its commas, trimmed, the empty ones left out. -/
def pieces (text : String) : List String :=
  (((splitCommas text.toList).map trimBlanks).filter (!·.isEmpty)).map String.ofList

end InteropBridge.Text
