import InteropBridge.Text.Classes
import InteropBridge.Text.Numeral

/-!
# Quoted text

A quoted text stands between double quotes.  Quotes and backslashes are
escaped by a backslash, the commonest control characters by a letter, and every
other character that is not shown as itself by its code point in braces.
-/

namespace InteropBridge.Text

/-- A character inside a quoted text. -/
def escapeChar (c : Char) : String :=
  match c with
  | '"' => "\\\""
  | '\\' => "\\\\"
  | '\n' => "\\n"
  | '\r' => "\\r"
  | '\t' => "\\t"
  | '\x00' => "\\0"
  | c => if isShown c then c.toString else "\\u\x7b" ++ hexDigits c.toNat ++ "\x7d"

/-- A text between quotes, its characters escaped. -/
def quote (text : String) : String :=
  "\"" ++ String.join (text.toList.map escapeChar) ++ "\""

/-- A text for a terminal: escape, bell, backspace, form feed, delete and the
second block of control characters are spelled out, so that no message can
steer the terminal it is shown on. -/
def disarm (text : String) : String :=
  String.join <| text.toList.map fun c =>
    if c.toNat = 0x1B then "\\x1b"
    else if c.toNat = 0x07 then "\\x07"
    else if c.toNat = 0x08 then "\\x08"
    else if c.toNat = 0x0C then "\\x0c"
    else if c.toNat = 0x7F then "\\x7f"
    else if 0x80 ≤ c.toNat && c.toNat ≤ 0x9F then
      "\\u\x7b" ++ hexDigits c.toNat ++ "\x7d"
    else c.toString

/-- A character inside a text of a JSON document. -/
def jsonChar (c : Char) : String :=
  match c with
  | '"' => "\\\""
  | '\\' => "\\\\"
  | '\n' => "\\n"
  | '\r' => "\\r"
  | '\t' => "\\t"
  | '\x08' => "\\b"
  | '\x0c' => "\\f"
  | c =>
      if c.toNat < 0x10 then "\\u000" ++ hexDigits c.toNat
      else if c.toNat < 0x20 then "\\u00" ++ hexDigits c.toNat
      else c.toString

/-- A text of a JSON document. -/
def jsonQuote (text : String) : String :=
  "\"" ++ String.join (text.toList.map jsonChar) ++ "\""

end InteropBridge.Text
