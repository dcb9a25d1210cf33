import DexPools.Text.Glyphless
import DexPools.Text.Hex

/-!
# Quoted text

A text in double quotes. The quote, the backslash and four controls have short escapes; any
other character without a glyph of its own is given by its code point.
-/

namespace DexPools.Text

/-- A character as it stands between quotes. -/
def quoteChar (c : Char) : String :=
  match c with
  | '\x00' => "\\0"
  | '\t' => "\\t"
  | '\r' => "\\r"
  | '\n' => "\\n"
  | '\\' => "\\\\"
  | '"' => "\\\""
  | c => if isGlyphless c then "\\u\x7b" ++ hex c.toNat ++ "\x7d" else c.toString

def quote (s : String) : String :=
  "\"" ++ String.join (s.toList.map quoteChar) ++ "\""

end DexPools.Text
