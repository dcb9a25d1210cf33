/-!
# The order of UTF-16 code units

Every table of the file format that is sorted by text is sorted by UTF-16 code units. A
character below U+10000 is one unit and any other is a pair of surrogates, so a supplementary
character stands before the characters U+E000 to U+FFFF although its code point is larger.
That is the only way in which this order differs from the order of code points.
-/

namespace DexPools.Text

/-- The UTF-16 code units of a character: one below U+10000, else a high and a low surrogate. -/
def units (c : Char) : List Nat :=
  if c.toNat < 0x10000 then
    [c.toNat]
  else
    [0xD800 + (c.toNat - 0x10000) / 0x400, 0xDC00 + (c.toNat - 0x10000) % 0x400]

def unitsOf (s : String) : List Nat :=
  s.toList.flatMap units

/-- Compares two texts unit by unit; a proper initial part stands before the whole. -/
def compareUnits (a b : String) : Ordering :=
  List.compareLex compare (unitsOf a) (unitsOf b)

/-- Compares two lists of texts entry by entry; a proper initial part stands before the whole. -/
def compareUnitLists (a b : List String) : Ordering :=
  List.compareLex compareUnits a b

end DexPools.Text
