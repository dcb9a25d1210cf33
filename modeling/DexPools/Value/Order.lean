import DexPools.Reference
import DexPools.Value.Equality

/-!
# The order of values

Values of one kind are ordered by what they hold and values of two kinds by their tags. Text is
compared by UTF-16 units, references as their tables are, arrays and annotations item by item,
and floating-point numbers by the total order of their bits: negative before positive, and the
NaNs outside of the infinities.
-/

namespace DexPools

open Text

/-- A value as a definition has it, with text and names at its leaves. -/
abbrev TextValue := Value String String FieldRef MethodRef

/-- An element as a definition has it. -/
abbrev TextElement := Named String TextValue

/-- The rank of a floating-point number of the given width in the total order of bits. A clear
sign bit sets it above all numbers whose sign bit is set, and those rank in reverse. -/
def totalOrderRank (width bits : Nat) : Nat :=
  if bits < Nat.pow 2 (width - 1) then Nat.pow 2 (width - 1) + bits
  else Nat.pow 2 width - 1 - bits

namespace Value

mutual

def compare : TextValue → TextValue → Ordering
  | byte a, byte b => Ord.compare a.toInt b.toInt
  | short a, short b => Ord.compare a.toInt b.toInt
  | char a, char b => Ord.compare a.toNat b.toNat
  | int a, int b => Ord.compare a.toInt b.toInt
  | long a, long b => Ord.compare a.toInt b.toInt
  | float a, float b => Ord.compare (totalOrderRank 32 a.toNat) (totalOrderRank 32 b.toNat)
  | double a, double b => Ord.compare (totalOrderRank 64 a.toNat) (totalOrderRank 64 b.toNat)
  | string a, string b => compareUnits a b
  | type a, type b => compareUnits a b
  | field a, field b => a.compare b
  | method a, method b => a.compare b
  | enum a, enum b => a.compare b
  | array as, array bs => compareItems as bs
  | annotationItem s as, annotationItem t bs => (compareUnits s t).then (compareElements as bs)
  | null, null => .eq
  | boolean a, boolean b => Ord.compare a b
  | a, b => a.kind.compare b.kind

/-- Compares two lists of values item by item; a proper initial part stands first. -/
def compareItems : List TextValue → List TextValue → Ordering
  | [], [] => .eq
  | [], _ :: _ => .lt
  | _ :: _, [] => .gt
  | a :: as, b :: bs => (compare a b).then (compareItems as bs)

/-- Compares two lists of elements by name and value; a proper initial part stands first. -/
def compareElements : List TextElement → List TextElement → Ordering
  | [], [] => .eq
  | [], _ :: _ => .lt
  | _ :: _, [] => .gt
  | ⟨n, a⟩ :: as, ⟨m, b⟩ :: bs =>
      ((compareUnits n m).then (compare a b)).then (compareElements as bs)

end

end Value

/-- Elements are ordered by name and then by value. -/
def compareElement (a b : TextElement) : Ordering :=
  (compareUnits a.name b.name).then (a.value.compare b.value)

end DexPools
