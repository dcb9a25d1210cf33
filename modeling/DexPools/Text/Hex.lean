/-!
# Hexadecimal text

Lower-case digits, without a leading zero unless a width is asked for. Reading accepts the digits
that writing produces, with any number of zeros in front.
-/

namespace DexPools.Text

def hex (n : Nat) : String :=
  String.ofList (Nat.toDigits 16 n)

/-- The hexadecimal digits of a number, filled up with zeros to at least `width` digits. -/
def hexPadded (width n : Nat) : String :=
  let digits := Nat.toDigits 16 n
  String.ofList (List.replicate (width - digits.length) '0' ++ digits)

/-- The value of a lower-case hexadecimal digit. -/
def hexDigit? (c : Char) : Option Nat :=
  if '0' ≤ c ∧ c ≤ '9' then some (c.toNat - '0'.toNat)
  else if 'a' ≤ c ∧ c ≤ 'f' then some (c.toNat - 'a'.toNat + 10)
  else none

/-- The number that hexadecimal digits stand for; nothing if a character is no digit. -/
def hexValue? (s : String) : Option Nat :=
  s.toList.foldlM (fun n c => return 16 * n + (← hexDigit? c)) 0

end DexPools.Text
