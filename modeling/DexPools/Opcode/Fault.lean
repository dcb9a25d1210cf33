import DexPools.Opcode
import DexPools.Text.Hex

/-!
# What can be wrong with the operands of an instruction

Each fault names the operand and the bound that it breaks. The text of a fault is completed by
the opcode that it concerns.
-/

namespace DexPools

open Text

/-- A reason why an instruction can not be encoded. -/
inductive OperandFault where
  /-- The operands are those of another format than the opcode's. -/
  | format (given : Format)
  /-- A register of a four-bit field is above 15. -/
  | nibble (operand : String) (register : UInt8)
  /-- A number lies outside of its field. -/
  | outside (operand : String) (value least greatest : Int)
  /-- A literal of the high 16 of 32 bits has low bits. -/
  | lowBits (literal : Int32)
  /-- A literal of the high 16 of 64 bits has low bits. -/
  | lowBitsWide (literal : Int64)
  | tooManyRegisters (count : Nat)
  | registerRange (start : UInt16) (count : UInt8)
  | referenceKind (expected : OperandKind) (actual : ReferenceKind)
  | unsortedKeys
  /-- Array elements have one, two, four or eight bytes. -/
  | elementWidth (width : UInt8)
deriving DecidableEq, Repr

namespace OperandFault

def message (op : Opcode) : OperandFault → String
  | format given =>
      s!"Opcode {op.mnemonic} uses format {op.format.name}, not {given.name}"
  | nibble operand register =>
      s!"{op.mnemonic}: register {operand} = {register.toNat} does not fit in 4 bits"
  | outside operand value least greatest =>
      s!"{op.mnemonic}: {operand} = {value} is outside of [{least}, {greatest}]"
  | lowBits literal =>
      s!"{op.mnemonic}: literal 0x{hexPadded 8 literal.toUInt32.toNat} has non-zero low 16 bits"
  | lowBitsWide literal =>
      s!"{op.mnemonic}: literal 0x{hexPadded 16 literal.toUInt64.toNat} has non-zero low 48 bits"
  | tooManyRegisters count =>
      s!"{op.mnemonic}: {count} registers given, at most 5 allowed"
  | registerRange start count =>
      s!"{op.mnemonic}: register range v{start.toNat}..+{count.toNat} exceeds 65535"
  | referenceKind expected actual =>
      let wanted := (expected.kind?.map ReferenceKind.name).getD "no"
      s!"{op.mnemonic}: expected a {wanted} reference but got a {actual.name} reference"
  | unsortedKeys =>
      s!"{op.mnemonic} keys must be strictly ascending"
  | elementWidth width =>
      s!"{op.mnemonic}: invalid element width {width.toNat}"

end OperandFault

end DexPools
