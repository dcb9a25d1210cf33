import DexPools.Error
import DexPools.Instruction
import DexPools.Operand

/-!
# Which instructions can be encoded

Every operand has a field of fixed width. An instruction is valid when its operands are those of
its opcode's format, each of them fits into its field and each reference is of the kind that the
opcode asks for. Checks run in the order of the operands and the first fault is reported.
-/

namespace DexPools.Instruction

open OperandFault

def nibbleFault? (operand : String) (register : UInt8) : Option OperandFault :=
  if register.toNat ≤ 15 then none else some (nibble operand register)

def rangeFault? (operand : String) (value least greatest : Int) : Option OperandFault :=
  if least ≤ value ∧ value ≤ greatest then none else some (outside operand value least greatest)

/-- A number of a signed field of the given width. -/
def signedFault? (operand : String) (width : Nat) (value : Int) : Option OperandFault :=
  rangeFault? operand value (-Nat.pow 2 (width - 1)) (Nat.pow 2 (width - 1) - 1)

/-- At most five registers, each of a four-bit field. -/
def registersFault? (registers : List UInt8) : Option OperandFault :=
  if registers.length ≤ 5 then registers.findSome? (nibbleFault? "list")
  else some (tooManyRegisters registers.length)

/-- Consecutive registers, of which there are 65536. -/
def registerRangeFault? (start : UInt16) (count : UInt8) : Option OperandFault :=
  if start.toNat + count.toNat ≤ 0x10000 then none else some (registerRange start count)

/-- A reference of the kind that the opcode asks for. -/
def referenceFault? {ρ : Type} [HasReferenceKind ρ] (expected : OperandKind) (ref : ρ) :
    Option OperandFault :=
  let actual := HasReferenceKind.referenceKind ref
  if expected.admits actual then none else some (referenceKind expected actual)

/-- Keys that ascend strictly from each entry to the next. -/
def keysFault? : List SwitchEntry → Option OperandFault
  | a :: b :: rest => if a.key < b.key then keysFault? (b :: rest) else some unsortedKeys
  | _ => none

/-- Array elements are signed or unsigned numbers of the width of the array. -/
def elementsFault? (width : UInt8) (elements : List Int64) : Option OperandFault :=
  let bits := 8 * width.toNat
  if width ∈ [1, 2, 4] then
    elements.findSome? fun e =>
      rangeFault? "element" e.toInt (-Nat.pow 2 (bits - 1)) (Nat.pow 2 bits - 1)
  else if width = 8 then none
  else some (elementWidth width)

variable {ρ : Type} [HasReferenceKind ρ]

def operandFault? : Instruction ρ → Option OperandFault
  | f10t _ offset => signedFault? "offset" 8 offset.toInt
  | f20t _ offset => signedFault? "offset" 16 offset.toInt
  | f21t _ _ offset => signedFault? "offset" 16 offset.toInt
  | f22t _ a b offset =>
      nibbleFault? "A" a <|> nibbleFault? "B" b <|> signedFault? "offset" 16 offset.toInt
  | f11n _ a literal => nibbleFault? "A" a <|> signedFault? "literal" 4 literal.toInt
  | f12x _ a b => nibbleFault? "A" a <|> nibbleFault? "B" b
  | f22cs _ a b _ => nibbleFault? "A" a <|> nibbleFault? "B" b
  | f20bc op _ ref => referenceFault? op.operand ref
  | f21c op _ ref => referenceFault? op.operand ref
  | f31c op _ ref => referenceFault? op.operand ref
  | f21ih _ _ literal => if literal &&& 0xffff = 0 then none else some (lowBits literal)
  | f21lh _ _ literal =>
      if literal &&& 0xffffffffffff = 0 then none else some (lowBitsWide literal)
  | f21s _ _ literal => signedFault? "literal" 16 literal.toInt
  | f22b _ _ _ literal => signedFault? "literal" 8 literal.toInt
  | f22c op a b ref => nibbleFault? "A" a <|> nibbleFault? "B" b <|> referenceFault? op.operand ref
  | f22s _ a b literal =>
      nibbleFault? "A" a <|> nibbleFault? "B" b <|> signedFault? "literal" 16 literal.toInt
  | f35c op registers ref => registersFault? registers <|> referenceFault? op.operand ref
  | f35mi _ registers _ => registersFault? registers
  | f35ms _ registers _ => registersFault? registers
  | f3rc op start count ref => registerRangeFault? start count <|> referenceFault? op.operand ref
  | f3rmi _ start count _ => registerRangeFault? start count
  | f3rms _ start count _ => registerRangeFault? start count
  | f45cc op registers ref second =>
      registersFault? registers <|> referenceFault? op.operand ref <|>
        referenceFault? op.secondOperand second
  | f4rcc op start count ref second =>
      registerRangeFault? start count <|> referenceFault? op.operand ref <|>
        referenceFault? op.secondOperand second
  | sparseSwitchPayload entries => keysFault? entries
  | arrayPayload width elements => elementsFault? width elements
  | f10x .. | f11x .. | f22x .. | f23x .. | f30t .. | f31i .. | f31t .. | f32x .. | f51l ..
  | packedSwitchPayload .. => none

/-- The first reason why an instruction can not be encoded. -/
def fault? (i : Instruction ρ) : Option OperandFault :=
  if i.opcode.format = i.format then i.operandFault? else some (OperandFault.format i.format)

def validate (i : Instruction ρ) : Except Error Unit :=
  match i.fault? with
  | none => .ok ()
  | some fault => .error (.badArgument (.operand i.opcode fault))

end DexPools.Instruction
