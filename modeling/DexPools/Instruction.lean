import DexPools.Opcode

/-!
# Instructions

An instruction is its opcode with the operands of one format. The type is generic in what a
reference operand is: a definition names items by text, a session by entries of its pools.
`traverse` replaces the references and keeps all else, so both forms have the same shape.
-/

namespace DexPools

/-- An entry of a sparse switch table: a key and where to go for it. -/
structure SwitchEntry where
  key : Int32
  offset : Int32
deriving DecidableEq, Repr

/-- An instruction whose reference operands are of type `ρ`. -/
inductive Instruction (ρ : Type) where
  | f10t (op : Opcode) (offset : Int32)
  | f10x (op : Opcode)
  | f11n (op : Opcode) (a : UInt8) (literal : Int32)
  | f11x (op : Opcode) (a : UInt8)
  | f12x (op : Opcode) (a b : UInt8)
  | f20bc (op : Opcode) (error : UInt8) (ref : ρ)
  | f20t (op : Opcode) (offset : Int32)
  | f21c (op : Opcode) (a : UInt8) (ref : ρ)
  | f21ih (op : Opcode) (a : UInt8) (literal : Int32)
  | f21lh (op : Opcode) (a : UInt8) (literal : Int64)
  | f21s (op : Opcode) (a : UInt8) (literal : Int32)
  | f21t (op : Opcode) (a : UInt8) (offset : Int32)
  | f22b (op : Opcode) (a b : UInt8) (literal : Int32)
  | f22c (op : Opcode) (a b : UInt8) (ref : ρ)
  | f22cs (op : Opcode) (a b : UInt8) (fieldOffset : UInt16)
  | f22s (op : Opcode) (a b : UInt8) (literal : Int32)
  | f22t (op : Opcode) (a b : UInt8) (offset : Int32)
  | f22x (op : Opcode) (a : UInt8) (b : UInt16)
  | f23x (op : Opcode) (a b c : UInt8)
  | f30t (op : Opcode) (offset : Int32)
  | f31c (op : Opcode) (a : UInt8) (ref : ρ)
  | f31i (op : Opcode) (a : UInt8) (literal : Int32)
  | f31t (op : Opcode) (a : UInt8) (offset : Int32)
  | f32x (op : Opcode) (a b : UInt16)
  | f35c (op : Opcode) (registers : List UInt8) (ref : ρ)
  | f35mi (op : Opcode) (registers : List UInt8) (inlineIndex : UInt16)
  | f35ms (op : Opcode) (registers : List UInt8) (vtableIndex : UInt16)
  | f3rc (op : Opcode) (start : UInt16) (count : UInt8) (ref : ρ)
  | f3rmi (op : Opcode) (start : UInt16) (count : UInt8) (inlineIndex : UInt16)
  | f3rms (op : Opcode) (start : UInt16) (count : UInt8) (vtableIndex : UInt16)
  | f45cc (op : Opcode) (registers : List UInt8) (ref second : ρ)
  | f4rcc (op : Opcode) (start : UInt16) (count : UInt8) (ref second : ρ)
  | f51l (op : Opcode) (a : UInt8) (literal : Int64)
  | packedSwitchPayload (firstKey : Int32) (targets : List Int32)
  | sparseSwitchPayload (entries : List SwitchEntry)
  | arrayPayload (width : UInt8) (elements : List Int64)
deriving DecidableEq

namespace Instruction

variable {ρ ρ' : Type}

def format : Instruction ρ → Format
  | f10t .. => .f10t
  | f10x .. => .f10x
  | f11n .. => .f11n
  | f11x .. => .f11x
  | f12x .. => .f12x
  | f20bc .. => .f20bc
  | f20t .. => .f20t
  | f21c .. => .f21c
  | f21ih .. => .f21ih
  | f21lh .. => .f21lh
  | f21s .. => .f21s
  | f21t .. => .f21t
  | f22b .. => .f22b
  | f22c .. => .f22c
  | f22cs .. => .f22cs
  | f22s .. => .f22s
  | f22t .. => .f22t
  | f22x .. => .f22x
  | f23x .. => .f23x
  | f30t .. => .f30t
  | f31c .. => .f31c
  | f31i .. => .f31i
  | f31t .. => .f31t
  | f32x .. => .f32x
  | f35c .. => .f35c
  | f35mi .. => .f35mi
  | f35ms .. => .f35ms
  | f3rc .. => .f3rc
  | f3rmi .. => .f3rmi
  | f3rms .. => .f3rms
  | f45cc .. => .f45cc
  | f4rcc .. => .f4rcc
  | f51l .. => .f51l
  | packedSwitchPayload .. => .packedSwitchPayload
  | sparseSwitchPayload .. => .sparseSwitchPayload
  | arrayPayload .. => .arrayPayload

/-- The opcode; that of a payload follows from its format. -/
def opcode : Instruction ρ → Opcode
  | f10t op .. => op
  | f10x op => op
  | f11n op .. => op
  | f11x op .. => op
  | f12x op .. => op
  | f20bc op .. => op
  | f20t op .. => op
  | f21c op .. => op
  | f21ih op .. => op
  | f21lh op .. => op
  | f21s op .. => op
  | f21t op .. => op
  | f22b op .. => op
  | f22c op .. => op
  | f22cs op .. => op
  | f22s op .. => op
  | f22t op .. => op
  | f22x op .. => op
  | f23x op .. => op
  | f30t op .. => op
  | f31c op .. => op
  | f31i op .. => op
  | f31t op .. => op
  | f32x op .. => op
  | f35c op .. => op
  | f35mi op .. => op
  | f35ms op .. => op
  | f3rc op .. => op
  | f3rmi op .. => op
  | f3rms op .. => op
  | f45cc op .. => op
  | f4rcc op .. => op
  | f51l op .. => op
  | packedSwitchPayload .. => Opcode.packedSwitchPayload
  | sparseSwitchPayload .. => Opcode.sparseSwitchPayload
  | arrayPayload .. => Opcode.arrayPayload

/-- The size in 16-bit code units. A payload grows with its entries, and the bytes of an array
are rounded up to whole units. -/
def codeUnits : Instruction ρ → Nat
  | packedSwitchPayload _ targets => 4 + targets.length * 2
  | sparseSwitchPayload entries => 2 + entries.length * 4
  | arrayPayload width elements => 4 + (width.toNat * elements.length + 1) / 2
  | i => i.format.size.getD 0

def reference? : Instruction ρ → Option ρ
  | f20bc _ _ ref => some ref
  | f21c _ _ ref => some ref
  | f22c _ _ _ ref => some ref
  | f31c _ _ ref => some ref
  | f35c _ _ ref => some ref
  | f3rc _ _ _ ref => some ref
  | f45cc _ _ ref _ => some ref
  | f4rcc _ _ _ ref _ => some ref
  | _ => none

/-- The second reference operand, the prototype of a polymorphic call. -/
def secondReference? : Instruction ρ → Option ρ
  | f45cc _ _ _ second => some second
  | f4rcc _ _ _ _ second => some second
  | _ => none

/-- Replaces the reference operands, the first one first. -/
def traverse {m : Type → Type} [Monad m] (f : ρ → m ρ') : Instruction ρ → m (Instruction ρ')
  | f10t op offset => pure (f10t op offset)
  | f10x op => pure (f10x op)
  | f11n op a literal => pure (f11n op a literal)
  | f11x op a => pure (f11x op a)
  | f12x op a b => pure (f12x op a b)
  | f20bc op error ref => return f20bc op error (← f ref)
  | f20t op offset => pure (f20t op offset)
  | f21c op a ref => return f21c op a (← f ref)
  | f21ih op a literal => pure (f21ih op a literal)
  | f21lh op a literal => pure (f21lh op a literal)
  | f21s op a literal => pure (f21s op a literal)
  | f21t op a offset => pure (f21t op a offset)
  | f22b op a b literal => pure (f22b op a b literal)
  | f22c op a b ref => return f22c op a b (← f ref)
  | f22cs op a b fieldOffset => pure (f22cs op a b fieldOffset)
  | f22s op a b literal => pure (f22s op a b literal)
  | f22t op a b offset => pure (f22t op a b offset)
  | f22x op a b => pure (f22x op a b)
  | f23x op a b c => pure (f23x op a b c)
  | f30t op offset => pure (f30t op offset)
  | f31c op a ref => return f31c op a (← f ref)
  | f31i op a literal => pure (f31i op a literal)
  | f31t op a offset => pure (f31t op a offset)
  | f32x op a b => pure (f32x op a b)
  | f35c op registers ref => return f35c op registers (← f ref)
  | f35mi op registers inlineIndex => pure (f35mi op registers inlineIndex)
  | f35ms op registers vtableIndex => pure (f35ms op registers vtableIndex)
  | f3rc op start count ref => return f3rc op start count (← f ref)
  | f3rmi op start count inlineIndex => pure (f3rmi op start count inlineIndex)
  | f3rms op start count vtableIndex => pure (f3rms op start count vtableIndex)
  | f45cc op registers ref second => return f45cc op registers (← f ref) (← f second)
  | f4rcc op start count ref second => return f4rcc op start count (← f ref) (← f second)
  | f51l op a literal => pure (f51l op a literal)
  | packedSwitchPayload firstKey targets => pure (packedSwitchPayload firstKey targets)
  | sparseSwitchPayload entries => pure (sparseSwitchPayload entries)
  | arrayPayload width elements => pure (arrayPayload width elements)

def map (f : ρ → ρ') (i : Instruction ρ) : Instruction ρ' :=
  Id.run (i.traverse fun ref => (pure (f ref) : Id ρ'))

end Instruction

end DexPools
