import DexPools.Instruction

/-!
# Method bodies

A body is the number of registers, the instructions, the ranges that have exception handlers and
the debug items. Debug items and handlers are generic, as instructions are, in what they hold for
text and types.
-/

namespace DexPools

def traverseOption {m : Type → Type} [Monad m] {α β : Type} (f : α → m β) :
    Option α → m (Option β)
  | none => pure none
  | some a => return some (← f a)

/-- Where to go for an exception of a type, or of any type. -/
structure Handler (τ : Type) where
  type : Option τ
  address : UInt32
deriving DecidableEq, Repr

def Handler.traverse {m : Type → Type} [Monad m] {τ τ' : Type} (f : τ → m τ') (h : Handler τ) :
    m (Handler τ') :=
  return ⟨← traverseOption f h.type, h.address⟩

/-- A range of code with its handlers in the order in which they are tried. -/
structure TryBlock (τ : Type) where
  start : UInt32
  count : UInt32
  handlers : List (Handler τ)
deriving DecidableEq, Repr

namespace TryBlock

variable {τ τ' : Type}

/-- The first address behind the range, modulo `2 ^ 32` as every address. -/
def endAddress (t : TryBlock τ) : UInt32 :=
  t.start + t.count

def traverse {m : Type → Type} [Monad m] (f : τ → m τ') (t : TryBlock τ) : m (TryBlock τ') := do
  let handlers ← t.handlers.mapM (Handler.traverse f)
  return ⟨t.start, t.count, handlers⟩

def map (f : τ → τ') (t : TryBlock τ) : TryBlock τ' :=
  Id.run (t.traverse fun type => (pure (f type) : Id τ'))

end TryBlock

/-- An item of the debug information of a body, at a code address. -/
inductive DebugItem (σ τ : Type) where
  /-- A local variable comes into scope. -/
  | startLocal (address register : UInt32) (name : Option σ) (type : Option τ)
    (signature : Option σ)
  /-- A local variable goes out of scope. -/
  | endLocal (address register : UInt32)
  /-- A local variable is in scope again. -/
  | restartLocal (address register : UInt32)
  | prologueEnd (address : UInt32)
  | epilogueBegin (address : UInt32)
  /-- The code that follows comes from another file. -/
  | setSourceFile (address : UInt32) (file : Option σ)
  /-- The code that follows comes from this line. -/
  | line (address line : UInt32)
deriving DecidableEq, Repr

namespace DebugItem

variable {σ τ σ' τ' : Type}

def address : DebugItem σ τ → UInt32
  | startLocal a .. => a
  | endLocal a _ => a
  | restartLocal a _ => a
  | prologueEnd a => a
  | epilogueBegin a => a
  | setSourceFile a _ => a
  | line a _ => a

/-- Replaces the texts and types of an item: the name, the type, then the signature. -/
def traverse {m : Type → Type} [Monad m] (onString : σ → m σ') (onType : τ → m τ') :
    DebugItem σ τ → m (DebugItem σ' τ')
  | startLocal a r name type signature =>
      return startLocal a r (← traverseOption onString name) (← traverseOption onType type)
        (← traverseOption onString signature)
  | endLocal a r => pure (endLocal a r)
  | restartLocal a r => pure (restartLocal a r)
  | prologueEnd a => pure (prologueEnd a)
  | epilogueBegin a => pure (epilogueBegin a)
  | setSourceFile a file => return setSourceFile a (← traverseOption onString file)
  | line a n => pure (line a n)

def map (onString : σ → σ') (onType : τ → τ') (d : DebugItem σ τ) : DebugItem σ' τ' :=
  Id.run (d.traverse (fun s => (pure (onString s) : Id σ')) fun t => (pure (onType t) : Id τ'))

end DebugItem

structure Body (ρ σ τ : Type) where
  registers : UInt16
  instructions : List (Instruction ρ)
  tries : List (TryBlock τ)
  debugItems : List (DebugItem σ τ)
deriving DecidableEq

namespace Body

variable {ρ σ τ : Type}

def empty : Body ρ σ τ :=
  ⟨0, [], [], []⟩

/-- The size of the instructions in code units. -/
def codeUnits (b : Body ρ σ τ) : Nat :=
  (b.instructions.map Instruction.codeUnits).foldr (· + ·) 0

end Body

end DexPools
