import DexPools.Entry

/-!
# What a writer asks of a class

Empty lists and empty annotation sets are written as their absence, a class without members has
no list of members, and the initial values of static fields are written up to the last one that
is not the default of its kind; the fields in between stand with their default.
-/

namespace DexPools

/-- The annotation set if there is something to write. -/
def AnnotationSetEntry.written? (s : AnnotationSetEntry) : Option AnnotationSetEntry :=
  if s.isEmpty then none else some s

namespace PooledField

/-- Whether the field has an initial value that has to be written. -/
def needsValue (f : PooledField) : Bool :=
  f.initialValue.any fun v => !v.isDefault

/-- The initial value of the field, or the default of its type. -/
def valueOrDefault (f : PooledField) : Except Error PooledValue :=
  match f.initialValue with
  | some v => .ok v
  | none => Value.defaultFor f.ref.type.text

end PooledField

/-- The shortest initial part of a list that holds every element with the property. -/
def upToLast {α : Type} (p : α → Bool) : List α → List α
  | [] => []
  | a :: rest =>
      match upToLast p rest with
      | [] => if p a then [a] else []
      | kept => a :: kept

namespace PooledMethod

def paramNames (m : PooledMethod) : List (Option StringEntry) :=
  m.params.map (·.name)

/-- The debug items of the body, if there is one. -/
def debugItems (m : PooledMethod) : List (DebugItem StringEntry TypeEntry) :=
  match m.body with
  | some b => b.debugItems
  | none => []

end PooledMethod

namespace ClassEntry

def writtenInterfaces? (c : ClassEntry) : Option TypeListEntry :=
  if c.interfaces.isEmpty then none else some c.interfaces

/-- The initial values of the static fields, up to the last that has to be written; nothing if
there is none. -/
def staticValues? (c : ClassEntry) : Except Error (Option (List PooledValue)) :=
  match upToLast PooledField.needsValue c.staticFields with
  | [] => .ok none
  | fields => return some (← fields.mapM PooledField.valueOrDefault)

def hasMembers (c : ClassEntry) : Bool :=
  !c.fields.isEmpty || !c.methods.isEmpty

/-- Whether the class, a member or a parameter has an annotation. -/
def hasAnnotations (c : ClassEntry) : Bool :=
  !c.annotations.isEmpty || c.fields.any (!·.annotations.isEmpty) ||
    c.methods.any fun m => !m.annotations.isEmpty || m.paramAnnotations?.isSome

end ClassEntry

/-- How the items of debug information are written, one action for each kind of item. -/
structure DebugWriter (m : Type → Type) where
  startLocal (address register : UInt32) (name : Option StringEntry) (type : Option TypeEntry)
    (signature : Option StringEntry) : m Unit
  endLocal (address register : UInt32) : m Unit
  restartLocal (address register : UInt32) : m Unit
  prologueEnd (address : UInt32) : m Unit
  epilogueBegin (address : UInt32) : m Unit
  setSourceFile (address : UInt32) (file : Option StringEntry) : m Unit
  line (address line : UInt32) : m Unit

def DebugWriter.write {m : Type → Type} (w : DebugWriter m) :
    DebugItem StringEntry TypeEntry → m Unit
  | .startLocal a r name type signature => w.startLocal a r name type signature
  | .endLocal a r => w.endLocal a r
  | .restartLocal a r => w.restartLocal a r
  | .prologueEnd a => w.prologueEnd a
  | .epilogueBegin a => w.epilogueBegin a
  | .setSourceFile a file => w.setSourceFile a file
  | .line a n => w.line a n

end DexPools
