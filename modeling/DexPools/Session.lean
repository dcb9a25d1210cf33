import DexPools.Diagnostics
import DexPools.Entry

/-!
# Sessions

A session builds the tables of one file. It holds a pool for each kind of item, the classes that
were built so far, the slots that a writer fills, and a list of what was skipped. Reading the
classes in order for the first time seals them: from then on the list is fixed and no class can
be added, while every other pool stays open.

An operation that fails keeps what it put into the pools before it failed. So an operation is
a function from a session to a result and a session, and the session comes back in both cases.
-/

namespace DexPools

structure Config where
  /-- Members of a class that fail are skipped and noted, instead of failing the class. -/
  lenient : Bool
  /-- The platform level that instructions have to be supported by. -/
  apiLevel : UInt32
deriving DecidableEq, Repr

namespace Config

/-- Every failure is one of the whole operation; platform level 28. -/
def strict : Config :=
  ⟨false, 28⟩

/-- Members that fail are skipped; platform level 28. -/
def skipping : Config :=
  ⟨true, 28⟩

end Config

/-- The classes of a session and the slots of classes and methods. -/
structure ClassPool where
  /-- The classes, the newest first. -/
  items : List ClassEntry
  slots : SlotTable ClassSlot
  methodSlots : SlotTable MethodSlot
  /-- The classes in order, once they were asked for. -/
  sealedOrder : Option (List ClassEntry)

namespace ClassPool

def empty : ClassPool :=
  ⟨[], SlotTable.empty, SlotTable.empty, none⟩

/-- Whether the classes were asked for in order. -/
def isSealed (p : ClassPool) : Bool :=
  p.sealedOrder.isSome

def size (p : ClassPool) : Nat :=
  p.items.length

def find? (p : ClassPool) (type : TypeEntry) : Option ClassEntry :=
  p.items.find? fun c => c.type.compare type == .eq

/-- Accepts a type under which a class can still be added. -/
def checkAvailable (p : ClassPool) (type : TypeEntry) : Except Error Unit :=
  if p.isSealed then .error .poolSealed
  else if (p.find? type).isSome then .error (.duplicate (.classDef type.text))
  else .ok ()

/-- The classes in the order of their types, which seals the pool. -/
def sorted (p : ClassPool) : List ClassEntry × ClassPool :=
  match p.sealedOrder with
  | some order => (order, p)
  | none =>
      let order := Sorted.sort ClassEntry.compare p.items.reverse
      (order, { p with sealedOrder := some order })

end ClassPool

/-- The state of the construction of one file. -/
structure Session where
  config : Config
  strings : Pool String StringEntry IndexSlot
  types : Pool String TypeEntry IndexSlot
  typeLists : Pool (List String) TypeListEntry OffsetSlot
  protos : Pool ProtoRef ProtoEntry IndexSlot
  fields : Pool FieldRef FieldEntry IndexSlot
  methods : Pool MethodRef MethodEntry IndexSlot
  annotations : Pool Annotation AnnotationEntry OffsetSlot
  annotationSets : Pool AnnotationSet AnnotationSetEntry OffsetSlot
  classes : ClassPool
  diagnostics : Diagnostics

/-- An operation on a session: a result or an error, and the session as it is afterwards. -/
abbrev Build := ExceptT Error (StateM Session)

namespace Session

def new (config : Config) : Session where
  config := config
  strings := Pool.empty
  types := Pool.empty
  typeLists := Pool.empty
  protos := Pool.empty
  fields := Pool.empty
  methods := Pool.empty
  annotations := Pool.empty
  annotationSets := Pool.empty
  classes := ClassPool.empty
  diagnostics := Diagnostics.empty

def run {α : Type} (s : Session) (op : Build α) : Except Error α × Session :=
  op.run.run s

/-- The sizes of the nine pools and the number of diagnostics. -/
def sizes (s : Session) : List Nat :=
  [s.strings.size, s.types.size, s.typeLists.size, s.protos.size, s.fields.size, s.methods.size,
   s.annotations.size, s.annotationSets.size, s.classes.size, s.diagnostics.size]

/-- The class of a type, which puts nothing into a pool. -/
def class? (s : Session) (descriptor : String) : Option ClassEntry :=
  (s.types.find? descriptor).bind s.classes.find?

def sortedStrings (s : Session) : List StringEntry :=
  s.strings.sortedBy StringEntry.compare

def sortedTypes (s : Session) : List TypeEntry :=
  s.types.sortedBy TypeEntry.compare

def sortedProtos (s : Session) : List ProtoEntry :=
  s.protos.sortedBy ProtoEntry.compare

def sortedFields (s : Session) : List FieldEntry :=
  s.fields.sortedBy FieldEntry.compare

def sortedMethods (s : Session) : List MethodEntry :=
  s.methods.sortedBy MethodEntry.compare

/-- The type lists that a file holds, in order. The empty list is written as its absence. -/
def writtenTypeLists (s : Session) : List TypeListEntry :=
  (s.typeLists.sortedBy TypeListEntry.compare).filter (!·.isEmpty)

/-- The annotations that a file holds. -/
def writtenAnnotations (s : Session) : List AnnotationEntry :=
  s.annotations.entries

/-- The annotation sets that a file holds. The empty set is written as its absence. -/
def writtenAnnotationSets (s : Session) : List AnnotationSetEntry :=
  s.annotationSets.entries.filter (!·.isEmpty)

end Session

end DexPools
