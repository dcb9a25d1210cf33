import DexPools.Definition
import DexPools.Pool

/-!
# Entries of the pools

An entry refers to the entries of other pools: a type to the string of its descriptor, a
prototype to its shorty, its parameter list and its return type, and so on up to annotation sets.
Reading an entry back follows these references to the text that the item was named by.

The orders are those of the identifier tables, stated on the entries themselves: a type stands
where its descriptor does, a field where its class, its name and its type do.
-/

namespace DexPools

open Text

structure StringEntry where
  row : Nat
  text : String
deriving DecidableEq, Repr

structure TypeEntry where
  row : Nat
  descriptor : StringEntry
deriving DecidableEq, Repr

structure TypeListEntry where
  row : Nat
  types : List TypeEntry
deriving DecidableEq, Repr

structure ProtoEntry where
  row : Nat
  shorty : StringEntry
  params : TypeListEntry
  returnType : TypeEntry
deriving DecidableEq, Repr

structure FieldEntry where
  row : Nat
  definingClass : TypeEntry
  name : StringEntry
  type : TypeEntry
deriving DecidableEq, Repr

structure MethodEntry where
  row : Nat
  definingClass : TypeEntry
  name : StringEntry
  proto : ProtoEntry
deriving DecidableEq, Repr

/-- A constant with entries at its leaves. -/
abbrev PooledValue := Value StringEntry TypeEntry FieldEntry MethodEntry

structure AnnotationEntry where
  row : Nat
  visibility : Visibility
  type : TypeEntry
  elements : List (Named StringEntry PooledValue)
deriving DecidableEq

structure AnnotationSetEntry where
  row : Nat
  annotations : List AnnotationEntry
deriving DecidableEq

instance : HasRow StringEntry := ⟨StringEntry.row⟩
instance : HasRow TypeEntry := ⟨TypeEntry.row⟩
instance : HasRow TypeListEntry := ⟨TypeListEntry.row⟩
instance : HasRow ProtoEntry := ⟨ProtoEntry.row⟩
instance : HasRow FieldEntry := ⟨FieldEntry.row⟩
instance : HasRow MethodEntry := ⟨MethodEntry.row⟩
instance : HasRow AnnotationEntry := ⟨AnnotationEntry.row⟩
instance : HasRow AnnotationSetEntry := ⟨AnnotationSetEntry.row⟩

namespace StringEntry

def compare (a b : StringEntry) : Ordering :=
  compareUnits a.text b.text

end StringEntry

namespace TypeEntry

def text (t : TypeEntry) : String :=
  t.descriptor.text

def compare (a b : TypeEntry) : Ordering :=
  a.descriptor.compare b.descriptor

end TypeEntry

namespace TypeListEntry

def texts (l : TypeListEntry) : List String :=
  l.types.map TypeEntry.text

def isEmpty (l : TypeListEntry) : Bool :=
  l.types.isEmpty

/-- The order type by type; a proper initial part stands before the whole. -/
def compare (a b : TypeListEntry) : Ordering :=
  List.compareLex TypeEntry.compare a.types b.types

end TypeListEntry

namespace ProtoEntry

def ref (p : ProtoEntry) : ProtoRef :=
  ⟨p.params.texts, p.returnType.text⟩

def compare (a b : ProtoEntry) : Ordering :=
  (a.returnType.compare b.returnType).then (a.params.compare b.params)

end ProtoEntry

namespace FieldEntry

def ref (f : FieldEntry) : FieldRef :=
  ⟨f.definingClass.text, f.name.text, f.type.text⟩

def compare (a b : FieldEntry) : Ordering :=
  (a.definingClass.compare b.definingClass).then <|
    (a.name.compare b.name).then <|
      a.type.compare b.type

end FieldEntry

namespace MethodEntry

def ref (m : MethodEntry) : MethodRef :=
  ⟨m.definingClass.text, m.name.text, m.proto.params.texts, m.proto.returnType.text⟩

def compare (a b : MethodEntry) : Ordering :=
  (a.definingClass.compare b.definingClass).then <|
    (a.name.compare b.name).then <|
      a.proto.compare b.proto

end MethodEntry

def PooledValue.readBack (v : PooledValue) : TextValue :=
  v.map StringEntry.text TypeEntry.text FieldEntry.ref MethodEntry.ref

def readBackElements (elements : List (Named StringEntry PooledValue)) : List TextElement :=
  Value.mapElements StringEntry.text TypeEntry.text FieldEntry.ref MethodEntry.ref elements

def AnnotationEntry.readBack (a : AnnotationEntry) : Annotation :=
  ⟨a.visibility, a.type.text, readBackElements a.elements⟩

namespace AnnotationSetEntry

def isEmpty (s : AnnotationSetEntry) : Bool :=
  s.annotations.isEmpty

def readBack (s : AnnotationSetEntry) : AnnotationSet :=
  ⟨s.annotations.map AnnotationEntry.readBack⟩

end AnnotationSetEntry

/-- What an operand names, as an entry of a pool. -/
inductive PooledReference where
  | string (s : StringEntry)
  | type (t : TypeEntry)
  | field (f : FieldEntry)
  | method (m : MethodEntry)
  | methodProto (p : ProtoEntry)
deriving DecidableEq, Repr

namespace PooledReference

def kind : PooledReference → ReferenceKind
  | string _ => .string
  | type _ => .type
  | field _ => .field
  | method _ => .method
  | methodProto _ => .methodProto

instance : HasReferenceKind PooledReference := ⟨kind⟩

def readBack : PooledReference → Reference
  | string s => .string s.text
  | type t => .type t.text
  | field f => .field f.ref
  | method m => .method m.ref
  | methodProto p => .methodProto p.ref

/-- Whether two references are the same entry of the same pool. -/
def isSame : PooledReference → PooledReference → Bool
  | string a, string b => sameEntry a b
  | type a, type b => sameEntry a b
  | field a, field b => sameEntry a b
  | method a, method b => sameEntry a b
  | methodProto a, methodProto b => sameEntry a b
  | _, _ => false

/-- Whether two references name the same item by text. -/
def agree : PooledReference → PooledReference → Bool
  | string a, string b => a.compare b == .eq
  | type a, type b => a.compare b == .eq
  | field a, field b => a.compare b == .eq
  | method a, method b => a.compare b == .eq
  | methodProto a, methodProto b => a.compare b == .eq
  | _, _ => false

end PooledReference

/-- The body of a method whose operands, handlers and debug items hold entries. -/
abbrev PooledBody := Body PooledReference StringEntry TypeEntry

def PooledBody.readBack (b : PooledBody) : TextBody where
  registers := b.registers
  instructions := b.instructions.map (Instruction.map PooledReference.readBack)
  tries := b.tries.map (TryBlock.map TypeEntry.text)
  debugItems := b.debugItems.map (DebugItem.map StringEntry.text TypeEntry.text)

structure PooledField where
  ref : FieldEntry
  flags : AccessFlags
  initialValue : Option PooledValue
  annotations : AnnotationSetEntry
deriving DecidableEq

namespace PooledField

def isStatic (f : PooledField) : Bool :=
  f.flags.isStatic

def compare (a b : PooledField) : Ordering :=
  a.ref.compare b.ref

def readBack (f : PooledField) : FieldDef where
  definingClass := f.ref.definingClass.text
  name := f.ref.name.text
  type := f.ref.type.text
  flags := f.flags
  initialValue := f.initialValue.map PooledValue.readBack
  annotations := f.annotations.readBack

end PooledField

structure PooledParameter where
  type : TypeEntry
  name : Option StringEntry
  annotations : AnnotationSetEntry
deriving DecidableEq

def PooledParameter.readBack (p : PooledParameter) : Parameter where
  type := p.type.text
  name := p.name.map StringEntry.text
  annotations := p.annotations.readBack

/-- A method of a session. It owns a row of the method slots, also as part of a class. -/
structure PooledMethod where
  row : Nat
  ref : MethodEntry
  params : List PooledParameter
  flags : AccessFlags
  annotations : AnnotationSetEntry
  body : Option PooledBody
deriving DecidableEq

instance : HasRow PooledMethod := ⟨PooledMethod.row⟩

namespace PooledMethod

def isDirect (m : PooledMethod) : Bool :=
  m.flags.isDirect

def compare (a b : PooledMethod) : Ordering :=
  a.ref.compare b.ref

/-- The annotation sets of all parameters, unless each of them is empty. -/
def paramAnnotations? (m : PooledMethod) : Option (List AnnotationSetEntry) :=
  if m.params.all (·.annotations.isEmpty) then none else some (m.params.map (·.annotations))

def readBack (m : PooledMethod) : MethodDef where
  definingClass := m.ref.definingClass.text
  name := m.ref.name.text
  params := m.params.map PooledParameter.readBack
  returnType := m.ref.proto.returnType.text
  flags := m.flags
  annotations := m.annotations.readBack
  body := m.body.map PooledBody.readBack

end PooledMethod

structure ClassEntry where
  row : Nat
  type : TypeEntry
  flags : AccessFlags
  superclass : Option TypeEntry
  interfaces : TypeListEntry
  sourceFile : Option StringEntry
  annotations : AnnotationSetEntry
  staticFields : List PooledField
  instanceFields : List PooledField
  directMethods : List PooledMethod
  virtualMethods : List PooledMethod
deriving DecidableEq

instance : HasRow ClassEntry := ⟨ClassEntry.row⟩

namespace ClassEntry

/-- All fields, the static ones first. -/
def fields (c : ClassEntry) : List PooledField :=
  c.staticFields ++ c.instanceFields

def methods (c : ClassEntry) : List PooledMethod :=
  c.directMethods ++ c.virtualMethods

def compare (a b : ClassEntry) : Ordering :=
  a.type.compare b.type

def readBack (c : ClassEntry) : ClassDef where
  type := c.type.text
  flags := c.flags
  superclass := c.superclass.map TypeEntry.text
  interfaces := c.interfaces.texts
  sourceFile := c.sourceFile.map StringEntry.text
  annotations := c.annotations.readBack
  staticFields := c.staticFields.map PooledField.readBack
  instanceFields := c.instanceFields.map PooledField.readBack
  directMethods := c.directMethods.map PooledMethod.readBack
  virtualMethods := c.virtualMethods.map PooledMethod.readBack

end ClassEntry

end DexPools
