import DexPools.AccessFlags
import DexPools.Annotation
import DexPools.Code
import DexPools.Operand

/-!
# Classes and their members

A class definition in its one form has its fields split into static and instance fields, its
methods into direct and virtual methods, each list in the order of its table, and every interface
once. `ClassDef.ofParts` brings the parts of a class into that form or says why they are no
class. A definition that was put together in another way need not have the form.

Members and classes are ordered by what they are referred to by, not by their contents.
-/

namespace DexPools

open Text

abbrev TextBody := Body Reference String String

structure FieldDef where
  definingClass : String
  name : String
  type : String
  flags : AccessFlags
  initialValue : Option TextValue
  annotations : AnnotationSet
deriving DecidableEq

namespace FieldDef

/-- What the field is referred to by. -/
def ref (f : FieldDef) : FieldRef :=
  ⟨f.definingClass, f.name, f.type⟩

def isStatic (f : FieldDef) : Bool :=
  f.flags.isStatic

def compare (a b : FieldDef) : Ordering :=
  a.ref.compare b.ref

end FieldDef

structure Parameter where
  type : String
  name : Option String
  annotations : AnnotationSet
deriving DecidableEq

structure MethodDef where
  definingClass : String
  name : String
  params : List Parameter
  returnType : String
  flags : AccessFlags
  annotations : AnnotationSet
  body : Option TextBody
deriving DecidableEq

namespace MethodDef

def paramTypes (m : MethodDef) : List String :=
  m.params.map (·.type)

/-- What the method is referred to by. -/
def ref (m : MethodDef) : MethodRef :=
  ⟨m.definingClass, m.name, m.paramTypes, m.returnType⟩

def proto (m : MethodDef) : ProtoRef :=
  m.ref.proto

def isDirect (m : MethodDef) : Bool :=
  m.flags.isDirect

def compare (a b : MethodDef) : Ordering :=
  a.ref.compare b.ref

end MethodDef

/-- What is said of a class apart from its members. -/
structure ClassHeader where
  type : String
  flags : AccessFlags
  superclass : Option String
  interfaces : List String
  sourceFile : Option String
  annotations : AnnotationSet
deriving DecidableEq

structure ClassDef extends ClassHeader where
  staticFields : List FieldDef
  instanceFields : List FieldDef
  directMethods : List MethodDef
  virtualMethods : List MethodDef
deriving DecidableEq

namespace ClassDef

/-- All fields, the static ones first. -/
def fields (c : ClassDef) : List FieldDef :=
  c.staticFields ++ c.instanceFields

def methods (c : ClassDef) : List MethodDef :=
  c.directMethods ++ c.virtualMethods

def compare (a b : ClassDef) : Ordering :=
  compareUnits a.type b.type

/-- Keeps the first occurrence of each interface. -/
def dedupInterfaces (interfaces : List String) : List String :=
  Sorted.dedupBy (· == ·) interfaces

/-- Builds a class from its parts, with the members in any order. Every member has to name the
class; only then are members of one name and type looked for, among the fields of either kind and
among the methods of either kind. -/
def ofParts (header : ClassHeader) (fields : List FieldDef) (methods : List MethodDef) :
    Except Error ClassDef := do
  let (statics, instances) := fields.partition FieldDef.isStatic
  let (directs, virtuals) := methods.partition MethodDef.isDirect
  let type := header.type
  if let some f := (statics ++ instances).find? (·.definingClass != type) then
    throw (.badArgument (.foreignMember (.field f.ref) type))
  if let some m := (directs ++ virtuals).find? (·.definingClass != type) then
    throw (.badArgument (.foreignMember (.method m.ref) type))
  if let some f := Sorted.firstRepeat (fun f => (f.name, f.type)) (statics ++ instances) then
    throw (.duplicate (.memberOf (.field f.ref) type))
  if let some m := Sorted.firstRepeat MethodDef.ref (directs ++ virtuals) then
    throw (.duplicate (.memberOf (.method m.ref) type))
  return {
    header with
    interfaces := dedupInterfaces header.interfaces
    staticFields := Sorted.sort FieldDef.compare statics
    instanceFields := Sorted.sort FieldDef.compare instances
    directMethods := Sorted.sort MethodDef.compare directs
    virtualMethods := Sorted.sort MethodDef.compare virtuals
  }

end ClassDef

end DexPools
