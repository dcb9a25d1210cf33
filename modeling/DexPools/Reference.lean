import DexPools.Text.Units

/-!
# Fields, prototypes and methods by name

A member is referred to by the class that declares it, its name and its type or prototype.
The three orders are those of the identifier tables: fields by class, name and type; prototypes
by return type and then by parameter list; methods by class, name and prototype.
-/

namespace DexPools

open Text

/-- A field, named by its class, its name and its type. -/
structure FieldRef where
  definingClass : String
  name : String
  type : String
deriving DecidableEq, Repr, Inhabited

/-- A prototype: the parameter types in order and the return type. -/
structure ProtoRef where
  params : List String
  returnType : String
deriving DecidableEq, Repr, Inhabited

/-- A method, named by its class, its name and its prototype. -/
structure MethodRef where
  definingClass : String
  name : String
  params : List String
  returnType : String
deriving DecidableEq, Repr, Inhabited

namespace FieldRef

/-- The order of the field table: class, name, type. -/
def compare (a b : FieldRef) : Ordering :=
  (compareUnits a.definingClass b.definingClass).then <|
    (compareUnits a.name b.name).then <|
      compareUnits a.type b.type

/-- A field reads `class->name:type`. -/
def display (f : FieldRef) : String :=
  f.definingClass ++ "->" ++ f.name ++ ":" ++ f.type

end FieldRef

namespace ProtoRef

/-- The order of the prototype table: return type, then parameter list. -/
def compare (a b : ProtoRef) : Ordering :=
  (compareUnits a.returnType b.returnType).then (compareUnitLists a.params b.params)

/-- A prototype reads `(parameters)return type`, with nothing between the parameters. -/
def display (p : ProtoRef) : String :=
  "(" ++ String.join p.params ++ ")" ++ p.returnType

end ProtoRef

namespace MethodRef

def proto (m : MethodRef) : ProtoRef :=
  ⟨m.params, m.returnType⟩

/-- The order of the method table: class, name, prototype. -/
def compare (a b : MethodRef) : Ordering :=
  (compareUnits a.definingClass b.definingClass).then <|
    (compareUnits a.name b.name).then <|
      (compareUnits a.returnType b.returnType).then <|
        compareUnitLists a.params b.params

/-- A method reads `class->name(parameters)return type`. -/
def display (m : MethodRef) : String :=
  m.definingClass ++ "->" ++ m.name ++ m.proto.display

end MethodRef

inductive MemberRef where
  | field (f : FieldRef)
  | method (m : MethodRef)
deriving DecidableEq, Repr

namespace MemberRef

/-- Fields stand before methods, and each among their own in table order. -/
def compare : MemberRef → MemberRef → Ordering
  | field a, field b => a.compare b
  | field _, method _ => .lt
  | method _, field _ => .gt
  | method a, method b => a.compare b

def display : MemberRef → String
  | field f => f.display
  | method m => m.display

def noun : MemberRef → String
  | field _ => "Field"
  | method _ => "Method"

end MemberRef

/-- What kind of pooled item an operand names, in the order in which kinds are compared. -/
inductive ReferenceKind where
  | string
  | type
  | field
  | method
  | methodProto
  | methodHandle
  | callSite
deriving DecidableEq, Repr, Inhabited

namespace ReferenceKind

def all : List ReferenceKind :=
  [.string, .type, .field, .method, .methodProto, .methodHandle, .callSite]

/-- The name of a kind as messages give it. -/
def name : ReferenceKind → String
  | .string => "String"
  | .type => "Type"
  | .field => "Field"
  | .method => "Method"
  | .methodProto => "MethodProto"
  | .methodHandle => "MethodHandle"
  | .callSite => "CallSite"

end ReferenceKind

end DexPools
