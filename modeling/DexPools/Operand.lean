import DexPools.Text.Quoted
import DexPools.Value.Order

/-!
# What an instruction can refer to

A reference names a string, a type, a member, a prototype, a method handle or a call site. The
first five kinds have pools; handles and call sites can be written down and compared, but a
session does not hold them.

References are ordered by kind and then by what they name. Strings, types and the names inside
call sites go by code points here, members and prototypes by their tables.
-/

namespace DexPools

open Text

/-- What a method handle does with its member. -/
inductive HandleKind where
  | staticPut
  | staticGet
  | instancePut
  | instanceGet
  | invokeStatic
  | invokeInstance
  | invokeConstructor
  | invokeDirect
  | invokeInterface
deriving DecidableEq, Repr, Inhabited

namespace HandleKind

/-- Every kind with its name, in order. -/
def named : List (HandleKind × String) :=
  [(staticPut, "StaticPut"), (staticGet, "StaticGet"), (instancePut, "InstancePut"),
   (instanceGet, "InstanceGet"), (invokeStatic, "InvokeStatic"),
   (invokeInstance, "InvokeInstance"), (invokeConstructor, "InvokeConstructor"),
   (invokeDirect, "InvokeDirect"), (invokeInterface, "InvokeInterface")]

def name (k : HandleKind) : String :=
  (named.lookup k).getD ""

def ofName? (s : String) : Option HandleKind :=
  (named.find? (·.2 == s)).map Prod.fst

def compare (a b : HandleKind) : Ordering :=
  Ord.compare a.ctorIdx b.ctorIdx

end HandleKind

structure MethodHandle where
  kind : HandleKind
  member : MemberRef
deriving DecidableEq

/-- A call site, which links a call when it first runs. -/
structure CallSite where
  name : String
  handle : MethodHandle
  methodName : String
  proto : ProtoRef
  arguments : List TextValue
deriving DecidableEq

inductive Reference where
  | string (s : String)
  | type (t : String)
  | field (f : FieldRef)
  | method (m : MethodRef)
  | methodProto (p : ProtoRef)
  | methodHandle (h : MethodHandle)
  | callSite (c : CallSite)
deriving DecidableEq

/-- Handles are ordered by kind and then by member. -/
def MethodHandle.compare (a b : MethodHandle) : Ordering :=
  (a.kind.compare b.kind).then (a.member.compare b.member)

/-- Call sites are ordered part by part, the names by code points. -/
def CallSite.compare (a b : CallSite) : Ordering :=
  (Ord.compare a.name b.name).then <|
    (a.handle.compare b.handle).then <|
      (Ord.compare a.methodName b.methodName).then <|
        (a.proto.compare b.proto).then <|
          Value.compareItems a.arguments b.arguments

/-- Operands whose kind can be told. -/
class HasReferenceKind (ρ : Type) where
  referenceKind : ρ → ReferenceKind

namespace Reference

def kind : Reference → ReferenceKind
  | string _ => .string
  | type _ => .type
  | field _ => .field
  | method _ => .method
  | methodProto _ => .methodProto
  | methodHandle _ => .methodHandle
  | callSite _ => .callSite

instance : HasReferenceKind Reference := ⟨kind⟩

/-- The order by kind and then by what is named. -/
def compare : Reference → Reference → Ordering
  | string a, string b => Ord.compare a b
  | type a, type b => Ord.compare a b
  | field a, field b => a.compare b
  | method a, method b => a.compare b
  | methodProto a, methodProto b => a.compare b
  | methodHandle a, methodHandle b => a.compare b
  | callSite a, callSite b => a.compare b
  | a, b => Ord.compare a.kind.ctorIdx b.kind.ctorIdx

/-- The text of a reference: strings in quotes, members and prototypes as they are written, and
only the kind or name of the rest. -/
def display : Reference → String
  | string s => quote s
  | type t => t
  | field f => f.display
  | method m => m.display
  | methodProto p => p.display
  | methodHandle h => "method-handle " ++ h.kind.name
  | callSite c => "call-site " ++ c.name

end Reference

end DexPools
