import DexPools.Opcode.Fault

/-!
# Why an operation fails

An error is a cause with the items it concerns. Its wording stands in one place, `message`, and
`Error.text` is the text with the heading of its class, without the place in the program that
raised the error.
-/

namespace DexPools

/-- An argument that no definition may have. -/
inductive BadArgument where
  /-- The text is no type descriptor, or `void` where none is allowed. -/
  | malformedType (descriptor : String)
  /-- The empty text has no one-letter form. -/
  | emptyShorty
  /-- No field of this type has a default value. -/
  | noDefault (descriptor : String)
  /-- No visibility has this code. -/
  | badVisibility (code : UInt8)
  /-- Two elements of an annotation have one name. -/
  | repeatedElement (type name : String)
  /-- A member names another class than the one it is listed in. -/
  | foreignMember (member : MemberRef) (type : String)
  | unnamedMember (member : MemberRef)
  | repeatedAnnotationType (type : String)
  /-- The platform level of the session is below that of the opcode. -/
  | apiTooLow (op : Opcode) (target : UInt32)
  | bodyNotAllowed (method : MethodRef)
  | notClassType (type : String)
  | unknownRow (row : Nat)
  | emptyTypeList
  | emptyAnnotationSet
  | operand (op : Opcode) (fault : OperandFault)
deriving DecidableEq, Repr

inductive Duplicate where
  /-- Two members of one class agree in name and type. -/
  | memberOf (member : MemberRef) (type : String)
  /-- Two pooled members of one class agree in name and type. -/
  | member (member : MemberRef)
  | classDef (type : String)
deriving DecidableEq, Repr

inductive Error where
  | duplicate (what : Duplicate)
  | badArgument (what : BadArgument)
  /-- The session has no pool for references of this kind. -/
  | unsupportedReference (kind : String)
  | slotAssigned
  | slotUnassigned
  | poolSealed
deriving DecidableEq, Repr

namespace BadArgument

def message : BadArgument → String
  | malformedType d => s!"Invalid type descriptor '{d}'"
  | emptyShorty => "Empty type descriptor has no shorty"
  | noDefault d => s!"Type '{d}' has no default value"
  | badVisibility code => s!"Invalid annotation visibility {code.toNat}"
  | repeatedElement type name =>
      s!"Annotation {type} has more than one element named '{name}'"
  | foreignMember member type => s!"{member.noun} {member.display} is not declared by {type}"
  | unnamedMember member => s!"{member.noun} {member.display} has an empty name"
  | repeatedAnnotationType type => s!"Annotation set contains {type} more than once"
  | apiTooLow op target =>
      s!"{op.mnemonic} requires API level {op.minApi.toNat}, target is {target.toNat}"
  | bodyNotAllowed method =>
      s!"Abstract or native method {method.display} can not have an implementation"
  | notClassType type => s!"Class type {type} is not a class descriptor"
  | unknownRow row => s!"Slot row {row} does not belong to this table"
  | emptyTypeList => "The empty type list has no offset"
  | emptyAnnotationSet => "The empty annotation set is never written"
  | operand op fault => fault.message op

end BadArgument

namespace Duplicate

def message : Duplicate → String
  | .memberOf m type => s!"{m.noun} {m.display} is declared twice in {type}"
  | .member m => s!"{m.noun} {m.display} is declared twice"
  | .classDef type => s!"Class {type} has already been interned"

end Duplicate

namespace Error

def kind : Error → String
  | duplicate _ => "DuplicateDefinition"
  | badArgument _ => "InvalidArgument"
  | unsupportedReference _ => "UnsupportedReferenceKind"
  | slotAssigned => "IndexAlreadyAssigned"
  | slotUnassigned => "IndexNotAssigned"
  | poolSealed => "PoolSealed"

def text : Error → String
  | duplicate what => "Duplicate definition - " ++ what.message
  | badArgument what => "Invalid argument - " ++ what.message
  | unsupportedReference kind => "Unsupported reference kind - " ++ kind
  | slotAssigned => "Index or offset slot was already assigned"
  | slotUnassigned => "Index or offset slot has not been assigned yet"
  | poolSealed => "The class pool is sealed, no further classes can be interned"

end Error

end DexPools
