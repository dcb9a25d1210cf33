import DexPools.Error

/-!
# Constant values

A value is a tree: numbers, texts and references at its leaves, arrays and annotations at its
nodes. The type is generic in what stands at the leaves, because the same trees occur in two
forms: in a definition with plain text and names, and in a session with entries of the pools.
What does not look at the leaves, such as the kind of a value and whether it is the default, is
said once for both.

Floating-point numbers are their bits, so that every NaN is kept and `-0.0` is not `0.0`.
-/

namespace DexPools

structure Named (σ α : Type) where
  name : σ
  value : α
deriving DecidableEq, Repr

/-- A constant, with leaves of type `σ` for text, `τ` for types, `φ` for fields and `μ` for
methods. -/
inductive Value (σ τ φ μ : Type) where
  | byte (v : Int8)
  | short (v : Int16)
  | char (v : UInt16)
  | int (v : Int32)
  | long (v : Int64)
  | float (bits : UInt32)
  | double (bits : UInt64)
  | string (s : σ)
  | type (t : τ)
  | field (f : φ)
  | method (m : μ)
  | enum (f : φ)
  | array (items : List (Value σ τ φ μ))
  | annotationItem (type : τ) (elements : List (Named σ (Value σ τ φ μ)))
  | null
  | boolean (b : Bool)

/-- The kinds of values in the order of their tags. -/
inductive ValueKind where
  | byte
  | short
  | char
  | int
  | long
  | float
  | double
  | string
  | type
  | field
  | method
  | enum
  | array
  | annotationItem
  | null
  | boolean
deriving DecidableEq, Repr, Inhabited

namespace ValueKind

def all : List ValueKind :=
  [.byte, .short, .char, .int, .long, .float, .double, .string, .type, .field, .method, .enum,
   .array, .annotationItem, .null, .boolean]

/-- The tag that stands in front of an encoded value. -/
def tag : ValueKind → Nat
  | .byte => 0x00
  | .short => 0x02
  | .char => 0x03
  | .int => 0x04
  | .long => 0x06
  | .float => 0x10
  | .double => 0x11
  | .string => 0x17
  | .type => 0x18
  | .field => 0x19
  | .method => 0x1a
  | .enum => 0x1b
  | .array => 0x1c
  | .annotationItem => 0x1d
  | .null => 0x1e
  | .boolean => 0x1f

def name : ValueKind → String
  | .byte => "Byte"
  | .short => "Short"
  | .char => "Char"
  | .int => "Int"
  | .long => "Long"
  | .float => "Float"
  | .double => "Double"
  | .string => "String"
  | .type => "Type"
  | .field => "Field"
  | .method => "Method"
  | .enum => "Enum"
  | .array => "Array"
  | .annotationItem => "Annotation"
  | .null => "Null"
  | .boolean => "Boolean"

def ofName? (s : String) : Option ValueKind :=
  all.find? (·.name == s)

def compare (a b : ValueKind) : Ordering :=
  Ord.compare a.tag b.tag

end ValueKind

namespace Value

variable {σ τ φ μ : Type}

def kind : Value σ τ φ μ → ValueKind
  | byte _ => .byte
  | short _ => .short
  | char _ => .char
  | int _ => .int
  | long _ => .long
  | float _ => .float
  | double _ => .double
  | string _ => .string
  | type _ => .type
  | field _ => .field
  | method _ => .method
  | enum _ => .enum
  | array _ => .array
  | annotationItem .. => .annotationItem
  | null => .null
  | boolean _ => .boolean

/-- Whether a field that holds the value needs no initial value: zero of any numeric kind with
all bits clear, `false` or `null`. -/
def isDefault : Value σ τ φ μ → Bool
  | byte v => v == 0
  | short v => v == 0
  | char v => v == 0
  | int v => v == 0
  | long v => v == 0
  | float bits => bits == 0
  | double bits => bits == 0
  | null => true
  | boolean b => !b
  | _ => false

/-- What a field of a type holds before it is set, which the first letter of the type decides. -/
def defaultOf? : List Char → Option (Value σ τ φ μ)
  | 'Z' :: _ => some (boolean false)
  | 'B' :: _ => some (byte 0)
  | 'S' :: _ => some (short 0)
  | 'C' :: _ => some (char 0)
  | 'I' :: _ => some (int 0)
  | 'J' :: _ => some (long 0)
  | 'F' :: _ => some (float 0)
  | 'D' :: _ => some (double 0)
  | 'L' :: _ => some null
  | '[' :: _ => some null
  | _ => none

/-- The default value of a field type. -/
def defaultFor (descriptor : String) : Except Error (Value σ τ φ μ) :=
  match defaultOf? descriptor.toList with
  | some v => .ok v
  | none => .error (.badArgument (.noDefault descriptor))

section Map

variable {σ' τ' φ' μ' : Type} (onString : σ → σ') (onType : τ → τ') (onField : φ → φ')
  (onMethod : μ → μ')

mutual

/-- Replaces every leaf that is not a number. -/
def map : Value σ τ φ μ → Value σ' τ' φ' μ'
  | byte v => byte v
  | short v => short v
  | char v => char v
  | int v => int v
  | long v => long v
  | float bits => float bits
  | double bits => double bits
  | string s => string (onString s)
  | type t => type (onType t)
  | field f => field (onField f)
  | method m => method (onMethod m)
  | enum f => enum (onField f)
  | array items => array (mapItems items)
  | annotationItem t elements => annotationItem (onType t) (mapElements elements)
  | null => null
  | boolean b => boolean b

def mapItems : List (Value σ τ φ μ) → List (Value σ' τ' φ' μ')
  | [] => []
  | v :: rest => map v :: mapItems rest

def mapElements : List (Named σ (Value σ τ φ μ)) → List (Named σ' (Value σ' τ' φ' μ'))
  | [] => []
  | ⟨name, v⟩ :: rest => ⟨onString name, map v⟩ :: mapElements rest

end

end Map

end Value

end DexPools
