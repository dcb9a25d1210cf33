/-!
# Access flags

A set of flags is a 32-bit word. Unknown bits are kept as they are, so a word read from a
definition is written back unchanged.
-/

namespace DexPools

structure AccessFlags where
  bits : UInt32
deriving DecidableEq, Repr, Inhabited

namespace AccessFlags

def isPublic : AccessFlags := ⟨0x1⟩
def isPrivate : AccessFlags := ⟨0x2⟩
def isProtected : AccessFlags := ⟨0x4⟩
def static : AccessFlags := ⟨0x8⟩
def final : AccessFlags := ⟨0x10⟩
def synchronized : AccessFlags := ⟨0x20⟩
/-- On fields; the same bit marks a bridge method. -/
def volatile : AccessFlags := ⟨0x40⟩
def bridge : AccessFlags := ⟨0x40⟩
/-- On fields; the same bit marks a method with a variable number of arguments. -/
def transient : AccessFlags := ⟨0x80⟩
def varargs : AccessFlags := ⟨0x80⟩
def native : AccessFlags := ⟨0x100⟩
def interface : AccessFlags := ⟨0x200⟩
def abstract : AccessFlags := ⟨0x400⟩
def strict : AccessFlags := ⟨0x800⟩
def synthetic : AccessFlags := ⟨0x1000⟩
def annotationType : AccessFlags := ⟨0x2000⟩
def enum : AccessFlags := ⟨0x4000⟩
def constructor : AccessFlags := ⟨0x10000⟩
def declaredSynchronized : AccessFlags := ⟨0x20000⟩

/-- The named flags in ascending order of their bits, followed by the empty set. -/
def named : List (String × AccessFlags) :=
  [("PUBLIC", isPublic), ("PRIVATE", isPrivate), ("PROTECTED", isProtected), ("STATIC", static),
   ("FINAL", final), ("SYNCHRONIZED", synchronized), ("VOLATILE", volatile), ("BRIDGE", bridge),
   ("TRANSIENT", transient), ("VARARGS", varargs), ("NATIVE", native), ("INTERFACE", interface),
   ("ABSTRACT", abstract), ("STRICT", strict), ("SYNTHETIC", synthetic),
   ("ANNOTATION", annotationType), ("ENUM", enum), ("CONSTRUCTOR", constructor),
   ("DECLARED_SYNCHRONIZED", declaredSynchronized), ("NONE", ⟨0⟩)]

def union (a b : AccessFlags) : AccessFlags :=
  ⟨a.bits ||| b.bits⟩

def intersects (a b : AccessFlags) : Bool :=
  a.bits &&& b.bits != 0

def contains (a b : AccessFlags) : Bool :=
  a.bits &&& b.bits == b.bits

def known (a : AccessFlags) : AccessFlags :=
  ⟨a.bits &&& (named.map (·.2.bits)).foldl (· ||| ·) 0⟩

/-- The names of the flags that are set; the empty set is contained in every word. -/
def names (a : AccessFlags) : List String :=
  (named.filter (fun flag => a.contains flag.2)).map Prod.fst

/-- Field flags that put a field among the static ones. -/
def isStatic (a : AccessFlags) : Bool :=
  a.intersects static

/-- Method flags that put a method among the direct ones: static, private or a constructor. -/
def isDirect (a : AccessFlags) : Bool :=
  a.intersects (static.union (isPrivate.union constructor))

/-- Method flags that rule out a body. -/
def forbidsBody (a : AccessFlags) : Bool :=
  a.intersects (abstract.union native)

end AccessFlags

end DexPools
