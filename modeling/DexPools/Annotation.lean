import DexPools.Sorted
import DexPools.Value.Order

/-!
# Annotations

An annotation has a type, a visibility and elements whose names differ; the elements stand in
the order of their names. An annotation set holds annotations in order without repetition. Both
are built from lists in any order, and the build is what puts them into their one form.
-/

namespace DexPools

open Text

/-- When an annotation can be seen, in the order of the codes. -/
inductive Visibility where
  | build
  | runtime
  | system
deriving DecidableEq, Repr, Inhabited

namespace Visibility

def all : List Visibility :=
  [.build, .runtime, .system]

def name : Visibility → String
  | build => "build"
  | runtime => "runtime"
  | system => "system"

def code : Visibility → UInt8
  | build => 0
  | runtime => 1
  | system => 2

def ofCode (code : UInt8) : Except Error Visibility :=
  match all.find? (·.code == code) with
  | some v => .ok v
  | none => .error (.badArgument (.badVisibility code))

def compare (a b : Visibility) : Ordering :=
  Ord.compare a.code.toNat b.code.toNat

end Visibility

/-- Puts elements into the order of their names; two elements of one name are refused, and the
message names the second. -/
def collectElements (type : String) (elements : List TextElement) :
    Except Error (List TextElement) :=
  match Sorted.firstRepeat (·.name) elements with
  | some element => .error (.badArgument (.repeatedElement type element.name))
  | none => .ok (Sorted.sortedSet compareElement elements)

/-- An annotation without visibility, as it occurs inside a value. -/
structure EncodedAnnotation where
  type : String
  elements : List TextElement
deriving DecidableEq

namespace EncodedAnnotation

/-- The annotation with the given elements in order, unless two of them share a name. -/
def ofElements (type : String) (elements : List TextElement) : Except Error EncodedAnnotation :=
  return ⟨type, ← collectElements type elements⟩

def compare (a b : EncodedAnnotation) : Ordering :=
  (compareUnits a.type b.type).then (Value.compareElements a.elements b.elements)

def toValue (a : EncodedAnnotation) : TextValue :=
  .annotationItem a.type a.elements

end EncodedAnnotation

/-- An annotation of a class, a member or a parameter. -/
structure Annotation where
  visibility : Visibility
  type : String
  elements : List TextElement
deriving DecidableEq

namespace Annotation

/-- The annotation with the given elements in order, unless two of them share a name. -/
def ofElements (visibility : Visibility) (type : String) (elements : List TextElement) :
    Except Error Annotation :=
  return ⟨visibility, type, ← collectElements type elements⟩

def compare (a b : Annotation) : Ordering :=
  (compareUnits a.type b.type).then <|
    (a.visibility.compare b.visibility).then <|
      Value.compareElements a.elements b.elements

end Annotation

/-- A set of annotations, kept as a list that ascends in the order of annotations. -/
structure AnnotationSet where
  items : List Annotation
deriving DecidableEq

namespace AnnotationSet

def ofList (items : List Annotation) : AnnotationSet :=
  ⟨Sorted.sortedSet Annotation.compare items⟩

def empty : AnnotationSet :=
  ⟨[]⟩

def isEmpty (s : AnnotationSet) : Bool :=
  s.items.isEmpty

def compare (a b : AnnotationSet) : Ordering :=
  List.compareLex Annotation.compare a.items b.items

end AnnotationSet

end DexPools
