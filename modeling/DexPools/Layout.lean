import DexPools.Section
import DexPools.Session.Define

/-!
# Laying out a file

A writer gives every item its number: strings, types, prototypes, fields and methods their
position in the sorted table, type lists, annotations, annotation sets and the parts of classes
their offset in the file. A number is given once; giving a second one fails and ends the pass,
and what was given before stays.
-/

namespace DexPools

class Numbered (ε : Type) where
  number : Session → ε → Except Error UInt32
  withNumber : Session → ε → UInt32 → Except Error Session

instance : Numbered StringEntry where
  number s e := s.strings.slot e .index
  withNumber s e n := return { s with strings := ← s.strings.setSlot e .index n }

instance : Numbered TypeEntry where
  number s e := s.types.slot e .index
  withNumber s e n := return { s with types := ← s.types.setSlot e .index n }

instance : Numbered ProtoEntry where
  number s e := s.protos.slot e .index
  withNumber s e n := return { s with protos := ← s.protos.setSlot e .index n }

instance : Numbered FieldEntry where
  number s e := s.fields.slot e .index
  withNumber s e n := return { s with fields := ← s.fields.setSlot e .index n }

instance : Numbered MethodEntry where
  number s e := s.methods.slot e .index
  withNumber s e n := return { s with methods := ← s.methods.setSlot e .index n }

/-- The empty list is not written; its offset reads as zero. -/
instance : Numbered TypeListEntry where
  number s e := if e.isEmpty then .ok 0 else s.typeLists.slot e .offset
  withNumber s e n :=
    if e.isEmpty then .error (.badArgument .emptyTypeList)
    else return { s with typeLists := ← s.typeLists.setSlot e .offset n }

instance : Numbered AnnotationEntry where
  number s e := s.annotations.slot e .offset
  withNumber s e n := return { s with annotations := ← s.annotations.setSlot e .offset n }

/-- The empty set is not written; its offset reads as zero. -/
instance : Numbered AnnotationSetEntry where
  number s e := if e.isEmpty then .ok 0 else s.annotationSets.slot e .offset
  withNumber s e n :=
    if e.isEmpty then .error (.badArgument .emptyAnnotationSet)
    else return { s with annotationSets := ← s.annotationSets.setSlot e .offset n }

namespace Session

/-- Replaces the session, or fails and leaves it as it is. -/
def update (f : Session → Except Error Session) : Build Unit := do
  match f (← get) with
  | .ok s => set s
  | .error e => throw e

def numberOf {ε : Type} [Numbered ε] (e : ε) : Build UInt32 := do
  Numbered.number (← get) e

def setNumber {ε : Type} [Numbered ε] (e : ε) (n : UInt32) : Build Unit :=
  update fun s => Numbered.withNumber s e n

def classSlot (c : ClassEntry) (slot : ClassSlot) : Build UInt32 := do
  (← get).classes.slots.get c.row slot

/-- Writes a slot of a class, once. -/
def setClassSlot (c : ClassEntry) (slot : ClassSlot) (value : UInt32) : Build Unit :=
  update fun s =>
    return { s with classes := { s.classes with slots := ← s.classes.slots.set c.row slot value } }

def methodSlot (m : PooledMethod) (slot : MethodSlot) : Build UInt32 := do
  (← get).classes.methodSlots.get m.row slot

/-- Writes a slot of a method, once. -/
def setMethodSlot (m : PooledMethod) (slot : MethodSlot) (value : UInt32) : Build Unit :=
  update fun s => return {
    s with classes := {
      s.classes with methodSlots := ← s.classes.methodSlots.set m.row slot value } }

/-- Gives the entries of a list ascending numbers, each `step` above the one before. The result
is each entry with its number as it reads afterwards, and the number that would come next. -/
def assign {ε : Type} [Numbered ε] (step : UInt32) :
    UInt32 → List ε → Build (List (ε × UInt32) × UInt32)
  | next, [] => return ([], next)
  | next, e :: rest => do
      setNumber e next
      let n ← numberOf e
      let (numbered, last) ← assign step (next + step) rest
      return ((e, n) :: numbered, last)

end Session

structure MethodLayout where
  method : PooledMethod
  codeItem : Option UInt32
  parameterAnnotations : Option UInt32

structure ClassLayout where
  classDef : ClassEntry
  index : Option UInt32
  staticValues : Option UInt32
  annotationDirectory : Option UInt32
  classData : Option UInt32
  methods : List MethodLayout

/-- A finished layout: every written item with its number, and the first free offset. -/
structure Layout where
  strings : List (StringEntry × UInt32)
  types : List (TypeEntry × UInt32)
  protos : List (ProtoEntry × UInt32)
  fields : List (FieldEntry × UInt32)
  methods : List (MethodEntry × UInt32)
  typeLists : List (TypeListEntry × UInt32)
  annotations : List (AnnotationEntry × UInt32)
  annotationSets : List (AnnotationSetEntry × UInt32)
  classes : List ClassLayout
  finish : UInt32

/-- The annotations that a file holds, in the order of annotations. -/
def Session.orderedAnnotations (s : Session) : List AnnotationEntry :=
  Sorted.sort (fun a b => a.readBack.compare b.readBack) s.writtenAnnotations

/-- The annotation sets that a file holds, in the order of annotation sets. -/
def Session.orderedAnnotationSets (s : Session) : List AnnotationSetEntry :=
  Sorted.sort (fun a b => a.readBack.compare b.readBack) s.writtenAnnotationSets

namespace Session

/-- Gives a part of a class or method the next offset if the part is there. -/
def place (present : Bool) (size : UInt32) (put : UInt32 → Build Unit) (next : UInt32) :
    Build UInt32 := do
  if present then
    put next
    return next + size
  else
    return next

/-- Places the body and the parameter annotations of a method. -/
def placeMethod (m : PooledMethod) (next : UInt32) : Build UInt32 := do
  let next ← place m.body.isSome 16 (setMethodSlot m .codeItem) next
  place m.paramAnnotations?.isSome 8 (setMethodSlot m .parameterAnnotations) next

/-- Gives a class its index and places its parts and then those of its methods. -/
def placeClass (index : Nat) (c : ClassEntry) (next : UInt32) : Build UInt32 := do
  setClassSlot c .index (UInt32.ofNat index)
  let values ← c.staticValues?
  let next ← place values.isSome 8 (setClassSlot c .staticValues) next
  let next ← place c.hasAnnotations 16 (setClassSlot c .annotationDirectory) next
  let next ← place c.hasMembers 12 (setClassSlot c .classData) next
  c.methods.foldlM (fun next m => placeMethod m next) next

def placeClasses : Nat → List ClassEntry → UInt32 → Build UInt32
  | _, [], next => return next
  | index, c :: rest, next => do
      let next ← placeClass index c next
      placeClasses (index + 1) rest next

def classLayout (s : Session) (c : ClassEntry) : ClassLayout where
  classDef := c
  index := s.classes.slots.get? c.row .index
  staticValues := s.classes.slots.get? c.row .staticValues
  annotationDirectory := s.classes.slots.get? c.row .annotationDirectory
  classData := s.classes.slots.get? c.row .classData
  methods := c.methods.map fun m => {
    method := m
    codeItem := s.classes.methodSlots.get? m.row .codeItem
    parameterAnnotations := s.classes.methodSlots.get? m.row .parameterAnnotations
  }

/-- Lays out the whole file: first the sorted tables, from zero; then the data items, from
`start`; then the classes, which this seals. -/
def layout (start : UInt32) : Build Layout := do
  let (strings, _) ← assign 1 0 (← get).sortedStrings
  let (types, _) ← assign 1 0 (← get).sortedTypes
  let (protos, _) ← assign 1 0 (← get).sortedProtos
  let (fields, _) ← assign 1 0 (← get).sortedFields
  let (methods, _) ← assign 1 0 (← get).sortedMethods
  let (typeLists, next) ← assign 4 start (← get).writtenTypeLists
  let (annotations, next) ← assign 4 next (← get).orderedAnnotations
  let (annotationSets, next) ← assign 4 next (← get).orderedAnnotationSets
  let order ← sortedClasses
  let finish ← placeClasses 0 order next
  let classes := order.map (← get).classLayout
  return {
    strings, types, protos, fields, methods, typeLists, annotations, annotationSets, classes,
    finish
  }

end Session

end DexPools
