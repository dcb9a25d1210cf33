import DexPools.Session.Intern

/-!
# Building members and classes

A class is built in two steps: its members are put into the pools one by one, and the class is
put together from the members that came through. A strict session gives up at the first field
that fails, after it tried all fields, and else at the first method. A lenient session notes what
failed and goes on without it. What concerns the class itself is never skipped.
-/

namespace DexPools

namespace Session

def defineField (f : FieldDef) : Build PooledField := do
  let ref ← internField f.ref
  let initialValue ← traverseOption internValue f.initialValue
  let annotations ← internAnnotationSet f.annotations
  return ⟨ref, f.flags, initialValue, annotations⟩

def defineParameter (p : Parameter) : Build PooledParameter := do
  let type ← internType p.type
  let name ← internString? p.name
  let annotations ← internAnnotationSet p.annotations
  return ⟨type, name, annotations⟩

def allocateMethodRow : Build Nat :=
  modifyGet fun st =>
    let (row, slots) := st.classes.methodSlots.allocate
    (row, { st with classes := { st.classes with methodSlots := slots } })

/-- Puts the definition of a method into the pools. Abstract and native methods have no body. -/
def defineMethod (m : MethodDef) : Build PooledMethod := do
  let ref ← internMethod m.ref
  if m.body.isSome && m.flags.forbidsBody then
    throw (.badArgument (.bodyNotAllowed ref.ref))
  let params ← m.params.mapM defineParameter
  let annotations ← internAnnotationSet m.annotations
  let body ← traverseOption internBody m.body
  let row ← allocateMethodRow
  return ⟨row, ref, params, m.flags, annotations, body⟩

/-- Accepts fields that the class declares, each name and type once. The first field at fault is
reported. -/
def checkFields (type : TypeEntry) : List (String × String) → List PooledField → Except Error Unit
  | _, [] => .ok ()
  | seen, f :: rest =>
      let key := (f.ref.name.text, f.ref.type.text)
      if !sameEntry f.ref.definingClass type then
        .error (.badArgument (.foreignMember (.field f.ref.ref) type.text))
      else if key ∈ seen then .error (.duplicate (.member (.field f.ref.ref)))
      else checkFields type (key :: seen) rest

/-- Accepts methods that the class declares, each reference once. The first method at fault is
reported. -/
def checkMethods (type : TypeEntry) : List Nat → List PooledMethod → Except Error Unit
  | _, [] => .ok ()
  | seen, m :: rest =>
      if !sameEntry m.ref.definingClass type then
        .error (.badArgument (.foreignMember (.method m.ref.ref) type.text))
      else if m.ref.row ∈ seen then .error (.duplicate (.member (.method m.ref.ref)))
      else checkMethods type (m.ref.row :: seen) rest

/-- Adds a class to the pool of classes, with a new row of the class slots. -/
def addClass (make : Nat → ClassEntry) : Build ClassEntry :=
  modifyGet fun st =>
    let (row, slots) := st.classes.slots.allocate
    let entry := make row
    (entry, { st with classes := { st.classes with items := entry :: st.classes.items, slots } })

/-- Builds a class from members of the session, in any order, and adds it. -/
def defineClassFrom (header : ClassHeader) (fields : List PooledField)
    (methods : List PooledMethod) : Build ClassEntry := do
  unless Descriptor.looksLikeClass header.type do
    throw (.badArgument (.notClassType header.type))
  let type ← internType header.type
  (← get).classes.checkAvailable type
  checkFields type [] fields
  checkMethods type [] methods
  let (statics, instances) := fields.partition PooledField.isStatic
  let (directs, virtuals) := methods.partition PooledMethod.isDirect
  let superclass ← internType? header.superclass
  let interfaces ← internTypeList (ClassDef.dedupInterfaces header.interfaces)
  let sourceFile ← internString? header.sourceFile
  let annotations ← internAnnotationSet header.annotations
  addClass fun row => {
    row, type, superclass, interfaces, sourceFile, annotations
    flags := header.flags
    staticFields := Sorted.sort PooledField.compare statics
    instanceFields := Sorted.sort PooledField.compare instances
    directMethods := Sorted.sort PooledMethod.compare directs
    virtualMethods := Sorted.sort PooledMethod.compare virtuals
  }

/-- Runs an operation and gives its outcome as a value. -/
def attempt {α : Type} (op : Build α) : Build (Except Error α) :=
  ExceptT.lift op.run

def note (d : Diagnostic) : Build Unit :=
  modify fun st => { st with diagnostics := st.diagnostics.push d }

/-- What a lenient session notes of a member that it skips. -/
def skipNote (type : String) (category : Category) (member : MemberRef) (error : Error) :
    Diagnostic :=
  ⟨.warning, category, s!"Skipped {member.display}: {error.text}", some type⟩

/-- Keeps the members that came through. The first failure is that of the whole list in a strict
session; in a lenient one each failure is noted and left out. -/
def collectMembers {α : Type} (type : String) (category : Category) :
    List (MemberRef × Except Error α) → Build (List α)
  | [] => return []
  | (_, .ok a) :: rest => return a :: (← collectMembers type category rest)
  | (member, .error e) :: rest => do
      if (← get).config.lenient then
        note (skipNote type category member e)
        collectMembers type category rest
      else
        throw e

/-- Puts a class with all its members into the pools and adds it. -/
def defineClass (c : ClassDef) : Build ClassEntry := do
  let type ← internType c.type
  (← get).classes.checkAvailable type
  let tried ← c.fields.mapM fun f => return (MemberRef.field f.ref, ← attempt (defineField f))
  let fields ← collectMembers c.type .field tried
  let tried ← c.methods.mapM fun m => return (MemberRef.method m.ref, ← attempt (defineMethod m))
  let methods ← collectMembers c.type .method tried
  defineClassFrom c.toClassHeader fields methods

/-- Builds several classes one after the other, up to the first that fails. -/
def defineClasses (cs : List ClassDef) : Build (List ClassEntry) :=
  cs.mapM defineClass

/-- The classes in order. The first time that they are asked for seals them. -/
def sortedClasses : Build (List ClassEntry) :=
  modifyGet fun st =>
    let (order, pool) := st.classes.sorted
    (order, { st with classes := pool })

end Session

end DexPools
