import DexPools.Descriptor
import DexPools.Instruction.Validity
import DexPools.Session

/-!
# Putting items into the pools

Each operation gives the one entry of an item. An item that is in its pool already is found by
its text and nothing is checked again; any other item is checked, the items that it refers to are
put into their pools, and then it gets an entry of its own. What was added for an item that turns
out to be wrong stays.
-/

namespace DexPools.Session

def internString (s : String) : Build StringEntry := do
  match (← get).strings.find? s with
  | some entry => return entry
  | none =>
      modifyGet fun st =>
        let (entry, pool) := st.strings.insert s (⟨·, s⟩)
        (entry, { st with strings := pool })

def internString? : Option String → Build (Option StringEntry) :=
  traverseOption internString

/-- The entry of a type, which may be `V`. -/
def internType (d : String) : Build TypeEntry := do
  match (← get).types.find? d with
  | some entry => return entry
  | none =>
      Descriptor.check true d
      let descriptor ← internString d
      modifyGet fun st =>
        let (entry, pool) := st.types.insert d (⟨·, descriptor⟩)
        (entry, { st with types := pool })

def internType? : Option String → Build (Option TypeEntry) :=
  traverseOption internType

/-- The entry of a list of types. The empty list has an entry too. -/
def internTypeList (ds : List String) : Build TypeListEntry := do
  match (← get).typeLists.find? ds with
  | some entry => return entry
  | none =>
      let types ← ds.mapM internType
      modifyGet fun st =>
        let (entry, pool) := st.typeLists.insert ds (⟨·, types⟩)
        (entry, { st with typeLists := pool })

/-- The entry of a prototype. No parameter may be `V`. -/
def internProto (p : ProtoRef) : Build ProtoEntry := do
  match (← get).protos.find? p with
  | some entry => return entry
  | none =>
      p.params.forM fun d => Descriptor.check false d
      let shorty ← internString (← Descriptor.shorty p)
      let params ← internTypeList p.params
      let returnType ← internType p.returnType
      modifyGet fun st =>
        let (entry, pool) := st.protos.insert p (⟨·, shorty, params, returnType⟩)
        (entry, { st with protos := pool })

/-- The entry of a field reference, which needs a name and a type other than `V`. -/
def internField (f : FieldRef) : Build FieldEntry := do
  match (← get).fields.find? f with
  | some entry => return entry
  | none =>
      if f.name.isEmpty then throw (.badArgument (.unnamedMember (.field f)))
      Descriptor.check false f.type
      let definingClass ← internType f.definingClass
      let name ← internString f.name
      let type ← internType f.type
      modifyGet fun st =>
        let (entry, pool) := st.fields.insert f (⟨·, definingClass, name, type⟩)
        (entry, { st with fields := pool })

/-- The entry of a method reference, which needs a name. -/
def internMethod (m : MethodRef) : Build MethodEntry := do
  match (← get).methods.find? m with
  | some entry => return entry
  | none =>
      if m.name.isEmpty then throw (.badArgument (.unnamedMember (.method m)))
      let definingClass ← internType m.definingClass
      let name ← internString m.name
      let proto ← internProto m.proto
      modifyGet fun st =>
        let (entry, pool) := st.methods.insert m (⟨·, definingClass, name, proto⟩)
        (entry, { st with methods := pool })

/-- The entry of what an operand names. Method handles and call sites have no pool. -/
def internReference : Reference → Build PooledReference
  | .string s => return .string (← internString s)
  | .type t => return .type (← internType t)
  | .field f => return .field (← internField f)
  | .method m => return .method (← internMethod m)
  | .methodProto p => return .methodProto (← internProto p)
  | r => throw (.unsupportedReference r.kind.name)

mutual

/-- Puts every leaf of a value into its pool, from left to right. -/
def internValue : TextValue → Build PooledValue
  | .byte v => return .byte v
  | .short v => return .short v
  | .char v => return .char v
  | .int v => return .int v
  | .long v => return .long v
  | .float bits => return .float bits
  | .double bits => return .double bits
  | .string s => return .string (← internString s)
  | .type t => return .type (← internType t)
  | .field f => return .field (← internField f)
  | .method m => return .method (← internMethod m)
  | .enum f => return .enum (← internField f)
  | .array items => return .array (← internItems items)
  | .annotationItem type elements =>
      return .annotationItem (← internType type) (← internElements elements)
  | .null => return .null
  | .boolean b => return .boolean b

def internItems : List TextValue → Build (List PooledValue)
  | [] => return []
  | v :: rest => return (← internValue v) :: (← internItems rest)

/-- Puts the elements of an annotation into the pools, each name before its value. -/
def internElements : List TextElement → Build (List (Named StringEntry PooledValue))
  | [] => return []
  | ⟨name, v⟩ :: rest =>
      return ⟨← internString name, ← internValue v⟩ :: (← internElements rest)

end

def internAnnotation (a : Annotation) : Build AnnotationEntry := do
  match (← get).annotations.find? a with
  | some entry => return entry
  | none =>
      let type ← internType a.type
      let elements ← internElements a.elements
      modifyGet fun st =>
        let (entry, pool) := st.annotations.insert a (⟨·, a.visibility, type, elements⟩)
        (entry, { st with annotations := pool })

/-- The entry of an annotation set, in which no type may occur twice. The empty set has an entry
too. -/
def internAnnotationSet (set : AnnotationSet) : Build AnnotationSetEntry := do
  match (← get).annotationSets.find? set with
  | some entry => return entry
  | none =>
      if let some a := Sorted.firstRepeat Annotation.type set.items then
        throw (.badArgument (.repeatedAnnotationType a.type))
      let annotations ← set.items.mapM internAnnotation
      modifyGet fun st =>
        let (entry, pool) := st.annotationSets.insert set (⟨·, annotations⟩)
        (entry, { st with annotationSets := pool })

def resolveInstruction (i : Instruction Reference) : Build (Instruction PooledReference) :=
  i.traverse internReference

/-- Puts the references of an instruction of a session into the pools by their text. -/
def resolveAgain (i : Instruction PooledReference) : Build (Instruction PooledReference) :=
  i.traverse fun ref => internReference ref.readBack

def resolveTry (t : TryBlock String) : Build (TryBlock TypeEntry) :=
  t.traverse internType

def resolveDebugItem (d : DebugItem String String) : Build (DebugItem StringEntry TypeEntry) :=
  d.traverse internString internType

/-- Puts the texts and types of a debug item of a session into the pools by their text. -/
def resolveDebugItemAgain (d : DebugItem StringEntry TypeEntry) :
    Build (DebugItem StringEntry TypeEntry) :=
  d.traverse (fun s => internString s.text) fun t => internType t.text

/-- Accepts an instruction that can be encoded and that the platform level supports. -/
def checkInstruction (apiLevel : UInt32) (i : Instruction Reference) : Except Error Unit := do
  i.validate
  if apiLevel < i.opcode.minApi then throw (.badArgument (.apiTooLow i.opcode apiLevel))

/-- Checks all instructions of a body and then puts its references into the pools. -/
def internBody (b : TextBody) : Build PooledBody := do
  let config := (← get).config
  b.instructions.forM fun i => checkInstruction config.apiLevel i
  let instructions ← b.instructions.mapM resolveInstruction
  let tries ← b.tries.mapM resolveTry
  let debugItems ← b.debugItems.mapM resolveDebugItem
  return ⟨b.registers, instructions, tries, debugItems⟩

end DexPools.Session
