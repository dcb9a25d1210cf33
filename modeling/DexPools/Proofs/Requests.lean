import DexPools.Proofs.Classes

/-!
# Requests by text

All that a session can be asked to build is named by text. `Request` is the sum of these
operations and `Answer` that of what they give. A request follows a plan that its text, the
configuration and, for a class, whether it can be added tell.
-/

namespace DexPools

/-- What a session can be asked for. -/
inductive Request where
  | string (s : String)
  | type (descriptor : String)
  | typeList (descriptors : List String)
  | proto (p : ProtoRef)
  | field (f : FieldRef)
  | method (m : MethodRef)
  | reference (r : Reference)
  | value (v : TextValue)
  | annotation (a : Annotation)
  | annotationSet (s : AnnotationSet)
  | instruction (i : Instruction Reference)
  | tryBlock (t : TryBlock String)
  | debugItem (d : DebugItem String String)
  | body (b : TextBody)
  | fieldDef (f : FieldDef)
  | methodDef (m : MethodDef)
  | classDef (c : ClassDef)
deriving DecidableEq

inductive Answer where
  | string (e : StringEntry)
  | type (e : TypeEntry)
  | typeList (e : TypeListEntry)
  | proto (e : ProtoEntry)
  | field (e : FieldEntry)
  | method (e : MethodEntry)
  | reference (r : PooledReference)
  | value (v : PooledValue)
  | annotation (e : AnnotationEntry)
  | annotationSet (e : AnnotationSetEntry)
  | instruction (i : Instruction PooledReference)
  | tryBlock (t : TryBlock TypeEntry)
  | debugItem (d : DebugItem StringEntry TypeEntry)
  | body (b : PooledBody)
  | fieldDef (f : PooledField)
  | methodDef (m : PooledMethod)
  | classDef (c : ClassEntry)

def Answer.readBack : Answer → Request
  | string e => .string e.text
  | type e => .type e.text
  | typeList e => .typeList e.texts
  | proto e => .proto e.ref
  | field e => .field e.ref
  | method e => .method e.ref
  | reference r => .reference r.readBack
  | value v => .value (PooledValue.readBack v)
  | annotation e => Request.annotation e.readBack
  | annotationSet e => .annotationSet e.readBack
  | instruction i => .instruction (i.map PooledReference.readBack)
  | tryBlock t => .tryBlock (t.map TypeEntry.text)
  | debugItem d => .debugItem (d.map StringEntry.text TypeEntry.text)
  | body b => .body (PooledBody.readBack b)
  | fieldDef f => .fieldDef f.readBack
  | methodDef m => .methodDef m.readBack
  | classDef c => .classDef c.readBack

def Answer.fields : Answer → List PooledField
  | fieldDef f => [f]
  | _ => []

def Answer.methods : Answer → List PooledMethod
  | methodDef m => [m]
  | _ => []

def Session.ask : Request → Build Answer
  | .string s => return .string (← internString s)
  | .type d => return .type (← internType d)
  | .typeList ds => return .typeList (← internTypeList ds)
  | .proto p => return .proto (← internProto p)
  | .field f => return .field (← internField f)
  | .method m => return .method (← internMethod m)
  | .reference r => return .reference (← internReference r)
  | .value v => return .value (← internValue v)
  | Request.annotation a => return Answer.annotation (← internAnnotation a)
  | .annotationSet s => return .annotationSet (← internAnnotationSet s)
  | .instruction i => return .instruction (← resolveInstruction i)
  | .tryBlock t => return .tryBlock (← resolveTry t)
  | .debugItem d => return .debugItem (← resolveDebugItem d)
  | .body b => return .body (← internBody b)
  | .fieldDef f => return .fieldDef (← defineField f)
  | .methodDef m => return .methodDef (← defineMethod m)
  | .classDef c => return .classDef (← defineClass c)

namespace Request

def classType? : Request → Option String
  | classDef c => some c.type
  | _ => none

/-- The plan of a request, given whether the class that it may ask for can be added. -/
def plan (config : Config) (available : Except Error Unit) : Request → Plan Unit
  | string s => Plan.string s
  | type d => Plan.type d
  | typeList ds => Plan.typeList ds
  | proto p => Plan.proto p
  | field f => Plan.field f
  | method m => Plan.method m
  | reference r => Plan.reference r
  | value v => Plan.value v
  | annotation a => Plan.annotation a
  | annotationSet s => Plan.annotationSet s
  | instruction i => Plan.instruction i
  | tryBlock t => Plan.tryBlock t
  | debugItem d => Plan.debugItem d
  | body b => Plan.body config.apiLevel b
  | fieldDef f => Plan.fieldDef f
  | methodDef m => Plan.methodDef config.apiLevel m
  | classDef c => Plan.classDef config available c

/-- What the answer reads back to: the request, and for a class its one form without the members
that are skipped. -/
def answered (config : Config) : Request → Request
  | classDef c => classDef (Plan.classBuilt config c)
  | r => r

end Request

namespace Session

variable {s : Session}

/-- Whether a request can be met as far as the classes are concerned. -/
def availableFor (s : Session) (r : Request) : Except Error Unit :=
  match r.classType? with
  | some d => s.available d
  | none => .ok ()

/-- An answer reads back to a request, and the members that it hands out are the session's. -/
def Answers (s : Session) (a : Answer) (r : Request) : Prop :=
  a.readBack = r ∧ (∀ f ∈ a.fields, s.Reads f f.readBack) ∧ ∀ m ∈ a.methods, s.Reads m m.readBack

/-- Every request follows its plan. -/
theorem follows_ask (r : Request) :
    s.Follows (ask r) (r.plan s.config (s.availableFor r)) fun t a =>
      t.Answers a (r.answered s.config) := by
  have hnone : ∀ {t : Session} {a : Answer} {r : Request}, a.readBack = r → a.fields = [] →
      a.methods = [] → t.Answers a r := by
    intro t a r h hf hm
    refine ⟨h, ?_, ?_⟩
    · rw [hf]
      exact nofun
    · rw [hm]
      exact nofun
  cases r with
  | string x =>
      exact Follows.map (builds_internString x) fun _ _ _ h =>
        hnone (congrArg Request.string h.text) rfl rfl
  | type d =>
      exact Follows.map (builds_internType d) fun _ _ _ h =>
        hnone (congrArg Request.type h.text) rfl rfl
  | typeList ds =>
      exact Follows.map (builds_internTypeList ds) fun _ _ _ h =>
        hnone (congrArg Request.typeList h.text) rfl rfl
  | proto p =>
      exact Follows.map (builds_internProto p) fun _ _ _ h =>
        hnone (congrArg Request.proto h.text) rfl rfl
  | field f =>
      exact Follows.map (builds_internField f) fun _ _ _ h =>
        hnone (congrArg Request.field h.text) rfl rfl
  | method m =>
      exact Follows.map (builds_internMethod m) fun _ _ _ h =>
        hnone (congrArg Request.method h.text) rfl rfl
  | reference r =>
      exact Follows.map (builds_internReference r) fun _ _ _ h =>
        hnone (congrArg Request.reference h.text) rfl rfl
  | value v =>
      exact Follows.map (builds_internValue v) fun _ _ _ h =>
        hnone (congrArg Request.value h.text) rfl rfl
  | annotation x =>
      exact Follows.map (Session.builds_internAnnotation x) fun _ _ _ h =>
        hnone (congrArg Request.annotation h.text) rfl rfl
  | annotationSet x =>
      exact Follows.map (builds_internAnnotationSet x) fun _ _ _ h =>
        hnone (congrArg Request.annotationSet h.text) rfl rfl
  | instruction i =>
      exact Follows.map (builds_resolveInstruction i) fun _ _ _ h =>
        hnone (congrArg Request.instruction h.text) rfl rfl
  | tryBlock x =>
      exact Follows.map (builds_resolveTry x) fun _ _ _ h =>
        hnone (congrArg Request.tryBlock h.text) rfl rfl
  | debugItem d =>
      exact Follows.map (builds_resolveDebugItem d) fun _ _ _ h =>
        hnone (congrArg Request.debugItem h.text) rfl rfl
  | body b =>
      exact Follows.map (builds_internBody b) fun _ _ _ h =>
        hnone (congrArg Request.body h.text) rfl rfl
  | classDef c =>
      exact Follows.map (builds_defineClass c) fun _ _ _ h =>
        hnone (congrArg Request.classDef h.text.1) rfl rfl
  | fieldDef f =>
      refine Follows.map (builds_defineField f) fun a t _ h => ⟨congrArg _ h.text, ?_, nofun⟩
      intro f' hf'
      rw [List.mem_singleton.mp hf']
      exact ⟨rfl, h.holdsAll⟩
  | methodDef m =>
      refine Follows.map (builds_defineMethod m) fun a t _ h => ⟨congrArg _ h.text.1, nofun, ?_⟩
      intro m' hm'
      rw [List.mem_singleton.mp hm']
      exact ⟨⟨rfl, h.text.2.trans (congrArg MethodDef.ref h.text.1.symm)⟩, h.holdsAll⟩

end Session

end DexPools
