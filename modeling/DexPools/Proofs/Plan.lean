import DexPools.Proofs.Reading

/-!
# What an operation does, told by its input alone

An operation of a session looks things up before it checks and adds them, so on the face of it
what it does depends on all that was done before. It does not, and the plan of an operation says
what it does instead: the steps that the operation would take if it found nothing, in order, up
to the first failure. A plan never looks at a session.

A step of a plan puts a key into its pool, gives a method a row, notes a diagnostic or adds a
class. Steps have levels. Putting a key in takes only steps of lower levels before it, so no key
is among the parts of its own item, and what is put into the pools has no other effect.
-/

namespace DexPools

/-- One effect of an operation on a session. -/
inductive Event where
  /-- A key is put into its pool, unless it is there. -/
  | put (k : Key)
  /-- A method is given a row of the method slots. -/
  | methodRow
  | note (d : Diagnostic)
  /-- A class that reads back to the definition is added. -/
  | classDef (c : ClassDef)
deriving DecidableEq

/-- How far up a key stands: above the keys of everything that its item is made of. -/
def Key.level : Key → Nat
  | string _ => 0
  | type _ => 1
  | typeList _ => 2
  | proto _ => 3
  | field _ => 4
  | method _ => 5
  | annotation _ => 6
  | annotationSet _ => 7

/-- The level of a step. What is more than putting a key in stands above all keys, and adding a
class above all else. -/
def Event.level : Event → Nat
  | .put k => k.level
  | .methodRow | .note _ => 8
  | .classDef _ => 9

structure Plan (α : Type) where
  outcome : Except Error α
  log : List Event

namespace Plan

instance : Monad Plan where
  pure a := ⟨.ok a, []⟩
  bind p f :=
    match p.outcome with
    | .ok a => ⟨(f a).outcome, p.log ++ (f a).log⟩
    | .error e => ⟨.error e, p.log⟩

variable {α β : Type}

def check (x : Except Error α) : Plan α :=
  ⟨x, []⟩

def fail (e : Error) : Plan α :=
  ⟨.error e, []⟩

def step (e : Event) : Plan Unit :=
  ⟨.ok (), [e]⟩

/-- The same steps without the failure, which goes into the outcome. -/
def attempted (p : Plan α) : Plan Unit :=
  ⟨.ok (), p.log⟩

def succeeds (p : Plan α) : Bool :=
  p.outcome.isOk

theorem bind_of_ok {p : Plan α} {f : α → Plan β} {a : α} (h : p.outcome = .ok a) :
    p >>= f = ⟨(f a).outcome, p.log ++ (f a).log⟩ := by
  show (match p.outcome with | .ok a => _ | .error e => _ : Plan β) = _
  rw [h]

theorem bind_of_error {p : Plan α} {f : α → Plan β} {e : Error} (h : p.outcome = .error e) :
    p >>= f = ⟨.error e, p.log⟩ := by
  show (match p.outcome with | .ok a => _ | .error e => _ : Plan β) = _
  rw [h]

/-- What a plan does comes from its first part, or from the rest after the first succeeded. -/
theorem mem_log_bind {p : Plan α} {f : α → Plan β} {e : Event} (h : e ∈ (p >>= f).log) :
    e ∈ p.log ∨ ∃ a, p.outcome = .ok a ∧ e ∈ (f a).log := by
  cases hp : p.outcome with
  | ok a =>
      rw [bind_of_ok hp] at h
      exact (List.mem_append.mp h).imp id fun h => ⟨a, rfl, h⟩
  | error e =>
      rw [bind_of_error hp] at h
      exact .inl h

theorem outcome_bind_eq_ok_iff {p : Plan α} {f : α → Plan β} {b : β} :
    (p >>= f).outcome = .ok b ↔ ∃ a, p.outcome = .ok a ∧ (f a).outcome = .ok b := by
  cases h : p.outcome with
  | ok a => simp [bind_of_ok h]
  | error e => simp [bind_of_error h]

theorem succeeds_iff {p : Plan Unit} : p.succeeds = true ↔ p.outcome = .ok () := by
  unfold succeeds
  cases p.outcome <;> simp [Except.isOk, Except.toBool]

def adding (k : Key) (parts : Plan Unit) : Plan Unit := do
  parts
  step (.put k)

theorem adding_of_ok {k : Key} {parts : Plan Unit} (h : parts.outcome = .ok ()) :
    adding k parts = ⟨.ok (), parts.log ++ [.put k]⟩ :=
  bind_of_ok h

theorem adding_of_error {k : Key} {parts : Plan Unit} {e : Error}
    (h : parts.outcome = .error e) : adding k parts = ⟨.error e, parts.log⟩ :=
  bind_of_error h

/-! ## Plans of what is put into the pools

The parts of a key are the checks of its item and what the item is made of. -/

def string (s : String) : Plan Unit :=
  adding (.string s) (pure ())

def typeParts (d : String) : Plan Unit := do
  check (Descriptor.check true d)
  string d

def type (d : String) : Plan Unit :=
  adding (.type d) (typeParts d)

def typeListParts (ds : List String) : Plan Unit :=
  ds.forM type

def typeList (ds : List String) : Plan Unit :=
  adding (.typeList ds) (typeListParts ds)

def protoParts (p : ProtoRef) : Plan Unit := do
  p.params.forM fun d => check (Descriptor.check false d)
  string (← check (Descriptor.shorty p))
  typeList p.params
  type p.returnType

def proto (p : ProtoRef) : Plan Unit :=
  adding (.proto p) (protoParts p)

def fieldParts (f : FieldRef) : Plan Unit := do
  if f.name.isEmpty then fail (.badArgument (.unnamedMember (.field f)))
  check (Descriptor.check false f.type)
  type f.definingClass
  string f.name
  type f.type

def field (f : FieldRef) : Plan Unit :=
  adding (.field f) (fieldParts f)

def methodParts (m : MethodRef) : Plan Unit := do
  if m.name.isEmpty then fail (.badArgument (.unnamedMember (.method m)))
  type m.definingClass
  string m.name
  proto m.proto

def method (m : MethodRef) : Plan Unit :=
  adding (.method m) (methodParts m)

def reference : Reference → Plan Unit
  | .string s => string s
  | .type t => type t
  | .field f => field f
  | .method m => method m
  | .methodProto p => proto p
  | r => fail (.unsupportedReference r.kind.name)

mutual

def value : TextValue → Plan Unit
  | .string s => string s
  | .type t => type t
  | .field f => field f
  | .method m => method m
  | .enum f => field f
  | .array vs => array vs
  | .annotationItem t es => do
      type t
      elements es
  | .byte _ | .short _ | .char _ | .int _ | .long _ | .float _ | .double _ | .null | .boolean _ =>
      pure ()

def array : List TextValue → Plan Unit
  | [] => pure ()
  | v :: rest => do
      value v
      array rest

def elements : List TextElement → Plan Unit
  | [] => pure ()
  | ⟨name, v⟩ :: rest => do
      string name
      value v
      elements rest

end

def annotationParts (a : Annotation) : Plan Unit := do
  type a.type
  elements a.elements

def annotation (a : Annotation) : Plan Unit :=
  adding (Key.annotation a) (annotationParts a)

def annotationSetParts (s : AnnotationSet) : Plan Unit := do
  if let some a := Sorted.firstRepeat Annotation.type s.items then
    fail (.badArgument (.repeatedAnnotationType a.type))
  s.items.forM annotation

def annotationSet (s : AnnotationSet) : Plan Unit :=
  adding (.annotationSet s) (annotationSetParts s)

/-- What is checked and put in before a key. -/
def parts : Key → Plan Unit
  | .string _ => pure ()
  | .type d => typeParts d
  | .typeList ds => typeListParts ds
  | .proto p => protoParts p
  | .field f => fieldParts f
  | .method m => methodParts m
  | Key.annotation a => annotationParts a
  | .annotationSet s => annotationSetParts s

def key (k : Key) : Plan Unit :=
  adding k (parts k)

def instruction (i : Instruction Reference) : Plan Unit :=
  i.references.forM reference

def tryBlock (t : TryBlock String) : Plan Unit :=
  t.handlers.forM fun h => h.type.forM type

def debugItem : DebugItem String String → Plan Unit
  | .startLocal _ _ name type signature => do
      name.forM string
      type.forM Plan.type
      signature.forM string
  | .setSourceFile _ file => file.forM string
  | .endLocal .. | .restartLocal .. | .prologueEnd _ | .epilogueBegin _ | .line .. => pure ()

def body (apiLevel : UInt32) (b : TextBody) : Plan Unit := do
  b.instructions.forM fun i => check (Session.checkInstruction apiLevel i)
  b.instructions.forM instruction
  b.tries.forM tryBlock
  b.debugItems.forM debugItem

/-! ## The steps that a plan takes -/

/-- Whether a plan takes only steps of one kind. -/
def Only (P : Event → Prop) (p : Plan α) : Prop :=
  ∀ e ∈ p.log, P e

namespace Only

variable {P Q : Event → Prop}

theorem imp {p : Plan α} (h : p.Only P) (hPQ : ∀ e, P e → Q e) : p.Only Q :=
  fun e he => hPQ e (h e he)

theorem pure (a : α) : (Pure.pure a : Plan α).Only P :=
  fun _ he => absurd he List.not_mem_nil

theorem check (x : Except Error α) : (Plan.check x).Only P :=
  fun _ he => absurd he List.not_mem_nil

theorem fail (e : Error) : (Plan.fail e : Plan α).Only P :=
  fun _ he => absurd he List.not_mem_nil

theorem step {e : Event} (h : P e) : (Plan.step e).Only P := by
  intro e' he
  rw [List.mem_singleton.mp he]
  exact h

theorem bind {p : Plan α} {f : α → Plan β} (hp : p.Only P) (hf : ∀ a, (f a).Only P) :
    (p >>= f).Only P :=
  fun e he => (mem_log_bind he).elim (hp e) fun ⟨a, _, ha⟩ => hf a e ha

theorem forM {f : α → Plan Unit} {xs : List α} (h : ∀ x ∈ xs, (f x).Only P) :
    (xs.forM f).Only P := by
  induction xs with
  | nil => exact pure ()
  | cons x xs ih => exact bind (h x (by simp)) fun _ => ih fun y hy => h y (by simp [hy])

theorem forM_option {f : α → Plan Unit} (h : ∀ a, (f a).Only P) :
    ∀ a : Option α, (a.forM f).Only P
  | none => pure ()
  | some a => h a

theorem guard {c : Prop} [Decidable c] {e : Error} {q : Unit → Plan Unit} (h : (q ()).Only P) :
    (if c then Plan.fail e >>= q else q ()).Only P := by
  split
  · exact bind (fail e) fun _ => h
  · exact h

theorem guard_not {c : Prop} [Decidable c] {e : Error} {q : Unit → Plan Unit}
    (h : (q ()).Only P) : (if c then q () else Plan.fail e >>= q).Only P := by
  split
  · exact h
  · exact bind (fail e) fun _ => h

end Only

/-! ## Plans take only steps of lower levels -/

def Below (n : Nat) (p : Plan α) : Prop :=
  ∀ e ∈ p.log, e.level < n

namespace Below

variable {n m : Nat}

theorem mono {p : Plan α} (h : p.Below n) (hnm : n ≤ m) : p.Below m :=
  fun e he => Nat.lt_of_lt_of_le (h e he) hnm

/-- What holds of all events below a level holds of the steps of a plan below it. -/
theorem only {p : Plan α} {P : Event → Prop} (h : p.Below n) (hP : ∀ e, e.level < m → P e)
    (hnm : n ≤ m := by decide) : p.Only P :=
  fun e he => hP e (h.mono hnm e he)

theorem adding {k : Key} {parts : Plan Unit} (hparts : parts.Below k.level)
    (hk : k.level < n) : (Plan.adding k parts).Below n :=
  Only.bind (hparts.mono (Nat.le_of_lt hk)) fun _ => Only.step hk

theorem string (s : String) : (Plan.string s).Below 1 :=
  adding (Only.pure ()) Nat.zero_lt_one

theorem typeParts (d : String) : (Plan.typeParts d).Below 1 :=
  Only.bind (Only.check _) fun _ => string d

theorem type (d : String) : (Plan.type d).Below 2 :=
  adding (typeParts d) (Nat.lt_succ_self 1)

theorem typeListParts (ds : List String) : (Plan.typeListParts ds).Below 2 :=
  Only.forM fun d _ => type d

theorem typeList (ds : List String) : (Plan.typeList ds).Below 3 :=
  adding (typeListParts ds) (Nat.lt_succ_self 2)

theorem protoParts (p : ProtoRef) : (Plan.protoParts p).Below 3 :=
  Only.bind (Only.forM fun _ _ => Only.check _) fun _ => Only.bind (Only.check _) fun sh =>
    Only.bind ((string sh).mono (by decide)) fun _ =>
      Only.bind (typeList _) fun _ => (type _).mono (by decide)

theorem proto (p : ProtoRef) : (Plan.proto p).Below 4 :=
  adding (protoParts p) (Nat.lt_succ_self 3)

theorem fieldParts (f : FieldRef) : (Plan.fieldParts f).Below 4 := by
  refine Only.guard (Only.bind (Only.check _) fun _ => ?_)
  refine Only.bind ((type _).mono (by decide)) fun _ => ?_
  exact Only.bind ((string _).mono (by decide)) fun _ => (type _).mono (by decide)

theorem field (f : FieldRef) : (Plan.field f).Below 5 :=
  adding (fieldParts f) (Nat.lt_succ_self 4)

theorem methodParts (m : MethodRef) : (Plan.methodParts m).Below 5 := by
  refine Only.guard (Only.bind ((type _).mono (by decide)) fun _ => ?_)
  exact Only.bind ((string _).mono (by decide)) fun _ => (proto _).mono (by decide)

theorem method (m : MethodRef) : (Plan.method m).Below 6 :=
  adding (methodParts m) (Nat.lt_succ_self 5)

theorem reference : ∀ r : Reference, (Plan.reference r).Below 6
  | .string s => (string s).mono (by decide)
  | .type t => (type t).mono (by decide)
  | .field f => (field f).mono (by decide)
  | .method m => method m
  | .methodProto p => (proto p).mono (by decide)
  | .methodHandle _ | .callSite _ => Only.fail _

mutual

theorem value : ∀ v : TextValue, (Plan.value v).Below 6
  | .string s => (string s).mono (by decide)
  | .type t => (type t).mono (by decide)
  | .field f | .enum f => (field f).mono (by decide)
  | .method m => method m
  | .array vs => array vs
  | .annotationItem t es => Only.bind ((type t).mono (by decide)) fun _ => elements es
  | .byte _ | .short _ | .char _ | .int _ | .long _ | .float _ | .double _ | .null | .boolean _ =>
      Only.pure ()

theorem array : ∀ vs : List TextValue, (Plan.array vs).Below 6
  | [] => Only.pure ()
  | v :: rest => Only.bind (value v) fun _ => array rest

theorem elements : ∀ es : List TextElement, (Plan.elements es).Below 6
  | [] => Only.pure ()
  | ⟨name, v⟩ :: rest =>
      Only.bind ((string name).mono (by decide)) fun _ => Only.bind (value v) fun _ => elements rest

end

theorem annotationParts (a : Annotation) : (Plan.annotationParts a).Below 6 :=
  Only.bind ((type _).mono (by decide)) fun _ => elements _

theorem annotation (a : Annotation) : Below 7 (Plan.annotation a) :=
  adding (annotationParts a) (Nat.lt_succ_self 6)

theorem annotationSetParts (s : AnnotationSet) : (Plan.annotationSetParts s).Below 7 := by
  have hrest : (s.items.forM Plan.annotation).Below 7 := Only.forM fun a _ => annotation a
  unfold Plan.annotationSetParts
  split
  · exact Only.bind (Only.fail _) fun _ => hrest
  · exact hrest

theorem annotationSet (s : AnnotationSet) : (Plan.annotationSet s).Below 8 :=
  adding (annotationSetParts s) (Nat.lt_succ_self 7)

theorem parts : ∀ k : Key, (Plan.parts k).Below k.level
  | .string _ => Only.pure ()
  | .type d => typeParts d
  | .typeList ds => typeListParts ds
  | .proto p => protoParts p
  | .field f => fieldParts f
  | .method m => methodParts m
  | Key.annotation a => annotationParts a
  | .annotationSet s => annotationSetParts s

theorem parts_lt (k : Key) : (Plan.parts k).Below 8 :=
  (parts k).mono (by cases k <;> simp [Key.level])

end Below

/-- Nothing below the level of a class adds one. -/
theorem Below.classDef_notMem {n : Nat} {p : Plan α} (h : p.Below n) {c : ClassDef}
    (hn : n ≤ 9 := by decide) : Event.classDef c ∉ p.log :=
  fun hc => absurd (h _ hc) (Nat.not_lt.mpr hn)

/-- What is put into the pools has no other effect. -/
theorem Below.exists_put {p : Plan α} (h : p.Below 8) {e : Event} (he : e ∈ p.log) :
    ∃ k, e = .put k := by
  have hlevel := h e he
  cases e with
  | put k => exact ⟨k, rfl⟩
  | methodRow | note _ => exact absurd hlevel (Nat.lt_irrefl 8)
  | classDef _ => exact absurd hlevel (Nat.not_lt_of_le (Nat.le_succ 8))

theorem put_notMem_parts (k : Key) : Event.put k ∉ (parts k).log :=
  fun hmem => Nat.lt_irrefl _ (Below.parts k _ hmem)

end Plan

end DexPools
