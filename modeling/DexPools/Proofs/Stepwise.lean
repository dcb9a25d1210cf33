import DexPools.Proofs.Extension

/-!
# Operations are put together from few steps

Every operation that builds something is put together from looking at the session, failing, adding
an entry and giving a method its row. A property of operations that these steps have and that
sequences keep is therefore a property of all of them, and `Stepwise` is what is to be shown for
it. What an operation sees of the session never includes the leniency, as long as no member of
a class is skipped; so a lenient session and its strict copy are looked at in the same way.

Building a class ends in adding it. All that comes before the end is stepwise again.

Most of what is shown of operations in this way is a preorder from the session before to the one
after, whether the operation fails or not. Then only the two steps that change the session are
left to look at.
-/

namespace DexPools

namespace Session

/-- The session in strict mode, and else as it is. -/
def strictly (s : Session) : Session :=
  { s with config := { s.config with lenient := false } }

/-- A property of operations that the steps of all building operations have. -/
structure Stepwise (P : {α : Type} → Build α → Prop) : Prop where
  pure : ∀ {α : Type} (a : α), P (Pure.pure a)
  bind : ∀ {α β : Type} {op : Build α} {f : α → Build β}, P op → (∀ a, P (f a)) → P (op >>= f)
  check : ∀ {α : Type} (x : Except Error α), P (liftM x : Build α)
  /-- Looking at the session, but not at its leniency. -/
  get : ∀ {α : Type} {f : Session → Build α}, (∀ s, P (f s)) → (∀ s, f s.strictly = f s) →
    P (MonadState.get >>= f)
  insert : ∀ {κ ε ς : Type} [SlotKind ς] [HasRow ε] [Pooled ε κ] [DecidableEq κ]
    (h : Shelf κ ε ς) [h.Lawful] [h.Framed] (k : κ) (make : Nat → ε),
    P (modifyGet fun s => h.insert s k make : Build ε)
  methodRow : P allocateMethodRow
  attempt : ∀ {α : Type} {op : Build α}, P op → P (attempt op)

namespace Stepwise

variable {P : {α : Type} → Build α → Prop} (hP : Stepwise P) {α β γ : Type}

include hP

theorem throw (e : Error) : P (MonadExcept.throw e : Build α) :=
  hP.check (.error e)

theorem map {op : Build α} (f : α → β) (h : P op) : P (op >>= fun a => Pure.pure (f a)) :=
  hP.bind h fun _ => hP.pure _

theorem mapM {f : γ → Build α} (h : ∀ x, P (f x)) (xs : List γ) : P (xs.mapM f) := by
  induction xs with
  | nil =>
      rw [List.mapM_nil]
      exact hP.pure _
  | cons x xs ih =>
      rw [List.mapM_cons]
      exact hP.bind (h x) fun _ => hP.map _ ih

theorem forM {f : γ → Build PUnit} (h : ∀ x, P (f x)) (xs : List γ) : P (xs.forM f) := by
  induction xs with
  | nil => exact hP.pure _
  | cons x xs ih => exact hP.bind (h x) fun _ => ih

theorem traverseOption {f : γ → Build α} (h : ∀ x, P (f x)) :
    ∀ x : Option γ, P (traverseOption f x)
  | none => hP.pure _
  | some x => hP.map _ (h x)

/-- A failure under a condition. -/
theorem guard {c : Prop} [Decidable c] {e : Error} {f : Unit → Build α} (h : P (f ())) :
    P (if c then MonadExcept.throw e >>= f else f ()) := by
  split
  · exact hP.bind (hP.throw e) fun _ => h
  · exact h

theorem guard_not {c : Prop} [Decidable c] {e : Error} {f : Unit → Build α} (h : P (f ())) :
    P (if c then f () else MonadExcept.throw e >>= f) := by
  split
  · exact h
  · exact hP.bind (hP.throw e) fun _ => h

theorem intern {κ ε ς : Type} [SlotKind ς] [HasRow ε] [Pooled ε κ] [DecidableEq κ]
    (h : Shelf κ ε ς) [h.Lawful] [h.Framed] (k : κ)
    {parts : Build (Nat → ε)} (hparts : P parts) : P (h.intern k parts) := by
  refine hP.get (fun s => ?_) fun s => ?_
  · cases (h.pool s).find? k with
    | some entry => exact hP.pure entry
    | none => exact hP.bind hparts fun make => hP.insert h k make
  · have hpool : h.pool s.strictly = h.pool s := Shelf.Framed.pool_config s _
    rw [hpool]

/-! ## What is put into the pools -/

theorem internString (t : String) : P (internString t) := by
  rw [internString_eq]
  exact hP.intern _ _ (hP.pure _)

theorem internType (d : String) : P (internType d) := by
  rw [internType_eq]
  exact hP.intern _ _ (hP.bind (hP.check _) fun _ => hP.map _ (hP.internString d))

theorem internTypeList (ds : List String) : P (internTypeList ds) := by
  rw [internTypeList_eq]
  exact hP.intern _ _ (hP.map _ (hP.mapM hP.internType ds))

theorem internProto (p : ProtoRef) : P (internProto p) := by
  rw [internProto_eq]
  refine hP.intern _ _ (hP.bind (hP.forM (fun _ => hP.check _) _) fun _ => ?_)
  refine hP.bind (hP.check _) fun shorty => hP.bind (hP.internString shorty) fun _ => ?_
  exact hP.bind (hP.internTypeList _) fun _ => hP.map _ (hP.internType _)

theorem internField (f : FieldRef) : P (internField f) := by
  rw [internField_eq]
  refine hP.intern _ _ (hP.guard (hP.bind (hP.check _) fun _ => ?_))
  exact hP.bind (hP.internType _) fun _ => hP.bind (hP.internString _) fun _ =>
    hP.map _ (hP.internType _)

theorem internMethod (m : MethodRef) : P (internMethod m) := by
  rw [internMethod_eq]
  refine hP.intern _ _ (hP.guard ?_)
  exact hP.bind (hP.internType _) fun _ => hP.bind (hP.internString _) fun _ =>
    hP.map _ (hP.internProto _)

theorem internReference : ∀ r : Reference, P (internReference r)
  | .string t => hP.map _ (hP.internString t)
  | .type d => hP.map _ (hP.internType d)
  | .field f => hP.map _ (hP.internField f)
  | .method m => hP.map _ (hP.internMethod m)
  | .methodProto p => hP.map _ (hP.internProto p)
  | .methodHandle _ | .callSite _ => hP.throw _

mutual

theorem internValue : ∀ v : TextValue, P (internValue v)
  | .byte _ | .short _ | .char _ | .int _ | .long _ | .float _ | .double _ | .null
  | .boolean _ => by
      rw [Session.internValue]
      exact hP.pure _
  | .string t => by
      rw [Session.internValue]
      exact hP.map _ (hP.internString t)
  | .type d => by
      rw [Session.internValue]
      exact hP.map _ (hP.internType d)
  | .field f | .enum f => by
      rw [Session.internValue]
      exact hP.map _ (hP.internField f)
  | .method m => by
      rw [Session.internValue]
      exact hP.map _ (hP.internMethod m)
  | .array vs => by
      rw [Session.internValue]
      exact hP.map _ (internItems vs)
  | .annotationItem type es => by
      rw [Session.internValue]
      exact hP.bind (hP.internType type) fun _ => hP.map _ (internElements es)

theorem internItems : ∀ vs : List TextValue, P (internItems vs)
  | [] => by
      rw [Session.internItems]
      exact hP.pure _
  | v :: rest => by
      rw [Session.internItems]
      exact hP.bind (internValue v) fun _ => hP.map _ (internItems rest)

theorem internElements : ∀ es : List TextElement, P (internElements es)
  | [] => by
      rw [Session.internElements]
      exact hP.pure _
  | ⟨name, v⟩ :: rest => by
      rw [Session.internElements]
      refine hP.bind (hP.internString name) fun _ => ?_
      exact hP.bind (internValue v) fun _ => hP.map _ (internElements rest)

end

theorem internAnnotation (a : Annotation) : P (Session.internAnnotation a) := by
  rw [internAnnotation_eq]
  refine hP.intern _ _ (hP.bind (hP.internType _) fun _ => ?_)
  exact hP.map _ (hP.internElements _)

theorem internAnnotationSet (set : AnnotationSet) : P (internAnnotationSet set) := by
  have hrest : P (set.items.mapM Session.internAnnotation >>= fun annotations =>
      Pure.pure fun row => (⟨row, annotations⟩ : AnnotationSetEntry)) :=
    hP.map _ (hP.mapM hP.internAnnotation _)
  rw [internAnnotationSet_eq]
  refine hP.intern _ _ ?_
  cases Sorted.firstRepeat Annotation.type set.items with
  | some a => exact hP.bind (hP.throw _) fun _ => hrest
  | none => exact hrest

/-! ## Bodies and members -/

theorem instruction {ρ : Type} {f : ρ → Build PooledReference} (h : ∀ r, P (f r)) :
    ∀ i : Instruction ρ, P (i.traverse f) := by
  intro i
  cases i with
  | f20bc _ _ r | f21c _ _ r | f22c _ _ _ r | f31c _ _ r | f35c _ _ r | f3rc _ _ _ r =>
      exact hP.map _ (h r)
  | f45cc _ _ r r' | f4rcc _ _ _ r r' => exact hP.bind (h r) fun _ => hP.map _ (h r')
  | _ => exact hP.pure _

theorem debugItem {σ τ : Type} {f : σ → Build StringEntry} {g : τ → Build TypeEntry}
    (hf : ∀ x, P (f x)) (hg : ∀ x, P (g x)) : ∀ d : DebugItem σ τ, P (d.traverse f g)
  | .startLocal _ _ name type signature =>
      hP.bind (hP.traverseOption hf name) fun _ => hP.bind (hP.traverseOption hg type) fun _ =>
        hP.map _ (hP.traverseOption hf signature)
  | .setSourceFile _ file => hP.map _ (hP.traverseOption hf file)
  | .endLocal .. | .restartLocal .. | .prologueEnd _ | .epilogueBegin _ | .line .. => hP.pure _

theorem resolveTry (t : TryBlock String) : P (resolveTry t) :=
  hP.map _ (hP.mapM (fun h : Handler String => hP.map _ (hP.traverseOption hP.internType h.type)) _)

theorem internBody (b : TextBody) : P (internBody b) := by
  refine hP.get (fun s => ?_) fun _ => rfl
  refine hP.bind (hP.forM (fun _ => hP.check _) _) fun _ => ?_
  refine hP.bind (hP.mapM (hP.instruction hP.internReference) _) fun _ => ?_
  refine hP.bind (hP.mapM hP.resolveTry _) fun _ => ?_
  exact hP.map _ (hP.mapM (hP.debugItem hP.internString hP.internType) _)

theorem defineField (f : FieldDef) : P (defineField f) :=
  hP.bind (hP.internField _) fun _ => hP.bind (hP.traverseOption hP.internValue _) fun _ =>
    hP.map _ (hP.internAnnotationSet _)

theorem defineParameter (p : Parameter) : P (defineParameter p) :=
  hP.bind (hP.internType _) fun _ => hP.bind (hP.traverseOption hP.internString _) fun _ =>
    hP.map _ (hP.internAnnotationSet _)

theorem defineMethod (m : MethodDef) : P (defineMethod m) := by
  refine hP.bind (hP.internMethod _) fun ref => hP.guard ?_
  refine hP.bind (hP.mapM hP.defineParameter _) fun _ => ?_
  refine hP.bind (hP.internAnnotationSet _) fun _ => ?_
  exact hP.bind (hP.traverseOption hP.internBody _) fun _ => hP.map _ hP.methodRow

theorem tried {op : Build α} (h : P op) (member : MemberRef) :
    P (Session.attempt op >>= fun out => Pure.pure (member, out)) :=
  hP.map _ (hP.attempt h)

end Stepwise

/-! ## Classes up to their last step -/

/-- What `defineClassFrom` does before it adds the class. -/
def classMaker (header : ClassHeader) (fields : List PooledField) (methods : List PooledMethod) :
    Build (Nat → ClassEntry) := do
  unless Descriptor.looksLikeClass header.type do
    throw (.badArgument (.notClassType header.type))
  let type ← internType header.type
  (← get).classes.checkAvailable type
  checkFields type [] fields
  checkMethods type [] methods
  let superclass ← internType? header.superclass
  let interfaces ← internTypeList (ClassDef.dedupInterfaces header.interfaces)
  let sourceFile ← internString? header.sourceFile
  let annotations ← internAnnotationSet header.annotations
  return fun row => {
    row, type, superclass, interfaces, sourceFile, annotations
    flags := header.flags
    staticFields := Sorted.sort PooledField.compare (fields.partition PooledField.isStatic).1
    instanceFields := Sorted.sort PooledField.compare (fields.partition PooledField.isStatic).2
    directMethods := Sorted.sort PooledMethod.compare (methods.partition PooledMethod.isDirect).1
    virtualMethods := Sorted.sort PooledMethod.compare (methods.partition PooledMethod.isDirect).2
  }

theorem defineClassFrom_eq (header : ClassHeader) (fields : List PooledField)
    (methods : List PooledMethod) :
    defineClassFrom header fields methods = classMaker header fields methods >>= addClass := by
  unfold defineClassFrom classMaker
  by_cases htype : Descriptor.looksLikeClass header.type = true
  · simp only [if_pos htype, bind_assoc, pure_bind]
  · simp only [if_neg htype, bind_assoc, pure_bind]

/-- A class that can be put together has passed the checks of its members, which it sorts. -/
theorem exists_of_classMaker {s t : Session} {header : ClassHeader} {fields : List PooledField}
    {methods : List PooledMethod} {make : Nat → ClassEntry}
    (hrun : s.run (classMaker header fields methods) = (.ok make, t)) :
    ∃ type superclass interfaces sourceFile annotations,
      checkFields type [] fields = .ok () ∧ checkMethods type [] methods = .ok () ∧
        make = fun row => {
          row, type, superclass, interfaces, sourceFile, annotations
          flags := header.flags
          staticFields :=
            Sorted.sort PooledField.compare (fields.partition PooledField.isStatic).1
          instanceFields :=
            Sorted.sort PooledField.compare (fields.partition PooledField.isStatic).2
          directMethods :=
            Sorted.sort PooledMethod.compare (methods.partition PooledMethod.isDirect).1
          virtualMethods :=
            Sorted.sort PooledMethod.compare (methods.partition PooledMethod.isDirect).2
        } := by
  unfold classMaker at hrun
  by_cases hlooks : Descriptor.looksLikeClass header.type = true
  · simp only [if_pos hlooks] at hrun
    obtain ⟨type, _, -, hrun⟩ := run_bind_eq_ok_iff.mp hrun
    obtain ⟨_, _, -, hrun⟩ := run_bind_eq_ok_iff.mp hrun
    obtain ⟨_, _, -, hrun⟩ := run_bind_eq_ok_iff.mp hrun
    obtain ⟨_, _, hfields, hrun⟩ := run_bind_eq_ok_iff.mp hrun
    obtain ⟨_, _, hmethods, hrun⟩ := run_bind_eq_ok_iff.mp hrun
    obtain ⟨superclass, _, -, hrun⟩ := run_bind_eq_ok_iff.mp hrun
    obtain ⟨interfaces, _, -, hrun⟩ := run_bind_eq_ok_iff.mp hrun
    obtain ⟨file, _, -, hrun⟩ := run_bind_eq_ok_iff.mp hrun
    obtain ⟨set, -, rfl⟩ := run_map_eq_ok_iff.mp hrun
    rw [run_check] at hfields hmethods
    exact ⟨type, superclass, interfaces, file, set, (Prod.mk.inj hfields).1,
      (Prod.mk.inj hmethods).1, rfl⟩
  · simp only [if_neg hlooks] at hrun
    cases hrun

/-- What `defineClass` does before it puts the members that it kept together. -/
def classMembers (c : ClassDef) : Build (List PooledField × List PooledMethod) := do
  let type ← internType c.type
  (← get).classes.checkAvailable type
  let tried ← c.fields.mapM fun f => return (MemberRef.field f.ref, ← attempt (defineField f))
  let fields ← collectMembers c.type .field tried
  let tried ← c.methods.mapM fun m => return (MemberRef.method m.ref, ← attempt (defineMethod m))
  let methods ← collectMembers c.type .method tried
  return (fields, methods)

theorem defineClass_eq (c : ClassDef) : defineClass c =
    classMembers c >>= fun members => defineClassFrom c.toClassHeader members.1 members.2 := by
  unfold defineClass classMembers
  simp only [bind_assoc, pure_bind]

namespace Stepwise

variable {P : {α : Type} → Build α → Prop} (hP : Stepwise P)

include hP

theorem classMaker (header : ClassHeader) (fields : List PooledField)
    (methods : List PooledMethod) : P (classMaker header fields methods) := by
  refine hP.guard_not ?_
  refine hP.bind (hP.internType _) fun type => hP.get (fun s => ?_) fun _ => rfl
  refine hP.bind (hP.check _) fun _ => hP.bind (hP.check _) fun _ => hP.bind (hP.check _) ?_
  refine fun _ => hP.bind (hP.traverseOption hP.internType _) fun _ => ?_
  refine hP.bind (hP.internTypeList _) fun _ => ?_
  refine hP.bind (hP.traverseOption hP.internString _) fun _ => ?_
  exact hP.map _ (hP.internAnnotationSet _)

section Members

variable (hget : ∀ {α : Type} {f : Session → Build α}, (∀ s, P (f s)) → P (MonadState.get >>= f))
  (hnote : ∀ d, P (note d))

include hget hnote

/-- Dropping members that failed takes a look at the leniency and notes what was dropped. -/
theorem collectMembers {α : Type} (type : String) (category : Category)
    (tried : List (MemberRef × Except Error α)) : P (collectMembers type category tried) := by
  induction tried with
  | nil => exact hP.pure _
  | cons t rest ih =>
      obtain ⟨member, e | a⟩ := t
      · refine hget fun s => ?_
        split
        · exact hP.bind (hnote _) fun _ => ih
        · exact hP.throw e
      · exact hP.map _ ih

theorem classMembers (c : ClassDef) : P (classMembers c) := by
  refine hP.bind (hP.internType _) fun type => hget fun s => ?_
  refine hP.bind (hP.check _) fun _ => ?_
  refine hP.bind (hP.mapM (fun f => hP.tried (hP.defineField f) _) _) fun _ => ?_
  refine hP.bind (hP.collectMembers hget hnote _ _ _) fun _ => ?_
  refine hP.bind (hP.mapM (fun m => hP.tried (hP.defineMethod m) _) _) fun _ => ?_
  exact hP.map _ (hP.collectMembers hget hnote _ _ _)

end Members

/-- Every request that asks for no class. -/
theorem ask {r : Request} (hr : r.classType? = none) : P (ask r) := by
  cases r with
  | string s => exact hP.map _ (hP.internString s)
  | type d => exact hP.map _ (hP.internType d)
  | typeList ds => exact hP.map _ (hP.internTypeList ds)
  | proto p => exact hP.map _ (hP.internProto p)
  | field f => exact hP.map _ (hP.internField f)
  | method m => exact hP.map _ (hP.internMethod m)
  | reference r => exact hP.map _ (hP.internReference r)
  | value v => exact hP.map _ (hP.internValue v)
  | annotation a => exact hP.map _ (hP.internAnnotation a)
  | annotationSet x => exact hP.map _ (hP.internAnnotationSet x)
  | instruction i => exact hP.map _ (hP.instruction hP.internReference i)
  | tryBlock t => exact hP.map _ (hP.resolveTry t)
  | debugItem d => exact hP.map _ (hP.debugItem hP.internString hP.internType d)
  | body b => exact hP.map _ (hP.internBody b)
  | fieldDef f => exact hP.map _ (hP.defineField f)
  | methodDef m => exact hP.map _ (hP.defineMethod m)
  | classDef c => cases hr

/-- What all building operations have every operation has that is no writer's, if the ways to build
a class, the seal and notes have it. -/
theorem act (hclassDef : ∀ c, P (defineClass c))
    (hclassFrom : ∀ header fields methods, P (defineClassFrom header fields methods))
    (hsorted : P sortedClasses) (hnote : ∀ d, P (note d)) {op : Operation}
    (hop : op.writesSlot = false) : P op.act := by
  have hnothing : ∀ {α : Type} {op : Build α}, P op →
      P (op >>= fun _ => (Pure.pure ([], []) : Build (List PooledField × List PooledMethod))) :=
    fun h => hP.map _ h
  cases op with
  | ask r =>
      cases hr : r.classType? with
      | none => exact hP.map _ (hP.ask hr)
      | some d =>
          cases r with
          | classDef c => exact hP.map _ (hP.map _ (hclassDef c))
          | _ => cases hr
  | askAll cs => exact hnothing (hP.mapM hclassDef cs)
  | resolveAgain i => exact hnothing (hP.instruction (fun _ => hP.internReference _) i)
  | resolveDebugItemAgain d =>
      exact hnothing (hP.debugItem (fun _ => hP.internString _) (fun _ => hP.internType _) d)
  | classFrom header fields methods => exact hnothing (hclassFrom header fields methods)
  | sortedClasses => exact hnothing hsorted
  | note d => exact hnothing (hnote d)
  | setNumber _ _ | setClassSlot _ _ _ | setMethodSlot _ _ _ => cases hop

end Stepwise

/-! ## Relations that operations keep -/

/-- Whether an operation takes every session to one that is in a relation to it. -/
def Moves {α : Type} (R : Session → Session → Prop) (op : Build α) : Prop :=
  ∀ s : Session, R s (s.run op).2

namespace Moves

variable {α β : Type} {R : Session → Session → Prop}

theorem bind {op : Build α} {f : α → Build β} (htrans : ∀ {s t u}, R s t → R t u → R s u)
    (h : Moves R op) (hf : ∀ a, Moves R (f a)) : Moves R (op >>= f) := by
  intro s
  have hop := h s
  rw [run_bind]
  cases hrun : s.run op with
  | mk r t =>
      rw [hrun] at hop
      cases r with
      | error e => exact hop
      | ok a => exact htrans hop (hf a t)

theorem get {f : Session → Build α} (hf : ∀ s, Moves R (f s)) :
    Moves R (MonadState.get >>= f) := by
  intro s
  rw [run_bind]
  exact hf s s

/-- A preorder is kept by all operations if new entries and new rows keep it. -/
theorem stepwise (hrefl : ∀ s, R s s) (htrans : ∀ {s t u}, R s t → R t u → R s u)
    (hinsert : ∀ {κ ε ς : Type} [SlotKind ς] [HasRow ε] [Pooled ε κ] [DecidableEq κ]
      (h : Shelf κ ε ς) [h.Lawful] [h.Framed] (k : κ) (make : Nat → ε) (s : Session),
      R s (h.inserted s k make))
    (hrow : Moves R allocateMethodRow) : Stepwise (Moves R) where
  pure _ s := hrefl s
  bind := Moves.bind htrans
  check _ s := hrefl s
  get hf _ := Moves.get hf
  insert h _ _ k make s := hinsert h k make s
  methodRow := hrow
  attempt h := h

end Moves

end Session

end DexPools
