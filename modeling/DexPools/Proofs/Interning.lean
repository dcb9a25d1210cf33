import DexPools.Proofs.Shelf

/-!
# Everything that is put into the pools follows its plan

One lemma for each operation: what the operation looks up and adds is the plan of its input, and
what it gives reads back to its input. The eight pools go through `Shelf.builds_intern`, which
asks only for the parts; the rest are runs over leaves, operands and lists.
-/

namespace DexPools

theorem Instruction.map_id (i : Instruction Reference) : i.map id = i := by
  cases i <;> rfl

theorem TryBlock.map_eq {τ τ' : Type} (f : τ → τ') (t : TryBlock τ) :
    t.map f = ⟨t.start, t.count, t.handlers.map fun h => ⟨h.type.map f, h.address⟩⟩ := by
  have hhandler : (Handler.traverse fun type => (pure (f type) : Id τ')) =
      fun h => pure ⟨h.type.map f, h.address⟩ := by
    funext h
    cases h with
    | mk type address => cases type <;> rfl
  unfold TryBlock.map TryBlock.traverse
  rw [hhandler, List.mapM_pure]
  rfl

theorem DebugItem.map_startLocal {σ τ σ' τ' : Type} (f : σ → σ') (g : τ → τ')
    (address register : UInt32) (name : Option σ) (type : Option τ) (signature : Option σ) :
    (startLocal address register name type signature).map f g =
      startLocal address register (name.map f) (type.map g) (signature.map f) := by
  cases name <;> cases type <;> cases signature <;> rfl

theorem DebugItem.map_setSourceFile {σ τ σ' τ' : Type} (f : σ → σ') (g : τ → τ')
    (address : UInt32) (file : Option σ) :
    (setSourceFile address file).map f g = setSourceFile address (file.map f) := by
  cases file <;> rfl

theorem DebugItem.map_id (d : DebugItem String String) : d.map id id = d := by
  cases d with
  | startLocal =>
      rw [map_startLocal, Option.map_id]
      rfl
  | setSourceFile =>
      rw [map_setSourceFile, Option.map_id]
      rfl
  | _ => rfl

namespace Session

variable {s : Session}

namespace Follows

theorem mapM_self {α β : Type} [Pooled β α] {f : α → Build β} {g : α → Plan Unit} {xs : List α}
    (h : ∀ x ∈ xs, ∀ t : Session, t.config = s.config → t.Builds (f x) (g x) x) :
    s.Builds (xs.mapM f) (xs.forM g) xs := by
  have hmap : s.Builds (xs.mapM f) (xs.forM g) (xs.map id) := mapM h
  rwa [List.map_id] at hmap

theorem traverseOption_self {α β : Type} [Pooled β α] {f : α → Build β} {g : α → Plan Unit}
    (h : ∀ x, s.Builds (f x) (g x) x) (x : Option α) :
    s.Builds (DexPools.traverseOption f x) (x.forM g) x := by
  have hmap : s.Builds (DexPools.traverseOption f x) ((x.map id).forM g) (x.map id) :=
    traverseOption h x
  rwa [Option.map_id] at hmap

end Follows

/-! ## The eight pools

Each operation is `Shelf.intern` for its pool, with the checks and parts in their order. -/

theorem internString_eq (t : String) :
    internString t = Shelf.strings.intern t (pure fun row => ⟨row, t⟩) := by
  unfold internString Shelf.intern
  refine bind_congr fun st => ?_
  rw [show (Shelf.strings.pool st).find? t = st.strings.find? t from rfl]
  cases st.strings.find? t <;> rfl

theorem builds_internString (t : String) : s.Builds (internString t) (Plan.string t) t := by
  rw [internString_eq]
  exact Shelf.strings.builds_intern (Follows.pure (Shelf.ready_of _ [] holdsAll_nil fun _ => rfl))

theorem internType_eq (d : String) :
    internType d = Shelf.types.intern d (do
      Descriptor.check true d
      let descriptor ← internString d
      return fun row => ⟨row, descriptor⟩) := by
  unfold internType Shelf.intern
  refine bind_congr fun st => ?_
  rw [show (Shelf.types.pool st).find? d = st.types.find? d from rfl]
  cases st.types.find? d with
  | some _ => rfl
  | none =>
      simp only [bind_assoc, pure_bind]
      rfl

theorem builds_internType (d : String) : s.Builds (internType d) (Plan.type d) d := by
  rw [internType_eq]
  refine Shelf.types.builds_intern (Follows.check fun _ _ => ?_)
  refine Follows.map (builds_internString d) fun descriptor t _ hd => ?_
  exact Shelf.ready_of _ _ hd.holdsAll fun _ => hd.text

theorem internTypeList_eq (ds : List String) :
    internTypeList ds = Shelf.typeLists.intern ds (do
      let types ← ds.mapM internType
      return fun row => ⟨row, types⟩) := by
  unfold internTypeList Shelf.intern
  refine bind_congr fun st => ?_
  rw [show (Shelf.typeLists.pool st).find? ds = st.typeLists.find? ds from rfl]
  cases st.typeLists.find? ds with
  | some _ => rfl
  | none =>
      simp only [bind_assoc, pure_bind]
      rfl

theorem builds_internTypeList (ds : List String) :
    s.Builds (internTypeList ds) (Plan.typeList ds) ds := by
  rw [internTypeList_eq]
  refine Shelf.typeLists.builds_intern ?_
  refine Follows.map (Follows.mapM_self fun d _ t _ => builds_internType d) fun types t _ ht => ?_
  exact Shelf.ready_of _ _ ht.holdsAll fun _ => forall₂_eq_map ht.text

theorem internProto_eq (p : ProtoRef) :
    internProto p = Shelf.protos.intern p (do
      p.params.forM fun d => Descriptor.check false d
      let shorty ← internString (← Descriptor.shorty p)
      let params ← internTypeList p.params
      let returnType ← internType p.returnType
      return fun row => ⟨row, shorty, params, returnType⟩) := by
  unfold internProto Shelf.intern
  refine bind_congr fun st => ?_
  rw [show (Shelf.protos.pool st).find? p = st.protos.find? p from rfl]
  cases st.protos.find? p with
  | some _ => rfl
  | none =>
      simp only [bind_assoc, pure_bind]
      rfl

theorem builds_internProto (p : ProtoRef) : s.Builds (internProto p) (Plan.proto p) p := by
  rw [internProto_eq]
  refine Shelf.protos.builds_intern ?_
  refine Follows.bind (R := fun _ _ => True) (Follows.forM_check _) fun _ _ _ _ => ?_
  refine Follows.check fun letters hletters => ?_
  refine Follows.bind (builds_internString letters) fun shorty t _ hshorty => ?_
  refine Follows.bind (builds_internTypeList p.params) fun params u hlog hparams => ?_
  refine Follows.map (builds_internType p.returnType) fun returnType v hlog' hreturn => ?_
  have href : ∀ row, (ProtoEntry.mk row shorty params returnType).ref = p := fun _ =>
    congrArg₂ ProtoRef.mk hparams.text hreturn.text
  refine Shelf.ready_of _ (shorty.items ++ params.items ++ returnType.items) ?_ href
    (fun _ => rfl) fun row => ?_
  · simp only [holdsAll_append]
    exact ⟨⟨((hshorty.mono hlog.grows).mono hlog'.grows).holdsAll,
      (hparams.mono hlog'.grows).holdsAll⟩, hreturn.holdsAll⟩
  · show Descriptor.shorty (ProtoEntry.mk row shorty params returnType).ref = _
    rw [href, hletters, ← show shorty.text = letters from hshorty.text]

theorem internField_eq (f : FieldRef) :
    internField f = Shelf.fields.intern f (do
      if f.name.isEmpty then throw (.badArgument (.unnamedMember (.field f)))
      Descriptor.check false f.type
      let definingClass ← internType f.definingClass
      let name ← internString f.name
      let type ← internType f.type
      return fun row => ⟨row, definingClass, name, type⟩) := by
  unfold internField Shelf.intern
  refine bind_congr fun st => ?_
  rw [show (Shelf.fields.pool st).find? f = st.fields.find? f from rfl]
  cases st.fields.find? f with
  | some _ => rfl
  | none =>
      dsimp only
      split
      · simp only [bind_assoc, pure_bind]
        rfl
      · simp only [bind_assoc, pure_bind]
        rfl

theorem builds_internField (f : FieldRef) : s.Builds (internField f) (Plan.field f) f := by
  rw [internField_eq]
  refine Shelf.fields.builds_intern (Follows.guard (Follows.check fun _ _ => ?_))
  refine Follows.bind (builds_internType f.definingClass) fun definingClass t _ hclass => ?_
  refine Follows.bind (builds_internString f.name) fun name u hlog hname => ?_
  refine Follows.map (builds_internType f.type) fun type v hlog' htype => ?_
  refine Shelf.ready_of _ (definingClass.items ++ name.items ++ type.items) ?_ fun _ => ?_
  · simp only [holdsAll_append]
    exact ⟨⟨((hclass.mono hlog.grows).mono hlog'.grows).holdsAll,
      (hname.mono hlog'.grows).holdsAll⟩, htype.holdsAll⟩
  · show FieldRef.mk _ _ _ = f
    rw [show definingClass.text = _ from hclass.text, show name.text = _ from hname.text,
      show type.text = _ from htype.text]

theorem internMethod_eq (m : MethodRef) :
    internMethod m = Shelf.methods.intern m (do
      if m.name.isEmpty then throw (.badArgument (.unnamedMember (.method m)))
      let definingClass ← internType m.definingClass
      let name ← internString m.name
      let proto ← internProto m.proto
      return fun row => ⟨row, definingClass, name, proto⟩) := by
  unfold internMethod Shelf.intern
  refine bind_congr fun st => ?_
  rw [show (Shelf.methods.pool st).find? m = st.methods.find? m from rfl]
  cases st.methods.find? m with
  | some _ => rfl
  | none =>
      dsimp only
      split
      · simp only [bind_assoc, pure_bind]
        rfl
      · simp only [bind_assoc, pure_bind]
        rfl

theorem builds_internMethod (m : MethodRef) : s.Builds (internMethod m) (Plan.method m) m := by
  rw [internMethod_eq]
  refine Shelf.methods.builds_intern (Follows.guard ?_)
  refine Follows.bind (builds_internType m.definingClass) fun definingClass t _ hclass => ?_
  refine Follows.bind (builds_internString m.name) fun name u hlog hname => ?_
  refine Follows.map (builds_internProto m.proto) fun proto v hlog' hproto => ?_
  refine Shelf.ready_of _ (definingClass.items ++ name.items ++ proto.items) ?_ fun _ => ?_
  · simp only [holdsAll_append]
    exact ⟨⟨((hclass.mono hlog.grows).mono hlog'.grows).holdsAll,
      (hname.mono hlog'.grows).holdsAll⟩, hproto.holdsAll⟩
  · obtain ⟨hparams, hreturn⟩ := ProtoRef.mk.inj hproto.text
    show MethodRef.mk _ _ _ _ = m
    rw [show definingClass.text = _ from hclass.text, show name.text = _ from hname.text,
      hparams, hreturn]

/-! ## Operands and values -/

theorem builds_internReference : ∀ r : Reference,
    s.Builds (internReference r) (Plan.reference r) r
  | .string t => Follows.map (builds_internString t) fun _ _ _ h =>
      ⟨congrArg Reference.string h.text, h.holdsAll⟩
  | .type d => Follows.map (builds_internType d) fun _ _ _ h =>
      ⟨congrArg Reference.type h.text, h.holdsAll⟩
  | .field f => Follows.map (builds_internField f) fun _ _ _ h =>
      ⟨congrArg Reference.field h.text, h.holdsAll⟩
  | .method m => Follows.map (builds_internMethod m) fun _ _ _ h =>
      ⟨congrArg Reference.method h.text, h.holdsAll⟩
  | .methodProto p => Follows.map (builds_internProto p) fun _ _ _ h =>
      ⟨congrArg Reference.methodProto h.text, h.holdsAll⟩
  | .methodHandle _ | .callSite _ => Follows.throw

/-- Text that stands for itself. -/
theorem builds_pure {v : PooledValue} {t : TextValue} (h : PooledValue.readBack v = t)
    (hitems : Value.items v = []) : s.Builds (pure v) (pure ()) t :=
  Follows.pure ⟨h, by
    show s.HoldsAll (Value.items v)
    rw [hitems]
    exact holdsAll_nil⟩

mutual

theorem builds_internValue {s : Session} : ∀ v : TextValue,
    s.Builds (internValue v) (Plan.value v) v
  | .byte _ | .short _ | .char _ | .int _ | .long _ | .float _ | .double _ | .null
  | .boolean _ => by
      rw [internValue, Plan.value]
      exact builds_pure rfl rfl
  | .string t => by
      rw [internValue, Plan.value]
      exact Follows.map (builds_internString t) fun _ _ _ h =>
        ⟨congrArg Value.string h.text, h.holdsAll⟩
  | .type d => by
      rw [internValue, Plan.value]
      exact Follows.map (builds_internType d) fun _ _ _ h =>
        ⟨congrArg Value.type h.text, h.holdsAll⟩
  | .field f => by
      rw [internValue, Plan.value]
      exact Follows.map (builds_internField f) fun _ _ _ h =>
        ⟨congrArg Value.field h.text, h.holdsAll⟩
  | .method m => by
      rw [internValue, Plan.value]
      exact Follows.map (builds_internMethod m) fun _ _ _ h =>
        ⟨congrArg Value.method h.text, h.holdsAll⟩
  | .enum f => by
      rw [internValue, Plan.value]
      exact Follows.map (builds_internField f) fun _ _ _ h =>
        ⟨congrArg Value.enum h.text, h.holdsAll⟩
  | .array vs => by
      rw [internValue, Plan.value]
      exact Follows.map (builds_internItems vs) fun _ _ _ h =>
        ⟨congrArg Value.array h.1, h.2⟩
  | .annotationItem type es => by
      rw [internValue, Plan.value]
      refine Follows.bind (builds_internType type) fun type t _ htype => ?_
      refine Follows.map (builds_internElements es) fun es u hlog hes => ?_
      refine ⟨congrArg₂ Value.annotationItem htype.text hes.1, ?_⟩
      exact holdsAll_append.mpr ⟨(htype.mono hlog.grows).holdsAll, hes.2⟩

theorem builds_internItems {s : Session} : ∀ vs : List TextValue,
    s.Follows (internItems vs) (Plan.array vs) fun t as =>
      Value.mapItems StringEntry.text TypeEntry.text FieldEntry.ref MethodEntry.ref as = vs ∧
        t.HoldsAll (Value.itemsOfArray as)
  | [] => by
      rw [internItems, Plan.array]
      exact Follows.pure ⟨rfl, holdsAll_nil⟩
  | v :: rest => by
      rw [internItems, Plan.array]
      refine Follows.bind (builds_internValue v) fun a t _ ha => ?_
      refine Follows.map (builds_internItems rest) fun as u hlog has => ?_
      refine ⟨congrArg₂ List.cons ha.text has.1, ?_⟩
      exact holdsAll_append.mpr ⟨(ha.mono hlog.grows).holdsAll, has.2⟩

theorem builds_internElements {s : Session} : ∀ es : List TextElement,
    s.Follows (internElements es) (Plan.elements es) fun t as =>
      readBackElements as = es ∧ t.HoldsAll (Value.itemsOfElements as)
  | [] => by
      rw [internElements, Plan.elements]
      exact Follows.pure ⟨rfl, holdsAll_nil⟩
  | ⟨name, v⟩ :: rest => by
      rw [internElements, Plan.elements]
      refine Follows.bind (builds_internString name) fun name' t _ hname => ?_
      refine Follows.bind (builds_internValue v) fun a u hlog ha => ?_
      refine Follows.map (builds_internElements rest) fun as w hlog' has => ?_
      refine ⟨?_, ?_⟩
      · exact congrArg₂ List.cons (congrArg₂ Named.mk hname.text ha.text) has.1
      · refine holdsAll_append.mpr ⟨holdsAll_append.mpr ⟨?_, ?_⟩, has.2⟩
        · exact ((hname.mono hlog.grows).mono hlog'.grows).holdsAll
        · exact (ha.mono hlog'.grows).holdsAll

end

/-! ## Annotations -/

theorem internAnnotation_eq (a : Annotation) :
    internAnnotation a = Shelf.annotations.intern a (do
      let type ← internType a.type
      let elements ← internElements a.elements
      return fun row => ⟨row, a.visibility, type, elements⟩) := by
  unfold internAnnotation Shelf.intern
  refine bind_congr fun st => ?_
  rw [show (Shelf.annotations.pool st).find? a = st.annotations.find? a from rfl]
  cases st.annotations.find? a with
  | some _ => rfl
  | none =>
      simp only [bind_assoc, pure_bind]
      rfl

theorem builds_internAnnotation (a : Annotation) :
    s.Builds (Session.internAnnotation a) (Plan.annotation a) a := by
  rw [internAnnotation_eq]
  refine Shelf.annotations.builds_intern ?_
  refine Follows.bind (builds_internType a.type) fun type t _ htype => ?_
  refine Follows.map (builds_internElements a.elements) fun es u hlog hes => ?_
  refine Shelf.ready_of _ _ (holdsAll_append.mpr ⟨(htype.mono hlog.grows).holdsAll, hes.2⟩)
    fun _ => ?_
  exact congrArg₂ (fun d fs => Annotation.mk a.visibility d fs) htype.text hes.1

theorem internAnnotationSet_eq (set : AnnotationSet) :
    internAnnotationSet set = Shelf.annotationSets.intern set (do
      if let some a := Sorted.firstRepeat Annotation.type set.items then
        throw (.badArgument (.repeatedAnnotationType a.type))
      let annotations ← set.items.mapM internAnnotation
      return fun row => ⟨row, annotations⟩) := by
  unfold internAnnotationSet Shelf.intern
  refine bind_congr fun st => ?_
  rw [show (Shelf.annotationSets.pool st).find? set = st.annotationSets.find? set from rfl]
  cases st.annotationSets.find? set with
  | some _ => rfl
  | none =>
      dsimp only
      cases Sorted.firstRepeat Annotation.type set.items with
      | some _ =>
          simp only [bind_assoc, pure_bind]
          rfl
      | none =>
          simp only [bind_assoc, pure_bind]
          rfl

theorem builds_internAnnotationSet (set : AnnotationSet) :
    s.Builds (internAnnotationSet set) (Plan.annotationSet set) set := by
  have hparts : s.Follows (set.items.mapM internAnnotation >>= fun annotations =>
      pure fun row => (⟨row, annotations⟩ : AnnotationSetEntry)) (set.items.forM Plan.annotation)
      fun t make => Shelf.annotationSets.Ready t set make := by
    refine Follows.map (Follows.mapM_self fun a _ t _ => builds_internAnnotation a)
      fun annotations t _ ht => ?_
    exact Shelf.ready_of _ _ ht.holdsAll fun _ =>
      congrArg AnnotationSet.mk (forall₂_eq_map ht.text)
  rw [internAnnotationSet_eq]
  refine Shelf.annotationSets.builds_intern ?_
  show s.Follows _ (Plan.annotationSetParts set) _
  unfold Plan.annotationSetParts
  cases Sorted.firstRepeat Annotation.type set.items with
  | some a => exact Follows.bind (R := fun _ _ => False) Follows.throw fun _ _ _ h => h.elim
  | none => exact hparts

/-- A set is accepted only if no type occurs twice in it. -/
theorem types_nodup_of_parts {set : AnnotationSet}
    (h : (Plan.annotationSetParts set).outcome = .ok ()) :
    (set.items.map Annotation.type).Nodup := by
  unfold Plan.annotationSetParts at h
  cases hfirst : Sorted.firstRepeat Annotation.type set.items with
  | none => exact Sorted.firstRepeat_eq_none_iff.mp hfirst
  | some a =>
      rw [hfirst] at h
      obtain ⟨_, hfail, -⟩ := Plan.outcome_bind_eq_ok_iff.mp h
      cases hfail

/-! ## Bodies -/

theorem checkInstruction_eq_ok_iff {level : UInt32} {i : Instruction Reference} :
    checkInstruction level i = .ok () ↔ i.validate = .ok () ∧ i.opcode.minApi ≤ level := by
  unfold checkInstruction
  cases i.validate with
  | error e => exact iff_of_false nofun fun h => nomatch h.1
  | ok u =>
      by_cases hlevel : level < i.opcode.minApi
      · rw [if_pos hlevel]
        exact iff_of_false nofun fun h => UInt32.not_lt.mpr h.2 hlevel
      · rw [if_neg hlevel]
        exact iff_of_true rfl ⟨rfl, UInt32.not_lt.mp hlevel⟩

theorem builds_internType? (d : Option String) :
    s.Builds (internType? d) (d.forM Plan.type) d :=
  Follows.traverseOption_self builds_internType d

theorem builds_internString? (t : Option String) :
    s.Builds (internString? t) (t.forM Plan.string) t :=
  Follows.traverseOption_self builds_internString t

section Operands

variable {ρ : Type} {f : ρ → Build PooledReference} {text : ρ → Reference}

theorem Follows.operand (make : ∀ {α : Type}, α → Instruction α) (r : ρ)
    (h : ∀ (r : ρ) (t : Session), t.Builds (f r) (Plan.reference (text r)) (text r))
    (hmap : ∀ ref : PooledReference, (make ref).map PooledReference.readBack = make ref.readBack)
    (hrefs : ∀ ref : PooledReference, (make ref).references = [ref]) :
    s.Builds (f r >>= fun ref => Pure.pure (make ref)) ([text r].forM Plan.reference)
      (make (text r)) := by
  refine Follows.bind (h r s) fun ref t _ href => Follows.pure ⟨?_, ?_⟩
  · show (make ref).map PooledReference.readBack = _
    rw [hmap, show ref.readBack = _ from href.text]
  · show t.HoldsAll ((make ref).references.flatMap PooledReference.items)
    rw [hrefs, List.flatMap_singleton]
    exact href.holdsAll

theorem Follows.operands (make : ∀ {α : Type}, α → α → Instruction α) (r r' : ρ)
    (h : ∀ (r : ρ) (t : Session), t.Builds (f r) (Plan.reference (text r)) (text r))
    (hmap : ∀ ref ref' : PooledReference, (make ref ref').map PooledReference.readBack =
      make ref.readBack ref'.readBack)
    (hrefs : ∀ ref ref' : PooledReference, (make ref ref').references = [ref, ref']) :
    s.Builds (f r >>= fun ref => f r' >>= fun ref' => Pure.pure (make ref ref'))
      ([text r, text r'].forM Plan.reference) (make (text r) (text r')) := by
  refine Follows.bind (h r s) fun ref t _ href => ?_
  refine Follows.bind (h r' t) fun ref' u hlog href' => Follows.pure ⟨?_, ?_⟩
  · show (make ref ref').map PooledReference.readBack = _
    rw [hmap, show ref.readBack = _ from href.text, show ref'.readBack = _ from href'.text]
  · show u.HoldsAll ((make ref ref').references.flatMap PooledReference.items)
    rw [hrefs, List.flatMap_cons, List.flatMap_singleton, holdsAll_append]
    exact ⟨(href.mono hlog.grows).holdsAll, href'.holdsAll⟩

/-- Replacing the operands of an instruction, each by what reads back to its text. -/
theorem Follows.instruction
    (h : ∀ (r : ρ) (t : Session), t.Builds (f r) (Plan.reference (text r)) (text r))
    (i : Instruction ρ) : s.Builds (i.traverse f) (Plan.instruction (i.map text)) (i.map text) := by
  cases i with
  | f20bc op error r => exact operand (.f20bc op error) r h (fun _ => rfl) fun _ => rfl
  | f21c op a r => exact operand (.f21c op a) r h (fun _ => rfl) fun _ => rfl
  | f22c op a b r => exact operand (.f22c op a b) r h (fun _ => rfl) fun _ => rfl
  | f31c op a r => exact operand (.f31c op a) r h (fun _ => rfl) fun _ => rfl
  | f35c op registers r => exact operand (.f35c op registers) r h (fun _ => rfl) fun _ => rfl
  | f3rc op start count r => exact operand (.f3rc op start count) r h (fun _ => rfl) fun _ => rfl
  | f45cc op registers r r' =>
      exact operands (.f45cc op registers) r r' h (fun _ _ => rfl) fun _ _ => rfl
  | f4rcc op start count r r' =>
      exact operands (.f4rcc op start count) r r' h (fun _ _ => rfl) fun _ _ => rfl
  | _ => exact Follows.pure ⟨rfl, holdsAll_nil⟩

end Operands

theorem builds_resolveInstruction (i : Instruction Reference) :
    s.Builds (resolveInstruction i) (Plan.instruction i) i := by
  have hmap : s.Builds (i.traverse internReference) (Plan.instruction (i.map id)) (i.map id) :=
    Follows.instruction (fun r _ => builds_internReference r) i
  rwa [Instruction.map_id] at hmap

theorem builds_resolveAgain (i : Instruction PooledReference) :
    s.Builds (resolveAgain i) (Plan.instruction (i.map PooledReference.readBack))
      (i.map PooledReference.readBack) :=
  Follows.instruction (fun r _ => builds_internReference r.readBack) i

theorem builds_resolveTry (t : TryBlock String) :
    s.Builds (resolveTry t) (Plan.tryBlock t) t := by
  refine Follows.map (Follows.mapM_self fun h _ u _ => ?_) fun handlers u _ hhandlers => ?_
  · exact Follows.map (builds_internType? h.type) fun type v _ htype =>
      ⟨⟨optionRel_eq_map htype.text, rfl⟩, htype.holdsAll⟩
  · refine ⟨?_, hhandlers.holdsAll⟩
    show TryBlock.map TypeEntry.text ⟨t.start, t.count, handlers⟩ = t
    rw [TryBlock.map_eq]
    have htexts : handlers.map (fun h => ⟨h.type.map TypeEntry.text, h.address⟩) = t.handlers :=
      forall₂_eq_map (hhandlers.text.imp fun h h' hh => by
        rw [hh.1, hh.2])
    rw [htexts]

theorem Follows.debugItem {σ τ : Type} {f : σ → Build StringEntry} {g : τ → Build TypeEntry}
    {onString : σ → String} {onType : τ → String}
    (hf : ∀ (x : σ) (t : Session), t.Builds (f x) (Plan.string (onString x)) (onString x))
    (hg : ∀ (x : τ) (t : Session), t.Builds (g x) (Plan.type (onType x)) (onType x))
    (d : DebugItem σ τ) :
    s.Builds (d.traverse f g) (Plan.debugItem (d.map onString onType)) (d.map onString onType) := by
  cases d with
  | startLocal address register name type signature =>
      rw [DebugItem.map_startLocal]
      refine Follows.bind (Follows.traverseOption (fun x => hf x s) name) fun name t _ hname => ?_
      refine Follows.bind (Follows.traverseOption (fun x => hg x t) type)
        fun type u hlog htype => ?_
      refine Follows.map (Follows.traverseOption (fun x => hf x u) signature)
        fun signature v hlog' hsignature => ⟨?_, ?_⟩
      · show DebugItem.map _ _ _ = _
        rw [DebugItem.map_startLocal, optionRel_eq_map hname.text, optionRel_eq_map htype.text,
          optionRel_eq_map hsignature.text]
      · refine holdsAll_append.mpr ⟨holdsAll_append.mpr ⟨?_, ?_⟩, hsignature.holdsAll⟩
        · exact ((hname.mono hlog.grows).mono hlog'.grows).holdsAll
        · exact (htype.mono hlog'.grows).holdsAll
  | setSourceFile address file =>
      rw [DebugItem.map_setSourceFile]
      refine Follows.map (Follows.traverseOption (fun x => hf x s) file)
        fun file t _ hfile => ⟨?_, hfile.holdsAll⟩
      show DebugItem.map _ _ _ = _
      rw [DebugItem.map_setSourceFile, optionRel_eq_map hfile.text]
  | _ => exact Follows.pure ⟨rfl, holdsAll_nil⟩

theorem builds_resolveDebugItem (d : DebugItem String String) :
    s.Builds (resolveDebugItem d) (Plan.debugItem d) d := by
  have hmap : s.Builds (d.traverse internString internType) (Plan.debugItem (d.map id id))
      (d.map id id) :=
    Follows.debugItem (fun x _ => builds_internString x) (fun x _ => builds_internType x) d
  rwa [DebugItem.map_id] at hmap

theorem builds_resolveDebugItemAgain (d : DebugItem StringEntry TypeEntry) :
    s.Builds (resolveDebugItemAgain d)
      (Plan.debugItem (d.map StringEntry.text TypeEntry.text))
      (d.map StringEntry.text TypeEntry.text) := by
  have hstring : ∀ (x : StringEntry) (t : Session),
      t.Builds (internString x.text) (Plan.string x.text) x.text :=
    fun x _ => builds_internString x.text
  have htype : ∀ (x : TypeEntry) (t : Session),
      t.Builds (internType x.text) (Plan.type x.text) x.text :=
    fun x _ => builds_internType x.text
  exact Follows.debugItem hstring htype d

theorem builds_internBody (b : TextBody) :
    s.Builds (internBody b) (Plan.body s.config.apiLevel b) b := by
  refine Follows.get ?_
  refine Follows.bind (Follows.forM_check _) fun _ t _ _ => ?_
  refine Follows.bind (Follows.mapM_self fun i _ t _ => builds_resolveInstruction i)
    fun instructions u _ hinstructions => ?_
  refine Follows.bind (Follows.mapM_self fun b _ t _ => builds_resolveTry b)
    fun tries v hlog htries => ?_
  refine Follows.map (Follows.mapM_self fun d _ t _ => builds_resolveDebugItem d)
    fun debugItems w hlog' hdebugItems => ⟨?_, ?_⟩
  · show Body.mk _ _ _ _ = b
    rw [forall₂_eq_map hinstructions.text, forall₂_eq_map htries.text,
      forall₂_eq_map hdebugItems.text]
  · refine holdsAll_append.mpr ⟨holdsAll_append.mpr ⟨?_, ?_⟩, hdebugItems.holdsAll⟩
    · exact ((hinstructions.mono hlog.grows).mono hlog'.grows).holdsAll
    · exact (htries.mono hlog'.grows).holdsAll

end Session

end DexPools
