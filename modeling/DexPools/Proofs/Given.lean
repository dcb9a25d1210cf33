import DexPools.Proofs.Contents

/-!
# Where the annotations of a session come from

Annotation sets and annotations are put in under what they contain, and no other item has them as
parts. A session therefore holds only those that were given to it, in a request, in the definition
of a member or a class, or in the header of a class; the plans of the operations say so. Values have
no pool. One that is handed out reads back to the value that was asked for, an element of an
annotation to an element of what was given, and the initial value of a field to that of
a definition.

There are annotations inside of values as well. `Value.annotations` lists them at any depth, and
reading back commutes with it, so what is nested in a value of a session was nested in what was
given, at the same place.
-/

namespace DexPools

/-! ## Annotations inside of values -/

namespace Value

variable {σ τ φ μ : Type}

mutual

/-- The annotations inside of a value, each by its type and its elements, at any depth. -/
def annotations : Value σ τ φ μ → List (τ × List (Named σ (Value σ τ φ μ)))
  | array vs => annotationsOfArray vs
  | annotationItem t es => (t, es) :: annotationsOfElements es
  | byte _ | short _ | char _ | int _ | long _ | float _ | double _ | string _ | type _ | field _
  | method _ | enum _ | null | boolean _ => []

def annotationsOfArray : List (Value σ τ φ μ) → List (τ × List (Named σ (Value σ τ φ μ)))
  | [] => []
  | v :: rest => annotations v ++ annotationsOfArray rest

def annotationsOfElements :
    List (Named σ (Value σ τ φ μ)) → List (τ × List (Named σ (Value σ τ φ μ)))
  | [] => []
  | ⟨_, v⟩ :: rest => annotations v ++ annotationsOfElements rest

end

section Map

variable {σ' τ' φ' μ' : Type} (f : σ → σ') (g : τ → τ') (h : φ → φ') (k : μ → μ')

mutual

/-- The annotations of a value with other leaves are the annotations with other leaves. -/
theorem annotations_map (v : Value σ τ φ μ) :
    (v.map f g h k).annotations = v.annotations.map (Prod.map g (mapElements f g h k)) := by
  match v with
  | array vs =>
      rw [map, annotations, annotations]
      exact annotationsOfArray_map vs
  | annotationItem t es =>
      rw [map, annotations, annotations, List.map_cons, annotationsOfElements_map es]
      rfl
  | byte _ | short _ | char _ | int _ | long _ | float _ | double _ | string _ | type _ | field _
  | method _ | enum _ | null | boolean _ => simp [map, annotations]

theorem annotationsOfArray_map (vs : List (Value σ τ φ μ)) :
    annotationsOfArray (mapItems f g h k vs) =
      (annotationsOfArray vs).map (Prod.map g (mapElements f g h k)) := by
  match vs with
  | [] => rfl
  | v :: rest =>
      rw [mapItems, annotationsOfArray, annotationsOfArray, List.map_append, annotations_map v,
        annotationsOfArray_map rest]

theorem annotationsOfElements_map (es : List (Named σ (Value σ τ φ μ))) :
    annotationsOfElements (mapElements f g h k es) =
      (annotationsOfElements es).map (Prod.map g (mapElements f g h k)) := by
  match es with
  | [] => rfl
  | ⟨_, v⟩ :: rest =>
      rw [mapElements, annotationsOfElements, annotationsOfElements, List.map_append,
        annotations_map v, annotationsOfElements_map rest]

end

end Map

mutual

/-- What the elements of a nested annotation lead to, the value leads to. -/
theorem itemsOfElements_subset_of_mem {a : TypeEntry × List (Named StringEntry PooledValue)}
    (v : PooledValue) (ha : a ∈ v.annotations) : itemsOfElements a.2 ⊆ items v := by
  match v with
  | array vs =>
      rw [annotations] at ha
      rw [items]
      exact itemsOfElements_subset_of_mem_array vs ha
  | annotationItem t es =>
      rw [annotations] at ha
      rw [items]
      refine List.Subset.trans ?_ (List.subset_append_right _ _)
      rcases List.mem_cons.mp ha with rfl | ha
      · exact List.Subset.refl _
      · exact itemsOfElements_subset_of_mem_elements es ha
  | byte _ | short _ | char _ | int _ | long _ | float _ | double _ | string _ | type _ | field _
  | method _ | enum _ | null | boolean _ => simp [annotations] at ha

theorem itemsOfElements_subset_of_mem_array
    {a : TypeEntry × List (Named StringEntry PooledValue)} (vs : List PooledValue)
    (ha : a ∈ annotationsOfArray vs) : itemsOfElements a.2 ⊆ itemsOfArray vs := by
  match vs with
  | [] =>
      rw [annotationsOfArray] at ha
      cases ha
  | v :: rest =>
      rw [annotationsOfArray] at ha
      rw [itemsOfArray]
      rcases List.mem_append.mp ha with ha | ha
      · exact List.subset_append_of_subset_left _ (itemsOfElements_subset_of_mem v ha)
      · exact List.subset_append_of_subset_right _ (itemsOfElements_subset_of_mem_array rest ha)

theorem itemsOfElements_subset_of_mem_elements
    {a : TypeEntry × List (Named StringEntry PooledValue)}
    (es : List (Named StringEntry PooledValue)) (ha : a ∈ annotationsOfElements es) :
    itemsOfElements a.2 ⊆ itemsOfElements es := by
  match es with
  | [] =>
      rw [annotationsOfElements] at ha
      cases ha
  | ⟨name, v⟩ :: rest =>
      rw [annotationsOfElements] at ha
      rw [itemsOfElements]
      rcases List.mem_append.mp ha with ha | ha
      · refine List.subset_append_of_subset_left _ (List.subset_append_of_subset_right _ ?_)
        exact itemsOfElements_subset_of_mem v ha
      · exact List.subset_append_of_subset_right _ (itemsOfElements_subset_of_mem_elements rest ha)

end

/-- An element leads to its name and to what its value leads to. -/
theorem items_subset_of_mem_elements {e : Named StringEntry PooledValue} :
    ∀ {es : List (Named StringEntry PooledValue)}, e ∈ es →
      e.name.items ++ items e.value ⊆ itemsOfElements es
  | ⟨name, v⟩ :: rest, he => by
      rw [itemsOfElements]
      rcases List.mem_cons.mp he with rfl | he
      · exact List.subset_append_left _ _
      · exact List.subset_append_of_subset_right _ (items_subset_of_mem_elements he)

theorem mapElements_eq_map {σ' τ' φ' μ' : Type} (f : σ → σ') (g : τ → τ') (h : φ → φ')
    (k : μ → μ') : ∀ es : List (Named σ (Value σ τ φ μ)),
      mapElements f g h k es = es.map fun e => ⟨f e.name, e.value.map f g h k⟩
  | [] => rfl
  | ⟨name, v⟩ :: rest => by
      rw [mapElements, mapElements_eq_map f g h k rest]
      rfl

end Value

/-! ## What comes with an operation -/

def Request.annotationSets : Request → List AnnotationSet
  | annotationSet set => [set]
  | fieldDef f => [f.annotations]
  | methodDef m => m.annotationSets
  | classDef c => c.annotationSets
  | _ => []

/-- The annotation that a request is for. -/
def Request.single? : Request → Option Annotation
  | Request.annotation a => some a
  | _ => none

namespace Operation

/-- The annotation sets that come with an operation. -/
def annotationSets : Operation → List AnnotationSet
  | ask r => r.annotationSets
  | askAll cs => cs.flatMap ClassDef.annotationSets
  | classFrom header _ _ => [header.annotations]
  | _ => []

def single? : Operation → Option Annotation
  | ask r => r.single?
  | _ => none

/-- The annotations that come with an operation, by themselves or in a set. -/
def annotations (op : Operation) : List Annotation :=
  op.single?.toList ++ op.annotationSets.flatMap AnnotationSet.items

def value? : Operation → Option TextValue
  | ask (.value v) => some v
  | _ => none

/-- The values that come with an operation: by themselves, as elements of annotations, and as
initial values of fields. -/
def values (op : Operation) : List TextValue :=
  op.value?.toList ++ (op.annotations.flatMap fun a => a.elements.map Named.value) ++
    op.fieldDefs.filterMap FieldDef.initialValue

/-- The value that an operation hands out. -/
def handsOut? (s : Session) (op : Operation) : Option PooledValue :=
  op.value?.bind fun v => (s.run (Session.internValue v)).1.toOption

end Operation

/-! ## Plans put in what is given -/

/-- Whether an event puts in no annotation set but one of a list, and no annotation but one of
these sets or a certain one. -/
def Event.Given (sets : List AnnotationSet) (single : Option Annotation) : Event → Prop
  | put (.annotationSet set) => set ∈ sets
  | put (Key.annotation a) => a ∈ single.toList ++ sets.flatMap AnnotationSet.items
  | _ => True

theorem Event.given_of_level {sets : List AnnotationSet} {single : Option Annotation} (e : Event)
    (he : e.level < 6) : e.Given sets single := by
  cases e with
  | put k => cases k <;> trivial
  | methodRow | note _ | classDef _ => trivial

namespace Plan

variable {sets : List AnnotationSet} {single : Option Annotation}

theorem annotation_given {a : Annotation}
    (ha : a ∈ single.toList ++ sets.flatMap AnnotationSet.items) :
    Only (Event.Given sets single) (Plan.annotation a) :=
  Only.bind ((Below.annotationParts a).only Event.given_of_level) fun _ => Only.step ha

theorem annotationSet_given {set : AnnotationSet} (hset : set ∈ sets) :
    (Plan.annotationSet set).Only (Event.Given sets single) := by
  have hitems : (set.items.forM Plan.annotation).Only (Event.Given sets single) :=
    Only.forM fun a ha => annotation_given
      (List.mem_append_right _ (List.mem_flatMap.mpr ⟨set, hset, ha⟩))
  refine Only.bind ?_ fun _ => Only.step hset
  unfold Plan.annotationSetParts
  split
  · exact Only.bind (Only.fail _) fun _ => hitems
  · exact hitems

end Plan

theorem Request.plan_given (config : Config) (available : Except Error Unit) (r : Request) :
    (r.plan config available).Only (Event.Given r.annotationSets r.single?) := by
  have hlow : ∀ {sets : List AnnotationSet} {single : Option Annotation} {p : Plan Unit} {n : Nat},
      p.Below n → n ≤ 6 → p.Only (Event.Given sets single) := fun h hn =>
    h.only Event.given_of_level hn
  cases r with
  | string s => exact hlow (Plan.Below.string s) (by decide)
  | type d => exact hlow (Plan.Below.type d) (by decide)
  | typeList ds => exact hlow (Plan.Below.typeList ds) (by decide)
  | proto p => exact hlow (Plan.Below.proto p) (by decide)
  | field f => exact hlow (Plan.Below.field f) (by decide)
  | method m => exact hlow (Plan.Below.method m) (by decide)
  | reference r => exact hlow (Plan.Below.reference r) (by decide)
  | value v => exact hlow (Plan.Below.value v) (by decide)
  | annotation a => exact Plan.annotation_given (List.mem_append_left _ (by simp [single?]))
  | annotationSet set => exact Plan.annotationSet_given List.mem_cons_self
  | instruction i => exact hlow (Plan.Below.instruction i) (by decide)
  | tryBlock t => exact hlow (Plan.Below.tryBlock t) (by decide)
  | debugItem d => exact hlow (Plan.Below.debugItem d) (by decide)
  | body b => exact hlow (Plan.Below.body _ b) (by decide)
  | fieldDef f =>
      exact Plan.Only.fieldDef Event.given_of_level (Plan.annotationSet_given List.mem_cons_self)
  | methodDef m =>
      exact Plan.Only.methodDef Event.given_of_level trivial fun _ => Plan.annotationSet_given
  | classDef c =>
      exact Plan.Only.classDef Event.given_of_level trivial (fun _ => trivial)
        (fun _ => Plan.annotationSet_given) trivial

namespace Session

variable {s : Session}

/-- What is there after an operation that follows a plan was there or is put in by the plan. -/
theorem Follows.has_or {α : Type} {op : Build α} {p : Plan Unit} {R : Session → α → Prop}
    {P : Event → Prop} (h : s.Follows op p R) (hs : s.Sound) (hp : p.Only P) {k : Key}
    (hk : (s.run op).2.Has k) : s.Has k ∨ P (.put k) :=
  (((h.after hs).2.has k).mp hk).imp_right (hp _)

theorem has_defineClasses (hs : s.Sound) {cs : List ClassDef} {sets : List AnnotationSet}
    (hsets : ∀ c ∈ cs, ∀ set ∈ c.annotationSets, set ∈ sets) {k : Key}
    (hk : (s.run (defineClasses cs)).2.Has k) : s.Has k ∨ (Event.put k).Given sets none := by
  induction cs generalizing s with
  | nil => exact .inl hk
  | cons c cs ih =>
      obtain ⟨hc, hcs⟩ := List.forall_mem_cons.mp hsets
      have hplan : (Plan.classDef s.config (s.available c.type) c).Only (Event.Given sets none) :=
        Plan.Only.classDef Event.given_of_level trivial (fun _ => trivial)
          (fun set hset => Plan.annotationSet_given (hc set hset)) trivial
      have hone : (s.run (defineClass c)).2.Has k → s.Has k ∨ (Event.put k).Given sets none :=
        (builds_defineClass c).has_or hs hplan
      obtain ⟨ht, -⟩ := (builds_defineClass c).after hs
      rw [run_defineClasses_snd] at hk
      rcases hrun : s.run (defineClass c) with ⟨e | a, t⟩
      · rw [hrun] at hk hone
        exact hone hk
      · rw [hrun] at hk hone ht
        exact (ih ht hcs hk).elim hone .inr

end Session

namespace History

open Session

variable {h : History} {op : Operation} {ops : List Operation}

/-- What is there after an operation was there before or came with it. -/
theorem Sound.has_step (hh : h.Sound) (howns : h.Owns op) {k : Key}
    (hk : (h.step op).session.Has k) :
    h.session.Has k ∨ (Event.put k).Given op.annotationSets op.single? := by
  -- Writing a slot adds no key.
  have hslots : op.writesSlot = true → h.session.Has k := by
    intro hop
    obtain ⟨i, hi⟩ := hk
    rw [step_session, ← find?_unslotted, unslotted_of_writesSlot hop, find?_unslotted] at hi
    exact ⟨i, hi⟩
  cases op with
  | ask r =>
      rw [step_ask_session] at hk
      exact (follows_ask r).has_or hh.session (r.plan_given _ _) hk
  | askAll cs =>
      rw [step_session, Operation.act, run_map_snd] at hk
      exact has_defineClasses hh.session
        (fun c hc set hset => List.mem_flatMap.mpr ⟨c, hc, hset⟩) hk
  | resolveAgain i =>
      rw [step_session, Operation.act, run_map_snd] at hk
      exact (builds_resolveAgain i).has_or hh.session
        ((Plan.Below.instruction _).only Event.given_of_level) hk
  | resolveDebugItemAgain d =>
      rw [step_session, Operation.act, run_map_snd] at hk
      exact (builds_resolveDebugItemAgain d).has_or hh.session
        ((Plan.Below.debugItem _).only Event.given_of_level) hk
  | classFrom header fields methods =>
      rw [step_session, Operation.act, run_map_snd] at hk
      refine (builds_defineClassFrom (reads_map fun f hf => hh.reads_field (howns.1 f hf))
        (reads_map fun m hm => hh.reads_method (howns.2 m hm))).has_or hh.session ?_ hk
      exact Plan.Only.classFrom Event.given_of_level
        (Plan.annotationSet_given List.mem_cons_self) trivial
  | sortedClasses =>
      rw [step_session, Operation.act, run_map_snd] at hk
      exact .inl hk
  | note d =>
      rw [step_session, Operation.act, run_map_snd] at hk
      exact .inl hk
  | setNumber i n => exact .inl (hslots rfl)
  | setClassSlot c slot value => exact .inl (hslots rfl)
  | setMethodSlot m slot value => exact .inl (hslots rfl)

theorem Sound.has_steps (hh : h.Sound) (hops : h.OwnsEach ops) {k : Key}
    (hk : (h.steps ops).session.Has k) :
    h.session.Has k ∨ ∃ op ∈ ops, (Event.put k).Given op.annotationSets op.single? := by
  induction ops generalizing h with
  | nil => exact .inl hk
  | cons op ops ih =>
      rcases ih (hh.step hops.1) hops.2 hk with hk | ⟨op', hop', hgiven⟩
      · exact (hh.has_step hops.1 hk).imp_right fun hgiven => ⟨op, List.mem_cons_self, hgiven⟩
      · exact .inr ⟨op', List.mem_cons_of_mem op hop', hgiven⟩

/-! ## Values -/

/-- The values that a run hands out, the first one first. -/
def handedOut : History → List Operation → List PooledValue
  | _, [] => []
  | h, op :: ops => (op.handsOut? h.session).toList ++ (h.step op).handedOut ops

theorem Sound.reads_of_handsOut (hh : h.Sound) {v : PooledValue}
    (hv : op.handsOut? h.session = some v) :
    PooledValue.readBack v ∈ op.values ∧ (h.step op).session.HoldsAll (Value.items v) := by
  obtain ⟨t, ht, hv⟩ := Option.bind_eq_some_iff.mp hv
  have hrun : (h.session.run (internValue t)).1 = .ok v := by
    cases hr : (h.session.run (internValue t)).1 with
    | error e =>
        rw [hr] at hv
        cases hv
    | ok v' =>
        rw [hr] at hv
        cases hv
        rfl
  obtain ⟨-, -, -, hreads⟩ := (builds_internValue t).of_run hh.session (Prod.ext hrun rfl)
  have hop : op = .ask (.value t) := by
    unfold Operation.value? at ht
    split at ht
    · cases ht
      rfl
    · cases ht
  subst hop
  refine ⟨?_, ?_⟩
  · rw [show PooledValue.readBack v = t from hreads.text]
    simp [Operation.values, Operation.value?]
  · rw [step_ask_session, ask, run_map_snd]
    exact hreads.holdsAll

theorem Sound.reads_of_mem_handedOut (hh : h.Sound) (hops : h.OwnsEach ops) {v : PooledValue}
    (hv : v ∈ h.handedOut ops) : (∃ op ∈ ops, PooledValue.readBack v ∈ op.values) ∧
      (h.steps ops).session.HoldsAll (Value.items v) := by
  induction ops generalizing h with
  | nil => cases hv
  | cons op ops ih =>
      have hlater := hh.step hops.1
      rcases List.mem_append.mp hv with hv | hv
      · obtain ⟨hvalue, hitems⟩ := hh.reads_of_handsOut (Option.mem_toList.mp hv)
        exact ⟨⟨op, List.mem_cons_self, hvalue⟩, (hlater.grows_steps hops.2).holdsAll hitems⟩
      · obtain ⟨⟨op', hop', hvalue⟩, hitems⟩ := ih hlater hops.2 hv
        exact ⟨⟨op', List.mem_cons_of_mem op hop', hvalue⟩, hitems⟩

/-! ## A whole run -/

variable {config : Config}

/-- All that a session holds came with its run. -/
theorem exists_given (hops : (new config).OwnsEach ops) {k : Key}
    (hk : ((new config).steps ops).session.Has k) :
    ∃ op ∈ ops, (Event.put k).Given op.annotationSets op.single? := by
  refine (Sound.has_steps (sound_new config) hops hk).resolve_left ?_
  rintro ⟨i, hi⟩
  have hnone : (Session.new config).find? k = none := find?_new config k
  cases hnone.symm.trans hi

/-- The values of a run: those that it handed out, the elements of annotations, and the initial
values of fields, whether they are part of a class or not. -/
def Values (config : Config) (ops : List Operation) (v : PooledValue) : Prop :=
  v ∈ (new config).handedOut ops ∨
    (∃ a ∈ ((new config).steps ops).session.annotations.entries, ∃ e ∈ a.elements, e.value = v) ∨
      ∃ f, ((new config).steps ops).OwnsField f ∧ f.initialValue = some v

/-- Every value of a run reads back to one that came with it. -/
theorem reads_of_values (hops : (new config).OwnsEach ops) {v : PooledValue}
    (hv : Values config ops v) : (∃ op ∈ ops, PooledValue.readBack v ∈ op.values) ∧
      ((new config).steps ops).session.HoldsAll (Value.items v) := by
  have hh : ((new config).steps ops).Sound := (sound_new config).steps hops
  rcases hv with hv | ⟨a, ha, e, he, rfl⟩ | ⟨f, hf, hv⟩
  · exact Sound.reads_of_mem_handedOut (sound_new config) hops hv
  · have hheld := (Shelf.annotations.mem_entries_iff hh.session).mp ha
    have hitems : ((new config).steps ops).session.HoldsAll a.items := hh.session.closed hheld
    rw [AnnotationEntry.items, holdsAll_cons, holdsAll_append] at hitems
    obtain ⟨op, hop, hgiven⟩ := exists_given hops ⟨_, hheld⟩
    refine ⟨⟨op, hop, ?_⟩, fun i hi => hitems.2.2 i
      (Value.items_subset_of_mem_elements he (List.mem_append_right _ hi))⟩
    refine List.mem_append_left _ (List.mem_append_right _
      (List.mem_flatMap.mpr ⟨_, hgiven, ?_⟩))
    rw [AnnotationEntry.readBack, readBackElements, Value.mapElements_eq_map, List.map_map]
    exact List.mem_map_of_mem he
  · have hpast : ∀ f, (new config).OwnsField f → ∃ op ∈ ([] : List Operation),
        f.readBack ∈ op.fieldDefs := by
      rintro f (hf | ⟨c, hc, -⟩)
      · cases hf
      · cases hc
    obtain ⟨op, hop, hgiven⟩ := Sound.exists_fieldDef (sound_new config) hops hpast hf
    have hitems : ((new config).steps ops).session.HoldsAll f.items :=
      (hh.reads_field hf).holdsAll
    rw [PooledField.items, hv, holdsAll_append, holdsAll_append, holdsAll_flatMap] at hitems
    refine ⟨⟨op, hop, List.mem_append_right _ (List.mem_filterMap.mpr ⟨_, hgiven, ?_⟩)⟩,
      hitems.1.2 v List.mem_cons_self⟩
    exact congrArg (Option.map PooledValue.readBack) hv

end History

end DexPools
