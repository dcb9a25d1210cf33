import DexPools.Proofs.Given
import DexPools.Proofs.WellFormed
import DexPools.Proofs.WriterWalk

/-!
# Lists follow the assigned indices

A file writes the members of a class, the annotations of a set and the elements of an annotation
as lists of ascending indices. None of these lists is ever sorted by an index. They are put in
order by text when they come, the members when their class is put together and the rest before
it is even given to the session, and at that time there is no index. What keeps them in the order of
the indices all the same is that indices compare as texts do, in every session that assigns
positions, however much was added in between.

An annotation set is ordered by more than the type and the elements of an annotation by more than
the name. The type or the name comes first, though, and repeats in no list, so it alone decides.
-/

namespace DexPools

open Std Text

namespace Session

/-- Whether the number of every entry of a sorted table is its position. -/
structure Indexed (s : Session) : Prop where
  strings : ∀ e ∈ s.strings.entries,
    (Numbered.number s e).map UInt32.toNat = .ok (s.stringIndex e)
  types : ∀ e ∈ s.types.entries, (Numbered.number s e).map UInt32.toNat = .ok (s.typeIndex e)
  protos : ∀ e ∈ s.protos.entries, (Numbered.number s e).map UInt32.toNat = .ok (s.protoIndex e)
  fields : ∀ e ∈ s.fields.entries, (Numbered.number s e).map UInt32.toNat = .ok (s.fieldIndex e)
  methods : ∀ e ∈ s.methods.entries,
    (Numbered.number s e).map UInt32.toNat = .ok (s.methodIndex e)

/-- Whether all entries of a list have numbers, each of them greater than those before it. -/
def Ascends {ε : Type} [Numbered ε] (s : Session) (es : List ε) : Prop :=
  ∃ ns : List UInt32, es.map (Numbered.number s) = ns.map Except.ok ∧ ns.Pairwise (· < ·)

end Session

namespace Shelf

variable {κ ε ς : Type} [DecidableEq κ] [SlotKind ς] [HasRow ε] [Pooled ε κ] [DecidableEq ε]
  [Numbered ε] (h : Shelf κ ε ς) [h.Lawful] {s : Session} (cmp : ε → ε → Ordering) [TransCmp cmp]

/-- What ascends by text ascends by the numbers that are positions. -/
theorem ascends (hs : s.Sound) (hcmp : ∀ a b, cmp a b = .eq → h.text a = h.text b)
    (hindexed : ∀ e ∈ (h.pool s).entries,
      (Numbered.number s e).map UInt32.toNat = .ok (((h.pool s).sortedBy cmp).idxOf e))
    {es : List ε} (hes : ∀ e ∈ es, s.Holds (h.item e))
    (hstrict : es.Pairwise fun a b => cmp a b = .lt) : s.Ascends es := by
  have hnumber : ∀ e, s.Holds (h.item e) → ∃ n, Numbered.number s e = .ok n ∧
      n.toNat = ((h.pool s).sortedBy cmp).idxOf e := by
    intro e he
    have hindex := hindexed e ((h.mem_entries_iff hs).mpr he)
    cases hn : Numbered.number s e with
    | error err =>
        rw [hn] at hindex
        cases hindex
    | ok n =>
        rw [hn] at hindex
        exact ⟨n, rfl, Except.ok.inj hindex⟩
  induction es with
  | nil => exact ⟨[], rfl, List.Pairwise.nil⟩
  | cons e es ih =>
      obtain ⟨he, hes⟩ := List.forall_mem_cons.mp hes
      obtain ⟨hlt, hstrict⟩ := List.pairwise_cons.mp hstrict
      obtain ⟨ns, hns, hascends⟩ := ih hes hstrict
      obtain ⟨n, hn, hindex⟩ := hnumber e he
      refine ⟨n :: ns, by rw [List.map_cons, List.map_cons, hn, hns],
        List.pairwise_cons.mpr ⟨fun m hm => ?_, hascends⟩⟩
      -- The numbers that follow are those of the entries that follow.
      have hmem : Except.ok m ∈ es.map (Numbered.number s) := by
        rw [hns]
        exact List.mem_map_of_mem hm
      obtain ⟨e', he', hm'⟩ := List.mem_map.mp hmem
      obtain ⟨m', hnumber', hindex'⟩ := hnumber e' (hes e' he')
      cases hm'.symm.trans hnumber'
      rw [UInt32.lt_iff_toNat_lt, hindex, hindex', ← Nat.compare_eq_lt,
        h.compare_idxOf cmp hs hcmp he (hes e' he')]
      exact hlt e' he'

end Shelf

/-! ## Classes -/

namespace ClassDef

variable {c : ClassDef}

/-- In a class in its one form, both lists of fields ascend strictly. So `InForm.methods_strict` of
methods. -/
theorem InForm.fields_strict (h : c.InForm) :
    c.staticFields.Pairwise (fun f g => f.compare g = .lt) ∧
      c.instanceFields.Pairwise fun f g => f.compare g = .lt := by
  rw [← congrArg ClassDef.staticFields h.assembled, ← congrArg ClassDef.instanceFields h.assembled]
  exact h.declares.fields_strict

theorem InForm.methods_strict (h : c.InForm) :
    c.directMethods.Pairwise (fun m n => m.compare n = .lt) ∧
      c.virtualMethods.Pairwise fun m n => m.compare n = .lt := by
  rw [← congrArg ClassDef.directMethods h.assembled, ← congrArg ClassDef.virtualMethods h.assembled]
  exact h.declares.methods_strict

theorem InForm.fields_split (h : c.InForm) : (∀ f ∈ c.staticFields, f.isStatic = true) ∧
    ∀ f ∈ c.instanceFields, f.isStatic = false := by
  rw [← congrArg ClassDef.staticFields h.assembled, ← congrArg ClassDef.instanceFields h.assembled]
  exact Sorted.forall_sorted_parts _ _ _

theorem InForm.methods_split (h : c.InForm) : (∀ m ∈ c.directMethods, m.isDirect = true) ∧
    ∀ m ∈ c.virtualMethods, m.isDirect = false := by
  rw [← congrArg ClassDef.directMethods h.assembled, ← congrArg ClassDef.virtualMethods h.assembled]
  exact Sorted.forall_sorted_parts _ _ _

end ClassDef

/-- Whether the members of a class stand in the order of their numbers, in the lists that their
flags put them in, and none of them twice. -/
structure ClassEntry.FollowsIndices (s : Session) (c : ClassEntry) : Prop where
  staticFields : s.Ascends (c.staticFields.map (·.ref))
  instanceFields : s.Ascends (c.instanceFields.map (·.ref))
  directMethods : s.Ascends (c.directMethods.map (·.ref))
  virtualMethods : s.Ascends (c.virtualMethods.map (·.ref))
  isStatic : ∀ f ∈ c.staticFields, f.flags.intersects .static = true
  isInstance : ∀ f ∈ c.instanceFields, f.flags.intersects .static = false
  isDirect : ∀ m ∈ c.directMethods,
    m.flags.intersects (.union .static (.union .isPrivate .constructor)) = true
  isVirtual : ∀ m ∈ c.virtualMethods,
    m.flags.intersects (.union .static (.union .isPrivate .constructor)) = false
  fieldRefs : (c.fields.map fun f => f.ref.ref).Nodup
  methodRefs : (c.methods.map fun m => m.ref.ref).Nodup

namespace History

open Session

variable {h : History}

theorem Sound.ascends_fields (hh : h.Sound) (hindexed : h.session.Indexed) {fs : List PooledField}
    (hfs : ∀ f ∈ fs, h.OwnsField f)
    (hstrict : (fs.map PooledField.readBack).Pairwise fun f g => f.compare g = .lt) :
    h.session.Ascends (fs.map (·.ref)) := by
  refine Shelf.fields.ascends FieldEntry.compare hh.session (fun a b heq => ?_) hindexed.fields
    (List.forall_mem_map.mpr fun f hf => ?_) (List.pairwise_map.mpr (List.pairwise_map.mp hstrict))
  · rw [FieldEntry.compare_eq] at heq
    exact LawfulEqCmp.eq_of_compare heq
  have hitems : h.session.HoldsAll f.items := (hh.reads_field (hfs f hf)).holdsAll
  simp only [PooledField.items, FieldEntry.items, holdsAll_append, holdsAll_cons] at hitems
  exact hitems.1.1.1

theorem Sound.ascends_methods (hh : h.Sound) (hindexed : h.session.Indexed)
    {ms : List PooledMethod} (hms : ∀ m ∈ ms, h.OwnsMethod m)
    (hstrict : (ms.map PooledMethod.readBack).Pairwise fun m n => m.compare n = .lt) :
    h.session.Ascends (ms.map (·.ref)) := by
  have href : ∀ m ∈ ms, m.ref.ref = m.readBack.ref := fun m hm =>
    (hh.reads_method (hms m hm)).text.2
  refine Shelf.methods.ascends MethodEntry.compare hh.session (fun a b heq => ?_) hindexed.methods
    (List.forall_mem_map.mpr fun m hm => ?_)
    (List.pairwise_map.mpr ((List.pairwise_map.mp hstrict).imp_of_mem fun {m n} hm hn hlt => ?_))
  · rw [MethodEntry.compare_eq] at heq
    exact LawfulEqCmp.eq_of_compare heq
  · have hitems : h.session.HoldsAll m.items := (hh.reads_method (hms m hm)).holdsAll
    simp only [PooledMethod.items, MethodEntry.items, holdsAll_append, holdsAll_cons] at hitems
    exact hitems.1.1.1.1
  · rw [MethodEntry.compare_eq, href m hm, href n hn]
    exact hlt

theorem Sound.followsIndices_class (hh : h.Sound) (hform : h.Formed)
    (hindexed : h.session.Indexed) {c : ClassEntry} (hc : c ∈ h.session.classes.items) :
    c.FollowsIndices h.session := by
  have hin := hform.classes c hc
  have hfields : ∀ f ∈ c.fields, h.OwnsField f := fun f hf => .inr ⟨c, hc, hf⟩
  have hmethods : ∀ m ∈ c.methods, h.OwnsMethod m := fun m hm => .inr ⟨c, hc, hm⟩
  obtain ⟨hstatic, hinstance⟩ := List.forall_mem_append.mp hfields
  obtain ⟨hdirect, hvirtual⟩ := List.forall_mem_append.mp hmethods
  obtain ⟨-, -, hnames, hrefs⟩ := ClassDef.declares_iff.mp hin.declares
  exact {
    staticFields := hh.ascends_fields hindexed hstatic hin.fields_strict.1
    instanceFields := hh.ascends_fields hindexed hinstance hin.fields_strict.2
    directMethods := hh.ascends_methods hindexed hdirect hin.methods_strict.1
    virtualMethods := hh.ascends_methods hindexed hvirtual hin.methods_strict.2
    isStatic := List.forall_mem_map.mp hin.fields_split.1
    isInstance := List.forall_mem_map.mp hin.fields_split.2
    isDirect := List.forall_mem_map.mp hin.methods_split.1
    isVirtual := List.forall_mem_map.mp hin.methods_split.2
    fieldRefs := by
      rw [c.fields_readBack, List.map_map] at hnames
      refine List.Nodup.of_map (fun r : FieldRef => (r.name, r.type)) ?_
      rw [List.map_map]
      exact hnames
    methodRefs := by
      rw [c.methods_readBack, List.map_map] at hrefs
      rw [List.map_congr_left fun m hm => (hh.reads_method (hmethods m hm)).text.2]
      exact hrefs
  }

end History

/-! ## Annotations -/

/-- Elements that were collected have distinct names, in order. -/
theorem names_strict_of_collectElements {type : String} {given es : List TextElement}
    (h : collectElements type given = .ok es) :
    (es.map Named.name).Pairwise fun a b => compareUnits a b = .lt := by
  unfold collectElements at h
  cases hrepeat : Sorted.firstRepeat (·.name) given with
  | some e =>
      rw [hrepeat] at h
      cases h
  | none =>
      rw [hrepeat] at h
      cases h
      exact (Sorted.map_sortedSet_ascending (fun _ _ => rfl) given).strict
        (Sorted.nodup_map_sortedSet (Sorted.firstRepeat_eq_none_iff.mp hrepeat))

/-- Whether the annotations that come with an operation, and those inside of the values that come
with it, were made from elements that share no name. -/
structure Operation.Collected (op : Operation) : Prop where
  annotations : ∀ a ∈ op.annotations,
    ∃ given, Annotation.ofElements a.visibility a.type given = .ok a
  nested : ∀ v ∈ op.values, ∀ a ∈ v.annotations,
    ∃ given, EncodedAnnotation.ofElements a.1 given = .ok ⟨a.1, a.2⟩

theorem Annotation.collectElements_of_ofElements {visibility : Visibility} {type : String}
    {given : List TextElement} {a : Annotation}
    (h : Annotation.ofElements visibility type given = .ok a) :
    collectElements type given = .ok a.elements := by
  obtain ⟨es, hes, rfl⟩ := bind_pure_eq_ok_iff.mp h
  exact hes

theorem EncodedAnnotation.collectElements_of_ofElements {type : String}
    {given : List TextElement} {a : EncodedAnnotation}
    (h : EncodedAnnotation.ofElements type given = .ok a) :
    collectElements type given = .ok a.elements := by
  obtain ⟨es, hes, rfl⟩ := bind_pure_eq_ok_iff.mp h
  exact hes

namespace Session

variable {s : Session}

theorem Sound.ascends_types (hs : s.Sound) (hindexed : s.Indexed) {set : AnnotationSetEntry}
    (hset : s.Holds (.annotationSet set)) {items : List Annotation}
    (hitems : AnnotationSet.ofList items = set.readBack) :
    s.Ascends (set.annotations.map (·.type)) := by
  have hmap : (Sorted.sortedSet Annotation.compare items).map Annotation.type =
      set.annotations.map fun a => a.type.text := by
    rw [show Sorted.sortedSet Annotation.compare items = _ from congrArg AnnotationSet.items hitems,
      AnnotationSetEntry.readBack, List.map_map]
    rfl
  have hascending : Sorted.Ascending compareUnits
      ((Sorted.sortedSet Annotation.compare items).map Annotation.type) :=
    Sorted.map_sortedSet_ascending (fun _ _ => rfl) items
  rw [hmap] at hascending
  refine Shelf.types.ascends TypeEntry.compare hs
    (fun _ _ heq => LawfulEqCmp.eq_of_compare heq) hindexed.types
    (List.forall_mem_map.mpr fun a ha => ?_)
    (List.pairwise_map.mpr (List.pairwise_map.mp (hascending.strict (hs.types_annotationSet hset))))
  have hheld : s.HoldsAll set.items := hs.closed hset
  simp only [AnnotationSetEntry.items, AnnotationEntry.items, TypeEntry.items, holdsAll_cons,
    holdsAll_flatMap, holdsAll_append] at hheld
  exact (hheld.2 a ha).2.1.1

theorem Sound.ascends_names (hs : s.Sound) (hindexed : s.Indexed)
    {es : List (Named StringEntry PooledValue)} (hes : s.HoldsAll (Value.itemsOfElements es))
    {type : String} {given : List TextElement}
    (hcollect : collectElements type given = .ok (readBackElements es)) :
    s.Ascends (es.map Named.name) := by
  have hstrict := names_strict_of_collectElements hcollect
  rw [readBackElements, Value.mapElements_eq_map, List.map_map] at hstrict
  refine Shelf.strings.ascends StringEntry.compare hs
    (fun _ _ heq => LawfulEqCmp.eq_of_compare heq) hindexed.strings
    (List.forall_mem_map.mpr fun e he => ?_)
    (List.pairwise_map.mpr (List.pairwise_map.mp hstrict))
  exact hes _ (Value.items_subset_of_mem_elements he List.mem_cons_self)

end Session

/-- A class with two static fields and with two annotations, inside of which there is a third. -/
def ClassDef.annotated : ClassDef :=
  { ClassDef.sample with
    staticFields := [⟨"LWorker;", "times", "I", .static, none, .empty⟩]
    annotations := .ofList [
      ⟨.runtime, "LTask;", [⟨"run", .annotationItem "LTag;" [⟨"count", .int 3⟩, ⟨"run", .null⟩]⟩]⟩,
      ⟨.build, "LTag;", [⟨"times", .int 7⟩]⟩] }

namespace History

open Session

/-- Whether the lists of a session follow the numbers that are assigned to what they list. A set is
given as `AnnotationSet.ofList` makes it, in order and without repetition. An annotation can be
given in other forms than the one that it is made in, and of those nothing is said. -/
structure ListsFollow (h : History) (ops : List Operation) (values : PooledValue → Prop) :
    Prop where
  classes : ∀ c ∈ h.session.classes.items, c.FollowsIndices h.session
  annotationSets :
    (∀ op ∈ ops, ∀ set ∈ op.annotationSets, ∃ items, AnnotationSet.ofList items = set) →
      ∀ set ∈ h.session.annotationSets.entries, h.session.Ascends (set.annotations.map (·.type))
  elements : (∀ op ∈ ops, op.Collected) →
    ∀ a ∈ h.session.annotations.entries, h.session.Ascends (a.elements.map Named.name)
  nested : (∀ op ∈ ops, op.Collected) →
    ∀ v, values v → ∀ a ∈ v.annotations, h.session.Ascends (a.2.map Named.name)

/-- In every session in which the indices are the positions in the sorted tables, whatever was done
in what order to come to it, what a file writes as ascending indices ascends: the four lists of
members of a class, the annotations of a set by their types, and the elements of an annotation by
their names, wherever the annotation stands. -/
theorem listsFollow (config : Config) {ops : List Operation}
    (hops : (History.new config).OwnsEach ops)
    (hindexed : ((History.new config).steps ops).session.Indexed) :
    ((History.new config).steps ops).ListsFollow ops (Values config ops) := by
  have hreachable : ((History.new config).steps ops).Reachable :=
    (Reachable.new config : (History.new config).Reachable).steps hops
  have hh := hreachable.sound
  refine {
    classes := fun c hc => hh.followsIndices_class hreachable.formed hindexed hc
    annotationSets := fun hsets set hset => ?_
    elements := fun hcollected a ha => ?_
    nested := fun hcollected v hv a ha => ?_
  }
  · have hheld := (Shelf.annotationSets.mem_entries_iff hh.session).mp hset
    obtain ⟨op, hop, hgiven⟩ := exists_given hops ⟨_, hheld⟩
    obtain ⟨items, hitems⟩ := hsets op hop _ hgiven
    exact hh.session.ascends_types hindexed hheld hitems
  · have hheld := (Shelf.annotations.mem_entries_iff hh.session).mp ha
    obtain ⟨op, hop, hgiven⟩ := exists_given hops ⟨_, hheld⟩
    obtain ⟨given, hcollect⟩ := (hcollected op hop).annotations _ hgiven
    have hitems : ((History.new config).steps ops).session.HoldsAll a.items :=
      hh.session.closed hheld
    rw [AnnotationEntry.items, holdsAll_cons, holdsAll_append] at hitems
    exact hh.session.ascends_names hindexed hitems.2.2 <|
      Annotation.collectElements_of_ofElements hcollect
  · obtain ⟨⟨op, hop, hgiven⟩, hitems⟩ := reads_of_values hops hv
    have hmem := List.mem_map_of_mem (f := Prod.map TypeEntry.text readBackElements) ha
    rw [show v.annotations.map (Prod.map TypeEntry.text readBackElements) =
      (PooledValue.readBack v).annotations from (Value.annotations_map _ _ _ _ v).symm] at hmem
    obtain ⟨given, hcollect⟩ := (hcollected op hop).nested _ hgiven _ hmem
    exact hh.session.ascends_names hindexed
      (fun i hi => hitems i (Value.itemsOfElements_subset_of_mem v ha hi)) <|
      EncodedAnnotation.collectElements_of_ofElements hcollect

/-- Numbers may be assigned to whatever the session holds. -/
theorem ownsEach_setNumbers {h : History} (hh : h.Sound) {calls : List (Item × UInt32)}
    (hcalls : ∀ c ∈ calls, h.session.Holds c.1) :
    h.OwnsEach (calls.map fun c => .setNumber c.1 c.2) := by
  induction calls generalizing h with
  | nil => trivial
  | cons c calls ih =>
      obtain ⟨hc, hcalls⟩ := List.forall_mem_cons.mp hcalls
      have howns : h.Owns (.setNumber c.1 c.2) := hc
      exact ⟨howns, ih (hh.step howns) fun c' hc' => (hh.grows_step howns).holds (hcalls c' hc')⟩

/-- A writer's pass over the sorted tables, after an operation that names nothing of the session. -/
theorem ownsEach_indexCalls {h : History} (hh : h.Sound) {op : Operation} (howns : h.Owns op) :
    h.OwnsEach (op :: (h.step op).session.indexCalls.map fun c => .setNumber c.1 c.2) := by
  have hlater := hh.step howns
  refine ⟨howns, ownsEach_setNumbers hlater fun c hc => ?_⟩
  have hmem := List.mem_append_left (h.step op).session.offsetItems
    (List.mem_map_of_mem (f := Prod.fst) hc)
  rw [map_fst_indexCalls] at hmem
  exact ((mem_numberedItems_iff hlater.session).mp hmem).1

/-- A run that builds the class and numbers everything as a writer does. -/
def annotatedRun : List Operation :=
  .ask (.classDef .annotated) ::
    ((History.new .strict).step (.ask (.classDef .annotated))).session.indexCalls.map fun c =>
      .setNumber c.1 c.2

theorem ownsEach_annotatedRun : (History.new .strict).OwnsEach annotatedRun :=
  ownsEach_indexCalls (sound_new .strict) trivial

theorem indexed_annotatedRun : ((History.new .strict).steps annotatedRun).session.Indexed where
  strings := by decide +kernel
  types := by decide +kernel
  protos := by decide +kernel
  fields := by decide +kernel
  methods := by decide +kernel

/-- The class is given in sets that are in order and with annotations that were collected. -/
theorem collected_annotatedRun : ∀ op ∈ annotatedRun,
    (∀ set ∈ op.annotationSets, ∃ items, AnnotationSet.ofList items = set) ∧ op.Collected := by
  refine List.forall_mem_cons.mpr ⟨⟨fun set hset => ⟨set.items, ?_⟩, fun a ha => ⟨a.elements, ?_⟩,
    fun v hv a ha => ⟨a.2, ?_⟩⟩, List.forall_mem_map.mpr fun c _ => ⟨nofun, nofun, nofun⟩⟩
  · revert set
    decide +kernel
  · revert a
    decide +kernel
  · revert v a
    decide +kernel

/-- A session with one class, in which all lists ascend. -/
theorem listsFollow_sample :
    ∃ ops, (History.new .strict).OwnsEach ops ∧
      ((History.new .strict).steps ops).session.Indexed ∧
      (∀ c ∈ ((History.new .strict).steps ops).session.classes.items,
        c.FollowsIndices ((History.new .strict).steps ops).session) ∧
      (∀ set ∈ ((History.new .strict).steps ops).session.annotationSets.entries,
        ((History.new .strict).steps ops).session.Ascends (set.annotations.map (·.type))) ∧
      ∀ v, Values .strict ops v → ∀ a ∈ v.annotations,
        ((History.new .strict).steps ops).session.Ascends (a.2.map Named.name) :=
  have hfollow := listsFollow .strict ownsEach_annotatedRun indexed_annotatedRun
  ⟨annotatedRun, ownsEach_annotatedRun, indexed_annotatedRun, hfollow.classes,
    hfollow.annotationSets fun op hop => (collected_annotatedRun op hop).1,
    hfollow.nested fun op hop => (collected_annotatedRun op hop).2⟩

end History

end DexPools
