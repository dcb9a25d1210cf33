import DexPools.Proofs.Members
import DexPools.Proofs.Sorting

/-!
# Classes are put together as definitions are

A definition is brought into its one form by `ClassDef.ofParts`, from texts; a session brings the
members that it holds into the same form, from entries. `ClassDef.assemble` is the form itself.
`ofParts` gives it exactly if the members pass the check that the session makes, and the class
that the session adds reads back to it.

Building a class follows a plan too, once it is known whether the class can still be added. That
is all that the plan does not tell from the definition.
-/

namespace DexPools

namespace ClassDef

/-- The class of the parts, in its one form. -/
def assemble (header : ClassHeader) (fields : List FieldDef) (methods : List MethodDef) :
    ClassDef where
  toClassHeader := { header with interfaces := dedupInterfaces header.interfaces }
  staticFields := Sorted.sort FieldDef.compare (fields.partition FieldDef.isStatic).1
  instanceFields := Sorted.sort FieldDef.compare (fields.partition FieldDef.isStatic).2
  directMethods := Sorted.sort MethodDef.compare (methods.partition MethodDef.isDirect).1
  virtualMethods := Sorted.sort MethodDef.compare (methods.partition MethodDef.isDirect).2

variable {header : ClassHeader} {fields : List FieldDef} {methods : List MethodDef} {c : ClassDef}

/-- Whether all members name the class and no two of one kind agree in name and type. -/
def Declares (type : String) (fields : List FieldDef) (methods : List MethodDef) : Prop :=
  checkMembers type [] (fields.map fun f => .field f.ref) = .ok () ∧
    checkMembers type [] (methods.map fun m => .method m.ref) = .ok ()

/-- The four checks of `ofParts`, on the members in the order in which it goes through them. -/
theorem ofParts_eq_ok_iff_none {fs : List FieldDef} {ms : List MethodDef}
    (hfs : fs = (fields.partition FieldDef.isStatic).1 ++ (fields.partition FieldDef.isStatic).2)
    (hms : ms = (methods.partition MethodDef.isDirect).1 ++
      (methods.partition MethodDef.isDirect).2) :
    ofParts header fields methods = .ok c ↔
      fs.find? (·.definingClass != header.type) = none ∧
        ms.find? (·.definingClass != header.type) = none ∧
        Sorted.firstRepeat (fun f => (f.name, f.type)) fs = none ∧
        Sorted.firstRepeat MethodDef.ref ms = none ∧ assemble header fields methods = c := by
  subst hfs hms
  unfold ofParts
  simp only
  cases List.find? (fun f : FieldDef => f.definingClass != header.type) _ with
  | some f => exact iff_of_false nofun nofun
  | none =>
    cases List.find? (fun m : MethodDef => m.definingClass != header.type) _ with
    | some m => exact iff_of_false nofun nofun
    | none =>
      cases Sorted.firstRepeat (fun f : FieldDef => (f.name, f.type)) _ with
      | some f => exact iff_of_false nofun nofun
      | none =>
        cases Sorted.firstRepeat MethodDef.ref _ with
        | some m => exact iff_of_false nofun nofun
        | none =>
          simp only [true_and]
          exact ⟨fun h => Except.ok.inj h, congrArg Except.ok⟩

/-- Among members of one class, name and type tell fields apart as references do. -/
theorem nodup_names_iff {type : String} {fs : List FieldDef}
    (h : ∀ f ∈ fs, f.definingClass = type) :
    (fs.map fun f => (f.name, f.type)).Nodup ↔ (fs.map fun f => MemberRef.field f.ref).Nodup := by
  unfold List.Nodup
  rw [List.pairwise_map, List.pairwise_map]
  refine List.Pairwise.iff_of_mem fun {f g} hf hg => ?_
  simp [FieldDef.ref, h f hf, h g hg]

theorem declares_iff {type : String} : Declares type fields methods ↔
    (∀ f ∈ fields, f.definingClass = type) ∧ (∀ m ∈ methods, m.definingClass = type) ∧
      (fields.map fun f => (f.name, f.type)).Nodup ∧ (methods.map MethodDef.ref).Nodup := by
  have hmethods : (methods.map fun m => MemberRef.method m.ref).Nodup ↔
      (methods.map MethodDef.ref).Nodup := by
    rw [← List.nodup_map_iff (f := MemberRef.method) fun _ _ h => MemberRef.method.inj h,
      List.map_map]
    rfl
  rw [Declares, checkMembers_eq_ok_iff, checkMembers_eq_ok_iff, hmethods]
  simp only [List.forall_mem_map, List.not_mem_nil, not_false_eq_true, implies_true, and_true]
  constructor
  · rintro ⟨⟨hclass, hnodup⟩, hclass', hnodup'⟩
    exact ⟨hclass, hclass', (nodup_names_iff hclass).mpr hnodup, hnodup'⟩
  · rintro ⟨hclass, hclass', hnodup, hnodup'⟩
    exact ⟨⟨hclass, (nodup_names_iff hclass).mp hnodup⟩, hclass', hnodup'⟩

/-- The parts of a class are refused exactly if a member names another class or two of one kind
agree in name and type. -/
theorem ofParts_eq_ok_iff : ofParts header fields methods = .ok c ↔
    Declares header.type fields methods ∧ assemble header fields methods = c := by
  have hfs := Sorted.partition_perm FieldDef.isStatic fields
  have hms := Sorted.partition_perm MethodDef.isDirect methods
  rw [ofParts_eq_ok_iff_none rfl rfl, declares_iff]
  simp only [List.find?_eq_none, Sorted.firstRepeat_eq_none_iff, (hfs.map _).nodup_iff,
    (hms.map _).nodup_iff, hfs.mem_iff, hms.mem_iff, bne_iff_ne, ne_eq, not_not, and_assoc]

/-- A definition in its one form is the form of its own parts. -/
theorem assemble_of_assemble : assemble (assemble header fields methods).toClassHeader
    (assemble header fields methods).fields (assemble header fields methods).methods =
      assemble header fields methods := by
  have hfields : (assemble header fields methods).fields.partition FieldDef.isStatic =
      ((assemble header fields methods).staticFields,
        (assemble header fields methods).instanceFields) := Sorted.partition_sorted _ _ _
  have hmethods : (assemble header fields methods).methods.partition MethodDef.isDirect =
      ((assemble header fields methods).directMethods,
        (assemble header fields methods).virtualMethods) := Sorted.partition_sorted _ _ _
  rw [assemble, hfields, hmethods]
  simp only [assemble, Sorted.sort_sort, dedupInterfaces, Sorted.dedupBy_dedupBy]

end ClassDef

/-- The annotation sets of a class and of all its members. -/
def ClassDef.annotationSets (c : ClassDef) : List AnnotationSet :=
  c.annotations :: (c.fields.map (·.annotations) ++ c.methods.flatMap MethodDef.annotationSets)

/-! ## Plans of classes -/

namespace Plan

variable {α : Type}

/-- The failures among members that were tried: noted one by one, or the first one given up at. -/
def collect (lenient : Bool) (type : String) (category : Category) :
    List (MemberRef × Except Error α) → Plan Unit
  | [] => pure ()
  | (_, .ok _) :: rest => collect lenient type category rest
  | (member, .error e) :: rest =>
      if lenient then do
        step (.note (Session.skipNote type category member e))
        collect lenient type category rest
      else fail e

def survivors (tried : List (MemberRef × Except Error α)) : List α :=
  tried.filterMap fun t => t.2.toOption

def triedFields (c : ClassDef) : List (MemberRef × Except Error FieldDef) :=
  c.fields.map fun f => (.field f.ref, (fieldDef f).outcome.map fun _ => f)

def triedMethods (apiLevel : UInt32) (c : ClassDef) : List (MemberRef × Except Error MethodDef) :=
  c.methods.map fun m => (.method m.ref, (methodDef apiLevel m).outcome.map fun _ => m)

def classFrom (available : Except Error Unit) (header : ClassHeader) (fields : List FieldDef)
    (methods : List MethodDef) : Plan Unit := do
  unless Descriptor.looksLikeClass header.type do
    fail (.badArgument (.notClassType header.type))
  type header.type
  check available
  check (checkMembers header.type [] (fields.map fun f => .field f.ref))
  check (checkMembers header.type [] (methods.map fun m => .method m.ref))
  header.superclass.forM type
  typeList (ClassDef.dedupInterfaces header.interfaces)
  header.sourceFile.forM string
  annotationSet header.annotations
  step (.classDef (.assemble header fields methods))

/-- The plan of a class from its definition, given whether it can be added. -/
def classDef (config : Config) (available : Except Error Unit) (c : ClassDef) : Plan Unit := do
  type c.type
  check available
  c.fields.forM fun f => (fieldDef f).attempted
  collect config.lenient c.type .field (triedFields c)
  c.methods.forM fun m => (methodDef config.apiLevel m).attempted
  collect config.lenient c.type .method (triedMethods config.apiLevel c)
  classFrom available c.toClassHeader (survivors (triedFields c))
    (survivors (triedMethods config.apiLevel c))

/-- What the class of a definition reads back to. -/
def classBuilt (config : Config) (c : ClassDef) : ClassDef :=
  .assemble c.toClassHeader (survivors (triedFields c))
    (survivors (triedMethods config.apiLevel c))

theorem Below.attempted {n : Nat} {p : Plan α} (h : p.Below n) : p.attempted.Below n :=
  h

theorem Only.collect {P : Event → Prop} (hnote : ∀ d, P (.note d)) {lenient : Bool}
    {type : String} {category : Category} {tried : List (MemberRef × Except Error α)} :
    (Plan.collect lenient type category tried).Only P := by
  induction tried with
  | nil => exact pure ()
  | cons t rest ih =>
      obtain ⟨member, a | e⟩ := t
      · rw [Plan.collect]
        split
        · exact bind (step (hnote _)) fun _ => ih
        · exact fail _
      · exact ih

theorem Below.collect (lenient : Bool) (type : String) (category : Category)
    (tried : List (MemberRef × Except Error α)) :
    (Plan.collect lenient type category tried).Below 9 :=
  Only.collect fun _ => Nat.lt_succ_self 8

/-- A class that is put together from members puts in its own annotation set, if it comes to
adding the class. -/
theorem Only.classFrom {P : Event → Prop} (hlow : ∀ e : Event, e.level < 6 → P e)
    {available : Except Error Unit} {header : ClassHeader} {fields : List FieldDef}
    {methods : List MethodDef} (hset : (Plan.annotationSet header.annotations).Only P)
    (hclass : P (.classDef (.assemble header fields methods))) :
    (Plan.classFrom available header fields methods).Only P := by
  refine guard_not (bind ((Below.type _).only hlow) fun _ => ?_)
  refine bind (check _) fun _ => bind (check _) fun _ => bind (check _) fun _ => ?_
  refine bind (Below.only (n := 2) (forM_option Below.type _) hlow) fun _ => ?_
  refine bind ((Below.typeList _).only hlow) fun _ => ?_
  refine bind (Below.only (n := 1) (forM_option Below.string _) hlow) fun _ => ?_
  exact bind hset fun _ => step hclass

theorem Only.classDef {P : Event → Prop} (hlow : ∀ e : Event, e.level < 6 → P e)
    (hrow : P .methodRow) (hnote : ∀ d, P (.note d)) {config : Config}
    {available : Except Error Unit} {c : ClassDef}
    (hsets : ∀ set ∈ c.annotationSets, (Plan.annotationSet set).Only P)
    (hclass : P (.classDef (classBuilt config c))) :
    (Plan.classDef config available c).Only P := by
  obtain ⟨hset, hmembers⟩ := List.forall_mem_cons.mp hsets
  obtain ⟨hfields, hmethods⟩ := List.forall_mem_append.mp hmembers
  refine bind ((Below.type _).only hlow) fun _ => bind (check _) fun _ => ?_
  refine bind (forM fun f hf => ?_) fun _ => bind (collect hnote) fun _ => ?_
  · exact fieldDef hlow (List.forall_mem_map.mp hfields f hf)
  refine bind (forM fun m hm => ?_) fun _ => bind (collect hnote) fun _ => ?_
  · exact methodDef hlow hrow fun set hset => hmethods set (List.mem_flatMap.mpr ⟨m, hm, hset⟩)
  exact classFrom hlow hset hclass

/-- A class put together from members puts keys in and adds the class. -/
theorem only_classFrom (available : Except Error Unit) (header : ClassHeader)
    (fields : List FieldDef) (methods : List MethodDef) :
    (classFrom available header fields methods).Only fun e =>
      e.level < 8 ∨ e = .classDef (.assemble header fields methods) :=
  Only.classFrom (fun _ he => .inl (Nat.lt_trans he (by decide)))
    (Only.imp (Below.annotationSet _) fun _ => .inl) (.inr rfl)

/-- A class adds itself and no other. -/
theorem only_classDef (config : Config) (available : Except Error Unit) (c : ClassDef) :
    (classDef config available c).Only fun e =>
      e.level < 9 ∨ e = .classDef (classBuilt config c) :=
  Only.classDef (fun _ he => .inl (Nat.lt_trans he (by decide))) (.inl (Nat.lt_succ_self 8))
    (fun _ => .inl (Nat.lt_succ_self 8))
    (fun set _ => Only.imp (Below.annotationSet set) fun _ he => .inl (Nat.lt_succ_of_lt he))
    (.inr rfl)

/-- In a strict session the members come through together or not at all. -/
theorem survivors_of_collect {type : String} {category : Category} {xs : List α}
    {ref : α → MemberRef} {outcome : α → Except Error Unit} (h : (collect false type category
      (xs.map fun x => (ref x, (outcome x).map fun _ => x))).outcome = .ok ()) :
    survivors (xs.map fun x => (ref x, (outcome x).map fun _ => x)) = xs := by
  induction xs with
  | nil => rfl
  | cons x xs ih =>
      rw [List.map_cons] at h ⊢
      cases hx : outcome x with
      | error e =>
          rw [hx] at h
          cases h
      | ok u =>
          rw [hx] at h
          exact congrArg (x :: ·) (ih h)

end Plan

namespace Session

variable {s : Session}

/-! ## Whether a class can be added -/

/-- Whether a class of a type can still be added. -/
def available (s : Session) (d : String) : Except Error Unit :=
  if s.classes.isSealed then .error .poolSealed
  else if d ∈ s.classes.items.map fun c => c.type.text then .error (.duplicate (.classDef d))
  else .ok ()

theorem classPool_find?_eq (p : ClassPool) (type : TypeEntry) :
    p.find? type = p.items.find? fun c => decide (c.type.text = type.text) := by
  refine congrArg (List.find? · p.items) (funext fun c => ?_)
  rw [TypeEntry.compare_eq, Bool.eq_iff_iff, beq_iff_eq, decide_eq_true_iff]
  exact Std.LawfulEqCmp.compare_eq_iff_eq

theorem checkAvailable_eq (s : Session) (type : TypeEntry) :
    s.classes.checkAvailable type = s.available type.text := by
  have hfind : (s.classes.find? type).isSome = true ↔
      type.text ∈ s.classes.items.map fun c => c.type.text := by
    rw [classPool_find?_eq, List.find?_isSome, List.mem_map]
    simp only [decide_eq_true_iff]
  unfold ClassPool.checkAvailable available
  simp only [hfind]

theorem find?_class_eq_some_iff (hs : s.Sound) {type : TypeEntry} {c : ClassEntry} :
    s.classes.find? type = some c ↔ c ∈ s.classes.items ∧ c.type.text = type.text := by
  rw [classPool_find?_eq]
  constructor
  · intro hfind
    exact ⟨List.mem_of_find?_eq_some hfind, by simpa using List.find?_some hfind⟩
  · rintro ⟨hc, htext⟩
    cases hfind : s.classes.items.find? fun c => decide (c.type.text = type.text) with
    | none => exact absurd (decide_eq_true htext) (List.find?_eq_none.mp hfind c hc)
    | some c' =>
        have hc' := List.mem_of_find?_eq_some hfind
        have htext' : c'.type.text = type.text := by simpa using List.find?_some hfind
        rw [List.inj_on_of_nodup_map hs.classTypes hc' hc (htext'.trans htext.symm)]

/-- The class of a type is the one class with that type. -/
theorem class?_eq_some_iff (hs : s.Sound) {d : String} {c : ClassEntry} :
    s.class? d = some c ↔ c ∈ s.classes.items ∧ c.type.text = d := by
  unfold class?
  rw [Option.bind_eq_some_iff]
  constructor
  · rintro ⟨type, htype, hfind⟩
    have htext : type.text = d := (Shelf.types.reads_of_find? hs htype).text
    rw [find?_class_eq_some_iff hs, htext] at hfind
    exact hfind
  · rintro ⟨hc, rfl⟩
    have hheld : s.Holds (.type c.type) :=
      (hs.classReads c hc).holdsAll _ (by simp [Pooled.items, ClassEntry.items, TypeEntry.items])
    exact ⟨c.type, Shelf.types.find?_eq_some_item_iff.mp hheld,
      (find?_class_eq_some_iff hs).mpr ⟨hc, rfl⟩⟩

/-- Whether it was handed out before or not, the order of the classes is that of their types. -/
theorem Sound.sorted_eq (hs : s.Sound) :
    s.classes.sorted.1 = Sorted.sort ClassEntry.compare s.classes.items.reverse := by
  unfold ClassPool.sorted
  split
  · next order h => exact hs.sealedOrder order h
  · rfl

theorem available_eq_ok_iff {d : String} : s.available d = .ok () ↔
    s.classes.sealedOrder = none ∧ d ∉ s.classes.items.map fun c => c.type.text := by
  unfold available ClassPool.isSealed
  cases s.classes.sealedOrder with
  | some order => simp
  | none =>
      simp only [Option.isSome_none, Bool.false_eq_true, if_false, true_and]
      split
      · next h => simp [h]
      · next h => simp [h]

theorem After.available_eq {α : Type} {t : Session} {n : Nat} {p : Plan α}
    (h : s.After p.log t) (hp : p.Below n) (d : String) (hn : n ≤ 9 := by decide) :
    t.available d = s.available d := by
  unfold available ClassPool.isSealed
  rw [h.classes_eq hp hn, h.sealedOrder]

/-! ## Building classes -/

theorem follows_note (d : Diagnostic) :
    s.Follows (note d) (Plan.step (.note d)) fun _ _ => True := by
  intro hs
  refine ⟨{ s with diagnostics := s.diagnostics.push d }, ?_, ?_, .inl ⟨(), rfl, rfl, trivial⟩⟩
  · exact hs.of_find?_eq { hs.canonical with } (fun _ => rfl) rfl hs.sealedOrder
  · exact {
      config := rfl
      grows := Grows.refl s
      has := fun k => by
        show s.Has k ↔ _
        simp [Plan.step]
      classes := ⟨[], rfl, rfl⟩
      sealedOrder := rfl
      notes := rfl
    }

/-- Members that were tried are kept as their definitions are. -/
theorem builds_collectMembers {α β : Type} [Pooled α β] {type : String} {category : Category} :
    ∀ {s : Session} {tried : List (MemberRef × Except Error α)}
      {outs : List (MemberRef × Except Error β)}, s.Reads tried outs →
        s.Builds (collectMembers type category tried)
          (Plan.collect s.config.lenient type category outs) (Plan.survivors outs)
  | s, [], [], _ => Follows.pure reads_nil
  | s, (r, .ok a) :: rest, (r', .ok b) :: outs, h => by
      obtain ⟨hhead, hrest⟩ := reads_cons_iff.mp h
      show s.Builds _ (Plan.collect s.config.lenient type category outs) (b :: Plan.survivors outs)
      refine Follows.map (builds_collectMembers hrest) fun as t hlog has => ?_
      exact reads_cons_iff.mpr ⟨⟨hhead.text.2, hlog.grows.holdsAll hhead.holdsAll⟩, has⟩
  | s, (r, .error e) :: rest, (r', .error e') :: outs, h => by
      obtain ⟨⟨⟨hr, he⟩, -⟩, hrest⟩ := reads_cons_iff.mp h
      cases hr
      cases he
      refine Follows.get ?_
      rw [Plan.collect]
      cases hlenient : s.config.lenient with
      | false => exact Follows.throw
      | true =>
          refine Follows.bind (follows_note _) fun _ t hlog _ => ?_
          have hcollect : t.Builds (collectMembers type category rest) _ _ :=
            builds_collectMembers (hrest.mono hlog.grows)
          rw [hlog.config, hlenient] at hcollect
          exact hcollect
  | _, (_, .ok _) :: _, (_, .error _) :: _, h => (reads_cons_iff.mp h).1.text.2.elim
  | _, (_, .error _) :: _, (_, .ok _) :: _, h => (reads_cons_iff.mp h).1.text.2.elim
  | _, [], _ :: _, h => nomatch h.text
  | _, _ :: _, [], h => nomatch h.text

/-- A class of a type that has none can be added while the classes are not sealed. -/
theorem builds_addClass {make : Nat → ClassEntry} {c : ClassDef}
    (hmake : ∀ row, s.Reads (make row) c) (havailable : s.available c.type = .ok ()) :
    s.Builds (addClass make) (Plan.step (.classDef c)) c := by
  intro hs
  obtain ⟨hopen, hnew⟩ := available_eq_ok_iff.mp havailable
  obtain ⟨⟨htext, hmethods⟩, hitems⟩ := hmake s.classes.slots.size
  refine ⟨_, ?_, ?_, .inl ⟨_, rfl, rfl, ⟨htext, hmethods⟩, hitems⟩⟩
  · exact {
      canonical := { hs.canonical with }
      keyed := fun hi => hs.keyed hi
      closed := fun hi => hs.closed hi
      fits := fun hi => hs.fits hi
      settled := fun hk => hs.settled hk
      classReads := by
        intro c' hc'
        rcases List.mem_cons.mp hc' with rfl | hc'
        · exact ⟨⟨rfl, hmethods⟩, hitems⟩
        · exact hs.classReads c' hc'
      classTypes := by
        refine List.nodup_cons.mpr ⟨?_, hs.classTypes⟩
        have htype : (make s.classes.slots.size).type.text = c.type :=
          congrArg (fun c : ClassDef => c.type) htext
        show (make s.classes.slots.size).type.text ∉ _
        rw [htype]
        exact hnew
      sealedOrder := fun order horder => by
        rw [show _ = none from hopen] at horder
        cases horder
    }
  · exact {
      config := rfl
      grows := Grows.refl s
      has := fun k => by
        show s.Has k ↔ _
        simp [Plan.step]
      classes := ⟨[make s.classes.slots.size], rfl, congrArg (fun c => [c]) htext⟩
      sealedOrder := rfl
      notes := (List.append_nil _).symm
    }

theorem Reads.fields {fields : List PooledField} {fs : List FieldDef} (h : s.Reads fields fs) :
    (Sorted.sort PooledField.compare (fields.partition PooledField.isStatic).1).map
        PooledField.readBack = Sorted.sort FieldDef.compare (fs.partition FieldDef.isStatic).1 ∧
      (Sorted.sort PooledField.compare (fields.partition PooledField.isStatic).2).map
        PooledField.readBack = Sorted.sort FieldDef.compare (fs.partition FieldDef.isStatic).2 := by
  rw [← forall₂_eq_map h.text]
  exact Sorted.map_sorted_parts (fun _ => rfl) fun f _ g _ => FieldEntry.compare_eq f.ref g.ref

/-- The methods of a class, split and sorted, read back to those of its definition. They are
sorted by what they are referred to by, which is what their parameters say. -/
theorem Reads.methods {methods : List PooledMethod} {ms : List MethodDef}
    (h : s.Reads methods ms) :
    (Sorted.sort PooledMethod.compare (methods.partition PooledMethod.isDirect).1).map
        PooledMethod.readBack = Sorted.sort MethodDef.compare (ms.partition MethodDef.isDirect).1 ∧
      (Sorted.sort PooledMethod.compare (methods.partition PooledMethod.isDirect).2).map
        PooledMethod.readBack =
          Sorted.sort MethodDef.compare (ms.partition MethodDef.isDirect).2 := by
  have hrefs := h.memberRefs
  rw [← forall₂_eq_map (h.text.imp fun _ _ hm => hm.1)]
  refine Sorted.map_sorted_parts (fun _ => rfl) fun m hm n hn => ?_
  show m.ref.compare n.ref = m.readBack.ref.compare n.readBack.ref
  rw [MethodEntry.compare_eq, hrefs m hm, hrefs n hn]

theorem Reads.checkFields {type : TypeEntry} {d : String} {fields : List PooledField}
    {fs : List FieldDef} (h : s.Reads fields fs) (hs : s.Sound) (htype : s.Reads type d) :
    Session.checkFields type [] fields = checkMembers d [] (fs.map fun f => .field f.ref) := by
  rw [← forall₂_eq_map h.text, List.map_map, ← show type.text = d from htype.text]
  exact checkFields_eq hs htype.holdsAll (holdsAll_flatMap.mp h.holdsAll) fun _ _ => by simp

theorem Reads.checkMethods {type : TypeEntry} {d : String} {methods : List PooledMethod}
    {ms : List MethodDef} (h : s.Reads methods ms) (hs : s.Sound) (htype : s.Reads type d) :
    Session.checkMethods type [] methods = checkMembers d [] (ms.map fun m => .method m.ref) := by
  have hrefs : (ms.map fun m => MemberRef.method m.ref) =
      methods.map fun m => MemberRef.method m.ref.ref := by
    rw [← forall₂_eq_map (h.text.imp fun _ _ hm => hm.1), List.map_map]
    exact List.map_congr_left fun m hm => congrArg MemberRef.method (h.memberRefs m hm).symm
  rw [hrefs, ← show type.text = d from htype.text]
  exact checkMethods_eq hs htype.holdsAll (holdsAll_flatMap.mp h.holdsAll) fun _ _ => by simp

/-- A class of pooled parts, with the members split and sorted, reads back to the form of its
definition. -/
theorem reads_assemble {header : ClassHeader} {type : TypeEntry} {superclass : Option TypeEntry}
    {interfaces : TypeListEntry} {file : Option StringEntry} {set : AnnotationSetEntry}
    {fields : List PooledField} {methods : List PooledMethod} {fs : List FieldDef}
    {ms : List MethodDef} (htype : s.Reads type header.type)
    (hsuper : s.Reads superclass header.superclass)
    (hinterfaces : s.Reads interfaces (ClassDef.dedupInterfaces header.interfaces))
    (hfile : s.Reads file header.sourceFile) (hset : s.Reads set header.annotations)
    (hfields : s.Reads fields fs) (hmethods : s.Reads methods ms) (row : Nat) :
    s.Reads (ClassEntry.mk row type header.flags superclass interfaces file set
      (Sorted.sort PooledField.compare (fields.partition PooledField.isStatic).1)
      (Sorted.sort PooledField.compare (fields.partition PooledField.isStatic).2)
      (Sorted.sort PooledMethod.compare (methods.partition PooledMethod.isDirect).1)
      (Sorted.sort PooledMethod.compare (methods.partition PooledMethod.isDirect).2))
      (ClassDef.assemble header fs ms) := by
  refine ⟨⟨?_, fun m hm => hmethods.memberRefs m (Sorted.mem_sorted_parts.mp hm)⟩, ?_⟩
  · have hheader : (⟨type.text, header.flags, superclass.map TypeEntry.text, interfaces.texts,
        file.map StringEntry.text, set.readBack⟩ : ClassHeader) =
          { header with interfaces := ClassDef.dedupInterfaces header.interfaces } := by
      rw [show type.text = _ from htype.text, optionRel_eq_map hsuper.text,
        show interfaces.texts = _ from hinterfaces.text, optionRel_eq_map hfile.text,
        show set.readBack = _ from hset.text]
    rw [ClassEntry.readBack, hfields.fields.1, hfields.fields.2, hmethods.methods.1,
      hmethods.methods.2]
    exact congrArg (fun h => ClassDef.mk h _ _ _ _) hheader
  · show s.HoldsAll (_ ++ _ ++ _ ++ _ ++ _ ++ _ ++ _)
    simp only [holdsAll_append]
    refine ⟨⟨⟨⟨⟨⟨htype.holdsAll, hsuper.holdsAll⟩, hinterfaces.holdsAll⟩, hfile.holdsAll⟩,
      hset.holdsAll⟩, ?_⟩, ?_⟩
    · exact holdsAll_flatMap.mpr fun f hf =>
        holdsAll_flatMap.mp hfields.holdsAll f (Sorted.mem_sorted_parts.mp hf)
    · exact holdsAll_flatMap.mpr fun m hm =>
        holdsAll_flatMap.mp hmethods.holdsAll m (Sorted.mem_sorted_parts.mp hm)

/-- The class put together from members of the session reads back to the one put together from
their definitions, whatever the order of the members. -/
theorem builds_defineClassFrom {header : ClassHeader} {fields : List PooledField}
    {methods : List PooledMethod} {fs : List FieldDef} {ms : List MethodDef}
    (hfields : s.Reads fields fs) (hmethods : s.Reads methods ms) :
    s.Builds (defineClassFrom header fields methods)
      (Plan.classFrom (s.available header.type) header fs ms) (.assemble header fs ms) := by
  refine Follows.guard_not ?_
  refine Follows.bind (builds_internType header.type) fun type t hlog htype => ?_
  refine Follows.get ?_
  rw [checkAvailable_eq, show type.text = header.type from htype.text,
    hlog.available_eq (Plan.Below.type _)]
  refine Follows.check fun _ havailable => Follows.of_sound fun ht => ?_
  have hfields' := hfields.mono hlog.grows
  have hmethods' := hmethods.mono hlog.grows
  rw [hfields'.checkFields ht htype, hmethods'.checkMethods ht htype]
  refine Follows.check fun _ _ => Follows.check fun _ _ => ?_
  refine Follows.bind (builds_internType? header.superclass) fun superclass u hlog₁ hsuper => ?_
  refine Follows.bind (builds_internTypeList _) fun interfaces v hlog₂ hinterfaces => ?_
  refine Follows.bind (builds_internString? header.sourceFile) fun file w hlog₃ hfile => ?_
  refine Follows.bind (builds_internAnnotationSet header.annotations) fun set x hlog₄ hset => ?_
  have hgrows : t.Grows x :=
    ((hlog₁.grows.trans hlog₂.grows).trans hlog₃.grows).trans hlog₄.grows
  refine builds_addClass (fun row => reads_assemble (htype.mono hgrows) ?_ ?_ ?_ hset
    (hfields'.mono hgrows) (hmethods'.mono hgrows) row) ?_
  · exact ((hsuper.mono hlog₂.grows).mono hlog₃.grows).mono hlog₄.grows
  · exact (hinterfaces.mono hlog₃.grows).mono hlog₄.grows
  · exact hfile.mono hlog₄.grows
  · show x.available header.type = .ok ()
    rw [hlog₄.available_eq (Plan.Below.annotationSet _),
      hlog₃.available_eq (Plan.Only.forM_option Plan.Below.string _),
      hlog₂.available_eq (Plan.Below.typeList _),
      hlog₁.available_eq (Plan.Only.forM_option Plan.Below.type _),
      hlog.available_eq (Plan.Below.type _)]
    exact havailable

theorem builds_tried {α β : Type} [Pooled α β] {op : Build α} {p : Plan Unit} {b : β}
    (h : s.Builds op p b) (member : MemberRef) :
    s.Builds (attempt op >>= fun out => pure (member, out)) p.attempted
      (member, p.outcome.map fun _ => b) :=
  Follows.map (Follows.attempt h) fun _ _ _ hout => ⟨⟨rfl, hout.text⟩, hout.holdsAll⟩

theorem builds_triedFields (c : ClassDef) :
    s.Builds (c.fields.mapM fun f => return (MemberRef.field f.ref, ← attempt (defineField f)))
      (c.fields.forM fun f => (Plan.fieldDef f).attempted) (Plan.triedFields c) :=
  Follows.mapM fun f _ _ _ => builds_tried (builds_defineField f) _

theorem builds_triedMethods (c : ClassDef) :
    s.Builds (c.methods.mapM fun m => return (MemberRef.method m.ref, ← attempt (defineMethod m)))
      (c.methods.forM fun m => (Plan.methodDef s.config.apiLevel m).attempted)
      (Plan.triedMethods s.config.apiLevel c) := by
  refine Follows.mapM fun m _ t ht => ?_
  rw [← ht]
  exact builds_tried (builds_defineMethod m) _

/-- The class of a definition reads back to what is put together from the members that come
through. -/
theorem builds_defineClass (c : ClassDef) :
    s.Builds (defineClass c) (Plan.classDef s.config (s.available c.type) c)
      (Plan.classBuilt s.config c) := by
  refine Follows.bind (builds_internType c.type) fun type t hlog htype => ?_
  refine Follows.get ?_
  rw [checkAvailable_eq, show type.text = c.type from htype.text,
    hlog.available_eq (Plan.Below.type _)]
  refine Follows.check fun _ _ => ?_
  refine Follows.bind (builds_triedFields c) fun triedFields u hlog₁ htriedFields => ?_
  rw [show s.config.lenient = u.config.lenient by rw [hlog₁.config, hlog.config]]
  refine Follows.bind (builds_collectMembers htriedFields) fun fields v hlog₂ hfields => ?_
  have hv : v.config = s.config := by rw [hlog₂.config, hlog₁.config, hlog.config]
  rw [← hv]
  refine Follows.bind (builds_triedMethods c) fun triedMethods w hlog₃ htriedMethods => ?_
  rw [show u.config.lenient = w.config.lenient by rw [hlog₃.config, hlog₂.config]]
  refine Follows.bind (builds_collectMembers htriedMethods) fun methods x hlog₄ hmethods => ?_
  -- Members add no class, so the second look at the classes sees what the first one saw.
  have havailable : s.available c.type = x.available c.type := by
    have hbelow : (c.fields.forM fun f => (Plan.fieldDef f).attempted).Below 8 :=
      Plan.Only.forM fun f _ => (Plan.Below.fieldDef f).attempted
    have hbelow' :
        (c.methods.forM fun m => (Plan.methodDef v.config.apiLevel m).attempted).Below 9 :=
      Plan.Only.forM fun m _ => (Plan.Below.methodDef _ m).attempted
    rw [hlog₄.available_eq (Plan.Below.collect _ _ _ _), hlog₃.available_eq hbelow',
      hlog₂.available_eq (Plan.Below.collect _ _ _ _), hlog₁.available_eq hbelow,
      hlog.available_eq (Plan.Below.type _)]
  rw [havailable]
  exact builds_defineClassFrom (((hfields.mono hlog₃.grows).mono hlog₄.grows)) hmethods

end Session

end DexPools
