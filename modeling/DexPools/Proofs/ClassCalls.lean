import DexPools.Proofs.Identity
import DexPools.Proofs.Verdict

/-!
# The classes of a session are those that its calls built

Three operations build classes, and each of them does so in its very last step. Before that step
nothing touches the classes, so a call that fails leaves them as they are and one that succeeds
adds the class that it gives back. Along a run the classes are therefore the results of the calls
that succeeded, the newest first, and a type has one of them at most.

Asking for the classes in order fixes the order for good. From then on no class can be added, and
what is still asked of the classes has the answer that it had before.
-/

namespace DexPools

namespace Session

variable {α β : Type} {s t : Session}

/-! ## What a class call does to the classes -/

/-- Whether two sessions have the same classes and both or none of them are sealed. -/
def SameClasses (s t : Session) : Prop :=
  t.classes.items = s.classes.items ∧ t.classes.sealedOrder = s.classes.sealedOrder

theorem SameClasses.refl (s : Session) : s.SameClasses s :=
  ⟨rfl, rfl⟩

theorem SameClasses.trans {u : Session} (h : s.SameClasses t) (h' : t.SameClasses u) :
    s.SameClasses u :=
  ⟨h'.1.trans h.1, h'.2.trans h.2⟩

/-- Putting things into the other pools leaves the classes as they are. -/
theorem stepwise_sameClasses : Stepwise (Moves SameClasses) := by
  refine Moves.stepwise SameClasses.refl SameClasses.trans (fun h _ _ k make s => ?_)
    SameClasses.refl
  have hclasses : (h.inserted s k make).classes = s.classes := Shelf.Lawful.classes_setPool s _
  exact ⟨congrArg ClassPool.items hclasses, congrArg ClassPool.sealedOrder hclasses⟩

theorem sameClasses_note (d : Diagnostic) : Moves SameClasses (note d) :=
  fun s => SameClasses.refl s

/-- Whether an operation adds the class that it gives back, and nothing if it fails. -/
def AddsClass (op : Build ClassEntry) : Prop :=
  ∀ s : Session, (s.run op).2.classes.sealedOrder = s.classes.sealedOrder ∧
    (s.run op).2.classes.items = (s.run op).1.toOption.toList ++ s.classes.items

theorem addsClass_addClass (make : Nat → ClassEntry) : AddsClass (addClass make) :=
  fun _ => ⟨rfl, rfl⟩

theorem AddsClass.bind {op : Build α} {f : α → Build ClassEntry} (h : Moves SameClasses op)
    (hf : ∀ a, AddsClass (f a)) : AddsClass (op >>= f) := by
  intro s
  obtain ⟨hitems, hsealed⟩ := h s
  rw [run_bind]
  cases hrun : s.run op with
  | mk r t =>
      rw [hrun] at hitems hsealed
      cases r with
      | error e => exact ⟨hsealed, hitems⟩
      | ok a =>
          obtain ⟨hsealed', hitems'⟩ := hf a t
          refine ⟨hsealed'.trans hsealed, ?_⟩
          show (t.run (f a)).2.classes.items = _
          rw [hitems', hitems]

theorem addsClass_defineClassFrom (header : ClassHeader) (fields : List PooledField)
    (methods : List PooledMethod) : AddsClass (defineClassFrom header fields methods) := by
  rw [defineClassFrom_eq]
  exact AddsClass.bind (stepwise_sameClasses.classMaker header fields methods)
    addsClass_addClass

theorem addsClass_defineClass (c : ClassDef) : AddsClass (defineClass c) := by
  rw [defineClass_eq]
  exact AddsClass.bind
    (stepwise_sameClasses.classMembers Moves.get sameClasses_note c)
    fun _ => addsClass_defineClassFrom _ _ _

/-! ## The calls of an operation that succeed -/

/-- The type of a class call with the class that it gave back, if it succeeds. -/
def builtBy (s : Session) (type : String) (call : Build ClassEntry) : List (String × ClassEntry) :=
  (s.run call).1.toOption.toList.map (type, ·)

/-- What a batch of class calls built up to the first that fails, the oldest first. -/
def builtByAll : Session → List ClassDef → List (String × ClassEntry)
  | _, [] => []
  | s, c :: cs =>
      match s.run (defineClass c) with
      | (.ok e, t) => (c.type, e) :: t.builtByAll cs
      | (.error _, _) => []

end Session

/-- The class calls of an operation that succeed, each with its type and with what it gave back,
the oldest first. -/
def Operation.built (s : Session) : Operation → List (String × ClassEntry)
  | ask (.classDef c) => s.builtBy c.type (Session.defineClass c)
  | askAll cs => s.builtByAll cs
  | classFrom header fields methods =>
      s.builtBy header.type (Session.defineClassFrom header fields methods)
  | _ => []

/-- The class calls of a run that succeed, the oldest first. -/
def History.built : History → List Operation → List (String × ClassEntry)
  | _, [] => []
  | h, op :: ops => op.built h.session ++ (h.step op).built ops

namespace Session

variable {s t : Session} {b : String × ClassEntry}

/-- Whether the classes of a session are those of another and what was built since. -/
def ClassesAfter (s : Session) (built : List (String × ClassEntry)) (t : Session) : Prop :=
  t.classes.items = (built.map Prod.snd).reverse ++ s.classes.items

theorem ClassesAfter.trans {u : Session} {built built' : List (String × ClassEntry)}
    (h : s.ClassesAfter built t) (h' : t.ClassesAfter built' u) :
    s.ClassesAfter (built ++ built') u := by
  rw [ClassesAfter, h', h, List.map_append, List.reverse_append, List.append_assoc]

theorem SameClasses.classesAfter (h : s.SameClasses t) : s.ClassesAfter [] t :=
  h.1

theorem AddsClass.classesAfter {call : Build ClassEntry} (h : AddsClass call) (type : String) :
    s.ClassesAfter (s.builtBy type call) (s.run call).2 := by
  rw [ClassesAfter, (h s).2, builtBy]
  cases (s.run call).1 <;> rfl

theorem run_defineClasses_snd (c : ClassDef) (cs : List ClassDef) :
    (s.run (defineClasses (c :: cs))).2 = match s.run (defineClass c) with
      | (.ok _, t) => (t.run (defineClasses cs)).2
      | (.error _, t) => t := by
  unfold defineClasses
  rw [List.mapM_cons, run_bind]
  rcases s.run (defineClass c) with ⟨e | a, t⟩
  · rfl
  · exact run_map_snd _ _

theorem classesAfter_defineClasses (s : Session) (cs : List ClassDef) :
    s.ClassesAfter (s.builtByAll cs) (s.run (defineClasses cs)).2 ∧
      (s.run (defineClasses cs)).2.classes.sealedOrder = s.classes.sealedOrder := by
  induction cs generalizing s with
  | nil => exact ⟨rfl, rfl⟩
  | cons c cs ih =>
      obtain ⟨hsealed, hitems⟩ := addsClass_defineClass c s
      rw [run_defineClasses_snd, builtByAll]
      cases hrun : s.run (defineClass c) with
      | mk r t =>
          rw [hrun] at hsealed hitems
          cases r with
          | error e => exact ⟨hitems, hsealed⟩
          | ok e =>
              have hone : s.ClassesAfter [(c.type, e)] t := hitems
              exact ⟨hone.trans (ih t).1, (ih t).2.trans hsealed⟩

/-- What an operation does to the classes: it adds those that its calls built, and it does not
touch the seal unless it asks for the classes in order. -/
theorem classesAfter_act (s : Session) (op : Operation) :
    s.ClassesAfter (op.built s) (s.run op.act).2 ∧
      (op ≠ .sortedClasses → (s.run op.act).2.classes.sealedOrder = s.classes.sealedOrder) := by
  -- Most operations build no class and only have to leave the classes as they are.
  have hsame : ∀ {t : Session}, s.SameClasses t → s.ClassesAfter [] t ∧
      (op ≠ .sortedClasses → t.classes.sealedOrder = s.classes.sealedOrder) :=
    fun h => ⟨h.classesAfter, fun _ => h.2⟩
  have hslots : op.writesSlot = true → s.SameClasses (s.run op.act).2 := fun h =>
    ⟨congrArg (fun t => t.classes.items) (unslotted_of_writesSlot h),
      congrArg (fun t => t.classes.sealedOrder) (unslotted_of_writesSlot h)⟩
  cases op with
  | ask r =>
      cases hr : r.classType? with
      | none =>
          have hbuilt : (Operation.ask r).built s = [] := by
            cases r with
            | classDef c => cases hr
            | _ => rfl
          rw [hbuilt, Operation.act, run_map_snd]
          exact hsame (stepwise_sameClasses.ask hr s)
      | some d =>
          cases r with
          | classDef c =>
              rw [Operation.act, run_map_snd, ask, run_map_snd]
              exact ⟨(addsClass_defineClass c).classesAfter c.type,
                fun _ => (addsClass_defineClass c s).1⟩
          | _ => cases hr
  | askAll cs =>
      rw [Operation.act, run_map_snd]
      exact ⟨(classesAfter_defineClasses s cs).1, fun _ => (classesAfter_defineClasses s cs).2⟩
  | resolveAgain i =>
      rw [Operation.act, run_map_snd]
      exact hsame (stepwise_sameClasses.instruction
        (fun _ => stepwise_sameClasses.internReference _) i s)
  | resolveDebugItemAgain d =>
      rw [Operation.act, run_map_snd]
      exact hsame (stepwise_sameClasses.debugItem
        (fun _ => stepwise_sameClasses.internString _)
        (fun _ => stepwise_sameClasses.internType _) d s)
  | classFrom header fields methods =>
      have hadds := addsClass_defineClassFrom header fields methods
      rw [Operation.act, run_map_snd]
      exact ⟨hadds.classesAfter header.type, fun _ => (hadds s).1⟩
  | sortedClasses =>
      rw [Operation.act, run_map_snd]
      exact ⟨items_sorted s.classes, fun h => absurd rfl h⟩
  | note d =>
      rw [Operation.act, run_map_snd]
      exact hsame (sameClasses_note d s)
  | setNumber i n => exact hsame (hslots rfl)
  | setClassSlot c slot value => exact hsame (hslots rfl)
  | setMethodSlot m slot value => exact hsame (hslots rfl)

/-! ## Classes are built under the type that was asked for -/

theorem mem_builtBy_iff {type : String} {call : Build ClassEntry} :
    b ∈ s.builtBy type call ↔ b.1 = type ∧ (s.run call).1 = .ok b.2 := by
  obtain ⟨d, c⟩ := b
  unfold builtBy
  cases (s.run call).1 with
  | error e => simp [Except.toOption]
  | ok c' => simp [Except.toOption, eq_comm]

theorem type_of_builds {call : Build ClassEntry} {p : Plan Unit} {c : ClassDef} {e : ClassEntry}
    (hcall : s.Builds call p c) (hs : s.Sound) (he : (s.run call).1 = .ok e) :
    e.type.text = c.type := by
  obtain ⟨-, -, -, hreads⟩ := hcall.of_run hs (Prod.ext he rfl)
  exact congrArg (fun c : ClassDef => c.type) hreads.text.1

theorem type_of_mem_builtByAll (hs : s.Sound) {cs : List ClassDef} (hb : b ∈ s.builtByAll cs) :
    b.2.type.text = b.1 := by
  induction cs generalizing s with
  | nil => cases hb
  | cons c cs ih =>
      rw [builtByAll] at hb
      obtain ⟨t, ht, -, ⟨e, hrun, -, hreads⟩ | ⟨err, hrun, -⟩⟩ := builds_defineClass c hs
      · rw [hrun] at hb
        rcases List.mem_cons.mp hb with rfl | hb
        · exact congrArg (fun c : ClassDef => c.type) hreads.text.1
        · exact ih ht hb
      · rw [hrun] at hb
        cases hb

end Session

namespace History

open Session

variable {h : History} {op : Operation} {ops later : List Operation} {b : String × ClassEntry}

theorem Sound.type_of_mem_built (hh : h.Sound) (howns : h.Owns op)
    (hb : b ∈ op.built h.session) : b.2.type.text = b.1 := by
  cases op with
  | ask r =>
      cases r with
      | classDef c =>
          obtain ⟨htype, hrun⟩ := mem_builtBy_iff.mp hb
          rw [htype]
          exact (type_of_builds (builds_defineClass c) hh.session hrun :)
      | _ => cases hb
  | askAll cs => exact type_of_mem_builtByAll hh.session hb
  | classFrom header fields methods =>
      obtain ⟨htype, hrun⟩ := mem_builtBy_iff.mp hb
      rw [htype]
      exact (type_of_builds (builds_defineClassFrom
        (reads_map fun f hf => hh.reads_field (howns.1 f hf))
        (reads_map fun m hm => hh.reads_method (howns.2 m hm))) hh.session hrun :)
  | _ => cases hb

theorem Sound.type_of_mem_built_run (hh : h.Sound) (hops : h.OwnsEach ops)
    (hb : b ∈ h.built ops) : b.2.type.text = b.1 := by
  induction ops generalizing h with
  | nil => cases hb
  | cons op ops ih =>
      rcases List.mem_append.mp hb with hb | hb
      · exact hh.type_of_mem_built hops.1 hb
      · exact ih (hh.step hops.1) hops.2 hb

/-! ## Runs -/

/-- The classes after a run are those from before and those that its calls built. -/
theorem classesAfter_steps (h : History) (ops : List Operation) :
    h.session.ClassesAfter (h.built ops) (h.steps ops).session := by
  induction ops generalizing h with
  | nil => rfl
  | cons op ops ih =>
      have hstep : h.session.ClassesAfter (op.built h.session) (h.step op).session := by
        rw [step_session]
        exact (classesAfter_act h.session op).1
      exact hstep.trans (ih (h.step op))

/-- Only a request for a member hands out something. -/
theorem run_act_eq_ok {s t : Session} {members : List PooledField × List PooledMethod}
    (hrun : s.run op.act = (.ok members, t)) : members = ([], []) ∨
      ∃ r a, op = .ask r ∧ s.run (ask r) = (.ok a, t) ∧ members = (a.fields, a.methods) := by
  cases op with
  | ask r =>
      obtain ⟨a, hask, rfl⟩ := run_map_eq_ok_iff.mp hrun
      exact .inr ⟨r, a, rfl, hask, rfl⟩
  | _ =>
      obtain ⟨_, -, rfl⟩ := run_map_eq_ok_iff.mp hrun
      exact .inl rfl

theorem mem_items_step_iff {c : ClassEntry} : c ∈ (h.step op).session.classes.items ↔
    c ∈ h.session.classes.items ∨ ∃ b ∈ op.built h.session, b.2 = c := by
  rw [step_session, (classesAfter_act h.session op).1, List.mem_append, List.mem_reverse,
    List.mem_map, or_comm]

/-- A field that is owned after an operation was owned before, or the operation handed it out, or
it belongs to a class that the operation built. So `ownsMethod_step` of methods. -/
theorem ownsField_step {f : PooledField} (hf : (h.step op).OwnsField f) : h.OwnsField f ∨
    (∃ r a t, op = .ask r ∧ h.session.run (ask r) = (.ok a, t) ∧ f ∈ a.fields) ∨
      ∃ b ∈ op.built h.session, f ∈ b.2.fields := by
  rcases hf with hf | ⟨c, hc, hf⟩
  · unfold step at hf
    split at hf
    · next fields methods t hrun =>
      rcases List.mem_append.mp hf with hnew | hold
      · rcases run_act_eq_ok hrun with hnothing | ⟨r, a, hop, hask, hmembers⟩
        · cases hnothing
          cases hnew
        · cases hmembers
          exact .inr (.inl ⟨r, a, t, hop, hask, hnew⟩)
      · exact .inl (.inl hold)
    · exact .inl (.inl hf)
  · rcases mem_items_step_iff.mp hc with hc | ⟨b, hb, rfl⟩
    · exact .inl (.inr ⟨c, hc, hf⟩)
    · exact .inr (.inr ⟨b, hb, hf⟩)

theorem ownsMethod_step {m : PooledMethod} (hm : (h.step op).OwnsMethod m) : h.OwnsMethod m ∨
    (∃ r a t, op = .ask r ∧ h.session.run (ask r) = (.ok a, t) ∧ m ∈ a.methods) ∨
      ∃ b ∈ op.built h.session, m ∈ b.2.methods := by
  rcases hm with hm | ⟨c, hc, hm⟩
  · unfold step at hm
    split at hm
    · next fields methods t hrun =>
      rcases List.mem_append.mp hm with hnew | hold
      · rcases run_act_eq_ok hrun with hnothing | ⟨r, a, hop, hask, hmembers⟩
        · cases hnothing
          cases hnew
        · cases hmembers
          exact .inr (.inl ⟨r, a, t, hop, hask, hnew⟩)
      · exact .inl (.inl hold)
    · exact .inl (.inl hm)
  · rcases mem_items_step_iff.mp hc with hc | ⟨b, hb, rfl⟩
    · exact .inl (.inr ⟨c, hc, hm⟩)
    · exact .inr (.inr ⟨b, hb, hm⟩)

theorem sealedOrder_sorted (p : ClassPool) : p.sorted.2.sealedOrder = some p.sorted.1 := by
  unfold ClassPool.sorted
  split
  · next order hsealed => exact hsealed
  · rfl

theorem isSealed_step_iff : (h.step op).session.classes.isSealed = true ↔
    h.session.classes.isSealed = true ∨ op = .sortedClasses := by
  rw [step_session]
  by_cases hop : op = .sortedClasses
  · subst hop
    rw [Operation.act, run_map_snd]
    show h.session.classes.sorted.2.isSealed = true ↔ _
    rw [ClassPool.isSealed, sealedOrder_sorted]
    simp
  · unfold ClassPool.isSealed
    rw [(classesAfter_act h.session op).2 hop]
    simp [hop]

/-- Nothing but asking for the classes in order seals them, and nothing opens them again. -/
theorem isSealed_steps_iff : (h.steps ops).session.classes.isSealed = true ↔
    h.session.classes.isSealed = true ∨ .sortedClasses ∈ ops := by
  induction ops generalizing h with
  | nil => simp [steps]
  | cons op ops ih =>
      show ((h.step op).steps ops).session.classes.isSealed = true ↔ _
      rw [ih, isSealed_step_iff, List.mem_cons, or_assoc]
      simp only [eq_comm]

end History

/-! ## Sealed classes -/

namespace Session

variable {α : Type} {s t : Session} {order : List ClassEntry}

/-- Looking up whether a class can be added fails once the classes are sealed, whatever would come
afterwards. Only a descriptor that is none is found at fault before that. -/
theorem run_of_sealed (hs : s.Sound) (hsealed : s.classes.isSealed = true) (d : String)
    (f : TypeEntry → Unit → Build α) :
    ∃ e t, s.run (do
        let type ← internType d
        let st ← get
        let available ← liftM (st.classes.checkAvailable type)
        f type available) = (.error e, t) ∧
      (Descriptor.check true d = .ok () → e = .poolSealed) := by
  have hsame := stepwise_sameClasses.internType d s
  rw [run_bind]
  obtain ⟨t, -, -, ⟨type, hrun, -, -⟩ | ⟨e, hrun, herror⟩⟩ := builds_internType d hs
  · rw [hrun] at hsame ⊢
    have hclosed : t.classes.checkAvailable type = .error .poolSealed := by
      unfold ClassPool.isSealed at hsealed
      rw [ClassPool.checkAvailable, ClassPool.isSealed, hsame.2, if_pos hsealed]
    refine ⟨.poolSealed, t, ?_, fun _ => rfl⟩
    show t.run (liftM (t.classes.checkAvailable type) >>= f type) = _
    rw [hclosed]
    rfl
  · rw [hrun]
    refine ⟨e, t, rfl, fun hok => ?_⟩
    have hplan : (Plan.type d).outcome = .ok () := by
      rw [Plan.type, Plan.typeParts, hok]
      rfl
    rw [hplan] at herror
    cases herror

/-- What is left to do with the classes once they were handed out in order: they are handed out
again, no class can be built in any of the three ways, and everything else is met as it is in
a new session. -/
structure SealedAs (s : Session) (order : List ClassEntry) : Prop where
  again : s.run sortedClasses = (.ok order, s)
  classDef : ∀ c, ∃ e t, s.run (defineClass c) = (.error e, t) ∧
    (Descriptor.check true c.type = .ok () → e = .poolSealed)
  classDefs : ∀ c cs, ∃ e t, s.run (defineClasses (c :: cs)) = (.error e, t) ∧
    (Descriptor.check true c.type = .ok () → e = .poolSealed)
  classFrom : ∀ header fields methods, ∃ e t,
    s.run (defineClassFrom header fields methods) = (.error e, t) ∧
      (Descriptor.looksLikeClass header.type = true → Descriptor.check true header.type = .ok () →
        e = .poolSealed)
  others : ∀ r, r.classType? = none → s.SameVerdict (Session.new s.config) r

theorem Sound.sealedAs (hs : s.Sound) (hsealed : s.classes.sealedOrder = some order) :
    s.SealedAs order := by
  have hclosed : s.classes.isSealed = true := by
    rw [ClassPool.isSealed, hsealed]
    rfl
  have hclass : ∀ c, ∃ e t, s.run (defineClass c) = (.error e, t) ∧
      (Descriptor.check true c.type = .ok () → e = .poolSealed) := fun c =>
    run_of_sealed hs hclosed c.type _
  refine {
    again := ?_
    classDef := hclass
    classDefs := fun c cs => ?_
    classFrom := fun header fields methods => ?_
    others := fun r hr => hs.sameVerdict (sound_new _) rfl hr
  }
  · show (Except.ok s.classes.sorted.1, { s with classes := s.classes.sorted.2 }) = _
    rw [ClassPool.sorted, hsealed]
  · obtain ⟨e, t, hrun, he⟩ := hclass c
    refine ⟨e, t, ?_, he⟩
    rw [defineClasses, List.mapM_cons, run_bind, hrun]
  · by_cases hlooks : Descriptor.looksLikeClass header.type = true
    · unfold defineClassFrom
      simp only [if_pos hlooks]
      obtain ⟨e, t, hrun, he⟩ := run_of_sealed hs hclosed header.type _
      exact ⟨e, t, hrun, fun _ => he⟩
    · unfold defineClassFrom
      simp only [if_neg hlooks]
      exact ⟨_, s, rfl, fun h => absurd h hlooks⟩

/-- Once the classes are sealed, later sessions have the same. -/
theorem Extends.classes_eq_of_sealed (h : s.Extends t) (hs : s.Sound) (ht : t.Sound)
    (hsealed : s.classes.sealedOrder = some order) : t.classes.items = s.classes.items := by
  have hlength : ∀ {u : Session}, u.Sound → u.classes.sealedOrder = some order →
      order.length = u.classes.items.length := by
    intro u hu horder
    rw [hu.sealedOrder order horder, (Sorted.sort_perm _ _).length_eq, List.length_reverse]
  refine (h.classes.items.eq_of_length ?_).symm
  rw [← hlength hs hsealed, hlength ht (h.classes.sealedOrder order hsealed)]

theorem class?_eq_of_items_eq (hs : s.Sound) (ht : t.Sound)
    (h : t.classes.items = s.classes.items) (d : String) : t.class? d = s.class? d := by
  refine Option.ext fun c => ?_
  rw [class?_eq_some_iff ht, class?_eq_some_iff hs, h]

/-- What a session tells of its classes: a type has the class that was built for it, and the order
that is handed out is that of all classes. -/
structure ListsBuilt (s : Session) (built : List (String × ClassEntry))
    (order : List ClassEntry) : Prop where
  class? : ∀ d c, s.class? d = some c ↔ (d, c) ∈ built
  once : (built.map Prod.fst).Nodup
  sorted : (s.run sortedClasses).1 = .ok order
  perm : order.Perm (built.map Prod.snd)
  ascending : order.Pairwise fun a b => Text.compareUnits a.type.text b.type.text = .lt

theorem ClassesAfter.listsBuilt {built : List (String × ClassEntry)} {config : Config}
    (h : (Session.new config).ClassesAfter built s) (hs : s.Sound)
    (htypes : ∀ b ∈ built, b.2.type.text = b.1) : s.ListsBuilt built s.classes.sorted.1 := by
  have hitems : s.classes.items.reverse = built.map Prod.snd := by
    rw [show s.classes.items = _ ++ [] from h, List.append_nil, List.reverse_reverse]
  have hfst : built.map Prod.fst = (built.map Prod.snd).map fun c => c.type.text := by
    rw [List.map_map]
    exact List.map_congr_left fun b hb => (htypes b hb).symm
  have honce : ((built.map Prod.snd).map fun c => c.type.text).Nodup := by
    rw [← hitems, List.map_reverse]
    exact List.nodup_reverse.mpr hs.classTypes
  refine {
    class? := fun d c => ?_
    once := by rwa [hfst]
    sorted := rfl
    perm := ?_
    ascending := ?_
  }
  · rw [class?_eq_some_iff hs, ← List.mem_reverse, hitems, List.mem_map]
    constructor
    · rintro ⟨⟨⟨d', c'⟩, hmem, rfl⟩, rfl⟩
      rwa [htypes _ hmem]
    · exact fun hmem => ⟨⟨(d, c), hmem, rfl⟩, htypes _ hmem⟩
  · rw [hs.sorted_eq, hitems]
    exact Sorted.sort_perm _ _
  · rw [hs.sorted_eq, hitems]
    have hne : (built.map Prod.snd).Pairwise fun a b => ClassEntry.compare a b ≠ .eq := by
      refine (List.pairwise_map.mp honce).imp fun {a b} hne => ?_
      rwa [ClassEntry.compare_eq, ne_eq, Std.LawfulEqCmp.compare_eq_iff_eq]
    have hstrict : (Sorted.sort ClassEntry.compare (built.map Prod.snd)).Pairwise
        fun a b => ClassEntry.compare a b = .lt := Sorted.sort_strict hne
    exact hstrict

end Session

namespace History

open Session

variable {h : History} {later : List Operation}

/-- Once the classes were asked for in order, the order and the classes stay. -/
theorem Sound.sealedAs_steps (hh : h.Sound) (hops : h.OwnsEach (.sortedClasses :: later)) :
    (h.steps (.sortedClasses :: later)).session.SealedAs h.session.classes.sorted.1 ∧
      (h.steps (.sortedClasses :: later)).session.classes.items = h.session.classes.items := by
  have hasked : (h.step .sortedClasses).Sound := hh.step hops.1
  have hend : (h.steps (.sortedClasses :: later)).Sound := hasked.steps hops.2
  have hextends : (h.step .sortedClasses).session.Extends
      (h.steps (.sortedClasses :: later)).session := extends_steps (h.step .sortedClasses) later
  have hclasses : (h.step .sortedClasses).session.classes = h.session.classes.sorted.2 := by
    rw [step_session, Operation.act, run_map_snd]
    rfl
  have hsealed : (h.step .sortedClasses).session.classes.sealedOrder =
      some h.session.classes.sorted.1 := by
    rw [hclasses, sealedOrder_sorted]
  refine ⟨hend.session.sealedAs (hextends.classes.sealedOrder _ hsealed), ?_⟩
  rw [hextends.classes_eq_of_sealed hasked.session hend.session hsealed, hclasses, items_sorted]

/-- The classes of a session are what the class calls of its run built: a type has a class exactly
if a call for it succeeded, which happens once at most, and the class is the one that was given
back. The classes are sealed exactly if they were asked for in order. Asked for it, the session
lists all classes in the order of their types, and whatever comes after that, the list and the
classes stay and every class call fails, while all else can still be put in. -/
theorem classCalls (config : Config) {ops : List Operation}
    (hops : (History.new config).OwnsEach ops) :
    (((History.new config).steps ops).session.classes.isSealed = true ↔ .sortedClasses ∈ ops) ∧
      ∃ order, ((History.new config).steps ops).session.ListsBuilt
          ((History.new config).built ops) order ∧
        ∀ later, (History.new config).OwnsEach (ops ++ .sortedClasses :: later) →
          ((History.new config).steps (ops ++ .sortedClasses :: later)).session.SealedAs order ∧
            (∀ d, ((History.new config).steps (ops ++ .sortedClasses :: later)).session.class? d =
              ((History.new config).steps ops).session.class? d) ∧
            ((History.new config).steps (ops ++ .sortedClasses :: later)).session.classes.size =
              ((History.new config).steps ops).session.classes.size := by
  have hnew : (History.new config).Sound := sound_new config
  have hh : ((History.new config).steps ops).Sound := hnew.steps hops
  have hlists := (classesAfter_steps (History.new config) ops).listsBuilt hh.session
    fun b hb => hnew.type_of_mem_built_run hops hb
  refine ⟨?_, _, hlists, fun later hlater => ?_⟩
  · rw [isSealed_steps_iff]
    exact or_iff_right nofun
  · have hsealing := hh.sealedAs_steps (ownsEach_append.mp hlater).2
    have hend := (hnew.steps hlater).session
    rw [steps_append] at hend ⊢
    refine ⟨hsealing.1, class?_eq_of_items_eq hh.session hend hsealing.2, ?_⟩
    rw [ClassPool.size, hsealing.2, ClassPool.size]

/-- After the classes were asked for, a second class of a type is refused because they are sealed,
although the type has a class already. -/
theorem classCalls_sample : ∃ t, ((History.new .strict).steps
    [.ask (.classDef .sample), .sortedClasses]).session.run (defineClass .sample) =
      (.error .poolSealed, t) := by
  have hops : (History.new .strict).OwnsEach [.ask (.classDef .sample)] := ⟨trivial, trivial⟩
  obtain ⟨-, order, -, hsealed⟩ := classCalls .strict hops
  obtain ⟨e, t, hrun, he⟩ := (hsealed [] ⟨trivial, trivial, trivial⟩).1.classDef .sample
  rw [he rfl] at hrun
  exact ⟨t, hrun⟩

end History

end DexPools
