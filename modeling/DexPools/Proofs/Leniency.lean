import DexPools.Proofs.Stepwise

/-!
# A lenient session builds what a strict one builds of the survivors

Members are tried on the session that the members before them left, and what a failed member put
into the pools stays. Neither makes a difference. Whether a member fails, and with what, its plan
tells, so the members that survive are those that would survive in a new session. Skipping the
others leaves a plan that ends as the plan of the survivors does, with a note for each of the
others on the way.

If nothing is skipped, the modes do not differ at all: no step but the skipping looks at the
leniency, so the two runs go through the same sessions.
-/

namespace DexPools

/-! ## Survivors -/

/-- What comes of a field in a new session of a platform level. So `MethodDef.trial` of methods. -/
def FieldDef.trial (level : UInt32) (f : FieldDef) : Except Error PooledField :=
  ((Session.new ⟨false, level⟩).run (Session.defineField f)).1

def MethodDef.trial (level : UInt32) (m : MethodDef) : Except Error PooledMethod :=
  ((Session.new ⟨false, level⟩).run (Session.defineMethod m)).1

/-- The error of an outcome that is no success. -/
def Error.of? {α : Type} : Except Error α → Option Error
  | .ok _ => none
  | .error e => some e

/-- What a field fails with in a new session, if it does. So `MethodDef.failure?` of methods. -/
def FieldDef.failure? (level : UInt32) (f : FieldDef) : Option Error :=
  Error.of? (f.trial level)

def MethodDef.failure? (level : UInt32) (m : MethodDef) : Option Error :=
  Error.of? (m.trial level)

namespace ClassDef

/-- The class without the members that fail in a new session. -/
def survivors (level : UInt32) (c : ClassDef) : ClassDef where
  toClassHeader := c.toClassHeader
  staticFields := c.staticFields.filter fun f => (f.trial level).isOk
  instanceFields := c.instanceFields.filter fun f => (f.trial level).isOk
  directMethods := c.directMethods.filter fun m => (m.trial level).isOk
  virtualMethods := c.virtualMethods.filter fun m => (m.trial level).isOk

/-- Whether all members of the class come through in a new session. -/
def AllSurvive (level : UInt32) (c : ClassDef) : Prop :=
  (∀ f ∈ c.fields, (f.trial level).isOk = true) ∧ ∀ m ∈ c.methods, (m.trial level).isOk = true

theorem fields_survivors (level : UInt32) (c : ClassDef) :
    (c.survivors level).fields = c.fields.filter fun f => (f.trial level).isOk :=
  (List.filter_append ..).symm

theorem methods_survivors (level : UInt32) (c : ClassDef) :
    (c.survivors level).methods = c.methods.filter fun m => (m.trial level).isOk :=
  (List.filter_append ..).symm

theorem allSurvive_survivors (level : UInt32) (c : ClassDef) :
    (c.survivors level).AllSurvive level := by
  rw [AllSurvive, fields_survivors, methods_survivors]
  exact ⟨fun f hf => (List.mem_filter.mp hf).2, fun m hm => (List.mem_filter.mp hm).2⟩

theorem AllSurvive.survivors_eq {level : UInt32} {c : ClassDef} (h : c.AllSurvive level) :
    c.survivors level = c := by
  have hfields : ∀ fs : List FieldDef, fs ⊆ c.fields →
      (fs.filter fun f => (f.trial level).isOk) = fs := fun fs hfs =>
    List.filter_eq_self.mpr fun f hf => h.1 f (hfs hf)
  have hmethods : ∀ ms : List MethodDef, ms ⊆ c.methods →
      (ms.filter fun m => (m.trial level).isOk) = ms := fun ms hms =>
    List.filter_eq_self.mpr fun m hm => h.2 m (hms hm)
  rw [survivors, hfields _ (List.subset_append_left _ _), hfields _ (List.subset_append_right _ _),
    hmethods _ (List.subset_append_left _ _), hmethods _ (List.subset_append_right _ _)]

end ClassDef

theorem FieldDef.trial_eq (level : UInt32) (f : FieldDef) :
    ((f.trial level).map fun _ => f) = (Plan.fieldDef f).outcome.map fun _ => f :=
  (Session.builds_defineField f).map_outcome (Session.sound_new _) fun _ _ _ => rfl

theorem MethodDef.trial_eq (level : UInt32) (m : MethodDef) :
    ((m.trial level).map fun _ => m) = (Plan.methodDef level m).outcome.map fun _ => m :=
  (Session.builds_defineMethod m).map_outcome (Session.sound_new _) fun _ _ _ => rfl

namespace Plan

variable {α β : Type}

/-! ## Plans of the survivors -/

theorem survivors_map {ref : α → MemberRef} {trial : α → Except Error β} (xs : List α) :
    survivors (xs.map fun x => (ref x, (trial x).map fun _ => x)) =
      xs.filter fun x => (trial x).isOk := by
  induction xs with
  | nil => rfl
  | cons x xs ih =>
      rw [List.map_cons, List.filter_cons]
      cases hx : trial x with
      | error e => exact ih
      | ok b => exact congrArg (x :: ·) ih

theorem triedFields_eq (level : UInt32) (c : ClassDef) : triedFields c =
    c.fields.map fun f => (.field f.ref, (f.trial level).map fun _ => f) :=
  List.map_congr_left fun f _ => by rw [f.trial_eq]

theorem triedMethods_eq (level : UInt32) (c : ClassDef) : triedMethods level c =
    c.methods.map fun m => (.method m.ref, (m.trial level).map fun _ => m) :=
  List.map_congr_left fun m _ => by rw [m.trial_eq]

theorem survivors_triedFields (level : UInt32) (c : ClassDef) :
    survivors (triedFields c) = (c.survivors level).fields := by
  rw [triedFields_eq level, survivors_map, c.fields_survivors]

theorem survivors_triedMethods (level : UInt32) (c : ClassDef) :
    survivors (triedMethods level c) = (c.survivors level).methods := by
  rw [triedMethods_eq, survivors_map, c.methods_survivors]

theorem isOk_map {x : Except Error α} {f : α → β} : (x.map f).isOk = x.isOk := by
  cases x <;> rfl

theorem isOk_of_mem_map {ref : α → MemberRef} {trial : α → Except Error β} {xs : List α}
    (h : ∀ x ∈ xs, (trial x).isOk = true) :
    ∀ t ∈ xs.map fun x => (ref x, (trial x).map fun _ => x), t.2.isOk = true := by
  intro t ht
  obtain ⟨x, hx, rfl⟩ := List.mem_map.mp ht
  exact isOk_map.trans (h x hx)

theorem isOk_triedFields {level : UInt32} {c : ClassDef} (h : c.AllSurvive level) :
    ∀ t ∈ triedFields c, t.2.isOk = true := by
  rw [triedFields_eq level]
  exact isOk_of_mem_map h.1

theorem isOk_triedMethods {level : UInt32} {c : ClassDef} (h : c.AllSurvive level) :
    ∀ t ∈ triedMethods level c, t.2.isOk = true := by
  rw [triedMethods_eq]
  exact isOk_of_mem_map h.2

/-! ## Outcomes -/

theorem outcome_bind (p : Plan α) (f : α → Plan β) :
    (p >>= f).outcome = p.outcome >>= fun a => (f a).outcome := by
  cases h : p.outcome with
  | ok a =>
      rw [bind_of_ok h]
      rfl
  | error e =>
      rw [bind_of_error h]
      rfl

theorem outcome_forM_attempted (f : α → Plan β) (xs : List α) :
    (xs.forM fun x => (f x).attempted).outcome = .ok () := by
  induction xs with
  | nil => rfl
  | cons x xs ih => exact outcome_bind_eq_ok_iff.mpr ⟨(), rfl, ih⟩

/-- Nothing is given up at if all members came through, or if failures are noted only. -/
theorem outcome_collect {lenient : Bool} {type : String} {category : Category}
    {tried : List (MemberRef × Except Error α)}
    (h : lenient = true ∨ ∀ t ∈ tried, t.2.isOk = true) :
    (collect lenient type category tried).outcome = .ok () := by
  induction tried with
  | nil => rfl
  | cons t rest ih =>
      have hrest := ih (h.imp id fun h t ht => h t (List.mem_cons_of_mem _ ht))
      obtain ⟨member, e | a⟩ := t
      · rcases h with rfl | h
        · exact outcome_bind_eq_ok_iff.mpr ⟨(), rfl, hrest⟩
        · cases h _ List.mem_cons_self
      · exact hrest

/-- The plan of a class ends as the one of its survivors. In a lenient session nothing is given up
at, and in a strict one there is nothing to be given up at if all members survive. -/
theorem outcome_classDef {config : Config} (available : Except Error Unit) {c : ClassDef}
    (h : config.lenient = true ∨ c.AllSurvive config.apiLevel) :
    (classDef config available c).outcome = (do
      type c.type
      check available
      classFrom available c.toClassHeader (c.survivors config.apiLevel).fields
        (c.survivors config.apiLevel).methods).outcome := by
  have hfields : (collect config.lenient c.type .field (triedFields c)).outcome = .ok () :=
    outcome_collect (h.imp id fun h => isOk_triedFields h)
  have hmethods : (collect config.lenient c.type .method
      (triedMethods config.apiLevel c)).outcome = .ok () :=
    outcome_collect (h.imp id fun h => isOk_triedMethods h)
  simp only [classDef, outcome_bind, outcome_forM_attempted, hfields, hmethods,
    survivors_triedFields config.apiLevel, survivors_triedMethods]
  rfl

theorem classBuilt_eq (config : Config) (c : ClassDef) : classBuilt config c =
    .assemble c.toClassHeader (c.survivors config.apiLevel).fields
      (c.survivors config.apiLevel).methods := by
  rw [classBuilt, survivors_triedFields config.apiLevel, survivors_triedMethods]

/-! ## Notes -/

def notes (p : Plan α) : List Diagnostic :=
  p.log.filterMap Event.note?

theorem notes_bind_of_ok {p : Plan α} {f : α → Plan β} {a : α} (h : p.outcome = .ok a) :
    (p >>= f).notes = p.notes ++ (f a).notes := by
  rw [notes, bind_of_ok h]
  exact List.filterMap_append

theorem notes_bind_of_error {p : Plan α} {f : α → Plan β} {e : Error} (h : p.outcome = .error e) :
    (p >>= f).notes = p.notes := by
  rw [notes, bind_of_error h]
  rfl

/-- Whether a plan notes nothing. -/
def Quiet (p : Plan α) : Prop :=
  p.Only fun e => e.note? = none

namespace Quiet

theorem notes_eq {p : Plan α} (h : p.Quiet) : p.notes = [] :=
  List.filterMap_eq_nil_iff.mpr h

theorem note?_of_level {e : Event} (h : e.level < 8) : e.note? = none := by
  cases e with
  | note d => exact absurd h (Nat.lt_irrefl 8)
  | put _ | methodRow | classDef _ => rfl

theorem of_below {n : Nat} {p : Plan α} (h : p.Below n) (hn : n ≤ 8 := by decide) : p.Quiet :=
  fun e he => note?_of_level (h.mono hn e he)

theorem methodDef (level : UInt32) (m : MethodDef) : (Plan.methodDef level m).Quiet := by
  intro e he
  rcases only_methodDef level m e he with hlevel | rfl
  · exact note?_of_level hlevel
  · rfl

theorem classFrom (available : Except Error Unit) (header : ClassHeader) (fields : List FieldDef)
    (methods : List MethodDef) : (Plan.classFrom available header fields methods).Quiet := by
  intro e he
  rcases only_classFrom available header fields methods e he with hlevel | rfl
  · exact note?_of_level hlevel
  · rfl

end Quiet

/-- A warning for each member that failed, which says what was skipped and why. -/
theorem notes_collect {type : String} {category : Category} {ref : α → MemberRef}
    {trial : α → Except Error β} (xs : List α) :
    (collect true type category (xs.map fun x => (ref x, (trial x).map fun _ => x))).notes =
      xs.filterMap fun x => (Error.of? (trial x)).map fun e => {
        severity := .warning
        category
        message := s!"Skipped {(ref x).display}: {e.text}"
        inClass := some type
      } := by
  induction xs with
  | nil => rfl
  | cons x xs ih =>
      rw [List.map_cons, List.filterMap_cons]
      cases hx : trial x with
      | error e => exact congrArg (Session.skipNote type category (ref x) e :: ·) ih
      | ok b => exact ih

/-- If a class can be added, only the members that fail are noted. -/
theorem notes_classDef {config : Config} (hlenient : config.lenient = true) {c : ClassDef}
    (htype : (type c.type).outcome = .ok ()) :
    (classDef config (.ok ()) c).notes = (collect true c.type .field (triedFields c)).notes ++
      (collect true c.type .method (triedMethods config.apiLevel c)).notes := by
  have hfields : (collect true c.type .field (triedFields c)).outcome = .ok () :=
    outcome_collect (.inl rfl)
  have hmethods : (collect true c.type .method (triedMethods config.apiLevel c)).outcome = .ok () :=
    outcome_collect (.inl rfl)
  have htried : (c.fields.forM fun f => (fieldDef f).attempted).Quiet :=
    Only.forM fun f _ => Quiet.of_below (Below.fieldDef f)
  have htried' : (c.methods.forM fun m => (methodDef config.apiLevel m).attempted).Quiet :=
    Only.forM fun m _ => Quiet.methodDef config.apiLevel m
  rw [classDef, hlenient, notes_bind_of_ok htype, notes_bind_of_ok rfl,
    notes_bind_of_ok (outcome_forM_attempted _ _), notes_bind_of_ok hfields,
    notes_bind_of_ok (outcome_forM_attempted _ _), notes_bind_of_ok hmethods,
    (Quiet.of_below (Below.type _)).notes_eq, htried.notes_eq, htried'.notes_eq,
    (Quiet.classFrom _ _ _ _).notes_eq, List.append_nil]
  rfl

/-- A class that can not be added is not looked into. -/
theorem notes_classDef_of_refused {config : Config} {available : Except Error Unit} {c : ClassDef}
    (h : (type c.type).outcome ≠ .ok () ∨ available ≠ .ok ()) :
    (classDef config available c).notes = [] := by
  have htype : (type c.type).notes = [] := (Quiet.of_below (Below.type _)).notes_eq
  cases hplan : (type c.type).outcome with
  | error e => rw [classDef, notes_bind_of_error hplan, htype]
  | ok u =>
      cases available with
      | error e => rw [classDef, notes_bind_of_ok hplan, htype, notes_bind_of_error rfl]; rfl
      | ok u' => exact absurd h (not_or.mpr ⟨fun h => h hplan, fun h => h rfl⟩)

end Plan

namespace Session

variable {α β : Type} {s : Session} {c : ClassDef}

/-! ## What the modes have in common -/

theorem Sound.strictly (hs : s.Sound) : s.strictly.Sound :=
  hs.of_find?_eq { hs.canonical with } (fun k => by cases k <;> rfl) rfl hs.sealedOrder

/-- Whether an operation does the same in a session and in its strict copy. -/
def RunsAlike (s : Session) (op : Build α) : Prop :=
  s.strictly.run op = ((s.run op).1, (s.run op).2.strictly)

theorem RunsAlike.bind {op : Build α} {f : α → Build β} (h : s.RunsAlike op)
    (hf : ∀ a t, s.run op = (.ok a, t) → t.RunsAlike (f a)) : s.RunsAlike (op >>= f) := by
  rw [RunsAlike, run_bind, run_bind, show s.strictly.run op = _ from h]
  cases hrun : s.run op with
  | mk r t =>
      cases r with
      | error e => rfl
      | ok a => exact hf a t hrun

theorem RunsAlike.get {f : Session → Build α} (h : s.RunsAlike (f s))
    (hf : f s.strictly = f s) : s.RunsAlike (MonadState.get >>= f) := by
  rw [RunsAlike, run_bind, run_bind]
  show s.strictly.run (f s.strictly) = _
  rw [hf]
  exact h

/-- Nothing that an operation is put together from looks at the leniency. -/
theorem stepwise_runsAlike : Stepwise fun op => ∀ s : Session, s.RunsAlike op where
  pure _ _ := rfl
  bind h hf s := (h s).bind fun a t _ => hf a t
  check _ _ := rfl
  get h hf s := (h s s).get (hf s)
  insert h _ _ k make s := by
    have hpool : h.pool s.strictly = h.pool s := Shelf.Framed.pool_config s _
    have hsetPool : ∀ p, h.setPool s.strictly p = (h.setPool s p).strictly := by
      intro p
      rw [Session.strictly, Session.strictly, Shelf.Framed.setPool_config,
        Shelf.Lawful.config_setPool]
    show (Except.ok _, h.setPool s.strictly _) = (Except.ok _, (h.setPool s _).strictly)
    rw [hpool, hsetPool]
  methodRow _ := rfl
  attempt h s := by
    rw [RunsAlike, run_attempt, run_attempt, show s.strictly.run _ = _ from h s]

theorem runsAlike_defineClassFrom (header : ClassHeader) (fields : List PooledField)
    (methods : List PooledMethod) (s : Session) :
    s.RunsAlike (defineClassFrom header fields methods) := by
  rw [defineClassFrom_eq]
  exact (stepwise_runsAlike.classMaker header fields methods s).bind fun _ _ _ => rfl

/-- Members that all came through are kept without a look at the leniency. -/
theorem collectMembers_of_isOk {type : String} {category : Category}
    {tried : List (MemberRef × Except Error α)} (h : ∀ t ∈ tried, t.2.isOk = true) :
    collectMembers type category tried = pure (Plan.survivors tried) := by
  induction tried with
  | nil => rfl
  | cons t rest ih =>
      have hrest := ih fun t ht => h t (List.mem_cons_of_mem _ ht)
      obtain ⟨member, e | a⟩ := t
      · cases h _ List.mem_cons_self
      · rw [collectMembers, hrest]
        rfl

/-- An outcome is a success exactly if what it reads back to is one. -/
theorem isOk_eq_of_reads [Pooled α β] {x : Except Error α} {y : Except Error β}
    (h : Pooled.reads x y) : x.isOk = y.isOk := by
  cases x <;> cases y <;> first | rfl | exact h.elim

/-- Members come through if the members that they were tried for do. -/
theorem isOk_of_reads [Pooled α β] {tried : List (MemberRef × Except Error α)}
    {outs : List (MemberRef × Except Error β)} (h : s.Reads tried outs)
    (houts : ∀ o ∈ outs, o.2.isOk = true) : ∀ t ∈ tried, t.2.isOk = true := by
  have hmap : tried.map (fun t => t.2.isOk) = outs.map fun o => o.2.isOk := by
    rw [← List.forall₂_eq_eq_eq, List.forall₂_map_left_iff, List.forall₂_map_right_iff]
    exact h.text.imp fun t o hto => isOk_eq_of_reads hto.2
  intro t ht
  have hmem : t.2.isOk ∈ outs.map fun o => o.2.isOk := hmap ▸ List.mem_map_of_mem ht
  obtain ⟨o, ho, heq⟩ := List.mem_map.mp hmem
  rw [← heq]
  exact houts o ho

/-- A class all of whose members survive is built alike in both modes. -/
theorem runsAlike_defineClass (hs : s.Sound) (hc : c.AllSurvive s.config.apiLevel) :
    s.RunsAlike (defineClass c) := by
  have hmode := stepwise_runsAlike
  unfold defineClass
  refine (hmode.internType c.type s).bind fun type t htype => ?_
  obtain ⟨ht, hlog, -⟩ := (builds_internType c.type).of_run hs htype
  refine RunsAlike.get ?_ rfl
  refine (hmode.check _ t).bind fun _ t' hcheck => ?_
  obtain rfl : t = t' := (Prod.mk.inj hcheck).2
  refine (hmode.mapM (fun f => hmode.tried (hmode.defineField f) _) c.fields t).bind
    fun tried u htried => ?_
  obtain ⟨hu, hlog₁, -, hreads⟩ := (builds_triedFields c).of_run ht htried
  -- No member failed, so that nothing is skipped.
  rw [collectMembers_of_isOk (isOk_of_reads hreads (Plan.isOk_triedFields hc)), pure_bind]
  have hlevel : u.config.apiLevel = s.config.apiLevel := by rw [hlog₁.config, hlog.config]
  refine (hmode.mapM (fun m => hmode.tried (hmode.defineMethod m) _) c.methods u).bind
    fun tried' v htried' => ?_
  obtain ⟨hv, -, -, hreads'⟩ := (builds_triedMethods c).of_run hu htried'
  rw [← hlevel] at hc
  rw [collectMembers_of_isOk (isOk_of_reads hreads' (Plan.isOk_triedMethods hc)), pure_bind]
  exact runsAlike_defineClassFrom _ _ _ v

/-! ## The two modes -/

/-- Whether a class of a type is refused before its members are looked at. -/
def Refuses (s : Session) (d : String) : Prop :=
  Descriptor.check true d ≠ .ok () ∨ (s.class? d).isSome = true ∨ s.classes.isSealed = true

theorem available_ne_ok_iff (hs : s.Sound) {d : String} : s.available d ≠ .ok () ↔
    (s.class? d).isSome = true ∨ s.classes.isSealed = true := by
  have hclass : (s.class? d).isSome = true ↔ d ∈ s.classes.items.map fun c => c.type.text := by
    rw [Option.isSome_iff_exists, List.mem_map]
    exact exists_congr fun c => class?_eq_some_iff hs
  rw [ne_eq, available_eq_ok_iff, hclass, ClassPool.isSealed, ← Option.ne_none_iff_isSome]
  tauto

theorem type_outcome_ok_iff {d : String} :
    (Plan.type d).outcome = .ok () ↔ Descriptor.check true d = .ok () := by
  rw [Plan.type, Plan.typeParts]
  cases Descriptor.check true d with
  | error e => exact iff_of_false nofun nofun
  | ok u => exact iff_of_true rfl rfl

theorem refuses_iff (hs : s.Sound) : s.Refuses c.type ↔
    (Plan.type c.type).outcome ≠ .ok () ∨ s.available c.type ≠ .ok () := by
  rw [Refuses, available_ne_ok_iff hs, ne_eq, ne_eq, type_outcome_ok_iff]

theorem run_defineClass_readBack (hs : s.Sound) (c : ClassDef) :
    (s.run (defineClass c)).1.map ClassEntry.readBack =
      (Plan.classDef s.config (s.available c.type) c).outcome.map
        fun _ => Plan.classBuilt s.config c :=
  (builds_defineClass c).map_outcome hs fun _ _ h => h.text.1

theorem run_defineClass_diagnostics (hs : s.Sound) (c : ClassDef) :
    (s.run (defineClass c)).2.diagnostics.entries =
      s.diagnostics.entries ++ (Plan.classDef s.config (s.available c.type) c).notes :=
  ((builds_defineClass c).after hs).2.notes

/-- A lenient session makes of a definition what its strict copy makes of the definition without
the members that fail in a new session: the same class, or the same error. It adds a warning for
each of these members with the error that it fails with, the fields first, unless the class is
refused outright. Where no member fails, the strict copy makes the same of the definition itself and
both are left in the same state. -/
theorem lenientRun (hs : s.Reachable) (hlenient : s.config.lenient = true) (c : ClassDef) :
    (s.run (defineClass c)).1.map ClassEntry.readBack =
        (s.strictly.run (defineClass (c.survivors s.config.apiLevel))).1.map
          ClassEntry.readBack ∧
      (s.Refuses c.type → (s.run (defineClass c)).2.diagnostics.entries =
        s.diagnostics.entries) ∧
      (¬ s.Refuses c.type → (s.run (defineClass c)).2.diagnostics.entries =
        s.diagnostics.entries ++
          (c.fields.filterMap fun f => (f.failure? s.config.apiLevel).map fun e => {
            severity := .warning
            category := .field
            message := s!"Skipped {f.ref.display}: {e.text}"
            inClass := some c.type
          }) ++
          c.methods.filterMap fun m => (m.failure? s.config.apiLevel).map fun e => {
            severity := .warning
            category := .method
            message := s!"Skipped {m.ref.display}: {e.text}"
            inClass := some c.type
          }) ∧
      (c.AllSurvive s.config.apiLevel → s.strictly.run (defineClass c) =
        ((s.run (defineClass c)).1, (s.run (defineClass c)).2.strictly)) := by
  have hsound := hs.sound
  refine ⟨?_, fun h => ?_, fun h => ?_, fun h => runsAlike_defineClass hsound h⟩
  · have hsurvive : (c.survivors s.config.apiLevel).AllSurvive s.strictly.config.apiLevel :=
      c.allSurvive_survivors s.config.apiLevel
    rw [run_defineClass_readBack hsound, run_defineClass_readBack hsound.strictly,
      Plan.outcome_classDef _ (.inl hlenient), Plan.outcome_classDef _ (.inr hsurvive),
      Plan.classBuilt_eq, Plan.classBuilt_eq, hsurvive.survivors_eq]
    rfl
  · rw [run_defineClass_diagnostics hsound,
      Plan.notes_classDef_of_refused ((refuses_iff hsound).mp h), List.append_nil]
  · obtain ⟨htype, havailable⟩ := not_or.mp (mt (refuses_iff hsound).mpr h)
    rw [run_defineClass_diagnostics hsound, not_not.mp havailable,
      Plan.notes_classDef hlenient (not_not.mp htype), Plan.triedFields_eq s.config.apiLevel,
      Plan.triedMethods_eq, Plan.notes_collect, Plan.notes_collect, ← List.append_assoc]
    rfl

/-- A field of type `V` and a method of a malformed type among members that come through: they are
left out, and a warning is added for each. -/
theorem lenientRun_sample :
    let c := { ClassDef.sample with
      staticFields := [⟨"LWorker;", "gone", "V", .static, none, .empty⟩]
      virtualMethods := [⟨"LWorker;", "halt", [], "W", .isPublic, .empty, none⟩] }
    ((Session.new .skipping).run (defineClass c)).1.map ClassEntry.readBack =
        ((Session.new .strict).run (defineClass .sample)).1.map ClassEntry.readBack ∧
      ((Session.new .skipping).run (defineClass c)).1.isOk = true ∧
      ((Session.new .skipping).run (defineClass c)).2.diagnostics.entries =
        [⟨.warning, .field,
            "Skipped LWorker;->gone:V: Invalid argument - Invalid type descriptor 'V'",
            some "LWorker;"⟩,
          ⟨.warning, .method,
            "Skipped LWorker;->halt()W: Invalid argument - Invalid type descriptor 'W'",
            some "LWorker;"⟩] := by
  intro c
  have hsurvivors : c.survivors Config.skipping.apiLevel = .sample := by
    decide +kernel
  have hchecked : Descriptor.check true c.type = .ok () := if_pos (by decide +kernel)
  have hrefuses : ¬ (Session.new .skipping).Refuses c.type := by
    rintro (h | h | h)
    · exact h hchecked
    · cases h
    · cases h
  obtain ⟨houtcome, -, hdiagnostics, -⟩ := lenientRun (Reachable.new .skipping) rfl c
  refine ⟨?_, by decide +kernel, ?_⟩
  · rw [houtcome]
    exact congrArg (fun c => ((Session.new .strict).run (defineClass c)).1.map ClassEntry.readBack)
      hsurvivors
  · rw [hdiagnostics hrefuses]
    decide +kernel

end Session

end DexPools
