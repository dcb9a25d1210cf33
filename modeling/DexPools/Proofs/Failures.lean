import DexPools.Proofs.Allocation
import DexPools.Proofs.Leniency

/-!
# What a failure leaves behind

An operation that fails keeps what it put into the pools before it failed. How much that is depends
on the order of its steps. A class is added last, so a class call that fails has touched neither
the classes nor their slots; whether the class can be added is asked first, right after its type
was looked up, so a class that is refused leaves no more than that type. The instructions of
a body are all checked before the first of them is put in, and an annotation set before the first
of its annotations.

The failures before the first change come from one lemma each. For the others it is enough to look
at the steps that change something: none of them touches what is said to stay.
-/

namespace DexPools

/-- A class whose method is abstract and has a body all the same. -/
def ClassDef.failing : ClassDef :=
  { ClassDef.sample with
    type := "LIdler;"
    instanceFields := []
    directMethods := [⟨"LIdler;", "run", [], "V", .abstract, .empty, some .empty⟩] }

namespace Plan

namespace Quiet

/-- A strict session gives up at a member that fails and notes nothing. -/
theorem collect {α : Type} (type : String) (category : Category)
    (tried : List (MemberRef × Except Error α)) :
    (Plan.collect false type category tried).Quiet := by
  induction tried with
  | nil => exact Only.pure ()
  | cons t rest ih =>
      obtain ⟨member, e | a⟩ := t
      · exact Only.fail e
      · exact ih

theorem classDef {config : Config} (hstrict : config.lenient = false)
    (available : Except Error Unit) (c : ClassDef) :
    (Plan.classDef config available c).Quiet := by
  unfold Plan.classDef
  rw [hstrict]
  refine Only.bind (of_below (Below.type _)) fun _ => Only.bind (Only.check _) fun _ => ?_
  refine Only.bind (Only.forM fun f _ => of_below (Below.fieldDef f)) fun _ => ?_
  refine Only.bind (collect _ _ _) fun _ => ?_
  refine Only.bind (Only.forM fun m _ => methodDef config.apiLevel m) fun _ => ?_
  exact Only.bind (collect _ _ _) fun _ => classFrom _ _ _ _

end Quiet

end Plan

namespace Session

variable {α γ : Type} {s t : Session}

/-! ## Class calls that fail -/

/-- Whether a session has the classes, the seal and the class rows of another, reads the same in
every slot and, unless members are skipped, has noted nothing more. -/
structure KeepsClasses (s t : Session) : Prop where
  classes : t.classes.items = s.classes.items
  sealedOrder : t.classes.sealedOrder = s.classes.sealedOrder
  classRows : t.classes.slots.size = s.classes.slots.size
  slots : s.Widens t
  notes : s.config.lenient = false → t.diagnostics = s.diagnostics

theorem keepsClasses_of_error {call : Build ClassEntry} {e : Error} (hadds : AddsClass call)
    (hrow : TakesClassRow call) (hslots : Moves Widens call)
    (hnotes : s.config.lenient = false → (s.run call).2.diagnostics = s.diagnostics)
    (hrun : s.run call = (.error e, t)) : s.KeepsClasses t := by
  obtain ⟨hsealed, hitems⟩ := hadds s
  have hwidens := hslots s
  rw [hrun] at hsealed hitems hwidens hnotes
  exact {
    classes := hitems
    sealedOrder := hsealed
    classRows := congrArg SlotTable.size (hrow.error hrun)
    slots := hwidens
    notes := hnotes
  }

/-- Putting things into the pools notes nothing. -/
theorem stepwise_sameNotes :
    Stepwise (Moves fun s t : Session => t.diagnostics = s.diagnostics) :=
  Moves.stepwise (fun _ => rfl) (fun h h' => h'.trans h)
    (fun _ _ _ _ _ s => Shelf.Lawful.diagnostics_setPool s _) fun _ => rfl

theorem diagnostics_defineClassFrom (header : ClassHeader) (fields : List PooledField)
    (methods : List PooledMethod) :
    (s.run (defineClassFrom header fields methods)).2.diagnostics = s.diagnostics := by
  rw [defineClassFrom_eq]
  exact stepwise_sameNotes.bind (stepwise_sameNotes.classMaker header fields methods)
    (fun _ _ => rfl) s

theorem diagnostics_defineClass (hs : s.Sound) (hstrict : s.config.lenient = false)
    (c : ClassDef) : (s.run (defineClass c)).2.diagnostics = s.diagnostics := by
  have hentries := run_defineClass_diagnostics hs c
  rw [(Plan.Quiet.classDef hstrict _ c).notes_eq, List.append_nil] at hentries
  exact congrArg Diagnostics.mk hentries

/-! ## Classes that are refused -/

/-- Whether a session is another one with the entry of a type and that of its descriptor at most,
each with a row of unwritten slots. -/
structure GainsType (s : Session) (d : String) (t : Session) : Prop where
  rest : t = { s with strings := t.strings, types := t.types }
  strings : t.strings = s.strings ∨ t.strings = (s.strings.insert d (⟨·, d⟩)).2
  types : t.types = s.types ∨ ∃ descriptor : StringEntry, descriptor.text = d ∧
    t.types = (s.types.insert d (⟨·, descriptor⟩)).2

theorem GainsType.refl (s : Session) (d : String) : s.GainsType d s :=
  ⟨rfl, .inl rfl, .inl rfl⟩

/-- A string is found and nothing changes, or it gets an entry. -/
theorem run_internString (hs : s.Sound) (d : String) : ∃ e : StringEntry, e.text = d ∧
    (s.run (internString d) = (.ok e, s) ∨
      s.run (internString d) =
        (.ok e, { s with strings := (s.strings.insert d (⟨·, d⟩)).2 })) := by
  rw [internString_eq]
  cases hfind : s.strings.find? d with
  | some e =>
      refine ⟨e, (Shelf.strings.reads_of_find? hs hfind).text, .inl ?_⟩
      exact Shelf.strings.run_intern_of_find? hfind _
  | none =>
      refine ⟨⟨s.strings.slots.size, d⟩, rfl, .inr ?_⟩
      rw [Shelf.strings.run_intern_of_find?_eq_none hfind]
      rfl

theorem gainsType_internType (hs : s.Sound) (d : String) :
    s.GainsType d (s.run (internType d)).2 := by
  rw [internType_eq]
  cases hfind : s.types.find? d with
  | some e =>
      rw [Shelf.types.run_intern_of_find? hfind]
      exact GainsType.refl s d
  | none =>
      rw [Shelf.types.run_intern_of_find?_eq_none hfind, bind_assoc, run_bind, run_check]
      cases Descriptor.check true d with
      | error e => exact GainsType.refl s d
      | ok u =>
          obtain ⟨descriptor, htext, hstring⟩ := run_internString hs d
          dsimp only
          rw [bind_assoc, run_bind]
          rcases hstring with hrun | hrun
          · rw [hrun]
            exact ⟨rfl, .inl rfl, .inr ⟨descriptor, htext, rfl⟩⟩
          · rw [hrun]
            exact ⟨rfl, .inr rfl, .inr ⟨descriptor, htext, rfl⟩⟩

/-- Whether a class can be added is told by the session from before its type was put in. -/
theorem checkAvailable_of_run (hs : s.Sound) {d : String} {type : TypeEntry}
    (hrun : s.run (internType d) = (.ok type, t)) :
    t.classes.checkAvailable type = s.available d := by
  obtain ⟨-, hlog, -, htype⟩ := (builds_internType d).of_run hs hrun
  rw [checkAvailable_eq, show type.text = d from htype.text, hlog.available_eq (Plan.Below.type d)]

/-- A class that can not be added is refused after its type was looked up. -/
theorem run_of_unavailable (hs : s.Sound) {d : String} (hrefused : s.available d ≠ .ok ())
    (f : TypeEntry → Unit → Build α) :
    ∃ e, s.run (do
      let type ← internType d
      let st ← get
      let available ← liftM (st.classes.checkAvailable type)
      f type available) = (.error e, (s.run (internType d)).2) := by
  rw [run_bind]
  cases hrun : s.run (internType d) with
  | mk r t =>
      cases r with
      | error e => exact ⟨e, rfl⟩
      | ok type =>
          cases havailable : s.available d with
          | ok u => exact absurd havailable hrefused
          | error e =>
              refine ⟨e, ?_⟩
              show t.run (liftM (t.classes.checkAvailable type) >>= f type) = _
              rw [checkAvailable_of_run hs hrun, havailable]
              rfl

theorem run_defineClass_of_unavailable (hs : s.Sound) {c : ClassDef}
    (hrefused : s.available c.type ≠ .ok ()) :
    ∃ e, s.run (defineClass c) = (.error e, (s.run (internType c.type)).2) :=
  run_of_unavailable hs hrefused _

/-- What does not even look like the type of a class is not put in. -/
theorem run_defineClassFrom_of_unavailable (hs : s.Sound) {header : ClassHeader}
    (hrefused : s.available header.type ≠ .ok ()) (fields : List PooledField)
    (methods : List PooledMethod) : ∃ e t,
      s.run (defineClassFrom header fields methods) = (.error e, t) ∧
        (t = s ∨ t = (s.run (internType header.type)).2) := by
  unfold defineClassFrom
  by_cases hlooks : Descriptor.looksLikeClass header.type = true
  · simp only [if_pos hlooks]
    obtain ⟨e, hrun⟩ := run_of_unavailable hs hrefused _
    exact ⟨e, _, hrun, .inr rfl⟩
  · simp only [if_neg hlooks]
    exact ⟨_, s, rfl, .inl rfl⟩

/-- The type of a class is pooled, and looking it up changes nothing. -/
theorem run_internType_of_mem (hs : s.Sound) {c : ClassEntry} (hc : c ∈ s.classes.items) :
    s.run (internType c.type.text) = (.ok c.type, s) := by
  have hheld : s.Holds (.type c.type) :=
    (hs.classReads c hc).holdsAll _ (by simp [Pooled.items, ClassEntry.items, TypeEntry.items])
  rw [internType_eq]
  exact Shelf.types.run_intern_of_holds hheld _

theorem not_available_of_mem {c : ClassEntry} (hc : c ∈ s.classes.items) :
    s.available c.type.text ≠ .ok () := by
  intro havailable
  exact (available_eq_ok_iff.mp havailable).2 (List.mem_map_of_mem hc)

theorem not_available_of_sealed (hsealed : s.classes.isSealed = true) (d : String) :
    s.available d ≠ .ok () := by
  intro havailable
  rw [ClassPool.isSealed, (available_eq_ok_iff.mp havailable).1] at hsealed
  cases hsealed

/-! ## Checks that come before everything else -/

/-- Checking a list ends at the first fault and changes nothing. -/
theorem run_forM_check {g : γ → Except Error Unit} {xs : List γ}
    (h : ∃ x ∈ xs, g x ≠ .ok ()) (f : PUnit → Build α) :
    ∃ e, s.run ((xs.forM fun x => liftM (g x) : Build PUnit) >>= f) = (.error e, s) := by
  induction xs with
  | nil =>
      obtain ⟨x, hx, -⟩ := h
      cases hx
  | cons x xs ih =>
      show ∃ e, s.run ((liftM (g x) >>= fun _ => xs.forM fun x => liftM (g x)) >>= f) = _
      rw [bind_assoc, run_bind, run_check]
      cases hx : g x with
      | error e => exact ⟨e, rfl⟩
      | ok u =>
          refine ih ?_
          obtain ⟨y, hy, hfault⟩ := h
          rcases List.mem_cons.mp hy with rfl | hy
          · exact absurd hx hfault
          · exact ⟨y, hy, hfault⟩

theorem run_internBody_of_fault {b : TextBody} {i : Instruction Reference}
    (hi : i ∈ b.instructions) (hfault : i.validate ≠ .ok () ∨ s.config.apiLevel < i.opcode.minApi) :
    ∃ e, s.run (internBody b) = (.error e, s) := by
  have hcheck : checkInstruction s.config.apiLevel i ≠ .ok () := by
    rw [ne_eq, checkInstruction_eq_ok_iff]
    rintro ⟨hvalid, hlevel⟩
    rcases hfault with h | h
    · exact h hvalid
    · exact UInt32.not_lt.mpr hlevel h
  unfold internBody
  rw [run_bind, run_get]
  exact run_forM_check ⟨i, hi, hcheck⟩ _

/-- A set in which a type occurs twice is in no pool, so it is looked at and refused. -/
theorem run_internAnnotationSet_of_repeat (hs : s.Sound) {set : AnnotationSet}
    (hrepeat : ¬ (set.items.map Annotation.type).Nodup) :
    ∃ e, s.run (internAnnotationSet set) = (.error e, s) := by
  cases hfirst : Sorted.firstRepeat Annotation.type set.items with
  | none => exact absurd (Sorted.firstRepeat_eq_none_iff.mp hfirst) hrepeat
  | some a =>
      cases hfind : s.annotationSets.find? set with
      | some entry =>
          have hhas : s.Has (.annotationSet set) :=
            ⟨_, Shelf.annotationSets.find?_eq_some_item_iff.mpr hfind⟩
          exact absurd (types_nodup_of_parts (hs.parts_outcome hhas)) hrepeat
      | none =>
          refine ⟨.badArgument (.repeatedAnnotationType a.type), ?_⟩
          unfold internAnnotationSet
          rw [run_bind, run_get]
          simp only [hfind, hfirst]
          rfl

/-! ## Reachable sessions -/

/-- What the operations of a session leave behind when they fail. -/
structure ContainsFailures (s : Session) : Prop where
  /-- A class call that fails, for whatever reason, leaves the classes, the seal, the class rows
  and all slots, and notes nothing in a strict session. -/
  classDef : ∀ c e t, s.run (defineClass c) = (.error e, t) → s.KeepsClasses t
  classFrom : ∀ header fields methods e t,
    s.run (defineClassFrom header fields methods) = (.error e, t) → s.KeepsClasses t
  /-- A second class of a type is refused and leaves everything. -/
  sameType : ∀ present ∈ s.classes.items,
    (∀ c : ClassDef, c.type = present.type.text → ∃ e, s.run (defineClass c) = (.error e, s)) ∧
      ∀ header fields methods, header.type = present.type.text →
        ∃ e, s.run (defineClassFrom header fields methods) = (.error e, s)
  /-- A class that comes after the seal leaves its type and the descriptor at most. -/
  sealedClasses : s.classes.isSealed = true →
    (∀ c, ∃ e t, s.run (defineClass c) = (.error e, t) ∧ s.GainsType c.type t) ∧
      ∀ header fields methods, ∃ e t,
        s.run (defineClassFrom header fields methods) = (.error e, t) ∧
          s.GainsType header.type t
  /-- One instruction at fault, wherever it stands, keeps a body from being put in. -/
  body : ∀ b : TextBody,
    (∃ i ∈ b.instructions, i.validate ≠ .ok () ∨ s.config.apiLevel < i.opcode.minApi) →
      ∃ e, s.run (internBody b) = (.error e, s)
  /-- Two annotations of one type keep a set from being put in. -/
  annotationSet : ∀ set : AnnotationSet, ¬ (set.items.map Annotation.type).Nodup →
    ∃ e, s.run (internAnnotationSet set) = (.error e, s)

/-- In every reachable session, failures leave behind what they are said to. -/
theorem containsFailures (hs : s.Reachable) : s.ContainsFailures := by
  have hsound := hs.sound
  refine {
    classDef := fun c e t hrun => ?_
    classFrom := fun header fields methods e t hrun => ?_
    sameType := fun present hpresent => ⟨fun c hc => ?_, fun header fields methods htype => ?_⟩
    sealedClasses := fun hsealed => ⟨fun c => ?_, fun header fields methods => ?_⟩
    body := fun b ⟨i, hi, hfault⟩ => run_internBody_of_fault hi hfault
    annotationSet := fun set hrepeat => run_internAnnotationSet_of_repeat hsound hrepeat
  }
  · exact keepsClasses_of_error (addsClass_defineClass c) (takesClassRow_defineClass c)
      (widening_defineClass c) (fun hstrict => diagnostics_defineClass hsound hstrict c) hrun
  · exact keepsClasses_of_error (addsClass_defineClassFrom header fields methods)
      (takesClassRow_defineClassFrom header fields methods)
      (widening_defineClassFrom header fields methods)
      (fun _ => diagnostics_defineClassFrom header fields methods) hrun
  · have hrefused := not_available_of_mem hpresent
    rw [← hc] at hrefused
    obtain ⟨e, hrun⟩ := run_defineClass_of_unavailable hsound hrefused
    rw [hc, run_internType_of_mem hsound hpresent] at hrun
    exact ⟨e, hrun⟩
  · have hrefused := not_available_of_mem hpresent
    rw [← htype] at hrefused
    obtain ⟨e, t, hrun, ht⟩ := run_defineClassFrom_of_unavailable hsound hrefused fields methods
    rw [htype, run_internType_of_mem hsound hpresent, or_self] at ht
    exact ⟨e, by rw [hrun, ht]⟩
  · have hrefused := not_available_of_sealed hsealed c.type
    obtain ⟨e, hrun⟩ := run_defineClass_of_unavailable hsound hrefused
    exact ⟨e, _, hrun, gainsType_internType hsound c.type⟩
  · have hrefused := not_available_of_sealed hsealed header.type
    obtain ⟨e, t, hrun, ht⟩ := run_defineClassFrom_of_unavailable hsound hrefused fields methods
    refine ⟨e, t, hrun, ?_⟩
    rcases ht with rfl | rfl
    · exact GainsType.refl t header.type
    · exact gainsType_internType hsound header.type

/-- A class of the type that the sample has is refused, and a class with an abstract method that has
a body fails at the method. -/
theorem containsFailures_sample :
    (∃ e, sample.run (defineClass .sample) = (.error e, sample)) ∧
      ∃ e t, sample.run (defineClass .failing) = (.error e, t) ∧ sample.KeepsClasses t := by
  have hfailures := containsFailures Reachable.sample
  refine ⟨?_, ?_⟩
  · have htypes : (sample.classes.items.map fun c => c.type.text) = ["LWorker;"] := by
      decide +kernel
    have hmem : "LWorker;" ∈ sample.classes.items.map fun c => c.type.text := by
      rw [htypes]
      exact List.mem_singleton_self _
    obtain ⟨present, hpresent, htype⟩ := List.mem_map.mp hmem
    exact (hfailures.sameType present hpresent).1 .sample htype.symm
  · have hfails : (sample.run (defineClass .failing)).1.isOk = false := by decide +kernel
    cases hrun : sample.run (defineClass .failing) with
    | mk r t =>
        rw [hrun] at hfails
        cases r with
        | ok c => cases hfails
        | error e => exact ⟨e, t, rfl, hfailures.classDef .failing e t hrun⟩

end Session

end DexPools
