import DexPools.Proofs.BulkCopy
import DexPools.Proofs.ClassCalls

/-!
# What members and classes are made of

A member is checked when it is defined and a class when it is put together, and neither is looked
at again. What the checks found is therefore true of all members and classes of a session, by the
two steps that make them: the definition of a method passed its plan, and a class reads back to
the form of members that were given or that the session owned already.

The members of a class are of no new kind. Each reads back to a definition that came with
the operation or to a member that was there, so a property of definitions that all given ones have
holds of everything that is stored.
-/

namespace DexPools

open Std

namespace ClassDef

variable {header : ClassHeader} {fields : List FieldDef} {methods : List MethodDef}

theorem fields_assemble_perm (header : ClassHeader) (fields : List FieldDef)
    (methods : List MethodDef) : (assemble header fields methods).fields.Perm fields :=
  ((Sorted.sort_perm _ _).append (Sorted.sort_perm _ _)).trans
    (Sorted.partition_perm FieldDef.isStatic fields)

theorem methods_assemble_perm (header : ClassHeader) (fields : List FieldDef)
    (methods : List MethodDef) : (assemble header fields methods).methods.Perm methods :=
  ((Sorted.sort_perm _ _).append (Sorted.sort_perm _ _)).trans
    (Sorted.partition_perm MethodDef.isDirect methods)

/-- The lists of fields of a class ascend strictly, since no field is declared twice. So
`Declares.methods_strict` of methods. -/
theorem Declares.fields_strict {type : String} (h : Declares type fields methods) :
    (assemble header fields methods).staticFields.Pairwise (fun f g => f.compare g = .lt) ∧
      (assemble header fields methods).instanceFields.Pairwise fun f g => f.compare g = .lt := by
  obtain ⟨-, -, hnames, -⟩ := declares_iff.mp h
  refine Sorted.sorted_parts_strict _
    ((List.pairwise_map.mp hnames).imp fun {f g} hne heq => hne ?_)
  have href : f.ref = g.ref := LawfulEqCmp.eq_of_compare heq
  rw [show f.name = g.name from congrArg FieldRef.name href,
    show f.type = g.type from congrArg FieldRef.type href]

theorem Declares.methods_strict {type : String} (h : Declares type fields methods) :
    (assemble header fields methods).directMethods.Pairwise (fun m n => m.compare n = .lt) ∧
      (assemble header fields methods).virtualMethods.Pairwise fun m n => m.compare n = .lt := by
  obtain ⟨-, -, -, hrefs⟩ := declares_iff.mp h
  exact Sorted.sorted_parts_strict _ ((List.pairwise_map.mp hrefs).imp fun hne heq =>
    hne (LawfulEqCmp.eq_of_compare heq))

theorem Declares.of_perm {type : String} {fields' : List FieldDef} {methods' : List MethodDef}
    (h : Declares type fields methods) (hf : fields.Perm fields') (hm : methods.Perm methods') :
    Declares type fields' methods' := by
  obtain ⟨hfields, hmethods, hnames, hrefs⟩ := declares_iff.mp h
  refine declares_iff.mpr ⟨fun f hmem => hfields f (hf.mem_iff.mpr hmem),
    fun m hmem => hmethods m (hm.mem_iff.mpr hmem), ?_, ?_⟩
  · exact (hf.map _).nodup_iff.mp hnames
  · exact (hm.map _).nodup_iff.mp hrefs

/-- Whether a definition is one of a class, by its type and its members, and in its one form. -/
structure InForm (c : ClassDef) : Prop where
  named : Descriptor.looksLikeClass c.type = true
  declares : Declares c.type c.fields c.methods
  assembled : assemble c.toClassHeader c.fields c.methods = c

theorem inForm_assemble (hnamed : Descriptor.looksLikeClass header.type = true)
    (hdeclares : Declares header.type fields methods) :
    (assemble header fields methods).InForm := by
  have hown : Declares header.type (assemble header fields methods).fields
      (assemble header fields methods).methods :=
    hdeclares.of_perm (fields_assemble_perm ..).symm (methods_assemble_perm ..).symm
  exact ⟨hnamed, hown, assemble_of_assemble⟩

end ClassDef

/-! ## What the plan of a class tells of its parts -/

namespace Plan

variable {α : Type}

theorem named_of_classFrom_ok {available : Except Error Unit} {header : ClassHeader}
    {fields : List FieldDef} {methods : List MethodDef}
    (h : (classFrom available header fields methods).outcome = .ok ()) :
    Descriptor.looksLikeClass header.type = true := by
  unfold classFrom at h
  split at h
  · next hlooks => exact hlooks
  · obtain ⟨_, hfail, -⟩ := outcome_bind_eq_ok_iff.mp h
    cases hfail

theorem classFrom_of_classDef_ok {config : Config} {available : Except Error Unit} {c : ClassDef}
    (h : (classDef config available c).outcome = .ok ()) :
    (classFrom available c.toClassHeader (survivors (triedFields c))
      (survivors (triedMethods config.apiLevel c))).outcome = .ok () := by
  obtain ⟨_, -, h⟩ := outcome_bind_eq_ok_iff.mp h
  obtain ⟨_, -, h⟩ := outcome_bind_eq_ok_iff.mp h
  obtain ⟨_, -, h⟩ := outcome_bind_eq_ok_iff.mp h
  obtain ⟨_, -, h⟩ := outcome_bind_eq_ok_iff.mp h
  obtain ⟨_, -, h⟩ := outcome_bind_eq_ok_iff.mp h
  obtain ⟨_, -, h⟩ := outcome_bind_eq_ok_iff.mp h
  exact h

/-- Of members that were tried, those survive that did not fail. -/
theorem mem_survivors_iff {ref : α → MemberRef} {outcome : α → Except Error Unit} {xs : List α}
    {x : α} : x ∈ survivors (xs.map fun x => (ref x, (outcome x).map fun _ => x)) ↔
      x ∈ xs ∧ outcome x = .ok () := by
  induction xs with
  | nil => simp [survivors]
  | cons y ys ih =>
      rw [List.map_cons]
      cases hy : outcome y with
      | error e =>
          refine ih.trans ⟨fun h => ⟨List.mem_cons_of_mem _ h.1, h.2⟩, fun ⟨hmem, hok⟩ => ?_⟩
          rcases List.mem_cons.mp hmem with rfl | hmem
          · rw [hy] at hok
            cases hok
          · exact ⟨hmem, hok⟩
      | ok u =>
          show x ∈ y :: survivors _ ↔ _
          rw [List.mem_cons, ih, List.mem_cons]
          constructor
          · rintro (rfl | ⟨hmem, hok⟩)
            · exact ⟨.inl rfl, hy⟩
            · exact ⟨.inr hmem, hok⟩
          · rintro ⟨rfl | hmem, hok⟩
            · exact .inl rfl
            · exact .inr ⟨hmem, hok⟩

end Plan

/-- The definitions of fields that come with an operation. -/
def Operation.fieldDefs : Operation → List FieldDef
  | ask (.fieldDef f) => [f]
  | ask (.classDef c) => c.fields
  | askAll cs => cs.flatMap ClassDef.fields
  | _ => []

theorem ClassEntry.fields_readBack (c : ClassEntry) :
    c.readBack.fields = c.fields.map PooledField.readBack :=
  List.map_append.symm

theorem ClassEntry.methods_readBack (c : ClassEntry) :
    c.readBack.methods = c.methods.map PooledMethod.readBack :=
  List.map_append.symm

namespace Session

variable {s : Session} {b : String × ClassEntry}

/-- A class of a batch was built by one of its calls, which came to its end. -/
theorem exists_classDef_of_mem_builtByAll (hs : s.Sound) {cs : List ClassDef}
    (hb : b ∈ s.builtByAll cs) : ∃ c ∈ cs, b.2.readBack = Plan.classBuilt s.config c ∧
      ∃ available, (Plan.classDef s.config available c).outcome = .ok () := by
  induction cs generalizing s with
  | nil => cases hb
  | cons c cs ih =>
      rw [builtByAll] at hb
      obtain ⟨t, ht, hafter, ⟨e, hrun, hplan, hreads⟩ | ⟨err, hrun, -⟩⟩ := builds_defineClass c hs
      · rw [hrun] at hb
        rcases List.mem_cons.mp hb with rfl | hb
        · exact ⟨c, List.mem_cons_self, hreads.text.1, _, hplan⟩
        · rw [← hafter.config]
          obtain ⟨c', hc', hbuilt⟩ := ih ht hb
          exact ⟨c', List.mem_cons_of_mem _ hc', hbuilt⟩
      · rw [hrun] at hb
        cases hb

end Session

namespace History

open Session

variable {h : History} {op : Operation} {ops past : List Operation} {b : String × ClassEntry}

/-- Whether an operation can put a class together from parts: they are those of a class, the fields
come with the operation or are owned, and the methods were accepted or are owned. -/
structure Supplies (h : History) (op : Operation) (header : ClassHeader) (fs : List FieldDef)
    (ms : List MethodDef) : Prop where
  named : Descriptor.looksLikeClass header.type = true
  declares : ClassDef.Declares header.type fs ms
  fields : ∀ f ∈ fs, f ∈ op.fieldDefs ∨ ∃ g, h.OwnsField g ∧ g.readBack = f
  methods : ∀ m ∈ ms, (Plan.methodDef h.session.config.apiLevel m).outcome = .ok () ∨
    ∃ n, h.OwnsMethod n ∧ n.readBack = m

theorem supplies_of_classDef_ok {c : ClassDef} {available : Except Error Unit}
    (hfields : ∀ f ∈ c.fields, f ∈ op.fieldDefs)
    (hplan : (Plan.classDef h.session.config available c).outcome = .ok ()) :
    h.Supplies op c.toClassHeader (Plan.survivors (Plan.triedFields c))
      (Plan.survivors (Plan.triedMethods h.session.config.apiLevel c)) where
  named := Plan.named_of_classFrom_ok (Plan.classFrom_of_classDef_ok hplan)
  declares := Plan.declares_of_classFrom_ok (Plan.classFrom_of_classDef_ok hplan)
  fields f hf := .inl (hfields f (Plan.mem_survivors_iff.mp hf).1)
  methods _ hm := .inl (Plan.mem_survivors_iff.mp hm).2

/-- Every class that is built reads back to the form of its parts. -/
theorem Sound.exists_supplies (hh : h.Sound) (howns : h.Owns op) (hb : b ∈ op.built h.session) :
    ∃ header fs ms, b.2.readBack = .assemble header fs ms ∧ h.Supplies op header fs ms := by
  cases op with
  | ask r =>
      cases r with
      | classDef c =>
          obtain ⟨-, hrun⟩ := mem_builtBy_iff.mp hb
          obtain ⟨-, -, hplan, hreads⟩ :=
            (builds_defineClass c).of_run hh.session (Prod.ext hrun rfl)
          exact ⟨_, _, _, hreads.text.1, supplies_of_classDef_ok (fun _ hf => hf) hplan⟩
      | _ => cases hb
  | askAll cs =>
      obtain ⟨c, hc, hbuilt, available, hplan⟩ := exists_classDef_of_mem_builtByAll hh.session hb
      have hfields : ∀ f ∈ c.fields, f ∈ (Operation.askAll cs).fieldDefs := fun f hf =>
        List.mem_flatMap.mpr ⟨c, hc, hf⟩
      exact ⟨_, _, _, hbuilt, supplies_of_classDef_ok hfields hplan⟩
  | classFrom header fields methods =>
      obtain ⟨-, hrun⟩ := mem_builtBy_iff.mp hb
      obtain ⟨-, -, hplan, hreads⟩ := (builds_defineClassFrom
        (reads_map fun f hf => hh.reads_field (howns.1 f hf))
        (reads_map fun m hm => hh.reads_method (howns.2 m hm))).of_run hh.session
          (Prod.ext hrun rfl)
      refine ⟨header, _, _, hreads.text.1, {
        named := Plan.named_of_classFrom_ok hplan
        declares := Plan.declares_of_classFrom_ok hplan
        fields := fun f hf => .inr ?_
        methods := fun m hm => .inr ?_
      }⟩
      · obtain ⟨g, hg, rfl⟩ := List.mem_map.mp hf
        exact ⟨g, howns.1 g hg, rfl⟩
      · obtain ⟨n, hn, rfl⟩ := List.mem_map.mp hm
        exact ⟨n, howns.2 n hn, rfl⟩
  | _ => cases hb

theorem config_step (h : History) (op : Operation) :
    (h.step op).session.config = h.session.config := by
  rw [step_session]
  exact (extending_act op h.session).config

/-! ## Fields -/

/-- What an operation makes of fields reads back to a field that was owned or to a definition that
came with the operation. -/
theorem Sound.readBack_of_ownsField_step (hh : h.Sound) (howns : h.Owns op) {f : PooledField}
    (hf : (h.step op).OwnsField f) :
    (∃ g, h.OwnsField g ∧ g.readBack = f.readBack) ∨ f.readBack ∈ op.fieldDefs := by
  rcases ownsField_step hf with hf | ⟨r, a, t, rfl, hrun, hf⟩ | ⟨b, hb, hf⟩
  · exact .inl ⟨f, hf, rfl⟩
  · cases r with
    | fieldDef g =>
        obtain ⟨g', hrun', rfl⟩ := run_map_eq_ok_iff.mp hrun
        obtain ⟨-, -, -, hreads⟩ := (builds_defineField g).of_run hh.session hrun'
        rw [List.mem_singleton.mp hf, show g'.readBack = g from hreads.text]
        exact .inr (List.mem_singleton.mpr rfl)
    | _ =>
        obtain ⟨_, -, rfl⟩ := run_map_eq_ok_iff.mp hrun
        cases hf
  · obtain ⟨header, fs, ms, hreadBack, hsupplies⟩ := hh.exists_supplies howns hb
    have hmem := List.mem_map_of_mem (f := PooledField.readBack) hf
    rw [← b.2.fields_readBack, hreadBack, (ClassDef.fields_assemble_perm _ _ _).mem_iff] at hmem
    exact (hsupplies.fields _ hmem).symm

/-- Every field of a session reads back to a definition that was given along its run. -/
theorem Sound.exists_fieldDef (hh : h.Sound) (hops : h.OwnsEach ops)
    (hpast : ∀ f, h.OwnsField f → ∃ op ∈ past, f.readBack ∈ op.fieldDefs) {f : PooledField}
    (hf : (h.steps ops).OwnsField f) : ∃ op ∈ past ++ ops, f.readBack ∈ op.fieldDefs := by
  induction ops generalizing h past with
  | nil =>
      rw [List.append_nil]
      exact hpast f hf
  | cons op ops ih =>
      rw [← List.singleton_append, ← List.append_assoc]
      refine ih (hh.step hops.1) hops.2 (fun g hg => ?_) hf
      rcases hh.readBack_of_ownsField_step hops.1 hg with ⟨g', hg', hreadBack⟩ | hgiven
      · obtain ⟨op', hop', hmem⟩ := hpast g' hg'
        exact ⟨op', List.mem_append_left _ hop', hreadBack ▸ hmem⟩
      · exact ⟨op, List.mem_append_right _ List.mem_cons_self, hgiven⟩

/-! ## Methods and classes -/

/-- Whether all methods of a session were accepted and all classes are in their one form. -/
structure Formed (h : History) : Prop where
  methods : ∀ m, h.OwnsMethod m →
    (Plan.methodDef h.session.config.apiLevel m.readBack).outcome = .ok ()
  classes : ∀ c ∈ h.session.classes.items, c.readBack.InForm

theorem formed_new (config : Config) : (History.new config).Formed where
  methods := by
    rintro m (hm | ⟨c, hc, -⟩)
    · cases hm
    · cases hc
  classes _ hc := absurd hc List.not_mem_nil

theorem Formed.step (hform : h.Formed) (hh : h.Sound) (howns : h.Owns op) :
    (h.step op).Formed := by
  refine ⟨fun m hm => ?_, fun c hc => ?_⟩
  · rw [config_step]
    rcases ownsMethod_step hm with hm | ⟨r, a, t, rfl, hrun, hm⟩ | ⟨b, hb, hm⟩
    · exact hform.methods m hm
    · cases r with
      | methodDef n =>
          obtain ⟨n', hrun', rfl⟩ := run_map_eq_ok_iff.mp hrun
          obtain ⟨-, -, hplan, hreads⟩ := (builds_defineMethod n).of_run hh.session hrun'
          rw [List.mem_singleton.mp hm, show n'.readBack = n from hreads.text.1]
          exact hplan
      | _ =>
          obtain ⟨_, -, rfl⟩ := run_map_eq_ok_iff.mp hrun
          cases hm
    · obtain ⟨header, fs, ms, hreadBack, hsupplies⟩ := hh.exists_supplies howns hb
      have hmem := List.mem_map_of_mem (f := PooledMethod.readBack) hm
      rw [← b.2.methods_readBack, hreadBack, (ClassDef.methods_assemble_perm _ _ _).mem_iff] at hmem
      rcases hsupplies.methods _ hmem with hplan | ⟨n, hn, hn'⟩
      · exact hplan
      · rw [← hn']
        exact hform.methods n hn
  · rcases mem_items_step_iff.mp hc with hc | ⟨b, hb, rfl⟩
    · exact hform.classes c hc
    · obtain ⟨header, fs, ms, hreadBack, hsupplies⟩ := hh.exists_supplies howns hb
      rw [hreadBack]
      exact ClassDef.inForm_assemble hsupplies.named hsupplies.declares

theorem Reachable.formed (hh : h.Reachable) : h.Formed := by
  induction hh with
  | new config => exact formed_new config
  | step hh howns ih => exact ih.step hh.sound howns

end History

end DexPools
