import DexPools.Proofs.Contents
import DexPools.Proofs.TableOrder

/-!
# Nothing malformed is stored

Each item is checked by the one operation that puts it in, and many operations reach it by a long
way: a type is put in for a field of a class, a prototype for an operand of an instruction. The
checks are found again on the entries. A key that has an entry passed the checks of its plan, which
speak of texts, and an entry reads back to its key; where a check is about two things that must
agree, the agreement of their texts is that of the entries, since each text has one entry.

Instructions are validated before their references are looked up. Validation asks of a reference
only its kind, which looking it up keeps.
-/

namespace DexPools

/-! ## Descriptors and their letters -/

namespace Descriptor

/-- The letters that parameters have in a shorty. -/
def letters : List Char :=
  ['Z', 'B', 'S', 'C', 'I', 'J', 'F', 'D', 'L']

/-- Whether a letter stands for a type in a shorty: `L` for an array and for a class, and for any
other type the letter that it consists of. -/
inductive HasLetter : List Char → Char → Prop where
  | own {c : Char} : c ∈ 'V' :: primitives → HasLetter [c] c
  | array {element : List Char} : HasLetter ('[' :: element) 'L'
  | classType {rest : List Char} : HasLetter ('L' :: rest) 'L'

variable {allowVoid : Bool} {d : String} {cs : List Char} {c : Char}

theorem mem_letters_of_primitive (hc : c ∈ primitives) : c ∈ letters :=
  List.mem_append_left ['L'] hc

theorem HasLetter.mem_letters (h : HasLetter cs c) (hvoid : cs ≠ ['V']) : c ∈ letters := by
  cases h with
  | own hc =>
      rcases List.mem_cons.mp hc with rfl | hprimitive
      · exact absurd rfl hvoid
      · exact mem_letters_of_primitive hprimitive
  | array | classType => decide

theorem HasLetter.mem_cons_letters (h : HasLetter cs c) : c ∈ 'V' :: letters := by
  cases h with
  | own hc => exact List.mem_cons.mpr ((List.mem_cons.mp hc).imp_right mem_letters_of_primitive)
  | array | classType => decide

theorem isElement_cases (h : isElement allowVoid cs = true) :
    (allowVoid = true ∧ cs = ['V']) ∨ (∃ c ∈ primitives, cs = [c]) ∨ ∃ rest, cs = 'L' :: rest := by
  unfold isElement at h
  split at h
  · cases h
  · exact .inl ⟨h, rfl⟩
  · next c _ => exact .inr (.inl ⟨c, List.contains_iff_mem.mp h, rfl⟩)
  · next c rest _ _ =>
    simp only [Bool.and_eq_true, beq_iff_eq] at h
    exact .inr (.inr ⟨rest, by rw [h.1.1]⟩)

theorem check_eq_ok_iff : check allowVoid d = .ok () ↔ isValid allowVoid d.toList = true := by
  unfold check
  split
  · next h => exact iff_of_true rfl h
  · next h => exact iff_of_false nofun h

theorem hasLetter_of_isValid {first : Char} {rest : List Char}
    (h : isValid allowVoid (first :: rest) = true) :
    HasLetter (first :: rest) (if first == '[' then 'L' else first) := by
  unfold isValid at h
  split at h
  · next hcs =>
    cases hcs
    exact .array
  · next hbracket =>
    have hfirst : ¬ (first == '[') = true := fun heq => hbracket rest (by rw [beq_iff_eq.mp heq])
    rw [if_neg hfirst]
    rcases isElement_cases h with ⟨-, hcs⟩ | ⟨c, hc, hcs⟩ | ⟨_, hcs⟩
    · cases hcs
      exact .own List.mem_cons_self
    · cases hcs
      exact .own (List.mem_cons_of_mem _ hc)
    · cases hcs
      exact .classType

theorem hasLetter_of_check (h : check allowVoid d = .ok ()) (hc : shortyLetter d = .ok c) :
    HasLetter d.toList c := by
  rw [check_eq_ok_iff] at h
  unfold shortyLetter at hc
  split at hc
  · cases hc
  · next hcs =>
    rw [hcs] at h ⊢
    cases hc
    exact hasLetter_of_isValid h

theorem ne_void_of_check (h : check false d = .ok ()) : d ≠ "V" := by
  rintro rfl
  cases h

/-- Parameters that were accepted have letters other than `V`. -/
theorem forall₂_hasLetter {ds : List String} {cs : List Char}
    (h : List.Forall₂ (fun d c => shortyLetter d = .ok c) ds cs)
    (hds : ∀ d ∈ ds, check false d = .ok ()) :
    List.Forall₂ (fun d c => HasLetter d.toList c) ds cs ∧ ∀ c ∈ cs, c ∈ letters := by
  induction h with
  | nil => exact ⟨.nil, nofun⟩
  | cons hletter _ ih =>
      obtain ⟨hd, hds⟩ := List.forall_mem_cons.mp hds
      obtain ⟨hrest, hmem⟩ := ih hds
      have hfirst := hasLetter_of_check hd hletter
      have hvoid := mt String.toList_inj.mp (ne_void_of_check hd)
      exact ⟨.cons hfirst hrest, List.forall_mem_cons.mpr ⟨hfirst.mem_letters hvoid, hmem⟩⟩

theorem letters_of_shorty {p : ProtoRef} {text : String} (h : shorty p = .ok text) :
    ∃ first rest, text.toList = first :: rest ∧ shortyLetter p.returnType = .ok first ∧
      List.Forall₂ (fun d c => shortyLetter d = .ok c) p.params rest := by
  unfold shorty at h
  obtain ⟨first, hfirst, h⟩ := bind_eq_ok_iff.mp h
  obtain ⟨rest, hrest, rfl⟩ := bind_pure_eq_ok_iff.mp h
  exact ⟨first, rest, String.toList_ofList, hfirst, forall₂_of_mapM_eq_ok hrest⟩

end Descriptor

/-! ## Flags and instructions -/

theorem AccessFlags.intersects_union (a b c : AccessFlags) :
    a.intersects (b.union c) = (a.intersects b || a.intersects c) := by
  have hand : a.bits &&& (b.bits ||| c.bits) = a.bits &&& b.bits ||| a.bits &&& c.bits := by
    rw [← UInt32.toBitVec_inj]
    refine BitVec.eq_of_getLsbD_eq fun i _ => ?_
    simp [Bool.and_or_distrib_left]
  unfold AccessFlags.intersects AccessFlags.union
  rw [hand, Bool.eq_iff_iff, bne_iff_ne, ne_eq, UInt32.or_eq_zero_iff, not_and_or, Bool.or_eq_true,
    bne_iff_ne, bne_iff_ne]

theorem PooledReference.kind_readBack (r : PooledReference) : r.readBack.kind = r.kind := by
  cases r <;> rfl

namespace Instruction

variable {ρ ρ' : Type} {f : ρ → ρ'}

theorem opcode_map (f : ρ → ρ') (i : Instruction ρ) : (i.map f).opcode = i.opcode := by
  cases i <;> rfl

/-- Only the kinds of the references are validated. -/
theorem validate_map [HasReferenceKind ρ] [HasReferenceKind ρ']
    (hf : ∀ r, HasReferenceKind.referenceKind (f r) = HasReferenceKind.referenceKind r)
    (i : Instruction ρ) : (i.map f).validate = i.validate := by
  have hreference : ∀ k r, referenceFault? k (f r) = referenceFault? k r := by
    intro k r
    unfold referenceFault?
    rw [hf]
  have hoperand : (i.map f).operandFault? = i.operandFault? := by
    cases i <;> first | rfl | simp [map, traverse, operandFault?, hreference]
  have hformat : (i.map f).format = i.format := by
    cases i <;> rfl
  unfold validate fault?
  rw [hoperand, opcode_map, hformat]

end Instruction

/-! ## What the plan of a method tells -/

namespace Plan

variable {α : Type}

theorem outcome_forM_eq_ok_iff {f : α → Plan Unit} {xs : List α} :
    (xs.forM f).outcome = .ok () ↔ ∀ x ∈ xs, (f x).outcome = .ok () := by
  induction xs with
  | nil => exact iff_of_true rfl nofun
  | cons x xs ih =>
      show ((f x >>= fun _ => xs.forM f).outcome = .ok ()) ↔ _
      rw [outcome_bind_eq_ok_iff, List.forall_mem_cons]
      exact ⟨fun ⟨_, hx, hxs⟩ => ⟨hx, ih.mp hxs⟩, fun ⟨hx, hxs⟩ => ⟨(), hx, ih.mpr hxs⟩⟩

/-- Every instruction of a body that was accepted was checked. -/
theorem checks_of_body_ok {level : UInt32} {b : TextBody} (h : (body level b).outcome = .ok ()) :
    ∀ i ∈ b.instructions, Session.checkInstruction level i = .ok () := by
  obtain ⟨_, hchecks, -⟩ := outcome_bind_eq_ok_iff.mp h
  exact outcome_forM_eq_ok_iff.mp hchecks

/-- A method that was accepted has a body only if its flags allow one, and one that was checked. -/
theorem body_of_methodDef_ok {level : UInt32} {m : MethodDef}
    (h : (methodDef level m).outcome = .ok ()) :
    (m.flags.forbidsBody = true → m.body = none) ∧ ∀ b, m.body = some b → ∀ i ∈ b.instructions,
      Session.checkInstruction level i = .ok () := by
  obtain ⟨_, -, h⟩ := outcome_bind_eq_ok_iff.mp h
  split at h
  · obtain ⟨_, hfail, -⟩ := outcome_bind_eq_ok_iff.mp h
    cases hfail
  · next hallowed =>
    obtain ⟨_, -, h⟩ := outcome_bind_eq_ok_iff.mp h
    obtain ⟨_, -, h⟩ := outcome_bind_eq_ok_iff.mp h
    obtain ⟨_, hbody, -⟩ := outcome_bind_eq_ok_iff.mp h
    refine ⟨fun hforbids => ?_, fun b hb => ?_⟩
    · rw [hforbids, Bool.and_true, Option.isSome_iff_ne_none, ne_eq, not_not] at hallowed
      exact hallowed
    · rw [hb] at hbody
      exact checks_of_body_ok hbody

end Plan

/-! ## Well-formed entries -/

/-- Whether a prototype has parameters other than `V` and the shorty of its types: a pooled string
with one letter for the return type and one for each parameter. -/
structure ProtoEntry.WellFormed (s : Session) (p : ProtoEntry) : Prop where
  params : ∀ t ∈ p.params.types, t.text ≠ "V"
  shorty : s.strings.find? p.shorty.text = some p.shorty
  letters : ∃ first rest, p.shorty.text.toList = first :: rest ∧
    Descriptor.HasLetter p.returnType.text.toList first ∧
    List.Forall₂ (fun (t : TypeEntry) c => Descriptor.HasLetter t.text.toList c)
      p.params.types rest ∧
    first ∈ 'V' :: Descriptor.letters ∧ ∀ c ∈ rest, c ∈ Descriptor.letters

/-- Whether a method has the parameters of its prototype and, if any, a body that its flags allow
and that a platform level supports. -/
structure PooledMethod.WellFormed (level : UInt32) (m : PooledMethod) : Prop where
  params : m.params.map (·.type) = m.ref.proto.params.types
  body : m.flags.intersects .abstract = true ∨ m.flags.intersects .native = true → m.body = none
  instructions : ∀ b, m.body = some b → ∀ i ∈ b.instructions,
    i.validate = .ok () ∧ i.opcode.minApi ≤ level

structure ClassEntry.WellFormed (level : UInt32) (c : ClassEntry) : Prop where
  type : c.type.text.toList.head? = some 'L'
  fields : ∀ f ∈ c.fields, f.ref.definingClass = c.type
  methods : ∀ m ∈ c.methods, m.ref.definingClass = c.type ∧ m.WellFormed level

namespace Session

structure WellFormed (s : Session) : Prop where
  types : ∀ t ∈ s.types.entries, Descriptor.check true t.text = .ok ()
  protos : ∀ p ∈ s.protos.entries, p.WellFormed s
  fields : ∀ f ∈ s.fields.entries, f.name.text ≠ "" ∧ f.type.text ≠ "V" ∧
    Descriptor.check false f.type.text = .ok ()
  methods : ∀ m ∈ s.methods.entries, m.name.text ≠ ""
  annotationSets : ∀ set ∈ s.annotationSets.entries,
    (set.annotations.map fun a => a.type.text).Nodup
  classes : ∀ c ∈ s.classes.items, c.WellFormed s.config.apiLevel

variable {s : Session}

theorem Sound.check_type (hs : s.Sound) {t : TypeEntry} (ht : s.Holds (.type t)) :
    Descriptor.check true t.text = .ok () := by
  have hparts : (Plan.typeParts t.text).outcome = .ok () := hs.parts_outcome ⟨_, ht⟩
  obtain ⟨_, hcheck, -⟩ := Plan.outcome_bind_eq_ok_iff.mp hparts
  exact hcheck

theorem Sound.wellFormed_proto (hs : s.Sound) {p : ProtoEntry} (hp : s.Holds (.proto p)) :
    p.WellFormed s := by
  have hparts : (Plan.protoParts p.ref).outcome = .ok () := hs.parts_outcome ⟨_, hp⟩
  obtain ⟨_, hchecks, -⟩ := Plan.outcome_bind_eq_ok_iff.mp hparts
  have hparams : ∀ d ∈ p.params.texts, Descriptor.check false d = .ok () :=
    Plan.outcome_forM_eq_ok_iff.mp hchecks
  obtain ⟨first, rest, htext, hfirst, hrest⟩ := Descriptor.letters_of_shorty (hs.fits hp)
  have hreturn := Descriptor.hasLetter_of_check (hs.check_type (hs.holds_proto hp).2) hfirst
  obtain ⟨hletters, hmem⟩ := Descriptor.forall₂_hasLetter hrest hparams
  refine ⟨fun t ht => Descriptor.ne_void_of_check (hparams _ (List.mem_map_of_mem ht)), ?_,
    first, rest, htext, hreturn, (List.forall₂_map_left_iff (f := TypeEntry.text)).mp hletters,
    hreturn.mem_cons_letters, hmem⟩
  have hitems : s.HoldsAll p.items := hs.closed hp
  simp only [ProtoEntry.items, StringEntry.items, holdsAll_cons, holdsAll_append] at hitems
  exact Shelf.strings.find?_eq_some_item_iff.mp hitems.2.1.1.1

theorem Sound.check_field (hs : s.Sound) {f : FieldEntry} (hf : s.Holds (.field f)) :
    f.name.text ≠ "" ∧ Descriptor.check false f.type.text = .ok () := by
  have hparts : (Plan.fieldParts f.ref).outcome = .ok () := hs.parts_outcome ⟨_, hf⟩
  unfold Plan.fieldParts at hparts
  split at hparts
  · obtain ⟨_, hfail, -⟩ := Plan.outcome_bind_eq_ok_iff.mp hparts
    cases hfail
  · next hname =>
    obtain ⟨_, hcheck, -⟩ := Plan.outcome_bind_eq_ok_iff.mp hparts
    exact ⟨fun hempty => hname (String.isEmpty_iff.mpr hempty), hcheck⟩

theorem Sound.name_method (hs : s.Sound) {m : MethodEntry} (hm : s.Holds (.method m)) :
    m.name.text ≠ "" := by
  have hparts : (Plan.methodParts m.ref).outcome = .ok () := hs.parts_outcome ⟨_, hm⟩
  unfold Plan.methodParts at hparts
  split at hparts
  · obtain ⟨_, hfail, -⟩ := Plan.outcome_bind_eq_ok_iff.mp hparts
    cases hfail
  · next hname => exact fun hempty => hname (String.isEmpty_iff.mpr hempty)

theorem Sound.types_annotationSet (hs : s.Sound) {set : AnnotationSetEntry}
    (hset : s.Holds (.annotationSet set)) :
    (set.annotations.map fun a => a.type.text).Nodup := by
  have hparts : (Plan.annotationSetParts set.readBack).outcome = .ok () :=
    hs.parts_outcome ⟨_, hset⟩
  have hnodup := types_nodup_of_parts hparts
  rw [AnnotationSetEntry.readBack, List.map_map] at hnodup
  exact hnodup

/-- Pooled types are told apart by their texts, one by one. -/
theorem types_eq_of_texts : ∀ {as bs : List TypeEntry}, (∀ t ∈ as, s.Holds (.type t)) →
    (∀ t ∈ bs, s.Holds (.type t)) → as.map TypeEntry.text = bs.map TypeEntry.text → as = bs
  | [], [], _, _, _ => rfl
  | [], _ :: _, _, _, h => nomatch h
  | _ :: _, [], _, _, h => nomatch h
  | a :: as, b :: bs, has, hbs, h => by
      obtain ⟨ha, has⟩ := List.forall_mem_cons.mp has
      obtain ⟨hb, hbs⟩ := List.forall_mem_cons.mp hbs
      obtain ⟨htext, htexts⟩ := List.cons.inj h
      rw [(Shelf.types.eq_iff ha hb).mpr htext, types_eq_of_texts has hbs htexts]

end Session

namespace History

open Session

variable {h : History}

/-- Every method that is owned is well formed, whether it is part of a class or not. -/
theorem Sound.wellFormed_method (hh : h.Sound) (hform : h.Formed) {m : PooledMethod}
    (hm : h.OwnsMethod m) : m.WellFormed h.session.config.apiLevel := by
  have hreads := hh.reads_method hm
  have hitems : h.session.HoldsAll m.items := hreads.holdsAll
  simp only [PooledMethod.items, PooledParameter.items, MethodEntry.items, TypeEntry.items,
    holdsAll_append, holdsAll_flatMap, holdsAll_cons] at hitems
  obtain ⟨hbody, hchecks⟩ := Plan.body_of_methodDef_ok (hform.methods m hm)
  refine ⟨?_, fun hflags => ?_, fun b hb i hi => ?_⟩
  · -- The method is referred to by the types of its parameters.
    have htypes : m.ref.proto.params.texts = m.readBack.paramTypes :=
      congrArg MethodRef.params hreads.text.2
    refine types_eq_of_texts (s := h.session) (fun t ht => ?_) (fun t ht => ?_) ?_
    · obtain ⟨p, hp, rfl⟩ := List.mem_map.mp ht
      exact (hitems.1.1.2 p hp).1.1.1
    · exact hh.session.holds_types
        (hh.session.holds_proto (hh.session.holds_method hitems.1.1.1.1).2.2).1 t ht
    · rw [← TypeListEntry.texts, htypes, MethodDef.paramTypes, PooledMethod.readBack,
        List.map_map, List.map_map]
      rfl
  · have hnone : m.readBack.body = none :=
      hbody (by rwa [AccessFlags.forbidsBody, AccessFlags.intersects_union, Bool.or_eq_true])
    exact Option.map_eq_none_iff.mp hnone
  · have hmem : i.map PooledReference.readBack ∈ (PooledBody.readBack b).instructions :=
      List.mem_map_of_mem hi
    have hcheck := hchecks _ (congrArg (Option.map PooledBody.readBack) hb) _ hmem
    rw [checkInstruction_eq_ok_iff, Instruction.validate_map PooledReference.kind_readBack,
      Instruction.opcode_map] at hcheck
    exact hcheck

theorem Sound.wellFormed_class (hh : h.Sound) (hform : h.Formed) {c : ClassEntry}
    (hc : c ∈ h.session.classes.items) : c.WellFormed h.session.config.apiLevel := by
  have hin := hform.classes c hc
  obtain ⟨hfields, hmethods, -, -⟩ := ClassDef.declares_iff.mp hin.declares
  rw [c.fields_readBack] at hfields
  rw [c.methods_readBack] at hmethods
  have htype : h.session.Holds (.type c.type) := by
    have hitems : h.session.HoldsAll c.items := (hh.session.classReads c hc).holdsAll
    simp only [ClassEntry.items, TypeEntry.items, holdsAll_append, holdsAll_cons] at hitems
    exact hitems.1.1.1.1.1.1.1
  refine ⟨beq_iff_eq.mp hin.named, fun f hf => ?_, fun m hm => ⟨?_, ?_⟩⟩
  · have hitems : h.session.HoldsAll f.items := (hh.reads_field (.inr ⟨c, hc, hf⟩)).holdsAll
    simp only [PooledField.items, FieldEntry.items, holdsAll_append, holdsAll_cons] at hitems
    exact (Shelf.types.eq_iff (hh.session.holds_field hitems.1.1.1).1 htype).mpr
      (List.forall_mem_map.mp hfields f hf)
  · have hitems : h.session.HoldsAll m.items := (hh.reads_method (.inr ⟨c, hc, hm⟩)).holdsAll
    simp only [PooledMethod.items, MethodEntry.items, holdsAll_append, holdsAll_cons] at hitems
    exact (Shelf.types.eq_iff (hh.session.holds_method hitems.1.1.1.1).1 htype).mpr
      (List.forall_mem_map.mp hmethods m hm)
  · exact hh.wellFormed_method hform (.inr ⟨c, hc, hm⟩)

end History

namespace Session

variable {s : Session}

/-- In every reachable session, whatever succeeded and failed on the way to it, everything that is
stored passed the checks of its kind. -/
theorem wellFormed (hs : s.Reachable) : s.WellFormed := by
  obtain ⟨fields, methods, hh⟩ := hs
  have hsound := hh.sound.session
  exact {
    types := fun t ht => hsound.check_type ((Shelf.types.mem_entries_iff hsound).mp ht)
    protos := fun p hp => hsound.wellFormed_proto ((Shelf.protos.mem_entries_iff hsound).mp hp)
    fields := fun f hf => by
      obtain ⟨hname, htype⟩ := hsound.check_field ((Shelf.fields.mem_entries_iff hsound).mp hf)
      exact ⟨hname, Descriptor.ne_void_of_check htype, htype⟩
    methods := fun m hm => hsound.name_method ((Shelf.methods.mem_entries_iff hsound).mp hm)
    annotationSets := fun set hset =>
      hsound.types_annotationSet ((Shelf.annotationSets.mem_entries_iff hsound).mp hset)
    classes := fun c hc => hh.sound.wellFormed_class hh.formed hc
  }

/-- A session with one class, whose method is abstract. -/
theorem wellFormed_sample : Session.sample.WellFormed :=
  wellFormed Reachable.sample

end Session

end DexPools
