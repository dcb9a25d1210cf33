import DexPools.Proofs.Descriptors

/-!
# What the pools accept

Whether an item can be put into its pool is told by its text alone, since the plan of the operation
never looks at a session. So what is accepted can be said of the texts: types have descriptors,
members have names, prototypes and fields keep `V` out of all places but the return type, and of a
value or an annotation everything inside of it is asked the same. A plan succeeds exactly for such
texts, which is one equivalence for each kind of item, put together as its plan is.

The letters of a prototype are not asked for. A type that was accepted has a first letter, so the
shorty of accepted types is always there.
-/

namespace DexPools

namespace Descriptor

variable {allowVoid : Bool} {d : String} {p : ProtoRef}

theorem check_true_of_check (h : check false d = .ok ()) : check true d = .ok () := by
  rw [check_eq_ok_iff, isValid_iff] at h ⊢
  exact .inl (h.resolve_right fun hvoid => nomatch hvoid.2)

theorem exists_shortyLetter (h : check allowVoid d = .ok ()) : ∃ c, shortyLetter d = .ok c := by
  rw [check_eq_ok_iff] at h
  unfold shortyLetter
  split
  · next hempty =>
    rw [hempty] at h
    cases h
  · exact ⟨_, rfl⟩

theorem exists_shorty (hparams : ∀ d ∈ p.params, check false d = .ok ())
    (hreturn : check true p.returnType = .ok ()) : ∃ text, shorty p = .ok text := by
  obtain ⟨first, hfirst⟩ := exists_shortyLetter hreturn
  obtain ⟨rest, hrest⟩ := exists_mapM_eq_ok fun d hd => exists_shortyLetter (hparams d hd)
  refine ⟨String.ofList (first :: rest), ?_⟩
  unfold shorty
  rw [hfirst, hrest]
  rfl

end Descriptor

/-! ## Texts that are accepted -/

structure FieldRef.WellFormed (f : FieldRef) : Prop where
  definingClass : Descriptor.check true f.definingClass = .ok ()
  name : f.name ≠ ""
  type : Descriptor.check false f.type = .ok ()

structure ProtoRef.WellFormed (p : ProtoRef) : Prop where
  params : ∀ d ∈ p.params, Descriptor.check false d = .ok ()
  returnType : Descriptor.check true p.returnType = .ok ()

structure MethodRef.WellFormed (m : MethodRef) : Prop where
  definingClass : Descriptor.check true m.definingClass = .ok ()
  name : m.name ≠ ""
  proto : m.proto.WellFormed

namespace Value

mutual

/-- Whether every type and member that a value names, at any depth, is accepted. -/
def WellFormed : TextValue → Prop
  | .type d => Descriptor.check true d = .ok ()
  | .field f => f.WellFormed
  | .method m => m.WellFormed
  | .enum f => f.WellFormed
  | .array vs => ItemsWellFormed vs
  | .annotationItem d es => Descriptor.check true d = .ok () ∧ ElementsWellFormed es
  | .byte _ | .short _ | .char _ | .int _ | .long _ | .float _ | .double _ | .string _ | .null
  | .boolean _ => True

def ItemsWellFormed : List TextValue → Prop
  | [] => True
  | v :: rest => WellFormed v ∧ ItemsWellFormed rest

def ElementsWellFormed : List TextElement → Prop
  | [] => True
  | ⟨_, v⟩ :: rest => WellFormed v ∧ ElementsWellFormed rest

end

end Value

structure Annotation.WellFormed (a : Annotation) : Prop where
  type : Descriptor.check true a.type = .ok ()
  elements : Value.ElementsWellFormed a.elements

structure AnnotationSet.WellFormed (s : AnnotationSet) : Prop where
  types : (s.items.map Annotation.type).Nodup
  annotations : ∀ a ∈ s.items, a.WellFormed

/-! ## Plans that succeed -/

namespace Plan

variable {p q : Plan Unit} {c : Prop} {d : String}

theorem outcome_seq_iff :
    (p >>= fun _ => q).outcome = .ok () ↔ p.outcome = .ok () ∧ q.outcome = .ok () := by
  rw [outcome_bind_eq_ok_iff]
  exact ⟨fun ⟨_, hp, hq⟩ => ⟨hp, hq⟩, fun ⟨hp, hq⟩ => ⟨(), hp, hq⟩⟩

theorem outcome_guard_iff [Decidable c] {e : Error} {rest : Unit → Plan Unit} :
    (if c then fail e >>= rest else rest ()).outcome = .ok () ↔
      ¬ c ∧ (rest ()).outcome = .ok () := by
  split
  · next hc => exact iff_of_false (fun h => nomatch (outcome_bind_eq_ok_iff.mp h)) fun h => h.1 hc
  · next hc => exact (and_iff_right hc).symm

theorem outcome_adding_iff {k : Key} : (adding k p).outcome = .ok () ↔ p.outcome = .ok () :=
  outcome_seq_iff.trans (and_iff_left rfl)

theorem outcome_string (s : String) : (string s).outcome = .ok () :=
  rfl

theorem outcome_type_iff : (type d).outcome = .ok () ↔ Descriptor.check true d = .ok () :=
  outcome_adding_iff.trans (outcome_seq_iff.trans (and_iff_left (outcome_string d)))

theorem outcome_typeList_iff {ds : List String} :
    (typeList ds).outcome = .ok () ↔ ∀ d ∈ ds, Descriptor.check true d = .ok () := by
  rw [typeList, outcome_adding_iff, typeListParts, outcome_forM_eq_ok_iff]
  exact forall₂_congr fun _ _ => outcome_type_iff

theorem outcome_proto_iff {r : ProtoRef} : (proto r).outcome = .ok () ↔ r.WellFormed := by
  rw [proto, outcome_adding_iff]
  constructor
  · intro h
    obtain ⟨_, hparams, h⟩ := outcome_bind_eq_ok_iff.mp h
    obtain ⟨_, -, h⟩ := outcome_bind_eq_ok_iff.mp h
    obtain ⟨-, h⟩ := outcome_seq_iff.mp h
    obtain ⟨-, hreturn⟩ := outcome_seq_iff.mp h
    exact ⟨outcome_forM_eq_ok_iff.mp hparams, outcome_type_iff.mp hreturn⟩
  · rintro ⟨hparams, hreturn⟩
    obtain ⟨text, hshorty⟩ := Descriptor.exists_shorty hparams hreturn
    refine outcome_bind_eq_ok_iff.mpr ⟨(), outcome_forM_eq_ok_iff.mpr hparams, ?_⟩
    refine outcome_bind_eq_ok_iff.mpr ⟨text, hshorty, outcome_seq_iff.mpr ⟨rfl, ?_⟩⟩
    refine outcome_seq_iff.mpr ⟨outcome_typeList_iff.mpr ?_, outcome_type_iff.mpr hreturn⟩
    exact fun d hd => Descriptor.check_true_of_check (hparams d hd)

theorem outcome_field_iff {f : FieldRef} : (field f).outcome = .ok () ↔ f.WellFormed := by
  rw [field, outcome_adding_iff]
  refine outcome_guard_iff.trans ?_
  simp only [outcome_seq_iff, outcome_type_iff, outcome_string, true_and, String.isEmpty_iff]
  constructor
  · rintro ⟨hname, htype, hclass, -⟩
    exact ⟨hclass, hname, htype⟩
  · rintro ⟨hclass, hname, htype⟩
    exact ⟨hname, htype, hclass, Descriptor.check_true_of_check htype⟩

theorem outcome_method_iff {m : MethodRef} : (method m).outcome = .ok () ↔ m.WellFormed := by
  rw [method, outcome_adding_iff]
  refine outcome_guard_iff.trans ?_
  simp only [outcome_seq_iff, outcome_type_iff, outcome_string, outcome_proto_iff, true_and,
    String.isEmpty_iff]
  exact ⟨fun ⟨hname, hclass, hproto⟩ => ⟨hclass, hname, hproto⟩,
    fun ⟨hclass, hname, hproto⟩ => ⟨hname, hclass, hproto⟩⟩

mutual

theorem outcome_value_iff : ∀ v : TextValue, (value v).outcome = .ok () ↔ v.WellFormed
  | .type _ => outcome_type_iff
  | .field _ | .enum _ => outcome_field_iff
  | .method _ => outcome_method_iff
  | .array vs => outcome_array_iff vs
  | .annotationItem _ es =>
      outcome_seq_iff.trans (and_congr outcome_type_iff (outcome_elements_iff es))
  | .byte _ | .short _ | .char _ | .int _ | .long _ | .float _ | .double _ | .string _ | .null
  | .boolean _ => iff_of_true rfl trivial

theorem outcome_array_iff : ∀ vs : List TextValue,
    (array vs).outcome = .ok () ↔ Value.ItemsWellFormed vs
  | [] => iff_of_true rfl trivial
  | v :: rest => outcome_seq_iff.trans (and_congr (outcome_value_iff v) (outcome_array_iff rest))

theorem outcome_elements_iff : ∀ es : List TextElement,
    (elements es).outcome = .ok () ↔ Value.ElementsWellFormed es
  | [] => iff_of_true rfl trivial
  | ⟨name, v⟩ :: rest => by
      refine outcome_seq_iff.trans ((and_iff_right (outcome_string name)).trans ?_)
      exact outcome_seq_iff.trans (and_congr (outcome_value_iff v) (outcome_elements_iff rest))

end

theorem outcome_annotation_iff {a : Annotation} :
    (Plan.annotation a).outcome = .ok () ↔ a.WellFormed := by
  rw [Plan.annotation, outcome_adding_iff, annotationParts, outcome_seq_iff, outcome_type_iff,
    outcome_elements_iff]
  exact ⟨fun ⟨htype, helements⟩ => ⟨htype, helements⟩, fun h => ⟨h.type, h.elements⟩⟩

/-- A set is accepted exactly if each of its annotations is and no two of them have one type. -/
theorem outcome_annotationSet_iff {s : AnnotationSet} :
    (annotationSet s).outcome = .ok () ↔ s.WellFormed := by
  have hannotations : (s.items.forM Plan.annotation).outcome = .ok () ↔
      ∀ a ∈ s.items, a.WellFormed := by
    rw [outcome_forM_eq_ok_iff]
    exact forall₂_congr fun _ _ => outcome_annotation_iff
  have hparts : (s.items.map Annotation.type).Nodup →
      annotationSetParts s = s.items.forM Plan.annotation := by
    intro htypes
    unfold annotationSetParts
    rw [Sorted.firstRepeat_eq_none_iff.mpr htypes]
  rw [annotationSet, outcome_adding_iff]
  constructor
  · intro h
    have htypes := Session.types_nodup_of_parts h
    rw [hparts htypes] at h
    exact ⟨htypes, hannotations.mp h⟩
  · rintro ⟨htypes, hwell⟩
    rw [hparts htypes]
    exact hannotations.mpr hwell

end Plan

end DexPools
