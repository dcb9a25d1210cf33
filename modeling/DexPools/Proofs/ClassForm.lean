import DexPools.Proofs.Contents

/-!
# The one form of a class

A definition is accepted from its parts exactly if every member names the class and no two fields
or methods are declared twice, and a member that names another class is reported before one that is
declared twice. What comes out of accepted parts is told without saying how it is computed: the
members are those of the parts, split by their flags, each list ascends strictly in the order of its
table, and each interface stands where it was first given.

These properties leave no choice. Two definitions that have them for the same parts are the same,
and none of them depends on the order in which the members come. So the order of the parts is
forgotten, and the parts of a definition in its form give the definition back.
-/

namespace DexPools

namespace ClassDef

variable {type : String} {header : ClassHeader} {fields fields' : List FieldDef}
  {methods methods' : List MethodDef} {c d : ClassDef}

/-- Whether some member names another class. -/
def NamesOther (type : String) (fields : List FieldDef) (methods : List MethodDef) : Prop :=
  (∃ f ∈ fields, f.definingClass ≠ type) ∨ ∃ m ∈ methods, m.definingClass ≠ type

/-- Whether two fields agree in name and type, static or not, or two methods in name, parameter
types and return type. -/
def Repeats (fields : List FieldDef) (methods : List MethodDef) : Prop :=
  (∃ f g, [f, g].Sublist fields ∧ f.name = g.name ∧ f.type = g.type) ∨
    ∃ m n, [m, n].Sublist methods ∧
      m.name = n.name ∧ m.paramTypes = n.paramTypes ∧ m.returnType = n.returnType

/-- Whether a class is made of the given parts in the one form of a class. -/
structure FormOf (header : ClassHeader) (fields : List FieldDef) (methods : List MethodDef)
    (c : ClassDef) : Prop where
  sameHeader : c.toClassHeader = { header with interfaces := c.interfaces }
  interfaces : Sorted.FirstOccurrences header.interfaces c.interfaces
  sameFields : (c.staticFields ++ c.instanceFields).Perm fields
  sameMethods : (c.directMethods ++ c.virtualMethods).Perm methods
  isStatic : ∀ f ∈ c.staticFields, f.flags.intersects .static = true
  isInstance : ∀ f ∈ c.instanceFields, f.flags.intersects .static = false
  isDirect : ∀ m ∈ c.directMethods,
    m.flags.intersects (.union .static (.union .isPrivate .constructor)) = true
  isVirtual : ∀ m ∈ c.virtualMethods,
    m.flags.intersects (.union .static (.union .isPrivate .constructor)) = false
  staticFields : c.staticFields.Pairwise fun f g => f.compare g = .lt
  instanceFields : c.instanceFields.Pairwise fun f g => f.compare g = .lt
  directMethods : c.directMethods.Pairwise fun m n => m.compare n = .lt
  virtualMethods : c.virtualMethods.Pairwise fun m n => m.compare n = .lt

/-! ## Which parts are accepted -/

theorem declares_iff_not :
    Declares type fields methods ↔ ¬ NamesOther type fields methods ∧ ¬ Repeats fields methods := by
  have hrefs : (∀ m ∈ methods, m.definingClass = type) →
      ((methods.map MethodDef.ref).Nodup ↔ ¬ ∃ m n, [m, n].Sublist methods ∧
        m.name = n.name ∧ m.paramTypes = n.paramTypes ∧ m.returnType = n.returnType) := by
    intro hclass
    rw [Sorted.nodup_map_iff]
    refine not_congr (exists_congr fun m => exists_congr fun n => and_congr_right fun hmn => ?_)
    have hm : m.definingClass = type := hclass m (hmn.subset (by simp))
    have hn : n.definingClass = type := hclass n (hmn.subset (by simp))
    simp [MethodDef.ref, hm, hn]
  have hnames : (fields.map fun f => (f.name, f.type)).Nodup ↔
      ¬ ∃ f g, [f, g].Sublist fields ∧ f.name = g.name ∧ f.type = g.type := by
    simp only [Sorted.nodup_map_iff, Prod.mk.injEq]
  rw [declares_iff, hnames, NamesOther, Repeats, not_or, not_or]
  constructor
  · rintro ⟨hfields, hmethods, hf, hm⟩
    exact ⟨⟨fun ⟨f, hmem, hne⟩ => hne (hfields f hmem),
      fun ⟨m, hmem, hne⟩ => hne (hmethods m hmem)⟩, hf, (hrefs hmethods).mp hm⟩
  · rintro ⟨⟨hfields, hmethods⟩, hf, hm⟩
    have hown : ∀ m ∈ methods, m.definingClass = type := fun m hmem =>
      by_contra fun hne => hmethods ⟨m, hmem, hne⟩
    exact ⟨fun f hmem => by_contra fun hne => hfields ⟨f, hmem, hne⟩, hown, hf, (hrefs hown).mpr hm⟩

theorem exists_ne_of_find? {α : Type} {view : α → String} {xs ys : List α} (h : xs.Perm ys) {a : α}
    (ha : xs.find? (fun a => view a != type) = some a) : ∃ a ∈ ys, view a ≠ type := by
  have hne := List.find?_some ha
  rw [bne_iff_ne] at hne
  exact ⟨a, h.mem_iff.mp (List.mem_of_find?_eq_some ha), hne⟩

/-- The three ends that putting a class together can come to. -/
theorem ofParts_cases (header : ClassHeader) (fields : List FieldDef) (methods : List MethodDef) :
    (NamesOther header.type fields methods ∧
      ∃ m, ofParts header fields methods = .error (.badArgument (.foreignMember m header.type))) ∨
    (¬ NamesOther header.type fields methods ∧ Repeats fields methods ∧
      ∃ m, ofParts header fields methods = .error (.duplicate (.memberOf m header.type))) ∨
    (¬ NamesOther header.type fields methods ∧ ¬ Repeats fields methods ∧
      ofParts header fields methods = .ok (assemble header fields methods)) := by
  by_cases hdeclares : Declares header.type fields methods
  · obtain ⟨hown, honce⟩ := declares_iff_not.mp hdeclares
    exact .inr (.inr ⟨hown, honce, ofParts_eq_ok_iff.mpr ⟨hdeclares, rfl⟩⟩)
  have hfs := Sorted.partition_perm FieldDef.isStatic fields
  have hms := Sorted.partition_perm MethodDef.isDirect methods
  have hrefused : ∀ c, ofParts header fields methods ≠ .ok c := fun c hc =>
    hdeclares (ofParts_eq_ok_iff.mp hc).1
  unfold ofParts at hrefused ⊢
  simp only at hrefused ⊢
  cases hf : List.find? (fun f : FieldDef => f.definingClass != header.type)
      ((fields.partition FieldDef.isStatic).1 ++ (fields.partition FieldDef.isStatic).2) with
  | some f => exact .inl ⟨.inl (exists_ne_of_find? hfs hf), .field f.ref, rfl⟩
  | none =>
    cases hm : List.find? (fun m : MethodDef => m.definingClass != header.type)
        ((methods.partition MethodDef.isDirect).1 ++ (methods.partition MethodDef.isDirect).2) with
    | some m => exact .inl ⟨.inr (exists_ne_of_find? hms hm), .method m.ref, rfl⟩
    | none =>
      -- No member names another class, so that what is refused is refused for a repetition.
      have hown : ¬ NamesOther header.type fields methods := by
        rw [List.find?_eq_none] at hf hm
        simp only [hfs.mem_iff, hms.mem_iff, bne_iff_ne, not_not] at hf hm
        rintro (⟨f, hmem, hne⟩ | ⟨m, hmem, hne⟩)
        · exact hne (hf f hmem)
        · exact hne (hm m hmem)
      have hrepeats : Repeats fields methods :=
        by_contra fun honce => hdeclares (declares_iff_not.mpr ⟨hown, honce⟩)
      refine .inr (.inl ⟨hown, hrepeats, ?_⟩)
      rw [hf, hm] at hrefused
      cases hfield : Sorted.firstRepeat (fun f : FieldDef => (f.name, f.type))
          ((fields.partition FieldDef.isStatic).1 ++ (fields.partition FieldDef.isStatic).2) with
      | some f => exact ⟨.field f.ref, rfl⟩
      | none =>
        cases hmethod : Sorted.firstRepeat MethodDef.ref
            ((methods.partition MethodDef.isDirect).1 ++
              (methods.partition MethodDef.isDirect).2) with
        | some m => exact ⟨.method m.ref, rfl⟩
        | none =>
          rw [hfield, hmethod] at hrefused
          exact absurd rfl (hrefused _)

/-! ## The form -/

theorem formOf_assemble (h : Declares header.type fields methods) :
    FormOf header fields methods (assemble header fields methods) where
  sameHeader := rfl
  interfaces := Sorted.dedupBy_firstOccurrences _
  sameFields := fields_assemble_perm header fields methods
  sameMethods := methods_assemble_perm header fields methods
  isStatic := (Sorted.forall_sorted_parts _ _ _).1
  isInstance := (Sorted.forall_sorted_parts _ _ _).2
  isDirect := (Sorted.forall_sorted_parts _ _ _).1
  isVirtual := (Sorted.forall_sorted_parts _ _ _).2
  staticFields := h.fields_strict.1
  instanceFields := h.fields_strict.2
  directMethods := h.methods_strict.1
  virtualMethods := h.methods_strict.2

/-- The form does not depend on the order of the members. -/
theorem FormOf.of_perm (h : FormOf header fields methods c) (hf : fields.Perm fields')
    (hm : methods.Perm methods') : FormOf header fields' methods' c :=
  { h with
    sameFields := h.sameFields.trans hf
    sameMethods := h.sameMethods.trans hm }

/-- Parts have one form. -/
theorem FormOf.unique (hc : FormOf header fields methods c) (hd : FormOf header fields methods d) :
    c = d := by
  have hinterfaces : c.interfaces = d.interfaces := hc.interfaces.unique hd.interfaces
  have hheader : c.toClassHeader = d.toClassHeader := by
    rw [hc.sameHeader, hd.sameHeader, hinterfaces]
  obtain ⟨hstatics, hinstances⟩ := Sorted.eq_of_split (hc.sameFields.trans hd.sameFields.symm)
    hc.isStatic hc.isInstance hd.isStatic hd.isInstance hc.staticFields hd.staticFields
    hc.instanceFields hd.instanceFields
  obtain ⟨hdirects, hvirtuals⟩ := Sorted.eq_of_split (hc.sameMethods.trans hd.sameMethods.symm)
    hc.isDirect hc.isVirtual hd.isDirect hd.isVirtual hc.directMethods hd.directMethods
    hc.virtualMethods hd.virtualMethods
  cases c
  cases d
  cases hheader
  cases hstatics
  cases hinstances
  cases hdirects
  cases hvirtuals
  rfl

/-- A class is what comes out of its parts exactly if the parts are those of one class and it has
their form. -/
theorem ofParts_eq_ok_iff_formOf : ofParts header fields methods = .ok c ↔
    Declares header.type fields methods ∧ FormOf header fields methods c := by
  rw [ofParts_eq_ok_iff]
  refine and_congr_right fun hdeclares => ?_
  constructor
  · rintro rfl
    exact formOf_assemble hdeclares
  · exact fun hc => (formOf_assemble hdeclares).unique hc

/-! ## Putting a class together -/

/-- A refusal for a bad argument is one for a member of another class. -/
theorem ofParts_eq_badArgument_iff :
    (∃ e, ofParts header fields methods = .error (.badArgument e)) ↔
      NamesOther header.type fields methods := by
  obtain ⟨hother, m, h⟩ | ⟨hown, -, m, h⟩ | ⟨hown, -, h⟩ := ofParts_cases header fields methods
  · exact ⟨fun _ => hother, fun _ => ⟨_, h⟩⟩
  · exact ⟨fun ⟨e, he⟩ => (by cases h.symm.trans he), fun hother => absurd hother hown⟩
  · exact ⟨fun ⟨e, he⟩ => (by cases h.symm.trans he), fun hother => absurd hother hown⟩

/-- Only members that all name the class are refused for a repetition. -/
theorem ofParts_eq_duplicate_iff :
    (∃ e, ofParts header fields methods = .error (.duplicate e)) ↔
      ¬ NamesOther header.type fields methods ∧ Repeats fields methods := by
  obtain ⟨hother, m, h⟩ | ⟨hown, hrepeats, m, h⟩ | ⟨-, honce, h⟩ :=
    ofParts_cases header fields methods
  · exact ⟨fun ⟨e, he⟩ => (by cases h.symm.trans he), fun ⟨hown, _⟩ => absurd hother hown⟩
  · exact ⟨fun _ => ⟨hown, hrepeats⟩, fun _ => ⟨_, h⟩⟩
  · exact ⟨fun ⟨e, he⟩ => (by cases h.symm.trans he), fun ⟨_, hrepeats⟩ => absurd hrepeats honce⟩

theorem exists_ofParts_eq_ok_iff : (∃ c, ofParts header fields methods = .ok c) ↔
    ¬ NamesOther header.type fields methods ∧ ¬ Repeats fields methods := by
  rw [← declares_iff_not]
  exact ⟨fun ⟨_, h⟩ => (ofParts_eq_ok_iff.mp h).1, fun h => ⟨_, ofParts_eq_ok_iff.mpr ⟨h, rfl⟩⟩⟩

/-- A definition that came out of parts is what its own parts make. -/
theorem ofParts_parts (h : ofParts header fields methods = .ok c) :
    ofParts c.toClassHeader c.fields c.methods = .ok c := by
  obtain ⟨hdeclares, rfl⟩ := ofParts_eq_ok_iff.mp h
  have hown : Declares header.type (assemble header fields methods).fields
      (assemble header fields methods).methods :=
    hdeclares.of_perm (fields_assemble_perm ..).symm (methods_assemble_perm ..).symm
  exact ofParts_eq_ok_iff.mpr ⟨hown, assemble_of_assemble⟩

/-! ## The order of the members -/

theorem namesOther_perm (hf : fields.Perm fields') (hm : methods.Perm methods') :
    NamesOther type fields methods ↔ NamesOther type fields' methods' := by
  simp only [NamesOther, hf.mem_iff, hm.mem_iff]

theorem repeats_perm (hf : fields.Perm fields') (hm : methods.Perm methods') :
    Repeats fields methods ↔ Repeats fields' methods' := by
  have hnodup : ∀ (fs : List FieldDef) (ms : List MethodDef), ¬ Repeats fs ms ↔
      (fs.map fun f => (f.name, f.type)).Nodup ∧
        (ms.map fun m => (m.name, m.paramTypes, m.returnType)).Nodup := by
    intro fs ms
    simp only [Repeats, not_or, Sorted.nodup_map_iff, Prod.mk.injEq]
  rw [← not_iff_not, hnodup, hnodup, (hf.map _).nodup_iff, (hm.map _).nodup_iff]

/-- The order of the members decides at most which of them a refusal names. -/
theorem mapError_kind_ofParts_perm (hf : fields.Perm fields') (hm : methods.Perm methods') :
    (ofParts header fields' methods').mapError Error.kind =
      (ofParts header fields methods).mapError Error.kind := by
  have hother : NamesOther header.type fields methods ↔ NamesOther header.type fields' methods' :=
    namesOther_perm hf hm
  obtain ⟨h, m, heq⟩ | ⟨hown, h, m, heq⟩ | ⟨hown, honce, heq⟩ := ofParts_cases header fields methods
  · obtain ⟨e, heq'⟩ := ofParts_eq_badArgument_iff.mpr (hother.mp h)
    rw [heq, heq']
    rfl
  · obtain ⟨e, heq'⟩ := ofParts_eq_duplicate_iff.mpr
      ⟨hother.not.mp hown, (repeats_perm hf hm).mp h⟩
    rw [heq, heq']
    rfl
  · obtain ⟨-, hform⟩ := ofParts_eq_ok_iff_formOf.mp heq
    have hdeclares : Declares header.type fields methods := declares_iff_not.mpr ⟨hown, honce⟩
    rw [heq, ofParts_eq_ok_iff_formOf.mpr ⟨hdeclares.of_perm hf hm, hform.of_perm hf hm⟩]

/-- What putting a class together does with its parts, whatever they are: which of the three ends
it comes to, what it makes of them, that their order is forgotten, and that nothing is left to do
for a class that was put together. -/
theorem ofParts_normalises (header : ClassHeader) (fields : List FieldDef)
    (methods : List MethodDef) :
    ((∃ e, ofParts header fields methods = .error (.badArgument e)) ↔
      NamesOther header.type fields methods) ∧
    ((∃ e, ofParts header fields methods = .error (.duplicate e)) ↔
      ¬ NamesOther header.type fields methods ∧ Repeats fields methods) ∧
    ((∃ c, ofParts header fields methods = .ok c) ↔
      ¬ NamesOther header.type fields methods ∧ ¬ Repeats fields methods) ∧
    (∀ c, ofParts header fields methods = .ok c → FormOf header fields methods c ∧
      (∀ d, FormOf header fields methods d → d = c) ∧
      ofParts c.toClassHeader c.fields c.methods = .ok c) ∧
    ∀ fields' methods', fields.Perm fields' → methods.Perm methods' →
      (ofParts header fields' methods').mapError Error.kind =
        (ofParts header fields methods).mapError Error.kind := by
  refine ⟨ofParts_eq_badArgument_iff, ofParts_eq_duplicate_iff, exists_ofParts_eq_ok_iff, ?_,
    fun fields' methods' => mapError_kind_ofParts_perm⟩
  intro c hc
  have hform := (ofParts_eq_ok_iff_formOf.mp hc).2
  exact ⟨hform, fun d hd => hd.unique hform, ofParts_parts hc⟩

/-- Two fields of one name and of different types, in both orders, and an interface given twice. -/
theorem ofParts_normalises_two_fields :
    let header := ClassDef.sample.toClassHeader
    let f : FieldDef := ⟨"LWorker;", "count", "I", .static, none, .empty⟩
    let g : FieldDef := ⟨"LWorker;", "count", "J", .isPrivate, none, .empty⟩
    ∃ c, ofParts header [g, f] [] = .ok c ∧ FormOf header [g, f] [] c ∧
      ofParts c.toClassHeader c.fields c.methods = .ok c ∧
      (ofParts header [f, g] []).mapError Error.kind =
        (ofParts header [g, f] []).mapError Error.kind := by
  intro header f g
  obtain ⟨-, -, -, hok, hperm⟩ := ofParts_normalises header [g, f] []
  have hrun : ofParts header [g, f] [] = .ok (assemble header [g, f] []) := by decide +kernel
  obtain ⟨hform, -, hparts⟩ := hok _ hrun
  exact ⟨_, hrun, hform, hparts, hperm [f, g] [] (List.Perm.swap f g []) (List.Perm.refl _)⟩

end ClassDef

end DexPools
