import DexPools.Proofs.ListOrder

/-!
# The initial values that a class stores

A class stores initial values for its static fields up to the last one that needs a value, and the
fields before that one which have no value of their own stand with the default of their type. The
default is never missing, since no field of a session has a type without one. Fields are compared by
what they are, so neither the order in which they were given nor the other members have a say in
what is stored.
-/

namespace DexPools

open Std

/-! ## Up to the last -/

section UpToLast

variable {α β : Type} {p : α → Bool} {xs : List α}

theorem upToLast_eq_nil_iff : upToLast p xs = [] ↔ ∀ x ∈ xs, p x = false := by
  induction xs with
  | nil => exact iff_of_true rfl fun _ hx => absurd hx List.not_mem_nil
  | cons x xs ih =>
      rw [upToLast, List.forall_mem_cons, ← ih]
      cases upToLast p xs with
      | nil => cases p x <;> simp
      | cons y ys => simp

/-- What is kept ends with the last element that has the property. -/
theorem exists_of_upToLast_ne_nil (h : upToLast p xs ≠ []) :
    ∃ before a after, xs = before ++ a :: after ∧ upToLast p xs = before ++ [a] ∧ p a = true ∧
      ∀ b ∈ after, p b = false := by
  induction xs with
  | nil => exact absurd rfl h
  | cons x xs ih =>
      rw [upToLast] at h ⊢
      split at h
      · next hnone =>
          by_cases hx : p x = true
          · refine ⟨[], x, xs, rfl, ?_, hx, upToLast_eq_nil_iff.mp hnone⟩
            exact if_pos hx
          · rw [if_neg hx] at h
            exact absurd rfl h
      · next hkept =>
          obtain ⟨before, a, after, hxs, hinit, ha, hafter⟩ := ih hkept
          refine ⟨x :: before, a, after, ?_, ?_, ha, hafter⟩
          · rw [hxs, List.cons_append]
          · rw [hinit, List.cons_append]

theorem upToLast_map {f : α → β} {q : β → Bool} (h : ∀ x, q (f x) = p x) (xs : List α) :
    upToLast q (xs.map f) = (upToLast p xs).map f := by
  induction xs with
  | nil => rfl
  | cons x xs ih =>
      rw [List.map_cons, upToLast, upToLast, ih, h]
      cases upToLast p xs with
      | nil => cases p x <;> rfl
      | cons y ys => rfl

end UpToLast

/-! ## One by one -/

section MapM

variable {α β γ : Type} {f : α → Except Error β} {as : List α} {bs : List β}

theorem mapM_eq_ok_iff :
    as.mapM f = .ok bs ↔ List.Forall₂ (fun a b => f a = .ok b) as bs := by
  refine ⟨forall₂_of_mapM_eq_ok, fun h => ?_⟩
  induction h with
  | nil => rfl
  | cons hab _ ih =>
      rw [List.mapM_cons, hab, ih]
      rfl

theorem exists_mapM_eq_ok (h : ∀ a ∈ as, ∃ b, f a = .ok b) : ∃ bs, as.mapM f = .ok bs := by
  induction as with
  | nil => exact ⟨[], rfl⟩
  | cons a as ih =>
      obtain ⟨⟨b, hb⟩, has⟩ := List.forall_mem_cons.mp h
      obtain ⟨bs, hbs⟩ := ih has
      exact ⟨b :: bs, mapM_eq_ok_iff.mpr (.cons hb (mapM_eq_ok_iff.mp hbs))⟩

theorem getElem?_of_forall₂ {R : α → β → Prop} (h : List.Forall₂ R as bs) {i : Nat} {a : α}
    (ha : as[i]? = some a) : ∃ b, bs[i]? = some b ∧ R a b := by
  induction h generalizing i with
  | nil => simp at ha
  | cons hab _ ih =>
      cases i with
      | zero =>
          cases ha
          exact ⟨_, rfl, hab⟩
      | succ i => exact ih ha

/-- What relates to a list with one more element at its end has one more element at its end. -/
theorem forall₂_concat {R : α → β → Prop} {a : α} (h : List.Forall₂ R (as ++ [a]) bs) :
    ∃ bs' b, bs = bs' ++ [b] ∧ List.Forall₂ R as bs' ∧ R a b := by
  rw [← List.forall₂_reverse_iff, List.reverse_concat, List.forall₂_cons_left_iff] at h
  obtain ⟨b, bs', hab, has, hbs⟩ := h
  refine ⟨bs'.reverse, b, ?_, List.forall₂_reverse_iff.mp (by simpa using has), hab⟩
  rw [← List.reverse_cons, ← hbs, List.reverse_reverse]

end MapM

/-! ## Defaults -/

namespace Value

variable {σ τ φ μ σ' τ' φ' μ' : Type} {v : Value σ τ φ μ}

theorem isDefault_map (onString : σ → σ') (onType : τ → τ') (onField : φ → φ') (onMethod : μ → μ')
    (v : Value σ τ φ μ) : (v.map onString onType onField onMethod).isDefault = v.isDefault := by
  cases v <;> rfl

theorem defaultFor_eq_ok_iff {d : String} :
    defaultFor d = .ok v ↔ defaultOf? d.toList = some v := by
  unfold defaultFor
  cases defaultOf? d.toList with
  | none => exact iff_of_false nofun nofun
  | some w => rw [Except.ok.injEq, Option.some.injEq]

theorem defaultFor_map (onString : σ → σ') (onType : τ → τ') (onField : φ → φ')
    (onMethod : μ → μ') (d : String) :
    (defaultFor d : Except Error (Value σ τ φ μ)).map (map onString onType onField onMethod) =
      defaultFor d := by
  have hdefault : (defaultOf? d.toList : Option (Value σ τ φ μ)).map
      (map onString onType onField onMethod) = defaultOf? d.toList := by
    unfold defaultOf?
    split <;> rfl
  unfold defaultFor
  rw [← hdefault]
  cases defaultOf? d.toList <;> rfl

/-- The default of a type is the default of its kind. -/
theorem isDefault_of_defaultFor {d : String} (h : defaultFor d = .ok v) : v.isDefault = true := by
  rw [defaultFor_eq_ok_iff] at h
  unfold defaultOf? at h
  split at h <;> cases h <;> rfl

/-- The first letter tells whether there is a default. -/
theorem exists_defaultOf?_iff {cs : List Char} :
    (∃ v : Value σ τ φ μ, defaultOf? cs = some v) ↔
      ∃ c ∈ '[' :: Descriptor.letters, cs.head? = some c := by
  constructor
  · rintro ⟨v, hv⟩
    unfold defaultOf? at hv
    split at hv <;> first | exact ⟨_, by decide, rfl⟩ | cases hv
  · rintro ⟨c, hc, hhead⟩
    obtain ⟨rest, rfl⟩ := List.head?_eq_some_iff.mp hhead
    simp only [Descriptor.letters, List.mem_cons, List.not_mem_nil, or_false] at hc
    rcases hc with rfl | rfl | rfl | rfl | rfl | rfl | rfl | rfl | rfl | rfl <;> exact ⟨_, rfl⟩

/-- Every type that a field can have has a default. -/
theorem exists_defaultFor {d : String} (h : Descriptor.check false d = .ok ()) :
    ∃ v : Value σ τ φ μ, defaultFor d = .ok v := by
  simp only [defaultFor_eq_ok_iff]
  rw [Descriptor.check_eq_ok_iff] at h
  unfold Descriptor.isValid at h
  split at h
  · next rest hd => exact exists_defaultOf?_iff.mpr ⟨'[', List.mem_cons_self, by rw [hd]; rfl⟩
  · rcases Descriptor.isElement_cases h with ⟨hvoid, -⟩ | ⟨c, hc, hd⟩ | ⟨rest, hd⟩
    · cases hvoid
    · have hletter := Descriptor.mem_letters_of_primitive hc
      exact exists_defaultOf?_iff.mpr ⟨c, List.mem_cons_of_mem _ hletter, by rw [hd]; rfl⟩
    · exact exists_defaultOf?_iff.mpr ⟨'L', by decide, by rw [hd]; rfl⟩

end Value

/-! ## What is stored -/

namespace PooledField

variable {f : PooledField} {v : PooledValue}

theorem needsValue_iff :
    f.needsValue = true ↔ ∃ v, f.initialValue = some v ∧ v.isDefault = false := by
  unfold needsValue
  rw [Option.any_eq_true]
  simp only [Bool.not_eq_true']

/-- Whether a value is what is stored for a field: its own or, if it has none, the default of its
type, which is the default of a kind too. -/
def Stores (f : PooledField) (v : PooledValue) : Prop :=
  f.initialValue = some v ∨
    f.initialValue = none ∧ Value.defaultFor f.ref.type.text = .ok v ∧ v.isDefault = true

theorem exists_valueOrDefault (h : ∃ v : PooledValue, Value.defaultFor f.ref.type.text = .ok v) :
    ∃ v, f.valueOrDefault = .ok v := by
  unfold valueOrDefault
  cases f.initialValue with
  | some v => exact ⟨v, rfl⟩
  | none => exact h

theorem stores_of_valueOrDefault (h : f.valueOrDefault = .ok v) : f.Stores v := by
  unfold valueOrDefault at h
  cases hvalue : f.initialValue with
  | some w =>
      rw [hvalue] at h
      cases h
      exact .inl hvalue
  | none =>
      rw [hvalue] at h
      exact .inr ⟨hvalue, h, Value.isDefault_of_defaultFor h⟩

end PooledField

namespace ClassEntry

variable {c : ClassEntry}

/-- Whether stored values reach from the first static field up to one that needs its value while no
later one does. Each field before it stands with what is stored for it. -/
structure StoresUpTo (c : ClassEntry) (before : List PooledField) (f : PooledField)
    (after : List PooledField) (values : List PooledValue) : Prop where
  fields : c.staticFields = before ++ f :: after
  length : values.length = before.length + 1
  last : ∃ v, values.getLast? = some v ∧ f.initialValue = some v ∧ v.isDefault = false
  earlier : List.Forall₂ PooledField.Stores before values.dropLast
  later : ∀ g ∈ after, ∀ v, g.initialValue = some v → v.isDefault = true

/-- Whether the stored values of a class can be asked for, and are those up to the last static field
that needs a value, if there is one. -/
structure StoresStatics (c : ClassEntry) : Prop where
  total : ∃ stored, c.staticValues? = .ok stored
  none_iff : c.staticValues? = .ok none ↔
    ∀ f ∈ c.staticFields, ∀ v, f.initialValue = some v → v.isDefault = true
  some : ∀ values, c.staticValues? = .ok (some values) →
    ∃ before f after, c.StoresUpTo before f after values

theorem staticValues?_of_nil (h : upToLast PooledField.needsValue c.staticFields = []) :
    c.staticValues? = .ok none := by
  unfold staticValues?
  rw [h]

theorem staticValues?_of_ne_nil (h : upToLast PooledField.needsValue c.staticFields ≠ []) :
    c.staticValues? = (upToLast PooledField.needsValue c.staticFields).mapM
      PooledField.valueOrDefault >>= fun values => pure (some values) := by
  unfold staticValues?
  split
  · next hnil => exact absurd hnil h
  · rfl

theorem exists_storesUpTo {values : List PooledValue}
    (hkept : upToLast PooledField.needsValue c.staticFields ≠ [])
    (hvalues : (upToLast PooledField.needsValue c.staticFields).mapM
      PooledField.valueOrDefault = .ok values) :
    ∃ before f after, c.StoresUpTo before f after values := by
  obtain ⟨before, f, after, hfields, hinit, hneeds, hlater⟩ := exists_of_upToLast_ne_nil hkept
  obtain ⟨v, hv, hdefault⟩ := PooledField.needsValue_iff.mp hneeds
  rw [hinit] at hvalues
  obtain ⟨given, w, rfl, hgiven, hw⟩ := forall₂_concat (mapM_eq_ok_iff.mp hvalues)
  have hvw : v = w := by
    unfold PooledField.valueOrDefault at hw
    rw [hv] at hw
    exact Except.ok.inj hw
  subst hvw
  refine ⟨before, f, after, hfields, ?_, ⟨v, List.getLast?_concat, hv, hdefault⟩, ?_, ?_⟩
  · rw [List.length_append, List.length_singleton, hgiven.length_eq]
  · rw [List.dropLast_concat]
    exact hgiven.imp fun _ _ => PooledField.stores_of_valueOrDefault
  · intro g hg u hu
    by_contra hne
    have hneeds := PooledField.needsValue_iff.mpr ⟨u, hu, Bool.not_eq_true _ ▸ hne⟩
    rw [hlater g hg] at hneeds
    cases hneeds

/-- Where each static field has a type with a default, it is only a question of whether some field
needs a value. -/
theorem staticValues?_cases (htypes : ∀ f ∈ c.staticFields, ∃ v : PooledValue,
    Value.defaultFor f.ref.type.text = .ok v) :
    (upToLast PooledField.needsValue c.staticFields = [] ∧ c.staticValues? = .ok none) ∨
      ∃ values, upToLast PooledField.needsValue c.staticFields ≠ [] ∧
        c.staticValues? = .ok (Option.some values) ∧
        (upToLast PooledField.needsValue c.staticFields).mapM PooledField.valueOrDefault =
          .ok values := by
  by_cases hkept : upToLast PooledField.needsValue c.staticFields = []
  · exact .inl ⟨hkept, staticValues?_of_nil hkept⟩
  · have hvalue : ∀ f ∈ upToLast PooledField.needsValue c.staticFields,
        ∃ v, f.valueOrDefault = .ok v := fun f hf =>
      PooledField.exists_valueOrDefault (htypes f (mem_of_mem_upToLast hf))
    obtain ⟨values, hvalues⟩ := exists_mapM_eq_ok hvalue
    refine .inr ⟨values, hkept, ?_, hvalues⟩
    rw [staticValues?_of_ne_nil hkept, hvalues]
    rfl

theorem storesStatics (htypes : ∀ f ∈ c.staticFields, ∃ v : PooledValue,
    Value.defaultFor f.ref.type.text = .ok v) : c.StoresStatics := by
  have hall : (∀ f ∈ c.staticFields, ∀ v, f.initialValue = Option.some v → v.isDefault = true) ↔
      upToLast PooledField.needsValue c.staticFields = [] := by
    rw [upToLast_eq_nil_iff]
    refine forall₂_congr fun f _ => ?_
    rw [← Bool.not_eq_true, PooledField.needsValue_iff]
    simp
  rcases staticValues?_cases htypes with ⟨hkept, hnone⟩ | ⟨values, hkept, hsome, hvalues⟩
  · refine ⟨⟨none, hnone⟩, iff_of_true hnone (hall.mpr hkept), ?_⟩
    intro values hvalues
    cases hnone.symm.trans hvalues
  · refine ⟨⟨_, hsome⟩, ?_, ?_⟩
    · rw [hall, hsome]
      exact iff_of_false nofun hkept
    · intro values' hvalues'
      cases hsome.symm.trans hvalues'
      exact exists_storesUpTo hkept hvalues

end ClassEntry

/-! ## What is stored reads back to what is asked of the definition -/

/-- Whether the field of a definition has an initial value that has to be written. -/
def FieldDef.needsValue (f : FieldDef) : Bool :=
  f.initialValue.any fun v => !v.isDefault

def FieldDef.valueOrDefault (f : FieldDef) : Except Error TextValue :=
  match f.initialValue with
  | some v => .ok v
  | none => Value.defaultFor f.type

/-- What a class of the definition stores for its static fields, as text. -/
def ClassDef.staticValues? (c : ClassDef) : Except Error (Option (List TextValue)) :=
  match upToLast FieldDef.needsValue c.staticFields with
  | [] => .ok none
  | fields => return some (← fields.mapM FieldDef.valueOrDefault)

/-- The stored values of a class, read back. -/
def ClassEntry.storedTexts (c : ClassEntry) : Except Error (Option (List TextValue)) :=
  c.staticValues?.map (Option.map (List.map PooledValue.readBack))

theorem PooledField.needsValue_readBack (f : PooledField) :
    f.readBack.needsValue = f.needsValue := by
  unfold FieldDef.needsValue needsValue
  cases hvalue : f.initialValue with
  | none => simp [readBack, hvalue]
  | some v => simp [readBack, hvalue, PooledValue.readBack, Value.isDefault_map]

theorem PooledField.valueOrDefault_readBack (f : PooledField) :
    f.readBack.valueOrDefault = f.valueOrDefault.map PooledValue.readBack := by
  unfold FieldDef.valueOrDefault valueOrDefault
  cases hvalue : f.initialValue with
  | some v => simp only [readBack, hvalue, Option.map_some, Except.map]
  | none =>
      simp only [readBack, hvalue, Option.map_none]
      exact (Value.defaultFor_map _ _ _ _ _).symm

theorem mapM_map_eq {α α' β β' : Type} {f : α → Except Error β} {g : α' → Except Error β'}
    {view : α → α'} {view' : β → β'} (h : ∀ a, g (view a) = (f a).map view') (as : List α) :
    (as.map view).mapM g = (as.mapM f).map (List.map view') := by
  induction as with
  | nil => rfl
  | cons a as ih =>
      rw [List.map_cons, List.mapM_cons, List.mapM_cons, h, ih]
      cases f a with
      | error e => rfl
      | ok b => cases as.mapM f <;> rfl

theorem ClassEntry.storedTexts_eq (c : ClassEntry) : c.storedTexts = c.readBack.staticValues? := by
  have hkept : upToLast FieldDef.needsValue c.readBack.staticFields =
      (upToLast PooledField.needsValue c.staticFields).map PooledField.readBack :=
    upToLast_map PooledField.needsValue_readBack _
  unfold storedTexts ClassDef.staticValues? staticValues?
  rw [hkept]
  cases upToLast PooledField.needsValue c.staticFields with
  | nil => rfl
  | cons f fs =>
      simp only [List.map_cons]
      rw [← List.map_cons, mapM_map_eq PooledField.valueOrDefault_readBack]
      cases (f :: fs).mapM PooledField.valueOrDefault <;> rfl

/-! ## The order in which the fields were given -/

instance : TransCmp PooledField.compare :=
  inferInstanceAs (TransCmp (compareBy FieldRef.compare fun f : PooledField => f.ref.ref))

namespace Session

variable {s t : Session}

/-- Fields that a class accepts differ in name or type. -/
theorem nodup_of_checkFields {type : TypeEntry} {seen : List (String × String)}
    {fields : List PooledField} (h : checkFields type seen fields = .ok ()) :
    (fields.map fun f => (f.ref.name.text, f.ref.type.text)).Nodup ∧
      ∀ f ∈ fields, (f.ref.name.text, f.ref.type.text) ∉ seen := by
  induction fields generalizing seen with
  | nil => exact ⟨List.nodup_nil, nofun⟩
  | cons f rest ih =>
      rw [checkFields] at h
      split at h
      · cases h
      · split at h
        · cases h
        · next hnew =>
            obtain ⟨hnodup, hseen⟩ := ih h
            refine ⟨List.nodup_cons.mpr ⟨?_, hnodup⟩, List.forall_mem_cons.mpr ⟨hnew, ?_⟩⟩
            · intro hmem
              obtain ⟨g, hg, heq⟩ := List.mem_map.mp hmem
              exact hseen g hg (heq ▸ List.mem_cons_self)
            · intro g hg hmem
              exact hseen g hg (List.mem_cons_of_mem _ hmem)

/-- The static fields of a class that is put together from members, in their order. -/
theorem staticFields_of_defineClassFrom {header : ClassHeader} {fields : List PooledField}
    {methods : List PooledMethod} {c : ClassEntry}
    (hrun : s.run (defineClassFrom header fields methods) = (.ok c, t)) :
    c.staticFields.Pairwise (fun f g => f.compare g = .lt) ∧
      ∀ f, f ∈ c.staticFields ↔ f ∈ fields ∧ f.isStatic = true := by
  rw [defineClassFrom_eq] at hrun
  obtain ⟨make, u, hmake, hadd⟩ := run_bind_eq_ok_iff.mp hrun
  cases hadd
  obtain ⟨type, _, _, _, _, hcheck, -, rfl⟩ := exists_of_classMaker hmake
  obtain ⟨hnodup, -⟩ := nodup_of_checkFields hcheck
  constructor
  · refine (Sorted.sorted_parts_strict _ ((List.pairwise_map.mp hnodup).imp ?_)).1
    intro f g hne heq
    have hcompare : FieldRef.compare f.ref.ref g.ref.ref = .eq := heq
    have href := LawfulEqCmp.eq_of_compare hcompare
    exact hne (congrArg₂ Prod.mk (congrArg FieldRef.name href) (congrArg FieldRef.type href))
  · intro f
    rw [Sorted.mem_sort, List.partition_eq_filter_filter, List.mem_filter]

/-- Whether what the classes of two sessions store depends only on which static fields they have:
for classes that are there already by what the fields read back to, for classes that are put
together by the fields themselves, and for classes that come from parts by the definitions of the
fields. -/
structure StaticsAgree (s s' : Session) : Prop where
  classes : ∀ c ∈ s.classes.items, ∀ c' ∈ s'.classes.items,
    (∀ f, f ∈ c.readBack.staticFields ↔ f ∈ c'.readBack.staticFields) →
      c.storedTexts = c'.storedTexts
  members : ∀ {header header' fields fields' methods methods' c c' t t'},
    s.run (defineClassFrom header fields methods) = (.ok c, t) →
      s'.run (defineClassFrom header' fields' methods') = (.ok c', t') →
        (∀ f, f.isStatic = true → (f ∈ fields ↔ f ∈ fields')) →
          c.staticValues? = c'.staticValues?
  parts : ∀ {header header' fields fields' methods methods' d d' c c' t t'},
    ClassDef.ofParts header fields methods = .ok d →
      ClassDef.ofParts header' fields' methods' = .ok d' →
        (∀ f, f.isStatic = true → (f ∈ fields ↔ f ∈ fields')) →
          s.run (defineClass d) = (.ok c, t) → s'.run (defineClass d') = (.ok c', t') →
            c.storedTexts = c'.storedTexts

theorem Sound.defaultFor_field (hs : s.Sound) {c : ClassEntry} (hc : c ∈ s.classes.items)
    {f : PooledField} (hf : f ∈ c.staticFields) :
    ∃ v : PooledValue, Value.defaultFor f.ref.type.text = .ok v := by
  have hitems : s.HoldsAll c.items := (hs.classReads c hc).holdsAll
  simp only [ClassEntry.items, holdsAll_append, holdsAll_flatMap] at hitems
  have hfield : s.HoldsAll f.items := hitems.1.2 f (List.mem_append_left _ hf)
  simp only [PooledField.items, FieldEntry.items, holdsAll_append, holdsAll_cons] at hfield
  exact Value.exists_defaultFor (hs.check_field hfield.1.1.1).2

theorem Reachable.inForm (hs : s.Reachable) {c : ClassEntry} (hc : c ∈ s.classes.items) :
    c.readBack.InForm := by
  obtain ⟨fields, methods, hh⟩ := hs
  exact hh.formed.classes c hc

theorem storedTexts_eq_of_inForm {c c' : ClassEntry} (hform : c.readBack.InForm)
    (hform' : c'.readBack.InForm)
    (hfields : ∀ f, f ∈ c.readBack.staticFields ↔ f ∈ c'.readBack.staticFields) :
    c.storedTexts = c'.storedTexts := by
  -- Both lists ascend strictly, so they are the same as soon as they have the same fields.
  have heq := Sorted.eq_of_strict hform.fields_strict.1 hform'.fields_strict.1 hfields
  rw [c.storedTexts_eq, c'.storedTexts_eq]
  unfold ClassDef.staticValues?
  rw [heq]

/-- The static fields that a class keeps of a definition from parts: those that are accepted. -/
theorem mem_staticFields_of_ofParts (hs : s.Sound) {header : ClassHeader} {fields : List FieldDef}
    {methods : List MethodDef} {d : ClassDef} {c : ClassEntry}
    (hparts : ClassDef.ofParts header fields methods = .ok d)
    (hrun : s.run (defineClass d) = (.ok c, t)) (f : FieldDef) :
    f ∈ c.readBack.staticFields ↔
      f ∈ fields ∧ f.isStatic = true ∧ (Plan.fieldDef f).outcome = .ok () := by
  obtain ⟨-, -, -, hreads⟩ := (builds_defineClass d).of_run hs hrun
  obtain ⟨-, rfl⟩ := ClassDef.ofParts_eq_ok_iff.mp hparts
  rw [show c.readBack = _ from hreads.text.1, Plan.classBuilt, ClassDef.assemble, Sorted.mem_sort,
    List.partition_eq_filter_filter, List.mem_filter, Plan.triedFields, Plan.mem_survivors_iff,
    (ClassDef.fields_assemble_perm header fields methods).mem_iff]
  tauto

theorem inForm_of_run_defineClass (hs : s.Reachable) {d : ClassDef} {c : ClassEntry}
    (hrun : s.run (defineClass d) = (.ok c, t)) : c.readBack.InForm := by
  have ht := hs.defineClass d
  rw [hrun] at ht
  refine ht.inForm ?_
  have hitems := (addsClass_defineClass d s).2
  rw [hrun] at hitems
  rw [hitems]
  exact List.mem_cons_self

theorem staticsAgree {s' : Session} (hs : s.Reachable) (hs' : s'.Reachable) :
    s.StaticsAgree s' where
  classes c hc c' hc' hfields := storedTexts_eq_of_inForm (hs.inForm hc) (hs'.inForm hc') hfields
  members {_ _ fields fields' _ _ c c' _ _} hrun hrun' hfields := by
    obtain ⟨hstrict, hmem⟩ := staticFields_of_defineClassFrom hrun
    obtain ⟨hstrict', hmem'⟩ := staticFields_of_defineClassFrom hrun'
    have heq : c.staticFields = c'.staticFields := by
      refine Sorted.eq_of_strict hstrict hstrict' ?_
      intro f
      rw [hmem, hmem']
      exact and_congr_left (hfields f)
    unfold ClassEntry.staticValues?
    rw [heq]
  parts {_ _ fields fields' _ _ d d' c c' _ _} hparts hparts' hfields hrun hrun' := by
    refine storedTexts_eq_of_inForm (inForm_of_run_defineClass hs hrun)
      (inForm_of_run_defineClass hs' hrun') ?_
    intro f
    rw [mem_staticFields_of_ofParts hs.sound hparts hrun,
      mem_staticFields_of_ofParts hs'.sound hparts' hrun']
    have hf := hfields f
    tauto

/-- In every reachable session the stored values of each class can be asked for and are those up to
the last static field that needs a value. They depend only on which static fields the class has, in
this session and between any two. -/
theorem staticValues_determined (hs : s.Reachable) :
    (∀ c ∈ s.classes.items, c.StoresStatics) ∧ ∀ s', s'.Reachable → s.StaticsAgree s' :=
  ⟨fun _ hc => ClassEntry.storesStatics fun _ hf => hs.sound.defaultFor_field hc hf,
    fun _ hs' => staticsAgree hs hs'⟩

end Session

/-- A class whose static fields are not in order. The last one that needs a value holds a negative
zero, the one before it has no value, and the one after it holds the default of its type. -/
def ClassDef.constants : ClassDef where
  type := "LLimits;"
  flags := .isPublic
  superclass := none
  interfaces := []
  sourceFile := none
  annotations := .empty
  staticFields := [
    ⟨"LLimits;", "step", "I", .static, some (.int 0), .empty⟩,
    ⟨"LLimits;", "low", "D", .static, some (.double 0x8000000000000000), .empty⟩,
    ⟨"LLimits;", "count", "J", .static, none, .empty⟩]
  instanceFields := []
  directMethods := []
  virtualMethods := []

namespace Session

def constants : Session :=
  ((Session.new .strict).run (defineClass .constants)).2

theorem Reachable.constants : Session.constants.Reachable :=
  (Reachable.new .strict).defineClass _

theorem staticValues_constants : ∃ c ∈ Session.constants.classes.items, c.StoresStatics ∧
    c.storedTexts = .ok (some [.long 0, .double 0x8000000000000000]) := by
  have hstored : ∃ c ∈ Session.constants.classes.items,
      c.storedTexts = .ok (some [.long 0, .double 0x8000000000000000]) := by
    decide +kernel
  obtain ⟨c, hc, hvalues⟩ := hstored
  exact ⟨c, hc, (staticValues_determined Reachable.constants).1 c hc, hvalues⟩

end Session

/-! ## What a reader makes of the stored values -/

/-- Whether the field has an initial value other than the default of its type. -/
def PooledField.Differs (f : PooledField) : Prop :=
  ∃ v, f.initialValue = some v ∧ Value.defaultFor f.ref.type.text ≠ .ok v

theorem PooledField.eq_valueOrDefault_iff {f : PooledField} {v w : PooledValue}
    (hdefault : Value.defaultFor f.ref.type.text = .ok w) (hv : f.valueOrDefault = .ok v) :
    w = v ↔ ¬ f.Differs := by
  unfold valueOrDefault at hv
  cases hvalue : f.initialValue with
  | some u =>
      rw [hvalue] at hv
      have huv : u = v := Except.ok.inj hv
      constructor
      · rintro hwv ⟨u', hu', hne⟩
        cases hvalue.symm.trans hu'
        rw [huv, ← hwv] at hne
        exact hne hdefault
      · intro hsame
        by_contra hne
        refine hsame ⟨u, hvalue, fun heq => hne ?_⟩
        rw [← huv]
        exact Except.ok.inj (hdefault.symm.trans heq)
  | none =>
      rw [hvalue] at hv
      refine iff_of_true (Except.ok.inj (hdefault.symm.trans hv)) ?_
      rintro ⟨u, hu, -⟩
      cases hvalue.symm.trans hu

namespace ClassEntry

variable {c : ClassEntry}

/-- What a reader gives the static fields of a class: to each its stored value as far as there are
any, and to the others the defaults of their types. -/
def readStatics (c : ClassEntry) : Except Error (List PooledValue) := do
  let stored := (← c.staticValues?).getD []
  let rest ← (c.staticFields.drop stored.length).mapM fun f => Value.defaultFor f.ref.type.text
  return stored ++ rest

/-- Whether a class with given stored values is read with one value for each static field, which is
the field's own or the default of its type exactly if the stored values reach the field or the field
does not differ from its type. -/
structure ReadsStatics (c : ClassEntry) (stored values : List PooledValue) : Prop where
  read : c.readStatics = .ok values
  length : values.length = c.staticFields.length
  right_iff : ∀ (i : Nat) (f : PooledField) (v : PooledValue), c.staticFields[i]? = some f →
    f.valueOrDefault = .ok v → (values[i]? = some v ↔ (f.Differs → i < stored.length))

/-- The stored values are those of an initial part of the static fields, after which no field needs
a value. -/
theorem exists_stored (htypes : ∀ f ∈ c.staticFields, ∃ v : PooledValue,
    Value.defaultFor f.ref.type.text = .ok v) :
    ∃ kept rest stored, c.staticFields = kept ++ rest ∧
      c.staticValues?.map (Option.getD · []) = .ok stored ∧
      List.Forall₂ (fun f v => f.valueOrDefault = .ok v) kept stored ∧
      ∀ f ∈ rest, f.needsValue = false := by
  rcases staticValues?_cases htypes with ⟨hkept, hnone⟩ | ⟨values, hkept, hsome, hvalues⟩
  · refine ⟨[], c.staticFields, [], rfl, ?_, .nil, upToLast_eq_nil_iff.mp hkept⟩
    rw [hnone]
    rfl
  · obtain ⟨before, f, after, hfields, hinit, -, hlater⟩ := exists_of_upToLast_ne_nil hkept
    refine ⟨before ++ [f], after, values, ?_, ?_, ?_, hlater⟩
    · rw [hfields, List.append_assoc, List.singleton_append]
    · rw [hsome]
      rfl
    · rw [← hinit]
      exact mapM_eq_ok_iff.mp hvalues

theorem readsStatics {kept rest : List PooledField} {stored values : List PooledValue}
    (hfields : c.staticFields = kept ++ rest)
    (hstored : c.staticValues?.map (Option.getD · []) = .ok stored)
    (hkept : List.Forall₂ (fun f v => f.valueOrDefault = .ok v) kept stored)
    (hrest : List.Forall₂ (fun f v => Value.defaultFor f.ref.type.text = .ok v) rest values) :
    c.ReadsStatics stored (stored ++ values) := by
  have hlength := hkept.length_eq
  refine ⟨?_, ?_, ?_⟩
  · unfold readStatics
    cases hfound : c.staticValues? with
    | error e =>
        rw [hfound] at hstored
        cases hstored
    | ok found =>
        rw [hfound] at hstored
        cases hstored
        refine bind_eq_ok_iff.mpr ⟨found, rfl, bind_pure_eq_ok_iff.mpr ⟨values, ?_, rfl⟩⟩
        rw [hfields, ← hlength, List.drop_left]
        exact mapM_eq_ok_iff.mpr hrest
  · rw [hfields, List.length_append, List.length_append, hlength, hrest.length_eq]
  · intro i f v hf hv
    rw [hfields] at hf
    by_cases hi : i < stored.length
    · rw [List.getElem?_append_left (by omega)] at hf
      obtain ⟨w, hw, hvalue⟩ := getElem?_of_forall₂ hkept hf
      rw [List.getElem?_append_left hi, hw]
      exact iff_of_true (congrArg some (Except.ok.inj (hvalue.symm.trans hv))) fun _ => hi
    · -- Past the stored values it is the default of the type that is read.
      rw [List.getElem?_append_right (by omega), hlength] at hf
      obtain ⟨w, hw, hdefault⟩ := getElem?_of_forall₂ hrest hf
      rw [List.getElem?_append_right (by omega), hw, Option.some.injEq,
        PooledField.eq_valueOrDefault_iff hdefault hv]
      exact ⟨fun hsame hdiffers => absurd hdiffers hsame, fun hreach hdiffers =>
        hi (hreach hdiffers)⟩

/-- All fields are read right if each of them is. -/
theorem ReadsStatics.read_eq_iff {stored values expected : List PooledValue}
    (h : c.ReadsStatics stored values)
    (hexpected : c.staticFields.mapM PooledField.valueOrDefault = .ok expected) :
    c.readStatics = c.staticFields.mapM PooledField.valueOrDefault ↔
      ∀ (i : Nat) (f : PooledField), c.staticFields[i]? = some f → f.Differs →
        i < stored.length := by
  have hvalue : ∀ (i : Nat) (f : PooledField), c.staticFields[i]? = some f →
      ∃ v, expected[i]? = some v ∧ f.valueOrDefault = .ok v :=
    fun i f hf => getElem?_of_forall₂ (mapM_eq_ok_iff.mp hexpected) hf
  rw [h.read, hexpected, Except.ok.injEq]
  constructor
  · rintro rfl i f hf
    obtain ⟨v, hi, hv⟩ := hvalue i f hf
    exact (h.right_iff i f v hf hv).mp hi
  · intro hreach
    refine List.ext_getElem? fun i => ?_
    cases hf : c.staticFields[i]? with
    | some f =>
        obtain ⟨v, hi, hv⟩ := hvalue i f hf
        rw [hi]
        exact (h.right_iff i f v hf hv).mpr (hreach i f hf)
    | none =>
        have hlength := (mapM_eq_ok_iff.mp hexpected).length_eq
        have hi := List.getElem?_eq_none_iff.mp hf
        rw [List.getElem?_eq_none (by rw [h.length]; omega), List.getElem?_eq_none (by omega)]

end ClassEntry

namespace Session

variable {s : Session}

/-- The static fields of every class of every reachable session are read. All are read with the
values that they have exactly if the stored values reach each field that differs from its type, and
they do where all such fields hold more than the default of a kind. -/
theorem statics_read_iff (hs : s.Reachable) {c : ClassEntry} (hc : c ∈ s.classes.items) :
    ∃ stored values, c.staticValues?.map (Option.getD · []) = .ok stored ∧
      c.ReadsStatics stored values ∧
      (c.readStatics = c.staticFields.mapM PooledField.valueOrDefault ↔
        ∀ (i : Nat) (f : PooledField), c.staticFields[i]? = some f → f.Differs →
          i < stored.length) ∧
      ((∀ f ∈ c.staticFields, f.Differs → f.needsValue = true) →
        c.readStatics = c.staticFields.mapM PooledField.valueOrDefault) := by
  have htypes := fun f hf => hs.sound.defaultFor_field (f := f) hc hf
  obtain ⟨kept, rest, stored, hfields, hstored, hkept, hneedless⟩ := ClassEntry.exists_stored htypes
  have hrest : ∀ f ∈ rest, ∃ v : PooledValue, Value.defaultFor f.ref.type.text = .ok v :=
    fun f hf => htypes f (hfields ▸ List.mem_append_right _ hf)
  obtain ⟨defaults, hdefaults⟩ := exists_mapM_eq_ok hrest
  obtain ⟨expected, hexpected⟩ := exists_mapM_eq_ok fun f hf =>
    PooledField.exists_valueOrDefault (htypes f hf)
  have hreads := ClassEntry.readsStatics hfields hstored hkept (mapM_eq_ok_iff.mp hdefaults)
  refine ⟨stored, _, hstored, hreads, hreads.read_eq_iff hexpected, ?_⟩
  intro hneeds
  rw [hreads.read_eq_iff hexpected]
  intro i f hf hdiffers
  by_contra hi
  have hneed := hneeds f (List.mem_of_getElem? hf) hdiffers
  rw [hfields, List.getElem?_append_right (by rw [hkept.length_eq]; omega)] at hf
  rw [hneedless f (List.mem_of_getElem? hf)] at hneed
  cases hneed

theorem statics_read_constants : ∃ c ∈ Session.constants.classes.items,
    c.readStatics = c.staticFields.mapM PooledField.valueOrDefault := by
  have hfields : ∃ c ∈ Session.constants.classes.items, ∀ f ∈ c.staticFields,
      f.valueOrDefault = Value.defaultFor f.ref.type.text ∨ f.needsValue = true := by
    decide +kernel
  obtain ⟨c, hc, hfields⟩ := hfields
  obtain ⟨stored, values, -, -, -, hlossless⟩ := statics_read_iff Reachable.constants hc
  refine ⟨c, hc, hlossless ?_⟩
  rintro f hf ⟨v, hv, hne⟩
  refine (hfields f hf).resolve_left fun hdefault => hne ?_
  rw [← hdefault]
  unfold PooledField.valueOrDefault
  rw [hv]

end Session

/-- A class with a field of a class type that is given the number zero. -/
def ClassDef.mismatched : ClassDef where
  type := "LA;"
  flags := ⟨0⟩
  superclass := none
  interfaces := []
  sourceFile := none
  annotations := .empty
  staticFields := [⟨"LA;", "x", "Ljava/lang/String;", .static, some (.int 0), .empty⟩]
  instanceFields := []
  directMethods := []
  virtualMethods := []

namespace Session

def mismatched : Session :=
  ((Session.new .strict).run (defineClass .mismatched)).2

theorem Reachable.mismatched : Session.mismatched.Reachable :=
  (Reachable.new .strict).defineClass _

/-- The zero is the default of its kind, so it is not stored and is read as the default of the
type. -/
theorem mismatched_reads_null :
    Session.mismatched.Reachable ∧ ∃ c ∈ Session.mismatched.classes.items,
      c.staticValues? = .ok none ∧ c.readStatics = .ok [.null] ∧
      c.staticFields.mapM PooledField.valueOrDefault = .ok [.int 0] :=
  ⟨Reachable.mismatched, by decide +kernel⟩

end Session

end DexPools
