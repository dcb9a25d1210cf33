import DexPools.Proofs.Pools

/-!
# What pooled things lead to

Everything that a session builds is made of pool entries: a value has them at its leaves, an
instruction in its operands, a class in all of its parts. `items` lists the entries that one gets
to from a thing by following it all the way down, an entry itself first.

A session reads a pooled thing back to a definition when the text of the thing is that of the
definition and every entry that the thing leads to is the one that its pool holds. The second
half is what makes the first one last: entries are never dropped, so what a session reads back
every later session reads back too.
-/

namespace DexPools

/-! ## The entries that a thing leads to -/

def StringEntry.items (e : StringEntry) : List Item :=
  [.string e]

def TypeEntry.items (e : TypeEntry) : List Item :=
  .type e :: e.descriptor.items

def TypeListEntry.items (e : TypeListEntry) : List Item :=
  .typeList e :: e.types.flatMap TypeEntry.items

def ProtoEntry.items (e : ProtoEntry) : List Item :=
  .proto e :: (e.shorty.items ++ e.params.items ++ e.returnType.items)

def FieldEntry.items (e : FieldEntry) : List Item :=
  .field e :: (e.definingClass.items ++ e.name.items ++ e.type.items)

def MethodEntry.items (e : MethodEntry) : List Item :=
  .method e :: (e.definingClass.items ++ e.name.items ++ e.proto.items)

namespace Value

mutual

/-- The entries at the leaves of a value, and those that they lead to. -/
def items : PooledValue → List Item
  | string s => s.items
  | type t => t.items
  | field f => f.items
  | method m => m.items
  | enum f => f.items
  | array vs => itemsOfArray vs
  | annotationItem t es => t.items ++ itemsOfElements es
  | byte _ | short _ | char _ | int _ | long _ | float _ | double _ | null | boolean _ => []

def itemsOfArray : List PooledValue → List Item
  | [] => []
  | v :: rest => items v ++ itemsOfArray rest

def itemsOfElements : List (Named StringEntry PooledValue) → List Item
  | [] => []
  | ⟨name, v⟩ :: rest => name.items ++ items v ++ itemsOfElements rest

end

end Value

def AnnotationEntry.items (e : AnnotationEntry) : List Item :=
  Item.annotation e :: (e.type.items ++ Value.itemsOfElements e.elements)

def AnnotationSetEntry.items (e : AnnotationSetEntry) : List Item :=
  .annotationSet e :: e.annotations.flatMap AnnotationEntry.items

/-- All that an entry leads to, itself included. -/
def Item.items : Item → List Item
  | string e => e.items
  | type e => e.items
  | typeList e => e.items
  | proto e => e.items
  | field e => e.items
  | method e => e.items
  | annotation e => e.items
  | annotationSet e => e.items

def PooledReference.items : PooledReference → List Item
  | string e => e.items
  | type e => e.items
  | field e => e.items
  | method e => e.items
  | methodProto e => e.items

def Instruction.references {ρ : Type} (i : Instruction ρ) : List ρ :=
  i.reference?.toList ++ i.secondReference?.toList

def Instruction.items (i : Instruction PooledReference) : List Item :=
  i.references.flatMap PooledReference.items

def Handler.items (h : Handler TypeEntry) : List Item :=
  h.type.toList.flatMap TypeEntry.items

def TryBlock.items (t : TryBlock TypeEntry) : List Item :=
  t.handlers.flatMap Handler.items

def DebugItem.items : DebugItem StringEntry TypeEntry → List Item
  | startLocal _ _ name type signature =>
      name.toList.flatMap StringEntry.items ++ type.toList.flatMap TypeEntry.items ++
        signature.toList.flatMap StringEntry.items
  | setSourceFile _ file => file.toList.flatMap StringEntry.items
  | endLocal .. | restartLocal .. | prologueEnd _ | epilogueBegin _ | line .. => []

def Body.items (b : PooledBody) : List Item :=
  b.instructions.flatMap Instruction.items ++ b.tries.flatMap TryBlock.items ++
    b.debugItems.flatMap DebugItem.items

def PooledField.items (f : PooledField) : List Item :=
  f.ref.items ++ f.initialValue.toList.flatMap Value.items ++ f.annotations.items

def PooledParameter.items (p : PooledParameter) : List Item :=
  p.type.items ++ p.name.toList.flatMap StringEntry.items ++ p.annotations.items

def PooledMethod.items (m : PooledMethod) : List Item :=
  m.ref.items ++ m.params.flatMap PooledParameter.items ++ m.annotations.items ++
    m.body.toList.flatMap Body.items

def ClassEntry.items (c : ClassEntry) : List Item :=
  c.type.items ++ c.superclass.toList.flatMap TypeEntry.items ++ c.interfaces.items ++
    c.sourceFile.toList.flatMap StringEntry.items ++ c.annotations.items ++
    c.fields.flatMap PooledField.items ++ c.methods.flatMap PooledMethod.items

/-! ## Reading back -/

/-- Things made of entries, and the definitions that they stand for. -/
class Pooled (α : Type) (β : outParam Type) where
  /-- The entries that a thing leads to. -/
  items : α → List Item
  /-- Whether the text of a thing is that of a definition. -/
  reads : α → β → Prop

instance : Pooled StringEntry String := ⟨StringEntry.items, fun e s => e.text = s⟩

instance : Pooled TypeEntry String := ⟨TypeEntry.items, fun e d => e.text = d⟩

instance : Pooled TypeListEntry (List String) := ⟨TypeListEntry.items, fun e ds => e.texts = ds⟩

instance : Pooled ProtoEntry ProtoRef := ⟨ProtoEntry.items, fun e p => e.ref = p⟩

instance : Pooled FieldEntry FieldRef := ⟨FieldEntry.items, fun e f => e.ref = f⟩

instance : Pooled MethodEntry MethodRef := ⟨MethodEntry.items, fun e m => e.ref = m⟩

instance : Pooled PooledValue TextValue := ⟨Value.items, fun v t => PooledValue.readBack v = t⟩

instance : Pooled AnnotationEntry Annotation :=
  ⟨AnnotationEntry.items, fun e a => e.readBack = a⟩

instance : Pooled AnnotationSetEntry AnnotationSet :=
  ⟨AnnotationSetEntry.items, fun e s => e.readBack = s⟩

instance : Pooled PooledReference Reference :=
  ⟨PooledReference.items, fun r t => r.readBack = t⟩

instance : Pooled (Instruction PooledReference) (Instruction Reference) :=
  ⟨Instruction.items, fun i t => i.map PooledReference.readBack = t⟩

instance : Pooled (Handler TypeEntry) (Handler String) where
  items := Handler.items
  reads h t := h.type.map TypeEntry.text = t.type ∧ h.address = t.address

instance : Pooled (TryBlock TypeEntry) (TryBlock String) :=
  ⟨TryBlock.items, fun b t => b.map TypeEntry.text = t⟩

instance : Pooled (DebugItem StringEntry TypeEntry) (DebugItem String String) :=
  ⟨DebugItem.items, fun d t => d.map StringEntry.text TypeEntry.text = t⟩

instance : Pooled PooledBody TextBody := ⟨Body.items, fun b t => PooledBody.readBack b = t⟩

instance : Pooled PooledField FieldDef := ⟨PooledField.items, fun f t => f.readBack = t⟩

instance : Pooled PooledParameter Parameter :=
  ⟨PooledParameter.items, fun p t => p.readBack = t⟩

/-- The parameters of a method have to be those of its prototype, from which the method is
referred to. -/
instance : Pooled PooledMethod MethodDef :=
  ⟨PooledMethod.items, fun m t => m.readBack = t ∧ m.ref.ref = t.ref⟩

instance : Pooled ClassEntry ClassDef :=
  ⟨ClassEntry.items, fun c t => c.readBack = t ∧ ∀ m ∈ c.methods, m.ref.ref = m.readBack.ref⟩

section Containers

variable {α β : Type} [Pooled α β]

instance : Pooled (List α) (List β) :=
  ⟨fun as => as.flatMap Pooled.items, List.Forall₂ Pooled.reads⟩

instance : Pooled (Option α) (Option β) :=
  ⟨fun a => a.toList.flatMap Pooled.items, Option.Rel Pooled.reads⟩

instance : Pooled (Except Error α) (Except Error β) where
  items
    | .ok a => Pooled.items a
    | .error _ => []
  reads
    | .ok a, .ok b => Pooled.reads a b
    | .error e, .error e' => e = e'
    | _, _ => False

instance : Pooled (MemberRef × α) (MemberRef × β) where
  items a := Pooled.items a.2
  reads a b := a.1 = b.1 ∧ Pooled.reads a.2 b.2

end Containers

namespace Session

/-- Every entry that a key has in `s` it has in `t` too. -/
def Grows (s t : Session) : Prop :=
  ∀ k i, s.find? k = some i → t.find? k = some i

theorem Grows.refl (s : Session) : s.Grows s :=
  fun _ _ h => h

theorem Grows.trans {s t u : Session} (hst : s.Grows t) (htu : t.Grows u) : s.Grows u :=
  fun k i h => htu k i (hst k i h)

theorem Grows.holds {s t : Session} (h : s.Grows t) {i : Item} (hi : s.Holds i) : t.Holds i :=
  h _ _ hi

theorem Grows.has {s t : Session} (h : s.Grows t) {k : Key} (hk : s.Has k) : t.Has k := by
  obtain ⟨i, hi⟩ := hk
  exact ⟨i, h k i hi⟩

def HoldsAll (s : Session) (items : List Item) : Prop :=
  ∀ i ∈ items, s.Holds i

@[simp]
theorem holdsAll_nil {s : Session} : s.HoldsAll [] := by
  simp [HoldsAll]

@[simp]
theorem holdsAll_cons {s : Session} {i : Item} {is : List Item} :
    s.HoldsAll (i :: is) ↔ s.Holds i ∧ s.HoldsAll is := by
  simp [HoldsAll]

@[simp]
theorem holdsAll_append {s : Session} {is js : List Item} :
    s.HoldsAll (is ++ js) ↔ s.HoldsAll is ∧ s.HoldsAll js := by
  simp [HoldsAll, or_imp, forall_and]

@[simp]
theorem holdsAll_flatMap {α : Type} {s : Session} {f : α → List Item} {as : List α} :
    s.HoldsAll (as.flatMap f) ↔ ∀ a ∈ as, s.HoldsAll (f a) := by
  simp only [HoldsAll, List.mem_flatMap]
  grind

theorem Grows.holdsAll {s t : Session} (h : s.Grows t) {is : List Item} (his : s.HoldsAll is) :
    t.HoldsAll is :=
  fun i hi => h.holds (his i hi)

/-- Whether a thing is made of what the session holds and has the text of a definition. -/
def Reads {α β : Type} [Pooled α β] (s : Session) (a : α) (b : β) : Prop :=
  Pooled.reads a b ∧ s.HoldsAll (Pooled.items a)

section

variable {α β : Type} [Pooled α β] {s t : Session}

theorem Reads.text {a : α} {b : β} (h : s.Reads a b) : Pooled.reads a b :=
  h.1

theorem Reads.holdsAll {a : α} {b : β} (h : s.Reads a b) : s.HoldsAll (Pooled.items a) :=
  h.2

theorem Reads.mono {a : α} {b : β} (h : s.Reads a b) (hst : s.Grows t) : t.Reads a b :=
  ⟨h.1, hst.holdsAll h.2⟩

theorem reads_nil : s.Reads ([] : List α) [] :=
  ⟨List.Forall₂.nil, holdsAll_nil⟩

theorem reads_cons_iff {a : α} {as : List α} {b : β} {bs : List β} :
    s.Reads (a :: as) (b :: bs) ↔ s.Reads a b ∧ s.Reads as bs := by
  simp only [Reads, Pooled.reads, Pooled.items, List.forall₂_cons, List.flatMap_cons,
    holdsAll_append]
  tauto

theorem reads_none : s.Reads (none : Option α) none :=
  ⟨Option.Rel.none, holdsAll_nil⟩

theorem reads_some_iff {a : α} {b : β} : s.Reads (some a) (some b) ↔ s.Reads a b := by
  constructor
  · rintro ⟨⟨h⟩, hitems⟩
    exact ⟨h, by simpa [Pooled.items] using hitems⟩
  · rintro ⟨h, hitems⟩
    exact ⟨Option.Rel.some h, by simpa [Pooled.items] using hitems⟩

end

end Session

/-- A list stands for the texts of its elements if each element has one text. -/
theorem forall₂_eq_map {α β : Type} {f : α → β} {as : List α} {bs : List β}
    (h : List.Forall₂ (fun a b => f a = b) as bs) : as.map f = bs := by
  induction h with
  | nil => rfl
  | cons hab _ ih => rw [List.map_cons, hab, ih]

/-- What is made of a list, element by element, stands in the order of the list. -/
theorem forall₂_of_mapM_eq_ok {α β : Type} {f : α → Except Error β} {as : List α} {bs : List β}
    (h : as.mapM f = .ok bs) : List.Forall₂ (fun a b => f a = .ok b) as bs := by
  induction as generalizing bs with
  | nil =>
      rw [List.mapM_nil] at h
      cases h
      exact .nil
  | cons a as ih =>
      rw [List.mapM_cons] at h
      obtain ⟨b, ha, h⟩ := bind_eq_ok_iff.mp h
      obtain ⟨bs', has, rfl⟩ := bind_pure_eq_ok_iff.mp h
      exact .cons ha (ih has)

theorem Session.Reads.memberRefs {s : Session} {methods : List PooledMethod}
    {ms : List MethodDef} (h : s.Reads methods ms) : ∀ m ∈ methods, m.ref.ref = m.readBack.ref := by
  have hrefs : ∀ {as : List PooledMethod} {bs : List MethodDef},
      List.Forall₂ Pooled.reads as bs → ∀ m ∈ as, m.ref.ref = m.readBack.ref := by
    intro as bs h
    induction h with
    | nil => exact fun _ hm => absurd hm List.not_mem_nil
    | cons hab _ ih =>
        intro m hm
        rcases List.mem_cons.mp hm with rfl | hm
        · rw [hab.2, hab.1]
        · exact ih m hm
  exact hrefs h.text

theorem optionRel_eq_map {α β : Type} {f : α → β} {a : Option α} {b : Option β}
    (h : Option.Rel (fun a b => f a = b) a b) : a.map f = b := by
  cases h with
  | none => rfl
  | some hab => rw [Option.map_some, hab]

end DexPools
