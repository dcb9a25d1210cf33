import DexPools.Proofs.Reachable

/-!
# Sessions only grow

What a session has been told it never forgets. A pool is extended by new entries before the old
ones and by numbers in slots that held none, the classes by new classes and by the one order that
seals them, the diagnostics at their end. Extending is a preorder, and whatever an operation does
to a session is put together from three steps that extend it: an entry gets a row of its own, an
unwritten slot takes a number, the classes are sealed.

Writing slots is the step that adds nothing. Without its slots, the session is the same before and
after, and so is everything that is read off the entries. Building is the opposite step: it adds
rows, and what stands in the slots that were there stays, also where nothing stands.
-/

namespace DexPools

/-! ## Slot tables -/

namespace SlotTable

variable {ς : Type} [SlotKind ς] {t t' t'' : SlotTable ς} {row : Nat} {slot : ς} {value : UInt32}

/-- Whether every slot that holds a number keeps it. -/
def Keeps (t t' : SlotTable ς) : Prop :=
  ∀ row slot value, t.get? row slot = some value → t'.get? row slot = some value

theorem Keeps.refl (t : SlotTable ς) : t.Keeps t :=
  fun _ _ _ h => h

theorem Keeps.trans (h : t.Keeps t') (h' : t'.Keeps t'') : t.Keeps t'' :=
  fun row slot value hvalue => h' row slot value (h row slot value hvalue)

theorem keeps_allocate (t : SlotTable ς) : t.Keeps t.allocate.2 := by
  intro row slot value h
  obtain ⟨r, hr, hvalue⟩ := get?_eq_some_iff.mp h
  have hrow : row < t.rows.length := (List.getElem?_eq_some_iff.mp hr).1
  refine get?_eq_some_iff.mpr ⟨r, ?_, hvalue⟩
  show (t.rows ++ _)[row]? = some r
  rw [List.getElem?_append_left hrow, hr]

/-- A slot that holds a number refuses another one, so a write that succeeds keeps all numbers. -/
theorem keeps_set (hset : t.set row slot value = .ok t') : t.Keeps t' := by
  obtain ⟨hcell, rfl⟩ := set_eq_ok_iff.mp hset
  intro row' slot' value' h
  obtain ⟨r, hr, hvalue⟩ := get?_eq_some_iff.mp h
  rw [get?_eq_some_iff, List.getElem?_modify, hr]
  by_cases hrow : row = row'
  · subst hrow
    have hne : SlotKind.position slot ≠ SlotKind.position slot' := by
      intro hslot
      rw [cell, hr] at hcell
      simp only [hslot] at hcell
      rw [hvalue] at hcell
      cases hcell
    refine ⟨r.set (SlotKind.position slot) (some value), by simp, ?_⟩
    exact (Vector.getElem_set_ne _ _ (Fin.val_ne_of_ne hne)).trans hvalue
  · exact ⟨r, by simp [hrow], hvalue⟩

/-- Whether a table comes from another by adding rows of unwritten slots. -/
structure Widens (t t' : SlotTable ς) : Prop where
  size : t.size ≤ t'.size
  get? : ∀ row slot, t'.get? row slot = t.get? row slot

theorem Widens.refl (t : SlotTable ς) : t.Widens t :=
  ⟨Nat.le_refl _, fun _ _ => rfl⟩

theorem Widens.trans (h : t.Widens t') (h' : t'.Widens t'') : t.Widens t'' :=
  ⟨Nat.le_trans h.size h'.size, fun row slot => (h'.get? row slot).trans (h.get? row slot)⟩

theorem size_allocate (t : SlotTable ς) : t.allocate.2.size = t.size + 1 := by
  simp [allocate, SlotTable.size]

theorem get?_of_size_le (h : t.size ≤ row) : t.get? row slot = none := by
  unfold SlotTable.get?
  rw [List.getElem?_eq_none h]

theorem widens_allocate (t : SlotTable ς) : t.Widens t.allocate.2 := by
  refine ⟨by rw [size_allocate]; omega, fun row slot => ?_⟩
  by_cases hrow : row < t.size
  · unfold SlotTable.get? allocate
    rw [List.getElem?_append_left hrow]
  · -- The new row holds nothing, and neither does a row of no table.
    rw [get?_of_size_le (Nat.le_of_not_lt hrow)]
    unfold SlotTable.get? allocate
    rw [List.getElem?_append_right (Nat.le_of_not_lt hrow)]
    cases row - t.rows.length with
    | zero => simp
    | succ n => simp

end SlotTable

/-! ## Pools and classes -/

namespace Pool

variable {κ ε ς : Type} [SlotKind ς]

/-- Whether a pool comes from another by adding entries and writing slots. -/
structure Extends (p q : Pool κ ε ς) : Prop where
  items : p.items <:+ q.items
  slots : p.slots.Keeps q.slots

theorem Extends.refl (p : Pool κ ε ς) : p.Extends p :=
  ⟨List.suffix_refl _, SlotTable.Keeps.refl _⟩

theorem Extends.trans {p q r : Pool κ ε ς} (h : p.Extends q) (h' : q.Extends r) : p.Extends r :=
  ⟨h.items.trans h'.items, h.slots.trans h'.slots⟩

theorem extends_insert (p : Pool κ ε ς) (key : κ) (make : Nat → ε) :
    p.Extends (p.insert key make).2 :=
  ⟨List.suffix_cons _ _, SlotTable.keeps_allocate _⟩

theorem Extends.slot [HasRow ε] {p q : Pool κ ε ς} (h : p.Extends q) {e : ε} {slot : ς}
    {value : UInt32} (hvalue : p.slot e slot = .ok value) : q.slot e slot = .ok value :=
  SlotTable.get_eq_ok_iff.mpr (h.slots _ _ _ (SlotTable.get_eq_ok_iff.mp hvalue))

end Pool

/-- Whether classes come from others by adding classes, writing slots and sealing. -/
structure ClassPool.Extends (p q : ClassPool) : Prop where
  items : p.items <:+ q.items
  slots : p.slots.Keeps q.slots
  methodSlots : p.methodSlots.Keeps q.methodSlots
  sealedOrder : ∀ order, p.sealedOrder = some order → q.sealedOrder = some order

theorem ClassPool.Extends.refl (p : ClassPool) : p.Extends p :=
  ⟨List.suffix_refl _, SlotTable.Keeps.refl _, SlotTable.Keeps.refl _, fun _ h => h⟩

theorem ClassPool.Extends.trans {p q r : ClassPool} (h : p.Extends q) (h' : q.Extends r) :
    p.Extends r where
  items := h.items.trans h'.items
  slots := h.slots.trans h'.slots
  methodSlots := h.methodSlots.trans h'.methodSlots
  sealedOrder order horder := h'.sealedOrder order (h.sealedOrder order horder)

theorem ClassPool.extends_sorted (p : ClassPool) : p.Extends p.sorted.2 := by
  unfold ClassPool.sorted
  split
  · exact Extends.refl p
  · next hopen =>
    exact { Extends.refl p with sealedOrder := fun order h => by rw [hopen] at h; cases h }

/-! ## Sessions -/

namespace Session

structure Extends (s t : Session) : Prop where
  config : t.config = s.config
  strings : s.strings.Extends t.strings
  types : s.types.Extends t.types
  typeLists : s.typeLists.Extends t.typeLists
  protos : s.protos.Extends t.protos
  fields : s.fields.Extends t.fields
  methods : s.methods.Extends t.methods
  annotations : s.annotations.Extends t.annotations
  annotationSets : s.annotationSets.Extends t.annotationSets
  classes : s.classes.Extends t.classes
  diagnostics : s.diagnostics.entries <+: t.diagnostics.entries

theorem Extends.refl (s : Session) : s.Extends s where
  config := rfl
  strings := Pool.Extends.refl _
  types := Pool.Extends.refl _
  typeLists := Pool.Extends.refl _
  protos := Pool.Extends.refl _
  fields := Pool.Extends.refl _
  methods := Pool.Extends.refl _
  annotations := Pool.Extends.refl _
  annotationSets := Pool.Extends.refl _
  classes := ClassPool.Extends.refl _
  diagnostics := List.prefix_refl _

theorem Extends.trans {s t u : Session} (h : s.Extends t) (h' : t.Extends u) : s.Extends u where
  config := h'.config.trans h.config
  strings := h.strings.trans h'.strings
  types := h.types.trans h'.types
  typeLists := h.typeLists.trans h'.typeLists
  protos := h.protos.trans h'.protos
  fields := h.fields.trans h'.fields
  methods := h.methods.trans h'.methods
  annotations := h.annotations.trans h'.annotations
  annotationSets := h.annotationSets.trans h'.annotationSets
  classes := h.classes.trans h'.classes
  diagnostics := h.diagnostics.trans h'.diagnostics

/-- Whether a session comes from another without a slot being written. -/
structure Widens (s t : Session) : Prop where
  strings : s.strings.slots.Widens t.strings.slots
  types : s.types.slots.Widens t.types.slots
  typeLists : s.typeLists.slots.Widens t.typeLists.slots
  protos : s.protos.slots.Widens t.protos.slots
  fields : s.fields.slots.Widens t.fields.slots
  methods : s.methods.slots.Widens t.methods.slots
  annotations : s.annotations.slots.Widens t.annotations.slots
  annotationSets : s.annotationSets.slots.Widens t.annotationSets.slots
  classSlots : s.classes.slots.Widens t.classes.slots
  methodSlots : s.classes.methodSlots.Widens t.classes.methodSlots

theorem Widens.refl (s : Session) : s.Widens s where
  strings := SlotTable.Widens.refl _
  types := SlotTable.Widens.refl _
  typeLists := SlotTable.Widens.refl _
  protos := SlotTable.Widens.refl _
  fields := SlotTable.Widens.refl _
  methods := SlotTable.Widens.refl _
  annotations := SlotTable.Widens.refl _
  annotationSets := SlotTable.Widens.refl _
  classSlots := SlotTable.Widens.refl _
  methodSlots := SlotTable.Widens.refl _

theorem Widens.trans {s t u : Session} (h : s.Widens t) (h' : t.Widens u) : s.Widens u where
  strings := h.strings.trans h'.strings
  types := h.types.trans h'.types
  typeLists := h.typeLists.trans h'.typeLists
  protos := h.protos.trans h'.protos
  fields := h.fields.trans h'.fields
  methods := h.methods.trans h'.methods
  annotations := h.annotations.trans h'.annotations
  annotationSets := h.annotationSets.trans h'.annotationSets
  classSlots := h.classSlots.trans h'.classSlots
  methodSlots := h.methodSlots.trans h'.methodSlots

/-- A session without the numbers in its slots. -/
def unslotted (s : Session) : Session where
  config := s.config
  strings := ⟨s.strings.items, .empty⟩
  types := ⟨s.types.items, .empty⟩
  typeLists := ⟨s.typeLists.items, .empty⟩
  protos := ⟨s.protos.items, .empty⟩
  fields := ⟨s.fields.items, .empty⟩
  methods := ⟨s.methods.items, .empty⟩
  annotations := ⟨s.annotations.items, .empty⟩
  annotationSets := ⟨s.annotationSets.items, .empty⟩
  classes := ⟨s.classes.items, .empty, .empty, s.classes.sealedOrder⟩
  diagnostics := s.diagnostics

end Session

namespace Shelf

open Session

/-- Replacing one pool changes a session no further than the pool, whatever its configuration. -/
class Framed {κ ε ς : Type} [SlotKind ς] (h : Shelf κ ε ς) : Prop where
  extends_setPool : ∀ {s : Session} {p : Pool κ ε ς}, (h.pool s).Extends p →
    s.Extends (h.setPool s p)
  extends_pool : ∀ {s t : Session}, s.Extends t → (h.pool s).Extends (h.pool t)
  widens_setPool : ∀ {s : Session} {p : Pool κ ε ς}, (h.pool s).slots.Widens p.slots →
    s.Widens (h.setPool s p)
  widens_pool : ∀ {s t : Session}, s.Widens t → (h.pool s).slots.Widens (h.pool t).slots
  unslotted_setPool : ∀ (s : Session) (slots : SlotTable ς),
    (h.setPool s ⟨(h.pool s).items, slots⟩).unslotted = s.unslotted := by intros; rfl
  pool_config : ∀ (s : Session) (config : Config), h.pool { s with config } = h.pool s := by
    intros; rfl
  setPool_config : ∀ (s : Session) (p : Pool κ ε ς) (config : Config),
    h.setPool { s with config } p = { h.setPool s p with config } := by intros; rfl

instance : strings.Framed where
  extends_setPool hp := { Extends.refl _ with strings := hp }
  extends_pool h := h.strings
  widens_setPool hp := { Widens.refl _ with strings := hp }
  widens_pool h := h.strings

instance : types.Framed where
  extends_setPool hp := { Extends.refl _ with types := hp }
  extends_pool h := h.types
  widens_setPool hp := { Widens.refl _ with types := hp }
  widens_pool h := h.types

instance : typeLists.Framed where
  extends_setPool hp := { Extends.refl _ with typeLists := hp }
  extends_pool h := h.typeLists
  widens_setPool hp := { Widens.refl _ with typeLists := hp }
  widens_pool h := h.typeLists

instance : protos.Framed where
  extends_setPool hp := { Extends.refl _ with protos := hp }
  extends_pool h := h.protos
  widens_setPool hp := { Widens.refl _ with protos := hp }
  widens_pool h := h.protos

instance : fields.Framed where
  extends_setPool hp := { Extends.refl _ with fields := hp }
  extends_pool h := h.fields
  widens_setPool hp := { Widens.refl _ with fields := hp }
  widens_pool h := h.fields

instance : methods.Framed where
  extends_setPool hp := { Extends.refl _ with methods := hp }
  extends_pool h := h.methods
  widens_setPool hp := { Widens.refl _ with methods := hp }
  widens_pool h := h.methods

instance : annotations.Framed where
  extends_setPool hp := { Extends.refl _ with annotations := hp }
  extends_pool h := h.annotations
  widens_setPool hp := { Widens.refl _ with annotations := hp }
  widens_pool h := h.annotations

instance : annotationSets.Framed where
  extends_setPool hp := { Extends.refl _ with annotationSets := hp }
  extends_pool h := h.annotationSets
  widens_setPool hp := { Widens.refl _ with annotationSets := hp }
  widens_pool h := h.annotationSets

variable {κ ε ς : Type} [SlotKind ς] (h : Shelf κ ε ς) [h.Framed] {s t : Session}

theorem extends_inserted (k : κ) (make : Nat → ε) : s.Extends (h.inserted s k make) :=
  Framed.extends_setPool (Pool.extends_insert _ k make)

theorem widens_inserted (k : κ) (make : Nat → ε) : s.Widens (h.inserted s k make) :=
  Framed.widens_setPool (SlotTable.widens_allocate _)

variable [HasRow ε] [h.Numbering] {e : ε} {n : UInt32}

theorem extends_withNumber (hwrite : Numbered.withNumber s (h.item e) n = .ok t) :
    s.Extends t ∧ t.unslotted = s.unslotted := by
  rw [Numbering.withNumber_eq] at hwrite
  split at hwrite
  · cases hwrite
  · obtain ⟨p, hset, rfl⟩ := bind_pure_eq_ok_iff.mp hwrite
    obtain ⟨slots, hslots, rfl⟩ := Pool.setSlot_eq_ok_iff.mp hset
    have hp : (h.pool s).Extends ⟨(h.pool s).items, slots⟩ :=
      ⟨List.suffix_refl _, SlotTable.keeps_set hslots⟩
    exact ⟨Framed.extends_setPool hp, Framed.unslotted_setPool s slots⟩

theorem number_of_extends (hst : s.Extends t) (hn : Numbered.number s (h.item e) = .ok n) :
    Numbered.number t (h.item e) = .ok n := by
  rw [Numbering.number_eq] at hn ⊢
  split at hn
  · next hempty => rwa [if_pos hempty]
  · next hwritten =>
    rw [if_neg hwritten]
    exact (Framed.extends_pool (h := h) hst).slot hn

end Shelf

/-- What holds of the entries of every pool, told by the laws of the pools, holds of every entry. -/
theorem Item.ofShelf {P : Item → Prop}
    (hP : ∀ {κ ε ς : Type} [SlotKind ς] [HasRow ε] [Pooled ε κ] [DecidableEq κ] (h : Shelf κ ε ς)
      [h.Lawful] [h.Framed] [h.Numbering] (e : ε), P (h.item e)) : ∀ i, P i
  | string e => hP Shelf.strings e
  | type e => hP Shelf.types e
  | typeList e => hP Shelf.typeLists e
  | proto e => hP Shelf.protos e
  | field e => hP Shelf.fields e
  | method e => hP Shelf.methods e
  | Item.annotation e => hP Shelf.annotations e
  | annotationSet e => hP Shelf.annotationSets e

namespace Session

variable {s t : Session} {i : Item} {n : UInt32}

/-- An entry that has a number keeps it. -/
theorem Extends.number (hst : s.Extends t) (hn : Numbered.number s i = .ok n) :
    Numbered.number t i = .ok n :=
  Item.ofShelf (P := fun i => Numbered.number s i = .ok n → Numbered.number t i = .ok n)
    (fun h _ _ _ _ hn => h.number_of_extends hst hn) i hn

theorem extends_withNumber (hwrite : Numbered.withNumber s i n = .ok t) :
    s.Extends t ∧ t.unslotted = s.unslotted :=
  Item.ofShelf (P := fun i => Numbered.withNumber s i n = .ok t →
      s.Extends t ∧ t.unslotted = s.unslotted)
    (fun h _ _ _ _ hwrite => h.extends_withNumber hwrite) i hwrite

/-- Replacing a session by one that extends it, or failing and leaving it as it is. -/
theorem extends_update {f : Session → Except Error Session}
    (h : ∀ t, f s = .ok t → s.Extends t ∧ t.unslotted = s.unslotted) :
    s.Extends (s.run (update f)).2 ∧ (s.run (update f)).2.unslotted = s.unslotted := by
  cases hf : f s with
  | ok t =>
      rw [run_update_of_ok hf]
      exact h t hf
  | error e =>
      rw [run_update_of_error hf]
      exact ⟨Extends.refl s, rfl⟩

theorem extends_setNumber (i : Item) (n : UInt32) : s.Extends (s.run (setNumber i n)).2 ∧
    (s.run (setNumber i n)).2.unslotted = s.unslotted :=
  extends_update fun _ ht => extends_withNumber ht

theorem extends_setClassSlot (c : ClassEntry) (slot : ClassSlot) (value : UInt32) :
    s.Extends (s.run (setClassSlot c slot value)).2 ∧
      (s.run (setClassSlot c slot value)).2.unslotted = s.unslotted := by
  refine extends_update fun t ht => ?_
  obtain ⟨slots, hset, rfl⟩ := bind_pure_eq_ok_iff.mp ht
  have hclasses : s.classes.Extends { s.classes with slots } :=
    { ClassPool.Extends.refl s.classes with slots := SlotTable.keeps_set hset }
  exact ⟨{ Extends.refl s with classes := hclasses }, rfl⟩

theorem extends_setMethodSlot (m : PooledMethod) (slot : MethodSlot) (value : UInt32) :
    s.Extends (s.run (setMethodSlot m slot value)).2 ∧
      (s.run (setMethodSlot m slot value)).2.unslotted = s.unslotted := by
  refine extends_update fun t ht => ?_
  obtain ⟨slots, hset, rfl⟩ := bind_pure_eq_ok_iff.mp ht
  have hclasses : s.classes.Extends { s.classes with methodSlots := slots } :=
    { ClassPool.Extends.refl s.classes with methodSlots := SlotTable.keeps_set hset }
  exact ⟨{ Extends.refl s with classes := hclasses }, rfl⟩

/-- An operation of a writer extends the session and, apart from slots, leaves it as it is. -/
theorem extends_of_writesSlot {op : Operation} (hop : op.writesSlot = true) :
    s.Extends (s.run op.act).2 ∧ (s.run op.act).2.unslotted = s.unslotted := by
  cases op with
  | setNumber i n =>
      rw [Operation.act, run_map_snd]
      exact extends_setNumber i n
  | setClassSlot c slot value =>
      rw [Operation.act, run_map_snd]
      exact extends_setClassSlot c slot value
  | setMethodSlot m slot value =>
      rw [Operation.act, run_map_snd]
      exact extends_setMethodSlot m slot value
  | _ => cases hop

theorem extends_sortedClasses : s.Extends (s.run sortedClasses).2 :=
  { Extends.refl s with classes := ClassPool.extends_sorted s.classes }

end Session

end DexPools
