import DexPools.Proofs.Shelf

/-!
# Giving entries their numbers

Writing the number of an entry changes one cell of one slot table. It adds no entry and drops
none, and since every pooled entry owns a row of its own, the number of every other entry reads
as before.
-/

namespace DexPools

/-! ## Slot tables -/

namespace SlotTable

variable {ς : Type} [SlotKind ς] {t : SlotTable ς} {row : Nat} {slot : ς} {value : UInt32}

/-- A cell that holds nothing takes a value, and no other row changes. -/
theorem set_of_cell (h : t.cell row slot = .ok none) :
    ∃ t', t.set row slot value = .ok t' ∧ t'.cell row slot = .ok (some value) ∧
      ∀ row' slot', row' ≠ row → t'.cell row' slot' = t.cell row' slot' := by
  refine ⟨_, set_eq_ok_iff.mpr ⟨h, rfl⟩, ?_, ?_⟩
  · unfold cell at h ⊢
    cases hrow : t.rows[row]? with
    | none =>
        rw [hrow] at h
        cases h
    | some r => simp [hrow]
  · intro row' slot' hne
    unfold cell
    rw [List.getElem?_modify]
    simp only [if_neg (Ne.symm hne), id_map']

def Unwritten (t : SlotTable ς) : Prop :=
  ∀ row slot, t.get? row slot = none

theorem unwritten_of_all (h : t.rows.all fun r => r.toList.all Option.isNone) :
    t.Unwritten := by
  intro row slot
  unfold get?
  cases hrow : t.rows[row]? with
  | none => rfl
  | some r =>
      have hr := List.all_eq_true.mp h r (List.mem_of_getElem? hrow)
      exact Option.isNone_iff_eq_none.mp (List.all_eq_true.mp hr _
        (Vector.mem_toList_iff.mpr (r.getElem_mem (SlotKind.position slot).isLt)))

theorem cell_of_unwritten (h : t.Unwritten) (hrow : row < t.size) : t.cell row slot = .ok none := by
  have hslot := h row slot
  unfold get? at hslot
  unfold cell
  rw [List.getElem?_eq_getElem hrow] at hslot ⊢
  exact congrArg Except.ok hslot

/-- An unwritten slot is the only one of an existing row that can not be read. -/
theorem cell_of_get (h : t.get row slot = .error .slotUnassigned) : t.cell row slot = .ok none := by
  unfold SlotTable.get at h
  cases hcell : t.cell row slot with
  | error e =>
      rw [hcell] at h
      unfold cell at hcell
      split at hcell
      · cases hcell
      · cases hcell
        cases h
  | ok v =>
      rw [hcell] at h
      cases v with
      | some value => cases h
      | none => rfl

end SlotTable

/-! ## Pools -/

namespace Pool

variable {κ ε ς : Type} [SlotKind ς] [HasRow ε] {p q : Pool κ ε ς} {e : ε} {slot : ς}
  {value : UInt32}

theorem setSlot_eq_ok_iff : p.setSlot e slot value = .ok q ↔
    ∃ t, p.slots.set (HasRow.row e) slot value = .ok t ∧ ⟨p.items, t⟩ = q :=
  bind_pure_eq_ok_iff

theorem Canonical.setSlot (hp : p.Canonical) (h : p.setSlot e slot value = .ok q) :
    q.Canonical := by
  obtain ⟨t, ht, rfl⟩ := setSlot_eq_ok_iff.mp h
  exact ⟨hp.keys, hp.rows, (SlotTable.size_of_set ht).trans hp.slots⟩

/-- An entry whose slot is unwritten takes a number, and no entry of another row changes. -/
theorem setSlot_of_slot (h : p.slot e slot = .error .slotUnassigned) (value : UInt32) :
    ∃ q, p.setSlot e slot value = .ok q ∧ q.slot e slot = .ok value ∧
      ∀ e' slot', HasRow.row e' ≠ HasRow.row e → q.slot e' slot' = p.slot e' slot' := by
  obtain ⟨t, hset, hself, hother⟩ := SlotTable.set_of_cell (SlotTable.cell_of_get h)
  refine ⟨⟨p.items, t⟩, setSlot_eq_ok_iff.mpr ⟨t, hset, rfl⟩, ?_, fun e' slot' hne => ?_⟩
  · show t.get (HasRow.row e) slot = _
    rw [SlotTable.get, hself]
    rfl
  · show t.get (HasRow.row e') slot' = p.slots.get (HasRow.row e') slot'
    rw [SlotTable.get, SlotTable.get, hother _ _ hne]

end Pool

/-! ## All pools at once -/

instance : Numbered Item where
  number s
    | .string e => Numbered.number s e
    | .type e => Numbered.number s e
    | .typeList e => Numbered.number s e
    | .proto e => Numbered.number s e
    | .field e => Numbered.number s e
    | .method e => Numbered.number s e
    | Item.annotation e => Numbered.number s e
    | .annotationSet e => Numbered.number s e
  withNumber s
    | .string e, n => Numbered.withNumber s e n
    | .type e, n => Numbered.withNumber s e n
    | .typeList e, n => Numbered.withNumber s e n
    | .proto e, n => Numbered.withNumber s e n
    | .field e, n => Numbered.withNumber s e n
    | .method e, n => Numbered.withNumber s e n
    | Item.annotation e, n => Numbered.withNumber s e n
    | .annotationSet e, n => Numbered.withNumber s e n

/-- Entries that stand for nothing in a file, and have no number of their own. -/
def Item.isEmpty : Item → Bool
  | .typeList e => e.isEmpty
  | .annotationSet e => e.isEmpty
  | _ => false

namespace Shelf

variable {κ ε ς : Type} [SlotKind ς] [HasRow ε] [Pooled ε κ] [DecidableEq κ]

/-- Where the entries of a pool keep their numbers. The entry that stands for nothing refuses a
number and reads as zero. -/
class Numbering (h : Shelf κ ε ς) where
  slot : ς
  /-- What writing the number of an empty entry fails with, where there is one. -/
  refusal : Error := .slotUnassigned
  number_eq : ∀ (s : Session) (e : ε), Numbered.number s (h.item e) =
    if (h.item e).isEmpty then .ok 0 else (h.pool s).slot e slot := by intros; rfl
  withNumber_eq : ∀ (s : Session) (e : ε) (n : UInt32), Numbered.withNumber s (h.item e) n =
    if (h.item e).isEmpty then .error refusal
    else (h.pool s).setSlot e slot n >>= fun p => pure (h.setPool s p) := by intros; rfl
  number_setPool_of_ne : ∀ (s : Session) (p : Pool κ ε ς) {i : Item}, (∀ e, i ≠ h.item e) →
    Numbered.number (h.setPool s p) i = Numbered.number s i := by
    intro s p i hi
    cases i <;> first | rfl | exact absurd rfl (hi _)

instance : strings.Numbering where
  slot := .index

instance : types.Numbering where
  slot := .index

instance : protos.Numbering where
  slot := .index

instance : fields.Numbering where
  slot := .index

instance : methods.Numbering where
  slot := .index

instance : typeLists.Numbering where
  slot := .offset
  refusal := .badArgument .emptyTypeList

instance : annotations.Numbering where
  slot := .offset

instance : annotationSets.Numbering where
  slot := .offset
  refusal := .badArgument .emptyAnnotationSet

end Shelf

namespace Session

/-- A session that differs from another in its slots at most. -/
structure Renumbered (s t : Session) : Prop where
  canonical : s.Canonical → t.Canonical
  find? : ∀ k, t.find? k = s.find? k
  config : t.config = s.config
  classes : t.classes = s.classes
  diagnostics : t.diagnostics = s.diagnostics

variable {s t u : Session}

theorem Renumbered.refl (s : Session) : s.Renumbered s :=
  ⟨id, fun _ => rfl, rfl, rfl, rfl⟩

theorem Renumbered.trans (h : s.Renumbered t) (h' : t.Renumbered u) : s.Renumbered u where
  canonical hs := h'.canonical (h.canonical hs)
  find? k := (h'.find? k).trans (h.find? k)
  config := h'.config.trans h.config
  classes := h'.classes.trans h.classes
  diagnostics := h'.diagnostics.trans h.diagnostics

theorem Renumbered.holds_iff (h : s.Renumbered t) {i : Item} : t.Holds i ↔ s.Holds i := by
  rw [Holds, Holds, h.find?]

theorem Renumbered.grows (h : s.Renumbered t) : s.Grows t :=
  fun k _ hi => (h.find? k).trans hi

theorem Renumbered.sound (h : s.Renumbered t) (hs : s.Sound) : t.Sound := by
  refine hs.of_find?_eq (h.canonical hs.canonical) h.find? (congrArg ClassPool.items h.classes) ?_
  rw [h.classes]
  exact hs.sealedOrder

end Session

namespace Shelf

variable {κ ε ς : Type} [SlotKind ς] [HasRow ε] [Pooled ε κ] [DecidableEq κ]
  (h : Shelf κ ε ς) [h.Lawful] {s t : Session} {e : ε} {n : UInt32}

theorem renumbered_setPool {p : Pool κ ε ς} (hp : p.items = (h.pool s).items)
    (hcanonical : s.Canonical → p.Canonical) : s.Renumbered (h.setPool s p) where
  canonical hs := Lawful.canonical_setPool hs (hcanonical hs)
  find? k := by
    by_cases hk : ∃ l, k = h.key l
    · obtain ⟨l, rfl⟩ := hk
      rw [find?_setPool_key, Lawful.find?_key, Pool.find?, Pool.find?, hp]
    · exact Lawful.find?_setPool_of_ne s p fun l hl => hk ⟨l, hl⟩
  config := Lawful.config_setPool s p
  classes := Lawful.classes_setPool s p
  diagnostics := Lawful.diagnostics_setPool s p

variable [h.Numbering]

theorem renumbered_withNumber (hwrite : Numbered.withNumber s (h.item e) n = .ok t) :
    s.Renumbered t := by
  rw [Numbering.withNumber_eq] at hwrite
  split at hwrite
  · cases hwrite
  · obtain ⟨p, hset, rfl⟩ := bind_pure_eq_ok_iff.mp hwrite
    obtain ⟨slots, -, rfl⟩ := Pool.setSlot_eq_ok_iff.mp hset
    exact h.renumbered_setPool rfl fun hs => (Lawful.canonical_pool hs).setSlot hset

/-- A pooled entry without a number takes one, and all other pooled entries keep theirs. -/
theorem withNumber_of_unassigned (hs : s.Sound) (he : s.Holds (h.item e))
    (hnone : Numbered.number s (h.item e) = .error .slotUnassigned) :
    ∃ t, Numbered.withNumber s (h.item e) n = .ok t ∧
      Numbered.number t (h.item e) = .ok n ∧
      ∀ i, s.Holds i → i ≠ h.item e → Numbered.number t i = Numbered.number s i := by
  rw [Numbering.number_eq] at hnone
  split at hnone
  · cases hnone
  · next hwritten =>
    obtain ⟨p, hset, hself, hother⟩ := Pool.setSlot_of_slot hnone n
    refine ⟨h.setPool s p, ?_, ?_, fun i hi hne => ?_⟩
    · rw [Numbering.withNumber_eq, if_neg hwritten, hset]
      rfl
    · rw [Numbering.number_eq, if_neg hwritten, Lawful.pool_setPool, hself]
    · by_cases hitem : ∃ e', i = h.item e'
      · obtain ⟨e', rfl⟩ := hitem
        rw [Numbering.number_eq, Numbering.number_eq, Lawful.pool_setPool]
        have hrow : HasRow.row e' ≠ HasRow.row e := fun hrow =>
          hne (congrArg h.item ((h.eq_iff hi he).mpr ((h.row_eq_iff hs hi he).mp hrow)))
        rw [hother e' _ hrow]
      · exact Numbering.number_setPool_of_ne s p fun e' he' => hitem ⟨e', he'⟩

theorem number_of_unwritten (hs : s.Canonical) (he : s.Holds (h.item e))
    (hempty : (h.item e).isEmpty = false) (hunwritten : (h.pool s).slots.Unwritten) :
    Numbered.number s (h.item e) = .error .slotUnassigned := by
  rw [Session.Holds, Lawful.key_item, h.find?_eq_some_item_iff] at he
  have hrow := (Lawful.canonical_pool hs).row_lt he
  rw [Numbering.number_eq, hempty, Pool.slot, SlotTable.get,
    SlotTable.cell_of_unwritten hunwritten hrow]
  rfl

end Shelf

namespace Session

variable {s t : Session} {i : Item} {n : UInt32}

theorem renumbered_withNumber (h : Numbered.withNumber s i n = .ok t) : s.Renumbered t := by
  cases i with
  | string e => exact Shelf.strings.renumbered_withNumber h
  | type e => exact Shelf.types.renumbered_withNumber h
  | typeList e => exact Shelf.typeLists.renumbered_withNumber h
  | proto e => exact Shelf.protos.renumbered_withNumber h
  | field e => exact Shelf.fields.renumbered_withNumber h
  | method e => exact Shelf.methods.renumbered_withNumber h
  | annotation e => exact Shelf.annotations.renumbered_withNumber h
  | annotationSet e => exact Shelf.annotationSets.renumbered_withNumber h

/-- A pooled entry without a number takes one, and all other pooled entries keep theirs. -/
theorem withNumber_of_unassigned (hs : s.Sound) (hi : s.Holds i)
    (hnone : Numbered.number s i = .error .slotUnassigned) (n : UInt32) :
    ∃ t, Numbered.withNumber s i n = .ok t ∧ Numbered.number t i = .ok n ∧
      ∀ j, s.Holds j → j ≠ i → Numbered.number t j = Numbered.number s j := by
  cases i with
  | string e => exact Shelf.strings.withNumber_of_unassigned hs hi hnone
  | type e => exact Shelf.types.withNumber_of_unassigned hs hi hnone
  | typeList e => exact Shelf.typeLists.withNumber_of_unassigned hs hi hnone
  | proto e => exact Shelf.protos.withNumber_of_unassigned hs hi hnone
  | field e => exact Shelf.fields.withNumber_of_unassigned hs hi hnone
  | method e => exact Shelf.methods.withNumber_of_unassigned hs hi hnone
  | annotation e => exact Shelf.annotations.withNumber_of_unassigned hs hi hnone
  | annotationSet e => exact Shelf.annotationSets.withNumber_of_unassigned hs hi hnone

structure Unnumbered (s : Session) : Prop where
  strings : s.strings.slots.Unwritten
  types : s.types.slots.Unwritten
  typeLists : s.typeLists.slots.Unwritten
  protos : s.protos.slots.Unwritten
  fields : s.fields.slots.Unwritten
  methods : s.methods.slots.Unwritten
  annotations : s.annotations.slots.Unwritten
  annotationSets : s.annotationSets.slots.Unwritten

theorem Unnumbered.number_eq (h : s.Unnumbered) (hs : s.Sound) (hi : s.Holds i)
    (hempty : i.isEmpty = false) : Numbered.number s i = .error .slotUnassigned := by
  cases i with
  | string e => exact Shelf.strings.number_of_unwritten hs.canonical hi hempty h.strings
  | type e => exact Shelf.types.number_of_unwritten hs.canonical hi hempty h.types
  | typeList e => exact Shelf.typeLists.number_of_unwritten hs.canonical hi hempty h.typeLists
  | proto e => exact Shelf.protos.number_of_unwritten hs.canonical hi hempty h.protos
  | field e => exact Shelf.fields.number_of_unwritten hs.canonical hi hempty h.fields
  | method e => exact Shelf.methods.number_of_unwritten hs.canonical hi hempty h.methods
  | annotation e =>
      exact Shelf.annotations.number_of_unwritten hs.canonical hi hempty h.annotations
  | annotationSet e =>
      exact Shelf.annotationSets.number_of_unwritten hs.canonical hi hempty h.annotationSets

theorem number_of_isEmpty (hempty : i.isEmpty = true) : Numbered.number s i = .ok 0 := by
  cases i with
  | typeList e => exact if_pos hempty
  | annotationSet e => exact if_pos hempty
  | _ => cases hempty

end Session

end DexPools
