import DexPools.Proofs.Rows
import DexPools.Proofs.WriterWalk

/-!
# Cells

A cell is one slot of one thing: the number of an entry, a slot of a class, a slot of a method.
Things are found by their rows, so two things with one row would share their cells. In a session
whose rows tell its things apart, a write changes the cell that it names and no other; building
changes no cell, and a thing that was not there before has cells that hold nothing.

All of this comes down to the table that a cell lies in. Reading a slot of an existing row shows
what the slot holds, a slot that holds something refuses a write, and a slot that holds nothing
takes one.
-/

namespace DexPools

/-! ## Slot tables -/

/-- Kinds of slots each of which has a place of its own. -/
class LawfulSlotKind (ς : Type) [SlotKind ς] : Prop where
  position_inj : ∀ {a b : ς}, SlotKind.position a = SlotKind.position b → a = b

instance : LawfulSlotKind IndexSlot where
  position_inj {a b} _ := by cases a; cases b; rfl

instance : LawfulSlotKind OffsetSlot where
  position_inj {a b} _ := by cases a; cases b; rfl

instance : LawfulSlotKind ClassSlot where
  position_inj {a b} h := by cases a <;> cases b <;> first | rfl | exact absurd h (by decide)

instance : LawfulSlotKind MethodSlot where
  position_inj {a b} h := by cases a <;> cases b <;> first | rfl | exact absurd h (by decide)

namespace SlotTable

/-- What reading a slot gives that holds a number or nothing. -/
def shown : Option UInt32 → Except Error UInt32
  | some value => .ok value
  | none => .error .slotUnassigned

variable {ς : Type} [SlotKind ς] {t : SlotTable ς} {row : Nat} {slot : ς} {value : UInt32}

theorem toOption_get : (t.get row slot).toOption = t.get? row slot := by
  refine Option.ext fun value => ?_
  rw [← get_eq_ok_iff]
  cases t.get row slot <;> simp [Except.toOption]

/-- The slots of an existing row show what they hold. -/
theorem get_eq_shown (hrow : row < t.size) : t.get row slot = shown (t.get? row slot) := by
  unfold SlotTable.get cell get?
  rw [List.getElem?_eq_getElem hrow]
  show (match t.rows[row][SlotKind.position slot] with
    | some value => Except.ok value
    | none => Except.error Error.slotUnassigned) = shown t.rows[row][SlotKind.position slot]
  cases t.rows[row][SlotKind.position slot] <;> rfl

theorem set_of_get?_eq_some {held : UInt32} (h : t.get? row slot = some held) :
    t.set row slot value = .error .slotAssigned := by
  obtain ⟨r, hr, hheld⟩ := get?_eq_some_iff.mp h
  have hcell : t.cell row slot = .ok (some held) := by
    unfold cell
    rw [hr]
    exact congrArg Except.ok hheld
  unfold SlotTable.set
  rw [hcell]
  rfl

/-- A slot that holds nothing takes a value, and no other slot changes. -/
theorem exists_set_of_get?_eq_none [LawfulSlotKind ς] (hrow : row < t.size)
    (h : t.get? row slot = none) (value : UInt32) :
    ∃ t', t.set row slot value = .ok t' ∧ t'.get? row slot = some value ∧
      ∀ row' slot', row' ≠ row ∨ slot' ≠ slot → t'.get? row' slot' = t.get? row' slot' := by
  have hcell : t.cell row slot = .ok none := by
    unfold cell
    unfold get? at h
    rw [List.getElem?_eq_getElem hrow] at h ⊢
    exact congrArg Except.ok h
  refine ⟨_, set_eq_ok_iff.mpr ⟨hcell, rfl⟩, ?_, fun row' slot' hne => ?_⟩
  · unfold get?
    simp [List.getElem?_eq_getElem hrow]
  · unfold get?
    rw [List.getElem?_modify]
    by_cases hrow' : row = row'
    · subst hrow'
      have hpos : SlotKind.position slot ≠ SlotKind.position slot' := fun heq =>
        hne.elim (fun h => h rfl) fun h => h (LawfulSlotKind.position_inj heq.symm)
      rw [List.getElem?_eq_getElem hrow]
      simp only [if_true, Option.map_eq_map, Option.map_some]
      exact Vector.getElem_set_ne _ _ (Fin.val_ne_of_ne hpos)
    · simp only [if_neg hrow', id_map']

end SlotTable

/-! ## Numbers of entries -/

namespace Shelf

open Session

variable {κ ε ς : Type} [SlotKind ς] [HasRow ε] [Pooled ε κ] [DecidableEq κ]
  (h : Shelf κ ε ς) [h.Lawful] {s t : Session} {e : ε} {n : UInt32}

/-- Every row of a pool has an entry. -/
theorem exists_of_row_lt (hs : s.Sound) {row : Nat} (hrow : row < (h.pool s).slots.size) :
    ∃ e, s.Holds (h.item e) ∧ HasRow.row e = row := by
  have hcanonical := Lawful.canonical_pool (h := h) hs.canonical
  have hmem : row ∈ (h.pool s).items.map fun item => HasRow.row item.2 := by
    rw [hcanonical.rows, List.mem_reverse, List.mem_range, ← hcanonical.slots]
    exact hrow
  obtain ⟨⟨k, e⟩, hitem, rfl⟩ := List.mem_map.mp hmem
  exact ⟨e, (h.mem_entries_iff hs).mp (Pool.mem_entries_iff.mpr ⟨k, hitem⟩), rfl⟩

variable [h.Numbering]

omit [Pooled ε κ] [DecidableEq κ] [h.Lawful] in
theorem number_toOption (hempty : (h.item e).isEmpty = false) :
    (Numbered.number s (h.item e)).toOption =
      (h.pool s).slots.get? (HasRow.row e) (Numbering.slot h) := by
  rw [Numbering.number_eq, hempty]
  exact SlotTable.toOption_get

theorem number_eq_shown (hs : s.Sound) (he : s.Holds (h.item e))
    (hempty : (h.item e).isEmpty = false) : Numbered.number s (h.item e) =
      SlotTable.shown (Numbered.number s (h.item e)).toOption := by
  rw [h.number_toOption hempty, Numbering.number_eq, hempty]
  rw [Holds, Lawful.key_item, h.find?_eq_some_item_iff] at he
  exact SlotTable.get_eq_shown ((Lawful.canonical_pool hs.canonical).row_lt he)

/-- An entry that was not there before has a row that was not there before. -/
theorem number_of_new (hs : s.Sound) (ht : t.Sound) (hgrows : s.Grows t) (he : t.Holds (h.item e))
    (hnew : ¬ s.Holds (h.item e)) (hempty : (h.item e).isEmpty = false) :
    (Numbered.number s (h.item e)).toOption = none := by
  rw [h.number_toOption hempty]
  refine SlotTable.get?_of_size_le (Nat.le_of_not_lt fun hrow => hnew ?_)
  obtain ⟨e', he', hrow'⟩ := h.exists_of_row_lt hs hrow
  have htext := (h.row_eq_iff ht (hgrows.holds he') he).mp hrow'
  rw [← (h.eq_iff (hgrows.holds he') he).mpr htext]
  exact he'

omit [Pooled ε κ] [DecidableEq κ] [h.Lawful] in
theorem number_widens [h.Framed] (hst : s.Widens t) :
    (Numbered.number t (h.item e)).toOption = (Numbered.number s (h.item e)).toOption := by
  cases hempty : (h.item e).isEmpty with
  | true => rw [Numbering.number_eq, Numbering.number_eq, if_pos hempty, if_pos hempty]
  | false =>
      rw [h.number_toOption hempty, h.number_toOption hempty]
      exact (Framed.widens_pool hst).get? _ _

omit [Pooled ε κ] [DecidableEq κ] [h.Lawful] in
theorem withNumber_of_assigned (hempty : (h.item e).isEmpty = false) {held : UInt32}
    (hheld : (Numbered.number s (h.item e)).toOption = some held) :
    Numbered.withNumber s (h.item e) n = .error .slotAssigned := by
  rw [h.number_toOption hempty] at hheld
  rw [Numbering.withNumber_eq, hempty, Pool.setSlot, SlotTable.set_of_get?_eq_some hheld]
  rfl

end Shelf

namespace Session

variable {s t : Session} {i : Item} {n : UInt32}

/-- The number of a pooled entry reads as what its slot holds. -/
theorem number_eq_shown (hs : s.Sound) (hi : s.Holds i) (hempty : i.isEmpty = false) :
    Numbered.number s i = SlotTable.shown (Numbered.number s i).toOption :=
  Item.ofShelf (P := fun i => s.Holds i → i.isEmpty = false →
      Numbered.number s i = SlotTable.shown (Numbered.number s i).toOption)
    (fun h _ _ _ _ hi hempty => h.number_eq_shown hs hi hempty) i hi hempty

/-- Building writes no numbers. -/
theorem number_widens (hst : s.Widens t) (i : Item) :
    (Numbered.number t i).toOption = (Numbered.number s i).toOption :=
  Item.ofShelf (P := fun i => (Numbered.number t i).toOption = (Numbered.number s i).toOption)
    (fun h _ _ _ _ => h.number_widens hst) i

theorem number_of_new (hs : s.Sound) (ht : t.Sound) (hgrows : s.Grows t) (hi : t.Holds i)
    (hnew : ¬ s.Holds i) (hempty : i.isEmpty = false) : (Numbered.number s i).toOption = none :=
  Item.ofShelf (P := fun i => t.Holds i → ¬ s.Holds i → i.isEmpty = false →
      (Numbered.number s i).toOption = none)
    (fun h _ _ _ _ hi hnew hempty => h.number_of_new hs ht hgrows hi hnew hempty) i hi hnew hempty

theorem withNumber_of_assigned (hempty : i.isEmpty = false) {held : UInt32}
    (hheld : (Numbered.number s i).toOption = some held) :
    Numbered.withNumber s i n = .error .slotAssigned :=
  Item.ofShelf (P := fun i => i.isEmpty = false → (Numbered.number s i).toOption = some held →
      Numbered.withNumber s i n = .error .slotAssigned)
    (fun h _ _ _ _ hempty hheld => h.withNumber_of_assigned hempty hheld) i hempty hheld

theorem run_numberOf_of_isEmpty (hempty : i.isEmpty = true) : s.run (numberOf i) = (.ok 0, s) := by
  rw [run_numberOf, number_of_isEmpty hempty]

theorem withNumber_of_isEmpty (hempty : i.isEmpty = true) :
    ∃ e, Numbered.withNumber s i n = .error e := by
  cases i with
  | typeList e => exact ⟨_, if_pos hempty⟩
  | annotationSet e => exact ⟨_, if_pos hempty⟩
  | _ => cases hempty

end Session

/-! ## Cells -/

inductive Cell where
  | number (i : Item)
  | classSlot (c : ClassEntry) (slot : ClassSlot)
  | methodSlot (m : PooledMethod) (slot : MethodSlot)
deriving DecidableEq

namespace Cell

def read : Cell → Build UInt32
  | number i => Session.numberOf i
  | classSlot c slot => Session.classSlot c slot
  | methodSlot m slot => Session.methodSlot m slot

/-- The operation that writes a cell. -/
def writing (value : UInt32) : Cell → Operation
  | number i => .setNumber i value
  | classSlot c slot => .setClassSlot c slot value
  | methodSlot m slot => .setMethodSlot m slot value

def write (value : UInt32) : Cell → Build Unit
  | number i => Session.setNumber i value
  | classSlot c slot => Session.setClassSlot c slot value
  | methodSlot m slot => Session.setMethodSlot m slot value

/-- Whether a cell is that of an entry that stands for nothing and takes no number. -/
def isEmpty : Cell → Bool
  | number i => i.isEmpty
  | _ => false

/-- What a cell of a session holds. -/
def held (s : Session) (c : Cell) : Option UInt32 :=
  (s.run c.read).1.toOption

variable {s t : Session}

theorem run_read_snd (s : Session) (c : Cell) : (s.run c.read).2 = s := by
  cases c <;> rfl

theorem held_number (s : Session) (i : Item) :
    (number i).held s = (Numbered.number s i).toOption := by
  rw [held, read, Session.run_numberOf]

theorem held_classSlot (s : Session) (c : ClassEntry) (slot : ClassSlot) :
    (classSlot c slot).held s = s.classes.slots.get? c.row slot :=
  SlotTable.toOption_get

theorem held_methodSlot (s : Session) (m : PooledMethod) (slot : MethodSlot) :
    (methodSlot m slot).held s = s.classes.methodSlots.get? m.row slot :=
  SlotTable.toOption_get

/-- Building changes no cell, of whatever thing. -/
theorem held_widens (hst : s.Widens t) (c : Cell) : c.held t = c.held s := by
  cases c with
  | number i =>
      rw [held_number, held_number]
      exact Session.number_widens hst i
  | classSlot c slot =>
      rw [held_classSlot, held_classSlot]
      exact hst.classSlots.get? _ _
  | methodSlot m slot =>
      rw [held_methodSlot, held_methodSlot]
      exact hst.methodSlots.get? _ _

theorem run_read_of_held {c : Cell} {value : UInt32} (h : c.held s = some value) :
    s.run c.read = (.ok value, s) := by
  refine Prod.ext ?_ (run_read_snd s c)
  unfold held at h
  cases hread : (s.run c.read).1 with
  | ok n =>
      rw [hread] at h
      exact congrArg Except.ok (Option.some.inj h)
  | error e =>
      rw [hread] at h
      cases h

/-- A cell that holds something refuses every write. -/
theorem run_write_of_held {c : Cell} (hempty : c.isEmpty = false) {held : UInt32}
    (hheld : c.held s = some held) (value : UInt32) :
    s.run (c.write value) = (.error .slotAssigned, s) := by
  cases c with
  | number i =>
      rw [held_number] at hheld
      exact Session.run_update_of_error (Session.withNumber_of_assigned hempty hheld)
  | classSlot c slot =>
      rw [held_classSlot] at hheld
      refine Session.run_update_of_error ?_
      rw [SlotTable.set_of_get?_eq_some hheld]
      rfl
  | methodSlot m slot =>
      rw [held_methodSlot] at hheld
      refine Session.run_update_of_error ?_
      rw [SlotTable.set_of_get?_eq_some hheld]
      rfl

/-- The cell of an entry that stands for nothing takes no number. -/
theorem run_write_of_isEmpty {c : Cell} (hempty : c.isEmpty = true) (value : UInt32) :
    (s.run (c.write value)).2 = s := by
  cases c with
  | number i =>
      obtain ⟨e, he⟩ := Session.withNumber_of_isEmpty (s := s) (n := value) hempty
      rw [Cell.write, Session.setNumber, Session.run_update_of_error he]
  | _ => cases hempty

end Cell

namespace History

open Session Cell

variable {h : History} {op : Operation} {c : Cell}

/-- Whether the thing that a cell belongs to is the session's own. -/
def OwnsCell (h : History) : Cell → Prop
  | .number i => h.session.Holds i
  | .classSlot c _ => c ∈ h.session.classes.items
  | .methodSlot m _ => h.OwnsMethod m

theorem owns_writing_iff {value : UInt32} : h.Owns (c.writing value) ↔ h.OwnsCell c := by
  cases c <;> exact Iff.rfl

/-- A cell reads as what it holds. -/
theorem run_read (hh : h.Sound) (hrows : h.RowsTell) (hc : h.OwnsCell c)
    (hempty : c.isEmpty = false) :
    h.session.run c.read = (SlotTable.shown (c.held h.session), h.session) := by
  refine Prod.ext ?_ (run_read_snd h.session c)
  cases c with
  | number i =>
      rw [held_number, Cell.read, run_numberOf]
      exact number_eq_shown hh.session hc hempty
  | classSlot c slot =>
      rw [held_classSlot]
      exact SlotTable.get_eq_shown (hrows.class_row_lt hc)
  | methodSlot m slot =>
      rw [held_methodSlot]
      exact SlotTable.get_eq_shown (hrows.row_lt m hc)

/-- A cell that holds nothing takes a value, and no cell of another thing or kind changes. -/
theorem exists_run_write (hh : h.Sound) (hrows : h.RowsTell) (hc : h.OwnsCell c)
    (hempty : c.isEmpty = false) (hnone : c.held h.session = none) (value : UInt32) :
    ∃ t, h.session.run (c.write value) = (.ok (), t) ∧ c.held t = some value ∧
      ∀ c', h.OwnsCell c' → c' ≠ c → c'.held t = c'.held h.session := by
  cases c with
  | number i =>
      have hnumber := number_eq_shown hh.session hc hempty
      rw [← held_number, hnone] at hnumber
      obtain ⟨t, hwrite, hself, hother⟩ :=
        withNumber_of_unassigned hh.session hc hnumber value
      have hclasses := (renumbered_withNumber hwrite).classes
      refine ⟨t, run_update_of_ok hwrite, ?_, fun c' hc' hne => ?_⟩
      · rw [held_number, hself]
        rfl
      · cases c' with
        | number j =>
            rw [held_number, held_number, hother j hc' fun heq => hne (congrArg Cell.number heq)]
        | classSlot d slot => rw [held_classSlot, held_classSlot, hclasses]
        | methodSlot m slot => rw [held_methodSlot, held_methodSlot, hclasses]
  | classSlot c slot =>
      rw [held_classSlot] at hnone
      obtain ⟨slots, hset, hself, hother⟩ :=
        SlotTable.exists_set_of_get?_eq_none (hrows.class_row_lt hc) hnone value
      refine ⟨{ h.session with classes := { h.session.classes with slots } },
        run_update_of_ok (by rw [hset]; rfl), ?_, fun c' hc' hne => ?_⟩
      · rw [held_classSlot]
        exact hself
      · cases c' with
        | number j =>
            rw [held_number, held_number, number_eq_of_sorted]
        | classSlot d slot' =>
            rw [held_classSlot, held_classSlot]
            refine hother d.row slot' (not_and_or.mp fun ⟨hrow, hslot⟩ => hne ?_)
            rw [hrows.class_eq_of_row_eq hc' hc hrow, hslot]
        | methodSlot m slot' =>
            rw [held_methodSlot, held_methodSlot]
  | methodSlot m slot =>
      rw [held_methodSlot] at hnone
      obtain ⟨slots, hset, hself, hother⟩ :=
        SlotTable.exists_set_of_get?_eq_none (hrows.row_lt m hc) hnone value
      refine ⟨{ h.session with classes := { h.session.classes with methodSlots := slots } },
        run_update_of_ok (by rw [hset]; rfl), ?_, fun c' hc' hne => ?_⟩
      · rw [held_methodSlot]
        exact hself
      · cases c' with
        | number j =>
            rw [held_number, held_number, number_eq_of_sorted]
        | classSlot d slot' =>
            rw [held_classSlot, held_classSlot]
        | methodSlot n slot' =>
            rw [held_methodSlot, held_methodSlot]
            refine hother n.row slot' (not_and_or.mp fun ⟨hrow, hslot⟩ => hne ?_)
            rw [hrows.eq_of_row_eq n m hc' hc hrow, hslot]

/-! ## Cells along a step -/

theorem ownsMethod_step_of_owns {m : PooledMethod} (hm : h.OwnsMethod m) :
    (h.step op).OwnsMethod m := by
  rcases hm with hm | ⟨c, hc, hm⟩
  · refine .inl ?_
    unfold step
    split
    · exact List.mem_append_right _ hm
    · exact hm
  · exact .inr ⟨c, mem_items_step_iff.mpr (.inl hc), hm⟩

/-- What is owned stays owned. -/
theorem ownsCell_step (hh : h.Sound) (howns : h.Owns op) (hc : h.OwnsCell c) :
    (h.step op).OwnsCell c := by
  cases c with
  | number i => exact (hh.grows_step howns).holds hc
  | classSlot c slot => exact mem_items_step_iff.mpr (.inl hc)
  | methodSlot m slot => exact ownsMethod_step_of_owns hc

/-- The cells of a thing that came to be with an operation hold nothing. -/
theorem held_of_new (hh : h.Sound) (hrows : h.RowsTell) (howns : h.Owns op)
    (hop : op.writesSlot = false) (hc : (h.step op).OwnsCell c) (hnew : ¬ h.OwnsCell c)
    (hempty : c.isEmpty = false) : c.held (h.step op).session = none := by
  have hwidens : h.session.Widens (h.step op).session := by
    rw [step_session]
    exact widening_act hop h.session
  rw [held_widens hwidens]
  cases c with
  | number i =>
      rw [held_number]
      exact number_of_new hh.session (hh.step howns).session (hh.grows_step howns) hc hnew hempty
  | classSlot c slot =>
      rw [held_classSlot]
      -- The rows below the size are those of the classes that were there.
      refine SlotTable.get?_of_size_le (Nat.le_of_not_lt fun hrow => hnew ?_)
      have hmem : c.row ∈ h.session.classes.items.map ClassEntry.row := by
        rw [hrows.classes, List.mem_reverse, List.mem_range]
        exact hrow
      obtain ⟨d, hd, hdc⟩ := List.mem_map.mp hmem
      rw [← (hrows.step howns).class_eq_of_row_eq (mem_items_step_iff.mpr (.inl hd)) hc hdc]
      exact hd
  | methodSlot m slot =>
      rw [held_methodSlot]
      obtain ⟨ms, hfresh, hms⟩ := exists_freshRows_step howns
      have hm : m ∈ ms := (hms m hc).resolve_left hnew
      exact SlotTable.get?_of_size_le (hfresh.range m hm).1

theorem step_writing_session (h : History) (c : Cell) (value : UInt32) :
    (h.step (c.writing value)).session = (h.session.run (c.write value)).2 := by
  rw [step_session]
  cases c <;> exact run_map_snd _ _

/-- Writing makes nothing new. -/
theorem ownsCell_of_step_writing {c' : Cell} {value : UInt32}
    (hc : (h.step (c'.writing value)).OwnsCell c) : h.OwnsCell c := by
  have hop : (c'.writing value).writesSlot = true := by cases c' <;> rfl
  have hask : ∀ r, c'.writing value ≠ .ask r := by cases c' <;> simp [Cell.writing]
  have hbuilt : (c'.writing value).built h.session = [] := by cases c' <;> rfl
  cases c with
  | number i =>
      have hfind : (h.step (c'.writing value)).session.find? i.key = h.session.find? i.key := by
        rw [step_session]
        exact read_eq_of_unslotted_eq (unslotted_of_writesSlot hop) (find? · i.key)
          fun s => find?_unslotted s i.key
      exact hfind.symm.trans hc
  | classSlot d slot =>
      rcases mem_items_step_iff.mp hc with hd | ⟨b, hb, -⟩
      · exact hd
      · rw [hbuilt] at hb
        cases hb
  | methodSlot m slot =>
      rcases ownsMethod_step hc with hm | ⟨r, _, _, heq, -⟩ | ⟨b, hb, -⟩
      · exact hm
      · exact absurd heq (hask r)
      · rw [hbuilt] at hb
        cases hb

end History

end DexPools
