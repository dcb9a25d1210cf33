import DexPools.Error

/-!
# Tables of slots that are written once

A writer learns the position of an item only when it lays out the file, after the item was
built. Such numbers live beside the items: each item owns a row of a table, and a row has a slot
for each kind of number. Rows are only ever added, and a slot that holds a number keeps it.
-/

namespace DexPools

/-- The kinds of slots that the rows of a table have, each with its place in the row. -/
class SlotKind (ς : Type) where
  count : Nat
  position : ς → Fin count

/-- The slot of items that are referred to by their position in a sorted table. -/
inductive IndexSlot where
  | index
deriving DecidableEq, Repr, Inhabited

/-- The slot of items that are referred to by their offset in the file. -/
inductive OffsetSlot where
  | offset
deriving DecidableEq, Repr, Inhabited

inductive ClassSlot where
  | index
  /-- The offset of the annotations of the class and its members. -/
  | annotationDirectory
  /-- The offset of the initial values of static fields. -/
  | staticValues
  /-- The offset of the list of members. -/
  | classData
deriving DecidableEq, Repr, Inhabited

inductive MethodSlot where
  | codeItem
  /-- The offset of the list of parameter annotations. -/
  | parameterAnnotations
deriving DecidableEq, Repr, Inhabited

instance : SlotKind IndexSlot where
  count := 1
  position := fun | .index => 0

instance : SlotKind OffsetSlot where
  count := 1
  position := fun | .offset => 0

instance : SlotKind ClassSlot where
  count := 4
  position := fun
    | .index => 0
    | .annotationDirectory => 1
    | .staticValues => 2
    | .classData => 3

instance : SlotKind MethodSlot where
  count := 2
  position := fun
    | .codeItem => 0
    | .parameterAnnotations => 1

/-- A table of rows of write-once slots. -/
structure SlotTable (ς : Type) [SlotKind ς] where
  rows : List (Vector (Option UInt32) (SlotKind.count ς))

namespace SlotTable

variable {ς : Type} [SlotKind ς]

def empty : SlotTable ς :=
  ⟨[]⟩

instance : Inhabited (SlotTable ς) := ⟨empty⟩

def size (t : SlotTable ς) : Nat :=
  t.rows.length

/-- Adds a row of unwritten slots; the number of the row is the old size. -/
def allocate (t : SlotTable ς) : Nat × SlotTable ς :=
  (t.size, ⟨t.rows ++ [Vector.replicate _ none]⟩)

/-- What a slot of an existing row holds. -/
def cell (t : SlotTable ς) (row : Nat) (slot : ς) : Except Error (Option UInt32) :=
  match t.rows[row]? with
  | some r => .ok r[SlotKind.position slot]
  | none => .error (.badArgument (.unknownRow row))

/-- Writes a slot that holds nothing yet. -/
def set (t : SlotTable ς) (row : Nat) (slot : ς) (value : UInt32) :
    Except Error (SlotTable ς) := do
  match ← t.cell row slot with
  | some _ => throw .slotAssigned
  | none => return ⟨t.rows.modify row fun r => r.set (SlotKind.position slot) (some value)⟩

/-- Reads a slot that was written. -/
def get (t : SlotTable ς) (row : Nat) (slot : ς) : Except Error UInt32 := do
  match ← t.cell row slot with
  | some value => return value
  | none => throw .slotUnassigned

/-- Reads a slot; nothing for an unwritten slot and for a row of no table. -/
def get? (t : SlotTable ς) (row : Nat) (slot : ς) : Option UInt32 :=
  match t.rows[row]? with
  | some r => r[SlotKind.position slot]
  | none => none

/-! ## Reading and writing -/

variable {t t' : SlotTable ς} {row : Nat} {slot : ς} {value : UInt32}

theorem get?_eq_some_iff : t.get? row slot = some value ↔
    ∃ r, t.rows[row]? = some r ∧ r[SlotKind.position slot] = some value := by
  unfold get?
  cases t.rows[row]? with
  | none => simp
  | some r => simp

theorem get_eq_ok_iff : t.get row slot = .ok value ↔ t.get? row slot = some value := by
  rw [get?_eq_some_iff]
  unfold SlotTable.get cell
  cases t.rows[row]? with
  | none => exact iff_of_false nofun (by simp)
  | some r =>
      simp only [Option.some.injEq, exists_eq_left']
      show (match r[SlotKind.position slot] with
        | some value => Except.ok value
        | none => Except.error Error.slotUnassigned) = _ ↔ _
      cases r[SlotKind.position slot] with
      | none => exact iff_of_false nofun nofun
      | some v => simp

theorem set_eq_ok_iff : t.set row slot value = .ok t' ↔ t.cell row slot = .ok none ∧
    t' = ⟨t.rows.modify row fun r => r.set (SlotKind.position slot) (some value)⟩ := by
  unfold SlotTable.set
  cases t.cell row slot with
  | error e => exact iff_of_false nofun nofun
  | ok v =>
      cases v with
      | some v => exact iff_of_false nofun nofun
      | none =>
          constructor
          · rintro ⟨⟩
            exact ⟨rfl, rfl⟩
          · rintro ⟨-, rfl⟩
            rfl

end SlotTable

end DexPools
