import DexPools.Proofs.Cells

/-!
# A slot table is a map that is written once

What a writer sees of a slot table is how many rows were handed out and which slots hold which
numbers. That is a counter and a partial map from rows and kinds of slots to numbers, into which
a number goes if there is none yet. A row is named by a bare number, so one that belongs to another
table, or that no table handed out so far, is met as well; it is refused by its number alone.

The view of a table as such a map commutes with every operation, answer by answer, whatever the
table holds. Runs follow by induction on the operations. All that is asked of the kinds is that each
has a place of its own in the row; kinds that share a place share their numbers, which no map does.
-/

namespace DexPools

/-- An operation on a slot table. The row may be that of any table. -/
inductive SlotOperation (ς : Type) where
  | allocate
  | set (row : Nat) (slot : ς) (value : UInt32)
  | get (row : Nat) (slot : ς)
  | get? (row : Nat) (slot : ς)
  | size

inductive SlotAnswer where
  | row (row : Nat)
  | written (outcome : Except Error Unit)
  | read (outcome : Except Error UInt32)
  | held (value : Option UInt32)
  | size (rows : Nat)

namespace SlotOperation

variable {σ τ ς : Type}

/-- The answers to the operations one after the other, and what is there after the last. -/
def run (step : σ → SlotOperation ς → SlotAnswer × σ) :
    σ → List (SlotOperation ς) → List SlotAnswer × σ
  | s, [] => ([], s)
  | s, op :: ops =>
      let after := run step (step s op).2 ops
      ((step s op).1 :: after.1, after.2)

/-- A view that commutes with every operation commutes with runs, and the answers are the same. -/
theorem run_view {step : σ → SlotOperation ς → SlotAnswer × σ}
    {step' : τ → SlotOperation ς → SlotAnswer × τ} {view : σ → τ}
    (h : ∀ s op, step' (view s) op = Prod.map id view (step s op)) (s : σ)
    (ops : List (SlotOperation ς)) :
    run step' (view s) ops = Prod.map id view (run step s ops) := by
  induction ops generalizing s with
  | nil => rfl
  | cons op ops ih =>
      rw [run, run, h, Prod.map_snd, ih]
      rfl

end SlotOperation

/-! ## The map -/

/-- How many rows there are, and what stands at a row for a kind of slot. -/
structure SlotMap (ς : Type) where
  rows : Nat
  value? : Nat → ς → Option UInt32

namespace SlotMap

variable {ς : Type} [DecidableEq ς]

def empty : SlotMap ς :=
  ⟨0, fun _ _ => none⟩

def insert (m : SlotMap ς) (row : Nat) (slot : ς) (value : UInt32) : SlotMap ς where
  rows := m.rows
  value? row' slot' := if row' = row ∧ slot' = slot then some value else m.value? row' slot'

/-- A new row is counted and changes nothing else. A number is stored at a row that exists and where
there is none, and is read from there. -/
def step (m : SlotMap ς) : SlotOperation ς → SlotAnswer × SlotMap ς
  | .allocate => (.row m.rows, { m with rows := m.rows + 1 })
  | .set row slot value =>
      if row < m.rows then
        match m.value? row slot with
        | none => (.written (.ok ()), m.insert row slot value)
        | some _ => (.written (.error .slotAssigned), m)
      else (.written (.error (.badArgument (.unknownRow row))), m)
  | .get row slot =>
      if row < m.rows then
        match m.value? row slot with
        | none => (.read (.error .slotUnassigned), m)
        | some value => (.read (.ok value), m)
      else (.read (.error (.badArgument (.unknownRow row))), m)
  | .get? row slot => (.held (m.value? row slot), m)
  | .size => (.size m.rows, m)

end SlotMap

/-! ## The table as a map -/

namespace SlotTable

variable {ς : Type} [SlotKind ς] {t : SlotTable ς} {row : Nat} {slot : ς}

/-- An operation that fails leaves the table. -/
def step (t : SlotTable ς) : SlotOperation ς → SlotAnswer × SlotTable ς
  | .allocate => (.row t.allocate.1, t.allocate.2)
  | .set row slot value =>
      match t.set row slot value with
      | .ok t' => (.written (.ok ()), t')
      | .error e => (.written (.error e), t)
  | .get row slot => (.read (t.get row slot), t)
  | .get? row slot => (.held (t.get? row slot), t)
  | .size => (.size t.size, t)

/-- The answers of a new table, and the table after the last operation. -/
def run (ops : List (SlotOperation ς)) : List SlotAnswer × SlotTable ς :=
  SlotOperation.run step empty ops

def toMap (t : SlotTable ς) : SlotMap ς :=
  ⟨t.size, t.get?⟩

theorem cell_of_size_le (h : t.size ≤ row) :
    t.cell row slot = .error (.badArgument (.unknownRow row)) := by
  unfold cell
  rw [List.getElem?_eq_none h]

/-- A row that does not exist is refused by its number, for reading and for writing. -/
theorem get_of_size_le (h : t.size ≤ row) :
    t.get row slot = .error (.badArgument (.unknownRow row)) := by
  unfold SlotTable.get
  rw [cell_of_size_le h]
  rfl

theorem set_of_size_le (h : t.size ≤ row) (value : UInt32) :
    t.set row slot value = .error (.badArgument (.unknownRow row)) := by
  unfold SlotTable.set
  rw [cell_of_size_le h]
  rfl

theorem size_set {t' : SlotTable ς} {value : UInt32} (h : t.set row slot value = .ok t') :
    t'.size = t.size := by
  obtain ⟨-, rfl⟩ := set_eq_ok_iff.mp h
  exact List.length_modify _ _ _

/-- A number that was written stands at its place, for whatever kind has that place. -/
theorem get?_of_set {t' : SlotTable ς} {value : UInt32} (h : t.set row slot value = .ok t')
    {slot' : ς} (hplace : SlotKind.position slot = SlotKind.position slot') :
    t'.get? row slot' = some value := by
  obtain ⟨hcell, rfl⟩ := set_eq_ok_iff.mp h
  unfold cell at hcell
  cases hr : t.rows[row]? with
  | none =>
      rw [hr] at hcell
      cases hcell
  | some r =>
      rw [get?_eq_some_iff, List.getElem?_modify, hr]
      exact ⟨r.set (SlotKind.position slot) (some value), by simp, by simp [hplace]⟩

theorem toMap_empty : (empty : SlotTable ς).toMap = SlotMap.empty := by
  have hnone : (empty : SlotTable ς).get? = fun _ _ => none :=
    funext fun row => funext fun slot => get?_of_size_le (Nat.zero_le row)
  rw [toMap, hnone]
  rfl

theorem toMap_allocate (t : SlotTable ς) :
    t.allocate.2.toMap = { t.toMap with rows := t.size + 1 } := by
  have hsame : t.allocate.2.get? = t.get? :=
    funext fun row => funext fun slot => (widens_allocate t).get? row slot
  rw [toMap, hsame, size_allocate]
  rfl

section Lawful

variable [DecidableEq ς] [LawfulSlotKind ς]

/-- A number goes to its row and kind, and to no other place. -/
theorem exists_set_toMap (hrow : row < t.size) (h : t.get? row slot = none) (value : UInt32) :
    ∃ t', t.set row slot value = .ok t' ∧ t'.toMap = t.toMap.insert row slot value := by
  obtain ⟨t', hset, hself, hother⟩ := exists_set_of_get?_eq_none hrow h value
  refine ⟨t', hset, ?_⟩
  have hvalue : t'.get? = (t.toMap.insert row slot value).value? := by
    refine funext fun row' => funext fun slot' => ?_
    show t'.get? row' slot' = if row' = row ∧ slot' = slot then some value else t.get? row' slot'
    split
    · next hplace =>
      rw [hplace.1, hplace.2]
      exact hself
    · next hplace => exact hother row' slot' (not_and_or.mp hplace)
  rw [toMap, size_set hset, hvalue]
  rfl

/-- The view of a table as a map commutes with every operation. -/
theorem step_toMap (t : SlotTable ς) (op : SlotOperation ς) :
    t.toMap.step op = Prod.map id toMap (t.step op) := by
  cases op with
  | allocate => exact Prod.ext rfl (toMap_allocate t).symm
  | set row slot value =>
      by_cases hrow : row < t.size
      · rw [SlotMap.step, if_pos (show row < t.toMap.rows from hrow), step]
        show (match t.get? row slot with | none => _ | some _ => _) = _
        cases hheld : t.get? row slot with
        | none =>
            obtain ⟨t', hset, hmap⟩ := exists_set_toMap hrow hheld value
            rw [hset]
            exact Prod.ext rfl hmap.symm
        | some held =>
            rw [set_of_get?_eq_some hheld]
            rfl
      · rw [SlotMap.step, if_neg (show ¬ row < t.toMap.rows from hrow), step,
          set_of_size_le (Nat.le_of_not_lt hrow)]
        rfl
  | get row slot =>
      by_cases hrow : row < t.size
      · rw [SlotMap.step, if_pos (show row < t.toMap.rows from hrow), step, get_eq_shown hrow]
        show (match t.get? row slot with | none => _ | some _ => _) = _
        cases t.get? row slot <;> rfl
      · rw [SlotMap.step, if_neg (show ¬ row < t.toMap.rows from hrow), step,
          get_of_size_le (Nat.le_of_not_lt hrow)]
        rfl
  | get? row slot => rfl
  | size => rfl

end Lawful

/-! ## Runs -/

/-- Whether new tables of a kind of slots answer and change as the map does under any operations.
What a slot holds is what reading it gives. -/
structure RefinesMap (ς : Type) [SlotKind ς] [DecidableEq ς] : Prop where
  run : ∀ ops : List (SlotOperation ς),
    SlotOperation.run SlotMap.step SlotMap.empty ops = Prod.map id toMap (SlotTable.run ops)
  get?_iff : ∀ (ops : List (SlotOperation ς)) row slot value,
    (SlotTable.run ops).2.get? row slot = some value ↔
      (SlotTable.run ops).2.get row slot = .ok value

theorem refinesMap (ς : Type) [SlotKind ς] [DecidableEq ς] [LawfulSlotKind ς] : RefinesMap ς where
  run ops := by
    rw [← toMap_empty]
    exact SlotOperation.run_view step_toMap _ ops
  get?_iff _ _ _ _ := get_eq_ok_iff.symm

/-- Two kinds that share a place are told apart by the map and not by the table. -/
theorem RefinesMap.position_inj {ς : Type} [SlotKind ς] [DecidableEq ς] (h : RefinesMap ς)
    {a b : ς} (hplace : SlotKind.position a = SlotKind.position b) : a = b := by
  by_contra hne
  have hcell : (empty : SlotTable ς).allocate.2.cell 0 a = .ok none := by
    simp [cell, allocate, empty]
  obtain ⟨t, hset⟩ : ∃ t, (empty : SlotTable ς).allocate.2.set 0 a 0 = .ok t :=
    ⟨_, set_eq_ok_iff.mpr ⟨hcell, rfl⟩⟩
  have htable : (SlotTable.run [.allocate, .set 0 a 0, .get? 0 b]).1 =
      [.row 0, .written (.ok ()), .held (some 0)] := by
    simp only [SlotTable.run, SlotOperation.run, step]
    rw [hset]
    exact congrArg (fun held => [_, _, SlotAnswer.held held]) (get?_of_set hset hplace)
  have hmap : (SlotOperation.run SlotMap.step SlotMap.empty
      [.allocate, .set 0 a 0, .get? 0 b]).1 = [.row 0, .written (.ok ()), .held none] := by
    simp [SlotOperation.run, SlotMap.step, SlotMap.empty, SlotMap.insert, Ne.symm hne]
  have hanswers := congrArg Prod.fst (h.run [.allocate, .set 0 a 0, .get? 0 b])
  rw [Prod.map_fst, htable, hmap] at hanswers
  cases hanswers

/-- A slot table answers every run of operations as a partial map from rows and kinds does that is
written once. So do the tables of all kinds of slots that there are, and those of other kinds
exactly if each kind has a place of its own. -/
theorem refinesMap_iff_injective :
    (RefinesMap IndexSlot ∧ RefinesMap OffsetSlot ∧ RefinesMap ClassSlot ∧ RefinesMap MethodSlot) ∧
      ∀ (ς : Type) [SlotKind ς] [DecidableEq ς],
        RefinesMap ς ↔ Function.Injective (SlotKind.position : ς → Fin (SlotKind.count ς)) := by
  refine ⟨⟨refinesMap _, refinesMap _, refinesMap _, refinesMap _⟩, fun ς _ _ => ⟨?_, ?_⟩⟩
  · exact fun h _ _ hplace => h.position_inj hplace
  · intro hinj
    have : LawfulSlotKind ς := ⟨fun hplace => hinj hplace⟩
    exact refinesMap ς

end SlotTable

end DexPools
