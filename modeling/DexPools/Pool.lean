import DexPools.Sorted
import DexPools.Slots

/-!
# Pools

A pool holds one entry for each key that was put into it. An entry carries the row of the slot
table that it owns, and the row tells it apart from every other entry of the pool: two entries of
one pool are the same item exactly when their rows are.

The newest entry stands first. Nothing ever removes or changes an entry.
-/

namespace DexPools

/-- Items that own a row of a slot table. -/
class HasRow (ε : Type) where
  row : ε → Nat

/-- Whether two entries of one pool are the same item. -/
def sameEntry {ε : Type} [HasRow ε] (a b : ε) : Bool :=
  HasRow.row a == HasRow.row b

/-- Entries of type `ε` by their keys of type `κ`, with a table of slots of kind `ς`. -/
structure Pool (κ ε ς : Type) [SlotKind ς] where
  items : List (κ × ε)
  slots : SlotTable ς

namespace Pool

variable {κ ε ς : Type} [SlotKind ς]

def empty : Pool κ ε ς :=
  ⟨[], SlotTable.empty⟩

instance : Inhabited (Pool κ ε ς) := ⟨empty⟩

def find? [DecidableEq κ] (p : Pool κ ε ς) (key : κ) : Option ε :=
  p.items.lookup key

def size (p : Pool κ ε ς) : Nat :=
  p.items.length

/-- Adds an entry that owns a new row, under a key that has none. -/
def insert (p : Pool κ ε ς) (key : κ) (make : Nat → ε) : ε × Pool κ ε ς :=
  let (row, slots) := p.slots.allocate
  let entry := make row
  (entry, ⟨(key, entry) :: p.items, slots⟩)

/-- The entries, the oldest first. -/
def entries (p : Pool κ ε ς) : List ε :=
  (p.items.map Prod.snd).reverse

def sortedBy (cmp : ε → ε → Ordering) (p : Pool κ ε ς) : List ε :=
  Sorted.sort cmp p.entries

def slot [HasRow ε] (p : Pool κ ε ς) (entry : ε) (slot : ς) : Except Error UInt32 :=
  p.slots.get (HasRow.row entry) slot

/-- Writes a slot of an entry, once. -/
def setSlot [HasRow ε] (p : Pool κ ε ς) (entry : ε) (slot : ς) (value : UInt32) :
    Except Error (Pool κ ε ς) :=
  return ⟨p.items, ← p.slots.set (HasRow.row entry) slot value⟩

end Pool

end DexPools
