import DexPools.Layout
import Mathlib.Data.List.Nodup

/-!
# Pools hold one entry for each key

A pool is canonical when its keys are distinct and its entries own the rows of its slot table,
one each. The rows then are the numbers below the size, so two entries with one row are one
entry, and every entry has slots to read and write. Adding an entry under a new key keeps this,
and so does writing slots, which touches no entry.

`Key` and `Item` are the sums of the keys and of the entries of all eight pools of a session, and
`Session.find?` looks a key up in the pool that it belongs to.
-/

namespace DexPools

/-! A computation that succeeds has succeeded in each of its parts. -/

theorem bind_eq_ok_iff {α β : Type} {x : Except Error α} {f : α → Except Error β} {b : β} :
    (x >>= f) = .ok b ↔ ∃ a, x = .ok a ∧ f a = .ok b := by
  cases x with
  | error e => exact iff_of_false nofun fun ⟨_, h, _⟩ => nomatch h
  | ok a =>
      constructor
      · exact fun h => ⟨a, rfl, h⟩
      · rintro ⟨_, ⟨⟩, h⟩
        exact h

theorem bind_pure_eq_ok_iff {α β : Type} {x : Except Error α} {f : α → β} {b : β} :
    (x >>= fun a => pure (f a)) = .ok b ↔ ∃ a, x = .ok a ∧ f a = b :=
  bind_eq_ok_iff.trans (exists_congr fun _ => and_congr_right fun _ =>
    ⟨Except.ok.inj, congrArg Except.ok⟩)

theorem bind_pure_eq_error_iff {α β : Type} {x : Except Error α} {f : α → β} {e : Error} :
    (x >>= fun a => pure (f a)) = .error e ↔ x = .error e := by
  cases x with
  | error e' => exact ⟨fun h => congrArg Except.error (Except.error.inj h), fun h => h ▸ rfl⟩
  | ok a => exact iff_of_false nofun nofun

namespace SlotTable

variable {ς : Type} [SlotKind ς] {t t' : SlotTable ς} {row row' : Nat} {slot slot' : ς}
  {value : UInt32}

theorem size_of_set (h : t.set row slot value = .ok t') : t'.size = t.size := by
  obtain ⟨-, rfl⟩ := set_eq_ok_iff.mp h
  simp [SlotTable.size]

end SlotTable

namespace Pool

variable {κ ε ς : Type} [SlotKind ς] {p : Pool κ ε ς}

theorem mem_entries_iff {e : ε} : e ∈ p.entries ↔ ∃ k, (k, e) ∈ p.items := by
  simp [entries]

theorem find?_insert [DecidableEq κ] (p : Pool κ ε ς) (k k' : κ) (make : Nat → ε) :
    (p.insert k make).2.find? k' = if k' = k then some (make p.slots.size) else p.find? k' := by
  show ((k, make p.slots.size) :: p.items).lookup k' = _
  rw [List.lookup_cons]
  by_cases h : k' = k
  · simp [h]
  · rw [if_neg h, beq_false_of_ne h]
    rfl

variable [HasRow ε]

/-- One entry for each key, and one row of the slots for each entry. -/
structure Canonical (p : Pool κ ε ς) : Prop where
  keys : (p.items.map Prod.fst).Nodup
  rows : p.items.map (fun item => HasRow.row item.2) = (List.range p.size).reverse
  slots : p.slots.size = p.size

theorem canonical_empty : (empty : Pool κ ε ς).Canonical :=
  ⟨List.nodup_nil, rfl, rfl⟩

theorem Canonical.rows_nodup (h : p.Canonical) :
    (p.items.map fun item => HasRow.row item.2).Nodup := by
  rw [h.rows]
  exact List.nodup_reverse.mpr List.nodup_range

theorem Canonical.entries_nodup (h : p.Canonical) : p.entries.Nodup := by
  have hrows : ((p.items.map Prod.snd).map HasRow.row).Nodup := by
    rw [List.map_map]
    exact h.rows_nodup
  exact List.nodup_reverse.mpr hrows.of_map

theorem Canonical.entries_row (h : p.Canonical) :
    p.entries.map HasRow.row = List.range p.size := by
  rw [entries, List.map_reverse, List.map_map]
  exact (congrArg List.reverse h.rows).trans (List.reverse_reverse _)

variable [DecidableEq κ]

theorem Canonical.insert (h : p.Canonical) {k : κ} {make : Nat → ε} (hk : p.find? k = none)
    (hrow : ∀ n, HasRow.row (make n) = n) : (p.insert k make).2.Canonical where
  keys := by
    refine List.nodup_cons.mpr ⟨fun hmem => ?_, h.keys⟩
    obtain ⟨item, hitem, rfl⟩ := List.mem_map.mp hmem
    exact absurd (List.lookup_eq_none_iff.mp hk item hitem) (by simp)
  rows := by
    show HasRow.row (make p.slots.size) :: p.items.map (fun item => HasRow.row item.2) = _
    rw [hrow, h.rows, h.slots]
    show _ = (List.range (p.size + 1)).reverse
    rw [List.range_succ, List.reverse_append]
    rfl
  slots := by
    show (p.slots.rows ++ [_]).length = p.size + 1
    rw [List.length_append, ← h.slots]
    rfl

theorem find?_eq_some_iff (h : p.Canonical) {k : κ} {e : ε} :
    p.find? k = some e ↔ (k, e) ∈ p.items := by
  constructor
  · intro hfind
    obtain ⟨before, after, hitems, -⟩ := List.lookup_eq_some_iff.mp hfind
    simp [hitems]
  · intro hmem
    obtain ⟨before, after, hitems⟩ := List.append_of_mem hmem
    refine List.lookup_eq_some_iff.mpr ⟨before, after, hitems, fun item hitem => ?_⟩
    have hkeys := h.keys
    rw [hitems, List.map_append, List.nodup_append] at hkeys
    have hne := hkeys.2.2 item.1 (List.mem_map_of_mem hitem) k (by simp)
    simpa using fun heq => hne heq.symm

/-- The row tells an entry apart from all others of its pool. -/
theorem Canonical.eq_of_row_eq (h : p.Canonical) {k l : κ} {a b : ε}
    (ha : p.find? k = some a) (hb : p.find? l = some b)
    (hrow : HasRow.row a = HasRow.row b) : (k, a) = (l, b) :=
  List.inj_on_of_nodup_map h.rows_nodup ((find?_eq_some_iff h).mp ha)
    ((find?_eq_some_iff h).mp hb) hrow

theorem Canonical.row_lt (h : p.Canonical) {k : κ} {e : ε} (he : p.find? k = some e) :
    HasRow.row e < p.slots.size := by
  have hmem : HasRow.row e ∈ p.items.map fun item => HasRow.row item.2 :=
    List.mem_map.mpr ⟨(k, e), (find?_eq_some_iff h).mp he, rfl⟩
  rw [h.rows, List.mem_reverse, List.mem_range] at hmem
  rwa [h.slots]

end Pool

/-! ## All pools at once -/

/-- What is put into some pool, as a definition names it. -/
inductive Key where
  | string (s : String)
  | type (descriptor : String)
  | typeList (descriptors : List String)
  | proto (p : ProtoRef)
  | field (f : FieldRef)
  | method (m : MethodRef)
  | annotation (a : Annotation)
  | annotationSet (s : AnnotationSet)
deriving DecidableEq

/-- An entry of some pool. -/
inductive Item where
  | string (e : StringEntry)
  | type (e : TypeEntry)
  | typeList (e : TypeListEntry)
  | proto (e : ProtoEntry)
  | field (e : FieldEntry)
  | method (e : MethodEntry)
  | annotation (e : AnnotationEntry)
  | annotationSet (e : AnnotationSetEntry)
deriving DecidableEq

def Item.key : Item → Key
  | string e => .string e.text
  | type e => .type e.text
  | typeList e => .typeList e.texts
  | proto e => .proto e.ref
  | field e => .field e.ref
  | method e => .method e.ref
  | annotation e => Key.annotation e.readBack
  | annotationSet e => .annotationSet e.readBack

/-- Whether the part of an entry that its key leaves open is what it should be. Prototypes alone
have such a part, which is their shorty. -/
def Item.Fits : Item → Prop
  | proto e => Descriptor.shorty e.ref = .ok e.shorty.text
  | _ => True

namespace Session

/-- The entry of a key in the pool that it belongs to. -/
def find? (s : Session) : Key → Option Item
  | .string k => (s.strings.find? k).map .string
  | .type k => (s.types.find? k).map .type
  | .typeList k => (s.typeLists.find? k).map .typeList
  | .proto k => (s.protos.find? k).map .proto
  | .field k => (s.fields.find? k).map .field
  | .method k => (s.methods.find? k).map .method
  | Key.annotation k => (s.annotations.find? k).map Item.annotation
  | .annotationSet k => (s.annotationSets.find? k).map .annotationSet

def Has (s : Session) (k : Key) : Prop :=
  ∃ i, s.find? k = some i

/-- Whether an entry is the one that its pool holds. -/
def Holds (s : Session) (i : Item) : Prop :=
  s.find? i.key = some i

structure Canonical (s : Session) : Prop where
  strings : s.strings.Canonical
  types : s.types.Canonical
  typeLists : s.typeLists.Canonical
  protos : s.protos.Canonical
  fields : s.fields.Canonical
  methods : s.methods.Canonical
  annotations : s.annotations.Canonical
  annotationSets : s.annotationSets.Canonical

theorem canonical_new (config : Config) : (Session.new config).Canonical :=
  ⟨Pool.canonical_empty, Pool.canonical_empty, Pool.canonical_empty, Pool.canonical_empty,
    Pool.canonical_empty, Pool.canonical_empty, Pool.canonical_empty, Pool.canonical_empty⟩

theorem find?_new (config : Config) (k : Key) : (Session.new config).find? k = none := by
  cases k <;> rfl

end Session

end DexPools
