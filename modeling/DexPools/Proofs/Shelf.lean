import DexPools.Proofs.Following
import DexPools.Proofs.Sorting

/-!
# Looking up and adding

The eight pools of a session differ in what they hold and in nothing else. A `Shelf` says how one
pool sits among the eight, and `Shelf.intern` is what all pools have in common: a key that is
there is answered by its entry, and any other key gets an entry after its parts. In a sound
session this follows the plan of the key, whichever of the two happens.
-/

namespace DexPools

/-- How one pool sits among the pools of a session. -/
structure Shelf (κ ε ς : Type) [SlotKind ς] where
  pool : Session → Pool κ ε ς
  setPool : Session → Pool κ ε ς → Session
  key : κ → Key
  item : ε → Item
  text : ε → κ

namespace Shelf

def strings : Shelf String StringEntry IndexSlot :=
  ⟨Session.strings, fun s p => { s with strings := p }, .string, .string, StringEntry.text⟩

def types : Shelf String TypeEntry IndexSlot :=
  ⟨Session.types, fun s p => { s with types := p }, .type, .type, TypeEntry.text⟩

def typeLists : Shelf (List String) TypeListEntry OffsetSlot :=
  ⟨Session.typeLists, fun s p => { s with typeLists := p }, .typeList, .typeList,
    TypeListEntry.texts⟩

def protos : Shelf ProtoRef ProtoEntry IndexSlot :=
  ⟨Session.protos, fun s p => { s with protos := p }, .proto, .proto, ProtoEntry.ref⟩

def fields : Shelf FieldRef FieldEntry IndexSlot :=
  ⟨Session.fields, fun s p => { s with fields := p }, .field, .field, FieldEntry.ref⟩

def methods : Shelf MethodRef MethodEntry IndexSlot :=
  ⟨Session.methods, fun s p => { s with methods := p }, .method, .method, MethodEntry.ref⟩

def annotations : Shelf Annotation AnnotationEntry OffsetSlot :=
  ⟨Session.annotations, fun s p => { s with annotations := p }, Key.annotation, Item.annotation,
    AnnotationEntry.readBack⟩

def annotationSets : Shelf AnnotationSet AnnotationSetEntry OffsetSlot :=
  ⟨Session.annotationSets, fun s p => { s with annotationSets := p }, .annotationSet,
    .annotationSet, AnnotationSetEntry.readBack⟩

open Session

variable {κ ε ς : Type} [SlotKind ς] [HasRow ε] [Pooled ε κ]

/-- Whether an entry can be made for a key from what the session holds. -/
def Ready (h : Shelf κ ε ς) (s : Session) (k : κ) (make : Nat → ε) : Prop :=
  ∀ row, HasRow.row (make row) = row ∧ h.text (make row) = k ∧ (h.item (make row)).Fits ∧
    ∀ i ∈ Pooled.items (make row), i = h.item (make row) ∨ s.Holds i

theorem ready_of (h : Shelf κ ε ς) {s : Session} {k : κ} {make : Nat → ε} (rest : List Item)
    (hrest : s.HoldsAll rest) (htext : ∀ row, h.text (make row) = k)
    (hrow : ∀ row, HasRow.row (make row) = row := by intro; rfl)
    (hfits : ∀ row, (h.item (make row)).Fits := by intro; trivial)
    (hitems : ∀ row, Pooled.items (make row) = h.item (make row) :: rest := by intro; rfl) :
    h.Ready s k make := by
  refine fun row => ⟨hrow row, htext row, hfits row, fun i hi => ?_⟩
  rw [hitems] at hi
  exact (List.mem_cons.mp hi).imp id fun hi => hrest i hi

variable [DecidableEq κ]

/-- Replacing the pool leaves all else as it is, and the keys and entries of the pool are those
of its kind. All of it holds by computation, key by key. -/
class Lawful (h : Shelf κ ε ς) : Prop where
  key_inj : ∀ {a b : κ}, h.key a = h.key b → a = b := by rintro _ _ ⟨⟩; rfl
  item_inj : ∀ {a b : ε}, h.item a = h.item b → a = b := by rintro _ _ ⟨⟩; rfl
  key_item : ∀ e : ε, (h.item e).key = h.key (h.text e) := by intros; rfl
  items_item : ∀ e : ε, (h.item e).items = Pooled.items e := by intros; rfl
  reads_iff : ∀ (e : ε) (k : κ), Pooled.reads e k ↔ h.text e = k := by intros; rfl
  find?_key : ∀ (s : Session) (k : κ), s.find? (h.key k) = ((h.pool s).find? k).map h.item := by
    intros; rfl
  find?_setPool_of_ne : ∀ (s : Session) (p : Pool κ ε ς) {k : Key}, (∀ k', k ≠ h.key k') →
      (h.setPool s p).find? k = s.find? k := by
    intro s p k hk
    cases k <;> first | rfl | exact absurd rfl (hk _)
  pool_setPool : ∀ (s : Session) (p : Pool κ ε ς), h.pool (h.setPool s p) = p := by intros; rfl
  canonical_pool : ∀ {s : Session}, s.Canonical → (h.pool s).Canonical
  canonical_setPool : ∀ {s : Session} {p : Pool κ ε ς}, s.Canonical → p.Canonical →
    (h.setPool s p).Canonical
  config_setPool : ∀ (s : Session) (p : Pool κ ε ς), (h.setPool s p).config = s.config := by
    intros; rfl
  classes_setPool : ∀ (s : Session) (p : Pool κ ε ς), (h.setPool s p).classes = s.classes := by
    intros; rfl
  diagnostics_setPool : ∀ (s : Session) (p : Pool κ ε ς),
      (h.setPool s p).diagnostics = s.diagnostics := by
    intros; rfl

instance : strings.Lawful where
  canonical_pool h := h.strings
  canonical_setPool h hp := { h with strings := hp }

instance : types.Lawful where
  canonical_pool h := h.types
  canonical_setPool h hp := { h with types := hp }

instance : typeLists.Lawful where
  canonical_pool h := h.typeLists
  canonical_setPool h hp := { h with typeLists := hp }

instance : protos.Lawful where
  canonical_pool h := h.protos
  canonical_setPool h hp := { h with protos := hp }

instance : fields.Lawful where
  canonical_pool h := h.fields
  canonical_setPool h hp := { h with fields := hp }

instance : methods.Lawful where
  canonical_pool h := h.methods
  canonical_setPool h hp := { h with methods := hp }

instance : annotations.Lawful where
  canonical_pool h := h.annotations
  canonical_setPool h hp := { h with annotations := hp }

instance : annotationSets.Lawful where
  canonical_pool h := h.annotationSets
  canonical_setPool h hp := { h with annotationSets := hp }

variable (h : Shelf κ ε ς) [h.Lawful] {s : Session}

theorem find?_setPool_key (p : Pool κ ε ς) (k : κ) :
    (h.setPool s p).find? (h.key k) = (p.find? k).map h.item := by
  rw [Lawful.find?_key, Lawful.pool_setPool]

theorem find?_eq_none_iff {k : κ} : s.find? (h.key k) = none ↔ (h.pool s).find? k = none := by
  rw [Lawful.find?_key, Option.map_eq_none_iff]

theorem find?_eq_some_item_iff {k : κ} {e : ε} :
    s.find? (h.key k) = some (h.item e) ↔ (h.pool s).find? k = some e := by
  rw [Lawful.find?_key, Option.map_eq_some_iff]
  constructor
  · rintro ⟨e', he', hitem⟩
    rw [he', Lawful.item_inj hitem]
  · intro he
    exact ⟨e, he, rfl⟩

theorem reads_of_find? (hs : s.Sound) {k : κ} {e : ε} (he : (h.pool s).find? k = some e) :
    s.Reads e k := by
  have hfind := (h.find?_eq_some_item_iff).mpr he
  have hkey := hs.keyed hfind
  rw [Lawful.key_item] at hkey
  refine ⟨(Lawful.reads_iff (h := h) e k).mpr (Lawful.key_inj hkey), ?_⟩
  rw [← Lawful.items_item (h := h)]
  exact hs.closed hfind

/-- Entries of one pool that are pooled are one if their texts are. -/
theorem eq_iff {a b : ε} (ha : s.Holds (h.item a)) (hb : s.Holds (h.item b)) :
    a = b ↔ h.text a = h.text b := by
  refine ⟨congrArg h.text, fun htext => ?_⟩
  rw [Holds, Lawful.key_item] at ha hb
  rw [htext, hb] at ha
  exact (Lawful.item_inj (Option.some.inj ha)).symm

/-- The row of a pooled entry decides which one it is. -/
theorem row_eq_iff (hs : s.Sound) {a b : ε} (ha : s.Holds (h.item a)) (hb : s.Holds (h.item b)) :
    HasRow.row a = HasRow.row b ↔ h.text a = h.text b := by
  rw [← h.eq_iff ha hb]
  refine ⟨fun hrow => ?_, congrArg HasRow.row⟩
  rw [Holds, Lawful.key_item, h.find?_eq_some_item_iff] at ha hb
  exact (Prod.mk.inj ((Lawful.canonical_pool hs.canonical).eq_of_row_eq ha hb hrow)).2

theorem sameEntry_iff (hs : s.Sound) {a b : ε} (ha : s.Holds (h.item a))
    (hb : s.Holds (h.item b)) : sameEntry a b = true ↔ h.text a = h.text b := by
  rw [sameEntry, beq_iff_eq, h.row_eq_iff hs ha hb]

theorem mem_entries_iff (hs : s.Sound) {e : ε} :
    e ∈ (h.pool s).entries ↔ s.Holds (h.item e) := by
  have hcanonical := Lawful.canonical_pool (h := h) hs.canonical
  rw [Pool.mem_entries_iff, Holds, Lawful.key_item, h.find?_eq_some_item_iff]
  constructor
  · rintro ⟨k, hk⟩
    have hfind := (Pool.find?_eq_some_iff hcanonical).mpr hk
    have hkey := hs.keyed ((h.find?_eq_some_item_iff).mpr hfind)
    rw [Lawful.key_item] at hkey
    rw [Lawful.key_inj hkey]
    exact hfind
  · exact fun he => ⟨_, (Pool.find?_eq_some_iff hcanonical).mp he⟩

theorem entries_nodup (hs : s.Sound) : (h.pool s).entries.Nodup :=
  (Lawful.canonical_pool hs.canonical).entries_nodup

theorem mem_sortedBy_iff (hs : s.Sound) (cmp : ε → ε → Ordering) {e : ε} :
    e ∈ (h.pool s).sortedBy cmp ↔ s.Holds (h.item e) := by
  rw [Pool.sortedBy, Sorted.mem_sort, h.mem_entries_iff hs]

theorem sortedBy_nodup (hs : s.Sound) (cmp : ε → ε → Ordering) :
    ((h.pool s).sortedBy cmp).Nodup :=
  (Sorted.sort_perm cmp _).nodup_iff.mpr (h.entries_nodup hs)

/-! ## Adding an entry -/

def insert (s : Session) (k : κ) (make : Nat → ε) : ε × Session :=
  let (entry, pool) := (h.pool s).insert k make
  (entry, h.setPool s pool)

abbrev inserted (s : Session) (k : κ) (make : Nat → ε) : Session :=
  (h.insert s k make).2

theorem find?_inserted (k : κ) (make : Nat → ε) (k' : Key) :
    (h.inserted s k make).find? k' =
      if k' = h.key k then some (h.item (h.insert s k make).1) else s.find? k' := by
  show (h.setPool s ((h.pool s).insert k make).2).find? k' = _
  by_cases hk : ∃ l, k' = h.key l
  · obtain ⟨l, rfl⟩ := hk
    rw [find?_setPool_key, Pool.find?_insert]
    by_cases hl : l = k
    · subst hl
      simp only [if_true]
      rfl
    · rw [if_neg hl, if_neg fun heq => hl (Lawful.key_inj heq), Lawful.find?_key]
  · rw [Lawful.find?_setPool_of_ne s _ fun l hl => hk ⟨l, hl⟩, if_neg fun heq => hk ⟨k, heq⟩]

theorem grows_inserted {k : κ} {make : Nat → ε} (hk : (h.pool s).find? k = none) :
    s.Grows (h.inserted s k make) := by
  intro k' i hi
  rw [find?_inserted, if_neg]
  · exact hi
  · rintro rfl
    rw [(h.find?_eq_none_iff).mpr hk] at hi
    cases hi

theorem has_inserted_iff {k : κ} {make : Nat → ε} (k' : Key) :
    (h.inserted s k make).Has k' ↔ s.Has k' ∨ k' = h.key k := by
  rw [Has, find?_inserted]
  split
  · next heq => simp [heq]
  · next hne => simp [hne, Has]

theorem after_inserted {k : κ} {make : Nat → ε} (hk : (h.pool s).find? k = none) :
    s.After [.put (h.key k)] (h.inserted s k make) where
  config := Lawful.config_setPool s _
  grows := h.grows_inserted hk
  has k' := by simp [has_inserted_iff]
  classes := ⟨[], congrArg ClassPool.items (Lawful.classes_setPool (h := h) s _), rfl⟩
  sealedOrder := congrArg ClassPool.sealedOrder (Lawful.classes_setPool (h := h) s _)
  notes := by
    rw [show (h.inserted s k make).diagnostics = s.diagnostics from
      Lawful.diagnostics_setPool s _]
    simp [Event.note?]

/-- A new entry keeps the session sound if its key was checked and its parts are there. -/
theorem sound_inserted (hs : s.Sound) {k : κ} {make : Nat → ε}
    (hk : (h.pool s).find? k = none) (hready : h.Ready s k make)
    (hparts : s.Settled (Plan.parts (h.key k))) : (h.inserted s k make).Sound := by
  have hgrows : s.Grows (h.inserted s k make) := h.grows_inserted hk
  have hclasses : (h.inserted s k make).classes = s.classes := Lawful.classes_setPool s _
  obtain ⟨hrow, htext, hfits, hitems⟩ := hready (h.pool s).slots.size
  have hnew : (h.inserted s k make).find? (h.key k) =
      some (h.item (make (h.pool s).slots.size)) := by
    rw [find?_inserted, if_pos rfl]
    rfl
  exact {
    canonical :=
      Lawful.canonical_setPool hs.canonical
        ((Lawful.canonical_pool hs.canonical).insert hk fun row => (hready row).1)
    keyed := by
      intro k' i hi
      by_cases hkey : k' = h.key k
      · subst hkey
        rw [hnew] at hi
        injection hi with hi
        rw [← hi, Lawful.key_item, htext]
      · rw [find?_inserted, if_neg hkey] at hi
        exact hs.keyed hi
    closed := by
      intro k' i hi
      by_cases hkey : k' = h.key k
      · subst hkey
        rw [hnew] at hi
        injection hi with hi
        rw [← hi, Lawful.items_item]
        intro j hj
        rcases hitems j hj with rfl | hj
        · rw [Holds, Lawful.key_item, htext]
          exact hnew
        · exact hgrows.holds hj
      · rw [find?_inserted, if_neg hkey] at hi
        exact hgrows.holdsAll (hs.closed hi)
    fits := by
      intro k' i hi
      by_cases hkey : k' = h.key k
      · subst hkey
        rw [hnew] at hi
        injection hi with hi
        rwa [← hi]
      · rw [find?_inserted, if_neg hkey] at hi
        exact hs.fits hi
    settled := by
      intro k' hk'
      rcases (h.has_inserted_iff k').mp hk' with hk' | rfl
      · exact (hs.settled hk').mono hgrows
      · exact settled_key (hparts.mono hgrows) ((h.has_inserted_iff _).mpr (.inr rfl))
    classReads := by
      rw [hclasses]
      exact fun c hc => (hs.classReads c hc).mono hgrows
    classTypes := by
      rw [hclasses]
      exact hs.classTypes
    sealedOrder := by
      rw [hclasses]
      exact hs.sealedOrder
  }

/-! ## Looking up first -/

/-- The entry of a key; a new one is made after the parts of the key. -/
def intern (k : κ) (parts : Build (Nat → ε)) : Build ε := do
  match (h.pool (← get)).find? k with
  | some entry => return entry
  | none =>
      let make ← parts
      modifyGet fun st => h.insert st k make

omit [HasRow ε] [Pooled ε κ] [h.Lawful] in
/-- A key that is in its pool is answered by its entry, and nothing changes. -/
theorem run_intern_of_find? {k : κ} {e : ε} (hfind : (h.pool s).find? k = some e)
    (parts : Build (Nat → ε)) : s.run (h.intern k parts) = (.ok e, s) := by
  rw [intern, run_bind, run_get]
  show s.run (match (h.pool s).find? k with | some entry => _ | none => _) = _
  rw [hfind]
  rfl

/-- Looking up what a pooled entry reads back to gives the entry and changes nothing. -/
theorem run_intern_of_holds {e : ε} (he : s.Holds (h.item e)) (parts : Build (Nat → ε)) :
    s.run (h.intern (h.text e) parts) = (.ok e, s) := by
  rw [Holds, Lawful.key_item, h.find?_eq_some_item_iff] at he
  exact h.run_intern_of_find? he parts

omit [HasRow ε] [Pooled ε κ] [h.Lawful] in
/-- A key that is not in its pool is added after its parts. -/
theorem run_intern_of_find?_eq_none {k : κ} (hfind : (h.pool s).find? k = none)
    (parts : Build (Nat → ε)) : s.run (h.intern k parts) =
      s.run (parts >>= fun make => modifyGet fun st => h.insert st k make) := by
  rw [intern, run_bind, run_get]
  show s.run (match (h.pool s).find? k with | some entry => _ | none => _) = _
  rw [hfind]

/-- Whether the key is found or added makes no difference to the plan. -/
theorem builds_intern {k : κ} {parts : Build (Nat → ε)}
    (hparts : s.Follows parts (Plan.parts (h.key k)) fun t make => h.Ready t k make) :
    s.Builds (h.intern k parts) (Plan.key (h.key k)) k := by
  intro hs
  cases hfind : (h.pool s).find? k with
  | some entry =>
      -- Nothing runs, but the plan would neither fail nor put in anything new.
      have hsettled := hs.settled ⟨_, (h.find?_eq_some_item_iff).mpr hfind⟩
      exact ⟨s, hs, After.of_settled hsettled, .inl ⟨entry, h.run_intern_of_find? hfind parts,
        Plan.succeeds_iff.mp hsettled.1, h.reads_of_find? hs hfind⟩⟩
  | none =>
      have hrun := h.run_intern_of_find?_eq_none hfind parts
      obtain ⟨t, ht, hlog, ⟨make, hmake, hp, hready⟩ | ⟨e, he, hp⟩⟩ := hparts hs
      · -- The parts stand below the key, so that it is still not there.
        have hk : (h.pool t).find? k = none := by
          rw [← h.find?_eq_none_iff]
          by_contra hne
          obtain ⟨i, hi⟩ := Option.ne_none_iff_exists'.mp hne
          rcases (hlog.has (h.key k)).mp ⟨i, hi⟩ with ⟨j, hj⟩ | hput
          · rw [(h.find?_eq_none_iff).mpr hfind] at hj
            cases hj
          · exact Plan.put_notMem_parts _ hput
        have hsettled : t.Settled (Plan.parts (h.key k)) := by
          refine ⟨Plan.succeeds_iff.mpr hp, fun e he => ?_⟩
          obtain ⟨k', rfl⟩ := (Plan.Below.parts_lt (h.key k)).exists_put he
          exact ⟨k', rfl, (hlog.has k').mpr (.inr he)⟩
        have hsound := h.sound_inserted ht hk hready hsettled
        refine ⟨h.inserted t k make, hsound, ?_, .inl ⟨(h.insert t k make).1, ?_, ?_, ?_⟩⟩
        · rw [Plan.key, Plan.adding_of_ok hp]
          exact hlog.trans (h.after_inserted hk)
        · rw [hrun, run_bind, hmake]
          rfl
        · rw [Plan.key, Plan.adding_of_ok hp]
        · refine h.reads_of_find? hsound ?_
          rw [← h.find?_eq_some_item_iff, find?_inserted, if_pos rfl]
      · refine ⟨t, ht, ?_, .inr ⟨e, ?_, ?_⟩⟩
        · rw [Plan.key, Plan.adding_of_error hp]
          exact hlog
        · rw [hrun, run_bind, he]
        · rw [Plan.key, Plan.adding_of_error hp]

end Shelf

end DexPools
