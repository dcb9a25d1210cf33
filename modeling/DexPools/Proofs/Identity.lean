import DexPools.Proofs.Runs
import Mathlib.Tactic.TFAE

/-!
# One entry for each key, for good

A session hands out the entry of a key once and hands out that entry ever after. A later session
extends an earlier one, so the entry is still there with its parts, its row and its numbers, and
looking it up stops at it. Two entries of one pool are therefore the same item exactly if their
keys are, and it does not matter whether they are compared as items, by what they name, or in the
order of their table. Builders rely on it where they ask whether a member names its class.
-/

namespace DexPools

open Std

/-! ## Asking for a key -/

/-- What a session is asked for to get the entry of a key. -/
def Key.request : Key → Request
  | string s => .string s
  | type d => .type d
  | typeList ds => .typeList ds
  | proto p => .proto p
  | field f => .field f
  | method m => .method m
  | Key.annotation a => Request.annotation a
  | annotationSet s => .annotationSet s

def Item.answer : Item → Answer
  | string e => .string e
  | type e => .type e
  | typeList e => .typeList e
  | proto e => .proto e
  | field e => .field e
  | method e => .method e
  | Item.annotation e => Answer.annotation e
  | annotationSet e => .annotationSet e

theorem Item.mem_items (i : Item) : i ∈ i.items := by
  cases i <;> exact List.mem_cons_self

namespace Shelf

open Session

variable {κ ε ς : Type} [SlotKind ς] [HasRow ε] [Pooled ε κ] [DecidableEq κ]
  (h : Shelf κ ε ς) [h.Lawful] {s t : Session} {k : κ} {e : ε} {op : Build ε}

theorem find?_of_reads (hreads : s.Reads e k) : s.find? (h.key k) = some (h.item e) := by
  have hmem : h.item e ∈ Pooled.items e := by
    rw [← Lawful.items_item (h := h)]
    exact Item.mem_items _
  have hheld : s.Holds (h.item e) := hreads.holdsAll _ hmem
  rwa [Holds, Lawful.key_item, (Lawful.reads_iff e k).mp hreads.text] at hheld

omit [HasRow ε] [Pooled ε κ] [h.Lawful] in
/-- An operation that looks up first answers a key of its pool and changes nothing. -/
theorem run_answer {parts : Build (Nat → ε)} (hop : op = h.intern k parts) (make : ε → Answer)
    {i : Item} (hi : ((h.pool s).find? k).map h.item = some i) :
    ∃ e, i = h.item e ∧ s.run (op >>= fun e => pure (make e)) = (.ok (make e), s) := by
  obtain ⟨e, he, rfl⟩ := Option.map_eq_some_iff.mp hi
  refine ⟨e, rfl, ?_⟩
  rw [run_bind, hop, h.run_intern_of_find? he]
  rfl

/-- What is handed out for a key is the entry that its pool holds from then on. -/
theorem find?_of_run {p : Plan Unit} (hop : s.Builds op p k) (hs : s.Sound) (make : ε → Answer)
    {a : Answer} (hrun : s.run (op >>= fun e => pure (make e)) = (.ok a, t)) :
    ∃ e, a = make e ∧ t.find? (h.key k) = some (h.item e) := by
  obtain ⟨e, hop', rfl⟩ := run_map_eq_ok_iff.mp hrun
  obtain ⟨-, -, -, hreads⟩ := hop.of_run hs hop'
  exact ⟨e, rfl, h.find?_of_reads hreads⟩

end Shelf

namespace Session

variable {s t : Session} {k : Key} {i : Item}

/-- Asking for a key that has an entry gives the entry and changes nothing. -/
theorem run_ask_of_find? (hi : s.find? k = some i) :
    s.run (ask k.request) = (.ok i.answer, s) := by
  cases k with
  | string t =>
      obtain ⟨e, rfl, hrun⟩ := Shelf.strings.run_answer (internString_eq t) .string hi
      exact hrun
  | type d =>
      obtain ⟨e, rfl, hrun⟩ := Shelf.types.run_answer (internType_eq d) .type hi
      exact hrun
  | typeList ds =>
      obtain ⟨e, rfl, hrun⟩ := Shelf.typeLists.run_answer (internTypeList_eq ds) .typeList hi
      exact hrun
  | proto p =>
      obtain ⟨e, rfl, hrun⟩ := Shelf.protos.run_answer (internProto_eq p) .proto hi
      exact hrun
  | field f =>
      obtain ⟨e, rfl, hrun⟩ := Shelf.fields.run_answer (internField_eq f) .field hi
      exact hrun
  | method m =>
      obtain ⟨e, rfl, hrun⟩ := Shelf.methods.run_answer (internMethod_eq m) .method hi
      exact hrun
  | annotation a =>
      obtain ⟨e, rfl, hrun⟩ :=
        Shelf.annotations.run_answer (internAnnotation_eq a) Answer.annotation hi
      exact hrun
  | annotationSet x =>
      obtain ⟨e, rfl, hrun⟩ :=
        Shelf.annotationSets.run_answer (internAnnotationSet_eq x) .annotationSet hi
      exact hrun

/-- What a session answers for a key is the entry that it holds from then on. -/
theorem find?_of_run_ask (hs : s.Sound) {a : Answer}
    (hrun : s.run (ask k.request) = (.ok a, t)) : ∃ i, a = i.answer ∧ t.find? k = some i := by
  cases k with
  | string x =>
      obtain ⟨e, rfl, he⟩ := Shelf.strings.find?_of_run (builds_internString x) hs .string hrun
      exact ⟨_, rfl, he⟩
  | type d =>
      obtain ⟨e, rfl, he⟩ := Shelf.types.find?_of_run (builds_internType d) hs .type hrun
      exact ⟨_, rfl, he⟩
  | typeList ds =>
      obtain ⟨e, rfl, he⟩ :=
        Shelf.typeLists.find?_of_run (builds_internTypeList ds) hs .typeList hrun
      exact ⟨_, rfl, he⟩
  | proto p =>
      obtain ⟨e, rfl, he⟩ := Shelf.protos.find?_of_run (builds_internProto p) hs .proto hrun
      exact ⟨_, rfl, he⟩
  | field f =>
      obtain ⟨e, rfl, he⟩ := Shelf.fields.find?_of_run (builds_internField f) hs .field hrun
      exact ⟨_, rfl, he⟩
  | method m =>
      obtain ⟨e, rfl, he⟩ := Shelf.methods.find?_of_run (builds_internMethod m) hs .method hrun
      exact ⟨_, rfl, he⟩
  | annotation x =>
      obtain ⟨e, rfl, he⟩ :=
        Shelf.annotations.find?_of_run (Session.builds_internAnnotation x) hs Answer.annotation hrun
      exact ⟨_, rfl, he⟩
  | annotationSet x =>
      obtain ⟨e, rfl, he⟩ :=
        Shelf.annotationSets.find?_of_run (builds_internAnnotationSet x) hs .annotationSet hrun
      exact ⟨_, rfl, he⟩

end Session

/-! ## Telling entries apart -/

namespace Shelf

open Session

variable {κ ε ς : Type} [SlotKind ς] [HasRow ε] (h : Shelf κ ε ς) {s : Session}

/-- Whether entries of a pool are one item exactly if they name the same, however that is told:
by what they are made of, by their rows, by comparing them, or by their keys. -/
def Identifies (cmp : ε → ε → Ordering) (s : Session) : Prop :=
  ∀ a b, s.Holds (h.item a) → s.Holds (h.item b) →
    List.TFAE [a = b, sameEntry a b = true, (cmp a b == .eq) = true, cmp a b = .eq,
      h.text a = h.text b]

variable [Pooled ε κ] [DecidableEq κ] [h.Lawful] {a b : ε}

theorem identifiesByText (hs : s.Sound) (ha : s.Holds (h.item a)) (hb : s.Holds (h.item b)) :
    List.TFAE [a = b, sameEntry a b = true, h.text a = h.text b] := by
  tfae_have 1 ↔ 3 := h.eq_iff ha hb
  tfae_have 2 ↔ 3 := h.sameEntry_iff hs ha hb
  tfae_finish

theorem identifies {cmp : ε → ε → Ordering} (cmp' : κ → κ → Ordering) [LawfulEqCmp cmp']
    (hcmp : ∀ a b, cmp a b = cmp' (h.text a) (h.text b)) (hs : s.Sound) : h.Identifies cmp s := by
  intro a b ha hb
  have htext := h.identifiesByText hs ha hb
  tfae_have 1 ↔ 2 := htext.out 0 1
  tfae_have 2 ↔ 5 := htext.out 1 2
  tfae_have 3 ↔ 4 := beq_iff_eq
  tfae_have 4 ↔ 5 := by
    rw [hcmp]
    exact LawfulEqCmp.compare_eq_iff_eq
  tfae_finish

omit [Pooled ε κ] [DecidableEq κ] [h.Lawful] in
/-- What holds of the entries of a pool holds of the references to them. -/
theorem Identifies.reference {cmp : ε → ε → Ordering} (hid : h.Identifies cmp s)
    (ha : s.Holds (h.item a)) (hb : s.Holds (h.item b)) {make : ε → PooledReference}
    (hmake : make.Injective) {text : κ → Reference} (htext : text.Injective) :
    List.TFAE [make a = make b, sameEntry a b = true, (cmp a b == .eq) = true,
      text (h.text a) = text (h.text b)] := by
  have hentries := hid a b ha hb
  tfae_have 1 ↔ 2 := hmake.eq_iff.trans (hentries.out 0 1)
  tfae_have 2 ↔ 3 := hentries.out 1 2
  tfae_have 3 ↔ 4 := (hentries.out 2 4).trans htext.eq_iff.symm
  tfae_finish

end Shelf

namespace Session

/-- Whether a session tells its entries apart by their keys, in every pool. Annotations and
annotation sets are not ordered, and what they are is told by reading them back. -/
structure Identifies (s : Session) : Prop where
  strings : Shelf.strings.Identifies StringEntry.compare s
  types : Shelf.types.Identifies TypeEntry.compare s
  typeLists : Shelf.typeLists.Identifies TypeListEntry.compare s
  protos : Shelf.protos.Identifies ProtoEntry.compare s
  fields : Shelf.fields.Identifies FieldEntry.compare s
  methods : Shelf.methods.Identifies MethodEntry.compare s
  annotations : ∀ a b, s.Holds (Item.annotation a) → s.Holds (Item.annotation b) →
    List.TFAE [a = b, sameEntry a b = true, a.readBack = b.readBack]
  annotationSets : ∀ a b, s.Holds (.annotationSet a) → s.Holds (.annotationSet b) →
    List.TFAE [a = b, sameEntry a b = true, a.readBack = b.readBack]
  /-- Operands point at entries of five pools. -/
  references : ∀ a b : PooledReference, s.HoldsAll a.items → s.HoldsAll b.items →
    List.TFAE [a = b, a.isSame b = true, a.agree b = true, a.readBack = b.readBack]

variable {s t : Session}

/-- References of two kinds are neither the same nor do they agree or read back alike. -/
theorem tfae_of_kind_ne {a b : PooledReference} (h : a.kind ≠ b.kind) :
    List.TFAE [a = b, a.isSame b = true, a.agree b = true, a.readBack = b.readBack] := by
  refine List.tfae_of_forall False _ fun p hp => iff_false_intro ?_
  cases a <;> cases b <;> simp_all [PooledReference.kind, PooledReference.isSame,
    PooledReference.agree, PooledReference.readBack]

theorem Sound.identifiesReferences (hs : s.Sound) {a b : PooledReference}
    (ha : s.HoldsAll a.items) (hb : s.HoldsAll b.items) :
    List.TFAE [a = b, a.isSame b = true, a.agree b = true, a.readBack = b.readBack] := by
  cases a with
  | string e =>
      cases b with
      | string e' =>
          have hentries := Shelf.strings.identifies Text.compareUnits (fun _ _ => rfl) hs
          exact hentries.reference _ (ha _ List.mem_cons_self) (hb _ List.mem_cons_self)
            (fun _ _ => PooledReference.string.inj) fun _ _ => Reference.string.inj
      | _ => exact tfae_of_kind_ne nofun
  | type e =>
      cases b with
      | type e' =>
          have hentries := Shelf.types.identifies Text.compareUnits TypeEntry.compare_eq hs
          exact hentries.reference _ (ha _ List.mem_cons_self) (hb _ List.mem_cons_self)
            (fun _ _ => PooledReference.type.inj) fun _ _ => Reference.type.inj
      | _ => exact tfae_of_kind_ne nofun
  | field e =>
      cases b with
      | field e' =>
          have hentries := Shelf.fields.identifies FieldRef.compare FieldEntry.compare_eq hs
          exact hentries.reference _ (ha _ List.mem_cons_self) (hb _ List.mem_cons_self)
            (fun _ _ => PooledReference.field.inj) fun _ _ => Reference.field.inj
      | _ => exact tfae_of_kind_ne nofun
  | method e =>
      cases b with
      | method e' =>
          have hentries := Shelf.methods.identifies MethodRef.compare MethodEntry.compare_eq hs
          exact hentries.reference _ (ha _ List.mem_cons_self) (hb _ List.mem_cons_self)
            (fun _ _ => PooledReference.method.inj) fun _ _ => Reference.method.inj
      | _ => exact tfae_of_kind_ne nofun
  | methodProto e =>
      cases b with
      | methodProto e' =>
          have hentries := Shelf.protos.identifies ProtoRef.compare ProtoEntry.compare_eq hs
          exact hentries.reference _ (ha _ List.mem_cons_self) (hb _ List.mem_cons_self)
            (fun _ _ => PooledReference.methodProto.inj) fun _ _ => Reference.methodProto.inj
      | _ => exact tfae_of_kind_ne nofun

theorem Sound.identifies (hs : s.Sound) : s.Identifies where
  strings := Shelf.strings.identifies Text.compareUnits (fun _ _ => rfl) hs
  types := Shelf.types.identifies Text.compareUnits TypeEntry.compare_eq hs
  typeLists := Shelf.typeLists.identifies Text.compareUnitLists TypeListEntry.compare_eq hs
  protos := Shelf.protos.identifies ProtoRef.compare ProtoEntry.compare_eq hs
  fields := Shelf.fields.identifies FieldRef.compare FieldEntry.compare_eq hs
  methods := Shelf.methods.identifies MethodRef.compare MethodEntry.compare_eq hs
  annotations _ _ ha hb := Shelf.annotations.identifiesByText hs ha hb
  annotationSets _ _ ha hb := Shelf.annotationSets.identifiesByText hs ha hb
  references _ _ ha hb := hs.identifiesReferences ha hb

/-! ## Writing slots -/

/-- Whether all that is read off the entries of a session reads the same in another: every key,
every sorted or written view, the classes and the sizes. -/
structure SameViews (s t : Session) : Prop where
  keys : ∀ k, t.find? k = s.find? k
  strings : t.sortedStrings = s.sortedStrings
  types : t.sortedTypes = s.sortedTypes
  typeLists : t.writtenTypeLists = s.writtenTypeLists
  protos : t.sortedProtos = s.sortedProtos
  fields : t.sortedFields = s.sortedFields
  methods : t.sortedMethods = s.sortedMethods
  annotations : t.orderedAnnotations = s.orderedAnnotations
  annotationSets : t.orderedAnnotationSets = s.orderedAnnotationSets
  classes : t.classes.items = s.classes.items
  classOrder : t.classes.sorted.1 = s.classes.sorted.1
  sealing : t.classes.isSealed = s.classes.isSealed
  sizes : t.sizes = s.sizes

theorem find?_unslotted (s : Session) (k : Key) : s.unslotted.find? k = s.find? k := by
  cases k <;> rfl

theorem sorted_unslotted (s : Session) :
    s.unslotted.classes.sorted.1 = s.classes.sorted.1 := by
  unfold ClassPool.sorted unslotted
  dsimp only
  split <;> rfl

/-- What does not depend on the slots reads the same in sessions that differ in them only. -/
theorem read_eq_of_unslotted_eq {α : Type} (h : t.unslotted = s.unslotted) (read : Session → α)
    (hread : ∀ s, read s.unslotted = read s := by intro; rfl) : read t = read s := by
  rw [← hread t, h, hread]

theorem sameViews_of_unslotted_eq (h : t.unslotted = s.unslotted) : s.SameViews t where
  keys k := read_eq_of_unslotted_eq h (find? · k) fun s => find?_unslotted s k
  strings := read_eq_of_unslotted_eq h sortedStrings
  types := read_eq_of_unslotted_eq h sortedTypes
  typeLists := read_eq_of_unslotted_eq h writtenTypeLists
  protos := read_eq_of_unslotted_eq h sortedProtos
  fields := read_eq_of_unslotted_eq h sortedFields
  methods := read_eq_of_unslotted_eq h sortedMethods
  annotations := read_eq_of_unslotted_eq h orderedAnnotations
  annotationSets := read_eq_of_unslotted_eq h orderedAnnotationSets
  classes := read_eq_of_unslotted_eq h fun s => s.classes.items
  classOrder := read_eq_of_unslotted_eq h (fun s => s.classes.sorted.1) sorted_unslotted
  sealing := read_eq_of_unslotted_eq h fun s => s.classes.isSealed
  sizes := read_eq_of_unslotted_eq h sizes

end Session

theorem Session.unslotted_of_writesSlot {s : Session} {op : Operation}
    (hop : op.writesSlot = true) : (s.run op.act).2.unslotted = s.unslotted :=
  (extends_of_writesSlot hop).2

/-! ## Identity along a run -/

/-- Whether what a session holds is in another one as it was. -/
structure Session.KeptIn (s t : Session) : Prop where
  /-- Nothing left the pools, and no number was changed. -/
  extension : s.Extends t
  /-- The entry of a key is the same item, with its parts and its row. -/
  found : ∀ k i, s.find? k = some i → t.find? k = some i
  /-- Asking for the key gives that entry, and no pool grows. -/
  again : ∀ k i, s.find? k = some i → t.run (ask k.request) = (.ok i.answer, t)
  number : ∀ i n, s.Holds i → Numbered.number s i = .ok n → Numbered.number t i = .ok n
  class? : ∀ d c, s.class? d = some c → t.class? d = some c
  classSlot : ∀ (c : ClassEntry) slot n, s.classes.slots.get c.row slot = .ok n →
    t.classes.slots.get c.row slot = .ok n
  methodSlot : ∀ (m : PooledMethod) slot n, s.classes.methodSlots.get m.row slot = .ok n →
    t.classes.methodSlots.get m.row slot = .ok n

namespace History

open Session

variable {h : History} {ops : List Operation}

theorem Sound.keptIn (hh : h.Sound) (hops : h.OwnsEach ops) :
    h.session.KeptIn (h.steps ops).session := by
  have hextends : h.session.Extends (h.steps ops).session := extends_steps h ops
  have hgrows : h.session.Grows (h.steps ops).session := hh.grows_steps hops
  have hlater : (h.steps ops).Sound := hh.steps hops
  exact {
    extension := hextends
    found := hgrows
    again := fun k i hi => run_ask_of_find? (hgrows k i hi)
    number := fun i n _ hn => hextends.number hn
    class? := by
      intro d c hc
      obtain ⟨hmem, htype⟩ := (class?_eq_some_iff hh.session).mp hc
      exact (class?_eq_some_iff hlater.session).mpr
        ⟨hextends.classes.items.subset hmem, htype⟩
    classSlot := fun c slot n hn => SlotTable.get_eq_ok_iff.mpr
      (hextends.classes.slots _ _ _ (SlotTable.get_eq_ok_iff.mp hn))
    methodSlot := fun m slot n hn => SlotTable.get_eq_ok_iff.mpr
      (hextends.classes.methodSlots _ _ _ (SlotTable.get_eq_ok_iff.mp hn))
  }

/-- Whatever a run does after a history, what the session held is there as it was, and the later
session tells its entries apart by their keys. What it hands out for a key is the entry of the
key. Writing a slot changes nothing that is read off the entries. -/
theorem canonicalIdentity (hh : h.Reachable) (hops : h.OwnsEach ops) :
    h.session.KeptIn (h.steps ops).session ∧ (h.steps ops).session.Identifies ∧
      (∀ k a t, (h.steps ops).session.run (ask k.request) = (.ok a, t) →
        ∃ i, a = i.answer ∧ t.find? k = some i) ∧
      ∀ op : Operation, op.writesSlot = true →
        (h.steps ops).session.SameViews ((h.steps ops).session.run op.act).2 := by
  have hlater : (h.steps ops).session.Sound := (hh.sound.steps hops).session
  refine ⟨hh.sound.keptIn hops, hlater.identifies, fun k a t hrun => ?_, fun op hop => ?_⟩
  · exact find?_of_run_ask hlater hrun
  · exact sameViews_of_unslotted_eq (unslotted_of_writesSlot hop)

/-- A session with one class, in which a string is numbered, a type is refused and the classes
are sealed. -/
theorem canonicalIdentity_sample :
    ∃ ops, ((History.new .strict).step (.ask (.classDef .sample))).OwnsEach ops ∧
      sample.KeptIn
        (((History.new .strict).step (.ask (.classDef .sample))).steps ops).session := by
  have hclass : ((History.new .strict).step (.ask (.classDef .sample))).session = sample :=
    step_ask_session _ _
  have howns : ((History.new .strict).step (.ask (.classDef .sample))).OwnsEach
      [.setNumber (.string ⟨0, "LWorker;"⟩) 7, .ask (.type "L"), .sortedClasses] := by
    refine ⟨?_, trivial, trivial, trivial⟩
    rw [Owns, hclass]
    show sample.find? (.string "LWorker;") = _
    decide +kernel
  have hreachable : ((History.new .strict).step (.ask (.classDef .sample))).Reachable :=
    Reachable.step (.new .strict) trivial
  have hkept := (canonicalIdentity hreachable howns).1
  rw [← hclass]
  exact ⟨_, howns, hkept⟩

end History

end DexPools
