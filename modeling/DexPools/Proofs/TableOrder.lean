import DexPools.Proofs.Reachable

/-!
# The sorted tables are sorted by index

A session sorts each table by what the entries are named by, text after text. A file orders the
same table by numbers: a type by the index of its descriptor, a field by those of its class, its
name and its type. The two agree because an index is a position in a sorted table: where no two
entries compare equal, positions compare as entries do, and the entries that an entry is made of
are pooled themselves.
-/

namespace DexPools

open Std Text

/-- In a list that ascends strictly, positions compare as elements do. -/
theorem Sorted.compare_idxOf {α : Type} [DecidableEq α] {cmp : α → α → Ordering} [TransCmp cmp]
    {view : List α} (h : view.Pairwise fun a b => cmp a b = .lt) {a b : α} (ha : a ∈ view)
    (hb : b ∈ view) : compare (view.idxOf a) (view.idxOf b) = cmp a b := by
  -- Two elements of the list stand in one of three ways, of which two are mirror images.
  have hlt : ∀ {a b : α}, a ∈ view → b ∈ view → view.idxOf a < view.idxOf b → cmp a b = .lt := by
    intro a b ha hb hab
    have hget := List.pairwise_iff_getElem.mp h _ _ (List.idxOf_lt_length_iff.mpr ha)
      (List.idxOf_lt_length_iff.mpr hb) hab
    simpa using hget
  rcases Nat.lt_trichotomy (view.idxOf a) (view.idxOf b) with hab | hab | hab
  · rw [hlt ha hb hab, Nat.compare_eq_lt.mpr hab]
  · have heq : a = b := (List.idxOf_inj ha).mp hab
    subst heq
    rw [@ReflCmp.compare_self _ cmp, Nat.compare_eq_eq.mpr rfl]
  · rw [@OrientedCmp.eq_swap _ cmp, hlt hb ha hab, Nat.compare_eq_gt.mpr hab]
    rfl

theorem compareLex_eq_lt_iff {as bs : List Nat} :
    List.compareLex compare as bs = .lt ↔ as < bs :=
  compareLex_lt_iff fun _ _ => Nat.compare_eq_lt

/-! ## Positions -/

namespace Shelf

variable {κ ε ς : Type} [DecidableEq κ] [SlotKind ς] [HasRow ε] [Pooled ε κ]
  (h : Shelf κ ε ς) [h.Lawful] {s : Session} (cmp : ε → ε → Ordering) [TransCmp cmp]

/-- A sorted view ascends strictly if the comparison tells texts apart. -/
theorem sortedBy_strict (hs : s.Sound) (hcmp : ∀ a b, cmp a b = .eq → h.text a = h.text b) :
    ((h.pool s).sortedBy cmp).Pairwise fun a b => cmp a b = .lt := by
  refine Sorted.sort_strict (List.Pairwise.imp_of_mem ?_ (h.entries_nodup hs))
  intro a b ha hb hne heq
  have ha' := (h.mem_entries_iff hs).mp ha
  have hb' := (h.mem_entries_iff hs).mp hb
  exact hne ((h.eq_iff ha' hb').mpr (hcmp a b heq))

theorem compare_idxOf [DecidableEq ε] (hs : s.Sound)
    (hcmp : ∀ a b, cmp a b = .eq → h.text a = h.text b) {a b : ε} (ha : s.Holds (h.item a))
    (hb : s.Holds (h.item b)) :
    compare (((h.pool s).sortedBy cmp).idxOf a) (((h.pool s).sortedBy cmp).idxOf b) = cmp a b :=
  Sorted.compare_idxOf (h.sortedBy_strict cmp hs hcmp) ((h.mem_sortedBy_iff hs cmp).mpr ha)
    ((h.mem_sortedBy_iff hs cmp).mpr hb)

end Shelf

namespace Session

def stringIndex (s : Session) (e : StringEntry) : Nat :=
  s.sortedStrings.idxOf e

def typeIndex (s : Session) (e : TypeEntry) : Nat :=
  s.sortedTypes.idxOf e

def protoIndex (s : Session) (e : ProtoEntry) : Nat :=
  s.sortedProtos.idxOf e

def fieldIndex (s : Session) (e : FieldEntry) : Nat :=
  s.sortedFields.idxOf e

def methodIndex (s : Session) (e : MethodEntry) : Nat :=
  s.sortedMethods.idxOf e

variable {s : Session}

/-! ## What the parts of a pooled entry are -/

theorem Sound.holds_descriptor (hs : s.Sound) {e : TypeEntry} (h : s.Holds (.type e)) :
    s.Holds (.string e.descriptor) :=
  hs.closed h _ (List.mem_cons_of_mem _ List.mem_cons_self)

theorem Sound.holds_types (hs : s.Sound) {e : TypeListEntry} (h : s.Holds (.typeList e)) :
    ∀ t ∈ e.types, s.Holds (.type t) :=
  fun t ht => hs.closed h _ (List.mem_cons_of_mem _ (List.mem_flatMap.mpr
    ⟨t, ht, List.mem_cons_self⟩))

theorem Sound.holds_proto (hs : s.Sound) {e : ProtoEntry} (h : s.Holds (.proto e)) :
    s.Holds (.typeList e.params) ∧ s.Holds (.type e.returnType) := by
  have hitems : s.HoldsAll e.items := hs.closed h
  simp only [ProtoEntry.items, TypeListEntry.items, TypeEntry.items, holdsAll_cons,
    holdsAll_append] at hitems
  exact ⟨hitems.2.1.2.1, hitems.2.2.1⟩

theorem Sound.holds_field (hs : s.Sound) {e : FieldEntry} (h : s.Holds (.field e)) :
    s.Holds (.type e.definingClass) ∧ s.Holds (.string e.name) ∧ s.Holds (.type e.type) := by
  have hitems : s.HoldsAll e.items := hs.closed h
  simp only [FieldEntry.items, TypeEntry.items, StringEntry.items, holdsAll_cons,
    holdsAll_append] at hitems
  exact ⟨hitems.2.1.1.1, hitems.2.1.2.1, hitems.2.2.1⟩

theorem Sound.holds_method (hs : s.Sound) {e : MethodEntry} (h : s.Holds (.method e)) :
    s.Holds (.type e.definingClass) ∧ s.Holds (.string e.name) ∧ s.Holds (.proto e.proto) := by
  have hitems : s.HoldsAll e.items := hs.closed h
  simp only [MethodEntry.items, TypeEntry.items, StringEntry.items, ProtoEntry.items,
    holdsAll_cons, holdsAll_append] at hitems
  exact ⟨hitems.2.1.1.1, hitems.2.1.2.1, hitems.2.2.1⟩

/-! ## Indices compare as entries do -/

theorem compare_stringIndex (hs : s.Sound) {a b : StringEntry} (ha : s.Holds (.string a))
    (hb : s.Holds (.string b)) :
    compare (s.stringIndex a) (s.stringIndex b) = compareUnits a.text b.text :=
  Shelf.strings.compare_idxOf StringEntry.compare hs
    (fun _ _ h => LawfulEqCmp.eq_of_compare h) ha hb

theorem compare_typeEntry (hs : s.Sound) {a b : TypeEntry} (ha : s.Holds (.type a))
    (hb : s.Holds (.type b)) : a.compare b = compare (s.typeIndex a) (s.typeIndex b) :=
  (Shelf.types.compare_idxOf TypeEntry.compare hs
    (fun _ _ h => LawfulEqCmp.eq_of_compare h) ha hb).symm

theorem compare_protoEntry (hs : s.Sound) {a b : ProtoEntry} (ha : s.Holds (.proto a))
    (hb : s.Holds (.proto b)) : a.compare b = compare (s.protoIndex a) (s.protoIndex b) := by
  refine (Shelf.protos.compare_idxOf ProtoEntry.compare hs (fun a b h => ?_) ha hb).symm
  rw [ProtoEntry.compare_eq] at h
  exact LawfulEqCmp.eq_of_compare h

theorem compare_typeIndex (hs : s.Sound) {a b : TypeEntry} (ha : s.Holds (.type a))
    (hb : s.Holds (.type b)) :
    compare (s.typeIndex a) (s.typeIndex b) =
      compare (s.stringIndex a.descriptor) (s.stringIndex b.descriptor) := by
  rw [compare_stringIndex hs (hs.holds_descriptor ha) (hs.holds_descriptor hb),
    ← compare_typeEntry hs ha hb]
  rfl

/-- Lists of pooled types compare as the lists of their indices do. -/
theorem compare_typeIndices (hs : s.Sound) :
    ∀ {as bs : List TypeEntry}, (∀ a ∈ as, s.Holds (.type a)) → (∀ b ∈ bs, s.Holds (.type b)) →
      List.compareLex TypeEntry.compare as bs =
        List.compareLex compare (as.map s.typeIndex) (bs.map s.typeIndex)
  | [], [], _, _ => rfl
  | [], _ :: _, _, _ => rfl
  | _ :: _, [], _, _ => rfl
  | a :: as, b :: bs, ha, hb => by
      obtain ⟨ha, has⟩ := List.forall_mem_cons.mp ha
      obtain ⟨hb, hbs⟩ := List.forall_mem_cons.mp hb
      rw [List.map_cons, List.map_cons, List.compareLex_cons_cons, List.compareLex_cons_cons,
        compare_typeIndices hs has hbs, compare_typeEntry hs ha hb]

theorem compare_protoIndex (hs : s.Sound) {a b : ProtoEntry} (ha : s.Holds (.proto a))
    (hb : s.Holds (.proto b)) :
    compare (s.protoIndex a) (s.protoIndex b) =
      (compare (s.typeIndex a.returnType) (s.typeIndex b.returnType)).then
        (List.compareLex compare (a.params.types.map s.typeIndex)
          (b.params.types.map s.typeIndex)) := by
  obtain ⟨haparams, hareturn⟩ := hs.holds_proto ha
  obtain ⟨hbparams, hbreturn⟩ := hs.holds_proto hb
  rw [← compare_typeEntry hs hareturn hbreturn,
    ← compare_typeIndices hs (hs.holds_types haparams) (hs.holds_types hbparams)]
  exact (compare_protoEntry hs ha hb).symm

theorem compare_fieldIndex (hs : s.Sound) {a b : FieldEntry} (ha : s.Holds (.field a))
    (hb : s.Holds (.field b)) :
    compare (s.fieldIndex a) (s.fieldIndex b) =
      (compare (s.typeIndex a.definingClass) (s.typeIndex b.definingClass)).then
        ((compare (s.stringIndex a.name) (s.stringIndex b.name)).then
          (compare (s.typeIndex a.type) (s.typeIndex b.type))) := by
  obtain ⟨haclass, haname, hatype⟩ := hs.holds_field ha
  obtain ⟨hbclass, hbname, hbtype⟩ := hs.holds_field hb
  rw [← compare_typeEntry hs haclass hbclass, compare_stringIndex hs haname hbname,
    ← compare_typeEntry hs hatype hbtype]
  refine Shelf.fields.compare_idxOf FieldEntry.compare hs (fun a b h => ?_) ha hb
  rw [FieldEntry.compare_eq] at h
  exact LawfulEqCmp.eq_of_compare h

theorem compare_methodIndex (hs : s.Sound) {a b : MethodEntry} (ha : s.Holds (.method a))
    (hb : s.Holds (.method b)) :
    compare (s.methodIndex a) (s.methodIndex b) =
      (compare (s.typeIndex a.definingClass) (s.typeIndex b.definingClass)).then
        ((compare (s.stringIndex a.name) (s.stringIndex b.name)).then
          (compare (s.protoIndex a.proto) (s.protoIndex b.proto))) := by
  obtain ⟨haclass, haname, haproto⟩ := hs.holds_method ha
  obtain ⟨hbclass, hbname, hbproto⟩ := hs.holds_method hb
  rw [← compare_typeEntry hs haclass hbclass, compare_stringIndex hs haname hbname,
    ← compare_protoEntry hs haproto hbproto]
  refine Shelf.methods.compare_idxOf MethodEntry.compare hs (fun a b h => ?_) ha hb
  rw [MethodEntry.compare_eq] at h
  exact LawfulEqCmp.eq_of_compare h

/-! ## The tables of a reachable session -/

/-- Whether every table lists its pool and is in the order of a file. The numbers of a table are
the positions in it; those of pairs and of lists are compared lexicographically, where a proper
initial part of a list stands before the whole. -/
structure TablesOrdered (s : Session) : Prop where
  listsStrings : s.sortedStrings.Perm s.strings.entries ∧ s.sortedStrings.Nodup
  listsTypes : s.sortedTypes.Perm s.types.entries ∧ s.sortedTypes.Nodup
  listsProtos : s.sortedProtos.Perm s.protos.entries ∧ s.sortedProtos.Nodup
  listsFields : s.sortedFields.Perm s.fields.entries ∧ s.sortedFields.Nodup
  listsMethods : s.sortedMethods.Perm s.methods.entries ∧ s.sortedMethods.Nodup
  strings : ∀ a ∈ s.strings.entries, ∀ b ∈ s.strings.entries,
    s.stringIndex a < s.stringIndex b ↔ unitsOf a.text < unitsOf b.text
  types : ∀ a ∈ s.types.entries, ∀ b ∈ s.types.entries,
    s.typeIndex a < s.typeIndex b ↔ s.stringIndex a.descriptor < s.stringIndex b.descriptor
  protos : ∀ a ∈ s.protos.entries, ∀ b ∈ s.protos.entries,
    s.protoIndex a < s.protoIndex b ↔
      Prod.Lex (· < ·) (· < ·) (s.typeIndex a.returnType, a.params.types.map s.typeIndex)
        (s.typeIndex b.returnType, b.params.types.map s.typeIndex)
  fields : ∀ a ∈ s.fields.entries, ∀ b ∈ s.fields.entries,
    s.fieldIndex a < s.fieldIndex b ↔
      Prod.Lex (· < ·) (Prod.Lex (· < ·) (· < ·))
        (s.typeIndex a.definingClass, s.stringIndex a.name, s.typeIndex a.type)
        (s.typeIndex b.definingClass, s.stringIndex b.name, s.typeIndex b.type)
  methods : ∀ a ∈ s.methods.entries, ∀ b ∈ s.methods.entries,
    s.methodIndex a < s.methodIndex b ↔
      Prod.Lex (· < ·) (Prod.Lex (· < ·) (· < ·))
        (s.typeIndex a.definingClass, s.stringIndex a.name, s.protoIndex a.proto)
        (s.typeIndex b.definingClass, s.stringIndex b.name, s.protoIndex b.proto)

/-- In every reachable session, the tables sorted by text are sorted by index. -/
theorem tablesOrdered (hs : s.Reachable) : s.TablesOrdered := by
  have hsound := hs.sound
  have hlex : ∀ {m n m' n' m'' n'' : Nat}, ((compare m n).then
      ((compare m' n').then (compare m'' n''))) = .lt ↔
        Prod.Lex (· < ·) (Prod.Lex (· < ·) (· < ·)) (m, m', m'') (n, n', n'') := by
    intro m n m' n' m'' n''
    simp only [Ordering.then_eq_lt, Nat.compare_eq_lt, Nat.compare_eq_eq, Prod.lex_def]
  exact {
    listsStrings := ⟨Sorted.sort_perm _ _, Shelf.strings.sortedBy_nodup hsound _⟩
    listsTypes := ⟨Sorted.sort_perm _ _, Shelf.types.sortedBy_nodup hsound _⟩
    listsProtos := ⟨Sorted.sort_perm _ _, Shelf.protos.sortedBy_nodup hsound _⟩
    listsFields := ⟨Sorted.sort_perm _ _, Shelf.fields.sortedBy_nodup hsound _⟩
    listsMethods := ⟨Sorted.sort_perm _ _, Shelf.methods.sortedBy_nodup hsound _⟩
    strings := fun a ha b hb => by
      rw [← Nat.compare_eq_lt, compare_stringIndex hsound
        ((Shelf.strings.mem_entries_iff hsound).mp ha)
        ((Shelf.strings.mem_entries_iff hsound).mp hb)]
      exact compareLex_eq_lt_iff
    types := fun a ha b hb => by
      rw [← Nat.compare_eq_lt, compare_typeIndex hsound
        ((Shelf.types.mem_entries_iff hsound).mp ha)
        ((Shelf.types.mem_entries_iff hsound).mp hb), Nat.compare_eq_lt]
    protos := fun a ha b hb => by
      rw [← Nat.compare_eq_lt, compare_protoIndex hsound
        ((Shelf.protos.mem_entries_iff hsound).mp ha)
        ((Shelf.protos.mem_entries_iff hsound).mp hb)]
      simp only [Ordering.then_eq_lt, Nat.compare_eq_lt, Nat.compare_eq_eq, Prod.lex_def,
        compareLex_eq_lt_iff]
    fields := fun a ha b hb => by
      rw [← Nat.compare_eq_lt, compare_fieldIndex hsound
        ((Shelf.fields.mem_entries_iff hsound).mp ha)
        ((Shelf.fields.mem_entries_iff hsound).mp hb)]
      exact hlex
    methods := fun a ha b hb => by
      rw [← Nat.compare_eq_lt, compare_methodIndex hsound
        ((Shelf.methods.mem_entries_iff hsound).mp ha)
        ((Shelf.methods.mem_entries_iff hsound).mp hb)]
      exact hlex
  }

/-- The tables of a session with one class. -/
theorem tablesOrdered_sample : Session.sample.TablesOrdered :=
  tablesOrdered Reachable.sample

end Session

end DexPools
