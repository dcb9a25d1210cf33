import DexPools.Proofs.Reachable

/-!
# The order of requests does not matter

A request follows a plan that does not look at the session, unless it asks for a class. A class
looks at the classes, but only for one of its own type and for the seal. So as long as no two
requests ask for classes of one type and nothing seals the classes, every request leaves the log
of its plan and has the outcome of its plan wherever in a run it stands. A permuted run then puts
in the same keys, adds the same classes and notes the same diagnostics, and what is sorted by
text comes out the same.
-/

namespace DexPools

open Std

/-- A request adds no class but the one that it asks for. -/
theorem Request.classType?_of_mem {config : Config} {available : Except Error Unit} {r : Request}
    {c : ClassDef} (h : Event.classDef c ∈ (r.plan config available).log) :
    r.classType? = some c.type := by
  cases r with
  | string s => exact absurd h (Plan.Below.string s).classDef_notMem
  | type d => exact absurd h (Plan.Below.type d).classDef_notMem
  | typeList ds => exact absurd h (Plan.Below.typeList ds).classDef_notMem
  | proto p => exact absurd h (Plan.Below.proto p).classDef_notMem
  | field f => exact absurd h (Plan.Below.field f).classDef_notMem
  | method m => exact absurd h (Plan.Below.method m).classDef_notMem
  | reference r => exact absurd h (Plan.Below.reference r).classDef_notMem
  | value v => exact absurd h (Plan.Below.value v).classDef_notMem
  | annotation a => exact absurd h (Plan.Below.annotation a).classDef_notMem
  | annotationSet x => exact absurd h (Plan.Below.annotationSet x).classDef_notMem
  | instruction i => exact absurd h (Plan.Below.instruction i).classDef_notMem
  | tryBlock t => exact absurd h (Plan.Below.tryBlock t).classDef_notMem
  | debugItem d => exact absurd h (Plan.Below.debugItem d).classDef_notMem
  | body b => exact absurd h (Plan.Below.body _ b).classDef_notMem
  | fieldDef f => exact absurd h (Plan.Below.fieldDef f).classDef_notMem
  | methodDef m => exact absurd h (Plan.Below.methodDef _ m).classDef_notMem
  | classDef c' =>
      rcases Plan.only_classDef config available c' _ h with hlevel | hclass
      · exact absurd hlevel (Nat.lt_irrefl 9)
      · cases hclass
        rfl

/-! ## Runs of requests -/

namespace Request

variable (config : Config)

/-- What a request does where no class stands in its way. -/
def log (r : Request) : List Event :=
  (r.plan config (.ok ())).log

def outcome (r : Request) : Except Error Request :=
  (r.plan config (.ok ())).outcome.map fun _ => r.answered config

end Request

namespace Session

/-- Asks for one thing after the other, whatever comes of each, and gives what the answers read
back to. -/
def askEach : Session → List Request → List (Except Error Request) × Session
  | s, [] => ([], s)
  | s, r :: rs =>
      let (out, t) := s.run (ask r)
      let (outs, u) := t.askEach rs
      (out.map Answer.readBack :: outs, u)

/-- Whether no class stands in the way of any of the requests: the classes are not sealed, and
those that are asked for are of distinct types that have none yet. -/
structure Admits (s : Session) (rs : List Request) : Prop where
  unsealed : s.classes.sealedOrder = none
  distinct : (rs.filterMap Request.classType?).Nodup
  free : ∀ d ∈ rs.filterMap Request.classType?, d ∉ s.classes.items.map fun c => c.type.text

variable {s t : Session} {r : Request} {rs : List Request}

theorem Admits.of_perm {rs' : List Request} (h : s.Admits rs) (hperm : rs'.Perm rs) :
    s.Admits rs' where
  unsealed := h.unsealed
  distinct := (hperm.filterMap _).nodup_iff.mpr h.distinct
  free d hd := h.free d ((hperm.filterMap _).mem_iff.mp hd)

theorem Admits.availableFor_eq (h : s.Admits (r :: rs)) : s.availableFor r = .ok () := by
  unfold availableFor
  cases hr : r.classType? with
  | none => rfl
  | some d => exact available_eq_ok_iff.mpr ⟨h.unsealed, h.free d (by simp [hr])⟩

/-- The first request leaves the others free: its class is of none of their types. -/
theorem Admits.after (h : s.Admits (r :: rs)) (hlog : s.After (r.log s.config) t) :
    t.Admits rs where
  unsealed := hlog.sealedOrder.trans h.unsealed
  distinct := by
    have hdistinct := h.distinct
    rw [List.filterMap_cons] at hdistinct
    split at hdistinct
    · exact hdistinct
    · exact (List.nodup_cons.mp hdistinct).2
  free := by
    intro d hd hmem
    obtain ⟨added, hitems, hadded⟩ := hlog.classes
    rw [hitems, List.map_append, List.mem_append] at hmem
    rcases hmem with hmem | hmem
    · obtain ⟨c, hc, rfl⟩ := List.mem_map.mp hmem
      have hread : c.readBack ∈ (r.log s.config).filterMap Event.classDef? := by
        rw [← List.mem_reverse, ← hadded]
        exact List.mem_map_of_mem hc
      obtain ⟨e, he, hclass⟩ := List.mem_filterMap.mp hread
      cases e with
      | classDef c' =>
          -- The class is of the type of `r`, and no other request asks for that.
          cases hclass
          have htype : r.classType? = some c.type.text := Request.classType?_of_mem he
          have hdistinct := h.distinct
          rw [List.filterMap_cons_some htype, List.nodup_cons] at hdistinct
          exact hdistinct.1 hd
      | put _ | methodRow | note _ => cases hclass
    · refine h.free d ?_ hmem
      rw [List.filterMap_cons]
      split
      · exact hd
      · exact List.mem_cons_of_mem _ hd

/-- A request in whose way no class stands does what its text says. -/
theorem Admits.run_ask (hs : s.Sound) (h : s.Admits (r :: rs)) :
    (s.run (ask r)).2.Sound ∧ s.After (r.log s.config) (s.run (ask r)).2 ∧
      (s.run (ask r)).1.map Answer.readBack = r.outcome s.config := by
  have hfollows := follows_ask (s := s) r
  rw [h.availableFor_eq] at hfollows
  obtain ⟨ht, hlog⟩ := hfollows.after hs
  exact ⟨ht, hlog, hfollows.map_outcome hs fun _ _ hanswer => hanswer.1⟩

/-- A run does what the texts of its requests say, one after the other. -/
theorem Admits.askEach (hs : s.Sound) (h : s.Admits rs) :
    (s.askEach rs).2.Sound ∧ s.After (rs.flatMap (Request.log s.config)) (s.askEach rs).2 ∧
      (s.askEach rs).1 = rs.map (Request.outcome s.config) := by
  induction rs generalizing s with
  | nil => exact ⟨hs, After.refl s, rfl⟩
  | cons r rs ih =>
      obtain ⟨ht, hlog, hout⟩ := h.run_ask hs
      obtain ⟨hu, hlogs, houts⟩ := ih ht (h.after hlog)
      rw [hlog.config] at hlogs houts
      exact ⟨hu, hlog.trans hlogs, congrArg₂ List.cons hout houts⟩

end Session

/-! ## What a session holds by text -/

namespace Shelf

variable {κ ε ς : Type} [DecidableEq κ] [SlotKind ς] [HasRow ε] [Pooled ε κ]
  (h : Shelf κ ε ς) [h.Lawful] {s t : Session}

theorem mem_texts_iff (hs : s.Sound) {k : κ} :
    k ∈ (h.pool s).entries.map h.text ↔ s.Has (h.key k) := by
  rw [List.mem_map]
  constructor
  · rintro ⟨e, he, rfl⟩
    rw [h.mem_entries_iff hs, Session.Holds, Lawful.key_item] at he
    exact ⟨_, he⟩
  · rintro ⟨i, hi⟩
    rw [Lawful.find?_key, Option.map_eq_some_iff] at hi
    obtain ⟨e, he, -⟩ := hi
    have htext : h.text e = k := (Lawful.reads_iff e k).mp (h.reads_of_find? hs he).text
    refine ⟨e, (h.mem_entries_iff hs).mpr ?_, htext⟩
    rw [Session.Holds, Lawful.key_item, htext]
    exact h.find?_eq_some_item_iff.mpr he

theorem texts_nodup (hs : s.Sound) : ((h.pool s).entries.map h.text).Nodup := by
  refine (List.nodup_map_iff_inj_on (h.entries_nodup hs)).mpr fun a ha b hb hab => ?_
  exact (h.eq_iff ((h.mem_entries_iff hs).mp ha) ((h.mem_entries_iff hs).mp hb)).mpr hab

theorem texts_perm (hs : s.Sound) (ht : t.Sound) (hkeys : ∀ k, s.Has k ↔ t.Has k) :
    ((h.pool s).entries.map h.text).Perm ((h.pool t).entries.map h.text) := by
  refine (List.perm_ext_iff_of_nodup (h.texts_nodup hs) (h.texts_nodup ht)).mpr fun k => ?_
  rw [h.mem_texts_iff hs, h.mem_texts_iff ht, hkeys]

/-- Sessions with the same keys have the same sorted views, by text. -/
theorem sortedBy_texts_eq {cmp : ε → ε → Ordering} (cmp' : κ → κ → Ordering) [TransCmp cmp']
    [LawfulEqCmp cmp'] (hcmp : ∀ a b, cmp a b = cmp' (h.text a) (h.text b)) (hs : s.Sound)
    (ht : t.Sound) (hkeys : ∀ k, s.Has k ↔ t.Has k) :
    ((h.pool s).sortedBy cmp).map h.text = ((h.pool t).sortedBy cmp).map h.text := by
  have hview : ∀ s : Session, ((h.pool s).sortedBy cmp).map h.text =
      Sorted.sort cmp' ((h.pool s).entries.map h.text) := fun s =>
    Sorted.map_sort fun a _ b _ => hcmp a b
  rw [hview, hview]
  exact Sorted.sort_eq_of_perm (h.texts_perm hs ht hkeys) fun a _ b _ hab =>
    LawfulEqCmp.eq_of_compare hab

end Shelf

namespace Session

def classView (s : Session) : List ClassDef :=
  s.classes.sorted.1.map ClassEntry.readBack

/-- Whether two sessions hold the same by text: the same keys in every pool and so the same
sorted views, the same classes, and the same diagnostics up to order. -/
structure SameContents (t u : Session) : Prop where
  keys : ∀ k, t.Has k ↔ u.Has k
  strings : t.sortedStrings.map StringEntry.text = u.sortedStrings.map StringEntry.text
  types : t.sortedTypes.map TypeEntry.text = u.sortedTypes.map TypeEntry.text
  typeLists : t.writtenTypeLists.map TypeListEntry.texts =
    u.writtenTypeLists.map TypeListEntry.texts
  protos : t.sortedProtos.map ProtoEntry.ref = u.sortedProtos.map ProtoEntry.ref
  fields : t.sortedFields.map FieldEntry.ref = u.sortedFields.map FieldEntry.ref
  methods : t.sortedMethods.map MethodEntry.ref = u.sortedMethods.map MethodEntry.ref
  classes : (t.classes.items.map ClassEntry.readBack).Perm
    (u.classes.items.map ClassEntry.readBack)
  classView : t.classView = u.classView
  diagnostics : t.diagnostics.entries.Perm u.diagnostics.entries

variable {s t u : Session}

theorem writtenTypeLists_texts_eq (ht : t.Sound) (hu : u.Sound)
    (hkeys : ∀ k, t.Has k ↔ u.Has k) : t.writtenTypeLists.map TypeListEntry.texts =
      u.writtenTypeLists.map TypeListEntry.texts := by
  have hfilter : ∀ es : List TypeListEntry, (es.filter (!·.isEmpty)).map TypeListEntry.texts =
      (es.map TypeListEntry.texts).filter (!·.isEmpty) := by
    intro es
    rw [List.filter_map]
    refine congrArg (List.map TypeListEntry.texts) (List.filter_congr fun e _ => ?_)
    simp [TypeListEntry.isEmpty, TypeListEntry.texts]
  rw [writtenTypeLists, writtenTypeLists, hfilter, hfilter]
  exact congrArg (List.filter _) (Shelf.typeLists.sortedBy_texts_eq Text.compareUnitLists
    TypeListEntry.compare_eq ht hu hkeys)

theorem classView_eq_of_perm (ht : t.Sound) (htopen : t.classes.sealedOrder = none)
    (huopen : u.classes.sealedOrder = none)
    (hperm : (t.classes.items.map ClassEntry.readBack).Perm
      (u.classes.items.map ClassEntry.readBack)) : t.classView = u.classView := by
  have hview : ∀ {s : Session}, s.classes.sealedOrder = none → s.classView =
      Sorted.sort ClassDef.compare (s.classes.items.map ClassEntry.readBack).reverse := by
    intro s hopen
    unfold classView ClassPool.sorted
    rw [hopen, ← List.map_reverse]
    exact Sorted.map_sort fun a _ b _ => ClassEntry.compare_eq a b
  rw [hview htopen, hview huopen]
  refine Sorted.sort_eq_of_perm
    ((List.reverse_perm _).trans (hperm.trans (List.reverse_perm _).symm)) ?_
  intro a ha b hb hab
  rw [List.mem_reverse, List.mem_map] at ha hb
  obtain ⟨c, hc, rfl⟩ := ha
  obtain ⟨d, hd, rfl⟩ := hb
  have htype : c.type.text = d.type.text := LawfulEqCmp.eq_of_compare hab
  rw [List.inj_on_of_nodup_map ht.classTypes hc hd htype]

/-- Two logs that differ in order leave the same behind. -/
theorem After.sameContents {log log' : List Event} (hopen : s.classes.sealedOrder = none)
    (ht : t.Sound) (hu : u.Sound) (htlog : s.After log t) (hulog : s.After log' u)
    (hperm : log.Perm log') : t.SameContents u := by
  have hkeys : ∀ k, t.Has k ↔ u.Has k := fun k => by
    rw [htlog.has, hulog.has, hperm.mem_iff]
  have hclasses : ∀ {v : Session} {l : List Event}, s.After l v →
      (v.classes.items.map ClassEntry.readBack).Perm
        (l.filterMap Event.classDef? ++ s.classes.items.map ClassEntry.readBack) := by
    intro v l hlog
    obtain ⟨added, hitems, hadded⟩ := hlog.classes
    rw [hitems, List.map_append, hadded]
    exact (List.reverse_perm _).append_right _
  have hclassesPerm := (hclasses htlog).trans
    (((hperm.filterMap _).append_right _).trans (hclasses hulog).symm)
  exact {
    keys := hkeys
    strings := Shelf.strings.sortedBy_texts_eq Text.compareUnits (fun _ _ => rfl) ht hu hkeys
    types := Shelf.types.sortedBy_texts_eq Text.compareUnits TypeEntry.compare_eq ht hu hkeys
    typeLists := writtenTypeLists_texts_eq ht hu hkeys
    protos := Shelf.protos.sortedBy_texts_eq ProtoRef.compare ProtoEntry.compare_eq ht hu hkeys
    fields := Shelf.fields.sortedBy_texts_eq FieldRef.compare FieldEntry.compare_eq ht hu hkeys
    methods :=
      Shelf.methods.sortedBy_texts_eq MethodRef.compare MethodEntry.compare_eq ht hu hkeys
    classes := hclassesPerm
    classView := classView_eq_of_perm ht (htlog.sealedOrder.trans hopen)
      (hulog.sealedOrder.trans hopen) hclassesPerm
    diagnostics := by
      rw [htlog.notes, hulog.notes]
      exact (hperm.filterMap _).append_left _
  }

/-- Requests in whose way no class stands may come in any order: each has the same outcome, and
the session holds the same in the end. -/
theorem orderIndependent (hs : s.Reachable) {rs : List Request} (h : s.Admits rs) :
    ∃ outcome : Request → Except Error Request, ∀ rs', rs'.Perm rs →
      (s.askEach rs').1 = rs'.map outcome ∧ (s.askEach rs').2.SameContents (s.askEach rs).2 := by
  refine ⟨Request.outcome s.config, fun rs' hperm => ?_⟩
  obtain ⟨ht, htlog, houts⟩ := (h.of_perm hperm).askEach hs.sound
  obtain ⟨hu, hulog, -⟩ := h.askEach hs.sound
  exact ⟨houts, htlog.sameContents h.unsealed ht hu hulog (hperm.flatMap_right _)⟩

/-- A class and a type that is none, in either order. -/
theorem orderIndependent_sample :
    ((Session.new .strict).askEach [.type "L", .classDef .sample]).2.SameContents
      ((Session.new .strict).askEach [.classDef .sample, .type "L"]).2 := by
  have hadmits : (Session.new .strict).Admits [.classDef .sample, .type "L"] :=
    ⟨rfl, List.nodup_singleton _, fun _ _ => List.not_mem_nil⟩
  obtain ⟨_, h⟩ := orderIndependent (Reachable.new .strict) hadmits
  exact (h _ (List.Perm.swap _ _ _)).2

end Session

end DexPools
