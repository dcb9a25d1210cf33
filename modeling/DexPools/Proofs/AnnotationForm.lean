import DexPools.Proofs.Acceptance
import DexPools.Proofs.Resolution
import DexPools.Proofs.ValueOrder
import Mathlib.Data.List.Perm.Basic

/-!
# The one form of an annotation

An annotation is given as a list of elements, in which values may hold further annotations, and a
set of annotations as a list with any repetitions. Making an annotation puts its elements into the
order of their names, from the inside to the outside, and collecting a set does the same to the
annotations. What was permuted at one level is made the same there, so the level above is given the
same values in another order at most. This carries an induction along the drafts, and every
arrangement comes out as one text.

Sessions know sets and annotations by their texts. The first arrangement that is put into a session
makes the entries, and all others find them.
-/

namespace DexPools

open Std Text

/-! ## Elements -/

/-- Whether elements stand in the order of their names, which are distinct. -/
def NamesAscend (es : List TextElement) : Prop :=
  es.Pairwise fun e f => compareUnits e.name f.name = .lt

theorem NamesAscend.nodup_names {es : List TextElement} (h : NamesAscend es) :
    (es.map Named.name).Nodup := by
  refine List.pairwise_map.mpr (h.imp ?_)
  intro e f hlt heq
  rw [heq, @ReflCmp.compare_self _ compareUnits] at hlt
  cases hlt

theorem NamesAscend.strict {es : List TextElement} (h : NamesAscend es) :
    es.Pairwise fun e f => compareElement e f = .lt := by
  refine h.imp ?_
  intro e f hlt
  rw [compareElement, hlt]
  rfl

theorem collectElements_eq_ok_iff {type : String} {given es : List TextElement} :
    collectElements type given = .ok es ↔ es.Perm given ∧ NamesAscend es := by
  constructor
  · intro h
    have hascend : NamesAscend es := List.pairwise_map.mp (names_strict_of_collectElements h)
    refine ⟨?_, hascend⟩
    unfold collectElements at h
    split at h
    · cases h
    · next hnone =>
      cases h
      have hgiven : given.Nodup := (Sorted.firstRepeat_eq_none_iff.mp hnone).of_map
      refine (List.perm_ext_iff_of_nodup hascend.nodup_names.of_map hgiven).mpr ?_
      intro e
      exact Sorted.mem_sortedSet
  · rintro ⟨hperm, hascend⟩
    have hnodup : (given.map Named.name).Nodup :=
      (hperm.map Named.name).nodup_iff.mp hascend.nodup_names
    unfold collectElements
    rw [Sorted.firstRepeat_eq_none_iff.mpr hnodup]
    refine congrArg Except.ok
      (Sorted.eq_of_strict (Sorted.sortedSet_strict _ given) hascend.strict fun e => ?_)
    rw [Sorted.mem_sortedSet, hperm.mem_iff]

theorem exists_of_collectElements_eq_error {type : String} {given : List TextElement} {err : Error}
    (h : collectElements type given = .error err) :
    ∃ e f, [e, f].Sublist given ∧ e.name = f.name ∧
      err = .badArgument (.repeatedElement type f.name) := by
  unfold collectElements at h
  split at h
  · next f hrepeat =>
    cases h
    obtain ⟨e, hsub, hname⟩ := Sorted.exists_of_firstRepeat hrepeat
    exact ⟨e, f, hsub, hname, rfl⟩
  · cases h

theorem exists_collectElements_eq_error_iff {type : String} {given : List TextElement} :
    (∃ err, collectElements type given = .error err) ↔
      ∃ e f, [e, f].Sublist given ∧ e.name = f.name := by
  constructor
  · rintro ⟨err, h⟩
    obtain ⟨e, f, hsub, hname, -⟩ := exists_of_collectElements_eq_error h
    exact ⟨e, f, hsub, hname⟩
  · intro hrepeat
    cases hcollect : collectElements type given with
    | error err => exact ⟨err, rfl⟩
    | ok es =>
        obtain ⟨hperm, hascend⟩ := collectElements_eq_ok_iff.mp hcollect
        have hnodup := (hperm.map Named.name).nodup_iff.mp hascend.nodup_names
        exact absurd hrepeat (Sorted.nodup_map_iff.mp hnodup)

/-- Whether `make` has one form for all arrangements of some elements. It fails exactly if two of
them, wherever they stand, have one name, and says which name it is. What it makes otherwise is the
`form` of the elements in the order of their names. -/
structure MakesOneForm {α : Type} (type : String) (form : List TextElement → α)
    (make : List TextElement → Except Error α) : Prop where
  fails_iff : ∀ es, (∃ err, make es = .error err) ↔ ∃ e f, [e, f].Sublist es ∧ e.name = f.name
  error : ∀ es err, make es = .error err →
    ∃ e f, [e, f].Sublist es ∧ e.name = f.name ∧ err = .badArgument (.repeatedElement type f.name)
  made_iff : ∀ es a, make es = .ok a ↔
    ∃ sorted, form sorted = a ∧ sorted.Perm es ∧ NamesAscend sorted
  perm : ∀ es es' a, es.Perm es' → make es = .ok a → make es' = .ok a

theorem makesOneForm {α : Type} (type : String) (form : List TextElement → α) :
    MakesOneForm type form fun es => return form (← collectElements type es) := by
  have hmade : ∀ es a, (return form (← collectElements type es) : Except Error α) = .ok a ↔
      ∃ sorted, form sorted = a ∧ sorted.Perm es ∧ NamesAscend sorted := by
    intro es a
    rw [bind_pure_eq_ok_iff]
    exact exists_congr fun _ => (and_congr_left' collectElements_eq_ok_iff).trans and_comm
  refine ⟨fun es => ?_, fun es err h => ?_, hmade, fun es es' a hperm h => ?_⟩
  · simp only [bind_pure_eq_error_iff]
    exact exists_collectElements_eq_error_iff
  · exact exists_of_collectElements_eq_error (bind_pure_eq_error_iff.mp h)
  · obtain ⟨sorted, hform, hsorted, hascend⟩ := (hmade es a).mp h
    exact (hmade es' a).mpr ⟨sorted, hform, hsorted.trans hperm, hascend⟩

/-! ## Drafts -/

theorem forall₂_replace {α β : Type} {R : α → β → Prop} {a a' : α} {before after : List α}
    {bs : List β} (h : List.Forall₂ R (before ++ a :: after) bs) (ha : ∀ b, R a b → R a' b) :
    List.Forall₂ R (before ++ a' :: after) bs := by
  induction before generalizing bs with
  | nil =>
      obtain ⟨b, bs, hb, hbs, rfl⟩ := List.forall₂_cons_left_iff.mp h
      exact .cons (ha b hb) hbs
  | cons c before ih =>
      obtain ⟨b, bs, hb, hbs, rfl⟩ := List.forall₂_cons_left_iff.mp h
      exact .cons hb (ih hbs)

/-- A value before the annotations inside of it are made, so that their elements are in no order
yet. -/
inductive Draft where
  | value (v : TextValue)
  | array (items : List Draft)
  | annotationItem (type : String) (elements : List (Named String Draft))

namespace Draft

mutual

/-- Makes the annotations inside of a value, the inner ones first. -/
def build : Draft → Except Error TextValue
  | value v => return v
  | array items => return .array (← buildItems items)
  | annotationItem type elements => do
      let es ← buildElements elements
      let a ← EncodedAnnotation.ofElements type es
      return a.toValue

def buildItems : List Draft → Except Error (List TextValue)
  | [] => return []
  | d :: rest => do
      let v ← build d
      return v :: (← buildItems rest)

def buildElements : List (Named String Draft) → Except Error (List TextElement)
  | [] => return []
  | ⟨name, d⟩ :: rest => do
      let v ← build d
      return ⟨name, v⟩ :: (← buildElements rest)

end

/-- Two drafts that differ in the order of elements only, at any depth. -/
inductive Rearranged : Draft → Draft → Prop where
  | refl (d : Draft) : Rearranged d d
  | trans {d d' d'' : Draft} : Rearranged d d' → Rearranged d' d'' → Rearranged d d''
  | item {d d' : Draft} (before after : List Draft) : Rearranged d d' →
      Rearranged (.array (before ++ d :: after)) (.array (before ++ d' :: after))
  | element {d d' : Draft} (type name : String) (before after : List (Named String Draft)) :
      Rearranged d d' → Rearranged (.annotationItem type (before ++ ⟨name, d⟩ :: after))
        (.annotationItem type (before ++ ⟨name, d'⟩ :: after))
  | permute (type : String) {es es' : List (Named String Draft)} : es.Perm es' →
      Rearranged (.annotationItem type es) (.annotationItem type es')

def buildElement (e : Named String Draft) : Except Error TextElement := do
  let v ← e.value.build
  return ⟨e.name, v⟩

theorem buildItems_eq_mapM (ds : List Draft) : buildItems ds = ds.mapM build := by
  induction ds with
  | nil => rfl
  | cons d ds ih => rw [buildItems, List.mapM_cons, ih]

theorem buildElements_eq_mapM (es : List (Named String Draft)) :
    buildElements es = es.mapM buildElement := by
  induction es with
  | nil => rfl
  | cons e es ih =>
      rw [buildElements, List.mapM_cons, ih, buildElement, bind_assoc]
      rfl

theorem build_array_eq_ok_iff {ds : List Draft} {v : TextValue} :
    build (.array ds) = .ok v ↔
      ∃ vs, List.Forall₂ (fun d v => d.build = .ok v) ds vs ∧ Value.array vs = v := by
  rw [build, bind_pure_eq_ok_iff, buildItems_eq_mapM]
  simp only [mapM_eq_ok_iff]

/-- An annotation is built from its elements in any order, as long as no two of them have one
name. -/
theorem build_annotationItem_eq_ok_iff {type : String} {es : List (Named String Draft)}
    {v : TextValue} : build (.annotationItem type es) = .ok v ↔
      ∃ fs sorted, List.Forall₂ (fun e f => buildElement e = .ok f) es fs ∧
        (sorted.Perm fs ∧ NamesAscend sorted) ∧ Value.annotationItem type sorted = v := by
  have hmade : ∀ fs, (do return (← EncodedAnnotation.ofElements type fs).toValue) = .ok v ↔
      ∃ sorted, (sorted.Perm fs ∧ NamesAscend sorted) ∧ Value.annotationItem type sorted = v := by
    intro fs
    unfold EncodedAnnotation.ofElements
    rw [bind_assoc]
    refine bind_pure_eq_ok_iff.trans ?_
    simp only [collectElements_eq_ok_iff]
    rfl
  rw [build, bind_eq_ok_iff, buildElements_eq_mapM]
  simp only [mapM_eq_ok_iff, hmade, exists_and_left]

/-- Rearranging a draft does not change what is built. -/
theorem Rearranged.build_eq_ok {d d' : Draft} (h : Rearranged d d') {v : TextValue}
    (hv : d.build = .ok v) : d'.build = .ok v := by
  induction h generalizing v with
  | refl => exact hv
  | trans _ _ ih ih' => exact ih' (ih hv)
  | item before after _ ih =>
      rw [build_array_eq_ok_iff] at hv ⊢
      obtain ⟨vs, hvs, rfl⟩ := hv
      exact ⟨vs, forall₂_replace hvs fun _ hd => ih hd, rfl⟩
  | element type name before after _ ih =>
      rw [build_annotationItem_eq_ok_iff] at hv ⊢
      obtain ⟨fs, sorted, hfs, hsorted⟩ := hv
      refine ⟨fs, sorted, forall₂_replace hfs fun f hf => ?_, hsorted⟩
      obtain ⟨v, hv, hnamed⟩ := bind_pure_eq_ok_iff.mp hf
      exact bind_pure_eq_ok_iff.mpr ⟨v, ih hv, hnamed⟩
  | permute type hperm =>
      rw [build_annotationItem_eq_ok_iff] at hv ⊢
      obtain ⟨fs, sorted, hfs, ⟨hsorted, hascend⟩, hv⟩ := hv
      -- The elements that are built are permuted too, which their order by name undoes.
      obtain ⟨gs, hgs, hperm'⟩ := List.perm_comp_forall₂ hperm.symm hfs
      exact ⟨gs, sorted, hgs, ⟨hsorted.trans hperm'.symm, hascend⟩, hv⟩

end Draft

/-! ## Sets of drafts -/

/-- An annotation before it is made. -/
structure AnnotationDraft where
  visibility : Visibility
  type : String
  elements : List (Named String Draft)

namespace AnnotationDraft

def build (d : AnnotationDraft) : Except Error Annotation := do
  let es ← Draft.buildElements d.elements
  Annotation.ofElements d.visibility d.type es

/-- Whether the annotation can be made and is accepted by the pools. -/
def WellFormed (d : AnnotationDraft) : Prop :=
  ∃ a, d.build = .ok a ∧ a.WellFormed

/-- Two annotations that differ in the order of elements only, at any depth. -/
structure Rearranged (d d' : AnnotationDraft) : Prop where
  visibility : d'.visibility = d.visibility
  type : d'.type = d.type
  elements : Draft.Rearranged (.annotationItem d.type d.elements)
    (.annotationItem d.type d'.elements)

variable {d d' : AnnotationDraft} {a : Annotation}

/-- An annotation is made as it is inside of a value. -/
theorem build_eq_ok_iff : d.build = .ok a ↔
    (Draft.annotationItem d.type d.elements).build = .ok (.annotationItem d.type a.elements) ∧
      d.visibility = a.visibility ∧ d.type = a.type := by
  obtain ⟨visibility, type, elements⟩ := a
  rw [build, Draft.build, bind_eq_ok_iff, bind_eq_ok_iff]
  constructor
  · rintro ⟨es, hes, hmade⟩
    obtain ⟨sorted, hcollect, hmk⟩ := bind_pure_eq_ok_iff.mp hmade
    cases hmk
    have hencoded : EncodedAnnotation.ofElements d.type es = .ok ⟨d.type, elements⟩ :=
      bind_pure_eq_ok_iff.mpr ⟨elements, hcollect, rfl⟩
    exact ⟨⟨es, hes, bind_pure_eq_ok_iff.mpr ⟨_, hencoded, rfl⟩⟩, rfl, rfl⟩
  · rintro ⟨⟨es, hes, hmade⟩, rfl, rfl⟩
    obtain ⟨b, hencoded, hvalue⟩ := bind_pure_eq_ok_iff.mp hmade
    obtain ⟨sorted, hcollect, rfl⟩ := bind_pure_eq_ok_iff.mp hencoded
    cases hvalue
    exact ⟨es, hes, bind_pure_eq_ok_iff.mpr ⟨_, hcollect, rfl⟩⟩

theorem Rearranged.build_eq_ok (h : d.Rearranged d') (ha : d.build = .ok a) : d'.build = .ok a := by
  obtain ⟨hbuild, hvisibility, htype⟩ := build_eq_ok_iff.mp ha
  refine build_eq_ok_iff.mpr ⟨?_, h.visibility.trans hvisibility, h.type.trans htype⟩
  rw [h.type]
  exact h.elements.build_eq_ok hbuild

end AnnotationDraft

/-- Whether two lists have the same annotations, in any order, in any numbers and each time with the
elements in any order. -/
structure SameAnnotations (ds ds' : List AnnotationDraft) : Prop where
  left : ∀ d ∈ ds, ∃ d' ∈ ds', d.Rearranged d'
  right : ∀ d' ∈ ds', ∃ d ∈ ds, d.Rearranged d'

/-- What is made one by one is what is made of the elements of the list. -/
theorem made_of_mapM_eq_ok {α β : Type} {f : α → Except Error β} {as : List α} {bs : List β}
    (h : as.mapM f = .ok bs) :
    (∀ a ∈ as, ∃ b ∈ bs, f a = .ok b) ∧ ∀ b ∈ bs, ∃ a ∈ as, f a = .ok b := by
  have hall := mapM_eq_ok_iff.mp h
  refine ⟨fun a ha => ?_, fun b hb => exists_of_mem_of_forall₂ hall hb⟩
  have hflip : List.Forall₂ (fun b a => f a = .ok b) bs as := List.Forall₂.flip hall
  exact exists_of_mem_of_forall₂ hflip ha

namespace AnnotationSet

/-- Makes the annotations of a list and collects them. -/
def ofDrafts (ds : List AnnotationDraft) : Except Error AnnotationSet := do
  let as ← ds.mapM AnnotationDraft.build
  return .ofList as

variable {ds ds' : List AnnotationDraft} {set : AnnotationSet}

theorem made_of_ofDrafts_eq_ok (h : ofDrafts ds = .ok set) :
    (∀ d ∈ ds, ∃ a ∈ set.items, d.build = .ok a) ∧ ∀ a ∈ set.items, ∃ d ∈ ds, d.build = .ok a := by
  obtain ⟨as, has, rfl⟩ := bind_pure_eq_ok_iff.mp h
  simp only [ofList, Sorted.mem_sortedSet]
  exact made_of_mapM_eq_ok has

/-- Lists with the same annotations are collected into the same set. -/
theorem ofDrafts_eq_ok_of_same (hsame : SameAnnotations ds ds') (h : ofDrafts ds = .ok set) :
    ofDrafts ds' = .ok set := by
  obtain ⟨as, has, rfl⟩ := bind_pure_eq_ok_iff.mp h
  obtain ⟨hmade, hcovered⟩ := made_of_mapM_eq_ok has
  have hmade' : ∀ d' ∈ ds', ∃ a ∈ as, d'.build = .ok a := by
    intro d' hd'
    obtain ⟨d, hd, hrearranged⟩ := hsame.right d' hd'
    obtain ⟨a, ha, hbuild⟩ := hmade d hd
    exact ⟨a, ha, hrearranged.build_eq_ok hbuild⟩
  obtain ⟨as', has'⟩ := exists_mapM_eq_ok fun d' hd' => (hmade' d' hd').imp fun _ => And.right
  refine bind_pure_eq_ok_iff.mpr ⟨as', has', congrArg AnnotationSet.mk ?_⟩
  refine Sorted.sortedSet_eq_iff.mpr fun a => ⟨fun ha => ?_, fun ha => ?_⟩
  · obtain ⟨d', hd', hbuild⟩ := (made_of_mapM_eq_ok has').2 a ha
    obtain ⟨b, hb, hbuild'⟩ := hmade' d' hd'
    cases hbuild.symm.trans hbuild'
    exact hb
  · obtain ⟨d, hd, hbuild⟩ := hcovered a ha
    obtain ⟨d', hd', hrearranged⟩ := hsame.left d hd
    obtain ⟨b, hb, hbuild'⟩ := (made_of_mapM_eq_ok has').1 d' hd'
    cases (hrearranged.build_eq_ok hbuild).symm.trans hbuild'
    exact hb

/-- What is collected from well-formed annotations with distinct types is accepted. -/
theorem exists_ofDrafts (hds : ∀ d ∈ ds, d.WellFormed) (htypes : (ds.map (·.type)).Nodup) :
    ∃ set, ofDrafts ds = .ok set ∧ set.WellFormed := by
  obtain ⟨as, has⟩ := exists_mapM_eq_ok fun d hd => (hds d hd).imp fun _ => And.left
  have hset : ofDrafts ds = .ok (ofList as) := bind_pure_eq_ok_iff.mpr ⟨as, has, rfl⟩
  refine ⟨ofList as, hset, ?_, ?_⟩
  · have hsame : List.Forall₂ (fun d a => d.type = a.type) ds as :=
      (mapM_eq_ok_iff.mp has).imp fun _ _ hbuild => (AnnotationDraft.build_eq_ok_iff.mp hbuild).2.2
    rw [forall₂_eq_map (List.forall₂_map_right_iff.mpr hsame)] at htypes
    exact Sorted.nodup_map_sortedSet htypes
  · intro a ha
    obtain ⟨d, hd, hbuild⟩ := (made_of_ofDrafts_eq_ok hset).2 a ha
    obtain ⟨b, hbuild', hwell⟩ := hds d hd
    cases hbuild.symm.trans hbuild'
    exact hwell

end AnnotationSet

/-! ## In a session -/

namespace Session

/-- Whether a session has an entry for the set that is collected from a list and entries for all
annotations of the list, all of which it finds without any change. -/
structure Recognises (s : Session) (ds : List AnnotationDraft) (e : AnnotationSetEntry) : Prop where
  collected : AnnotationSet.ofDrafts ds = .ok e.readBack
  annotationSet : s.run (internAnnotationSet e.readBack) = (.ok e, s)
  annotations : ∀ d ∈ ds, ∃ a ∈ e.annotations, d.build = .ok a.readBack ∧
    s.run (Session.internAnnotation a.readBack) = (.ok a, s)

variable {s : Session} {ds : List AnnotationDraft} {e : AnnotationSetEntry}

theorem recognises (he : s.HoldsAll e.items) (h : AnnotationSet.ofDrafts ds = .ok e.readBack) :
    s.Recognises ds e := by
  simp only [AnnotationSetEntry.items, AnnotationEntry.items, holdsAll_cons, holdsAll_flatMap] at he
  obtain ⟨hset, hannotations⟩ := he
  refine ⟨h, ?_, fun d hd => ?_⟩
  · rw [internAnnotationSet_eq]
    exact Shelf.annotationSets.run_intern_of_holds hset _
  · obtain ⟨a', ha', hbuild⟩ := (AnnotationSet.made_of_ofDrafts_eq_ok h).1 d hd
    obtain ⟨a, ha, rfl⟩ := List.mem_map.mp ha'
    refine ⟨a, ha, hbuild, ?_⟩
    rw [internAnnotation_eq]
    exact Shelf.annotations.run_intern_of_holds (hannotations a ha).1 _

end Session

/-- An annotation fails to be made exactly if two elements have one name, and otherwise has its
elements in the order of their names, whatever the order in which they were given, inside of a value
as well as outside. The first set that is put into a reachable session, of well-formed annotations
with distinct types, gets an entry that reads back to it. All lists with the same annotations,
however arranged and at any later time, find this entry and those of the annotations in it, and
change nothing. -/
theorem annotations_have_one_form :
    (∀ visibility type, MakesOneForm type (DexPools.Annotation.mk visibility type)
      (DexPools.Annotation.ofElements visibility type)) ∧
    (∀ type, MakesOneForm type (DexPools.EncodedAnnotation.mk type)
      (DexPools.EncodedAnnotation.ofElements type)) ∧
    ∀ (h : History) (ds : List AnnotationDraft), h.Reachable → (∀ d ∈ ds, d.WellFormed) →
      (ds.map (·.type)).Nodup →
        ∃ set e t, AnnotationSet.ofDrafts ds = .ok set ∧
          h.session.run (Session.internAnnotationSet set) = (.ok e, t) ∧ e.readBack = set ∧
          ∀ ds', SameAnnotations ds ds' → t.Recognises ds' e ∧
            ∀ ops, (h.step (.ask (.annotationSet set))).OwnsEach ops →
              ((h.step (.ask (.annotationSet set))).steps ops).session.Recognises ds' e := by
  refine ⟨fun _ _ => makesOneForm _ _, fun _ => makesOneForm _ _, ?_⟩
  intro h ds hh hds htypes
  obtain ⟨set, hset, hwell⟩ := AnnotationSet.exists_ofDrafts hds htypes
  obtain ⟨e, t, hrun, hreads⟩ := (Session.builds_internAnnotationSet set).exists_run
    hh.sound.session (Plan.outcome_annotationSet_iff.mpr hwell)
  obtain ⟨rfl, hitems⟩ : e.readBack = set ∧ t.HoldsAll e.items := ⟨hreads.text, hreads.holdsAll⟩
  refine ⟨_, e, t, hset, hrun, rfl, fun ds' hsame => ?_⟩
  have hset' := AnnotationSet.ofDrafts_eq_ok_of_same hsame hset
  refine ⟨Session.recognises hitems hset', fun ops hops => Session.recognises ?_ hset'⟩
  have ht : (h.step (.ask (.annotationSet e.readBack))).session = t := by
    rw [History.step_ask_session]
    exact (Session.run_map_snd _ _).trans (congrArg Prod.snd hrun)
  have howns : h.Owns (.ask (.annotationSet e.readBack)) := trivial
  exact (ht ▸ (hh.sound.step howns).grows_steps hops : t.Grows _).holdsAll hitems

/-- A task that runs at dawn, with a tag inside of it. -/
def AnnotationDraft.task : AnnotationDraft where
  visibility := .runtime
  type := "LTask;"
  elements := [
    ⟨"run", .annotationItem "LTag;" [⟨"run", .value .null⟩, ⟨"count", .value (.int 3)⟩]⟩,
    ⟨"at", .value (.string "dawn")⟩]

/-- The same task, with its elements and those of its tag the other way round. -/
def AnnotationDraft.turned : AnnotationDraft where
  visibility := .runtime
  type := "LTask;"
  elements := [
    ⟨"at", .value (.string "dawn")⟩,
    ⟨"run", .annotationItem "LTag;" [⟨"count", .value (.int 3)⟩, ⟨"run", .value .null⟩]⟩]

def AnnotationDraft.tag : AnnotationDraft where
  visibility := .build
  type := "LTag;"
  elements := [⟨"times", .value (.int 7)⟩]

theorem AnnotationDraft.wellFormed_task : AnnotationDraft.task.WellFormed := by
  refine ⟨⟨.runtime, "LTask;", [⟨"at", .string "dawn"⟩,
    ⟨"run", .annotationItem "LTag;" [⟨"count", .int 3⟩, ⟨"run", .null⟩]⟩]⟩, ?_,
    Plan.outcome_annotation_iff.mp ?_⟩
  · decide +kernel
  · decide +kernel

theorem AnnotationDraft.wellFormed_tag : AnnotationDraft.tag.WellFormed :=
  ⟨⟨.build, "LTag;", [⟨"times", .int 7⟩]⟩, by decide +kernel,
    Plan.outcome_annotation_iff.mp (by decide +kernel)⟩

theorem AnnotationDraft.rearranged_turned : AnnotationDraft.task.Rearranged .turned where
  visibility := rfl
  type := rfl
  elements := by
    have hinner : Draft.Rearranged
        (.annotationItem "LTag;" [⟨"run", .value .null⟩, ⟨"count", .value (.int 3)⟩])
        (.annotationItem "LTag;" [⟨"count", .value (.int 3)⟩, ⟨"run", .value .null⟩]) :=
      .permute "LTag;" (.swap _ _ [])
    exact (Draft.Rearranged.element "LTask;" "run" [] _ hinner).trans
      (.permute "LTask;" (.swap _ _ []))

theorem sameAnnotations_turned : SameAnnotations [.task, .tag] [.tag, .turned, .tag] where
  left := by
    have htag : AnnotationDraft.tag.Rearranged .tag := ⟨rfl, rfl, .refl _⟩
    simp [AnnotationDraft.rearranged_turned, htag]
  right := by
    have htag : AnnotationDraft.tag.Rearranged .tag := ⟨rfl, rfl, .refl _⟩
    simp [AnnotationDraft.rearranged_turned, htag]

/-- A tag that is given twice, even with one value, is refused. The other way round, and with a tag
too many, the task and its tag are the set that a new session got first, also after a class came and
the classes were handed out in order. -/
theorem annotations_turned :
    (∃ err, Annotation.ofElements .build "LTag;" [⟨"times", .int 7⟩, ⟨"times", .int 7⟩] =
      .error err) ∧
    ∃ set e t, AnnotationSet.ofDrafts [.task, .tag] = .ok set ∧
      (Session.new .strict).run (Session.internAnnotationSet set) = (.ok e, t) ∧
      t.Recognises [.tag, .turned, .tag] e ∧
      (((History.new .strict).step (.ask (.annotationSet set))).steps
        [.ask (.classDef .sample), .sortedClasses]).session.Recognises [.tag, .turned, .tag] e := by
  obtain ⟨hmakes, -, hsets⟩ := annotations_have_one_form
  refine ⟨((hmakes .build "LTag;").fails_iff _).mpr ⟨_, _, .refl _, rfl⟩, ?_⟩
  have hwell : ∀ d ∈ [AnnotationDraft.task, .tag], d.WellFormed := by
    simp [AnnotationDraft.wellFormed_task, AnnotationDraft.wellFormed_tag]
  obtain ⟨set, e, t, hset, hrun, -, hsame⟩ :=
    hsets (History.new .strict) [.task, .tag] (.new .strict) hwell (by decide)
  obtain ⟨hnow, hlater⟩ := hsame _ sameAnnotations_turned
  exact ⟨set, e, t, hset, hrun, hnow, hlater _ ⟨trivial, trivial, trivial⟩⟩

end DexPools
