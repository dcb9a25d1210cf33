import DexPools.Proofs.Contents
import DexPools.Proofs.InstructionStream
import DexPools.Proofs.Leniency
import DexPools.Proofs.OrderIndependence

/-!
# Batches of classes in any order

A batch may take its classes in any order; what it gives back stands in the order in which they were
given all the same. A class that comes later finds what the earlier ones put into the pools, which
changes none of its own: its plan asks of the session only whether a class of its type is there. So
as long as the types of a batch are distinct, every class of it is accepted in its turn exactly if
a new session accepts it alone.
-/

namespace DexPools

open Std

namespace Sorted

variable {α β : Type} {R : α → β → Prop} {cmp : α → α → Ordering} {cmp' : β → β → Ordering}

theorem forall₂_insert (hcmp : ∀ a b a' b', R a b → R a' b' → cmp a a' = cmp' b b') {x : α}
    {y : β} (hxy : R x y) {xs : List α} {ys : List β} (h : List.Forall₂ R xs ys) :
    List.Forall₂ R (insert cmp x xs) (insert cmp' y ys) := by
  induction h with
  | nil => exact .cons hxy .nil
  | cons hab h ih =>
      rw [insert, insert, hcmp _ _ _ _ hxy hab]
      split
      · exact .cons hxy (.cons hab h)
      · exact .cons hab ih

/-- Sorting keeps lists related whose related elements compare in the same way. -/
theorem forall₂_sort (hcmp : ∀ a b a' b', R a b → R a' b' → cmp a a' = cmp' b b')
    {xs : List α} {ys : List β} (h : List.Forall₂ R xs ys) :
    List.Forall₂ R (sort cmp xs) (sort cmp' ys) := by
  induction h with
  | nil => exact .nil
  | cons hab _ ih => exact forall₂_insert hcmp hab ih

end Sorted

/-! ## Places -/

/-- Things that have a place are ordered by their places. -/
def comparePlaces {α : Type} : α × Nat → α × Nat → Ordering :=
  compareBy Ord.compare Prod.snd

instance {α : Type} : TransCmp (comparePlaces (α := α)) :=
  inferInstanceAs (TransCmp (compareBy Ord.compare Prod.snd))

/-- Things in the order of their places. -/
def inPlace {α : Type} (xs : List (α × Nat)) : List α :=
  (Sorted.sort comparePlaces xs).map Prod.fst

section Places

variable {α β : Type} {xs : List α} {order : List (α × Nat)}

theorem inPlace_perm (placed : List (α × Nat)) : (inPlace placed).Perm (placed.map Prod.fst) :=
  (Sorted.sort_perm comparePlaces placed).map Prod.fst

theorem ascending_of_places {placed : List (α × Nat)}
    (h : (placed.map Prod.snd).Pairwise (· < ·)) : Sorted.Ascending comparePlaces placed := by
  refine (List.pairwise_map.mp h).imp ?_
  intro a b hab
  rw [comparePlaces, compareBy, Nat.compare_eq_lt.mpr hab]
  rfl

theorem places_zipIdx (xs : List α) : (xs.zipIdx.map Prod.snd).Pairwise (· < ·) := by
  rw [List.zipIdx_map_snd]
  exact List.pairwise_lt_range'

/-- The things of a list, taken in any order along with their places, are the list again. -/
theorem sort_places (h : order.Perm xs.zipIdx) :
    Sorted.sort comparePlaces order = xs.zipIdx := by
  rw [Sorted.sort_eq_of_perm h ?_, Sorted.sort_eq_self (ascending_of_places (places_zipIdx xs))]
  rintro ⟨a, i⟩ ha ⟨b, j⟩ hb hij
  have hplace : i = j := Nat.compare_eq_eq.mp hij
  subst hplace
  -- Both are what the list has at the one place.
  have ha' := List.mem_zipIdx_iff_getElem?.mp (h.mem_iff.mp ha)
  have hb' := List.mem_zipIdx_iff_getElem?.mp (h.mem_iff.mp hb)
  cases ha'.symm.trans hb'
  rfl

/-- What is made of the things of a list in any order is, put into place, related to the list. -/
theorem forall₂_inPlace {R : α → β → Prop} (horder : order.Perm xs.zipIdx) {ys : List β}
    (h : List.Forall₂ R (order.map Prod.fst) ys) :
    List.Forall₂ R xs (inPlace (ys.zip (order.map Prod.snd))) := by
  have hplaced : List.Forall₂ (fun a b => R a.1 b.1 ∧ a.2 = b.2) order
      (ys.zip (order.map Prod.snd)) := by
    clear horder
    induction order generalizing ys with
    | nil =>
        cases h
        exact .nil
    | cons a order ih =>
        rw [List.map_cons] at h
        cases h with
        | cons hab h => exact .cons ⟨hab, rfl⟩ (ih h)
  have hsorted : List.Forall₂ (fun a b => R a.1 b.1 ∧ a.2 = b.2)
      (Sorted.sort comparePlaces order)
      (Sorted.sort comparePlaces (ys.zip (order.map Prod.snd))) := by
    refine Sorted.forall₂_sort ?_ hplaced
    intro a b a' b' hab hab'
    rw [comparePlaces, comparePlaces, compareBy, compareBy, hab.2, hab'.2]
  rw [sort_places horder] at hsorted
  rw [inPlace, ← List.zipIdx_map_fst 0 xs]
  exact List.forall₂_map_left_iff.mpr (List.forall₂_map_right_iff.mpr
    (hsorted.imp fun _ _ hab => hab.1))

end Places

/-! ## One class -/

/-- Whether a new session of a configuration accepts a class. -/
def Config.Accepts (config : Config) (c : ClassDef) : Prop :=
  ((Session.new config).run (Session.defineClass c)).1.isOk = true

/-- Whether a class is what a definition makes: it has its type and reads back to what a new session
makes of the definition, which in a strict session is its one form. -/
structure Config.Makes (config : Config) (c : ClassDef) (e : ClassEntry) : Prop where
  type : e.type.text = c.type
  readBack : ((Session.new config).run (Session.defineClass c)).1.map ClassEntry.readBack =
    .ok e.readBack
  strict : config.lenient = false →
    ClassDef.ofParts c.toClassHeader c.fields c.methods = .ok e.readBack

namespace Session

variable {s t : Session} {c : ClassDef} {cs : List ClassDef} {e : ClassEntry}

theorem map_eq_ok_iff {α β : Type} {x : Except Error α} {f : α → β} {b : β} :
    x.map f = .ok b ↔ ∃ a, x = .ok a ∧ f a = b :=
  bind_pure_eq_ok_iff

theorem available_of_classDef_ok {config : Config} {available : Except Error Unit}
    (h : (Plan.classDef config available c).outcome = .ok ()) : available = .ok () := by
  obtain ⟨_, -, h⟩ := Plan.outcome_bind_eq_ok_iff.mp h
  obtain ⟨_, havailable, -⟩ := Plan.outcome_bind_eq_ok_iff.mp h
  exact havailable

theorem available_new (config : Config) (d : String) : (Session.new config).available d = .ok () :=
  available_eq_ok_iff.mpr ⟨rfl, List.not_mem_nil⟩

/-- A class is accepted exactly if it can be added and a new session accepts it alone. -/
theorem isOk_run_defineClass_iff (hs : s.Sound) :
    (s.run (defineClass c)).1.isOk = true ↔ s.available c.type = .ok () ∧ s.config.Accepts c := by
  have hplan : ∀ {t : Session}, t.Sound → ((t.run (defineClass c)).1.isOk = true ↔
      (Plan.classDef t.config (t.available c.type) c).outcome = .ok ()) := by
    intro t ht
    rw [← Plan.isOk_map (f := ClassEntry.readBack), run_defineClass_readBack ht, Plan.isOk_map]
    cases (Plan.classDef t.config (t.available c.type) c).outcome with
    | ok u => exact iff_of_true rfl rfl
    | error err => exact iff_of_false nofun nofun
  rw [Config.Accepts, hplan hs, hplan (sound_new s.config), available_new]
  constructor
  · intro hok
    -- The plan asks whether the class can be added, and depends on the session in nothing else.
    have havailable := available_of_classDef_ok hok
    rw [havailable] at hok
    exact ⟨havailable, hok⟩
  · rintro ⟨havailable, hok⟩
    rw [havailable]
    exact hok

theorem makes_of_run (hs : s.Sound) (hrun : s.run (defineClass c) = (.ok e, t)) :
    s.config.Makes c e := by
  obtain ⟨-, -, hplan, hreads⟩ := (builds_defineClass c).of_run hs hrun
  have hreadBack : e.readBack = Plan.classBuilt s.config c := hreads.text.1
  have havailable := available_of_classDef_ok hplan
  refine ⟨?_, ?_, fun hstrict => ofParts_of_defineClass hs hstrict hrun⟩
  · exact congrArg (fun d : ClassDef => d.type) hreadBack
  · rw [run_defineClass_readBack (sound_new s.config), available_new]
    rw [havailable] at hplan
    rw [show (Session.new s.config).config = s.config from rfl, hplan, hreadBack]
    rfl

/-! ## One class after the other -/

/-- Whether a batch is one of distinct types that have no class yet, each class of which is accepted
alone. -/
structure AcceptsBatch (s : Session) (cs : List ClassDef) : Prop where
  distinct : (cs.map fun c => c.type).Nodup
  free : ∀ c ∈ cs, c.type ∉ s.classes.items.map fun e => e.type.text
  alone : ∀ c ∈ cs, s.config.Accepts c

theorem acceptsBatch_nil : s.AcceptsBatch [] :=
  ⟨List.nodup_nil, nofun, nofun⟩

/-- The first class takes its type, and leaves the other types free. -/
theorem acceptsBatch_cons_iff (hconfig : t.config = s.config)
    (hitems : t.classes.items = e :: s.classes.items) (htype : e.type.text = c.type) :
    s.AcceptsBatch (c :: cs) ↔
      (c.type ∉ s.classes.items.map fun e => e.type.text) ∧ s.config.Accepts c ∧
        t.AcceptsBatch cs := by
  have hfree : ∀ d, (d ∉ t.classes.items.map fun e => e.type.text) ↔
      d ≠ c.type ∧ d ∉ s.classes.items.map fun e => e.type.text := by
    intro d
    rw [hitems, List.map_cons, List.mem_cons, htype, not_or]
  constructor
  · rintro ⟨hdistinct, hfrees, halone⟩
    obtain ⟨hnew, hdistinct⟩ := List.nodup_cons.mp hdistinct
    obtain ⟨hc, hcs⟩ := List.forall_mem_cons.mp hfrees
    obtain ⟨haccepts, halone⟩ := List.forall_mem_cons.mp halone
    refine ⟨hc, haccepts, hdistinct, ?_, hconfig ▸ halone⟩
    intro d hd
    refine (hfree _).mpr ⟨?_, hcs d hd⟩
    intro heq
    exact hnew (List.mem_map.mpr ⟨d, hd, heq⟩)
  · rintro ⟨hc, haccepts, hdistinct, hcs, halone⟩
    rw [hconfig] at halone
    refine ⟨List.nodup_cons.mpr ⟨?_, hdistinct⟩, List.forall_mem_cons.mpr ⟨hc, ?_⟩,
      List.forall_mem_cons.mpr ⟨haccepts, halone⟩⟩
    · intro hmem
      obtain ⟨d, hd, heq⟩ := List.mem_map.mp hmem
      exact ((hfree _).mp (hcs d hd)).1 heq
    · intro d hd
      exact ((hfree _).mp (hcs d hd)).2

theorem AcceptsBatch.of_perm {cs' : List ClassDef} (h : s.AcceptsBatch cs) (hperm : cs'.Perm cs) :
    s.AcceptsBatch cs' where
  distinct := (hperm.map _).nodup_iff.mpr h.distinct
  free c hc := h.free c (hperm.mem_iff.mp hc)
  alone c hc := h.alone c (hperm.mem_iff.mp hc)

theorem run_defineClasses_of_error {err : Error} (hrun : s.run (defineClass c) = (.error err, t))
    (cs : List ClassDef) : s.run (defineClasses (c :: cs)) = (.error err, t) := by
  unfold defineClasses
  rw [List.mapM_cons, run_bind, hrun]

theorem run_defineClasses_of_ok (hrun : s.run (defineClass c) = (.ok e, t))
    (cs : List ClassDef) : s.run (defineClasses (c :: cs)) =
      ((t.run (defineClasses cs)).1.map (e :: ·), (t.run (defineClasses cs)).2) := by
  unfold defineClasses
  rw [List.mapM_cons, run_bind, hrun]
  simp only [run_bind]
  rcases t.run (cs.mapM defineClass) with ⟨err | es, u⟩ <;> rfl

/-- A batch, taken in the order in which it stands. -/
theorem run_defineClasses (hs : s.Sound) (hopen : s.classes.sealedOrder = none)
    (cs : List ClassDef) :
    ((s.run (defineClasses cs)).1.isOk = true ↔ s.AcceptsBatch cs) ∧
      ∀ es t, s.run (defineClasses cs) = (.ok es, t) →
        List.Forall₂ s.config.Makes cs es ∧
          t.classes.items = es.reverse ++ s.classes.items := by
  induction cs generalizing s with
  | nil =>
      refine ⟨iff_of_true rfl acceptsBatch_nil, ?_⟩
      intro es t hrun
      cases hrun
      exact ⟨.nil, rfl⟩
  | cons c cs ih =>
      have hfirst := isOk_run_defineClass_iff (c := c) hs
      rw [available_eq_ok_iff, and_iff_right hopen] at hfirst
      cases hrun : s.run (defineClass c) with
      | mk r t =>
          rw [hrun] at hfirst
          cases r with
          | error err =>
              rw [run_defineClasses_of_error hrun]
              refine ⟨iff_of_false nofun ?_, nofun⟩
              intro haccepts
              have hc : c ∈ c :: cs := List.mem_cons_self
              cases hfirst.mpr ⟨haccepts.free c hc, haccepts.alone c hc⟩
          | ok e =>
              -- The session that the first class leaves is sound and open again and has one class
              -- more, so the induction hypothesis is about the rest of the batch in it.
              obtain ⟨ht, hlog, -, -⟩ := (builds_defineClass c).of_run hs hrun
              obtain ⟨hsealed, hitems⟩ := addsClass_defineClass c s
              rw [hrun] at hsealed hitems
              have hmakes := makes_of_run hs hrun
              obtain ⟨hiff, hbuilt⟩ := ih ht (hsealed.trans hopen)
              obtain ⟨hnew, halone⟩ := hfirst.mp rfl
              rw [run_defineClasses_of_ok hrun]
              refine ⟨?_, ?_⟩
              · rw [Plan.isOk_map, hiff, acceptsBatch_cons_iff hlog.config hitems hmakes.type,
                  and_iff_right hnew, and_iff_right halone]
              · intro es u hes
                obtain ⟨hmap, hu⟩ := Prod.mk.inj hes
                obtain ⟨es', hrest, rfl⟩ := map_eq_ok_iff.mp hmap
                obtain ⟨hall, hitems'⟩ := hbuilt es' u (Prod.ext hrest hu)
                rw [hlog.config] at hall
                refine ⟨.cons hmakes hall, ?_⟩
                rw [hitems', hitems, List.reverse_cons, List.append_assoc]
                rfl

/-! ## What comes of a batch that fails -/

theorem extends_askEach (s : Session) (rs : List Request) : s.Extends (s.askEach rs).2 := by
  induction rs generalizing s with
  | nil => exact Extends.refl s
  | cons r rs ih =>
      have hask : s.Extends (s.run (ask r)).2 := by
        rw [← History.step_ask_session ⟨s, [], []⟩ r, History.step_session]
        exact extending_act (.ask r) s
      exact hask.trans (ih _)

theorem Sound.askEach (hs : s.Sound) (rs : List Request) : (s.askEach rs).2.Sound := by
  induction rs generalizing s with
  | nil => exact hs
  | cons r rs ih => exact ih (Keeps.of_follows (follows_ask r) hs).1

theorem Sound.defineClasses (hs : s.Sound) (cs : List ClassDef) :
    (s.run (defineClasses cs)).2.Sound :=
  (Keeps.mapM (fun c _ => Keeps.of_follows (builds_defineClass c)) cs hs).1

/-- A class of a session is the class of its type in every session that extends it. -/
theorem class?_of_extends (hs : s.Sound) (ht : t.Sound) (h : s.Extends t) {d : String}
    (hclass : s.class? d = some e) : t.class? d = some e := by
  obtain ⟨hmem, htype⟩ := (class?_eq_some_iff hs).mp hclass
  exact (class?_eq_some_iff ht).mpr ⟨h.classes.items.subset hmem, htype⟩

/-! ## Batches -/

/-- Builds the classes of a batch in a given order, each of them along with its place in the batch,
and gives them in the order of their places. -/
def defineClassesIn (order : List (ClassDef × Nat)) : Build (List ClassEntry) := do
  let built ← defineClasses (order.map Prod.fst)
  return inPlace (built.zip (order.map Prod.snd))

theorem run_defineClassesIn (s : Session) (order : List (ClassDef × Nat)) :
    s.run (defineClassesIn order) =
      ((s.run (defineClasses (order.map Prod.fst))).1.map fun es =>
        inPlace (es.zip (order.map Prod.snd)), (s.run (defineClasses (order.map Prod.fst))).2) := by
  unfold defineClassesIn
  rw [run_bind]
  rcases s.run (defineClasses (order.map Prod.fst)) with ⟨err | es, t⟩ <;> rfl

/-- What comes of a batch. It succeeds exactly if it is accepted, and then gives what each
definition makes in the order in which these were given, which are the classes that it added. If it
fails, with whatever class calls after the one that failed, the session holds all that it held. -/
structure RunsBatch (s : Session) (cs : List ClassDef) (batch : Build (List ClassEntry)) :
    Prop where
  accepts_iff : (s.run batch).1.isOk = true ↔ s.AcceptsBatch cs
  built : ∀ es t, s.run batch = (.ok es, t) → List.Forall₂ s.config.Makes cs es ∧
    ∃ added, t.classes.items = added ++ s.classes.items ∧ added.Perm es
  kept : ∀ err t, s.run batch = (.error err, t) → ∀ late : List ClassDef,
    s.Extends (t.askEach (late.map .classDef)).2 ∧
      ∀ d e, s.class? d = some e → (t.askEach (late.map .classDef)).2.class? d = some e

theorem runsBatch (hs : s.Sound) (hopen : s.classes.sealedOrder = none)
    {order : List (ClassDef × Nat)} (horder : order.Perm cs.zipIdx) :
    s.RunsBatch cs (defineClassesIn order) := by
  have hperm : (order.map Prod.fst).Perm cs := by
    have hmap := horder.map Prod.fst
    rwa [List.zipIdx_map_fst] at hmap
  obtain ⟨hiff, hbuilt⟩ := run_defineClasses hs hopen (order.map Prod.fst)
  refine ⟨?_, ?_, ?_⟩
  · rw [run_defineClassesIn, Plan.isOk_map, hiff]
    exact ⟨fun h => h.of_perm hperm.symm, fun h => h.of_perm hperm⟩
  · intro es t hrun
    rw [run_defineClassesIn] at hrun
    obtain ⟨hmap, ht⟩ := Prod.mk.inj hrun
    obtain ⟨built, hrest, rfl⟩ := map_eq_ok_iff.mp hmap
    obtain ⟨hall, hitems⟩ := hbuilt built t (Prod.ext hrest ht)
    refine ⟨forall₂_inPlace horder hall, built.reverse, hitems, ?_⟩
    have hlength : built.length = (order.map Prod.snd).length := by
      rw [← hall.length_eq, List.length_map, List.length_map]
    have hplaced := inPlace_perm (built.zip (order.map Prod.snd))
    rw [List.map_fst_zip (Nat.le_of_eq hlength)] at hplaced
    exact (List.reverse_perm built).trans hplaced.symm
  · intro err t hrun late
    have hst : s.Extends (s.run (defineClassesIn order)).2 := by
      rw [run_defineClassesIn]
      exact stepwise_extending.mapM extending_defineClass _ s
    have ht : (s.run (defineClassesIn order)).2.Sound := by
      rw [run_defineClassesIn]
      exact hs.defineClasses _
    rw [hrun] at hst ht
    have hlate := hst.trans (extends_askEach t (late.map .classDef))
    exact ⟨hlate, fun d e => class?_of_extends hs (ht.askEach _) hlate⟩

/-- The order in which a batch stands is one of the orders that it can be taken in. -/
theorem run_defineClassesIn_zipIdx (hs : s.Sound) (hopen : s.classes.sealedOrder = none)
    (cs : List ClassDef) :
    s.run (defineClassesIn cs.zipIdx) = s.run (defineClasses cs) := by
  obtain ⟨-, hbuilt⟩ := run_defineClasses hs hopen cs
  rw [run_defineClassesIn, List.zipIdx_map_fst]
  cases hrun : s.run (defineClasses cs) with
  | mk r t =>
      cases r with
      | error err => rfl
      | ok es =>
          obtain ⟨hall, -⟩ := hbuilt es t hrun
          have hlength : es.length = (cs.zipIdx.map Prod.snd).length := by
            rw [← hall.length_eq, List.length_map, List.length_zipIdx]
          have hplaces : ((es.zip (cs.zipIdx.map Prod.snd)).map Prod.snd).Pairwise (· < ·) := by
            rw [List.map_snd_zip (Nat.le_of_eq hlength.symm)]
            exact places_zipIdx cs
          have hinPlace : inPlace (es.zip (cs.zipIdx.map Prod.snd)) = es := by
            rw [inPlace, Sorted.sort_eq_self (ascending_of_places hplaces),
              List.map_fst_zip (Nat.le_of_eq hlength)]
          exact congrArg (fun es => (Except.ok es, t)) hinPlace

/-- In every reachable session whose classes are not sealed, a batch comes to the same whatever
order its classes are taken in, be it the order in which they stand. -/
theorem batches_any_order (hs : s.Reachable) (hopen : s.classes.isSealed = false)
    (cs : List ClassDef) :
    (∀ order : List (ClassDef × Nat), order.Perm cs.zipIdx →
      s.RunsBatch cs (defineClassesIn order)) ∧
        s.run (defineClassesIn cs.zipIdx) = s.run (defineClasses cs) := by
  have hnone := Option.isSome_eq_false_iff.mp hopen
  rw [Option.isNone_iff_eq_none] at hnone
  exact ⟨fun _ horder => runsBatch hs.sound hnone horder,
    run_defineClassesIn_zipIdx hs.sound hnone cs⟩

end Session

/-- A class that has all but its type in common with every other class made so: its annotations, the
type of its field, the prototype and the body of its method, and what the body refers to. -/
def ClassDef.sharing (type : String) : ClassDef :=
  { ClassDef.sample with
    type
    instanceFields := [⟨type, "next", "LWorker;", .isPublic, none, ClassDef.sample.annotations⟩]
    directMethods := []
    virtualMethods := [⟨type, "run", [⟨"I", some "times", ClassDef.sample.annotations⟩], "V",
      .isPublic, ClassDef.sample.annotations, some .sample⟩] }

namespace Session

/-- Two classes that are taken last to first are given back first to last, and have the one entry
of their annotations. -/
theorem batches_sharing :
    let order := [(ClassDef.sharing "LTask;", 1), (.sharing "LIdler;", 0)]
    sample.classes.isSealed = false ∧ ∃ es t, sample.run (defineClassesIn order) = (.ok es, t) ∧
      es.map (fun e => e.type.text) = ["LIdler;", "LTask;"] ∧
        ∀ a ∈ es, ∀ b ∈ es, a.annotations = b.annotations := by
  intro order
  have hopen : sample.classes.isSealed = false := by decide +kernel
  have hruns := (batches_any_order Reachable.sample hopen
    [.sharing "LIdler;", .sharing "LTask;"]).1 order (List.Perm.swap _ _ _)
  have hok : (sample.run (defineClassesIn order)).1.isOk = true := by decide +kernel
  have hshared : ∀ a ∈ (sample.run (defineClassesIn order)).1.toOption.getD [],
      ∀ b ∈ (sample.run (defineClassesIn order)).1.toOption.getD [],
        a.annotations = b.annotations := by
    decide +kernel
  refine ⟨hopen, ?_⟩
  cases hrun : sample.run (defineClassesIn order) with
  | mk r t =>
      rw [hrun] at hok hshared
      cases r with
      | error err => cases hok
      | ok es =>
          obtain ⟨hbuilt, -⟩ := hruns.built es t hrun
          refine ⟨es, t, rfl, ?_, hshared⟩
          cases hbuilt with
          | cons hfirst hrest =>
              cases hrest with
              | cons hsecond hnil =>
                  cases hnil
                  rw [List.map_cons, List.map_cons, hfirst.type, hsecond.type]
                  rfl

end Session

end DexPools
