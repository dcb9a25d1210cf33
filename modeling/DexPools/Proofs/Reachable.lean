import DexPools.Proofs.Numbering
import DexPools.Proofs.Requests

/-!
# Reachable sessions

A session is reachable if it comes from a new one by operations, each of which may fail. What is
not named by text is named by what the session handed out: entries, classes, and the fields and
methods that were defined one by one or belong to a class. So a history keeps the members that
were handed out, and an operation may only name what is the session's own.

Every reachable session is sound. The invariant is carried from operation to operation: the
operations that build follow their plans, and the others change slots, the seal and the notes only.
-/

namespace DexPools

/-- An operation of a session. Those that only read are left out. So is asking a pool of annotations
with a way of one's own to put in the parts of an annotation: it has to put in just these parts, and
asking for them one by one and then for the annotation leads to the same session. -/
inductive Operation where
  | ask (r : Request)
  | askAll (cs : List ClassDef)
  | resolveAgain (i : Instruction PooledReference)
  | resolveDebugItemAgain (d : DebugItem StringEntry TypeEntry)
  | classFrom (header : ClassHeader) (fields : List PooledField) (methods : List PooledMethod)
  | sortedClasses
  | note (d : Diagnostic)
  | setNumber (i : Item) (n : UInt32)
  | setClassSlot (c : ClassEntry) (slot : ClassSlot) (value : UInt32)
  | setMethodSlot (m : PooledMethod) (slot : MethodSlot) (value : UInt32)

/-- Runs an operation and gives the members that it hands out. -/
def Operation.act : Operation → Build (List PooledField × List PooledMethod)
  | ask r => do
      let answer ← Session.ask r
      return (answer.fields, answer.methods)
  | askAll cs => do
      let _ ← Session.defineClasses cs
      return ([], [])
  | resolveAgain i => do
      let _ ← Session.resolveAgain i
      return ([], [])
  | resolveDebugItemAgain d => do
      let _ ← Session.resolveDebugItemAgain d
      return ([], [])
  | classFrom header fields methods => do
      let _ ← Session.defineClassFrom header fields methods
      return ([], [])
  | sortedClasses => do
      let _ ← Session.sortedClasses
      return ([], [])
  | note d => do
      Session.note d
      return ([], [])
  | setNumber i n => do
      Session.setNumber i n
      return ([], [])
  | setClassSlot c slot value => do
      Session.setClassSlot c slot value
      return ([], [])
  | setMethodSlot m slot value => do
      Session.setMethodSlot m slot value
      return ([], [])

/-- The operations of a writer. -/
def Operation.writesSlot : Operation → Bool
  | setNumber .. | setClassSlot .. | setMethodSlot .. => true
  | _ => false

/-- A session with the members that it handed out so far. -/
structure History where
  session : Session
  fields : List PooledField
  methods : List PooledMethod

namespace History

/-- Whether a field was handed out, by itself or in a class. So `OwnsMethod` of methods. -/
def OwnsField (h : History) (f : PooledField) : Prop :=
  f ∈ h.fields ∨ ∃ c ∈ h.session.classes.items, f ∈ c.fields

def OwnsMethod (h : History) (m : PooledMethod) : Prop :=
  m ∈ h.methods ∨ ∃ c ∈ h.session.classes.items, m ∈ c.methods

/-- Whether an operation names only what is the session's own. -/
def Owns (h : History) : Operation → Prop
  | .ask _ | .askAll _ | .sortedClasses | .note _ => True
  | .resolveAgain i => h.session.HoldsAll i.items
  | .resolveDebugItemAgain d => h.session.HoldsAll d.items
  | .classFrom _ fields methods => (∀ f ∈ fields, h.OwnsField f) ∧ ∀ m ∈ methods, h.OwnsMethod m
  | .setNumber i _ => h.session.Holds i
  | .setClassSlot c _ _ => c ∈ h.session.classes.items
  | .setMethodSlot m _ _ => h.OwnsMethod m

/-- The history after an operation, whether it fails or not. -/
def step (h : History) (op : Operation) : History :=
  match h.session.run op.act with
  | (.ok (fields, methods), s) => ⟨s, fields ++ h.fields, methods ++ h.methods⟩
  | (.error _, s) => ⟨s, h.fields, h.methods⟩

inductive Reachable : History → Prop
  | new (config : Config) : Reachable ⟨Session.new config, [], []⟩
  | step {h : History} {op : Operation} : Reachable h → h.Owns op → Reachable (h.step op)

end History

def Session.Reachable (s : Session) : Prop :=
  ∃ fields methods, History.Reachable ⟨s, fields, methods⟩

/-! ## Operations keep a session sound -/

namespace Session

variable {α β : Type} {s : Session}

theorem run_update_of_ok {f : Session → Except Error Session} {t : Session} (h : f s = .ok t) :
    s.run (update f) = (.ok (), t) := by
  unfold update
  rw [run_bind, run_get]
  simp only [h]
  rfl

theorem run_update_of_error {f : Session → Except Error Session} {e : Error}
    (h : f s = .error e) : s.run (update f) = (.error e, s) := by
  unfold update
  rw [run_bind, run_get]
  simp only [h]
  rfl

/-- An operation that keeps a session sound, its entries and its configuration, whether it fails
or not. -/
def Keeps (s : Session) (op : Build α) : Prop :=
  s.Sound → (s.run op).2.Sound ∧ s.Grows (s.run op).2 ∧ (s.run op).2.config = s.config

namespace Keeps

theorem of_follows {op : Build α} {p : Plan Unit} {R : Session → α → Prop}
    (h : s.Follows op p R) : s.Keeps op := by
  intro hs
  obtain ⟨ht, hlog⟩ := h.after hs
  exact ⟨ht, hlog.grows, hlog.config⟩

theorem pure (a : α) : s.Keeps (Pure.pure a) :=
  fun hs => ⟨hs, Grows.refl s, rfl⟩

theorem bind {op : Build α} {f : α → Build β} (h : s.Keeps op)
    (hf : ∀ a t, s.run op = (.ok a, t) → t.Keeps (f a)) : s.Keeps (op >>= f) := by
  intro hs
  obtain ⟨ht, hgrows, hconfig⟩ := h hs
  rw [run_bind]
  cases hrun : s.run op with
  | mk r t =>
      rw [hrun] at ht hgrows hconfig
      cases r with
      | error e => exact ⟨ht, hgrows, hconfig⟩
      | ok a =>
          obtain ⟨hu, hgrows', hconfig'⟩ := hf a t hrun ht
          exact ⟨hu, hgrows.trans hgrows', hconfig'.trans hconfig⟩

theorem mapM {γ : Type} {f : γ → Build α} (h : ∀ x (t : Session), t.Keeps (f x)) (xs : List γ) :
    s.Keeps (xs.mapM f) := by
  induction xs generalizing s with
  | nil =>
      rw [List.mapM_nil]
      exact pure _
  | cons x xs ih =>
      rw [List.mapM_cons]
      exact bind (h x s) fun _ t _ => bind ih fun _ _ _ => pure _

theorem update {f : Session → Except Error Session}
    (h : ∀ t, f s = .ok t → s.Sound → t.Sound ∧ s.Grows t ∧ t.config = s.config) :
    s.Keeps (update f) := by
  intro hs
  cases hf : f s with
  | ok t =>
      rw [run_update_of_ok hf]
      exact h t hf hs
  | error e =>
      rw [run_update_of_error hf]
      exact ⟨hs, Grows.refl s, rfl⟩

end Keeps

theorem items_sorted (p : ClassPool) : p.sorted.2.items = p.items := by
  unfold ClassPool.sorted
  split <;> rfl

/-- Asking for the classes in order seals them and changes nothing else. -/
theorem keeps_sortedClasses : s.Keeps sortedClasses := by
  intro hs
  have hrun : s.run sortedClasses =
      (.ok s.classes.sorted.1, { s with classes := s.classes.sorted.2 }) := rfl
  rw [hrun]
  refine ⟨hs.of_find?_eq { hs.canonical with } (fun _ => rfl) (items_sorted _) ?_,
    Grows.refl s, rfl⟩
  intro order horder
  unfold ClassPool.sorted at horder
  split at horder
  · exact hs.sealedOrder order horder
  · cases horder
    rfl

theorem keeps_setNumber (i : Item) (n : UInt32) : s.Keeps (setNumber i n) :=
  Keeps.update fun _ ht hs =>
    have hrenumbered := renumbered_withNumber ht
    ⟨hrenumbered.sound hs, hrenumbered.grows, hrenumbered.config⟩

theorem keeps_setClassSlot (c : ClassEntry) (slot : ClassSlot) (value : UInt32) :
    s.Keeps (setClassSlot c slot value) := by
  refine Keeps.update fun t ht hs => ?_
  obtain ⟨slots, -, rfl⟩ := bind_pure_eq_ok_iff.mp ht
  exact ⟨hs.of_find?_eq { hs.canonical with } (fun _ => rfl) rfl hs.sealedOrder,
    Grows.refl s, rfl⟩

theorem keeps_setMethodSlot (m : PooledMethod) (slot : MethodSlot) (value : UInt32) :
    s.Keeps (setMethodSlot m slot value) := by
  refine Keeps.update fun t ht hs => ?_
  obtain ⟨slots, -, rfl⟩ := bind_pure_eq_ok_iff.mp ht
  exact ⟨hs.of_find?_eq { hs.canonical with } (fun _ => rfl) rfl hs.sealedOrder,
    Grows.refl s, rfl⟩

end Session

/-! ## The invariant of histories -/

namespace History

open Session

structure Sound (h : History) : Prop where
  session : h.session.Sound
  fields : ∀ f ∈ h.fields, h.session.Reads f f.readBack
  methods : ∀ m ∈ h.methods, h.session.Reads m m.readBack

variable {h : History}

theorem Sound.reads_field (hh : h.Sound) {f : PooledField} (hf : h.OwnsField f) :
    h.session.Reads f f.readBack := by
  rcases hf with hf | ⟨c, hc, hf⟩
  · exact hh.fields f hf
  · have hitems : h.session.HoldsAll c.items := (hh.session.classReads c hc).holdsAll
    simp only [ClassEntry.items, holdsAll_append, holdsAll_flatMap] at hitems
    exact ⟨rfl, hitems.1.2 f hf⟩

theorem Sound.reads_method (hh : h.Sound) {m : PooledMethod} (hm : h.OwnsMethod m) :
    h.session.Reads m m.readBack := by
  rcases hm with hm | ⟨c, hc, hm⟩
  · exact hh.methods m hm
  · have hreads := hh.session.classReads c hc
    have hitems : h.session.HoldsAll c.items := hreads.holdsAll
    simp only [ClassEntry.items, holdsAll_append, holdsAll_flatMap] at hitems
    exact ⟨⟨rfl, hreads.text.2 m hm⟩, hitems.2 m hm⟩

theorem reads_map {α β : Type} [Pooled α β] {s : Session} {f : α → β} {l : List α}
    (h : ∀ a ∈ l, s.Reads a (f a)) : s.Reads l (l.map f) := by
  induction l with
  | nil => exact reads_nil
  | cons a l ih =>
      have hrest := ih fun b hb => h b (List.mem_cons_of_mem _ hb)
      exact reads_cons_iff.mpr ⟨h a List.mem_cons_self, hrest⟩

/-- An operation that keeps the session and hands out members of the session only. -/
def HandsOut (s : Session) (act : Build (List PooledField × List PooledMethod)) : Prop :=
  s.Keeps act ∧ ∀ fields methods t, s.run act = (.ok (fields, methods), t) →
    (∀ f ∈ fields, t.Reads f f.readBack) ∧ ∀ m ∈ methods, t.Reads m m.readBack

theorem handsOut_nothing {α : Type} {s : Session} {act : Build α} (h : s.Keeps act) :
    HandsOut s (act >>= fun _ => pure ([], [])) := by
  refine ⟨h.bind fun _ _ _ => Keeps.pure _, fun fields methods t hrun => ?_⟩
  obtain ⟨a, -, hnothing⟩ := run_map_eq_ok_iff.mp hrun
  cases hnothing
  exact ⟨nofun, nofun⟩

theorem handsOut_ask {s : Session} (hs : s.Sound) (r : Request) :
    HandsOut s (Operation.ask r).act := by
  refine ⟨(Keeps.of_follows (follows_ask r)).bind fun _ _ _ => Keeps.pure _,
    fun fields methods t hrun => ?_⟩
  obtain ⟨a, hask, hmembers⟩ := run_map_eq_ok_iff.mp hrun
  cases hmembers
  obtain ⟨-, -, -, -, hreads⟩ := (follows_ask r).of_run hs hask
  exact hreads

theorem Sound.handsOut (hh : h.Sound) {op : Operation} (howns : h.Owns op) :
    HandsOut h.session op.act := by
  cases op with
  | ask r => exact handsOut_ask hh.session r
  | askAll cs =>
      exact handsOut_nothing (Keeps.mapM (fun c _ => Keeps.of_follows (builds_defineClass c)) cs)
  | resolveAgain i => exact handsOut_nothing (Keeps.of_follows (builds_resolveAgain i))
  | resolveDebugItemAgain d =>
      exact handsOut_nothing (Keeps.of_follows (builds_resolveDebugItemAgain d))
  | classFrom header fields methods =>
      exact handsOut_nothing (Keeps.of_follows (builds_defineClassFrom
        (reads_map fun f hf => hh.reads_field (howns.1 f hf))
        (reads_map fun m hm => hh.reads_method (howns.2 m hm))))
  | sortedClasses => exact handsOut_nothing keeps_sortedClasses
  | note d => exact handsOut_nothing (Keeps.of_follows (follows_note d))
  | setNumber i n => exact handsOut_nothing (keeps_setNumber i n)
  | setClassSlot c slot value => exact handsOut_nothing (keeps_setClassSlot c slot value)
  | setMethodSlot m slot value => exact handsOut_nothing (keeps_setMethodSlot m slot value)

theorem sound_new (config : Config) : Sound ⟨Session.new config, [], []⟩ :=
  ⟨Session.sound_new config, nofun, nofun⟩

/-- Every operation keeps the invariant. -/
theorem Sound.step (hh : h.Sound) {op : Operation} (howns : h.Owns op) : (h.step op).Sound := by
  obtain ⟨hkeeps, hout⟩ := hh.handsOut howns
  obtain ⟨ht, hgrows, -⟩ := hkeeps hh.session
  unfold History.step
  cases hrun : h.session.run op.act with
  | mk r t =>
      rw [hrun] at ht hgrows
      have hfields : ∀ f ∈ h.fields, t.Reads f f.readBack := fun f hf =>
        (hh.fields f hf).mono hgrows
      have hmethods : ∀ m ∈ h.methods, t.Reads m m.readBack := fun m hm =>
        (hh.methods m hm).mono hgrows
      cases r with
      | error e => exact ⟨ht, hfields, hmethods⟩
      | ok members =>
          obtain ⟨hnewFields, hnewMethods⟩ := hout members.1 members.2 t hrun
          refine ⟨ht, fun f hf => ?_, fun m hm => ?_⟩
          · exact (List.mem_append.mp hf).elim (hnewFields f) (hfields f)
          · exact (List.mem_append.mp hm).elim (hnewMethods m) (hmethods m)

theorem Reachable.sound (hh : h.Reachable) : h.Sound := by
  induction hh with
  | new config => exact sound_new config
  | step _ howns ih => exact ih.step howns

end History

theorem Session.Reachable.sound {s : Session} (hs : s.Reachable) : s.Sound := by
  obtain ⟨fields, methods, hh⟩ := hs
  exact hh.sound.session

theorem Session.Reachable.new (config : Config) : (Session.new config).Reachable :=
  ⟨[], [], .new config⟩

theorem Session.Reachable.ask {s : Session} (hs : s.Reachable) (r : Request) :
    (s.run (Session.ask r)).2.Reachable := by
  obtain ⟨fields, methods, hh⟩ := hs
  have hstep : History.Reachable (History.step ⟨s, fields, methods⟩ (.ask r)) := hh.step trivial
  rw [History.step, Operation.act, Session.run_bind] at hstep
  cases hrun : s.run (Session.ask r) with
  | mk out t =>
      rw [hrun] at hstep
      cases out with
      | ok a => exact ⟨_, _, hstep⟩
      | error e => exact ⟨_, _, hstep⟩

theorem Session.Reachable.defineClass {s : Session} (hs : s.Reachable) (c : ClassDef) :
    (s.run (Session.defineClass c)).2.Reachable := by
  have hask : (s.run (Session.ask (.classDef c))).2 = (s.run (Session.defineClass c)).2 :=
    run_map_snd _ _
  exact hask ▸ hs.ask _

/-! ## A class and a session with it -/

/-- A definition that is not in its one form: a static field stands among the others, an abstract
method among the direct ones, and an interface is given twice. -/
def ClassDef.sample : ClassDef where
  type := "LWorker;"
  flags := .isPublic
  superclass := some "Ljava/lang/Object;"
  interfaces := ["LTask;", "LTask;"]
  sourceFile := some "Worker.java"
  annotations := ⟨[⟨.runtime, "LTag;", [⟨"value", .int 7⟩]⟩]⟩
  staticFields := []
  instanceFields := [⟨"LWorker;", "count", "I", .static, some (.int 3), .empty⟩]
  directMethods :=
    [⟨"LWorker;", "run", [⟨"I", some "times", .empty⟩], "V", .abstract, .empty, none⟩]
  virtualMethods := []

def Session.sample : Session :=
  ((Session.new .strict).run (Session.ask (.classDef .sample))).2

theorem Session.Reachable.sample : Session.sample.Reachable :=
  (Session.Reachable.new .strict).ask _

end DexPools
