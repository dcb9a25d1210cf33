import DexPools.Proofs.Identity
import DexPools.Proofs.InstructionStream

/-!
# Resolving twice

What a session made of an instruction, a try block, a debug item or a body is made of its own
entries. When the same is given again, each of its texts is looked up and found: every operation
gives the entry that stands in that place already and leaves the session as it is. `Yields` says so
of an operation, and it composes along the operations as they are written, so that nothing has to
be known of the order in which entries are looked up.

Entries stay where they are whatever comes later. So a session that resolved something once
resolves it, and what came of it, to the same ever after.
-/

namespace DexPools

/-! ## Operations that find what is there -/

/-- The operation gives `a` and leaves the session as it is. -/
def Session.Yields {α : Type} (s : Session) (op : Build α) (a : α) : Prop :=
  s.run op = (.ok a, s)

namespace Session

variable {α β : Type} {s : Session}

namespace Yields

theorem pure (a : α) : s.Yields (Pure.pure a) a :=
  rfl

theorem bind {op : Build α} {f : α → Build β} {a : α} {b : β} (h : s.Yields op a)
    (hf : s.Yields (f a) b) : s.Yields (op >>= f) b := by
  rw [Yields, run_bind, h]
  exact hf

theorem map {op : Build α} {a : α} (f : α → β) (h : s.Yields op a) :
    s.Yields (op >>= fun a => Pure.pure (f a)) (f a) :=
  h.bind (pure (f a))

theorem mapM {f : α → Build α} {as : List α} (h : ∀ a ∈ as, s.Yields (f a) a) :
    s.Yields (as.mapM f) as := by
  induction as with
  | nil =>
      rw [List.mapM_nil]
      exact pure []
  | cons a as ih =>
      rw [List.mapM_cons]
      refine (h a List.mem_cons_self).bind ?_
      exact (ih fun b hb => h b (List.mem_cons_of_mem _ hb)).map _

theorem traverseOption {f : α → Build α} :
    ∀ {o : Option α}, (∀ a ∈ o.toList, s.Yields (f a) a) → s.Yields (traverseOption f o) o
  | none, _ => pure none
  | some a, h => (h a List.mem_cons_self).map some

/-- Checks that all pass change nothing. -/
theorem forM_check {γ : Type} {g : γ → Except Error Unit} {xs : List γ}
    (h : ∀ x ∈ xs, g x = .ok ()) : s.Yields (xs.forM fun x => liftM (g x) : Build Unit) () := by
  induction xs with
  | nil => exact pure ()
  | cons x xs ih =>
      have hx : s.Yields (liftM (g x) : Build Unit) () := by
        rw [Yields, run_check, h x List.mem_cons_self]
      exact hx.bind (ih fun y hy => h y (List.mem_cons_of_mem _ hy))

end Yields

/-! ## Operands -/

theorem yields_internString {e : StringEntry} (he : s.HoldsAll e.items) :
    s.Yields (internString e.text) e := by
  rw [internString_eq]
  exact Shelf.strings.run_intern_of_holds (he _ List.mem_cons_self) _

theorem yields_internType {e : TypeEntry} (he : s.HoldsAll e.items) :
    s.Yields (internType e.text) e := by
  rw [internType_eq]
  exact Shelf.types.run_intern_of_holds (he _ List.mem_cons_self) _

theorem yields_internReference {r : PooledReference} (hr : s.HoldsAll r.items) :
    s.Yields (internReference r.readBack) r := by
  cases r with
  | string e => exact (yields_internString hr).map PooledReference.string
  | type e => exact (yields_internType hr).map PooledReference.type
  | field e =>
      have he : s.Yields (internField e.ref) e := by
        rw [internField_eq]
        exact Shelf.fields.run_intern_of_holds (hr _ List.mem_cons_self) _
      exact he.map PooledReference.field
  | method e =>
      have he : s.Yields (internMethod e.ref) e := by
        rw [internMethod_eq]
        exact Shelf.methods.run_intern_of_holds (hr _ List.mem_cons_self) _
      exact he.map PooledReference.method
  | methodProto e =>
      have he : s.Yields (internProto e.ref) e := by
        rw [internProto_eq]
        exact Shelf.protos.run_intern_of_holds (hr _ List.mem_cons_self) _
      exact he.map PooledReference.methodProto

/-! ## Instructions, try blocks, debug items -/

/-- Putting each reference in its own place gives the instruction back. -/
theorem Yields.instruction {ρ : Type} {f : ρ → Build ρ} {i : Instruction ρ}
    (h : ∀ r ∈ i.references, s.Yields (f r) r) : s.Yields (i.traverse f) i := by
  have hone : ∀ r, i.references = [r] → s.Yields (f r) r := fun r hr => h r (by simp [hr])
  have htwo : ∀ r r', i.references = [r, r'] → s.Yields (f r) r ∧ s.Yields (f r') r' :=
    fun r r' hr => ⟨h r (by simp [hr]), h r' (by simp [hr])⟩
  cases i with
  | f20bc op error r => exact (hone r rfl).map _
  | f21c op a r => exact (hone r rfl).map _
  | f22c op a b r => exact (hone r rfl).map _
  | f31c op a r => exact (hone r rfl).map _
  | f35c op registers r => exact (hone r rfl).map _
  | f3rc op start count r => exact (hone r rfl).map _
  | f45cc op registers r r' => exact (htwo r r' rfl).1.bind ((htwo r r' rfl).2.map _)
  | f4rcc op start count r r' => exact (htwo r r' rfl).1.bind ((htwo r r' rfl).2.map _)
  | _ => exact pure _

end Session

theorem Instruction.traverse_map {ρ ρ' ρ'' : Type} (f : ρ' → Build ρ'') (g : ρ → ρ')
    (i : Instruction ρ) : (i.map g).traverse f = i.traverse fun r => f (g r) := by
  cases i <;> rfl

theorem traverseOption_map {α β γ : Type} (f : β → Build γ) (g : α → β) (o : Option α) :
    traverseOption f (o.map g) = traverseOption (fun a => f (g a)) o := by
  cases o <;> rfl

namespace Session

variable {s : Session}

/-- Resolving what a resolved instruction reads back to is resolving it again. -/
theorem resolveInstruction_readBack (i : Instruction PooledReference) :
    resolveInstruction (i.map PooledReference.readBack) = resolveAgain i :=
  Instruction.traverse_map internReference PooledReference.readBack i

theorem resolveDebugItem_readBack (d : DebugItem StringEntry TypeEntry) :
    resolveDebugItem (d.map StringEntry.text TypeEntry.text) = resolveDebugItemAgain d := by
  cases d with
  | startLocal =>
      rw [DebugItem.map_startLocal]
      simp only [resolveDebugItem, resolveDebugItemAgain, DebugItem.traverse, traverseOption_map]
  | setSourceFile =>
      rw [DebugItem.map_setSourceFile]
      simp only [resolveDebugItem, resolveDebugItemAgain, DebugItem.traverse, traverseOption_map]
  | _ => rfl

theorem yields_resolveAgain {i : Instruction PooledReference} (hi : s.HoldsAll i.items) :
    s.Yields (resolveAgain i) i := by
  rw [Instruction.items, holdsAll_flatMap] at hi
  exact Yields.instruction fun r hr => yields_internReference (hi r hr)

theorem yields_resolveTry {b : TryBlock TypeEntry} (hb : s.HoldsAll b.items) :
    s.Yields (resolveTry (b.map TypeEntry.text)) b := by
  rw [TryBlock.items, holdsAll_flatMap] at hb
  have hhandlers : s.Yields ((b.handlers.map fun h => ⟨h.type.map TypeEntry.text, h.address⟩).mapM
      (Handler.traverse internType)) b.handlers := by
    rw [List.mapM_map]
    refine Yields.mapM fun h hh => ?_
    have hitems := hb h hh
    rw [Handler.items, holdsAll_flatMap] at hitems
    have htype : s.Yields (traverseOption internType (h.type.map TypeEntry.text)) h.type := by
      rw [traverseOption_map]
      exact Yields.traverseOption fun e he => yields_internType (hitems e he)
    exact htype.map fun type => Handler.mk type h.address
  rw [TryBlock.map_eq]
  exact hhandlers.map (TryBlock.mk b.start b.count)

theorem yields_resolveDebugItemAgain {d : DebugItem StringEntry TypeEntry}
    (hd : s.HoldsAll d.items) : s.Yields (resolveDebugItemAgain d) d := by
  cases d with
  | startLocal address register name type signature =>
      simp only [DebugItem.items, holdsAll_append, holdsAll_flatMap] at hd
      obtain ⟨⟨hname, htype⟩, hsignature⟩ := hd
      refine (Yields.traverseOption fun e he => yields_internString (hname e he)).bind ?_
      refine (Yields.traverseOption fun e he => yields_internType (htype e he)).bind ?_
      exact (Yields.traverseOption fun e he => yields_internString (hsignature e he)).map _
  | setSourceFile address file =>
      simp only [DebugItem.items, holdsAll_flatMap] at hd
      exact (Yields.traverseOption fun e he => yields_internString (hd e he)).map _
  | _ => exact Yields.pure _

/-- A body is taken again where its instructions pass the checks. -/
theorem yields_internBody {b : PooledBody} (hb : s.HoldsAll b.items)
    (hchecks : ∀ i ∈ (PooledBody.readBack b).instructions,
      checkInstruction s.config.apiLevel i = .ok ()) :
    s.Yields (internBody (PooledBody.readBack b)) b := by
  simp only [Body.items, holdsAll_append, holdsAll_flatMap] at hb
  obtain ⟨⟨hinstructions, htries⟩, hdebugItems⟩ := hb
  have hread : s.Yields (get : Build Session) s := rfl
  refine hread.bind ((Yields.forM_check hchecks).bind ?_)
  simp only [PooledBody.readBack, List.mapM_map]
  have hi : s.Yields (b.instructions.mapM
      (resolveInstruction ∘ Instruction.map PooledReference.readBack)) b.instructions :=
    Yields.mapM fun i hi => by
      rw [Function.comp, resolveInstruction_readBack]
      exact yields_resolveAgain (hinstructions i hi)
  have ht : s.Yields (b.tries.mapM (resolveTry ∘ TryBlock.map TypeEntry.text)) b.tries :=
    Yields.mapM fun t ht => yields_resolveTry (htries t ht)
  have hd : s.Yields (b.debugItems.mapM
      (resolveDebugItem ∘ DebugItem.map StringEntry.text TypeEntry.text)) b.debugItems :=
    Yields.mapM fun d hd => by
      rw [Function.comp, resolveDebugItem_readBack]
      exact yields_resolveDebugItemAgain (hdebugItems d hd)
  exact hi.bind (ht.bind (hd.map (Body.mk b.registers b.instructions b.tries)))

end Session

/-! ## Later sessions -/

/-- What is resolved: instructions, try blocks, debug items and bodies. -/
def Request.isCode : Request → Bool
  | instruction _ | tryBlock _ | debugItem _ | body _ => true
  | _ => false

/-- The instructions that were resolved for a request. So `Answer.debugItems` of debug items. -/
def Answer.instructions : Answer → List (Instruction PooledReference)
  | instruction i => [i]
  | body b => b.instructions
  | _ => []

def Answer.debugItems : Answer → List (DebugItem StringEntry TypeEntry)
  | debugItem d => [d]
  | body b => b.debugItems
  | _ => []

namespace Session

/-- Whether a session resolves a request, and what comes of it, to what came of it, and is the same
session after it. -/
structure Settles (s : Session) (r : Request) (a : Answer) : Prop where
  given : s.run (ask r) = (.ok a, s)
  instructions : ∀ i ∈ a.instructions, s.run (resolveAgain i) = (.ok i, s)
  debugItems : ∀ d ∈ a.debugItems, s.run (resolveDebugItemAgain d) = (.ok d, s)

variable {s t u : Session} {r : Request} {a : Answer}

/-- What was resolved once is settled in every session that has the entries and the configuration
of then. -/
theorem settles_of_run (hs : s.Sound) (hr : r.isCode = true) (hrun : s.run (ask r) = (.ok a, t))
    (hgrows : t.Grows u) (hconfig : u.config = t.config) : u.Settles r a := by
  have hnone : ∀ {α : Type} {p : α → Prop}, ∀ x ∈ ([] : List α), p x :=
    fun _ hx => absurd hx List.not_mem_nil
  cases r with
  | instruction i =>
      obtain ⟨j, hj, rfl⟩ := run_map_eq_ok_iff.mp hrun
      obtain ⟨-, -, -, hreads⟩ := (builds_resolveInstruction i).of_run hs hj
      have hagain : u.Yields (resolveAgain j) j :=
        yields_resolveAgain (hgrows.holdsAll hreads.holdsAll)
      have hgiven : u.Yields (resolveInstruction i) j := by
        rwa [← show j.map PooledReference.readBack = i from hreads.text,
          resolveInstruction_readBack]
      refine ⟨hgiven.map Answer.instruction, fun i' hi' => ?_, hnone⟩
      rw [List.mem_singleton.mp hi']
      exact hagain
  | tryBlock b =>
      obtain ⟨c, hc, rfl⟩ := run_map_eq_ok_iff.mp hrun
      obtain ⟨-, -, -, hreads⟩ := (builds_resolveTry b).of_run hs hc
      have hgiven : u.Yields (resolveTry b) c := by
        rw [← show c.map TypeEntry.text = b from hreads.text]
        exact yields_resolveTry (hgrows.holdsAll hreads.holdsAll)
      exact ⟨hgiven.map Answer.tryBlock, hnone, hnone⟩
  | debugItem d =>
      obtain ⟨e, he, rfl⟩ := run_map_eq_ok_iff.mp hrun
      obtain ⟨-, -, -, hreads⟩ := (builds_resolveDebugItem d).of_run hs he
      have hagain : u.Yields (resolveDebugItemAgain e) e :=
        yields_resolveDebugItemAgain (hgrows.holdsAll hreads.holdsAll)
      have hgiven : u.Yields (resolveDebugItem d) e := by
        rwa [← show e.map StringEntry.text TypeEntry.text = d from hreads.text,
          resolveDebugItem_readBack]
      refine ⟨hgiven.map Answer.debugItem, hnone, fun d' hd' => ?_⟩
      rw [List.mem_singleton.mp hd']
      exact hagain
  | body b =>
      obtain ⟨c, hc, rfl⟩ := run_map_eq_ok_iff.mp hrun
      obtain ⟨-, hafter, hplan, hreads⟩ := (builds_internBody b).of_run hs hc
      have hitems : u.HoldsAll c.items := hgrows.holdsAll hreads.holdsAll
      -- The level that the instructions were checked for is that of the later session.
      have hchecks : ∀ i ∈ b.instructions, checkInstruction u.config.apiLevel i = .ok () := by
        rw [hconfig, hafter.config]
        exact Plan.checks_of_body_ok hplan
      have hgiven : u.Yields (internBody b) c := by
        rw [← show PooledBody.readBack c = b from hreads.text] at hchecks ⊢
        exact yields_internBody hitems hchecks
      simp only [Body.items, holdsAll_append, holdsAll_flatMap] at hitems
      exact ⟨hgiven.map Answer.body, fun i hi => yields_resolveAgain (hitems.1.1 i hi),
        fun d hd => yields_resolveDebugItemAgain (hitems.2 d hd)⟩
  | _ => cases hr

end Session

namespace History

open Session

variable {h : History} {ops : List Operation}

/-- Whatever was resolved in a reachable session is settled from then on, whatever operations
follow. -/
theorem resolutionSettles (hh : h.Reachable) {r : Request} (hr : r.isCode = true) {a : Answer}
    {t : Session} (hrun : h.session.run (Session.ask r) = (.ok a, t))
    (hops : (h.step (.ask r)).OwnsEach ops) :
    t.Settles r a ∧ ((h.step (.ask r)).steps ops).session.Settles r a := by
  have ht : (h.step (.ask r)).session = t := by rw [step_ask_session, hrun]
  have howns : h.Owns (.ask r) := trivial
  have hgrows : t.Grows ((h.step (.ask r)).steps ops).session :=
    ht ▸ (hh.sound.step howns).grows_steps hops
  have hconfig : ((h.step (.ask r)).steps ops).session.config = t.config :=
    ht ▸ (extends_steps (h.step (.ask r)) ops).config
  exact ⟨settles_of_run hh.sound.session hr hrun (Grows.refl t) rfl,
    settles_of_run hh.sound.session hr hrun hgrows hconfig⟩

/-- A body in a new session, which then gets a class and hands out its classes in order. -/
theorem resolutionSettles_sample : ∃ a t,
    (Session.new .strict).run (Session.ask (.body .sample)) = (.ok a, t) ∧
      (((History.new .strict).step (.ask (.body .sample))).steps
        [.ask (.classDef .sample), .sortedClasses]).session.Settles (.body .sample) a := by
  have hok : ((Session.new .strict).run (Session.ask (.body .sample))).1.isOk = true := by
    decide +kernel
  obtain ⟨a, t, hrun⟩ := exists_run_of_isOk hok
  have hops : ((History.new .strict).step (.ask (.body .sample))).OwnsEach
      [.ask (.classDef .sample), .sortedClasses] := ⟨trivial, trivial, trivial⟩
  exact ⟨a, t, hrun, (resolutionSettles (.new .strict) rfl hrun hops).2⟩

end History

end DexPools
