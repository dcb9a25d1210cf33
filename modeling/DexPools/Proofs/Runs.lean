import DexPools.Proofs.Stepwise

/-!
# Runs of a session

A run is a list of operations, taken one after the other whatever comes of each, and it may name
what was handed out on the way. A run keeps what each of its operations keeps. It ends in
a reachable session, which holds all that the session before it held and extends it.
-/

namespace DexPools

namespace Session

variable {α β : Type} {s : Session}

/-! ## Every operation extends the session -/

theorem extending_allocateMethodRow : Moves Extends allocateMethodRow := by
  intro s
  have hclasses : s.classes.Extends { s.classes with
      methodSlots := s.classes.methodSlots.allocate.2 } :=
    { ClassPool.Extends.refl s.classes with methodSlots := SlotTable.keeps_allocate _ }
  exact { Extends.refl s with classes := hclasses }

theorem stepwise_extending : Stepwise (Moves Extends) :=
  Moves.stepwise Extends.refl Extends.trans (fun h _ _ k make _ => h.extends_inserted k make)
    extending_allocateMethodRow

theorem extending_note (d : Diagnostic) : Moves Extends (note d) :=
  fun s => { Extends.refl s with diagnostics := List.prefix_append _ _ }

theorem extending_addClass (make : Nat → ClassEntry) : Moves Extends (addClass make) := by
  intro s
  have hclasses : s.classes.Extends { s.classes with
      items := make s.classes.slots.size :: s.classes.items
      slots := s.classes.slots.allocate.2 } :=
    { ClassPool.Extends.refl s.classes with
      items := List.suffix_cons _ _
      slots := SlotTable.keeps_allocate _ }
  exact { Extends.refl s with classes := hclasses }

theorem extending_defineClassFrom (header : ClassHeader) (fields : List PooledField)
    (methods : List PooledMethod) : Moves Extends (defineClassFrom header fields methods) := by
  rw [defineClassFrom_eq]
  exact stepwise_extending.bind (stepwise_extending.classMaker header fields methods)
    extending_addClass

theorem extending_defineClass (c : ClassDef) : Moves Extends (defineClass c) := by
  rw [defineClass_eq]
  exact stepwise_extending.bind (stepwise_extending.classMembers Moves.get extending_note c)
    fun _ => extending_defineClassFrom _ _ _

/-- Every operation extends the session, whether it fails or not. -/
theorem extending_act (op : Operation) : Moves Extends op.act := by
  intro s
  cases hop : op.writesSlot with
  | false =>
      exact stepwise_extending.act extending_defineClass extending_defineClassFrom
        (fun _ => extends_sortedClasses) extending_note hop s
  | true => exact (extends_of_writesSlot hop).1

end Session

/-! ## Runs -/

namespace History

def new (config : Config) : History :=
  ⟨Session.new config, [], []⟩

/-- The history after a run. -/
def steps (h : History) (ops : List Operation) : History :=
  ops.foldl step h

/-- Whether every operation of a run names only what is the session's own by then. -/
def OwnsEach : History → List Operation → Prop
  | _, [] => True
  | h, op :: ops => h.Owns op ∧ (h.step op).OwnsEach ops

variable {h : History} {ops later : List Operation}

theorem steps_append : h.steps (ops ++ later) = (h.steps ops).steps later :=
  List.foldl_append

theorem ownsEach_append :
    h.OwnsEach (ops ++ later) ↔ h.OwnsEach ops ∧ (h.steps ops).OwnsEach later := by
  induction ops generalizing h with
  | nil => exact (and_iff_right trivial).symm
  | cons op ops ih => exact (and_congr_right fun _ => ih).trans and_assoc.symm

theorem step_session (h : History) (op : Operation) :
    (h.step op).session = (h.session.run op.act).2 := by
  unfold step
  split
  · next hrun => rw [hrun]
  · next hrun => rw [hrun]

theorem step_ask_session (h : History) (r : Request) :
    (h.step (.ask r)).session = (h.session.run (Session.ask r)).2 := by
  rw [step_session]
  exact Session.run_map_snd _ _

theorem Reachable.steps (hh : h.Reachable) (hops : h.OwnsEach ops) : (h.steps ops).Reachable := by
  induction ops generalizing h with
  | nil => exact hh
  | cons op ops ih => exact ih (hh.step hops.1) hops.2

theorem extends_steps (h : History) (ops : List Operation) :
    h.session.Extends (h.steps ops).session := by
  induction ops generalizing h with
  | nil => exact Session.Extends.refl _
  | cons op ops ih =>
      have hstep : h.session.Extends (h.step op).session := by
        rw [step_session]
        exact Session.extending_act op h.session
      exact hstep.trans (ih (h.step op))

theorem Sound.steps (hh : h.Sound) (hops : h.OwnsEach ops) : (h.steps ops).Sound := by
  induction ops generalizing h with
  | nil => exact hh
  | cons op ops ih => exact ih (hh.step hops.1) hops.2

theorem Sound.grows_step (hh : h.Sound) {op : Operation} (howns : h.Owns op) :
    h.session.Grows (h.step op).session := by
  rw [step_session]
  exact ((hh.handsOut howns).1 hh.session).2.1

theorem Sound.grows_steps (hh : h.Sound) (hops : h.OwnsEach ops) :
    h.session.Grows (h.steps ops).session := by
  induction ops generalizing h with
  | nil => exact Session.Grows.refl _
  | cons op ops ih => exact (hh.grows_step hops.1).trans (ih (hh.step hops.1) hops.2)

end History

end DexPools
