import DexPools.Proofs.Allocation

/-!
# Rows tell classes and methods apart

The entries of a pool own the rows of its table, one each. The classes own the class rows in the
same way, because a class and its row come in one step. Methods do not: a method row goes to
a method that is handed out or built into a class, or to one that a class then drops. What holds
instead is that no two methods of a session share a row.

The argument is about one operation. Its new methods have rows that were given out on the way, and
those that were there have rows from before. Building a class from methods of the session moves
them and makes no new ones, and a clone is the method itself.
-/

namespace DexPools

namespace Session

variable {s t : Session}

/-! ## Class rows -/

/-- Whether the classes own the class rows, one each, in the order in which they were added. -/
def ClassRows (s : Session) : Prop :=
  s.classes.items.map ClassEntry.row = (List.range s.classes.slots.size).reverse

def KeepsClassRows (s t : Session) : Prop :=
  s.ClassRows → t.ClassRows

theorem stepwise_keepsClassRows : Stepwise (Moves KeepsClassRows) := by
  refine Moves.stepwise (fun _ hs => hs) (fun h h' hs => h' (h hs)) (fun h _ _ k make s hs => ?_)
    fun _ hs => hs
  have hclasses : (h.inserted s k make).classes = s.classes := Shelf.Lawful.classes_setPool s _
  rw [ClassRows, hclasses]
  exact hs

theorem keepsClassRows_call {call : Build ClassEntry} (hadds : AddsClass call)
    (hrow : TakesClassRow call) : Moves KeepsClassRows call := by
  intro s hs
  obtain ⟨-, hitems⟩ := hadds s
  cases hrun : s.run call with
  | mk r t =>
      rw [hrun] at hitems
      cases r with
      | error e =>
          rw [ClassRows, show t.classes.items = s.classes.items from hitems, hrow.error hrun]
          exact hs
      | ok c =>
          obtain ⟨hc, hslots⟩ := hrow.ok hrun
          rw [ClassRows, show t.classes.items = c :: s.classes.items from hitems, hslots,
            SlotTable.size_allocate, List.range_succ, List.reverse_append, List.map_cons, hc,
            show s.classes.items.map ClassEntry.row = _ from hs]
          rfl

/-- Writing a slot adds no row. -/
theorem classSizes_of_writesSlot {op : Operation} (hop : op.writesSlot = true) :
    (s.run op.act).2.classes.slots.size = s.classes.slots.size ∧
      (s.run op.act).2.classes.methodSlots.size = s.classes.methodSlots.size := by
  have hupdate : ∀ {f : Session → Except Error Session},
      (∀ t, f s = .ok t → t.classes.slots.size = s.classes.slots.size ∧
        t.classes.methodSlots.size = s.classes.methodSlots.size) →
      (s.run (update f)).2.classes.slots.size = s.classes.slots.size ∧
        (s.run (update f)).2.classes.methodSlots.size = s.classes.methodSlots.size := by
    intro f h
    cases hf : f s with
    | ok t =>
        rw [run_update_of_ok hf]
        exact h t hf
    | error e =>
        rw [run_update_of_error hf]
        exact ⟨rfl, rfl⟩
  cases op with
  | setNumber i n =>
      rw [Operation.act, run_map_snd]
      refine hupdate fun t ht => ?_
      rw [(renumbered_withNumber ht).classes]
      exact ⟨rfl, rfl⟩
  | setClassSlot c slot value =>
      rw [Operation.act, run_map_snd]
      refine hupdate fun t ht => ?_
      obtain ⟨slots, hset, rfl⟩ := bind_pure_eq_ok_iff.mp ht
      exact ⟨SlotTable.size_of_set hset, rfl⟩
  | setMethodSlot m slot value =>
      rw [Operation.act, run_map_snd]
      refine hupdate fun t ht => ?_
      obtain ⟨slots, hset, rfl⟩ := bind_pure_eq_ok_iff.mp ht
      exact ⟨rfl, SlotTable.size_of_set hset⟩
  | _ => cases hop

theorem keepsClassRows_sortedClasses : Moves KeepsClassRows sortedClasses := by
  intro s hs
  show ClassRows { s with classes := s.classes.sorted.2 }
  unfold ClassPool.sorted
  split <;> exact hs

/-- Every operation gives a new class the next row. -/
theorem keepsClassRows_act (op : Operation) : Moves KeepsClassRows op.act := by
  cases hop : op.writesSlot with
  | true =>
      intro s hs
      have hitems : (s.run op.act).2.classes.items = s.classes.items :=
        congrArg (fun t => t.classes.items) (unslotted_of_writesSlot hop)
      rw [ClassRows, hitems, (classSizes_of_writesSlot hop).1]
      exact hs
  | false =>
      refine stepwise_keepsClassRows.act (fun c => ?_) (fun header fields methods => ?_)
        keepsClassRows_sortedClasses (fun _ _ h => h) hop
      · exact keepsClassRows_call (addsClass_defineClass c) (takesClassRow_defineClass c)
      · exact keepsClassRows_call (addsClass_defineClassFrom header fields methods)
          (takesClassRow_defineClassFrom header fields methods)

/-! ## Rows of new methods -/

/-- The methods that came to be with an answer. -/
def newMethods : Answer → List PooledMethod
  | .methodDef m => [m]
  | .classDef c => c.methods
  | _ => []

theorem givesRows_ask (r : Request) : GivesRows newMethods (ask r) := by
  intro s a t hrun
  cases r with
  | methodDef m =>
      obtain ⟨m', hrun', rfl⟩ := run_map_eq_ok_iff.mp hrun
      exact givesRows_defineMethod m s m' t hrun'
  | classDef c =>
      obtain ⟨c', hrun', rfl⟩ := run_map_eq_ok_iff.mp hrun
      exact givesRows_defineClass c s c' t hrun'
  | _ =>
      obtain ⟨_, -, rfl⟩ := run_map_eq_ok_iff.mp hrun
      exact freshRows_nil

theorem methods_subset_newMethods (a : Answer) : a.methods ⊆ newMethods a := by
  cases a with
  | methodDef m => exact List.Subset.refl _
  | _ => exact List.nil_subset _

/-- The class that a request builds is its answer. -/
theorem newMethods_of_mem_built {r : Request} {b : String × ClassEntry}
    (hb : b ∈ (Operation.ask r).built s) :
    ∃ a t, s.run (ask r) = (.ok a, t) ∧ newMethods a = b.2.methods := by
  cases r with
  | classDef c =>
      obtain ⟨-, hrun⟩ := mem_builtBy_iff.mp hb
      exact ⟨.classDef b.2, _, run_map_eq_ok_iff.mpr ⟨b.2, Prod.ext hrun rfl, rfl⟩, rfl⟩
  | _ => cases hb

theorem freshRows_builtByAll (s : Session) (cs : List ClassDef) :
    s.FreshRows (s.run (defineClasses cs)).2 ((s.builtByAll cs).flatMap fun b => b.2.methods) := by
  induction cs generalizing s with
  | nil => exact freshRows_nil
  | cons c cs ih =>
      rw [run_defineClasses_snd, builtByAll]
      have hst := widening_defineClass c s
      cases hrun : s.run (defineClass c) with
      | mk r t =>
          rw [hrun] at hst
          cases r with
          | error e => exact freshRows_nil
          | ok e =>
              have htu := stepwise_widening.mapM widening_defineClass cs t
              exact (givesRows_defineClass c s e t hrun).append (ih t) hst htu

end Session

/-! ## Rows along a history -/

namespace History

open Session

variable {h : History} {op : Operation} {ops : List Operation}

/-- What an operation adds to the methods that are owned: methods whose rows were given out on the
way. -/
theorem exists_freshRows_step (howns : h.Owns op) :
    ∃ ms, h.session.FreshRows (h.step op).session ms ∧
      ∀ m, (h.step op).OwnsMethod m → h.OwnsMethod m ∨ m ∈ ms := by
  have hnone : op.built h.session = [] → (∀ r, op ≠ .ask r) →
      ∃ ms, h.session.FreshRows (h.step op).session ms ∧
        ∀ m, (h.step op).OwnsMethod m → h.OwnsMethod m ∨ m ∈ ms := by
    intro hbuilt hop
    refine ⟨[], freshRows_nil, fun m hm => ?_⟩
    rcases ownsMethod_step hm with hm | ⟨r, _, _, heq, -⟩ | ⟨b, hb, -⟩
    · exact .inl hm
    · exact absurd heq (hop r)
    · rw [hbuilt] at hb
      cases hb
  cases op with
  | ask r =>
      cases hrun : h.session.run (ask r) with
      | mk out t =>
          -- Whether a method is handed out or comes with a class, it belongs to the answer.
          have hanswer : ∀ m, (h.step (.ask r)).OwnsMethod m →
              h.OwnsMethod m ∨ ∃ a, out = .ok a ∧ m ∈ newMethods a := by
            intro m hm
            rcases ownsMethod_step hm with hm | ⟨r', a, u, heq, hrun', hm⟩ | ⟨b, hb, hm⟩
            · exact .inl hm
            · cases heq
              rw [hrun] at hrun'
              exact .inr ⟨a, (Prod.mk.inj hrun').1, methods_subset_newMethods a hm⟩
            · obtain ⟨a, u, hrun', hmethods⟩ := newMethods_of_mem_built hb
              rw [hrun] at hrun'
              exact .inr ⟨a, (Prod.mk.inj hrun').1, hmethods ▸ hm⟩
          cases out with
          | error e =>
              refine ⟨[], freshRows_nil, fun m hm => ?_⟩
              rcases hanswer m hm with hm | ⟨a, ha, -⟩
              · exact .inl hm
              · cases ha
          | ok a =>
              refine ⟨newMethods a, ?_, fun m hm => ?_⟩
              · rw [step_ask_session, hrun]
                exact givesRows_ask r h.session a t hrun
              · rcases hanswer m hm with hm | ⟨a', ha', hm⟩
                · exact .inl hm
                · cases ha'
                  exact .inr hm
  | askAll cs =>
      refine ⟨(h.session.builtByAll cs).flatMap fun b => b.2.methods, ?_, fun m hm => ?_⟩
      · rw [step_session, Operation.act, run_map_snd]
        exact freshRows_builtByAll h.session cs
      · rcases ownsMethod_step hm with hm | ⟨_, _, _, heq, -⟩ | ⟨b, hb, hm⟩
        · exact .inl hm
        · cases heq
        · exact .inr (List.mem_flatMap.mpr ⟨b, hb, hm⟩)
  | classFrom header fields methods =>
      refine ⟨[], freshRows_nil, fun m hm => .inl ?_⟩
      rcases ownsMethod_step hm with hm | ⟨_, _, _, heq, -⟩ | ⟨b, hb, hm⟩
      · exact hm
      · cases heq
      · obtain ⟨-, hrun⟩ := mem_builtBy_iff.mp hb
        have hperm := methods_perm_of_defineClassFrom (Prod.ext hrun rfl)
        exact howns.2 m (hperm.mem_iff.mp hm)
  | resolveAgain _ | resolveDebugItemAgain _ | sortedClasses | note _ | setNumber _ _
  | setClassSlot _ _ _ | setMethodSlot _ _ _ => exact hnone rfl (by simp)

theorem methodRows_le_step (h : History) (op : Operation) :
    h.session.classes.methodSlots.size ≤ (h.step op).session.classes.methodSlots.size := by
  rw [step_session]
  cases hop : op.writesSlot with
  | true => exact Nat.le_of_eq (classSizes_of_writesSlot hop).2.symm
  | false => exact (widening_act hop h.session).methodSlots.size

/-- Whether rows tell the classes apart, and the methods that are owned. -/
structure RowsTell (h : History) : Prop where
  classes : h.session.ClassRows
  row_lt : ∀ m, h.OwnsMethod m → m.row < h.session.classes.methodSlots.size
  eq_of_row_eq : ∀ m n, h.OwnsMethod m → h.OwnsMethod n → m.row = n.row → m = n

theorem rowsTell_new (config : Config) : (History.new config).RowsTell where
  classes := rfl
  row_lt := by
    rintro m (hm | ⟨c, hc, -⟩)
    · cases hm
    · cases hc
  eq_of_row_eq := by
    rintro m n (hm | ⟨c, hc, -⟩)
    · cases hm
    · cases hc

theorem RowsTell.step (hh : h.RowsTell) (howns : h.Owns op) : (h.step op).RowsTell := by
  obtain ⟨ms, hfresh, hnew⟩ := exists_freshRows_step howns
  have hle := methodRows_le_step h op
  refine {
    classes := ?_
    row_lt := fun m hm => ?_
    eq_of_row_eq := fun m n hm hn hrow => ?_
  }
  · rw [step_session]
    exact keepsClassRows_act op h.session hh.classes
  · rcases hnew m hm with hm | hm
    · exact Nat.lt_of_lt_of_le (hh.row_lt m hm) hle
    · exact (hfresh.range m hm).2
  · -- Rows from before and rows that were given out on the way can not be the same.
    rcases hnew m hm with hm | hm <;> rcases hnew n hn with hn | hn
    · exact hh.eq_of_row_eq m n hm hn hrow
    · have hlow := (hfresh.range n hn).1
      have hhigh := hh.row_lt m hm
      omega
    · have hlow := (hfresh.range m hm).1
      have hhigh := hh.row_lt n hn
      omega
    · exact List.inj_on_of_nodup_map hfresh.nodup hm hn hrow

theorem RowsTell.steps (hh : h.RowsTell) (hops : h.OwnsEach ops) : (h.steps ops).RowsTell := by
  induction ops generalizing h with
  | nil => exact hh
  | cons op ops ih => exact ih (hh.step hops.1) hops.2

theorem RowsTell.class_eq_of_row_eq (hh : h.RowsTell) {c d : ClassEntry}
    (hc : c ∈ h.session.classes.items) (hd : d ∈ h.session.classes.items) (hrow : c.row = d.row) :
    c = d := by
  have hnodup : (h.session.classes.items.map ClassEntry.row).Nodup := by
    rw [hh.classes]
    exact List.nodup_reverse.mpr List.nodup_range
  exact List.inj_on_of_nodup_map hnodup hc hd hrow

theorem RowsTell.class_row_lt (hh : h.RowsTell) {c : ClassEntry}
    (hc : c ∈ h.session.classes.items) : c.row < h.session.classes.slots.size := by
  have hmem := List.mem_map_of_mem (f := ClassEntry.row) hc
  rw [hh.classes, List.mem_reverse, List.mem_range] at hmem
  exact hmem

end History

end DexPools
