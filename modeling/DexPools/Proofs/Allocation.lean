import DexPools.Proofs.ClassCalls

/-!
# Building gives out rows and writes no slot

Three steps give out rows: an entry takes the next row of its pool, a method the next row of the
method slots, a class the next row of the class slots. A new row holds nothing, so whatever is
built, every slot of every table reads as before. What comes after such a step may still fail. The
row then stays behind without an owner, which does no harm since it is never given out again.

Two things follow by looking at one step each. The methods that a class call puts in have rows that
no method had before, in the order in which they were put in. A class takes its row in the very
last step of the call, so a call that fails takes none.
-/

namespace DexPools

namespace Session

variable {α β γ : Type} {s t u : Session}

/-! ## Building writes no slot -/

theorem widening_allocateMethodRow : Moves Widens allocateMethodRow := by
  intro s
  exact { Widens.refl s with methodSlots := SlotTable.widens_allocate _ }

theorem stepwise_widening : Stepwise (Moves Widens) :=
  Moves.stepwise Widens.refl Widens.trans (fun h _ _ k make _ => h.widens_inserted k make)
    widening_allocateMethodRow

theorem widening_note (d : Diagnostic) : Moves Widens (note d) :=
  fun s => { Widens.refl s with }

theorem widening_addClass (make : Nat → ClassEntry) : Moves Widens (addClass make) := by
  intro s
  exact { Widens.refl s with classSlots := SlotTable.widens_allocate _ }

theorem widening_defineClassFrom (header : ClassHeader) (fields : List PooledField)
    (methods : List PooledMethod) : Moves Widens (defineClassFrom header fields methods) := by
  rw [defineClassFrom_eq]
  exact stepwise_widening.bind (stepwise_widening.classMaker header fields methods)
    widening_addClass

theorem widening_classMembers (c : ClassDef) : Moves Widens (classMembers c) :=
  stepwise_widening.classMembers Moves.get widening_note c

theorem widening_defineClass (c : ClassDef) : Moves Widens (defineClass c) := by
  rw [defineClass_eq]
  exact stepwise_widening.bind (widening_classMembers c) fun _ => widening_defineClassFrom _ _ _

theorem widens_sortedClasses : s.Widens (s.run sortedClasses).2 := by
  show s.Widens { s with classes := s.classes.sorted.2 }
  unfold ClassPool.sorted
  split <;> exact { Widens.refl s with }

/-- Every operation that is no writer's leaves all slots as they are, whether it fails or not. -/
theorem widening_act {op : Operation} (hop : op.writesSlot = false) : Moves Widens op.act :=
  stepwise_widening.act widening_defineClass widening_defineClassFrom
    (fun _ => widens_sortedClasses) widening_note hop

/-! ## Rows of methods -/

/-- Whether methods have rows that differ and that were given out between two sessions. -/
structure FreshRows (s t : Session) (ms : List PooledMethod) : Prop where
  nodup : (ms.map PooledMethod.row).Nodup
  range : ∀ m ∈ ms, s.classes.methodSlots.size ≤ m.row ∧ m.row < t.classes.methodSlots.size

theorem freshRows_nil : FreshRows s t [] :=
  ⟨List.nodup_nil, nofun⟩

theorem FreshRows.perm {ms ns : List PooledMethod} (h : FreshRows s t ms) (hperm : ns.Perm ms) :
    FreshRows s t ns :=
  ⟨(hperm.map _).nodup_iff.mpr h.nodup, fun m hm => h.range m (hperm.mem_iff.mp hm)⟩

theorem FreshRows.mono {s' t' : Session} {ms : List PooledMethod} (h : FreshRows s t ms)
    (hs : s'.Widens s) (ht : t.Widens t') : FreshRows s' t' ms := by
  refine ⟨h.nodup, fun m hm => ?_⟩
  obtain ⟨hlow, hhigh⟩ := h.range m hm
  exact ⟨Nat.le_trans hs.methodSlots.size hlow, Nat.lt_of_lt_of_le hhigh ht.methodSlots.size⟩

/-- Rows that were given out one after the other differ. -/
theorem FreshRows.append {ms ns : List PooledMethod} (h : FreshRows s t ms)
    (h' : FreshRows t u ns) (hst : s.Widens t) (htu : t.Widens u) : FreshRows s u (ms ++ ns) := by
  have hms := h.mono (Widens.refl s) htu
  have hns := h'.mono hst (Widens.refl u)
  refine ⟨?_, fun m hm => (List.mem_append.mp hm).elim (hms.range m) (hns.range m)⟩
  rw [List.map_append, List.nodup_append]
  refine ⟨h.nodup, h'.nodup, fun row hrow row' hrow' heq => ?_⟩
  obtain ⟨m, hm, rfl⟩ := List.mem_map.mp hrow
  obtain ⟨n, hn, rfl⟩ := List.mem_map.mp hrow'
  have hlow := (h.range m hm).2
  have hhigh := (h'.range n hn).1
  omega

/-- Whether the methods of what an operation gives have rows that no method had before. -/
def GivesRows (methods : α → List PooledMethod) (op : Build α) : Prop :=
  ∀ s a t, s.run op = (.ok a, t) → FreshRows s t (methods a)

theorem GivesRows.bind {methods : β → List PooledMethod} {op : Build α} {f : α → Build β}
    (h : Moves Widens op) (hf : ∀ a, GivesRows methods (f a)) : GivesRows methods (op >>= f) := by
  intro s b u hrun
  obtain ⟨a, t, hop, hrest⟩ := run_bind_eq_ok_iff.mp hrun
  have hst : s.Widens t := by
    have hmoved := h s
    rwa [hop] at hmoved
  exact (hf a t b u hrest).mono hst (Widens.refl u)

theorem givesRows_allocate {make : Nat → PooledMethod} (hmake : ∀ row, (make row).row = row) :
    GivesRows (fun m => [m]) (allocateMethodRow >>= fun row => pure (make row)) := by
  intro s m t hrun
  obtain ⟨row, hrow, rfl⟩ := run_map_eq_ok_iff.mp hrun
  cases hrow
  refine ⟨List.nodup_singleton _, fun m hm => ?_⟩
  rw [List.mem_singleton.mp hm, hmake]
  refine ⟨Nat.le_refl _, ?_⟩
  show s.classes.methodSlots.size < s.classes.methodSlots.allocate.2.size
  rw [SlotTable.size_allocate]
  omega

/-- A method is given its row last, after all that may fail. -/
theorem givesRows_defineMethod (m : MethodDef) : GivesRows (fun m => [m]) (defineMethod m) := by
  have hwidens := stepwise_widening
  refine GivesRows.bind (hwidens.internMethod _) fun ref => ?_
  split
  · intro s m t hrun
    cases hrun
  · refine GivesRows.bind (hwidens.mapM hwidens.defineParameter _) fun _ => ?_
    refine GivesRows.bind (hwidens.internAnnotationSet _) fun _ => ?_
    refine GivesRows.bind (hwidens.traverseOption hwidens.internBody _) fun _ => ?_
    exact givesRows_allocate fun _ => rfl

/-- Members that were tried are all kept, except for those that failed. -/
theorem survivors_of_run_collectMembers {type : String} {category : Category}
    {tried : List (MemberRef × Except Error α)} {kept : List α}
    (hrun : s.run (collectMembers type category tried) = (.ok kept, t)) :
    kept = Plan.survivors tried := by
  induction tried generalizing s kept with
  | nil =>
      cases hrun
      rfl
  | cons member rest ih =>
      obtain ⟨ref, e | a⟩ := member
      · rw [collectMembers, run_bind, run_get] at hrun
        by_cases hlenient : s.config.lenient = true
        · simp only [if_pos hlenient] at hrun
          obtain ⟨_, u, -, hrest⟩ := run_bind_eq_ok_iff.mp hrun
          exact ih hrest
        · simp only [if_neg hlenient] at hrun
          cases hrun
      · obtain ⟨kept', hrest, rfl⟩ := run_map_eq_ok_iff.mp hrun
        exact congrArg (a :: ·) (ih hrest)

/-- Methods that are tried one after the other have new rows as far as they come through. -/
theorem givesRows_tried (ms : List MethodDef) :
    GivesRows Plan.survivors
      (ms.mapM fun m => return (MemberRef.method m.ref, ← attempt (defineMethod m))) := by
  have hwidens := stepwise_widening
  induction ms with
  | nil =>
      intro s tried t hrun
      rw [List.mapM_nil] at hrun
      cases hrun
      exact freshRows_nil
  | cons m ms ih =>
      intro s tried t hrun
      rw [List.mapM_cons] at hrun
      obtain ⟨_, u, hhead, hrest⟩ := run_bind_eq_ok_iff.mp hrun
      obtain ⟨out, hout, rfl⟩ := run_map_eq_ok_iff.mp hhead
      obtain ⟨tried', htried, rfl⟩ := run_map_eq_ok_iff.mp hrest
      have hfresh := ih u tried' t htried
      have hsu : s.Widens u := by
        have hmoved := hwidens.attempt (hwidens.defineMethod m) s
        rwa [hout] at hmoved
      have hut : u.Widens t := by
        have hmoved := hwidens.mapM
          (fun m => hwidens.tried (hwidens.defineMethod m) (.method m.ref)) ms u
        rwa [htried] at hmoved
      rw [run_attempt] at hout
      obtain ⟨hresult, hsession⟩ := Prod.mk.inj hout
      cases out with
      | error e => exact hfresh.mono hsu (Widens.refl t)
      | ok n =>
          have hn : FreshRows s u [n] :=
            givesRows_defineMethod m s n u (Prod.ext (Except.ok.inj hresult) hsession)
          exact hn.append hfresh hsu hut

theorem givesRows_classMembers (c : ClassDef) : GivesRows Prod.snd (classMembers c) := by
  have hwidens := stepwise_widening
  refine GivesRows.bind (hwidens.internType _) fun type => ?_
  refine GivesRows.bind (fun s => Widens.refl s) fun st => ?_
  refine GivesRows.bind (hwidens.check _) fun _ => ?_
  refine GivesRows.bind (hwidens.mapM (fun f => hwidens.tried (hwidens.defineField f) _) _)
    fun tried => ?_
  refine GivesRows.bind (hwidens.collectMembers Moves.get widening_note _ _ tried) fun fields => ?_
  -- From here on the methods are put in, so nothing may be skipped over any more.
  intro s members t hrun
  obtain ⟨tried, u, htried, hrest⟩ := run_bind_eq_ok_iff.mp hrun
  obtain ⟨methods, hcollect, rfl⟩ := run_map_eq_ok_iff.mp hrest
  have hut : u.Widens t := by
    have hmoved := hwidens.collectMembers Moves.get widening_note c.type .method tried u
    rwa [hcollect] at hmoved
  rw [survivors_of_run_collectMembers hcollect]
  exact (givesRows_tried c.methods s tried u htried).mono (Widens.refl s) hut

/-! ## The last step of a class -/

/-- What a class is made of before it has a row: it takes whatever row it is given, and its methods
are those that it is put together from. -/
def MadeOf (methods : List PooledMethod) (make : Nat → ClassEntry) : Prop :=
  ∀ row, (make row).row = row ∧ (make row).methods.Perm methods

theorem madeOf_classMaker {header : ClassHeader} {fields : List PooledField}
    {methods : List PooledMethod} {make : Nat → ClassEntry}
    (hrun : s.run (classMaker header fields methods) = (.ok make, t)) : MadeOf methods make := by
  obtain ⟨_, _, _, _, _, -, -, rfl⟩ := exists_of_classMaker hrun
  refine fun row => ⟨rfl, ?_⟩
  exact ((Sorted.sort_perm _ _).append (Sorted.sort_perm _ _)).trans
    (Sorted.partition_perm PooledMethod.isDirect methods)

/-- Whether the class slots of two sessions are the same. -/
def SameClassSlots (s t : Session) : Prop :=
  t.classes.slots = s.classes.slots

theorem stepwise_sameClassSlots : Stepwise (Moves SameClassSlots) := by
  refine Moves.stepwise (fun _ => rfl) (fun h h' => h'.trans h) (fun h _ _ k make s => ?_)
    fun _ => rfl
  have hclasses : (h.inserted s k make).classes = s.classes := Shelf.Lawful.classes_setPool s _
  exact congrArg ClassPool.slots hclasses

/-- Whether an operation gives the class that it builds the next row of the class slots, and takes
no row if it fails. -/
structure TakesClassRow (op : Build ClassEntry) : Prop where
  ok : ∀ {s : Session} {c t}, s.run op = (.ok c, t) →
    c.row = s.classes.slots.size ∧ t.classes.slots = s.classes.slots.allocate.2
  error : ∀ {s : Session} {e t}, s.run op = (.error e, t) → t.classes.slots = s.classes.slots

theorem TakesClassRow.bind {op : Build α} {f : α → Build ClassEntry}
    (h : Moves SameClassSlots op) (hf : ∀ a, TakesClassRow (f a)) : TakesClassRow (op >>= f) where
  ok {s c u} hrun := by
    obtain ⟨a, t, hop, hrest⟩ := run_bind_eq_ok_iff.mp hrun
    have hst := h s
    rw [hop] at hst
    rw [← show t.classes.slots = s.classes.slots from hst]
    exact (hf a).ok hrest
  error {s e u} hrun := by
    have hst := h s
    rw [run_bind] at hrun
    cases hop : s.run op with
    | mk r t =>
        rw [hop] at hrun hst
        cases r with
        | error e' =>
            cases hrun
            exact hst
        | ok a => exact ((hf a).error hrun).trans hst

theorem takesClassRow_defineClassFrom (header : ClassHeader) (fields : List PooledField)
    (methods : List PooledMethod) : TakesClassRow (defineClassFrom header fields methods) := by
  have hsame := stepwise_sameClassSlots.classMaker header fields methods
  rw [defineClassFrom_eq]
  refine ⟨fun {s c u} hrun => ?_, fun {s e u} hrun => ?_⟩
  · obtain ⟨make, t, hmake, hadd⟩ := run_bind_eq_ok_iff.mp hrun
    have hst := hsame s
    rw [hmake] at hst
    cases hadd
    rw [(madeOf_classMaker hmake _).1, ← show t.classes.slots = s.classes.slots from hst]
    exact ⟨rfl, rfl⟩
  · have hst := hsame s
    rw [run_bind] at hrun
    cases hmake : s.run (classMaker header fields methods) with
    | mk r t =>
        rw [hmake] at hrun hst
        cases r with
        | error e' =>
            cases hrun
            exact hst
        | ok make => cases hrun

theorem takesClassRow_defineClass (c : ClassDef) : TakesClassRow (defineClass c) := by
  rw [defineClass_eq]
  exact TakesClassRow.bind
    (stepwise_sameClassSlots.classMembers Moves.get (fun _ _ => rfl) c)
    fun _ => takesClassRow_defineClassFrom _ _ _

/-- A class has the methods that it was put together from. -/
theorem methods_perm_of_defineClassFrom {header : ClassHeader} {fields : List PooledField}
    {methods : List PooledMethod} {c : ClassEntry}
    (hrun : s.run (defineClassFrom header fields methods) = (.ok c, t)) :
    c.methods.Perm methods := by
  rw [defineClassFrom_eq] at hrun
  obtain ⟨make, u, hmake, hadd⟩ := run_bind_eq_ok_iff.mp hrun
  cases hadd
  exact (madeOf_classMaker hmake _).2

/-- The methods of a class that was built from its definition have rows that no method had
before. -/
theorem givesRows_defineClass (c : ClassDef) : GivesRows ClassEntry.methods (defineClass c) := by
  rw [defineClass_eq]
  intro s e t hrun
  obtain ⟨members, u, hmembers, hclass⟩ := run_bind_eq_ok_iff.mp hrun
  have hfresh := givesRows_classMembers c s members u hmembers
  have hut : u.Widens t := by
    have hmoved := widening_defineClassFrom c.toClassHeader members.1 members.2 u
    rwa [hclass] at hmoved
  exact (hfresh.mono (Widens.refl s) hut).perm (methods_perm_of_defineClassFrom hclass)

end Session

end DexPools
