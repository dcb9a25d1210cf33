import DexPools.Proofs.Cells
import DexPools.Proofs.Contents

/-!
# A slot keeps the first number that is written to it

A writer numbers things one by one while the session goes on to build others. Rows are handed out
as bare numbers and copied around with the things that own them, so what has to be shown is that no
two things share one: not two entries of a pool, not two classes, not two methods, be they defined
twice, built into a class or dropped by one that failed.

With that, a run is for each cell the list of the writes to it. The invariant compares the cells
with the log of all writes so far: a cell holds the first value that was logged for it. A step that
builds adds cells that hold nothing and that no write can have named before; a step that writes
fills its cell if it held nothing and changes nothing if it did.
-/

namespace DexPools

/-- The cell that an operation writes, and the value. -/
def Operation.write? : Operation → Option (Cell × UInt32)
  | setNumber i n => some (.number i, n)
  | setClassSlot c slot value => some (.classSlot c slot, value)
  | setMethodSlot m slot value => some (.methodSlot m slot, value)
  | _ => none

/-- What the first write of a run to a cell writes. -/
def firstWrite (ops : List Operation) (c : Cell) : Option UInt32 :=
  (ops.filterMap Operation.write?).lookup c

theorem write?_eq_some_iff {op : Operation} {c : Cell} {value : UInt32} :
    op.write? = some (c, value) ↔ op = c.writing value := by
  cases op <;> cases c <;> simp [Operation.write?, Cell.writing, and_assoc]

theorem lookup_singleton_of_ne {c c' : Cell} (h : c ≠ c') (value : UInt32) :
    [(c', value)].lookup c = none := by
  rw [List.lookup_cons, beq_false_of_ne h]
  rfl

theorem writesSlot_of_write? {op : Operation} (h : op.write? = none) : op.writesSlot = false := by
  cases op <;> first | rfl | cases h

/-! ## Rows -/

namespace Session

/-- Whether the entries of every pool own the rows of the pool, one each, and the classes and their
methods own rows that differ. -/
structure OwnRows (s : Session) : Prop where
  strings : s.strings.entries.map StringEntry.row = List.range s.strings.size
  types : s.types.entries.map TypeEntry.row = List.range s.types.size
  typeLists : s.typeLists.entries.map TypeListEntry.row = List.range s.typeLists.size
  protos : s.protos.entries.map ProtoEntry.row = List.range s.protos.size
  fields : s.fields.entries.map FieldEntry.row = List.range s.fields.size
  methods : s.methods.entries.map MethodEntry.row = List.range s.methods.size
  annotations : s.annotations.entries.map AnnotationEntry.row = List.range s.annotations.size
  annotationSets :
    s.annotationSets.entries.map AnnotationSetEntry.row = List.range s.annotationSets.size
  classes : (s.classes.items.map ClassEntry.row).Nodup
  members : ((s.classes.items.flatMap ClassEntry.methods).map PooledMethod.row).Nodup

end Session

namespace History

open Session Cell

variable {h : History} {op : Operation} {ops : List Operation} {c c' : Cell}
  {log : List (Cell × UInt32)}

/-- The methods of one class differ in what they are referred to by, those of two classes in the
class that they name. -/
theorem Formed.methods_nodup (hform : h.Formed) (hh : h.Sound) :
    (h.session.classes.items.flatMap ClassEntry.methods).Nodup := by
  have hdeclared : ∀ c ∈ h.session.classes.items,
      (∀ m ∈ c.methods, m.readBack.definingClass = c.type.text) ∧
        (c.methods.map fun m => m.readBack.ref).Nodup := by
    intro c hc
    obtain ⟨-, hclass, -, hrefs⟩ := ClassDef.declares_iff.mp (hform.classes c hc).declares
    rw [c.methods_readBack] at hclass hrefs
    rw [List.map_map] at hrefs
    exact ⟨List.forall_mem_map.mp hclass, hrefs⟩
  refine List.nodup_flatMap.mpr ⟨fun c hc => (hdeclared c hc).2.of_map, ?_⟩
  refine (List.pairwise_map.mp hh.session.classTypes).imp_of_mem fun {c d} hc hd hne => ?_
  intro m hm hm'
  exact hne (((hdeclared c hc).1 m hm).symm.trans ((hdeclared d hd).1 m hm'))

theorem Sound.ownRows (hh : h.Sound) (hform : h.Formed) (hrows : h.RowsTell) :
    h.session.OwnRows where
  strings := hh.session.canonical.strings.entries_row
  types := hh.session.canonical.types.entries_row
  typeLists := hh.session.canonical.typeLists.entries_row
  protos := hh.session.canonical.protos.entries_row
  fields := hh.session.canonical.fields.entries_row
  methods := hh.session.canonical.methods.entries_row
  annotations := hh.session.canonical.annotations.entries_row
  annotationSets := hh.session.canonical.annotationSets.entries_row
  classes := by
    rw [hrows.classes]
    exact List.nodup_reverse.mpr List.nodup_range
  members := by
    have howned : ∀ m ∈ h.session.classes.items.flatMap ClassEntry.methods, h.OwnsMethod m := by
      intro m hm
      obtain ⟨c, hc, hm⟩ := List.mem_flatMap.mp hm
      exact .inr ⟨c, hc, hm⟩
    exact (hform.methods_nodup hh).map_on fun m hm n hn hrow =>
      hrows.eq_of_row_eq m n (howned m hm) (howned n hn) hrow

/-! ## Writes -/

/-- What a write makes of a cell: the cell keeps what it held, and takes the value if it is the one
that is written and held nothing. -/
theorem held_step_writing (hh : h.Sound) (hrows : h.RowsTell) (hc' : h.OwnsCell c')
    (hc : h.OwnsCell c) (hempty : c.isEmpty = false) (value : UInt32) :
    c.held (h.step (c'.writing value)).session =
      (c.held h.session).or ([(c', value)].lookup c) := by
  rw [step_writing_session]
  by_cases hself : c = c'
  · subst hself
    rw [List.lookup_cons_self]
    cases hheld : c.held h.session with
    | some u => rw [run_write_of_held hempty hheld, hheld, Option.some_or]
    | none =>
        obtain ⟨t, hrun, hwritten, -⟩ := exists_run_write hh hrows hc hempty hheld value
        rw [hrun, hwritten, Option.none_or]
  · rw [lookup_singleton_of_ne hself, Option.or_none]
    cases hempty' : c'.isEmpty with
    | true => rw [run_write_of_isEmpty hempty']
    | false =>
        cases hheld : c'.held h.session with
        | some u => rw [run_write_of_held hempty' hheld]
        | none =>
            obtain ⟨t, hrun, -, hother⟩ := exists_run_write hh hrows hc' hempty' hheld value
            rw [hrun, hother c hc hself]

/-- Whether a log has the writes to the cells of a session, the oldest first: it names only what is
owned, and every cell holds the first value that was written to it. -/
structure Logged (h : History) (log : List (Cell × UInt32)) : Prop where
  owned : ∀ w ∈ log, h.OwnsCell w.1
  held : ∀ c, h.OwnsCell c → c.isEmpty = false → c.held h.session = log.lookup c

theorem logged_new (config : Config) : (History.new config).Logged [] where
  owned := nofun
  held := by
    rintro (i | ⟨c, slot⟩ | ⟨m, slot⟩) hc -
    · cases (find?_new config i.key).symm.trans hc
    · cases hc
    · rcases hc with hm | ⟨c, hc, -⟩
      · cases hm
      · cases hc

/-- A cell that is not owned was never written. -/
theorem Logged.lookup_eq_none (hlog : h.Logged log) (hc : ¬ h.OwnsCell c) :
    log.lookup c = none := by
  refine List.lookup_eq_none_iff.mpr fun w hw => ?_
  rw [bne_iff_ne]
  rintro rfl
  exact hc (hlog.owned w hw)

theorem Logged.step (hlog : h.Logged log) (hh : h.Sound) (hrows : h.RowsTell)
    (howns : h.Owns op) : (h.step op).Logged (log ++ op.write?.toList) := by
  have howned : ∀ w ∈ log, (h.step op).OwnsCell w.1 := fun w hw =>
    ownsCell_step hh howns (hlog.owned w hw)
  cases hwrite : op.write? with
  | none =>
      have hop := writesSlot_of_write? hwrite
      rw [Option.toList_none, List.append_nil]
      refine ⟨howned, fun c hc hempty => ?_⟩
      by_cases hold : h.OwnsCell c
      · have hwidens : h.session.Widens (h.step op).session := by
          rw [step_session]
          exact widening_act hop h.session
        rw [held_widens hwidens, hlog.held c hold hempty]
      · rw [held_of_new hh hrows howns hop hc hold hempty, hlog.lookup_eq_none hold]
  | some w =>
      obtain ⟨c', value⟩ := w
      obtain rfl := write?_eq_some_iff.mp hwrite
      have hc' := owns_writing_iff.mp howns
      rw [Option.toList_some]
      refine ⟨fun w hw => ?_, fun c hc hempty => ?_⟩
      · rcases List.mem_append.mp hw with hw | hw
        · exact howned w hw
        · rw [List.mem_singleton.mp hw]
          exact ownsCell_step hh howns hc'
      · have hold := ownsCell_of_step_writing hc
        rw [held_step_writing hh hrows hc' hold hempty, hlog.held c hold hempty,
          List.lookup_append]

theorem Logged.steps (hlog : h.Logged log) (hh : h.Sound) (hrows : h.RowsTell)
    (hops : h.OwnsEach ops) : (h.steps ops).Logged (log ++ ops.filterMap Operation.write?) := by
  induction ops generalizing h log with
  | nil =>
      rw [List.filterMap_nil, List.append_nil]
      exact hlog
  | cons op ops ih =>
      have hrest := ih (hlog.step hh hrows hops.1) (hh.step hops.1) (hrows.step hops.1) hops.2
      have hcons : (op :: ops).filterMap Operation.write? =
          op.write?.toList ++ ops.filterMap Operation.write? := by
        rw [List.filterMap_cons]
        cases op.write? <;> rfl
      rw [hcons, ← List.append_assoc]
      exact hrest

/-! ## Runs -/

/-- How a cell is met whose first write was of a value, or that was not written yet. -/
structure KeepsFirst (h : History) (c : Cell) (first : Option UInt32) : Prop where
  read : h.session.run c.read = (SlotTable.shown first, h.session)
  accepts : first = none → ∀ value, ∃ t, h.session.run (c.write value) = (.ok (), t) ∧
    t.run c.read = (.ok value, t)
  refuses : first ≠ none → ∀ value,
    h.session.run (c.write value) = (.error .slotAssigned, h.session)
  /-- Nothing but a write to the very cell changes what it reads as. -/
  framed : ∀ op, h.Owns op → (∀ value, op ≠ c.writing value) →
    ((h.step op).session.run c.read).1 = (h.session.run c.read).1

theorem Logged.keepsFirst (hlog : h.Logged log) (hh : h.Sound) (hrows : h.RowsTell)
    (hc : h.OwnsCell c) (hempty : c.isEmpty = false) : h.KeepsFirst c (log.lookup c) where
  read := by rw [run_read hh hrows hc hempty, hlog.held c hc hempty]
  accepts hnone value := by
    rw [← hlog.held c hc hempty] at hnone
    obtain ⟨t, hrun, hwritten, -⟩ := exists_run_write hh hrows hc hempty hnone value
    exact ⟨t, hrun, run_read_of_held hwritten⟩
  refuses hsome value := by
    obtain ⟨u, hu⟩ := Option.ne_none_iff_exists'.mp hsome
    exact run_write_of_held hempty ((hlog.held c hc hempty).trans hu) value
  framed op howns hne := by
    have hlater := hlog.step hh hrows howns
    have hc' := ownsCell_step hh howns hc
    have hlookup : op.write?.toList.lookup c = none := by
      cases hwrite : op.write? with
      | none => rfl
      | some w =>
          obtain ⟨c', value⟩ := w
          refine lookup_singleton_of_ne ?_ value
          rintro rfl
          exact hne value (write?_eq_some_iff.mp hwrite)
    rw [run_read (hh.step howns) (hrows.step howns) hc' hempty, hlater.held c hc' hempty,
      List.lookup_append, hlookup, Option.or_none, run_read hh hrows hc hempty,
      hlog.held c hc hempty]

/-- What a run leaves behind in the slots. -/
structure WriteOnce (h : History) (ops : List Operation) : Prop where
  rows : h.session.OwnRows
  methodRows : ∀ m n, h.OwnsMethod m → h.OwnsMethod n → m.row = n.row → m = n
  cells : ∀ c, h.OwnsCell c → c.isEmpty = false → h.KeepsFirst c (firstWrite ops c)
  emptyTypeList : ∀ e : TypeListEntry, e.isEmpty = true →
    h.session.run (numberOf e) = (.ok 0, h.session) ∧ ∀ value,
      h.session.run (setNumber e value) = (.error (.badArgument .emptyTypeList), h.session)
  emptyAnnotationSet : ∀ e : AnnotationSetEntry, e.isEmpty = true →
    h.session.run (numberOf e) = (.ok 0, h.session) ∧ ∀ value,
      h.session.run (setNumber e value) = (.error (.badArgument .emptyAnnotationSet), h.session)

/-- Whatever a run builds, seals and writes in whatever order, and whatever of it fails: the things
of the session own rows of their own, and every slot reads as the first value that was written to
it. Before the first write a slot is unassigned and takes a value; after it, no write succeeds.
What stands for nothing reads as zero and takes no number. -/
theorem writeOnce (config : Config) (hops : (History.new config).OwnsEach ops) :
    ((History.new config).steps ops).WriteOnce ops := by
  have hreachable : ((History.new config).steps ops).Reachable :=
    (Reachable.new config : (History.new config).Reachable).steps hops
  have hh := hreachable.sound
  have hrows := (rowsTell_new config).steps hops
  have hlog := (logged_new config).steps (sound_new config) (rowsTell_new config) hops
  exact {
    rows := hh.ownRows hreachable.formed hrows
    methodRows := hrows.eq_of_row_eq
    cells := fun c hc hempty => hlog.keepsFirst hh hrows hc hempty
    emptyTypeList := fun e hempty => ⟨run_numberOf_of_isEmpty (i := .typeList e) hempty,
      fun _ => run_update_of_error (if_pos hempty)⟩
    emptyAnnotationSet := fun e hempty => ⟨run_numberOf_of_isEmpty (i := .annotationSet e) hempty,
      fun _ => run_update_of_error (if_pos hempty)⟩
  }

/-- A string that is given a number, and another one after a class failed. -/
theorem writeOnce_sample : ∃ ops, (History.new .strict).OwnsEach ops ∧
    ∃ t, ((History.new .strict).steps ops).session.run
      (numberOf (Item.string ⟨0, "LWorker;"⟩)) = (.ok 5, t) := by
  have hheld : ∀ {s : Session}, s.find? (.string "LWorker;") = some (.string ⟨0, "LWorker;"⟩) →
      s.Holds (.string ⟨0, "LWorker;"⟩) := fun h => h
  have hops : (History.new .strict).OwnsEach [.ask (.classDef .sample),
      .setNumber (.string ⟨0, "LWorker;"⟩) 5, .ask (.classDef .sample),
      .setNumber (.string ⟨0, "LWorker;"⟩) 6] :=
    ⟨trivial, hheld (by decide +kernel), trivial, hheld (by decide +kernel), trivial⟩
  have hcell := (writeOnce .strict hops).cells (.number (.string ⟨0, "LWorker;"⟩))
    (hheld (by decide +kernel)) rfl
  have hfirst : firstWrite [.ask (.classDef .sample), .setNumber (.string ⟨0, "LWorker;"⟩) 5,
      .ask (.classDef .sample), .setNumber (.string ⟨0, "LWorker;"⟩) 6]
        (.number (.string ⟨0, "LWorker;"⟩)) = some 5 := by decide +kernel
  rw [hfirst] at hcell
  exact ⟨_, hops, _, hcell.read⟩

end History

end DexPools
