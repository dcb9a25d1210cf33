import DexPools.Proofs.Reachable

/-!
# A writer finds a number for everything

A writer numbers the entries of a session once and then writes its classes. All that a class
leads to is pooled, because sound sessions are closed; every pooled entry is listed once, because
their pools are canonical; and writing one number leaves the others alone. So no call of the pass
fails, whatever order the writer takes the entries in, and everything that it comes across
afterwards has the number that it was given.
-/

namespace DexPools

/-! ## What a class is written with -/

theorem mem_of_mem_upToLast {α : Type} {p : α → Bool} {a : α} {xs : List α}
    (h : a ∈ upToLast p xs) : a ∈ xs := by
  induction xs with
  | nil => exact h
  | cons x xs ih =>
      rw [upToLast] at h
      split at h
      · split at h
        · exact List.mem_cons.mpr (.inl (List.mem_singleton.mp h))
        · cases h
      · rcases List.mem_cons.mp h with rfl | h
        · exact List.mem_cons_self
        · exact List.mem_cons_of_mem _ (ih h)

theorem items_defaultFor {d : String} {v : PooledValue} (h : Value.defaultFor d = .ok v) :
    Value.items v = [] := by
  unfold Value.defaultFor Value.defaultOf? at h
  split at h
  · next hd =>
    cases h
    split at hd <;> cases hd <;> rfl
  · cases h

/-- The value that is written for a field has only entries of the field. -/
theorem items_valueOrDefault {f : PooledField} {v : PooledValue} (h : f.valueOrDefault = .ok v) :
    ∀ i ∈ Value.items v, i ∈ f.items := by
  intro i hi
  unfold PooledField.valueOrDefault at h
  cases hv : f.initialValue with
  | some value =>
      rw [hv] at h
      cases h
      simp [PooledField.items, hv, hi]
  | none =>
      rw [hv] at h
      rw [items_defaultFor h] at hi
      cases hi

theorem exists_of_mem_of_forall₂ {α β : Type} {R : α → β → Prop} {as : List α} {bs : List β}
    (h : List.Forall₂ R as bs) {b : β} (hb : b ∈ bs) : ∃ a ∈ as, R a b := by
  induction h with
  | nil => cases hb
  | @cons a b' as bs hab _ ih =>
      rcases List.mem_cons.mp hb with rfl | hb
      · exact ⟨a, List.mem_cons_self, hab⟩
      · obtain ⟨a', ha', hab'⟩ := ih hb
        exact ⟨a', List.mem_cons_of_mem a ha', hab'⟩

/-- Whether writing a class comes across an entry: in the class, its members and their bodies, or
in the initial values of its static fields. -/
def ClassEntry.WrittenWith (c : ClassEntry) (i : Item) : Prop :=
  i ∈ c.items ∨ ∃ vs, c.staticValues? = .ok (some vs) ∧ ∃ v ∈ vs, i ∈ Value.items v

theorem ClassEntry.WrittenWith.mem_items {c : ClassEntry} {i : Item} (h : c.WrittenWith i) :
    i ∈ c.items := by
  rcases h with h | ⟨vs, hvs, v, hv, hi⟩
  · exact h
  · unfold ClassEntry.staticValues? at hvs
    split at hvs
    · cases hvs
    · obtain ⟨vs', hmap, hsome⟩ := bind_pure_eq_ok_iff.mp hvs
      cases hsome
      obtain ⟨f, hf, hfv⟩ := exists_of_mem_of_forall₂ (forall₂_of_mapM_eq_ok hmap) hv
      have hmem : f ∈ c.fields := List.mem_append_left _ (mem_of_mem_upToLast hf)
      have hif : i ∈ c.fields.flatMap PooledField.items :=
        List.mem_flatMap.mpr ⟨f, hmem, items_valueOrDefault hfv i hi⟩
      simp [ClassEntry.items, hif]

namespace Session

variable {s t : Session}

/-! ## What a writer numbers -/

/-- The calls that give every entry of a sorted table its position. -/
def positions {ε : Type} (make : ε → Item) (view : List ε) : List (Item × UInt32) :=
  view.zipIdx.map fun e => (make e.1, UInt32.ofNat e.2)

def indexCalls (s : Session) : List (Item × UInt32) :=
  positions .string s.sortedStrings ++ positions .type s.sortedTypes ++
    positions .proto s.sortedProtos ++ positions .field s.sortedFields ++
    positions .method s.sortedMethods

def offsetItems (s : Session) : List Item :=
  s.writtenTypeLists.map .typeList ++ s.writtenAnnotations.map Item.annotation ++
    s.writtenAnnotationSets.map .annotationSet

/-- The entries that a writer numbers: those of all pools but the ones that stand for nothing. -/
def numberedItems (s : Session) : List Item :=
  s.sortedStrings.map .string ++ s.sortedTypes.map .type ++ s.sortedProtos.map .proto ++
    s.sortedFields.map .field ++ s.sortedMethods.map .method ++ s.offsetItems

theorem map_fst_positions {ε : Type} (make : ε → Item) (view : List ε) :
    (positions make view).map Prod.fst = view.map make := by
  calc (positions make view).map Prod.fst
      = (view.zipIdx.map Prod.fst).map make := by
        rw [positions, List.map_map, List.map_map]
        rfl
    _ = view.map make := by rw [List.zipIdx_map_fst]

theorem map_fst_indexCalls (s : Session) :
    s.indexCalls.map Prod.fst ++ s.offsetItems = s.numberedItems := by
  simp only [indexCalls, List.map_append, map_fst_positions, numberedItems]

theorem mem_numberedItems_iff (hs : s.Sound) {i : Item} :
    i ∈ s.numberedItems ↔ s.Holds i ∧ i.isEmpty = false := by
  have hstrings : ∀ e, e ∈ s.sortedStrings ↔ s.Holds (.string e) := fun _ =>
    Shelf.strings.mem_sortedBy_iff hs _
  have htypes : ∀ e, e ∈ s.sortedTypes ↔ s.Holds (.type e) := fun _ =>
    Shelf.types.mem_sortedBy_iff hs _
  have hprotos : ∀ e, e ∈ s.sortedProtos ↔ s.Holds (.proto e) := fun _ =>
    Shelf.protos.mem_sortedBy_iff hs _
  have hfields : ∀ e, e ∈ s.sortedFields ↔ s.Holds (.field e) := fun _ =>
    Shelf.fields.mem_sortedBy_iff hs _
  have hmethods : ∀ e, e ∈ s.sortedMethods ↔ s.Holds (.method e) := fun _ =>
    Shelf.methods.mem_sortedBy_iff hs _
  have hlists : ∀ e, e ∈ s.typeLists.sortedBy TypeListEntry.compare ↔ s.Holds (.typeList e) :=
    fun _ => Shelf.typeLists.mem_sortedBy_iff hs _
  have hannotations : ∀ e, e ∈ s.annotations.entries ↔ s.Holds (Item.annotation e) := fun _ =>
    Shelf.annotations.mem_entries_iff hs
  have hsets : ∀ e, e ∈ s.annotationSets.entries ↔ s.Holds (.annotationSet e) := fun _ =>
    Shelf.annotationSets.mem_entries_iff hs
  cases i <;>
    simp [numberedItems, offsetItems, writtenTypeLists, writtenAnnotations,
      writtenAnnotationSets, Item.isEmpty, hstrings, htypes, hprotos, hfields, hmethods, hlists,
      hannotations, hsets]

theorem numberedItems_nodup (hs : s.Sound) : s.numberedItems.Nodup := by
  have hstrings : (s.sortedStrings.map Item.string).Nodup :=
    (Shelf.strings.sortedBy_nodup hs _).map fun _ _ => Item.string.inj
  have htypes : (s.sortedTypes.map Item.type).Nodup :=
    (Shelf.types.sortedBy_nodup hs _).map fun _ _ => Item.type.inj
  have hprotos : (s.sortedProtos.map Item.proto).Nodup :=
    (Shelf.protos.sortedBy_nodup hs _).map fun _ _ => Item.proto.inj
  have hfields : (s.sortedFields.map Item.field).Nodup :=
    (Shelf.fields.sortedBy_nodup hs _).map fun _ _ => Item.field.inj
  have hmethods : (s.sortedMethods.map Item.method).Nodup :=
    (Shelf.methods.sortedBy_nodup hs _).map fun _ _ => Item.method.inj
  have hlists : (s.writtenTypeLists.map Item.typeList).Nodup :=
    ((Shelf.typeLists.sortedBy_nodup hs _).filter _).map fun _ _ => Item.typeList.inj
  have hannotations : (s.writtenAnnotations.map Item.annotation).Nodup :=
    (Shelf.annotations.entries_nodup hs).map fun _ _ => Item.annotation.inj
  have hsets : (s.writtenAnnotationSets.map Item.annotationSet).Nodup :=
    ((Shelf.annotationSets.entries_nodup hs).filter _).map fun _ _ => Item.annotationSet.inj
  simp only [numberedItems, offsetItems, List.nodup_append]
  simp [hstrings, htypes, hprotos, hfields, hmethods, hlists, hannotations, hsets, or_imp,
    forall_and]

/-! ## The pass -/

/-- Numbering distinct entries that have no number succeeds, in whatever order they come. -/
theorem run_setNumbers {calls : List (Item × UInt32)} (hs : s.Sound)
    (hnodup : (calls.map Prod.fst).Nodup)
    (hcalls : ∀ c ∈ calls, s.Holds c.1 ∧ Numbered.number s c.1 = .error .slotUnassigned) :
    ∃ t, s.run (calls.forM fun c => setNumber c.1 c.2) = (.ok (), t) ∧ s.Renumbered t ∧
      (∀ c ∈ calls, Numbered.number t c.1 = .ok c.2) ∧
      ∀ i, s.Holds i → i ∉ calls.map Prod.fst → Numbered.number t i = Numbered.number s i := by
  induction calls generalizing s with
  | nil => exact ⟨s, rfl, Renumbered.refl s, nofun, fun _ _ _ => rfl⟩
  | cons call calls ih =>
      obtain ⟨i, n⟩ := call
      rw [List.map_cons, List.nodup_cons] at hnodup
      obtain ⟨hi, hnone⟩ := hcalls (i, n) List.mem_cons_self
      obtain ⟨t, hwrite, hself, hother⟩ := withNumber_of_unassigned hs hi hnone n
      have hrenumbered := renumbered_withNumber hwrite
      -- The number of `i` was written in its own row, so the entries that follow are still free.
      have hfree : ∀ c ∈ calls, t.Holds c.1 ∧
          Numbered.number t c.1 = .error .slotUnassigned := by
        intro c hc
        obtain ⟨hheld, hfree⟩ := hcalls c (List.mem_cons_of_mem _ hc)
        have hne : c.1 ≠ i := fun heq => hnodup.1 (List.mem_map.mpr ⟨c, hc, heq⟩)
        exact ⟨hrenumbered.holds_iff.mpr hheld, (hother c.1 hheld hne).trans hfree⟩
      obtain ⟨u, hrun, hrest, hnumbers, hframe⟩ := ih (hrenumbered.sound hs) hnodup.2 hfree
      refine ⟨u, ?_, hrenumbered.trans hrest, ?_, ?_⟩
      · show s.run (setNumber i n >>= fun _ => calls.forM fun c => setNumber c.1 c.2) = _
        rw [run_bind, setNumber, run_update_of_ok hwrite]
        exact hrun
      · intro c hc
        rcases List.mem_cons.mp hc with rfl | hc
        · exact (hframe i (hrenumbered.holds_iff.mpr hi) hnodup.1).trans hself
        · exact hnumbers c hc
      · intro j hj hmem
        rw [List.map_cons, List.mem_cons, not_or] at hmem
        rw [hframe j (hrenumbered.holds_iff.mpr hj) hmem.2, hother j hj hmem.1]

theorem run_numberOf (i : Item) : s.run (numberOf i) = (Numbered.number s i, s) := by
  unfold numberOf
  rw [run_bind, run_get]
  exact run_check s (Numbered.number s i)

theorem number_eq_of_sorted (s : Session) (classes : ClassPool) (i : Item) :
    Numbered.number { s with classes } i = Numbered.number s i := by
  cases i <;> rfl

theorem mem_sortedClasses_iff (hs : s.Sound) {c : ClassEntry} :
    c ∈ s.classes.sorted.1 ↔ c ∈ s.classes.items := by
  rw [hs.sorted_eq, Sorted.mem_sort, List.mem_reverse]

/-- The pass of a writer over a reachable session without numbers. Every call succeeds, in
whatever order the entries come, and afterwards everything that the classes are written with has
the number that it was given: its position in the sorted table, or its offset. What stands for
nothing reads as zero. -/
theorem writerWalk (hs : s.Reachable) (hnone : s.Unnumbered) {offset : Item → UInt32}
    {calls : List (Item × UInt32)}
    (hcalls : calls.Perm (s.indexCalls ++ s.offsetItems.map fun i => (i, offset i))) :
    ∃ t, s.run (calls.forM fun c => setNumber c.1 c.2) = (.ok (), t) ∧
      ∃ order u, t.run sortedClasses = (.ok order, u) ∧
        ∀ c ∈ order, ∀ i, c.WrittenWith i → ∃ n, u.run (numberOf i) = (.ok n, u) ∧
          ((i, n) ∈ calls ∨ i.isEmpty = true ∧ n = 0) := by
  have hsound := hs.sound
  have hitems : (calls.map Prod.fst).Perm s.numberedItems := by
    refine (hcalls.map Prod.fst).trans (List.Perm.of_eq ?_)
    rw [← map_fst_indexCalls, List.map_append, List.map_map]
    exact congrArg (_ ++ ·) (List.map_id _)
  -- Whatever the order, the calls are for the pooled entries that stand for something.
  have hfree : ∀ c ∈ calls, s.Holds c.1 ∧ Numbered.number s c.1 = .error .slotUnassigned := by
    intro c hc
    obtain ⟨hheld, hempty⟩ :=
      (mem_numberedItems_iff hsound).mp (hitems.mem_iff.mp (List.mem_map_of_mem hc))
    exact ⟨hheld, hnone.number_eq hsound hheld hempty⟩
  obtain ⟨t, hrun, hrenumbered, hnumbers, -⟩ :=
    run_setNumbers hsound (hitems.nodup_iff.mpr (numberedItems_nodup hsound)) hfree
  refine ⟨t, hrun, t.classes.sorted.1, { t with classes := t.classes.sorted.2 }, rfl, ?_⟩
  intro c hc i hi
  rw [mem_sortedClasses_iff (hrenumbered.sound hsound), hrenumbered.classes] at hc
  have hheld : s.Holds i := (hsound.classReads c hc).holdsAll i hi.mem_items
  cases hempty : i.isEmpty with
  | true =>
      refine ⟨0, ?_, .inr ⟨rfl, rfl⟩⟩
      rw [run_numberOf, number_of_isEmpty hempty]
  | false =>
      have hmem : i ∈ calls.map Prod.fst :=
        hitems.mem_iff.mpr ((mem_numberedItems_iff hsound).mpr ⟨hheld, hempty⟩)
      obtain ⟨call, hcall, rfl⟩ := List.mem_map.mp hmem
      refine ⟨call.2, ?_, .inl hcall⟩
      rw [run_numberOf, number_eq_of_sorted, hnumbers call hcall]

/-- The pass over a session with one class. -/
theorem writerWalk_sample : Session.sample.Unnumbered ∧
    ∃ t, Session.sample.run ((Session.sample.indexCalls ++
      Session.sample.offsetItems.map fun i => (i, 0x1000)).forM fun c => setNumber c.1 c.2) =
        (.ok (), t) := by
  have hnone : Session.sample.Unnumbered := {
    strings := SlotTable.unwritten_of_all (by decide +kernel)
    types := SlotTable.unwritten_of_all (by decide +kernel)
    typeLists := SlotTable.unwritten_of_all (by decide +kernel)
    protos := SlotTable.unwritten_of_all (by decide +kernel)
    fields := SlotTable.unwritten_of_all (by decide +kernel)
    methods := SlotTable.unwritten_of_all (by decide +kernel)
    annotations := SlotTable.unwritten_of_all (by decide +kernel)
    annotationSets := SlotTable.unwritten_of_all (by decide +kernel)
  }
  obtain ⟨t, hrun, -⟩ := writerWalk Reachable.sample hnone (List.Perm.refl _)
  exact ⟨hnone, t, hrun⟩

end Session

end DexPools
