import DexPools.Proofs.Plan

/-!
# Operations that follow a plan

A session is sound when its pools are canonical and closed: an entry reads back to its key and
fits it, everything that it leads to is pooled, and the plan of its key would find nothing to do
and nothing to refuse. The last clause is what makes the short cut of the pools invisible. An
operation that finds its item skips the checks and the parts, and a sound session has passed the
one and holds the other.

An operation follows a plan in a session if it keeps the session sound, leaves exactly the log of
the plan behind, and fails as the plan does or gives a result of a certain kind. `Follows` composes
along `>>=`, so the operations of a session are proved to follow their plans part by part.
-/

namespace DexPools

def Event.note? : Event → Option Diagnostic
  | note d => some d
  | _ => none

def Event.classDef? : Event → Option ClassDef
  | classDef c => some c
  | _ => none

namespace Session

/-! ## Sound sessions -/

/-- Whether a plan would succeed and put in only keys that are there. -/
def Settled {α : Type} (s : Session) (p : Plan α) : Prop :=
  p.succeeds ∧ ∀ e ∈ p.log, ∃ k, e = .put k ∧ s.Has k

structure Sound (s : Session) : Prop where
  canonical : s.Canonical
  /-- An entry reads back to its key. -/
  keyed : ∀ {k i}, s.find? k = some i → i.key = k
  closed : ∀ {k i}, s.find? k = some i → s.HoldsAll i.items
  fits : ∀ {k i}, s.find? k = some i → i.Fits
  /-- A key that is there was checked, and the keys that it needs are there. -/
  settled : ∀ {k}, s.Has k → s.Settled (Plan.key k)
  classReads : ∀ c ∈ s.classes.items, s.Reads c c.readBack
  classTypes : (s.classes.items.map fun c => c.type.text).Nodup
  /-- The order that was handed out is that of all classes. -/
  sealedOrder : ∀ order, s.classes.sealedOrder = some order →
    order = Sorted.sort ClassEntry.compare s.classes.items.reverse

theorem sound_new (config : Config) : (Session.new config).Sound where
  canonical := canonical_new config
  keyed h := by rw [find?_new] at h; cases h
  closed h := by rw [find?_new] at h; cases h
  fits h := by rw [find?_new] at h; cases h
  settled := by
    rintro k ⟨i, h⟩
    rw [find?_new] at h
    cases h
  classReads _ hc := absurd hc List.not_mem_nil
  classTypes := List.nodup_nil
  sealedOrder _ h := by cases h

/-- What leaves the entries and the classes as they are keeps a session sound, as long as it
hands out no other order. -/
theorem Sound.of_find?_eq {s t : Session} (hs : s.Sound) (hcanonical : t.Canonical)
    (hfind : ∀ k, t.find? k = s.find? k) (hclasses : t.classes.items = s.classes.items)
    (hsealed : ∀ order, t.classes.sealedOrder = some order →
      order = Sorted.sort ClassEntry.compare s.classes.items.reverse) : t.Sound := by
  have hholds : ∀ {is : List Item}, s.HoldsAll is → t.HoldsAll is :=
    fun his i hi => (hfind _).trans (his i hi)
  have hhas : ∀ {k}, t.Has k → s.Has k := fun ⟨i, hi⟩ => ⟨i, (hfind _).symm.trans hi⟩
  exact {
    canonical := hcanonical
    keyed := fun hi => hs.keyed ((hfind _).symm.trans hi)
    closed := fun hi => hholds (hs.closed ((hfind _).symm.trans hi))
    fits := fun hi => hs.fits ((hfind _).symm.trans hi)
    settled := by
      intro k hk
      obtain ⟨hok, hlog⟩ := hs.settled (hhas hk)
      refine ⟨hok, fun e he => ?_⟩
      obtain ⟨k', hput, i, hi⟩ := hlog e he
      exact ⟨k', hput, i, (hfind _).trans hi⟩
    classReads := by
      rw [hclasses]
      exact fun c hc => ⟨(hs.classReads c hc).text, hholds (hs.classReads c hc).holdsAll⟩
    classTypes := by
      rw [hclasses]
      exact hs.classTypes
    sealedOrder := by
      rw [hclasses]
      exact hsealed
  }

theorem Settled.mono {α : Type} {s t : Session} {p : Plan α} (h : s.Settled p) (hst : s.Grows t) :
    t.Settled p := by
  refine ⟨h.1, fun e he => ?_⟩
  obtain ⟨k, hk, hhas⟩ := h.2 e he
  exact ⟨k, hk, hst.has hhas⟩

theorem settled_key {s : Session} {k : Key} (h : s.Settled (Plan.parts k)) (hk : s.Has k) :
    s.Settled (Plan.key k) := by
  have hparts := Plan.succeeds_iff.mp h.1
  refine ⟨?_, fun e he => ?_⟩
  · rw [Plan.key, Plan.adding_of_ok hparts]
    rfl
  · rw [Plan.key, Plan.adding_of_ok hparts] at he
    rcases List.mem_append.mp he with he | he
    · exact h.2 e he
    · exact ⟨k, List.mem_singleton.mp he, hk⟩

/-- A key that is there passed all its checks. -/
theorem Sound.parts_outcome {s : Session} (hs : s.Sound) {k : Key} (hk : s.Has k) :
    (Plan.parts k).outcome = .ok () := by
  have hkey := Plan.succeeds_iff.mp (hs.settled hk).1
  obtain ⟨_, hparts, -⟩ := Plan.outcome_bind_eq_ok_iff.mp hkey
  exact hparts

/-! ## The session after a log -/

/-- A session in which a log took place: the keys of the log have entries, its diagnostics and
classes follow those that were there, and all else is as it was. -/
structure After (s : Session) (log : List Event) (t : Session) : Prop where
  config : t.config = s.config
  grows : s.Grows t
  has : ∀ k, t.Has k ↔ s.Has k ∨ Event.put k ∈ log
  classes : ∃ added, t.classes.items = added ++ s.classes.items ∧
    added.map ClassEntry.readBack = (log.filterMap Event.classDef?).reverse
  sealedOrder : t.classes.sealedOrder = s.classes.sealedOrder
  notes : t.diagnostics.entries = s.diagnostics.entries ++ log.filterMap Event.note?

theorem After.refl (s : Session) : s.After [] s where
  config := rfl
  grows := Grows.refl s
  has k := by simp
  classes := ⟨[], by simp⟩
  sealedOrder := rfl
  notes := by simp

theorem After.trans {s t u : Session} {log log' : List Event} (h : s.After log t)
    (h' : t.After log' u) : s.After (log ++ log') u where
  config := h'.config.trans h.config
  grows := h.grows.trans h'.grows
  has k := by
    rw [h'.has, h.has, List.mem_append, or_assoc]
  classes := by
    obtain ⟨added, hitems, hadded⟩ := h.classes
    obtain ⟨added', hitems', hadded'⟩ := h'.classes
    refine ⟨added' ++ added, ?_, ?_⟩
    · rw [hitems', hitems, List.append_assoc]
    · rw [List.map_append, hadded, hadded', List.filterMap_append, List.reverse_append]
  sealedOrder := h'.sealedOrder.trans h.sealedOrder
  notes := by
    rw [h'.notes, h.notes, List.filterMap_append, List.append_assoc]

/-- A log that puts in only what is there changes nothing. -/
theorem After.of_settled {α : Type} {s : Session} {p : Plan α} (h : s.Settled p) :
    s.After p.log s where
  config := rfl
  grows := Grows.refl s
  has k := by
    refine ⟨Or.inl, fun hk => hk.elim id fun hmem => ?_⟩
    obtain ⟨k', hput, hhas⟩ := h.2 _ hmem
    cases hput
    exact hhas
  classes := by
    have hnone : p.log.filterMap Event.classDef? = [] := by
      refine List.filterMap_eq_nil_iff.mpr fun e he => ?_
      obtain ⟨k, rfl, -⟩ := h.2 e he
      rfl
    exact ⟨[], by simp [hnone]⟩
  sealedOrder := rfl
  notes := by
    have hnone : p.log.filterMap Event.note? = [] := by
      refine List.filterMap_eq_nil_iff.mpr fun e he => ?_
      obtain ⟨k, rfl, -⟩ := h.2 e he
      rfl
    simp [hnone]

/-- After a plan that adds no class, the classes are those from before. -/
theorem After.classes_eq {α : Type} {s t : Session} {n : Nat} {p : Plan α}
    (h : s.After p.log t) (hp : p.Below n) (hn : n ≤ 9 := by decide) :
    t.classes.items = s.classes.items := by
  obtain ⟨added, hitems, hadded⟩ := h.classes
  have hnone : p.log.filterMap Event.classDef? = [] := by
    refine List.filterMap_eq_nil_iff.mpr fun e he => ?_
    cases e with
    | classDef _ => exact absurd he (hp.classDef_notMem hn)
    | put _ | methodRow | note _ => rfl
  rw [hnone, List.reverse_nil, List.map_eq_nil_iff] at hadded
  rw [hitems, hadded, List.nil_append]

/-! ## Running operations -/

section Run

variable {α β : Type} (s : Session)

theorem run_get : s.run (get : Build Session) = (.ok s, s) :=
  rfl

theorem run_check (x : Except Error α) : s.run (liftM x : Build α) = (x, s) :=
  rfl

theorem run_attempt (op : Build α) :
    s.run (attempt op) = (.ok (s.run op).1, (s.run op).2) :=
  rfl

theorem run_bind (op : Build α) (f : α → Build β) :
    s.run (op >>= f) = match s.run op with
      | (.ok a, t) => t.run (f a)
      | (.error e, t) => (.error e, t) := by
  unfold Session.run
  rw [ExceptT.run_bind, StateT.run_bind]
  show (match StateT.run op.run s with | (r, t) => _) = _
  rcases StateT.run op.run s with ⟨r | a, t⟩ <;> rfl

variable {s}

/-- What is done with a result takes no further step. -/
theorem run_map_snd (op : Build α) (f : α → β) :
    (s.run (op >>= fun a => pure (f a))).2 = (s.run op).2 := by
  rw [run_bind]
  rcases s.run op with ⟨e | a, t⟩ <;> rfl

theorem run_bind_eq_ok_iff {op : Build α} {f : α → Build β} {b : β} {u : Session} :
    s.run (op >>= f) = (.ok b, u) ↔ ∃ a t, s.run op = (.ok a, t) ∧ t.run (f a) = (.ok b, u) := by
  rw [run_bind]
  rcases s.run op with ⟨e | a, t⟩
  · exact iff_of_false nofun fun ⟨_, _, h, _⟩ => nomatch h
  · constructor
    · intro h
      exact ⟨a, t, rfl, h⟩
    · rintro ⟨_, _, ⟨⟩, h⟩
      exact h

theorem run_map_eq_ok_iff {op : Build α} {f : α → β} {b : β} {t : Session} :
    s.run (op >>= fun a => pure (f a)) = (.ok b, t) ↔ ∃ a, s.run op = (.ok a, t) ∧ f a = b := by
  rw [run_bind]
  rcases s.run op with ⟨e | a, u⟩
  · exact iff_of_false nofun fun ⟨_, h, _⟩ => nomatch h
  · constructor
    · rintro ⟨⟩
      exact ⟨a, rfl, rfl⟩
    · rintro ⟨_, ⟨⟩, rfl⟩
      rfl

theorem exists_run_of_isOk {op : Build α} (h : (s.run op).1.isOk = true) :
    ∃ a t, s.run op = (.ok a, t) := by
  rcases hrun : s.run op with ⟨e | a, t⟩
  · rw [hrun] at h
    cases h
  · exact ⟨a, t, rfl⟩

end Run

/-! ## Following a plan -/

/-- Run in `s`, the operation leaves the log of the plan behind and fails as the plan does or
gives a result of the kind `R`. -/
def Follows {α : Type} (s : Session) (op : Build α) (p : Plan Unit) (R : Session → α → Prop) :
    Prop :=
  s.Sound → ∃ t, t.Sound ∧ s.After p.log t ∧
    ((∃ a, s.run op = (.ok a, t) ∧ p.outcome = .ok () ∧ R t a) ∨
      ∃ e, s.run op = (.error e, t) ∧ p.outcome = .error e)

/-- What follows the plan and gives what the session reads back to `b`. -/
abbrev Builds {α β : Type} [Pooled α β] (s : Session) (op : Build α) (p : Plan Unit) (b : β) :
    Prop :=
  s.Follows op p fun t a => t.Reads a b

namespace Follows

variable {α β γ : Type} {s : Session} {R : Session → α → Prop} {R' : Session → β → Prop}

theorem pure {a : α} (h : R s a) : s.Follows (Pure.pure a) (Pure.pure ()) R :=
  fun hs => ⟨s, hs, After.refl s, .inl ⟨a, rfl, rfl, h⟩⟩

theorem bind {op : Build α} {f : α → Build β} {p : Plan Unit} {q : Unit → Plan Unit}
    (h : s.Follows op p R)
    (hf : ∀ a t, s.After p.log t → R t a → t.Follows (f a) (q ()) R') :
    s.Follows (op >>= f) (p >>= q) R' := by
  intro hs
  obtain ⟨t, ht, hlog, ⟨a, hrun, hp, ha⟩ | ⟨e, hrun, hp⟩⟩ := h hs
  · obtain ⟨u, hu, hlog', hrest⟩ := hf a t hlog ha ht
    refine ⟨u, hu, ?_, ?_⟩
    · rw [Plan.bind_of_ok hp]
      exact hlog.trans hlog'
    · rw [run_bind, hrun, Plan.bind_of_ok hp]
      exact hrest
  · refine ⟨t, ht, ?_, .inr ⟨e, ?_, ?_⟩⟩
    · rw [Plan.bind_of_error hp]
      exact hlog
    · rw [run_bind, hrun]
    · rw [Plan.bind_of_error hp]

/-- Putting a result together at the end takes no step. -/
theorem map {op : Build α} {f : α → β} {p : Plan Unit} (h : s.Follows op p R)
    (hf : ∀ a t, s.After p.log t → R t a → R' t (f a)) :
    s.Follows (op >>= fun a => Pure.pure (f a)) p R' := by
  intro hs
  obtain ⟨t, ht, hlog, ⟨a, hrun, hp, ha⟩ | ⟨e, hrun, hp⟩⟩ := h hs
  · refine ⟨t, ht, hlog, .inl ⟨f a, ?_, hp, hf a t hlog ha⟩⟩
    rw [run_bind, hrun]
    rfl
  · refine ⟨t, ht, hlog, .inr ⟨e, ?_, hp⟩⟩
    rw [run_bind, hrun]

theorem of_sound {op : Build α} {p : Plan Unit} (h : s.Sound → s.Follows op p R) :
    s.Follows op p R :=
  fun hs => h hs hs

theorem get {f : Session → Build α} {p : Plan Unit} (h : s.Follows (f s) p R) :
    s.Follows (MonadState.get >>= f) p R := by
  intro hs
  rw [run_bind]
  exact h hs

theorem throw {e : Error} : s.Follows (MonadExcept.throw e : Build α) (Plan.fail e) R :=
  fun hs => ⟨s, hs, After.refl s, .inr ⟨e, rfl, rfl⟩⟩

theorem check {x : Except Error γ} {f : γ → Build α} {q : γ → Plan Unit}
    (h : ∀ c, x = .ok c → s.Follows (f c) (q c) R) :
    s.Follows (liftM x >>= f) (Plan.check x >>= q) R := by
  cases x with
  | ok c =>
      intro hs
      rw [run_bind]
      exact h c rfl hs
  | error e => exact fun hs => ⟨s, hs, After.refl s, .inr ⟨e, rfl, rfl⟩⟩

theorem forM_check {g : γ → Except Error Unit} (xs : List γ) :
    s.Follows (xs.forM fun x => liftM (g x) : Build Unit) (xs.forM fun x => Plan.check (g x))
      fun _ _ => True := by
  induction xs with
  | nil => exact pure trivial
  | cons x xs ih => exact check fun _ _ => ih

/-- A failure under a condition that the input decides. -/
theorem guard {c : Prop} [Decidable c] {e : Error} {f : Unit → Build α} {q : Unit → Plan Unit}
    (h : s.Follows (f ()) (q ()) R) :
    s.Follows (if c then MonadExcept.throw e >>= f else f ())
      (if c then Plan.fail e >>= q else q ()) R := by
  split
  · exact fun hs => ⟨s, hs, After.refl s, .inr ⟨e, rfl, rfl⟩⟩
  · exact h

theorem guard_not {c : Prop} [Decidable c] {e : Error} {f : Unit → Build α} {q : Unit → Plan Unit}
    (h : s.Follows (f ()) (q ()) R) :
    s.Follows (if c then f () else MonadExcept.throw e >>= f)
      (if c then q () else Plan.fail e >>= q) R := by
  split
  · exact h
  · exact fun hs => ⟨s, hs, After.refl s, .inr ⟨e, rfl, rfl⟩⟩

/-- An operation for each element of a list, each following its plan in every later session. -/
theorem mapM {δ : Type} [Pooled β δ] {f : γ → Build β} {g : γ → Plan Unit} {text : γ → δ}
    {xs : List γ}
    (h : ∀ x ∈ xs, ∀ t : Session, t.config = s.config → t.Builds (f x) (g x) (text x)) :
    s.Builds (xs.mapM f) (xs.forM g) (xs.map text) := by
  induction xs generalizing s with
  | nil =>
      rw [List.mapM_nil]
      exact pure reads_nil
  | cons x xs ih =>
      rw [List.mapM_cons]
      refine bind (h x (by simp) s rfl) fun b t hlog hb => ?_
      have hrest : t.Builds (xs.mapM f) (xs.forM g) (xs.map text) :=
        ih fun y hy u hu => h y (by simp [hy]) u (hu.trans hlog.config)
      refine map hrest fun bs u hlog' hbs => ?_
      exact reads_cons_iff.mpr ⟨hb.mono hlog'.grows, hbs⟩

theorem traverseOption {δ : Type} [Pooled β δ] {f : γ → Build β} {g : δ → Plan Unit}
    {text : γ → δ} (h : ∀ x, s.Builds (f x) (g (text x)) (text x)) :
    ∀ x : Option γ, s.Builds (traverseOption f x) ((x.map text).forM g) (x.map text)
  | none => pure reads_none
  | some x => map (h x) fun _ _ _ hb => reads_some_iff.mpr hb

theorem attempt {β : Type} [Pooled α β] {op : Build α} {p : Plan Unit} {b : β}
    (h : s.Builds op p b) :
    s.Builds (Session.attempt op) p.attempted (p.outcome.map fun _ => b) := by
  intro hs
  obtain ⟨t, ht, hlog, ⟨a, hrun, hp, ha⟩ | ⟨e, hrun, hp⟩⟩ := h hs
  · refine ⟨t, ht, hlog, .inl ⟨.ok a, ?_, rfl, ?_⟩⟩
    · rw [run_attempt, hrun]
    · rw [hp]
      exact ha
  · refine ⟨t, ht, hlog, .inl ⟨.error e, ?_, rfl, ?_⟩⟩
    · rw [run_attempt, hrun]
    · rw [hp]
      exact ⟨rfl, holdsAll_nil⟩

/-! What is known of a run of an operation that follows a plan. -/

theorem after {op : Build α} {p : Plan Unit} (h : s.Follows op p R) (hs : s.Sound) :
    (s.run op).2.Sound ∧ s.After p.log (s.run op).2 := by
  obtain ⟨t, ht, hlog, ⟨a, hrun, -⟩ | ⟨e, hrun, -⟩⟩ := h hs
  · rw [hrun]
    exact ⟨ht, hlog⟩
  · rw [hrun]
    exact ⟨ht, hlog⟩

theorem of_run {op : Build α} {p : Plan Unit} (h : s.Follows op p R) (hs : s.Sound) {a : α}
    {t : Session} (hrun : s.run op = (.ok a, t)) :
    t.Sound ∧ s.After p.log t ∧ p.outcome = .ok () ∧ R t a := by
  obtain ⟨u, hu, hlog, ⟨b, hrun', hp, hb⟩ | ⟨e, hrun', -⟩⟩ := h hs
  · rw [hrun] at hrun'
    cases hrun'
    exact ⟨hu, hlog, hp, hb⟩
  · rw [hrun] at hrun'
    cases hrun'

/-- What follows a plan that does not fail does not fail. -/
theorem exists_run {op : Build α} {p : Plan Unit} (h : s.Follows op p R) (hs : s.Sound)
    (hp : p.outcome = .ok ()) : ∃ a t, s.run op = (.ok a, t) ∧ R t a := by
  obtain ⟨t, -, -, ⟨a, hrun, -, ha⟩ | ⟨e, -, hfail⟩⟩ := h hs
  · exact ⟨a, t, hrun, ha⟩
  · rw [hp] at hfail
    cases hfail

/-- What is seen of a result is told by the plan if its kind tells it. -/
theorem map_outcome {op : Build α} {p : Plan Unit} (h : s.Follows op p R) (hs : s.Sound)
    {f : α → γ} {c : γ} (hf : ∀ t a, R t a → f a = c) :
    (s.run op).1.map f = p.outcome.map fun _ => c := by
  obtain ⟨t, -, -, ⟨a, hrun, hp, ha⟩ | ⟨e, hrun, hp⟩⟩ := h hs
  · rw [hrun, hp]
    exact congrArg Except.ok (hf t a ha)
  · rw [hrun, hp]
    rfl

end Follows

end Session

end DexPools
