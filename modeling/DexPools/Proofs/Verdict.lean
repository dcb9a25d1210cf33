import DexPools.Proofs.Reachable

/-!
# Looking up first changes no verdict

A key that is in its pool is answered at once, and nothing of it is checked again. What may stand
in one place need not be allowed in another: `V` is a type and may be an entry of a list of types,
but no field and no parameter may have it. Still no pool ever holds a key that its own checks
would refuse, which is what sound sessions are about, so a request follows the same plan wherever
it is made. Unless it asks for a class, the plan depends on its text and on the platform level
only.
-/

namespace DexPools

namespace Request

theorem plan_eq_of_apiLevel_eq {config config' : Config}
    (hlevel : config.apiLevel = config'.apiLevel) {r : Request} (hr : r.classType? = none)
    (available : Except Error Unit) : r.plan config available = r.plan config' available := by
  cases r with
  | body b =>
      rw [plan, plan, hlevel]
  | methodDef m =>
      rw [plan, plan, hlevel]
  | classDef c => cases hr
  | _ => rfl

theorem answered_of_classType?_eq_none {r : Request} (hr : r.classType? = none)
    (config : Config) : r.answered config = r := by
  cases r with
  | classDef c => cases hr
  | _ => rfl

end Request

namespace Session

variable {s t : Session} {r : Request}

theorem availableFor_of_classType?_eq_none (hr : r.classType? = none) :
    s.availableFor r = .ok () := by
  rw [availableFor, hr]

/-- Whether two sessions come to the same when asked for the same: both give what reads back to the
request, or both fail with one error. -/
def SameVerdict (s t : Session) (r : Request) : Prop :=
  (∃ a s' b t', s.run (ask r) = (.ok a, s') ∧ t.run (ask r) = (.ok b, t') ∧
    a.readBack = r ∧ b.readBack = r) ∨
    ∃ e s' t', s.run (ask r) = (.error e, s') ∧ t.run (ask r) = (.error e, t')

theorem Sound.sameVerdict (hs : s.Sound) (ht : t.Sound)
    (hlevel : s.config.apiLevel = t.config.apiLevel) (hr : r.classType? = none) :
    s.SameVerdict t r := by
  have hplan : r.plan s.config (s.availableFor r) = r.plan t.config (t.availableFor r) := by
    rw [availableFor_of_classType?_eq_none hr, availableFor_of_classType?_eq_none hr]
    exact Request.plan_eq_of_apiLevel_eq hlevel hr _
  obtain ⟨s', -, -, ⟨a, hrun, hok, ha, -⟩ | ⟨e, hrun, herror⟩⟩ := follows_ask r hs
  · obtain ⟨t', -, -, ⟨b, hrun', -, hb, -⟩ | ⟨e, -, herror⟩⟩ := follows_ask r ht
    · rw [Request.answered_of_classType?_eq_none hr] at ha hb
      exact .inl ⟨a, s', b, t', hrun, hrun', ha, hb⟩
    · rw [← hplan, hok] at herror
      cases herror
  · obtain ⟨t', -, -, ⟨b, -, hok, -⟩ | ⟨e', hrun', herror'⟩⟩ := follows_ask r ht
    · rw [← hplan, herror] at hok
      cases hok
    · rw [← hplan, herror] at herror'
      cases herror'
      exact .inr ⟨e, s', t', hrun, hrun'⟩

/-- What a request comes to does not depend on what was put into the pools before. Any two
reachable sessions of one platform level come to the same when they are asked for anything but
a class. -/
theorem sameVerdict_of_reachable (hs : s.Reachable) (ht : t.Reachable)
    (hlevel : s.config.apiLevel = t.config.apiLevel) (hr : r.classType? = none) :
    s.SameVerdict t r :=
  hs.sound.sameVerdict ht.sound hlevel hr

/-- A session that has the type `V` refuses a field of that type as a new one does. -/
theorem sameVerdict_of_reachable_sample : sample.Has (.type "V") ∧
    ∃ e s' t', sample.run (ask (.field ⟨"LWorker;", "count", "V"⟩)) = (.error e, s') ∧
      (Session.new .strict).run (ask (.field ⟨"LWorker;", "count", "V"⟩)) = (.error e, t') := by
  have hvoid : (sample.find? (.type "V")).isSome = true := by decide +kernel
  refine ⟨Option.isSome_iff_exists.mp hvoid, ?_⟩
  rcases sameVerdict_of_reachable Reachable.sample (Reachable.new .strict) (by decide +kernel)
    (r := .field ⟨"LWorker;", "count", "V"⟩) rfl with ⟨_, _, _, _, -, hrun, -⟩ | hfailed
  · cases hrun
  · exact hfailed

end Session

end DexPools
