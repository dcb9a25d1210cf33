import DexPools.Proofs.Reachable

/-!
# Copying a definition into a session and back

A definition can be put together in any way: with members out of order or in the wrong list, with
interfaces given twice. `ClassDef.ofParts` takes its parts apart and puts them into the one form,
and so does a session on its own way to the pools. In a strict session the two agree: the class
that a session builds reads back to what `ofParts` makes of the same parts, and what `ofParts`
refuses the session refuses.
-/

namespace DexPools

namespace Plan

theorem declares_of_classFrom_ok {available : Except Error Unit} {header : ClassHeader}
    {fields : List FieldDef} {methods : List MethodDef}
    (h : (classFrom available header fields methods).outcome = .ok ()) :
    ClassDef.Declares header.type fields methods := by
  unfold classFrom at h
  split at h
  · obtain ⟨_, -, h⟩ := outcome_bind_eq_ok_iff.mp h
    obtain ⟨_, -, h⟩ := outcome_bind_eq_ok_iff.mp h
    obtain ⟨_, hfields, h⟩ := outcome_bind_eq_ok_iff.mp h
    obtain ⟨_, hmethods, -⟩ := outcome_bind_eq_ok_iff.mp h
    exact ⟨hfields, hmethods⟩
  · obtain ⟨_, hfail, -⟩ := outcome_bind_eq_ok_iff.mp h
    cases hfail

/-- A class that comes to its end in a strict session has all of its members, and they are those
of one class. -/
theorem strict_of_classDef_ok {config : Config} {available : Except Error Unit} {c : ClassDef}
    (hstrict : config.lenient = false) (h : (classDef config available c).outcome = .ok ()) :
    ClassDef.Declares c.type c.fields c.methods ∧
      classBuilt config c = .assemble c.toClassHeader c.fields c.methods := by
  obtain ⟨_, -, h⟩ := outcome_bind_eq_ok_iff.mp h
  obtain ⟨_, -, h⟩ := outcome_bind_eq_ok_iff.mp h
  obtain ⟨_, -, h⟩ := outcome_bind_eq_ok_iff.mp h
  obtain ⟨_, hfields, h⟩ := outcome_bind_eq_ok_iff.mp h
  obtain ⟨_, -, h⟩ := outcome_bind_eq_ok_iff.mp h
  obtain ⟨_, hmethods, h⟩ := outcome_bind_eq_ok_iff.mp h
  -- Without leniency a member that fails ends the class, so none was dropped.
  rw [hstrict] at hfields hmethods
  have hallFields : survivors (triedFields c) = c.fields := survivors_of_collect hfields
  have hallMethods : survivors (triedMethods config.apiLevel c) = c.methods :=
    survivors_of_collect hmethods
  rw [hallFields, hallMethods] at h
  exact ⟨declares_of_classFrom_ok h, by rw [classBuilt, hallFields, hallMethods]⟩

end Plan

namespace Session

variable {s : Session}

/-- What a strict session makes of a definition is what `ofParts` makes of its parts. -/
theorem ofParts_of_defineClass (hs : s.Sound) (hstrict : s.config.lenient = false) {c : ClassDef}
    {e : ClassEntry} {t : Session} (hrun : s.run (defineClass c) = (.ok e, t)) :
    ClassDef.ofParts c.toClassHeader c.fields c.methods = .ok e.readBack := by
  obtain ⟨-, -, hplan, hreads⟩ := (builds_defineClass c).of_run hs hrun
  obtain ⟨hdeclares, hbuilt⟩ := Plan.strict_of_classDef_ok hstrict hplan
  exact ClassDef.ofParts_eq_ok_iff.mpr ⟨hdeclares, (hreads.text.1.trans hbuilt).symm⟩

theorem ofParts_of_ofParts {header : ClassHeader} {fields : List FieldDef}
    {methods : List MethodDef} {c : ClassDef}
    (h : ClassDef.ofParts header fields methods = .ok c) {d : ClassDef}
    (hd : ClassDef.ofParts c.toClassHeader c.fields c.methods = .ok d) : d = c := by
  obtain ⟨-, rfl⟩ := ClassDef.ofParts_eq_ok_iff.mp h
  obtain ⟨-, rfl⟩ := ClassDef.ofParts_eq_ok_iff.mp hd
  exact ClassDef.assemble_of_assemble

/-- Copying a definition into a reachable strict session, whatever form the definition has. If it
succeeds, `ofParts` accepts the parts and gives what the new class reads back to, which is the
definition itself if that came from `ofParts`. If `ofParts` refuses the parts, copying fails. -/
theorem bulkCopy (hs : s.Reachable) (hstrict : s.config.lenient = false) (c : ClassDef) :
    (∀ e t, s.run (defineClass c) = (.ok e, t) →
      ClassDef.ofParts c.toClassHeader c.fields c.methods = .ok e.readBack ∧
        ∀ header fields methods, ClassDef.ofParts header fields methods = .ok c →
          e.readBack = c) ∧
      ∀ err, ClassDef.ofParts c.toClassHeader c.fields c.methods = .error err →
        ∃ err' t, s.run (defineClass c) = (.error err', t) := by
  refine ⟨fun e t hrun => ?_, fun err herr => ?_⟩
  · have hparts := ofParts_of_defineClass hs.sound hstrict hrun
    exact ⟨hparts, fun _ _ _ h => ofParts_of_ofParts h hparts⟩
  · cases hrun : s.run (defineClass c) with
    | mk r t =>
        cases r with
        | error err' => exact ⟨err', t, rfl⟩
        | ok e =>
            have hparts := ofParts_of_defineClass hs.sound hstrict hrun
            rw [herr] at hparts
            cases hparts

/-- A definition that is not in its one form, copied into a new session. -/
theorem bulkCopy_sample : ∃ e t, (Session.new .strict).run (defineClass .sample) = (.ok e, t) ∧
    ClassDef.ofParts ClassDef.sample.toClassHeader ClassDef.sample.fields
      ClassDef.sample.methods = .ok e.readBack := by
  have hok : ((Session.new .strict).run (defineClass .sample)).1.isOk = true := by decide +kernel
  cases hrun : (Session.new .strict).run (defineClass .sample) with
  | mk r t =>
      rw [hrun] at hok
      cases r with
      | error err => cases hok
      | ok e => exact ⟨e, t, rfl, ((bulkCopy (Reachable.new .strict) rfl .sample).1 e t hrun).1⟩

end Session

end DexPools
