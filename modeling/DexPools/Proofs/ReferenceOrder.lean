import DexPools.Proofs.TextOrder
import DexPools.Proofs.WellFormed

/-!
# References and the order of their tables

What operands name is ordered twice: as references, when it is only written down, and as entries of
the pools. An entry reads back to the reference that it was put in for, and the orders of the tables
are those of what the entries read back to, so it is enough to look at references. Members and
prototypes are compared in one way. Strings and types go by code points as references and by UTF-16
units as entries, and that is two orders where texts part across the surrogates.
-/

namespace DexPools

open Text

/-- The order of two entries in the table of their pool. Entries of two pools have none. -/
def PooledReference.compare? : PooledReference → PooledReference → Option Ordering
  | string a, string b => some (a.compare b)
  | type a, type b => some (a.compare b)
  | field a, field b => some (a.compare b)
  | method a, method b => some (a.compare b)
  | methodProto a, methodProto b => some (a.compare b)
  | _, _ => none

/-- Whether two references are strings, or types, whose texts part across the surrogates. -/
inductive Reference.Misplaced : Reference → Reference → Prop where
  | string {a b : String} : PartWith AcrossSurrogates a.toList b.toList →
      Misplaced (.string a) (.string b)
  | type {a b : String} : PartWith AcrossSurrogates a.toList b.toList →
      Misplaced (.type a) (.type b)

/-- Texts are compared alike in both orders unless they part across the surrogates. -/
theorem compare_eq_compareUnits_iff (a b : String) :
    Ord.compare a b = compareUnits a b ↔ ¬ PartWith AcrossSurrogates a.toList b.toList := by
  rw [← compareUnits_ne_comparePoints_iff, not_not, compare_eq_comparePoints, eq_comm]

/-- Two entries of one pool are compared as what they read back to, unless that is misplaced. -/
theorem PooledReference.exists_compare? {x y : PooledReference} (hkind : x.kind = y.kind) :
    ∃ o, x.compare? y = some o ∧
      (x.readBack.compare y.readBack = o ↔ ¬ Reference.Misplaced x.readBack y.readBack) := by
  cases x with
  | string a =>
      cases y with
      | string b =>
          refine ⟨_, rfl, (compare_eq_compareUnits_iff a.text b.text).trans (not_congr ?_)⟩
          exact ⟨.string, fun | .string h => h⟩
      | _ => cases hkind
  | type a =>
      cases y with
      | type b =>
          refine ⟨_, rfl, (compare_eq_compareUnits_iff a.text b.text).trans (not_congr ?_)⟩
          exact ⟨.type, fun | .type h => h⟩
      | _ => cases hkind
  | field a =>
      cases y with
      | field b => exact ⟨_, rfl, iff_of_true (FieldEntry.compare_eq a b).symm nofun⟩
      | _ => cases hkind
  | method a =>
      cases y with
      | method b => exact ⟨_, rfl, iff_of_true (MethodEntry.compare_eq a b).symm nofun⟩
      | _ => cases hkind
  | methodProto a =>
      cases y with
      | methodProto b => exact ⟨_, rfl, iff_of_true (ProtoEntry.compare_eq a b).symm nofun⟩
      | _ => cases hkind

namespace Session

variable {s s' t t' : Session} {a b : Reference} {x y : PooledReference}

theorem Sound.readBack_of_run_internReference (hs : s.Sound)
    (hrun : s.run (internReference a) = (.ok x, t)) : x.readBack = a := by
  obtain ⟨-, -, -, hreads⟩ := (builds_internReference a).of_run hs hrun
  exact hreads.text

/-- Two references of one kind that reachable sessions have entries for are compared as the entries
are, unless they are strings or types whose texts part across the surrogates. -/
theorem reference_compare_iff (hs : s.Reachable) (ht : t.Reachable)
    (ha : s.run (internReference a) = (.ok x, s')) (hb : t.run (internReference b) = (.ok y, t'))
    (hkind : a.kind = b.kind) :
    ∃ o, x.compare? y = some o ∧ (a.compare b = o ↔ ¬ a.Misplaced b) := by
  have hx := hs.sound.readBack_of_run_internReference ha
  have hy := ht.sound.readBack_of_run_internReference hb
  rw [← hx, ← hy, PooledReference.kind_readBack, PooledReference.kind_readBack] at hkind
  rw [← hx, ← hy]
  exact PooledReference.exists_compare? hkind

/-- Fields of two classes, whose types are misplaced, are in one order. -/
theorem reference_compare_fields : ∃ x y s t,
    (Session.new .strict).run (internReference (.field ⟨"L😀;", "x", "I"⟩)) = (.ok x, s) ∧
      sample.run (internReference (.field ⟨"Lﬁ;", "x", "I"⟩)) = (.ok y, t) ∧
        x.compare? y =
          some (Reference.compare (.field ⟨"L😀;", "x", "I"⟩) (.field ⟨"Lﬁ;", "x", "I"⟩)) := by
  have hokx : ((Session.new .strict).run
      (internReference (.field ⟨"L😀;", "x", "I"⟩))).1.isOk = true := by decide +kernel
  have hoky : (sample.run (internReference (.field ⟨"Lﬁ;", "x", "I"⟩))).1.isOk = true := by
    decide +kernel
  obtain ⟨x, s, hx⟩ := exists_run_of_isOk hokx
  obtain ⟨y, t, hy⟩ := exists_run_of_isOk hoky
  obtain ⟨o, ho, hiff⟩ :=
    reference_compare_iff (Reachable.new .strict) Reachable.sample hx hy rfl
  exact ⟨x, y, s, t, hx, hy, ho.trans (congrArg some (hiff.mpr nofun).symm)⟩

/-- The types of these classes stand in one order as references and in the other as entries, and so
do the strings. -/
theorem misplaced_types_and_strings : (Session.new .strict).Reachable ∧
    (∃ x y s t,
      (Session.new .strict).run (internReference (.type "L😀;")) = (.ok x, s) ∧
        s.run (internReference (.type "Lﬁ;")) = (.ok y, t) ∧ x.compare? y = some .lt ∧
          Reference.compare (.type "L😀;") (.type "Lﬁ;") = .gt) ∧
    ∃ x y s t,
      (Session.new .strict).run (internReference (.string "😀")) = (.ok x, s) ∧
        s.run (internReference (.string "ﬁ")) = (.ok y, t) ∧ x.compare? y = some .lt ∧
          Reference.compare (.string "😀") (.string "ﬁ") = .gt :=
  ⟨Reachable.new .strict,
    ⟨_, _, _, _, rfl, rfl, by decide +kernel, by decide +kernel⟩,
    ⟨_, _, _, _, rfl, rfl, by decide +kernel, by decide +kernel⟩⟩

end Session

end DexPools
