import DexPools.Proofs.ValueOrder
import Mathlib.Tactic.SplitIfs

/-!
# UTF-16 order beside the order of code points

Texts are compared unit by unit, and a supplementary character is two units, so it takes a step to
see what that means for characters. The units of two characters decide between them whatever stands
behind, in the same way as two numbers would: the code points, but with the supplementary characters
moved to where their surrogates are, in front of U+E000 to U+FFFF. Hence the order of units is
lexicographic in characters, as the order of code points is.

Two lexicographic orders agree until two lists part, and what happens there is a matter of two
characters.
-/

namespace DexPools

open Std

/-! ## Where two lists part -/

section Part

variable {α : Type} {P : α → α → Prop} {as bs : List α}

/-- Whether two lists are the same up to a place where they go on with elements that are so
related. -/
inductive PartWith (P : α → α → Prop) : List α → List α → Prop where
  | here {a b : α} {as bs : List α} : P a b → PartWith P (a :: as) (b :: bs)
  | later {a : α} {as bs : List α} : PartWith P as bs → PartWith P (a :: as) (a :: bs)

theorem PartWith.not_prefix (h : PartWith P as bs) (hP : ∀ a, ¬ P a a) :
    ¬ as <+: bs ∧ ¬ bs <+: as := by
  induction h with
  | @here a b as bs hab =>
      have hne : a ≠ b := fun heq => hP a (by rwa [← heq] at hab)
      simp only [List.cons_prefix_cons]
      exact ⟨fun h => hne h.1, fun h => hne h.1.symm⟩
  | later _ ih =>
      simp only [List.cons_prefix_cons, true_and]
      exact ih

theorem partWith_cons_self_iff {a : α} (hP : ¬ P a a) :
    PartWith P (a :: as) (a :: bs) ↔ PartWith P as bs := by
  constructor
  · intro h
    cases h with
    | here haa => exact absurd haa hP
    | later hrest => exact hrest
  · exact .later

theorem partWith_cons_iff_of_ne {a b : α} (hne : a ≠ b) :
    PartWith P (a :: as) (b :: bs) ↔ P a b := by
  constructor
  · intro h
    cases h with
    | here hab => exact hab
    | later _ => exact absurd rfl hne
  · exact .here

end Part

/-! ## Lexicographic orders -/

section Lex

variable {α : Type} {cmp cmp' : α → α → Ordering}

theorem then_eq_of_ne [LawfulEqCmp cmp] {a b : α} (hne : a ≠ b) (o : Ordering) :
    (cmp a b).then o = cmp a b := by
  have hcmp : cmp a b ≠ .eq := fun heq => hne (LawfulEqCmp.eq_of_compare heq)
  cases h : cmp a b with
  | lt | gt => rfl
  | eq => exact absurd h hcmp

/-- Two lexicographic orders differ on two lists exactly if they differ on the elements with which
the lists part. -/
theorem compareLex_ne_iff [LawfulEqCmp cmp] [LawfulEqCmp cmp'] (as bs : List α) :
    List.compareLex cmp as bs ≠ List.compareLex cmp' as bs ↔
      PartWith (fun a b => cmp a b ≠ cmp' a b) as bs := by
  induction as generalizing bs with
  | nil =>
      refine iff_of_false (not_not_intro ?_) nofun
      cases bs <;> rfl
  | cons a as ih =>
      cases bs with
      | nil => exact iff_of_false (not_not_intro rfl) nofun
      | cons b bs =>
          rw [List.compareLex_cons_cons, List.compareLex_cons_cons]
          by_cases hab : a = b
          · subst hab
            have hself : cmp a a = .eq := ReflCmp.compare_self
            have hself' : cmp' a a = .eq := ReflCmp.compare_self
            rw [partWith_cons_self_iff (by rw [hself, hself']; exact not_not_intro rfl), ← ih,
              hself, hself', Ordering.eq_then, Ordering.eq_then]
          · rw [partWith_cons_iff_of_ne hab, then_eq_of_ne hab, then_eq_of_ne hab]

/-- Which of two things is the smaller one tells all of a comparison. -/
theorem compare_eq_of_lt_iff [OrientedCmp cmp] [OrientedCmp cmp']
    (h : ∀ a b, cmp a b = .lt ↔ cmp' a b = .lt) (a b : α) : cmp a b = cmp' a b := by
  have hlt := h a b
  have hgt : cmp a b = .gt ↔ cmp' a b = .gt := by
    rw [OrientedCmp.gt_iff_lt, OrientedCmp.gt_iff_lt, h b a]
  cases hcmp : cmp a b with
  | lt => exact (hlt.mp hcmp).symm
  | gt => exact (hgt.mp hcmp).symm
  | eq =>
      cases hcmp' : cmp' a b with
      | eq => rfl
      | lt => exact absurd (hcmp.symm.trans (hlt.mpr hcmp')) nofun
      | gt => exact absurd (hcmp.symm.trans (hgt.mpr hcmp')) nofun

end Lex

namespace Text

theorem compare_eq_compare_iff {m n m' n' : Nat} :
    Ord.compare m n = Ord.compare m' n' ↔ (m < n ↔ m' < n') ∧ (n < m ↔ n' < m') := by
  constructor
  · intro h
    have hlt : m < n ↔ m' < n' := by rw [← Nat.compare_eq_lt, h, Nat.compare_eq_lt]
    have hgt : n < m ↔ n' < m' := by rw [← Nat.compare_eq_gt, h, Nat.compare_eq_gt]
    exact ⟨hlt, hgt⟩
  · rintro ⟨hlt, hgt⟩
    simp only [Nat.compare_eq_ite_lt, hlt, hgt]

/-! ## The order of code points -/

/-- Compares two texts by the code points of their characters; a proper initial part stands before
the whole. -/
def comparePoints (a b : String) : Ordering :=
  List.compareLex (compareBy Ord.compare Char.toNat) a.toList b.toList

instance : TransCmp comparePoints :=
  inferInstanceAs (TransCmp (compareBy (List.compareLex (compareBy Ord.compare Char.toNat))
    String.toList))

instance : LawfulEqCmp (compareBy (Ord.compare : Nat → Nat → Ordering) Char.toNat) :=
  lawfulEqCmp_compareBy fun _ _ => Char.toNat_inj.mp

/-- The order of code points is the one that texts come with. -/
theorem compare_eq_comparePoints (a b : String) : Ord.compare a b = comparePoints a b := by
  refine compare_eq_of_lt_iff (fun a b => ?_) a b
  have hchars : ∀ c d, compareBy Ord.compare Char.toNat c d = .lt ↔ c < d := fun _ _ =>
    Nat.compare_eq_lt
  rw [comparePoints, compareLex_lt_iff hchars]
  exact compareOfLessAndEq_eq_lt.trans String.lt_iff

/-! ## The order of units, character by character -/

/-- The place of a character in the order of units. The supplementary characters stand where their
surrogates do. -/
def place (c : Char) : Nat :=
  if c.toNat < 0xE000 then c.toNat
  else if c.toNat < 0x10000 then c.toNat + 0x100000
  else c.toNat - 0x2000

theorem place_cases (c : Char) :
    c.toNat < 0xD800 ∧ place c = c.toNat ∨
      0xE000 ≤ c.toNat ∧ c.toNat < 0x10000 ∧ place c = c.toNat + 0x100000 ∨
      0x10000 ≤ c.toNat ∧ c.toNat < 0x110000 ∧ place c = c.toNat - 0x2000 := by
  have hc := toNat_not_surrogate c
  unfold place
  split_ifs <;> omega

theorem place_injective : Function.Injective place := by
  intro c d h
  have hc := place_cases c
  have hd := place_cases d
  exact Char.toNat_inj.mp (by omega)

instance : LawfulEqCmp (compareBy (Ord.compare : Nat → Nat → Ordering) place) :=
  lawfulEqCmp_compareBy place_injective

/-- Where two units differ they decide, whatever stands behind them. -/
theorem compareLex_of_ne {m n m' n' : Nat} (hne : m ≠ n)
    (hsame : Ord.compare m n = Ord.compare m' n') (us vs : List Nat) (o : Ordering) :
    List.compareLex Ord.compare (m :: us) (n :: vs) = (Ord.compare m' n').then o := by
  rw [List.compareLex_cons_cons, ← hsame, then_eq_of_ne hne, then_eq_of_ne hne]

/-- A pair of surrogates is compared as the number that it stands for. -/
theorem compare_surrogates (m n : Nat) :
    (Ord.compare (0xD800 + m / 0x400) (0xD800 + n / 0x400)).then
      (Ord.compare (0xDC00 + m % 0x400) (0xDC00 + n % 0x400)) = Ord.compare m n := by
  by_cases h : m / 0x400 = n / 0x400
  · rw [h, Nat.compare_eq_eq.mpr rfl, Ordering.eq_then]
    exact compare_eq_compare_iff.mpr (by omega)
  · rw [then_eq_of_ne (by omega)]
    exact compare_eq_compare_iff.mpr (by omega)

/-- The units of two characters are compared as the places of the characters, in front of
anything. -/
theorem compareLex_units (c d : Char) (us vs : List Nat) :
    List.compareLex Ord.compare (units c ++ us) (units d ++ vs) =
      (Ord.compare (place c) (place d)).then (List.compareLex Ord.compare us vs) := by
  have hc := place_cases c
  have hd := place_cases d
  unfold units
  -- A surrogate differs from the unit of any other character, so only two characters of as many
  -- units can be equal in the first.
  split <;> split <;> simp only [List.cons_append, List.nil_append]
  · have hplace : Ord.compare c.toNat d.toNat = Ord.compare (place c) (place d) :=
      compare_eq_compare_iff.mpr (by omega)
    rw [List.compareLex_cons_cons, hplace]
  · exact compareLex_of_ne (by omega) (compare_eq_compare_iff.mpr (by omega)) _ _ _
  · exact compareLex_of_ne (by omega) (compare_eq_compare_iff.mpr (by omega)) _ _ _
  · have hplace : Ord.compare (c.toNat - 0x10000) (d.toNat - 0x10000) =
        Ord.compare (place c) (place d) := compare_eq_compare_iff.mpr (by omega)
    rw [List.compareLex_cons_cons, List.compareLex_cons_cons, ← Ordering.then_assoc,
      compare_surrogates, hplace]

theorem compareLex_flatMap_units : ∀ cs ds : List Char,
    List.compareLex Ord.compare (cs.flatMap units) (ds.flatMap units) =
      List.compareLex (compareBy Ord.compare place) cs ds
  | [], [] => rfl
  | [], d :: ds => by
      obtain ⟨v, vs, hd⟩ := units_eq_cons d
      rw [List.flatMap_cons, hd]
      rfl
  | c :: cs, [] => by
      obtain ⟨u, us, hc⟩ := units_eq_cons c
      rw [List.flatMap_cons, hc]
      rfl
  | c :: cs, d :: ds => by
      rw [List.flatMap_cons, List.flatMap_cons, compareLex_units, compareLex_flatMap_units cs ds,
        List.compareLex_cons_cons, compareBy]

/-- The order of units is the lexicographic order by the places of characters. -/
theorem compareUnits_eq (a b : String) :
    compareUnits a b = List.compareLex (compareBy Ord.compare place) a.toList b.toList :=
  compareLex_flatMap_units a.toList b.toList

/-! ## Where the two orders differ -/

/-- Whether one of two characters is supplementary and the other one of U+E000 to U+FFFF, which
stand behind the surrogates. -/
def AcrossSurrogates (c d : Char) : Prop :=
  0x10000 ≤ c.toNat ∧ 0xE000 ≤ d.toNat ∧ d.toNat ≤ 0xFFFF ∨
    0x10000 ≤ d.toNat ∧ 0xE000 ≤ c.toNat ∧ c.toNat ≤ 0xFFFF

theorem compare_place_ne_iff (c d : Char) :
    compareBy Ord.compare place c d ≠ compareBy Ord.compare Char.toNat c d ↔
      AcrossSurrogates c d := by
  have hc := place_cases c
  have hd := place_cases d
  unfold compareBy AcrossSurrogates
  rw [ne_eq, compare_eq_compare_iff]
  omega

theorem not_acrossSurrogates_self (c : Char) : ¬ AcrossSurrogates c c := by
  unfold AcrossSurrogates
  omega

/-- Two texts stand in one order by units and in another by code points exactly if they part across
the surrogates. -/
theorem compareUnits_ne_comparePoints_iff (a b : String) :
    compareUnits a b ≠ comparePoints a b ↔ PartWith AcrossSurrogates a.toList b.toList := by
  rw [compareUnits_eq, comparePoints, compareLex_ne_iff]
  simp only [compare_place_ne_iff]

/-- The order of units is total. It is the order of code points except for texts neither of which is
an initial part of the other and which part across the surrogates. -/
theorem compareUnits_total_and_ne_iff :
    IsTotalOrder compareUnits ∧ ∀ a b, compareUnits a b ≠ comparePoints a b ↔
      (¬ a.toList <+: b.toList ∧ ¬ b.toList <+: a.toList) ∧
        PartWith AcrossSurrogates a.toList b.toList := by
  refine ⟨isTotalOrder compareUnits, fun a b => ?_⟩
  rw [compareUnits_ne_comparePoints_iff]
  constructor
  · intro hpart
    exact ⟨hpart.not_prefix not_acrossSurrogates_self, hpart⟩
  · rintro ⟨-, hpart⟩
    exact hpart

end Text

end DexPools
