import DexPools.Entry

/-!
# The orders of the tables are lawful

Everything that is sorted by text is sorted by UTF-16 code units, so the laws of all table orders
rest on one fact: the units of a text determine the text. A character below U+10000 is a unit
outside of the surrogates and any other character opens with a high surrogate, hence the first
unit tells how many units belong to the first character.

The orders of references are lexicographic in such texts, and the orders of pool entries are the
orders of the references that the entries read back to. Two comparisons that agree in this way
put the same things in the same places, which is what later modules use.
-/

namespace DexPools

open Std

def compareBy {α β : Type} (cmp : β → β → Ordering) (f : α → β) (a b : α) : Ordering :=
  cmp (f a) (f b)

instance {α β : Type} {cmp : β → β → Ordering} {f : α → β} [OrientedCmp cmp] :
    OrientedCmp (compareBy cmp f) where
  eq_swap {a b} := @OrientedCmp.eq_swap _ cmp _ (f a) (f b)

instance {α β : Type} {cmp : β → β → Ordering} {f : α → β} [TransCmp cmp] :
    TransCmp (compareBy cmp f) where
  isLE_trans {a b c} := @TransCmp.isLE_trans _ cmp _ (f a) (f b) (f c)

theorem lawfulEqCmp_compareBy {α β : Type} {cmp : β → β → Ordering} {f : α → β} [LawfulEqCmp cmp]
    (hf : f.Injective) : LawfulEqCmp (compareBy cmp f) where
  compare_self {a} := @ReflCmp.compare_self _ cmp _ (f a)
  eq_of_compare h := hf (@LawfulEqCmp.eq_of_compare _ cmp _ _ _ h)

namespace Text

/-! ## The units of a text determine it -/

theorem toNat_not_surrogate (c : Char) :
    c.toNat < 0xD800 ∨ 0xDFFF < c.toNat ∧ c.toNat < 0x110000 :=
  c.valid

theorem units_append_inj {c d : Char} {us vs : List Nat} (h : units c ++ us = units d ++ vs) :
    c = d ∧ us = vs := by
  have hc := toNat_not_surrogate c
  have hd := toNat_not_surrogate d
  unfold units at h
  split at h <;> split at h <;>
    simp only [List.cons_append, List.nil_append, List.cons.injEq] at h
  · exact ⟨Char.toNat_inj.mp h.1, h.2⟩
  · omega
  · omega
  · obtain ⟨hhigh, hlow, hrest⟩ := h
    exact ⟨Char.toNat_inj.mp (by omega), hrest⟩

theorem units_eq_cons (c : Char) : ∃ u us, units c = u :: us := by
  unfold units
  split <;> exact ⟨_, _, rfl⟩

theorem flatMap_units_inj : ∀ {cs ds : List Char}, cs.flatMap units = ds.flatMap units → cs = ds
  | [], [], _ => rfl
  | [], d :: ds, h => by
      obtain ⟨v, vs, hd⟩ := units_eq_cons d
      rw [List.flatMap_cons, hd] at h
      cases h
  | c :: cs, [], h => by
      obtain ⟨u, us, hc⟩ := units_eq_cons c
      rw [List.flatMap_cons, hc] at h
      cases h
  | c :: cs, d :: ds, h => by
      simp only [List.flatMap_cons] at h
      obtain ⟨rfl, hrest⟩ := units_append_inj h
      rw [flatMap_units_inj hrest]

theorem unitsOf_inj {a b : String} (h : unitsOf a = unitsOf b) : a = b :=
  String.toList_inj.mp (flatMap_units_inj h)

instance : TransCmp compareUnits :=
  inferInstanceAs (TransCmp (compareBy (List.compareLex compare) unitsOf))

instance : LawfulEqCmp compareUnits :=
  show LawfulEqCmp (compareBy (List.compareLex compare) unitsOf) from
    lawfulEqCmp_compareBy fun _ _ => unitsOf_inj

instance : TransCmp compareUnitLists :=
  inferInstanceAs (TransCmp (List.compareLex compareUnits))

instance : LawfulEqCmp compareUnitLists :=
  inferInstanceAs (LawfulEqCmp (List.compareLex compareUnits))

end Text

open Text

/-! ## The orders of references -/

instance : TransCmp FieldRef.compare :=
  inferInstanceAs (TransCmp (compareLex (compareBy compareUnits FieldRef.definingClass)
    (compareLex (compareBy compareUnits FieldRef.name) (compareBy compareUnits FieldRef.type))))

instance : LawfulEqCmp FieldRef.compare where
  compare_self {a} := @ReflCmp.compare_self _ FieldRef.compare _ a
  eq_of_compare {a b} h := by
    simp only [FieldRef.compare, Ordering.then_eq_eq, LawfulEqCmp.compare_eq_iff_eq] at h
    obtain ⟨hclass, hname, htype⟩ := h
    cases a
    cases b
    simp_all

instance : TransCmp ProtoRef.compare :=
  inferInstanceAs (TransCmp (compareLex (compareBy compareUnits ProtoRef.returnType)
    (compareBy compareUnitLists ProtoRef.params)))

instance : LawfulEqCmp ProtoRef.compare where
  compare_self {a} := @ReflCmp.compare_self _ ProtoRef.compare _ a
  eq_of_compare {a b} h := by
    simp only [ProtoRef.compare, Ordering.then_eq_eq, LawfulEqCmp.compare_eq_iff_eq] at h
    obtain ⟨hreturn, hparams⟩ := h
    cases a
    cases b
    simp_all

instance : TransCmp MethodRef.compare :=
  inferInstanceAs (TransCmp (compareLex (compareBy compareUnits MethodRef.definingClass)
    (compareLex (compareBy compareUnits MethodRef.name)
      (compareLex (compareBy compareUnits MethodRef.returnType)
        (compareBy compareUnitLists MethodRef.params)))))

instance : LawfulEqCmp MethodRef.compare where
  compare_self {a} := @ReflCmp.compare_self _ MethodRef.compare _ a
  eq_of_compare {a b} h := by
    simp only [MethodRef.compare, Ordering.then_eq_eq, LawfulEqCmp.compare_eq_iff_eq] at h
    obtain ⟨hclass, hname, hreturn, hparams⟩ := h
    cases a
    cases b
    simp_all

instance : TransCmp FieldDef.compare :=
  inferInstanceAs (TransCmp (compareBy FieldRef.compare FieldDef.ref))

instance : TransCmp MethodDef.compare :=
  inferInstanceAs (TransCmp (compareBy MethodRef.compare MethodDef.ref))

instance : TransCmp ClassDef.compare :=
  inferInstanceAs (TransCmp (compareBy compareUnits fun c : ClassDef => c.type))

/-! ## The orders of entries -/

/-- Comparing lists entry by entry through a view of the entries. -/
theorem compareLex_map {α β : Type} {cmp : β → β → Ordering} (f : α → β) :
    ∀ as bs : List α,
      List.compareLex (compareBy cmp f) as bs = List.compareLex cmp (as.map f) (bs.map f)
  | [], [] => rfl
  | [], _ :: _ => rfl
  | _ :: _, [] => rfl
  | a :: as, b :: bs => by
      rw [List.map_cons, List.map_cons, List.compareLex_cons_cons, List.compareLex_cons_cons,
        compareLex_map f as bs, compareBy]

/-- A list is smaller exactly if the comparison of its elements says so, where it tells different
elements apart. -/
theorem compareLex_lt_iff {α : Type} [LT α] {cmp : α → α → Ordering} [LawfulEqCmp cmp]
    (hcmp : ∀ a b, cmp a b = .lt ↔ a < b) :
    ∀ {as bs : List α}, List.compareLex cmp as bs = .lt ↔ as < bs
  | [], [] => iff_of_false nofun nofun
  | [], _ :: _ => iff_of_true rfl (List.nil_lt_cons _ _)
  | _ :: _, [] => iff_of_false nofun nofun
  | a :: as, b :: bs => by
      rw [List.compareLex_cons_cons, Ordering.then_eq_lt, hcmp, LawfulEqCmp.compare_eq_iff_eq,
        compareLex_lt_iff hcmp, List.cons_lt_cons_iff]

theorem TypeEntry.compare_eq (a b : TypeEntry) : a.compare b = compareUnits a.text b.text :=
  rfl

theorem TypeListEntry.compare_eq (a b : TypeListEntry) :
    a.compare b = compareUnitLists a.texts b.texts :=
  compareLex_map TypeEntry.text a.types b.types

theorem ProtoEntry.compare_eq (a b : ProtoEntry) : a.compare b = a.ref.compare b.ref := by
  unfold ProtoEntry.compare ProtoRef.compare
  rw [TypeListEntry.compare_eq]
  rfl

theorem FieldEntry.compare_eq (a b : FieldEntry) : a.compare b = a.ref.compare b.ref :=
  rfl

theorem MethodEntry.compare_eq (a b : MethodEntry) : a.compare b = a.ref.compare b.ref := by
  unfold MethodEntry.compare
  rw [ProtoEntry.compare_eq]
  rfl

theorem ClassEntry.compare_eq (a b : ClassEntry) :
    a.compare b = compareUnits a.type.text b.type.text :=
  rfl

instance : TransCmp StringEntry.compare :=
  inferInstanceAs (TransCmp (compareBy compareUnits StringEntry.text))

instance : TransCmp TypeEntry.compare :=
  inferInstanceAs (TransCmp (compareBy compareUnits TypeEntry.text))

instance : TransCmp ProtoEntry.compare := by
  rw [show ProtoEntry.compare = compareBy ProtoRef.compare ProtoEntry.ref from
    funext fun a => funext fun b => ProtoEntry.compare_eq a b]
  infer_instance

instance : TransCmp FieldEntry.compare :=
  inferInstanceAs (TransCmp (compareBy FieldRef.compare FieldEntry.ref))

instance : TransCmp MethodEntry.compare := by
  rw [show MethodEntry.compare = compareBy MethodRef.compare MethodEntry.ref from
    funext fun a => funext fun b => MethodEntry.compare_eq a b]
  infer_instance

instance : TransCmp ClassEntry.compare :=
  inferInstanceAs (TransCmp (compareBy compareUnits fun c : ClassEntry => c.type.text))

end DexPools
