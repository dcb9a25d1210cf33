import DexPools.Proofs.Order
import DexPools.Sorted

/-!
# Sorted lists

What `Sorted.sort` does, for any lawful comparison: it permutes the list, the result ascends, and
a list that ascends already stays as it is. The order of a list in which no two elements compare
equal is forgotten altogether, so two lists with the same such elements sort to the same list.

Sorting commutes with every view that keeps the comparison. This is how a list of pool entries
and the list of what they read back to come out in the same order, although one is sorted by
entries and the other one by text.
-/

namespace DexPools.Sorted

open Std

variable {α β : Type}

/-! ## Sorting permutes -/

theorem insert_perm (cmp : α → α → Ordering) (x : α) (xs : List α) :
    (insert cmp x xs).Perm (x :: xs) := by
  induction xs with
  | nil => exact List.Perm.refl _
  | cons y ys ih =>
      rw [insert]
      split
      · exact List.Perm.refl _
      · exact (ih.cons y).trans (List.Perm.swap x y ys)

theorem sort_perm (cmp : α → α → Ordering) (xs : List α) : (sort cmp xs).Perm xs := by
  induction xs with
  | nil => exact List.Perm.refl _
  | cons x xs ih => exact (insert_perm cmp x (sort cmp xs)).trans (ih.cons x)

@[simp]
theorem mem_sort {cmp : α → α → Ordering} {x : α} {xs : List α} : x ∈ sort cmp xs ↔ x ∈ xs :=
  (sort_perm cmp xs).mem_iff

/-! ## The result ascends -/

/-- Every element stands before or beside every later one. -/
def Ascending (cmp : α → α → Ordering) (xs : List α) : Prop :=
  xs.Pairwise fun a b => (cmp a b).isLE

theorem insert_ascending {cmp : α → α → Ordering} [TransCmp cmp] {x : α} {xs : List α}
    (h : Ascending cmp xs) : Ascending cmp (insert cmp x xs) := by
  induction xs with
  | nil => simp [Ascending, insert]
  | cons y ys ih =>
      obtain ⟨hy, hys⟩ := List.pairwise_cons.mp h
      rw [insert]
      split
      · next hxy =>
          refine List.pairwise_cons.mpr ⟨fun z hz => ?_, h⟩
          rcases List.mem_cons.mp hz with rfl | hz
          · exact hxy
          · exact TransCmp.isLE_trans hxy (hy z hz)
      · next hxy =>
          have hyx : (cmp y x).isLE := by
            rw [@OrientedCmp.eq_swap _ cmp]
            cases hc : cmp x y <;> simp_all
          refine List.pairwise_cons.mpr ⟨fun z hz => ?_, ih hys⟩
          rcases List.mem_cons.mp ((insert_perm cmp x ys).mem_iff.mp hz) with rfl | hz
          · exact hyx
          · exact hy z hz

theorem sort_ascending (cmp : α → α → Ordering) [TransCmp cmp] (xs : List α) :
    Ascending cmp (sort cmp xs) := by
  induction xs with
  | nil => exact List.Pairwise.nil
  | cons x xs ih => exact insert_ascending ih

/-- Among elements of which no two compare equal, the result ascends strictly. -/
theorem sort_strict {cmp : α → α → Ordering} [TransCmp cmp] {xs : List α}
    (h : xs.Pairwise fun a b => cmp a b ≠ .eq) :
    (sort cmp xs).Pairwise fun a b => cmp a b = .lt := by
  have hne : (sort cmp xs).Pairwise fun a b => cmp a b ≠ .eq := by
    refine (sort_perm cmp xs).symm.pairwise h fun {a b} hab => ?_
    rw [@OrientedCmp.eq_swap _ cmp]
    cases hc : cmp a b <;> simp_all
  refine ((sort_ascending cmp xs).and hne).imp fun {a b} ⟨hle, hne⟩ => ?_
  cases hc : cmp a b <;> simp_all

/-! ## Sorting what is sorted, and sorting two arrangements of one list -/

theorem sort_eq_self {cmp : α → α → Ordering} {xs : List α} (h : Ascending cmp xs) :
    sort cmp xs = xs := by
  induction xs with
  | nil => rfl
  | cons x xs ih =>
      obtain ⟨hx, hxs⟩ := List.pairwise_cons.mp h
      rw [sort, ih hxs]
      cases xs with
      | nil => rfl
      | cons y ys => rw [insert, if_pos (hx y (by simp))]

theorem sort_sort (cmp : α → α → Ordering) [TransCmp cmp] (xs : List α) :
    sort cmp (sort cmp xs) = sort cmp xs :=
  sort_eq_self (sort_ascending cmp xs)

/-- Two arrangements of one list sort to the same list if no two elements compare equal. -/
theorem sort_eq_of_perm {cmp : α → α → Ordering} [TransCmp cmp] {xs ys : List α}
    (h : xs.Perm ys) (hinj : ∀ a ∈ xs, ∀ b ∈ xs, cmp a b = .eq → a = b) :
    sort cmp xs = sort cmp ys := by
  have hperm : (sort cmp xs).Perm (sort cmp ys) :=
    (sort_perm cmp xs).trans (h.trans (sort_perm cmp ys).symm)
  refine hperm.eq_of_pairwise (fun a b ha hb hab hba => ?_) (sort_ascending cmp xs)
    (sort_ascending cmp ys)
  refine hinj a (mem_sort.mp ha) b (mem_sort.mp (hperm.mem_iff.mpr hb)) ?_
  rw [@OrientedCmp.eq_swap _ cmp] at hba
  cases hc : cmp a b <;> simp_all

/-! ## Views that keep the comparison -/

theorem map_insert {cmp : α → α → Ordering} {cmp' : β → β → Ordering} {f : α → β} {x : α}
    {xs : List α} (h : ∀ y ∈ xs, cmp x y = cmp' (f x) (f y)) :
    (insert cmp x xs).map f = insert cmp' (f x) (xs.map f) := by
  induction xs with
  | nil => rfl
  | cons y ys ih =>
      rw [insert, List.map_cons, insert, ← h y (by simp)]
      split
      · rfl
      · rw [List.map_cons, ih fun z hz => h z (by simp [hz])]

theorem map_sort {cmp : α → α → Ordering} {cmp' : β → β → Ordering} {f : α → β} {xs : List α}
    (h : ∀ a ∈ xs, ∀ b ∈ xs, cmp a b = cmp' (f a) (f b)) :
    (sort cmp xs).map f = sort cmp' (xs.map f) := by
  induction xs with
  | nil => rfl
  | cons x xs ih =>
      have hsort := ih fun a ha b hb => h a (by simp [ha]) b (by simp [hb])
      rw [sort, List.map_cons, sort, ← hsort]
      exact map_insert fun y hy => h x (by simp) y (by simp [mem_sort.mp hy])

/-! ## Splitting a list -/

theorem partition_perm (p : α → Bool) (xs : List α) :
    ((xs.partition p).1 ++ (xs.partition p).2).Perm xs := by
  rw [List.partition_eq_filter_filter]
  exact List.filter_append_perm p xs

theorem partition_append {p : α → Bool} {as bs : List α} (ha : ∀ a ∈ as, p a = true)
    (hb : ∀ b ∈ bs, p b = false) : (as ++ bs).partition p = (as, bs) := by
  simp only [List.partition_eq_filter_filter, List.filter_append, Prod.mk.injEq]
  constructor
  · rw [List.filter_eq_self.mpr ha, List.filter_eq_nil_iff.mpr, List.append_nil]
    exact fun b hb' => by simp [hb b hb']
  · rw [List.filter_eq_nil_iff.mpr, List.nil_append, List.filter_eq_self.mpr]
    · exact fun b hb' => by simp [hb b hb']
    · exact fun a ha' => by simp [ha a ha']

theorem forall_sorted_parts (p : α → Bool) (cmp : α → α → Ordering) (xs : List α) :
    (∀ a ∈ sort cmp (xs.partition p).1, p a = true) ∧
      ∀ a ∈ sort cmp (xs.partition p).2, p a = false := by
  rw [List.partition_eq_filter_filter]
  refine ⟨fun a ha => ?_, fun a ha => ?_⟩
  · exact (List.mem_filter.mp (mem_sort.mp ha)).2
  · simpa using (List.mem_filter.mp (mem_sort.mp ha)).2

theorem partition_sorted (p : α → Bool) (cmp : α → α → Ordering) (xs : List α) :
    (sort cmp (xs.partition p).1 ++ sort cmp (xs.partition p).2).partition p =
      (sort cmp (xs.partition p).1, sort cmp (xs.partition p).2) :=
  partition_append (forall_sorted_parts p cmp xs).1 (forall_sorted_parts p cmp xs).2

/-- The two parts of a list of which no two elements compare equal ascend strictly. -/
theorem sorted_parts_strict (p : α → Bool) {cmp : α → α → Ordering} [TransCmp cmp] {xs : List α}
    (h : xs.Pairwise fun a b => cmp a b ≠ .eq) :
    (sort cmp (xs.partition p).1).Pairwise (fun a b => cmp a b = .lt) ∧
      (sort cmp (xs.partition p).2).Pairwise fun a b => cmp a b = .lt := by
  rw [List.partition_eq_filter_filter]
  exact ⟨sort_strict (h.filter p), sort_strict (h.filter _)⟩

theorem mem_sorted_parts {p : α → Bool} {cmp : α → α → Ordering} {xs : List α} {x : α} :
    x ∈ sort cmp (xs.partition p).1 ++ sort cmp (xs.partition p).2 ↔ x ∈ xs := by
  rw [List.mem_append, mem_sort, mem_sort, ← List.mem_append]
  exact (partition_perm p xs).mem_iff

/-- Splitting and sorting commutes with a view that keeps both the property and the comparison. -/
theorem map_sorted_parts {cmp : α → α → Ordering} {cmp' : β → β → Ordering} {p : α → Bool}
    {q : β → Bool} {f : α → β} {xs : List α} (hp : ∀ a, q (f a) = p a)
    (hcmp : ∀ a ∈ xs, ∀ b ∈ xs, cmp a b = cmp' (f a) (f b)) :
    (sort cmp (xs.partition p).1).map f = sort cmp' ((xs.map f).partition q).1 ∧
      (sort cmp (xs.partition p).2).map f = sort cmp' ((xs.map f).partition q).2 := by
  have hq : q ∘ f = p := funext hp
  have hq' : (not ∘ q) ∘ f = not ∘ p := congrArg (not ∘ ·) hq
  simp only [List.partition_eq_filter_filter, List.filter_map, hq, hq']
  have hsort : ∀ r : α → Bool,
      (sort cmp (xs.filter r)).map f = sort cmp' ((xs.filter r).map f) := fun r =>
    map_sort fun a ha b hb => hcmp a (List.mem_filter.mp ha).1 b (List.mem_filter.mp hb).1
  exact ⟨hsort p, hsort (not ∘ p)⟩

/-! ## Sets -/

theorem mem_of_mem_insertNew {cmp : α → α → Ordering} {x y : α} {xs : List α}
    (h : y ∈ insertNew cmp x xs) : y = x ∨ y ∈ xs := by
  induction xs with
  | nil => exact .inl (List.mem_singleton.mp h)
  | cons z zs ih =>
      rw [insertNew] at h
      split at h
      · exact List.mem_cons.mp h
      · exact .inr h
      · rcases List.mem_cons.mp h with rfl | h
        · exact .inr List.mem_cons_self
        · exact (ih h).imp_right (List.mem_cons_of_mem z)

theorem mem_of_mem_sortedSet {cmp : α → α → Ordering} {y : α} {xs : List α}
    (h : y ∈ sortedSet cmp xs) : y ∈ xs := by
  induction xs with
  | nil => exact h
  | cons x xs ih =>
      rcases mem_of_mem_insertNew h with rfl | h
      · exact List.mem_cons_self
      · exact List.mem_cons_of_mem x (ih h)

theorem nodup_map_insertNew {cmp : α → α → Ordering} {key : α → β} {x : α} {xs : List α}
    (hx : ∀ y ∈ xs, key x ≠ key y) (hxs : (xs.map key).Nodup) :
    ((insertNew cmp x xs).map key).Nodup := by
  induction xs with
  | nil => simp [insertNew]
  | cons y ys ih =>
      obtain ⟨hxy, hxys⟩ := List.forall_mem_cons.mp hx
      obtain ⟨hy, hys⟩ := List.nodup_cons.mp hxs
      rw [insertNew]
      split
      · refine List.nodup_cons.mpr ⟨fun hmem => ?_, hxs⟩
        obtain ⟨z, hz, hzx⟩ := List.mem_map.mp hmem
        exact hx z hz hzx.symm
      · exact hxs
      · refine List.nodup_cons.mpr ⟨fun hmem => ?_, ih hxys hys⟩
        obtain ⟨z, hz, hzy⟩ := List.mem_map.mp hmem
        rcases mem_of_mem_insertNew hz with rfl | hz
        · exact hxy hzy
        · exact hy (List.mem_map.mpr ⟨z, hz, hzy⟩)

/-- What tells the elements of a list apart tells those of its set apart. -/
theorem nodup_map_sortedSet {cmp : α → α → Ordering} {key : α → β} {xs : List α}
    (h : (xs.map key).Nodup) : ((sortedSet cmp xs).map key).Nodup := by
  induction xs with
  | nil => exact List.nodup_nil
  | cons x xs ih =>
      obtain ⟨hx, hxs⟩ := List.nodup_cons.mp h
      refine nodup_map_insertNew (fun y hy heq => hx ?_) (ih hxs)
      exact List.mem_map.mpr ⟨y, mem_of_mem_sortedSet hy, heq.symm⟩

section Keyed

variable {cmp rest : α → α → Ordering} {cmp' : β → β → Ordering} [TransCmp cmp'] {key : α → β}

theorem map_insertNew_ascending
    (hcmp : ∀ a b, cmp a b = (cmp' (key a) (key b)).then (rest a b)) {x : α} {xs : List α}
    (h : Ascending cmp' (xs.map key)) : Ascending cmp' ((insertNew cmp x xs).map key) := by
  induction xs with
  | nil => simp [Ascending, insertNew]
  | cons y ys ih =>
      obtain ⟨hy, hys⟩ := List.pairwise_cons.mp h
      rw [insertNew]
      split
      · next hlt =>
          have hxy : (cmp' (key x) (key y)).isLE := by
            rw [hcmp, Ordering.then_eq_lt] at hlt
            rcases hlt with h | ⟨h, -⟩ <;> rw [h] <;> rfl
          refine List.pairwise_cons.mpr ⟨fun k hk => ?_, h⟩
          rcases List.mem_cons.mp hk with rfl | hk
          · exact hxy
          · exact TransCmp.isLE_trans hxy (hy k hk)
      · exact h
      · next hgt =>
          have hyx : (cmp' (key y) (key x)).isLE := by
            rw [hcmp, Ordering.then_eq_gt] at hgt
            rw [@OrientedCmp.eq_swap _ cmp']
            rcases hgt with h | ⟨h, -⟩ <;> rw [h] <;> rfl
          refine List.pairwise_cons.mpr ⟨fun k hk => ?_, ih hys⟩
          obtain ⟨z, hz, rfl⟩ := List.mem_map.mp hk
          rcases mem_of_mem_insertNew hz with rfl | hz
          · exact hyx
          · exact hy _ (List.mem_map_of_mem hz)

/-- A set that is ordered by a key first has its keys in order, whatever decides between elements of
one key. As far as the keys are concerned, that need not even be an order. -/
theorem map_sortedSet_ascending
    (hcmp : ∀ a b, cmp a b = (cmp' (key a) (key b)).then (rest a b)) (xs : List α) :
    Ascending cmp' ((sortedSet cmp xs).map key) := by
  induction xs with
  | nil => exact List.Pairwise.nil
  | cons x xs ih => exact map_insertNew_ascending hcmp ih

end Keyed

/-- An ascending list without repetition ascends strictly. -/
theorem Ascending.strict {cmp : α → α → Ordering} [LawfulEqCmp cmp] {xs : List α}
    (h : Ascending cmp xs) (hnodup : xs.Nodup) : xs.Pairwise fun a b => cmp a b = .lt := by
  refine (h.and hnodup).imp fun {a b} ⟨hle, hne⟩ => ?_
  cases hc : cmp a b with
  | lt => rfl
  | eq => exact absurd (LawfulEqCmp.eq_of_compare hc) hne
  | gt =>
      rw [hc] at hle
      cases hle

section Lawful

variable {cmp : α → α → Ordering} {x y : α} {xs ys : List α}

theorem mem_insertNew [LawfulEqCmp cmp] : y ∈ insertNew cmp x xs ↔ y = x ∨ y ∈ xs := by
  induction xs with
  | nil => simp [insertNew]
  | cons z zs ih =>
      rw [insertNew]
      split
      · exact List.mem_cons
      · next heq =>
          rw [LawfulEqCmp.eq_of_compare heq]
          simp
      · rw [List.mem_cons, ih, List.mem_cons, or_left_comm]

/-- What the order holds equal is equal, so no element is lost. -/
theorem mem_sortedSet [LawfulEqCmp cmp] : x ∈ sortedSet cmp xs ↔ x ∈ xs := by
  induction xs with
  | nil => rfl
  | cons z zs ih => rw [sortedSet, mem_insertNew, ih, List.mem_cons]

theorem insertNew_strict [TransCmp cmp] (h : xs.Pairwise fun a b => cmp a b = .lt) :
    (insertNew cmp x xs).Pairwise fun a b => cmp a b = .lt := by
  induction xs with
  | nil => simp [insertNew]
  | cons y ys ih =>
      obtain ⟨hy, hys⟩ := List.pairwise_cons.mp h
      rw [insertNew]
      split
      · next hlt =>
          refine List.pairwise_cons.mpr ⟨?_, h⟩
          intro z hz
          rcases List.mem_cons.mp hz with rfl | hz
          · exact hlt
          · exact TransCmp.lt_trans hlt (hy z hz)
      · exact h
      · next hgt =>
          refine List.pairwise_cons.mpr ⟨?_, ih hys⟩
          intro z hz
          rcases mem_of_mem_insertNew hz with rfl | hz
          · exact OrientedCmp.gt_iff_lt.mp hgt
          · exact hy z hz

theorem sortedSet_strict (cmp : α → α → Ordering) [TransCmp cmp] (xs : List α) :
    (sortedSet cmp xs).Pairwise fun a b => cmp a b = .lt := by
  induction xs with
  | nil => exact List.Pairwise.nil
  | cons x xs ih => exact insertNew_strict ih

/-- Two lists that ascend strictly are the same if they have the same elements. -/
theorem eq_of_strict [TransCmp cmp] (hxs : xs.Pairwise fun a b => cmp a b = .lt)
    (hys : ys.Pairwise fun a b => cmp a b = .lt) (h : ∀ a, a ∈ xs ↔ a ∈ ys) : xs = ys := by
  have hnodup : ∀ {zs : List α}, zs.Pairwise (fun a b => cmp a b = .lt) → zs.Nodup := by
    intro zs hzs
    refine hzs.imp ?_
    rintro a _ hlt rfl
    rw [@ReflCmp.compare_self _ cmp _ a] at hlt
    cases hlt
  have hperm : xs.Perm ys := (List.perm_ext_iff_of_nodup (hnodup hxs) (hnodup hys)).mpr h
  refine hperm.eq_of_pairwise ?_ hxs hys
  intro a b _ _ hab hba
  rw [OrientedCmp.gt_iff_lt.mpr hab] at hba
  cases hba

/-- How a list is split by a property into halves that ascend strictly is told by its elements. -/
theorem eq_of_split [TransCmp cmp] {p : α → Bool} {as bs as' bs' : List α}
    (h : (as ++ bs).Perm (as' ++ bs')) (ha : ∀ a ∈ as, p a = true) (hb : ∀ b ∈ bs, p b = false)
    (ha' : ∀ a ∈ as', p a = true) (hb' : ∀ b ∈ bs', p b = false)
    (hstrict : as.Pairwise fun a b => cmp a b = .lt)
    (hstrict' : as'.Pairwise fun a b => cmp a b = .lt)
    (hrest : bs.Pairwise fun a b => cmp a b = .lt)
    (hrest' : bs'.Pairwise fun a b => cmp a b = .lt) : as = as' ∧ bs = bs' := by
  have hsplit := partition_append ha hb
  have hsplit' := partition_append ha' hb'
  rw [List.partition_eq_filter_filter, Prod.mk.injEq] at hsplit hsplit'
  have hfirst : as.Perm as' := by
    rw [← hsplit.1, ← hsplit'.1]
    exact h.filter p
  have hsecond : bs.Perm bs' := by
    rw [← hsplit.2, ← hsplit'.2]
    exact h.filter _
  exact ⟨eq_of_strict hstrict hstrict' fun _ => hfirst.mem_iff,
    eq_of_strict hrest hrest' fun _ => hsecond.mem_iff⟩

/-- Two lists make the same set if they have the same elements. -/
theorem sortedSet_eq_iff [TransCmp cmp] [LawfulEqCmp cmp] :
    sortedSet cmp xs = sortedSet cmp ys ↔ ∀ a, a ∈ xs ↔ a ∈ ys := by
  have hmem : ∀ a zs, a ∈ sortedSet cmp zs ↔ a ∈ zs := fun _ _ => mem_sortedSet
  constructor
  · intro h a
    rw [← hmem a xs, h, hmem a ys]
  · intro h
    refine eq_of_strict (sortedSet_strict cmp xs) (sortedSet_strict cmp ys) ?_
    intro a
    rw [hmem a xs, hmem a ys, h a]

end Lawful

/-! ## First occurrences -/

theorem firstRepeat_go_eq_none_iff {κ : Type} [DecidableEq κ] {key : α → κ} {seen : List κ}
    {xs : List α} : firstRepeat.go key seen xs = none ↔
      (xs.map key).Nodup ∧ ∀ x ∈ xs, key x ∉ seen := by
  induction xs generalizing seen with
  | nil => simp [firstRepeat.go]
  | cons x xs ih =>
      rw [firstRepeat.go]
      split
      · next hx => simp [hx]
      · next hx =>
          rw [ih]
          simp only [List.map_cons, List.nodup_cons, List.mem_map, List.mem_cons, not_or,
            forall_eq_or_imp]
          grind

theorem firstRepeat_eq_none_iff {κ : Type} [DecidableEq κ] {key : α → κ} {xs : List α} :
    firstRepeat key xs = none ↔ (xs.map key).Nodup := by
  rw [firstRepeat, firstRepeat_go_eq_none_iff]
  simp

theorem firstRepeat_go_eq_some {κ : Type} [DecidableEq κ] {key : α → κ} {seen : List κ}
    {xs : List α} {x : α} (h : firstRepeat.go key seen xs = some x) :
    (x ∈ xs ∧ key x ∈ seen) ∨ ∃ y, [y, x].Sublist xs ∧ key y = key x := by
  induction xs generalizing seen with
  | nil => cases h
  | cons z zs ih =>
      rw [firstRepeat.go] at h
      split at h
      · next hz =>
        cases h
        exact .inl ⟨List.mem_cons_self, hz⟩
      · rcases ih h with ⟨hx, hseen⟩ | ⟨y, hsub, hkey⟩
        · rcases List.mem_cons.mp hseen with hkey | hseen
          · exact .inr ⟨z, (List.singleton_sublist.mpr hx).cons_cons z, hkey.symm⟩
          · exact .inl ⟨List.mem_cons_of_mem z hx, hseen⟩
        · exact .inr ⟨y, hsub.cons z, hkey⟩

/-- A repeated element is the second of two with one key. -/
theorem exists_of_firstRepeat {κ : Type} [DecidableEq κ] {key : α → κ} {xs : List α} {x : α}
    (h : firstRepeat key xs = some x) : ∃ y, [y, x].Sublist xs ∧ key y = key x := by
  rcases firstRepeat_go_eq_some h with ⟨-, hseen⟩ | hrepeat
  · exact absurd hseen List.not_mem_nil
  · exact hrepeat

/-- No two places of a list agree in a key. -/
theorem nodup_map_iff {κ : Type} {key : α → κ} {xs : List α} :
    (xs.map key).Nodup ↔ ¬ ∃ a b, [a, b].Sublist xs ∧ key a = key b := by
  rw [List.Nodup, List.pairwise_map, List.pairwise_iff_forall_sublist]
  simp only [not_exists, not_and, ne_eq]

section Dedup

variable [DecidableEq α]

/-- What `dedupBy` has kept so far stands in front, and of the rest it adds what is new. -/
theorem foldl_dedup_of_disjoint {xs kept : List α} (h : (kept ++ xs).Nodup) :
    xs.foldl (fun kept x => if kept.any (· == x) then kept else kept ++ [x]) kept =
      kept ++ xs := by
  induction xs generalizing kept with
  | nil => simp
  | cons x xs ih =>
      have hx : x ∉ kept := fun hmem => by
        have hdisjoint := (List.nodup_append.mp h).2.2
        exact hdisjoint x hmem x (by simp) rfl
      have hany : kept.any (· == x) = false := by
        rw [List.any_eq_false]
        intro y hy hyx
        rw [beq_iff_eq] at hyx
        exact hx (hyx ▸ hy)
      rw [List.foldl_cons, hany]
      simp only [Bool.false_eq_true, if_false]
      rw [ih (by simpa using h)]
      simp

theorem foldl_dedup_nodup {xs kept : List α} (h : kept.Nodup) :
    (xs.foldl (fun kept x => if kept.any (· == x) then kept else kept ++ [x]) kept).Nodup := by
  induction xs generalizing kept with
  | nil => exact h
  | cons x xs ih =>
      rw [List.foldl_cons]
      refine ih ?_
      split
      · exact h
      · next hany =>
          refine List.nodup_append.mpr ⟨h, by simp, fun a ha b hb hab => hany ?_⟩
          rw [List.mem_singleton] at hb
          exact List.any_eq_true.mpr ⟨a, ha, by simp [hab, hb]⟩

theorem dedupBy_nodup (xs : List α) : (dedupBy (· == ·) xs).Nodup :=
  foldl_dedup_nodup List.nodup_nil

theorem dedupBy_eq_self {xs : List α} (h : xs.Nodup) : dedupBy (· == ·) xs = xs :=
  foldl_dedup_of_disjoint (by simpa using h)

theorem dedupBy_dedupBy (xs : List α) :
    dedupBy (· == ·) (dedupBy (· == ·) xs) = dedupBy (· == ·) xs :=
  dedupBy_eq_self (dedupBy_nodup xs)

/-- Whether a list has the elements of another one, each once, in the order of their first
occurrences. -/
def FirstOccurrences (xs ys : List α) : Prop :=
  (∀ a, a ∈ ys ↔ a ∈ xs) ∧ ys.Pairwise fun a b => xs.idxOf a < xs.idxOf b

/-- Behind a list of which the first occurrences are known, an element is a first occurrence exactly
if it is not one of those. -/
theorem FirstOccurrences.concat {xs ys : List α} (h : FirstOccurrences xs ys) (x : α) :
    FirstOccurrences (xs ++ [x]) (if x ∈ ys then ys else ys ++ [x]) := by
  obtain ⟨hmem, hpairs⟩ := h
  -- What stood in the list before is found where it was.
  have hkept : ys.Pairwise fun a b => (xs ++ [x]).idxOf a < (xs ++ [x]).idxOf b := by
    refine hpairs.imp_of_mem fun {a b} ha hb hab => ?_
    rwa [List.idxOf_append, if_pos ((hmem a).mp ha), List.idxOf_append, if_pos ((hmem b).mp hb)]
  split
  · next hx =>
    refine ⟨fun a => ?_, hkept⟩
    rw [List.mem_append, List.mem_singleton, hmem]
    refine ⟨.inl, fun ha => ha.elim id fun hax => ?_⟩
    rw [hax]
    exact (hmem x).mp hx
  · next hx =>
    refine ⟨fun a => by simp [hmem], List.pairwise_append.mpr ⟨hkept, by simp, ?_⟩⟩
    intro a ha b hb
    have haxs : a ∈ xs := (hmem a).mp ha
    have hxxs : x ∉ xs := fun hmem' => hx ((hmem x).mpr hmem')
    rw [List.mem_singleton.mp hb, List.idxOf_append, if_pos haxs, List.idxOf_append, if_neg hxxs]
    exact Nat.lt_add_left _ (List.idxOf_lt_length_of_mem haxs)

theorem foldl_dedup_firstOccurrences {xs ys kept : List α} (h : FirstOccurrences xs kept) :
    FirstOccurrences (xs ++ ys)
      (ys.foldl (fun kept x => if kept.any (· == x) then kept else kept ++ [x]) kept) := by
  induction ys generalizing xs kept with
  | nil => rwa [List.append_nil]
  | cons y ys ih =>
      have hstep : (if kept.any (· == y) then kept else kept ++ [y]) =
          if y ∈ kept then kept else kept ++ [y] := by
        simp [List.any_beq']
      rw [List.foldl_cons, hstep, List.append_cons]
      exact ih (h.concat y)

theorem dedupBy_firstOccurrences (xs : List α) : FirstOccurrences xs (dedupBy (· == ·) xs) := by
  have hnone : FirstOccurrences ([] : List α) [] := ⟨fun _ => Iff.rfl, List.Pairwise.nil⟩
  exact foldl_dedup_firstOccurrences hnone

/-- A list has one list of first occurrences. -/
theorem FirstOccurrences.unique {xs ys zs : List α} (hys : FirstOccurrences xs ys)
    (hzs : FirstOccurrences xs zs) : ys = zs := by
  have hstrict : ∀ {l : List α}, FirstOccurrences xs l →
      l.Pairwise fun a b => compareBy compare xs.idxOf a b = .lt :=
    fun hl => hl.2.imp fun h => Nat.compare_eq_lt.mpr h
  exact eq_of_strict (hstrict hys) (hstrict hzs) fun a => (hys.1 a).trans (hzs.1 a).symm

end Dedup

end DexPools.Sorted
