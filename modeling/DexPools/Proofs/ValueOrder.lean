import DexPools.Annotation
import DexPools.Proofs.Sorting

/-!
# The order of values is total

Values nest, so no law of their order can be shown without going through the trees, and transitivity
would have to go through three at a time. It is enough to go through two once. A value is written
out as a list of numbers, its tag first and then its parts in the order in which they are compared,
and what is shown of the order is that it is the one of these lists. Lists of numbers are ordered
lawfully, and the laws come back along the code.

A code has to tell where it ends, since a part is followed by others. A list therefore has a one in
front of each item and a zero at its end, which also puts a proper initial part first. What makes
the induction go through is that two codes are compared in front of anything: what follows decides
only between things that compare equal.
-/

namespace DexPools

open Std Text

/-! ## Codes -/

/-- The order of lists of numbers. -/
def compareCodes : List Int → List Int → Ordering :=
  List.compareLex Ord.compare

instance : TransCmp compareCodes :=
  inferInstanceAs (TransCmp (List.compareLex Ord.compare))

@[simp]
theorem compareCodes_nil : compareCodes [] [] = .eq :=
  List.compareLex_nil_nil

@[simp]
theorem compareCodes_cons (m n : Int) (us vs : List Int) :
    compareCodes (m :: us) (n :: vs) = (Ord.compare m n).then (compareCodes us vs) :=
  List.compareLex_cons_cons

@[simp]
theorem compareCodes_cons_self (n : Int) (us vs : List Int) :
    compareCodes (n :: us) (n :: vs) = compareCodes us vs := by
  rw [compareCodes_cons, Int.compare_eq_eq.mpr rfl, Ordering.eq_then]

theorem compare_natCast (m n : Nat) : Ord.compare (m : Int) n = Ord.compare m n := by
  rw [Int.compare_eq_ite_lt, Nat.compare_eq_ite_lt]
  simp only [Int.ofNat_lt]

/-- Whether a code writes things out in their order, in front of whatever follows. -/
def Codes {α : Type} (cmp : α → α → Ordering) (code : α → List Int) : Prop :=
  ∀ a b us vs,
    compareCodes (code a ++ us) (code b ++ vs) = (cmp a b).then (compareCodes us vs)

/-- Writes a list out item by item, and how long it is along with the items. -/
def codeList {α : Type} (code : α → List Int) : List α → List Int
  | [] => [0]
  | x :: xs => 1 :: (code x ++ codeList code xs)

namespace Codes

variable {α β : Type} {cmp cmp₁ cmp₂ : α → α → Ordering} {code code₁ code₂ : α → List Int}

theorem compare_eq (h : Codes cmp code) (a b : α) :
    cmp a b = compareCodes (code a) (code b) := by
  have hab := h a b [] []
  rw [List.append_nil, List.append_nil, compareCodes_nil, Ordering.then_eq] at hab
  exact hab.symm

/-- What has a code is ordered as lists of numbers are. -/
theorem transCmp (h : Codes cmp code) : TransCmp cmp := by
  rw [show cmp = compareBy compareCodes code from
    funext fun a => funext fun b => h.compare_eq a b]
  infer_instance

theorem by_view (h : Codes cmp code) (f : β → α) : Codes (compareBy cmp f) (code ∘ f) :=
  fun a b => h (f a) (f b)

theorem lex (h₁ : Codes cmp₁ code₁) (h₂ : Codes cmp₂ code₂) :
    Codes (compareLex cmp₁ cmp₂) fun a => code₁ a ++ code₂ a := by
  intro a b us vs
  simp only [List.append_assoc]
  rw [h₁, h₂, compareLex, Ordering.then_assoc]

theorem list (h : Codes cmp code) : Codes (List.compareLex cmp) (codeList code) := by
  intro as bs us vs
  induction as generalizing bs with
  | nil =>
      cases bs with
      | nil => simp [codeList, List.compareLex_nil_nil]
      | cons b bs => rfl
  | cons a as ih =>
      cases bs with
      | nil => rfl
      | cons b bs =>
          simp only [codeList, List.cons_append, List.append_assoc, compareCodes_cons_self]
          rw [h, ih, List.compareLex_cons_cons, Ordering.then_assoc]

protected theorem int : Codes (Ord.compare : Int → Int → Ordering) fun n => [n] :=
  fun m n us vs => compareCodes_cons m n us vs

protected theorem nat : Codes (Ord.compare : Nat → Nat → Ordering) fun n => [(n : Int)] := by
  intro m n us vs
  rw [List.singleton_append, List.singleton_append, compareCodes_cons, compare_natCast]

protected theorem bool :
    Codes (Ord.compare : Bool → Bool → Ordering) fun b => [(b.toNat : Int)] := by
  intro a b us vs
  have hcast : Ord.compare (a.toNat : Int) b.toNat = Ord.compare a b := by
    cases a <;> cases b <;> rfl
  rw [List.singleton_append, List.singleton_append, compareCodes_cons, hcast]

end Codes

/-! ## The codes of the leaves -/

def codeText (s : String) : List Int :=
  codeList (fun u : Nat => [(u : Int)]) (unitsOf s)

def FieldRef.code (f : FieldRef) : List Int :=
  codeText f.definingClass ++ (codeText f.name ++ codeText f.type)

def MethodRef.code (m : MethodRef) : List Int :=
  codeText m.definingClass ++ (codeText m.name ++
    (codeText m.returnType ++ codeList codeText m.params))

theorem codes_text : Codes compareUnits codeText :=
  Codes.nat.list.by_view unitsOf

theorem codes_fieldRef : Codes FieldRef.compare FieldRef.code :=
  (codes_text.by_view FieldRef.definingClass).lex
    ((codes_text.by_view FieldRef.name).lex (codes_text.by_view FieldRef.type))

theorem codes_methodRef : Codes MethodRef.compare MethodRef.code :=
  (codes_text.by_view MethodRef.definingClass).lex <|
    (codes_text.by_view MethodRef.name).lex <|
      (codes_text.by_view MethodRef.returnType).lex (codes_text.list.by_view MethodRef.params)

/-- The rank in the total order of bits forgets nothing. -/
theorem totalOrderRank_inj {width a b : Nat} (hwidth : 0 < width) (ha : a < Nat.pow 2 width)
    (hb : b < Nat.pow 2 width) (h : totalOrderRank width a = totalOrderRank width b) : a = b := by
  obtain ⟨n, rfl⟩ : ∃ n, width = n + 1 := ⟨width - 1, by omega⟩
  have hpow : Nat.pow 2 (n + 1) = Nat.pow 2 n * 2 := rfl
  simp only [totalOrderRank, Nat.add_sub_cancel] at h
  split at h <;> split at h <;> omega

namespace ValueKind

theorem tag_inj {a b : ValueKind} (h : a.tag = b.tag) : a = b := by
  cases a <;> cases b <;> first | rfl | cases h

end ValueKind

namespace Value

/-! ## The codes of values -/

mutual

/-- What stands behind the tag of a value. -/
def payload : TextValue → List Int
  | byte v => [v.toInt]
  | short v => [v.toInt]
  | char v => [v.toNat]
  | int v => [v.toInt]
  | long v => [v.toInt]
  | float bits => [totalOrderRank 32 bits.toNat]
  | double bits => [totalOrderRank 64 bits.toNat]
  | string s => codeText s
  | type t => codeText t
  | field f => f.code
  | method m => m.code
  | enum f => f.code
  | array items => codeItems items
  | annotationItem t elements => codeText t ++ codeElements elements
  | null => []
  | boolean b => [b.toNat]

def codeItems : List TextValue → List Int
  | [] => [0]
  | v :: rest => 1 :: v.kind.tag :: (payload v ++ codeItems rest)

def codeElements : List TextElement → List Int
  | [] => [0]
  | ⟨name, v⟩ :: rest =>
      1 :: (codeText name ++ ((v.kind.tag : Int) :: (payload v ++ codeElements rest)))

end

/-- A value as a list of numbers: its tag and what stands behind it. -/
def code (v : TextValue) : List Int :=
  v.kind.tag :: payload v

/-- Two values of one kind. -/
inductive SameKind : TextValue → TextValue → Prop where
  | byte (a b) : SameKind (.byte a) (.byte b)
  | short (a b) : SameKind (.short a) (.short b)
  | char (a b) : SameKind (.char a) (.char b)
  | int (a b) : SameKind (.int a) (.int b)
  | long (a b) : SameKind (.long a) (.long b)
  | float (a b) : SameKind (.float a) (.float b)
  | double (a b) : SameKind (.double a) (.double b)
  | string (a b) : SameKind (.string a) (.string b)
  | type (a b) : SameKind (.type a) (.type b)
  | field (a b) : SameKind (.field a) (.field b)
  | method (a b) : SameKind (.method a) (.method b)
  | enum (a b) : SameKind (.enum a) (.enum b)
  | array (as bs) : SameKind (.array as) (.array bs)
  | annotationItem (s t as bs) : SameKind (.annotationItem s as) (.annotationItem t bs)
  | null : SameKind .null .null
  | boolean (a b) : SameKind (.boolean a) (.boolean b)

theorem SameKind.of_kind_eq {a b : TextValue} (h : a.kind = b.kind) : SameKind a b := by
  cases a <;> cases b <;> first | constructor | cases h

/-- Values of two kinds are in the order of their tags. -/
theorem compare_of_kind_ne {a b : TextValue} (h : a.kind ≠ b.kind) :
    a.compare b = Ord.compare a.kind.tag b.kind.tag := by
  cases a <;> cases b <;> first | exact absurd rfl h | rfl

theorem compare_annotationItem (s t : String) (as bs : List TextElement) :
    compare (.annotationItem s as) (.annotationItem t bs) =
      (compareUnits s t).then (compareElements as bs) :=
  rfl

theorem compareItems_eq (as bs : List TextValue) :
    compareItems as bs = List.compareLex compare as bs := by
  induction as generalizing bs with
  | nil => cases bs <;> rfl
  | cons a as ih =>
      cases bs with
      | nil => rfl
      | cons b bs => rw [compareItems, List.compareLex_cons_cons, ih]

theorem compareElements_eq (as bs : List TextElement) :
    compareElements as bs = List.compareLex compareElement as bs := by
  induction as generalizing bs with
  | nil => cases bs <;> rfl
  | cons a as ih =>
      cases bs with
      | nil => rfl
      | cons b bs => rw [compareElements, List.compareLex_cons_cons, ih, compareElement]

mutual

theorem compareCodes_code (a b : TextValue) (us vs : List Int) :
    compareCodes (a.code ++ us) (b.code ++ vs) = (a.compare b).then (compareCodes us vs) := by
  rw [code, code, List.cons_append, List.cons_append]
  by_cases hkind : a.kind = b.kind
  · rw [hkind, compareCodes_cons_self]
    match a, b, SameKind.of_kind_eq hkind with
    | _, _, .byte a b | _, _, .short a b | _, _, .int a b | _, _, .long a b =>
        exact Codes.int a.toInt b.toInt us vs
    | _, _, .char a b => exact Codes.nat a.toNat b.toNat us vs
    | _, _, .float a b | _, _, .double a b => exact Codes.nat _ _ us vs
    | _, _, .string a b | _, _, .type a b => exact codes_text a b us vs
    | _, _, .field a b | _, _, .enum a b => exact codes_fieldRef a b us vs
    | _, _, .method a b => exact codes_methodRef a b us vs
    | _, _, .array as bs => exact compareCodes_codeItems as bs us vs
    | _, _, .annotationItem s t as bs =>
        simp only [payload, List.append_assoc]
        rw [codes_text, compareCodes_codeElements as bs, compare_annotationItem,
          Ordering.then_assoc]
    | _, _, .null => rfl
    | _, _, .boolean a b => exact Codes.bool a b us vs
  · have htag : Ord.compare a.kind.tag b.kind.tag ≠ .eq := fun heq =>
      hkind (ValueKind.tag_inj (Nat.compare_eq_eq.mp heq))
    rw [compareCodes_cons, compare_natCast, compare_of_kind_ne hkind]
    -- The tags differ, so nothing behind them is looked at.
    cases htags : Ord.compare a.kind.tag b.kind.tag with
    | lt | gt => rfl
    | eq => exact absurd htags htag

theorem compareCodes_codeItems (as bs : List TextValue) (us vs : List Int) :
    compareCodes (codeItems as ++ us) (codeItems bs ++ vs) =
      (compareItems as bs).then (compareCodes us vs) := by
  match as, bs with
  | [], [] => simp [codeItems, compareItems]
  | [], _ :: _ | _ :: _, [] => rfl
  | a :: as, b :: bs =>
      have ha := compareCodes_code a b (codeItems as ++ us) (codeItems bs ++ vs)
      simp only [code, List.cons_append] at ha
      simp only [codeItems, List.cons_append, List.append_assoc, compareCodes_cons_self]
      rw [ha, compareCodes_codeItems as bs, compareItems, Ordering.then_assoc]

theorem compareCodes_codeElements (as bs : List TextElement) (us vs : List Int) :
    compareCodes (codeElements as ++ us) (codeElements bs ++ vs) =
      (compareElements as bs).then (compareCodes us vs) := by
  match as, bs with
  | [], [] => simp [codeElements, compareElements]
  | [], _ :: _ | _ :: _, [] => rfl
  | ⟨n, a⟩ :: as, ⟨m, b⟩ :: bs =>
      have ha := compareCodes_code a b (codeElements as ++ us) (codeElements bs ++ vs)
      simp only [code, List.cons_append] at ha
      simp only [codeElements, List.cons_append, List.append_assoc, compareCodes_cons_self]
      rw [codes_text, ha, compareCodes_codeElements as bs, compareElements, Ordering.then_assoc,
        Ordering.then_assoc]

end

theorem codes_value : Codes Value.compare code :=
  compareCodes_code

instance : TransCmp Value.compare :=
  codes_value.transCmp

/-! ## Equal values -/

mutual

theorem eq_of_compare {a b : TextValue} (h : a.compare b = .eq) : a = b := by
  by_cases hkind : a.kind = b.kind
  · match a, b, SameKind.of_kind_eq hkind with
    | _, _, .byte a b => exact congrArg _ (Int8.toInt_inj.mp (Int.compare_eq_eq.mp h))
    | _, _, .short a b => exact congrArg _ (Int16.toInt_inj.mp (Int.compare_eq_eq.mp h))
    | _, _, .char a b => exact congrArg _ (UInt16.toNat_inj.mp (Nat.compare_eq_eq.mp h))
    | _, _, .int a b => exact congrArg _ (Int32.toInt_inj.mp (Int.compare_eq_eq.mp h))
    | _, _, .long a b => exact congrArg _ (Int64.toInt_inj.mp (Int.compare_eq_eq.mp h))
    | _, _, .float a b =>
        have hrank := Nat.compare_eq_eq.mp h
        exact congrArg _ (UInt32.toNat_inj.mp
          (totalOrderRank_inj (by decide) a.toNat_lt b.toNat_lt hrank))
    | _, _, .double a b =>
        have hrank := Nat.compare_eq_eq.mp h
        exact congrArg _ (UInt64.toNat_inj.mp
          (totalOrderRank_inj (by decide) a.toNat_lt b.toNat_lt hrank))
    | _, _, .string a b | _, _, .type a b =>
        have htext : compareUnits a b = .eq := h
        exact congrArg _ (LawfulEqCmp.eq_of_compare htext)
    | _, _, .field a b | _, _, .enum a b =>
        have hfield : FieldRef.compare a b = .eq := h
        exact congrArg _ (LawfulEqCmp.eq_of_compare hfield)
    | _, _, .method a b =>
        have hmethod : MethodRef.compare a b = .eq := h
        exact congrArg _ (LawfulEqCmp.eq_of_compare hmethod)
    | _, _, .boolean a b =>
        have hbit : Ord.compare a b = .eq := h
        exact congrArg _ (LawfulEqCmp.eq_of_compare hbit)
    | _, _, .array as bs => exact congrArg _ (items_eq_of_compare h)
    | _, _, .annotationItem s t as bs =>
        rw [compare_annotationItem, Ordering.then_eq_eq] at h
        obtain ⟨htype, helements⟩ := h
        rw [LawfulEqCmp.eq_of_compare htype, elements_eq_of_compare helements]
    | _, _, .null => rfl
  · rw [compare_of_kind_ne hkind] at h
    exact absurd (ValueKind.tag_inj (Nat.compare_eq_eq.mp h)) hkind

theorem items_eq_of_compare {as bs : List TextValue} (h : compareItems as bs = .eq) : as = bs := by
  match as, bs with
  | [], [] => rfl
  | [], _ :: _ | _ :: _, [] => cases h
  | a :: as, b :: bs =>
      rw [compareItems, Ordering.then_eq_eq] at h
      rw [eq_of_compare h.1, items_eq_of_compare h.2]

theorem elements_eq_of_compare {as bs : List TextElement} (h : compareElements as bs = .eq) :
    as = bs := by
  match as, bs with
  | [], [] => rfl
  | [], _ :: _ | _ :: _, [] => cases h
  | ⟨n, a⟩ :: as, ⟨m, b⟩ :: bs =>
      rw [compareElements, Ordering.then_eq_eq, Ordering.then_eq_eq] at h
      obtain ⟨⟨hname, hvalue⟩, hrest⟩ := h
      rw [LawfulEqCmp.eq_of_compare hname, eq_of_compare hvalue, elements_eq_of_compare hrest]

end

instance : LawfulEqCmp Value.compare where
  compare_self {a} := by
    rw [codes_value.compare_eq]
    exact ReflCmp.compare_self
  eq_of_compare := eq_of_compare

end Value

open Value

/-! ## What contains values -/

instance : TransCmp compareElement :=
  inferInstanceAs (TransCmp (compareLex (compareBy compareUnits Named.name)
    (compareBy Value.compare Named.value)))

instance : LawfulEqCmp compareElement where
  compare_self {a} := @ReflCmp.compare_self _ compareElement _ a
  eq_of_compare {a b} h := by
    simp only [compareElement, Ordering.then_eq_eq, LawfulEqCmp.compare_eq_iff_eq] at h
    obtain ⟨hname, hvalue⟩ := h
    cases a
    cases b
    simp_all

theorem compareElements_eq_compareLex : compareElements = List.compareLex compareElement :=
  funext fun as => funext fun bs => compareElements_eq as bs

instance : TransCmp compareElements := by
  rw [compareElements_eq_compareLex]
  infer_instance

instance : LawfulEqCmp compareElements := by
  rw [compareElements_eq_compareLex]
  infer_instance

instance : TransCmp Visibility.compare :=
  inferInstanceAs (TransCmp (compareBy Ord.compare fun v : Visibility => v.code.toNat))

instance : LawfulEqCmp Visibility.compare where
  compare_self {a} := @ReflCmp.compare_self _ Visibility.compare _ a
  eq_of_compare {a b} h := by cases a <;> cases b <;> first | rfl | cases h

instance : TransCmp EncodedAnnotation.compare :=
  inferInstanceAs (TransCmp (compareLex (compareBy compareUnits EncodedAnnotation.type)
    (compareBy compareElements EncodedAnnotation.elements)))

instance : LawfulEqCmp EncodedAnnotation.compare where
  compare_self {a} := @ReflCmp.compare_self _ EncodedAnnotation.compare _ a
  eq_of_compare {a b} h := by
    simp only [Ordering.then_eq_eq, EncodedAnnotation.compare, LawfulEqCmp.compare_eq_iff_eq] at h
    obtain ⟨htype, helements⟩ := h
    cases a
    cases b
    simp_all

instance : TransCmp Annotation.compare :=
  inferInstanceAs (TransCmp (compareLex (compareBy compareUnits Annotation.type)
    (compareLex (compareBy Visibility.compare Annotation.visibility)
      (compareBy compareElements Annotation.elements))))

instance : LawfulEqCmp Annotation.compare where
  compare_self {a} := @ReflCmp.compare_self _ Annotation.compare _ a
  eq_of_compare {a b} h := by
    simp only [Ordering.then_eq_eq, Annotation.compare, LawfulEqCmp.compare_eq_iff_eq] at h
    obtain ⟨htype, hvisibility, helements⟩ := h
    cases a
    cases b
    simp_all

instance : TransCmp AnnotationSet.compare :=
  inferInstanceAs (TransCmp (compareBy (List.compareLex Annotation.compare) AnnotationSet.items))

instance : LawfulEqCmp AnnotationSet.compare where
  compare_self {a} := @ReflCmp.compare_self _ AnnotationSet.compare _ a
  eq_of_compare {a b} h := by
    cases a
    cases b
    exact congrArg _ (@LawfulEqCmp.eq_of_compare _ (List.compareLex Annotation.compare) _ _ _ h)

/-! ## Total orders -/

/-- A total order that tells any two different things apart, as `==` does. -/
structure IsTotalOrder {α : Type} [BEq α] (cmp : α → α → Ordering) : Prop where
  swap : ∀ a b, cmp b a = (cmp a b).swap
  lt_trans : ∀ a b c, cmp a b = .lt → cmp b c = .lt → cmp a c = .lt
  le_trans : ∀ a b c, cmp a b ≠ .gt → cmp b c ≠ .gt → cmp a c ≠ .gt
  eq_iff : ∀ a b, cmp a b = .eq ↔ a = b
  eq_iff_beq : ∀ a b, cmp a b = .eq ↔ (a == b) = true

/-- An order of things along with the orders that it makes of lists and of sets of them. -/
structure OrdersTotally {α : Type} [BEq α] (cmp : α → α → Ordering) : Prop where
  items : IsTotalOrder cmp
  lists : IsTotalOrder (List.compareLex cmp)
  sets : ∀ xs ys, List.compareLex cmp (Sorted.sortedSet cmp xs) (Sorted.sortedSet cmp ys) = .eq ↔
    ∀ a, a ∈ xs ↔ a ∈ ys

section Total

variable {α : Type} [BEq α] [LawfulBEq α] (cmp : α → α → Ordering) [TransCmp cmp]
  [LawfulEqCmp cmp]

theorem isTotalOrder : IsTotalOrder cmp where
  swap _ _ := OrientedCmp.eq_swap
  lt_trans _ _ _ := TransCmp.lt_trans
  le_trans a b c hab hbc := by
    simp only [← Ordering.isLE_iff_ne_gt] at hab hbc ⊢
    exact TransCmp.isLE_trans hab hbc
  eq_iff _ _ := LawfulEqCmp.compare_eq_iff_eq
  eq_iff_beq _ _ := by rw [LawfulEqCmp.compare_eq_iff_eq, beq_iff_eq]

theorem ordersTotally : OrdersTotally cmp where
  items := isTotalOrder cmp
  lists := isTotalOrder (List.compareLex cmp)
  sets _ _ := by rw [LawfulEqCmp.compare_eq_iff_eq, Sorted.sortedSet_eq_iff]

end Total

/-- Values, elements, annotations inside of values, annotations of members, and lists and sets of
each of them are ordered totally. Lists inside of values are ordered as lists are anywhere, and
values of two kinds are in the order of their tags. -/
theorem values_ordered :
    OrdersTotally Value.compare ∧ OrdersTotally compareElement ∧
      OrdersTotally EncodedAnnotation.compare ∧ OrdersTotally Annotation.compare ∧
      IsTotalOrder AnnotationSet.compare ∧
      compareItems = List.compareLex Value.compare ∧
      compareElements = List.compareLex compareElement ∧
      (∀ x y, Value.compare (.float x) (.float y) = .eq ↔ x = y) ∧
      (∀ x y, Value.compare (.double x) (.double y) = .eq ↔ x = y) ∧
      ∀ a b : TextValue, a.kind ≠ b.kind → a.compare b = Ord.compare a.kind.tag b.kind.tag := by
  refine ⟨ordersTotally _, ordersTotally _, ordersTotally _, ordersTotally _, isTotalOrder _,
    funext fun as => funext fun bs => compareItems_eq as bs, compareElements_eq_compareLex, ?_, ?_,
    fun _ _ => compare_of_kind_ne⟩
  · intro x y
    rw [LawfulEqCmp.compare_eq_iff_eq, Value.float.injEq]
  · intro x y
    rw [LawfulEqCmp.compare_eq_iff_eq, Value.double.injEq]

end DexPools
