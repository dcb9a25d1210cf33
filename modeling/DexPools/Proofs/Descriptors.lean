import DexPools.Proofs.StaticValues

/-!
# Descriptors and the grammar of types

A descriptor is checked from its two ends: the brackets in front, then the first letter, and for a
class that something stands between the letter and a semicolon at the very end. Beside that stands
the grammar, by which a type is an array of a type, a primitive letter, or a class whose name runs
to the semicolon that ends it. The check does not look into names. What it accepts is the grammar
with any name, which is the grammar as far as a text has one semicolon at most. Where there are
more, several types in a row may pass for one.

The default of a field type is told by the first letter alone, which says less: a text may begin
like a type and be none.
-/

namespace DexPools

namespace Descriptor

/-! ## The grammar -/

/-- The descriptors of types other than `V`, given which characters the names of classes have. -/
inductive IsType (InName : Char → Prop) : List Char → Prop where
  | primitive {c : Char} : c ∈ primitives → IsType InName [c]
  | classType {name : List Char} : name ≠ [] → (∀ c ∈ name, InName c) →
      IsType InName ('L' :: (name ++ [';']))
  | array {element : List Char} : IsType InName element → IsType InName ('[' :: element)

variable {InName : Char → Prop} {allowVoid : Bool} {cs : List Char}

theorem isType_bracket_iff : IsType InName ('[' :: cs) ↔ IsType InName cs := by
  constructor
  · intro h
    cases h with
    | primitive hc => exact absurd hc (by decide)
    | array helement => exact helement
  · exact .array

theorem isType_dropWhile_iff :
    IsType InName (cs.dropWhile (· == '[')) ↔ IsType InName cs := by
  induction cs with
  | nil => rfl
  | cons c cs ih =>
      by_cases hc : c = '['
      · rw [hc, List.dropWhile_cons_of_pos rfl, ih, isType_bracket_iff]
      · rw [List.dropWhile_cons_of_neg (by simpa using hc)]

theorem not_isType_void : ¬ IsType InName ['V'] := by
  intro h
  cases h with
  | primitive hc => exact absurd hc (by decide)

/-! ## What the check accepts -/

/-- Behind the brackets the check is the grammar with any name. -/
theorem isElement_iff (hcs : cs.head? ≠ some '[') : isElement allowVoid cs = true ↔
    IsType (fun _ => True) cs ∨ cs = ['V'] ∧ allowVoid = true := by
  constructor
  · intro h
    unfold isElement at h
    split at h
    · cases h
    · exact .inr ⟨rfl, h⟩
    · exact .inl (.primitive (List.contains_iff_mem.mp h))
    · next c rest _ _ =>
      simp only [Bool.and_eq_true, beq_iff_eq, decide_eq_true_eq] at h
      -- The length leaves a character between the letter and the semicolon.
      obtain ⟨⟨rfl, hlength⟩, hlast⟩ := h
      obtain ⟨name, rfl⟩ := List.getLast?_eq_some_iff.mp hlast
      have hname : name ≠ [] := by
        rintro rfl
        simp at hlength
      exact .inl (.classType hname fun _ _ => trivial)
  · rintro (h | ⟨rfl, hvoid⟩)
    · cases h with
      | primitive hc =>
          simp only [primitives, List.mem_cons, List.not_mem_nil, or_false] at hc
          rcases hc with rfl | rfl | rfl | rfl | rfl | rfl | rfl | rfl <;> rfl
      | @classType name hname _ =>
          cases name with
          | nil => exact absurd rfl hname
          | cons c name =>
              have hlast : (c :: (name ++ [';'])).getLast? = some ';' :=
                List.getLast?_concat (l := c :: name)
              simp [isElement, hlast]
      | array _ => exact absurd rfl hcs
    · exact hvoid

theorem isValid_iff : isValid allowVoid cs = true ↔
    IsType (fun _ => True) cs ∨ cs = ['V'] ∧ allowVoid = true := by
  unfold isValid
  split
  · next rest =>
    have hrest : (rest.dropWhile (· == '[')).head? ≠ some '[' := by
      intro hhead
      have hnot := List.head?_dropWhile_not (· == '[') rest
      rw [hhead] at hnot
      cases hnot
    rw [isElement_iff hrest, isType_dropWhile_iff, isType_bracket_iff]
    simp
  · next hcs =>
    refine isElement_iff fun hhead => ?_
    obtain ⟨rest, rfl⟩ := List.head?_eq_some_iff.mp hhead
    exact hcs rest rfl

/-- Names without a semicolon are those that leave one semicolon at most in the text. -/
theorem isType_of_count_iff :
    IsType (· ≠ ';') cs ↔ IsType (fun _ => True) cs ∧ cs.count ';' ≤ 1 := by
  constructor
  · intro h
    induction h with
    | @primitive c hc => exact ⟨.primitive hc, List.count_le_length⟩
    | @classType name hname hchars =>
        have hnone : name.count ';' = 0 :=
          List.count_eq_zero.mpr fun hmem => hchars _ hmem rfl
        refine ⟨.classType hname fun _ _ => trivial, ?_⟩
        simp [hnone]
    | array _ ih =>
        refine ⟨.array ih.1, ?_⟩
        simpa using ih.2
  · rintro ⟨h, hcount⟩
    induction h with
    | primitive hc => exact .primitive hc
    | @classType name hname _ =>
        have hnone : name.count ';' = 0 := by simpa using hcount
        refine .classType hname fun c hc heq => ?_
        exact List.count_eq_zero.mp hnone (heq ▸ hc)
    | array _ ih => exact .array (ih (by simpa using hcount))

/-- The check accepts the types of the grammar with any names, and `V` where that is allowed. It is
the grammar whose names have no semicolon except on types with more than one semicolon. -/
theorem check_iff_isType (allowVoid : Bool) (d : String) :
    (check allowVoid d = .ok () ↔
      IsType (fun _ => True) d.toList ∨ d = "V" ∧ allowVoid = true) ∧
    ((check allowVoid d = .ok () ↔ IsType (· ≠ ';') d.toList ∨ d = "V" ∧ allowVoid = true) ↔
      ¬ (IsType (fun _ => True) d.toList ∧ 1 < d.toList.count ';')) := by
  have hvoid : d = "V" ↔ d.toList = ['V'] := String.toList_inj.symm
  have hcheck : check allowVoid d = .ok () ↔
      IsType (fun _ => True) d.toList ∨ d = "V" ∧ allowVoid = true := by
    rw [check_eq_ok_iff, isValid_iff, hvoid]
  refine ⟨hcheck, ?_⟩
  rw [hcheck, isType_of_count_iff]
  have hdisjoint : d = "V" → ¬ IsType (fun _ => True) d.toList := by
    rw [hvoid]
    intro h
    rw [h]
    exact not_isType_void
  rw [← Nat.not_lt]
  tauto

/-- Two classes in a row are taken for one whose name has a semicolon. -/
theorem check_two_classes : check false "La;Lb;" = .ok () ∧
    ¬ (IsType (· ≠ ';') "La;Lb;".toList ∨ "La;Lb;" = "V" ∧ false = true) := by
  refine ⟨check_eq_ok_iff.mpr (by decide +kernel), ?_⟩
  rintro (htype | ⟨-, hvoid⟩)
  · have hcount : ¬ "La;Lb;".toList.count ';' ≤ 1 := by decide +kernel
    exact hcount (isType_of_count_iff.mp htype).2
  · cases hvoid

/-! ## First letters -/

/-- Whether a text begins like a type other than `V` and is none. -/
def OnlyBegins (d : String) : Prop :=
  check false d ≠ .ok () ∧ ∃ d', check false d' = .ok () ∧ d'.toList.head? = d.toList.head?

theorem check_ofList (h : IsType (fun _ => True) cs) : check false (String.ofList cs) = .ok () := by
  rw [check_eq_ok_iff, isValid_iff, String.toList_ofList]
  exact .inl h

/-- Each letter that types other than `V` may begin with is that of some type. -/
theorem exists_check_of_letter {c : Char} (hc : c ∈ '[' :: letters) :
    ∃ d, check false d = .ok () ∧ d.toList.head? = some c := by
  have hbegins : ∀ rest, IsType (fun _ => True) (c :: rest) →
      ∃ d, check false d = .ok () ∧ d.toList.head? = some c := fun rest h =>
    ⟨_, check_ofList h, by rw [String.toList_ofList, List.head?_cons]⟩
  rcases List.mem_cons.mp hc with rfl | hletter
  · exact hbegins ['I'] (.array (.primitive (by decide)))
  · have hkinds : c ∈ primitives ++ ['L'] := hletter
    rcases List.mem_append.mp hkinds with hprimitive | hclass
    · exact hbegins [] (.primitive hprimitive)
    · cases List.mem_singleton.mp hclass
      exact hbegins (['a'] ++ [';']) (.classType (List.cons_ne_nil _ _) fun _ _ => trivial)

end Descriptor

/-! ## Defaults -/

/-- What a session has for the default of a type in a definition: a number or a truth value for
itself, and `null` for anything else. -/
def PooledValue.ofScalar : TextValue → PooledValue
  | .boolean b => .boolean b
  | .byte v => .byte v
  | .short v => .short v
  | .char v => .char v
  | .int v => .int v
  | .long v => .long v
  | .float bits => .float bits
  | .double bits => .double bits
  | _ => .null

namespace Value

variable {σ τ φ μ : Type} {d : String}

/-- A default is there exactly for what begins like a type. -/
theorem exists_defaultFor_iff : (∃ v : Value σ τ φ μ, defaultFor d = .ok v) ↔
    ∃ d', Descriptor.check false d' = .ok () ∧ d'.toList.head? = d.toList.head? := by
  simp only [defaultFor_eq_ok_iff, exists_defaultOf?_iff]
  constructor
  · rintro ⟨c, hc, hhead⟩
    obtain ⟨d', hcheck, hhead'⟩ := Descriptor.exists_check_of_letter hc
    exact ⟨d', hcheck, hhead'.trans hhead.symm⟩
  · rintro ⟨d', hcheck, hhead⟩
    have hdefault := exists_defaultFor (σ := σ) (τ := τ) (φ := φ) (μ := μ) hcheck
    simp only [defaultFor_eq_ok_iff, exists_defaultOf?_iff] at hdefault
    rwa [hhead] at hdefault

theorem exists_defaultFor_iff_check : (∃ v : Value σ τ φ μ, defaultFor d = .ok v) ↔
    Descriptor.check false d = .ok () ∨ Descriptor.OnlyBegins d := by
  rw [exists_defaultFor_iff]
  constructor
  · intro hbegins
    by_cases hcheck : Descriptor.check false d = .ok ()
    · exact .inl hcheck
    · exact .inr ⟨hcheck, hbegins⟩
  · rintro (hcheck | ⟨-, hbegins⟩)
    · exact ⟨d, hcheck, rfl⟩
    · exact hbegins

theorem defaultFor_eq_map_ofScalar (d : String) :
    (defaultFor d : Except Error PooledValue) = (defaultFor d).map PooledValue.ofScalar := by
  have hscalar : (defaultOf? d.toList : Option PooledValue) =
      (defaultOf? d.toList).map PooledValue.ofScalar := by
    unfold defaultOf?
    split <;> rfl
  unfold defaultFor
  rw [hscalar]
  cases (defaultOf? d.toList : Option TextValue) <;> rfl

/-- Whether the default of a type is the same in definitions and in sessions, as a value that a
field need not be given. -/
structure HasOneDefault (d : String) : Prop where
  pooled : (defaultFor d : Except Error PooledValue) = (defaultFor d).map PooledValue.ofScalar
  readBack : (defaultFor d).map PooledValue.readBack = defaultFor d
  isDefault : ∀ v : TextValue, defaultFor d = .ok v → v.isDefault = true
  isDefault_pooled : ∀ v : PooledValue, defaultFor d = .ok v → v.isDefault = true

/-- A text has a default exactly if it is a type other than `V` or only begins like one. The default
is one thing in definitions and in sessions. -/
theorem defaults_iff_check (d : String) :
    ((∃ v : TextValue, defaultFor d = .ok v) ↔
      Descriptor.check false d = .ok () ∨ Descriptor.OnlyBegins d) ∧ HasOneDefault d :=
  ⟨exists_defaultFor_iff_check, defaultFor_eq_map_ofScalar d, defaultFor_map _ _ _ _ d,
    fun _ => isDefault_of_defaultFor, fun _ => isDefault_of_defaultFor⟩

/-- A name without an end and a letter too many are no types and have defaults. -/
theorem defaults_of_malformed :
    (defaultFor "Lfoo" = .ok (.null : TextValue) ∧ Descriptor.check false "Lfoo" ≠ .ok ()) ∧
      defaultFor "Ix" = .ok (.int 0 : TextValue) ∧ Descriptor.check false "Ix" ≠ .ok () := by
  simp only [defaultFor_eq_ok_iff, ne_eq, Descriptor.check_eq_ok_iff]
  decide +kernel

end Value

end DexPools
