import DexPools.Value

/-!
# Equality of values is decidable

Two values are compared node by node. Floating-point numbers are equal when their bits are, so
equality here is equality of trees, which is what the last instance states.
-/

namespace DexPools.Value

variable {σ τ φ μ : Type} [DecidableEq σ] [DecidableEq τ] [DecidableEq φ] [DecidableEq μ]

mutual

/-- Whether two values are the same tree. -/
def same : Value σ τ φ μ → Value σ τ φ μ → Bool
  | byte a, byte b => a == b
  | short a, short b => a == b
  | char a, char b => a == b
  | int a, int b => a == b
  | long a, long b => a == b
  | float a, float b => a == b
  | double a, double b => a == b
  | string a, string b => a == b
  | type a, type b => a == b
  | field a, field b => a == b
  | method a, method b => a == b
  | enum a, enum b => a == b
  | array as, array bs => sameItems as bs
  | annotationItem s as, annotationItem t bs => s == t && sameElements as bs
  | null, null => true
  | boolean a, boolean b => a == b
  | _, _ => false

def sameItems : List (Value σ τ φ μ) → List (Value σ τ φ μ) → Bool
  | [], [] => true
  | a :: as, b :: bs => same a b && sameItems as bs
  | _, _ => false

def sameElements : List (Named σ (Value σ τ φ μ)) → List (Named σ (Value σ τ φ μ)) → Bool
  | [], [] => true
  | ⟨n, a⟩ :: as, ⟨m, b⟩ :: bs => n == m && same a b && sameElements as bs
  | _, _ => false

end

mutual

theorem same_iff (a b : Value σ τ φ μ) : same a b = true ↔ a = b := by
  match a with
  | array as => cases b <;> simp [same, sameItems_iff as]
  | annotationItem t as => cases b <;> simp [same, sameElements_iff as]
  | byte _ | short _ | char _ | int _ | long _ | float _ | double _ | string _ | type _ | field _
  | method _ | enum _ | null | boolean _ => cases b <;> simp [same]

theorem sameItems_iff (as bs : List (Value σ τ φ μ)) : sameItems as bs = true ↔ as = bs := by
  match as with
  | [] => cases bs <;> simp [sameItems]
  | a :: rest => cases bs <;> simp [sameItems, same_iff a, sameItems_iff rest]

theorem sameElements_iff (as bs : List (Named σ (Value σ τ φ μ))) :
    sameElements as bs = true ↔ as = bs := by
  match as with
  | [] => cases bs <;> simp [sameElements]
  | ⟨n, a⟩ :: rest =>
      cases bs with
      | nil => simp [sameElements]
      | cons e bs =>
          cases e
          simp [sameElements, same_iff a, sameElements_iff rest]

end

instance : DecidableEq (Value σ τ φ μ) := fun a b => decidable_of_iff _ (same_iff a b)

end DexPools.Value
