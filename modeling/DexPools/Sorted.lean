/-!
# Lists kept in the order of a comparison

Two uses of one insertion: `sort` keeps every element and leaves equal ones in the order in
which they came, and `sortedSet` keeps one element of each group of equals. Both recurse on the
list alone, so that closed instances evaluate inside a proof.
-/

namespace DexPools.Sorted

variable {α : Type}

/-- Puts `x` in front of the first element that does not stand before it. -/
def insert (cmp : α → α → Ordering) (x : α) : List α → List α
  | [] => [x]
  | y :: ys => if (cmp x y).isLE then x :: y :: ys else y :: insert cmp x ys

/-- Sorts a list; elements that compare equal keep their order. -/
def sort (cmp : α → α → Ordering) : List α → List α
  | [] => []
  | x :: xs => insert cmp x (sort cmp xs)

/-- Puts `x` at its place in an ascending list, unless an equal element stands there. -/
def insertNew (cmp : α → α → Ordering) (x : α) : List α → List α
  | [] => [x]
  | y :: ys =>
    match cmp x y with
    | .lt => x :: y :: ys
    | .eq => y :: ys
    | .gt => y :: insertNew cmp x ys

/-- The elements of a list in ascending order, one of each group of equals. -/
def sortedSet (cmp : α → α → Ordering) : List α → List α
  | [] => []
  | x :: xs => insertNew cmp x (sortedSet cmp xs)

/-- Keeps the first of the elements that `same` holds equal, in the order of the list. -/
def dedupBy (same : α → α → Bool) (xs : List α) : List α :=
  xs.foldl (fun kept x => if kept.any (same · x) then kept else kept ++ [x]) []

/-- The first element whose key already occurred among the elements before it. -/
def firstRepeat {κ : Type} [DecidableEq κ] (key : α → κ) (xs : List α) : Option α :=
  go [] xs
where
  /-- Carries the keys seen so far. -/
  go (seen : List κ) : List α → Option α
    | [] => none
    | x :: rest => if key x ∈ seen then some x else go (key x :: seen) rest

end DexPools.Sorted
