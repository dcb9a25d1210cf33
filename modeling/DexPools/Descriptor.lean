import DexPools.Error

/-!
# Type descriptors

A descriptor is text: one letter for a primitive type or `V` for no value, `L...;` for a class,
and one `[` in front for each array dimension. What is asked of a class name is only that
something stands between the `L` and the final semicolon.

A shorty is the form of a prototype that keeps one letter for each type, the return type first,
in which arrays and classes are both `L`.
-/

namespace DexPools.Descriptor

def primitives : List Char :=
  ['Z', 'B', 'S', 'C', 'I', 'J', 'F', 'D']

/-- Whether a descriptor is that of a primitive type; `V` is none. -/
def isPrimitive (d : String) : Bool :=
  match d.toList with
  | [c] => primitives.contains c
  | _ => false

/-- Whether the part after the array brackets names an element type. -/
def isElement (allowVoid : Bool) : List Char → Bool
  | [] => false
  | ['V'] => allowVoid
  | [c] => primitives.contains c
  | c :: rest => c == 'L' && 1 < rest.length && rest.getLast? == some ';'

/-- Whether the characters form a descriptor; an array of `void` is none. -/
def isValid (allowVoid : Bool) : List Char → Bool
  | '[' :: rest => isElement false (rest.dropWhile (· == '['))
  | cs => isElement allowVoid cs

/-- Accepts the descriptor of a type, and `V` where `allowVoid` is set. -/
def check (allowVoid : Bool) (d : String) : Except Error Unit :=
  if isValid allowVoid d.toList then .ok () else .error (.badArgument (.malformedType d))

/-- Whether the type of a class stands in the text, as far as its first letter tells. -/
def looksLikeClass (d : String) : Bool :=
  d.toList.head? == some 'L'

/-- The shorty letter of a type: `L` for arrays and classes, else the first letter. -/
def shortyLetter (d : String) : Except Error Char :=
  match d.toList with
  | [] => .error (.badArgument .emptyShorty)
  | c :: _ => .ok (if c == '[' then 'L' else c)

/-- The shorty of a prototype: the letter of the return type, then one for each parameter. -/
def shorty (p : ProtoRef) : Except Error String := do
  let first ← shortyLetter p.returnType
  let rest ← p.params.mapM shortyLetter
  return String.ofList (first :: rest)

end DexPools.Descriptor
