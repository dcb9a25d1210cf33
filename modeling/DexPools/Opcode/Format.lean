/-!
# Instruction formats

A format says which operands an instruction has and how many 16-bit code units it takes. Formats
are listed by size and then by name; the three payloads, whose size depends on their contents,
come last.
-/

namespace DexPools

inductive Format where
  | f10t
  | f10x
  | f11n
  | f11x
  | f12x
  | f20bc
  | f20t
  | f21c
  | f21ih
  | f21lh
  | f21s
  | f21t
  | f22b
  | f22c
  | f22cs
  | f22s
  | f22t
  | f22x
  | f23x
  | f30t
  | f31c
  | f31i
  | f31t
  | f32x
  | f35c
  | f35mi
  | f35ms
  | f3rc
  | f3rmi
  | f3rms
  | f45cc
  | f4rcc
  | f51l
  | packedSwitchPayload
  | sparseSwitchPayload
  | arrayPayload
deriving DecidableEq, Repr, Inhabited

namespace Format

/-- Every format with its name, in order. -/
def named : List (Format × String) :=
  [(f10t, "10t"), (f10x, "10x"), (f11n, "11n"), (f11x, "11x"), (f12x, "12x"), (f20bc, "20bc"),
   (f20t, "20t"), (f21c, "21c"), (f21ih, "21ih"), (f21lh, "21lh"), (f21s, "21s"), (f21t, "21t"),
   (f22b, "22b"), (f22c, "22c"), (f22cs, "22cs"), (f22s, "22s"), (f22t, "22t"), (f22x, "22x"),
   (f23x, "23x"), (f30t, "30t"), (f31c, "31c"), (f31i, "31i"), (f31t, "31t"), (f32x, "32x"),
   (f35c, "35c"), (f35mi, "35mi"), (f35ms, "35ms"), (f3rc, "3rc"), (f3rmi, "3rmi"),
   (f3rms, "3rms"), (f45cc, "45cc"), (f4rcc, "4rcc"), (f51l, "51l"),
   (packedSwitchPayload, "packed-switch-payload"), (sparseSwitchPayload, "sparse-switch-payload"),
   (arrayPayload, "array-payload")]

def all : List Format :=
  named.map Prod.fst

def name (f : Format) : String :=
  (named.lookup f).getD ""

def ofName? (s : String) : Option Format :=
  all.find? (·.name == s)

/-- The size in code units, which the payloads do not fix. -/
def size : Format → Option Nat
  | f10t | f10x | f11n | f11x | f12x => some 1
  | f20bc | f20t | f21c | f21ih | f21lh | f21s | f21t | f22b | f22c | f22cs | f22s | f22t | f22x
  | f23x => some 2
  | f30t | f31c | f31i | f31t | f32x | f35c | f35mi | f35ms | f3rc | f3rmi | f3rms => some 3
  | f45cc | f4rcc => some 4
  | f51l => some 5
  | packedSwitchPayload | sparseSwitchPayload | arrayPayload => none

/-- The data blocks that switches and array initialisers point at. -/
def isPayload (f : Format) : Bool :=
  f.size.isNone

/-- Formats that only optimised files use. -/
def isOptimised : Format → Bool
  | f20bc | f22cs | f35mi | f35ms | f3rmi | f3rms => true
  | _ => false

theorem mem_all (f : Format) : f ∈ all := by
  cases f <;> decide

end Format

end DexPools
