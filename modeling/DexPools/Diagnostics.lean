/-!
# Diagnostics

What a session skipped and why, in the order in which it happened. Entries are only added.
-/

namespace DexPools

inductive Severity where
  | info
  | warning
  | error
deriving DecidableEq, Repr, Inhabited

namespace Severity

def all : List Severity :=
  [.info, .warning, .error]

def name : Severity → String
  | info => "INFO"
  | warning => "WARN"
  | error => "ERROR"

def ofName? (s : String) : Option Severity :=
  all.find? (·.name == s)

end Severity

inductive Category where
  | field
  | method
  | classDef
  | reference
deriving DecidableEq, Repr, Inhabited

namespace Category

def all : List Category :=
  [.field, .method, .classDef, .reference]

def name : Category → String
  | field => "Field"
  | method => "Method"
  | classDef => "Class"
  | reference => "Reference"

def ofName? (s : String) : Option Category :=
  all.find? (·.name == s)

end Category

structure Diagnostic where
  severity : Severity
  category : Category
  message : String
  /-- The class that it happened in, where there is one. -/
  inClass : Option String
deriving DecidableEq, Repr

/-- The line of an entry: its severity, category and message, and the class if it has one. -/
def Diagnostic.display (d : Diagnostic) : String :=
  let line := s!"[{d.severity.name}] {d.category.name}: {d.message}"
  match d.inClass with
  | some type => s!"{line} (class: {type})"
  | none => line

/-- What was noted so far, the oldest first. -/
structure Diagnostics where
  entries : List Diagnostic
deriving DecidableEq, Repr

namespace Diagnostics

def empty : Diagnostics :=
  ⟨[]⟩

def size (ds : Diagnostics) : Nat :=
  ds.entries.length

def push (ds : Diagnostics) (d : Diagnostic) : Diagnostics :=
  ⟨ds.entries ++ [d]⟩

def countOf (ds : Diagnostics) (s : Severity) : Nat :=
  ds.entries.countP (·.severity == s)

/-- The entries of a category, the oldest first. -/
def ofCategory (ds : Diagnostics) (c : Category) : List Diagnostic :=
  ds.entries.filter (·.category == c)

def summary (ds : Diagnostics) : String :=
  let errors := ds.countOf .error
  let warnings := ds.countOf .warning
  let infos := ds.countOf .info
  s!"Diagnostics: {errors} error(s), {warnings} warning(s), {infos} info(s)\n" ++
    String.join (ds.entries.map fun d => s!"  {d.display}\n")

end Diagnostics

end DexPools
