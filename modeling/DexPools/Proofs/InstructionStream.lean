import DexPools.Proofs.WellFormed

/-!
# Resolution keeps the instruction stream

A session replaces what instructions, handlers and debug items name by entries of its pools and
keeps all else. What "all else" is stands here as a relation that has one case for each kind of
instruction: `Alike R` relates two instructions of one kind with the same registers, literals,
offsets and payloads, and by `R` the references that stand in the same place. It does not know how
references are replaced. Whatever a reader asks an instruction for, its opcode, its format, its
size or whether it can be encoded, is the same on both sides.

That a resolved instruction is alike to the one that was given follows from its text alone: it
reads back to what it was made of. So the same holds of bodies, and of an instruction that is
resolved a second time, in whatever session.
-/

namespace DexPools

/-! ## Instructions that differ in their references only -/

/-- Two instructions of one kind that have all in common but their references, which are related
place by place. -/
inductive Instruction.Alike {ρ ρ' : Type} (R : ρ → ρ' → Prop) :
    Instruction ρ → Instruction ρ' → Prop
  | f10t {op offset} : Alike R (.f10t op offset) (.f10t op offset)
  | f10x {op} : Alike R (.f10x op) (.f10x op)
  | f11n {op a literal} : Alike R (.f11n op a literal) (.f11n op a literal)
  | f11x {op a} : Alike R (.f11x op a) (.f11x op a)
  | f12x {op a b} : Alike R (.f12x op a b) (.f12x op a b)
  | f20bc {op error r r'} : R r r' → Alike R (.f20bc op error r) (.f20bc op error r')
  | f20t {op offset} : Alike R (.f20t op offset) (.f20t op offset)
  | f21c {op a r r'} : R r r' → Alike R (.f21c op a r) (.f21c op a r')
  | f21ih {op a literal} : Alike R (.f21ih op a literal) (.f21ih op a literal)
  | f21lh {op a literal} : Alike R (.f21lh op a literal) (.f21lh op a literal)
  | f21s {op a literal} : Alike R (.f21s op a literal) (.f21s op a literal)
  | f21t {op a offset} : Alike R (.f21t op a offset) (.f21t op a offset)
  | f22b {op a b literal} : Alike R (.f22b op a b literal) (.f22b op a b literal)
  | f22c {op a b r r'} : R r r' → Alike R (.f22c op a b r) (.f22c op a b r')
  | f22cs {op a b fieldOffset} : Alike R (.f22cs op a b fieldOffset) (.f22cs op a b fieldOffset)
  | f22s {op a b literal} : Alike R (.f22s op a b literal) (.f22s op a b literal)
  | f22t {op a b offset} : Alike R (.f22t op a b offset) (.f22t op a b offset)
  | f22x {op a b} : Alike R (.f22x op a b) (.f22x op a b)
  | f23x {op a b c} : Alike R (.f23x op a b c) (.f23x op a b c)
  | f30t {op offset} : Alike R (.f30t op offset) (.f30t op offset)
  | f31c {op a r r'} : R r r' → Alike R (.f31c op a r) (.f31c op a r')
  | f31i {op a literal} : Alike R (.f31i op a literal) (.f31i op a literal)
  | f31t {op a offset} : Alike R (.f31t op a offset) (.f31t op a offset)
  | f32x {op a b} : Alike R (.f32x op a b) (.f32x op a b)
  | f35c {op registers r r'} : R r r' → Alike R (.f35c op registers r) (.f35c op registers r')
  | f35mi {op registers inlineIndex} :
      Alike R (.f35mi op registers inlineIndex) (.f35mi op registers inlineIndex)
  | f35ms {op registers vtableIndex} :
      Alike R (.f35ms op registers vtableIndex) (.f35ms op registers vtableIndex)
  | f3rc {op start count r r'} : R r r' → Alike R (.f3rc op start count r) (.f3rc op start count r')
  | f3rmi {op start count inlineIndex} :
      Alike R (.f3rmi op start count inlineIndex) (.f3rmi op start count inlineIndex)
  | f3rms {op start count vtableIndex} :
      Alike R (.f3rms op start count vtableIndex) (.f3rms op start count vtableIndex)
  | f45cc {op registers r s r' s'} : R r r' → R s s' →
      Alike R (.f45cc op registers r s) (.f45cc op registers r' s')
  | f4rcc {op start count r s r' s'} : R r r' → R s s' →
      Alike R (.f4rcc op start count r s) (.f4rcc op start count r' s')
  | f51l {op a literal} : Alike R (.f51l op a literal) (.f51l op a literal)
  | packedSwitchPayload {firstKey targets} :
      Alike R (.packedSwitchPayload firstKey targets) (.packedSwitchPayload firstKey targets)
  | sparseSwitchPayload {entries} :
      Alike R (.sparseSwitchPayload entries) (.sparseSwitchPayload entries)
  | arrayPayload {width elements} :
      Alike R (.arrayPayload width elements) (.arrayPayload width elements)

namespace Instruction

variable {ρ ρ' ρ'' : Type} {R : ρ → ρ' → Prop} {S : ρ' → ρ'' → Prop}
  {i : Instruction ρ} {j : Instruction ρ'} {k : Instruction ρ''}

namespace Alike

theorem opcode_eq (h : Alike R i j) : j.opcode = i.opcode := by
  cases h <;> rfl

theorem format_eq (h : Alike R i j) : j.format = i.format := by
  cases h <;> rfl

theorem codeUnits_eq (h : Alike R i j) : j.codeUnits = i.codeUnits := by
  cases h <;> rfl

theorem reference?_rel (h : Alike R i j) : Option.Rel R i.reference? j.reference? := by
  cases h <;> constructor <;> assumption

theorem secondReference?_rel (h : Alike R i j) :
    Option.Rel R i.secondReference? j.secondReference? := by
  cases h <;> constructor <;> assumption

theorem imp {R' : ρ → ρ' → Prop} (h : Alike R i j) (himp : ∀ a b, R a b → R' a b) :
    Alike R' i j := by
  cases h <;> constructor <;> exact himp _ _ ‹_›

theorem trans (h : Alike R i j) (h' : Alike S j k) :
    Alike (fun a c => ∃ b, R a b ∧ S b c) i k := by
  cases h <;> cases h' <;> constructor <;> exact ⟨_, ‹_›, ‹_›⟩

end Alike

/-- Mapping the references leaves all else alone. -/
theorem alike_map (f : ρ → ρ') (i : Instruction ρ) : Alike (fun r r' => f r = r') i (i.map f) := by
  cases i <;> constructor <;> rfl

theorem map_alike (f : ρ → ρ') (i : Instruction ρ) : Alike (fun r' r => f r = r') (i.map f) i := by
  cases i <;> constructor <;> rfl

/-- Instructions that are the same after mapping are alike before. -/
theorem alike_of_map_eq {f : ρ → ρ''} {g : ρ' → ρ''} (h : j.map g = i.map f) :
    Alike (fun r r' => g r' = f r) i j := by
  have hboth : Alike (fun r t => f r = t) i (j.map g) := h ▸ alike_map f i
  refine (hboth.trans (map_alike g j)).imp ?_
  rintro r r' ⟨_, rfl, hr'⟩
  exact hr'

/-- Whether a resolved instruction is what it was made of but for its references. Those read back to
the text of what was there, and are of the same kind. -/
structure Kept [HasReferenceKind ρ] (text : ρ → Reference) (i : Instruction ρ)
    (j : Instruction PooledReference) : Prop where
  alike : Alike (fun r p => p.readBack = text r) i j
  opcode : j.opcode = i.opcode
  format : j.format = i.format
  codeUnits : j.codeUnits = i.codeUnits
  reference? : Option.Rel (fun r (p : PooledReference) => p.readBack = text r ∧
    p.kind = HasReferenceKind.referenceKind r) i.reference? j.reference?
  secondReference? : Option.Rel (fun r (p : PooledReference) => p.readBack = text r ∧
    p.kind = HasReferenceKind.referenceKind r) i.secondReference? j.secondReference?
  validate : j.validate = i.validate

/-- What reads back to the text of an instruction keeps it, if text keeps the kind. -/
theorem kept_of_map_eq [HasReferenceKind ρ] {text : ρ → Reference} {j : Instruction PooledReference}
    (htext : ∀ r, (text r).kind = HasReferenceKind.referenceKind r)
    (h : j.map PooledReference.readBack = i.map text) : Kept text i j := by
  have halike : Alike (fun r p => p.readBack = text r) i j := alike_of_map_eq h
  have hkinds : Alike (fun r (p : PooledReference) => p.readBack = text r ∧
      p.kind = HasReferenceKind.referenceKind r) i j := by
    refine halike.imp fun r p hp => ⟨hp, ?_⟩
    rw [← p.kind_readBack, hp, htext]
  have hvalidate : j.validate = i.validate := by
    rw [← validate_map (f := PooledReference.readBack) PooledReference.kind_readBack j, h,
      validate_map htext i]
  exact ⟨halike, halike.opcode_eq, halike.format_eq, halike.codeUnits_eq, hkinds.reference?_rel,
    hkinds.secondReference?_rel, hvalidate⟩

theorem kept_readBack (j : Instruction PooledReference) :
    Kept id (j.map PooledReference.readBack) j :=
  kept_of_map_eq (fun _ => rfl) (map_id _).symm

end Instruction

/-! ## Try blocks, debug items and bodies -/

/-- An entry stands where a text was given, and nothing where nothing was. -/
def StandsFor {ε : Type} (text : ε → String) : Option String → Option ε → Prop :=
  Option.Rel fun t e => text e = t

theorem standsFor_map {ε : Type} (text : ε → String) (o : Option ε) :
    StandsFor text (o.map text) o := by
  cases o with
  | none => exact Option.Rel.none
  | some e => exact Option.Rel.some rfl

/-- What is kept element by element is kept as a list. -/
theorem forall₂_map_self {α β : Type} {f : β → α} {R : α → β → Prop} (h : ∀ b, R (f b) b)
    (bs : List β) : List.Forall₂ R (bs.map f) bs := by
  rw [List.forall₂_map_left_iff]
  exact List.forall₂_same.mpr fun b _ => h b

/-- A range is kept with its handlers in their order, those for any exception included. -/
structure TryBlock.Kept (b : TryBlock String) (b' : TryBlock TypeEntry) : Prop where
  start : b'.start = b.start
  count : b'.count = b.count
  handlers : List.Forall₂ (fun h h' => StandsFor TypeEntry.text h.type h'.type ∧
    h'.address = h.address) b.handlers b'.handlers

theorem TryBlock.kept_readBack (b : TryBlock TypeEntry) :
    TryBlock.Kept (b.map TypeEntry.text) b := by
  rw [TryBlock.map_eq]
  exact ⟨rfl, rfl, forall₂_map_self (fun h => ⟨standsFor_map _ _, rfl⟩) b.handlers⟩

/-- Two debug items of one kind that have all in common but text and types. -/
inductive DebugItem.Kept : DebugItem String String → DebugItem StringEntry TypeEntry → Prop
  | startLocal {address register name type signature name' type' signature'} :
      StandsFor StringEntry.text name name' → StandsFor TypeEntry.text type type' →
      StandsFor StringEntry.text signature signature' →
      Kept (.startLocal address register name type signature)
        (.startLocal address register name' type' signature')
  | endLocal {address register} : Kept (.endLocal address register) (.endLocal address register)
  | restartLocal {address register} :
      Kept (.restartLocal address register) (.restartLocal address register)
  | prologueEnd {address} : Kept (.prologueEnd address) (.prologueEnd address)
  | epilogueBegin {address} : Kept (.epilogueBegin address) (.epilogueBegin address)
  | setSourceFile {address file file'} : StandsFor StringEntry.text file file' →
      Kept (.setSourceFile address file) (.setSourceFile address file')
  | line {address line} : Kept (.line address line) (.line address line)

theorem DebugItem.kept_readBack (d : DebugItem StringEntry TypeEntry) :
    DebugItem.Kept (d.map StringEntry.text TypeEntry.text) d := by
  cases d with
  | startLocal =>
      rw [map_startLocal]
      exact .startLocal (standsFor_map _ _) (standsFor_map _ _) (standsFor_map _ _)
  | setSourceFile =>
      rw [map_setSourceFile]
      exact .setSourceFile (standsFor_map _ _)
  | _ => constructor

/-- A body is kept if everything in it is, in its order. -/
structure Body.Kept (b : TextBody) (b' : PooledBody) : Prop where
  registers : b'.registers = b.registers
  codeUnits : b'.codeUnits = b.codeUnits
  instructions : List.Forall₂ (Instruction.Kept id) b.instructions b'.instructions
  tries : List.Forall₂ TryBlock.Kept b.tries b'.tries
  debugItems : List.Forall₂ DebugItem.Kept b.debugItems b'.debugItems

theorem Body.kept_readBack (b : PooledBody) : Body.Kept (PooledBody.readBack b) b := by
  have hsizes : b.instructions.map Instruction.codeUnits =
      (b.instructions.map (Instruction.map PooledReference.readBack)).map
        Instruction.codeUnits := by
    rw [List.map_map]
    exact List.map_congr_left fun i _ => i.kept_readBack.codeUnits
  refine ⟨rfl, ?_, forall₂_map_self Instruction.kept_readBack b.instructions,
    forall₂_map_self TryBlock.kept_readBack b.tries,
    forall₂_map_self DebugItem.kept_readBack b.debugItems⟩
  rw [Body.codeUnits, hsizes]
  rfl

/-! ## Resolving -/

/-- A body with every kind of thing that a session replaces: a string and a method among its
operands, a handler for a type and one for anything, a local variable and a source file. -/
def TextBody.sample : TextBody where
  registers := 4
  instructions := [
    .f21c (op "const-string") 0 (.string "hello"),
    .f35c (op "invoke-static") [1, 0]
      (.method ⟨"LWorker;", "print", ["Ljava/lang/String;"], "V"⟩),
    .f10x (op "return-void")]
  tries := [⟨0, 5, [⟨some "Ljava/lang/Exception;", 5⟩, ⟨none, 5⟩]⟩]
  debugItems := [.setSourceFile 0 (some "Worker.java"), .line 0 7,
    .startLocal 2 0 (some "text") (some "Ljava/lang/String;") none]
where
  op (mnemonic : String) : Opcode := (Opcode.ofMnemonic? mnemonic).getD .arrayPayload

namespace Session

variable {s t : Session}

theorem Reachable.of_run_ask (hs : s.Reachable) {r : Request} {a : Except Error Answer}
    (hrun : s.run (Session.ask r) = (a, t)) : t.Reachable := by
  have ht := hs.ask r
  rwa [hrun] at ht

/-- What a reachable session makes of an instruction is the instruction but for its references, and
so is what any session makes of the result. A body that is accepted keeps its size and all that
is in it. -/
theorem resolutionKeeps (hs : s.Reachable) :
    (∀ i i' t, s.run (resolveInstruction i) = (.ok i', t) → t.Reachable ∧ i.Kept id i' ∧
      ∀ u : Session, u.Reachable → ∃ i'' v, u.run (resolveAgain i') = (.ok i'', v) ∧
        i'.Kept PooledReference.readBack i'' ∧ i.Kept id i'') ∧
    ∀ b b' t, s.run (internBody b) = (.ok b', t) → Body.Kept b b' := by
  constructor
  · intro i i' t hrun
    obtain ⟨-, -, hplan, hreads⟩ := (builds_resolveInstruction i).of_run hs.sound hrun
    obtain rfl : i'.map PooledReference.readBack = i := hreads.text
    have ht : t.Reachable := hs.of_run_ask (r := .instruction (i'.map PooledReference.readBack))
      (run_map_eq_ok_iff.mpr ⟨i', hrun, rfl⟩)
    refine ⟨ht, i'.kept_readBack, fun u hu => ?_⟩
    -- Whether the result can be resolved is told by its text, which has passed already.
    obtain ⟨i'', v, hrun', hreads'⟩ := (builds_resolveAgain i').exists_run hu.sound hplan
    have htext : i''.map PooledReference.readBack = i'.map PooledReference.readBack :=
      hreads'.text
    refine ⟨i'', v, hrun', Instruction.kept_of_map_eq PooledReference.kind_readBack htext, ?_⟩
    rw [← htext]
    exact i''.kept_readBack
  · intro b b' t hrun
    obtain ⟨-, -, -, hreads⟩ := (builds_internBody b).of_run hs.sound hrun
    obtain rfl : PooledBody.readBack b' = b := hreads.text
    exact b'.kept_readBack

/-- A body that a new session accepts, and one of its instructions by itself, resolved twice. -/
theorem resolutionKeeps_sample :
    (∃ b t, (Session.new .strict).run (internBody .sample) = (.ok b, t) ∧ Body.Kept .sample b) ∧
      ∃ i ∈ TextBody.sample.instructions, ∃ i' t,
        (Session.new .strict).run (resolveInstruction i) = (.ok i', t) ∧ i.Kept id i' ∧
          ∃ i'' u, t.run (resolveAgain i') = (.ok i'', u) ∧ i.Kept id i'' := by
  obtain ⟨hinstructions, hbodies⟩ := resolutionKeeps (Reachable.new .strict)
  have hbody : ((Session.new .strict).run (internBody .sample)).1.isOk = true := by
    decide +kernel
  have hone : ((Session.new .strict).run
      (resolveInstruction TextBody.sample.instructions[1])).1.isOk = true := by decide +kernel
  obtain ⟨b, t, hb⟩ := exists_run_of_isOk hbody
  obtain ⟨i', u, hi⟩ := exists_run_of_isOk hone
  obtain ⟨hu, hkept, hagain⟩ := hinstructions _ i' u hi
  obtain ⟨i'', v, hrun, -, hkept'⟩ := hagain u hu
  exact ⟨⟨b, t, hb, hbodies _ b t hb⟩, _, List.getElem_mem _, i', u, hi, hkept, i'', v, hrun,
    hkept'⟩

end Session

end DexPools
