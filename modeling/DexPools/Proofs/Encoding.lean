import DexPools.Instruction.Validity
import Mathlib.Algebra.Group.Nat.Defs
import Mathlib.Data.Option.Basic

/-!
# Validity is to survive encoding

An encoded instruction has a field of fixed width for each operand, and decoding reads back what
the field kept: the low bits, with or without a sign, or the high bits shifted into their place.
`Survives` says of an instruction, operand by operand, that nothing is lost on this way. It knows
nothing of the bounds that `validate` compares with, and the theorem of this file is that the two
agree on every instruction, whatever the references are.

Each check of an operand has one lemma that says when it finds no fault. The bounds of a signed
field are the range of the remainder that is nearest to zero, so that the lemma on signed fields
holds for every width at once.
-/

namespace DexPools

/-! ## What a field keeps -/

/-- What is read back from an unsigned field of `n` bits. -/
def unsignedField (n : Nat) {w : Nat} (x : BitVec w) : BitVec w :=
  (x.setWidth n).setWidth w

/-- What is read back from a signed field of `n` bits. -/
def signedField (n : Nat) {w : Nat} (x : BitVec w) : BitVec w :=
  (x.setWidth n).signExtend w

/-- What is read back from a field for the `n` highest bits. -/
def highField (n : Nat) {w : Nat} (x : BitVec w) : BitVec w :=
  (x >>> (w - n)) <<< (w - n)

theorem two_pow_eq_double {n : Nat} (hn : 0 < n) : 2 ^ n = 2 * 2 ^ (n - 1) := by
  rw [← Nat.pow_succ', Nat.succ_eq_add_one, Nat.sub_add_cancel hn]

theorem unsignedField_eq_iff {n w : Nat} {x : BitVec w} (hn : n ≤ w) :
    unsignedField n x = x ↔ x.toNat < 2 ^ n := by
  have hpos : 0 < 2 ^ n := Nat.two_pow_pos n
  have hlt : x.toNat % 2 ^ n < 2 ^ w :=
    Nat.lt_of_lt_of_le (Nat.mod_lt _ hpos) (Nat.pow_le_pow_right (by omega) hn)
  rw [unsignedField, ← BitVec.toNat_inj, BitVec.toNat_setWidth, BitVec.toNat_setWidth,
    Nat.mod_eq_of_lt hlt]
  exact ⟨fun h => h ▸ Nat.mod_lt _ hpos, Nat.mod_eq_of_lt⟩

/-- A narrower field without a sign holds the numbers from zero on. -/
theorem unsignedField_eq_iff_toInt {n w : Nat} {x : BitVec w} (hn : n < w) :
    unsignedField n x = x ↔ 0 ≤ x.toInt ∧ x.toInt ≤ Nat.pow 2 n - 1 := by
  have hhalf : 2 ^ w = 2 * 2 ^ (w - 1) := two_pow_eq_double (by omega)
  have hle : 2 ^ n ≤ 2 ^ (w - 1) := Nat.pow_le_pow_right (by omega) (by omega)
  have hlt : x.toNat < 2 ^ w := x.isLt
  rw [unsignedField_eq_iff (by omega), BitVec.toInt_eq_toNat_cond, Nat.pow_eq]
  split <;> omega

/-- The remainder that is nearest to zero is the number itself exactly between the bounds of a
signed field. -/
theorem bmod_eq_self_iff {n : Nat} {z : Int} (hn : 0 < n) :
    z.bmod (2 ^ n) = z ↔ -Nat.pow 2 (n - 1) ≤ z ∧ z ≤ Nat.pow 2 (n - 1) - 1 := by
  have hhalf : 2 ^ n = 2 * Nat.pow 2 (n - 1) := two_pow_eq_double hn
  rw [Int.bmod_eq_iff (Nat.two_pow_pos n), Int.sub_self, hhalf]
  simp only [Int.dvd_zero, and_true]
  omega

theorem signedField_eq_iff {n w : Nat} {x : BitVec w} (hpos : 0 < n) (hn : n ≤ w) :
    signedField n x = x ↔
      -Nat.pow 2 (n - 1) ≤ x.toInt ∧ x.toInt ≤ Nat.pow 2 (n - 1) - 1 := by
  have hread : (signedField n x).toInt = x.toInt.bmod (2 ^ n) := by
    rw [signedField, BitVec.toInt_signExtend, Nat.min_eq_right hn, BitVec.toInt_setWidth,
      Int.bmod_bmod, BitVec.toInt_eq_toNat_bmod x, Int.bmod_bmod_of_dvd (Nat.pow_dvd_pow 2 hn)]
  rw [← BitVec.toInt_inj, hread, bmod_eq_self_iff hpos]

/-- The high bits are all there is exactly if the low bits are clear. -/
theorem highField_eq_iff {n w : Nat} {x : BitVec w} :
    highField n x = x ↔ x &&& BitVec.ofNat w (2 ^ (w - n) - 1) = 0#w := by
  have hsplit := Nat.div_add_mod x.toNat (2 ^ (w - n))
  have hlow : (x &&& BitVec.ofNat w (2 ^ (w - n) - 1)).toNat = x.toNat % 2 ^ (w - n) := by
    have hlt : 2 ^ (w - n) - 1 < 2 ^ w :=
      Nat.sub_one_lt_of_le (Nat.two_pow_pos _) (Nat.pow_le_pow_right (by omega) (by omega))
    rw [BitVec.toNat_and, BitVec.toNat_ofNat, Nat.mod_eq_of_lt hlt, Nat.and_two_pow_sub_one_eq_mod]
  have hhigh : (highField n x).toNat = 2 ^ (w - n) * (x.toNat / 2 ^ (w - n)) := by
    have hlt : 2 ^ (w - n) * (x.toNat / 2 ^ (w - n)) < 2 ^ w :=
      Nat.lt_of_le_of_lt (Nat.mul_div_le _ _) x.isLt
    rw [highField, BitVec.toNat_shiftLeft, BitVec.toNat_ushiftRight, Nat.shiftRight_eq_div_pow,
      Nat.shiftLeft_eq, Nat.mul_comm, Nat.mod_eq_of_lt hlt]
  rw [← BitVec.toNat_inj, ← BitVec.toNat_inj, hhigh, hlow, BitVec.toNat_zero]
  omega

/-! ## What survives -/

/-- An entry of the array of the given width is the extension of its low bytes, with or without a
sign. -/
def ElementSurvives (width : UInt8) (e : Int64) : Prop :=
  signedField (8 * width.toNat) e.toBitVec = e.toBitVec ∨
    unsignedField (8 * width.toNat) e.toBitVec = e.toBitVec

/-- A register that is read back from four bits. -/
def NibbleSurvives (register : UInt8) : Prop :=
  unsignedField 4 register.toBitVec = register.toBitVec

/-- There is room for five registers. -/
def RegistersSurvive (registers : List UInt8) : Prop :=
  registers.length ≤ 5 ∧ ∀ r ∈ registers, NibbleSurvives r

/-- All registers of the range are among those that there are. -/
def RangeSurvives (start : UInt16) (count : UInt8) : Prop :=
  ∀ k < count.toNat, start.toNat + k < 65536

/-- A reference has the kind that the table gives for its position, which for 20bc is any. -/
def ReferenceFits {ρ : Type} [HasReferenceKind ρ] (op : Opcode) (expected : OperandKind)
    (ref : ρ) : Prop :=
  op.format = .f20bc ∨ expected = .only (HasReferenceKind.referenceKind ref)

namespace Instruction

variable {ρ : Type} [HasReferenceKind ρ]

/-- Whether decoding gives back every operand that was encoded. -/
def Survives : Instruction ρ → Prop
  | f10t _ offset => signedField 8 offset.toBitVec = offset.toBitVec
  | f20t _ offset | f21t _ _ offset => signedField 16 offset.toBitVec = offset.toBitVec
  | f22t _ a b offset =>
      NibbleSurvives a ∧ NibbleSurvives b ∧ signedField 16 offset.toBitVec = offset.toBitVec
  | f11n _ a literal => NibbleSurvives a ∧ signedField 4 literal.toBitVec = literal.toBitVec
  | f12x _ a b | f22cs _ a b _ => NibbleSurvives a ∧ NibbleSurvives b
  | f20bc op _ ref | f21c op _ ref | f31c op _ ref => ReferenceFits op op.operand ref
  | f21ih _ _ literal => highField 16 literal.toBitVec = literal.toBitVec
  | f21lh _ _ literal => highField 16 literal.toBitVec = literal.toBitVec
  | f21s _ _ literal => signedField 16 literal.toBitVec = literal.toBitVec
  | f22b _ _ _ literal => signedField 8 literal.toBitVec = literal.toBitVec
  | f22c op a b ref => NibbleSurvives a ∧ NibbleSurvives b ∧ ReferenceFits op op.operand ref
  | f22s _ a b literal =>
      NibbleSurvives a ∧ NibbleSurvives b ∧ signedField 16 literal.toBitVec = literal.toBitVec
  | f35c op registers ref => RegistersSurvive registers ∧ ReferenceFits op op.operand ref
  | f35mi _ registers _ | f35ms _ registers _ => RegistersSurvive registers
  | f3rc op start count ref => RangeSurvives start count ∧ ReferenceFits op op.operand ref
  | f3rmi _ start count _ | f3rms _ start count _ => RangeSurvives start count
  | f45cc op registers ref second =>
      RegistersSurvive registers ∧ ReferenceFits op op.operand ref ∧
        ReferenceFits op op.secondOperand second
  | f4rcc op start count ref second =>
      RangeSurvives start count ∧ ReferenceFits op op.operand ref ∧
        ReferenceFits op op.secondOperand second
  | sparseSwitchPayload entries =>
      ∀ (i j : Nat) (hi : i < entries.length) (hj : j < entries.length), i < j →
        entries[i].key < entries[j].key
  | arrayPayload width elements =>
      width ∈ [1, 2, 4, 8] ∧ ∀ e ∈ elements, ElementSurvives width e
  | f10x .. | f11x .. | f22x .. | f23x .. | f30t .. | f31i .. | f31t .. | f32x .. | f51l ..
  | packedSwitchPayload .. => True

/-! ## The checks of one operand -/

theorem nibbleFault?_eq_none_iff {operand : String} {register : UInt8} :
    nibbleFault? operand register = none ↔ NibbleSurvives register := by
  rw [NibbleSurvives, unsignedField_eq_iff (by omega), UInt8.toNat_toBitVec, nibbleFault?]
  split <;> simp <;> omega

theorem rangeFault?_eq_none_iff {operand : String} {value least greatest : Int} :
    rangeFault? operand value least greatest = none ↔ least ≤ value ∧ value ≤ greatest := by
  simp [rangeFault?]

theorem signedFault?_eq_none_iff {operand : String} {n : Nat} {value : Int32} (hpos : 0 < n)
    (hn : n ≤ 32) : signedFault? operand n value.toInt = none ↔
      signedField n value.toBitVec = value.toBitVec := by
  rw [signedFault?, rangeFault?_eq_none_iff, signedField_eq_iff hpos hn, Int32.toInt_toBitVec]

theorem registersFault?_eq_none_iff {registers : List UInt8} :
    registersFault? registers = none ↔ RegistersSurvive registers := by
  rw [registersFault?, RegistersSurvive]
  split
  · next hle =>
      simp only [List.findSome?_eq_none_iff, nibbleFault?_eq_none_iff, hle, true_and]
  · next hgt => simp only [reduceCtorEq, hgt, false_and]

theorem registerRangeFault?_eq_none_iff {start : UInt16} {count : UInt8} :
    registerRangeFault? start count = none ↔ RangeSurvives start count := by
  have hstart : start.toNat < 65536 := start.toNat_lt
  rw [registerRangeFault?, RangeSurvives]
  split
  · next hle => exact ⟨fun _ k hk => by omega, fun _ => rfl⟩
  · next hgt =>
      refine ⟨nofun, fun h => ?_⟩
      -- The last register of the range is the one that is not there.
      have hlast := h (count.toNat - 1) (by omega)
      omega

/-- The one opcode that takes references of any kind is that of 20bc. -/
theorem operand_eq_any_iff (op : Opcode) : op.operand = .any ↔ op.format = .f20bc := by
  have hrows : ∀ info ∈ opcodeTable, info.operand = .any ↔ info.format = .f20bc := by
    decide +kernel
  exact hrows op.info (List.getElem_mem _)

theorem referenceFault?_eq_none_iff {op : Opcode} {expected : OperandKind} {ref : ρ}
    (hany : expected = .any ↔ op.format = .f20bc) :
    referenceFault? expected ref = none ↔ ReferenceFits op expected ref := by
  rw [referenceFault?, ReferenceFits, ← hany]
  cases expected with
  | none => simp [OperandKind.admits]
  | only kind => simp [OperandKind.admits]
  | any => simp [OperandKind.admits]

/-- Comparing neighbours is comparing all positions, since the order of keys is transitive. -/
theorem keysFault?_eq_none_iff {entries : List SwitchEntry} : keysFault? entries = none ↔
    entries.Pairwise fun a b => a.key < b.key := by
  induction entries with
  | nil => simp [keysFault?]
  | cons a rest ih =>
      cases rest with
      | nil => simp [keysFault?]
      | cons b rest =>
          rw [keysFault?]
          split
          · next hlt =>
              rw [ih, List.pairwise_cons (a := a)]
              refine ⟨fun h => ⟨?_, h⟩, fun h => h.2⟩
              simp only [List.mem_cons, forall_eq_or_imp]
              exact ⟨hlt, fun c hc => Int32.lt_trans hlt (List.rel_of_pairwise_cons h hc)⟩
          · next hnot =>
              refine ⟨nofun, fun h => absurd ?_ hnot⟩
              exact List.rel_of_pairwise_cons h (List.mem_cons_self ..)

/-- The numbers of a field with and of one without a sign are those from the least of the one to
the greatest of the other. -/
theorem elementFault?_eq_none_iff {operand : String} {n : Nat} {e : Int64} (hpos : 0 < n)
    (hn : n < 64) :
    rangeFault? operand e.toInt (-Nat.pow 2 (n - 1)) (Nat.pow 2 n - 1) = none ↔
      signedField n e.toBitVec = e.toBitVec ∨ unsignedField n e.toBitVec = e.toBitVec := by
  have hhalf : Nat.pow 2 n = 2 * Nat.pow 2 (n - 1) := two_pow_eq_double hpos
  have hone : 0 < Nat.pow 2 (n - 1) := Nat.two_pow_pos _
  rw [rangeFault?_eq_none_iff, signedField_eq_iff hpos (by omega), unsignedField_eq_iff_toInt hn,
    Int64.toInt_toBitVec]
  omega

/-- Every element fits into eight bytes. -/
theorem elementSurvives_eight (e : Int64) : ElementSurvives 8 e := by
  refine .inr ((unsignedField_eq_iff (Nat.le_refl 64)).mpr e.toBitVec.isLt)

theorem elementsFault?_eq_none_iff {width : UInt8} {elements : List Int64} :
    elementsFault? width elements = none ↔
      width ∈ [1, 2, 4, 8] ∧ ∀ e ∈ elements, ElementSurvives width e := by
  rw [elementsFault?]
  split
  · next hnarrow =>
      have hwidth : 0 < 8 * width.toNat ∧ 8 * width.toNat < 64 := by
        simp only [List.mem_cons, List.not_mem_nil, or_false] at hnarrow
        obtain rfl | rfl | rfl := hnarrow <;> decide
      have hmem : width ∈ [1, 2, 4, 8] := List.mem_append_left [8] hnarrow
      simp only [List.findSome?_eq_none_iff, elementFault?_eq_none_iff hwidth.1 hwidth.2, hmem,
        true_and, ElementSurvives]
  · next hwide =>
      split
      · next heq =>
          subst heq
          exact ⟨fun _ => ⟨by decide, fun e _ => elementSurvives_eight e⟩, fun _ => rfl⟩
      · next hne =>
          refine ⟨nofun, fun ⟨hmem, _⟩ => absurd hmem ?_⟩
          simp only [List.mem_cons, List.not_mem_nil, or_false, not_or] at hwide ⊢
          exact ⟨hwide.1, hwide.2.1, hwide.2.2, hne⟩

/-- A literal of which only the high bits are stored has its low bits clear. -/
theorem lowBitsFault_eq_none_iff {literal : Int32} :
    (if literal &&& 0xffff = 0 then none else some (OperandFault.lowBits literal)) = none ↔
      highField 16 literal.toBitVec = literal.toBitVec := by
  rw [highField_eq_iff, ite_eq_left_iff, ← Int32.toBitVec_inj, Int32.toBitVec_and]
  simp only [reduceCtorEq, imp_false, not_not]
  rfl

theorem lowBitsWideFault_eq_none_iff {literal : Int64} :
    (if literal &&& 0xffffffffffff = 0 then none else some (OperandFault.lowBitsWide literal)) =
        none ↔ highField 16 literal.toBitVec = literal.toBitVec := by
  rw [highField_eq_iff, ite_eq_left_iff, ← Int64.toBitVec_inj, Int64.toBitVec_and]
  simp only [reduceCtorEq, imp_false, not_not]
  rfl

/-! ## The whole check -/

/-- The second operand of an opcode is no free one. -/
theorem secondOperand_eq_any_iff {op : Opcode} (h : op.format ≠ .f20bc) :
    op.secondOperand = .any ↔ op.format = .f20bc := by
  rw [Opcode.secondOperand]
  refine ⟨fun hany => ?_, fun hformat => absurd hformat h⟩
  split at hany <;> cases hany

theorem operandFault?_eq_none_iff {i : Instruction ρ} (h : i.opcode.format = i.format) :
    i.operandFault? = none ↔ i.Survives := by
  cases i with
  | sparseSwitchPayload entries =>
      rw [operandFault?, keysFault?_eq_none_iff]
      exact List.pairwise_iff_getElem
  | f45cc op registers ref second =>
      have hformat : op.format ≠ .f20bc := fun heq => by cases heq.symm.trans h
      simp only [operandFault?, Survives, Option.orElse_eq_none, registersFault?_eq_none_iff,
        referenceFault?_eq_none_iff (operand_eq_any_iff op),
        referenceFault?_eq_none_iff (secondOperand_eq_any_iff hformat)]
  | f4rcc op start count ref second =>
      have hformat : op.format ≠ .f20bc := fun heq => by cases heq.symm.trans h
      simp only [operandFault?, Survives, Option.orElse_eq_none, registerRangeFault?_eq_none_iff,
        referenceFault?_eq_none_iff (operand_eq_any_iff op),
        referenceFault?_eq_none_iff (secondOperand_eq_any_iff hformat)]
  | _ =>
      simp (disch := decide) only [operandFault?, Survives, Option.orElse_eq_none,
        nibbleFault?_eq_none_iff, signedFault?_eq_none_iff, lowBitsFault_eq_none_iff,
        lowBitsWideFault_eq_none_iff, registersFault?_eq_none_iff,
        registerRangeFault?_eq_none_iff, elementsFault?_eq_none_iff,
        referenceFault?_eq_none_iff (operand_eq_any_iff _)]

/-- An instruction is valid exactly if its opcode has the format of its operands and every operand
survives being encoded. -/
theorem validate_eq_ok_iff_survives (i : Instruction ρ) :
    i.validate = .ok () ↔ i.opcode.format = i.format ∧ i.Survives := by
  have hvalid : i.validate = .ok () ↔ i.fault? = none := by
    rw [validate]
    cases i.fault? <;> simp
  rw [hvalid, fault?]
  split
  · next h => simp only [operandFault?_eq_none_iff h, h, true_and]
  · next h => simp only [reduceCtorEq, h, false_and]

end Instruction

end DexPools
