import DexPools.Proofs.Interning

/-!
# Fields and methods of a class

The definition of a member is put into the pools part by part, so it follows a plan as its parts
do. A class then asks of its members that they name the class and differ from one another. The
members of a session are compared by rows and by names, definitions by their texts; in a sound
session this comes to the same, and the check of the members is one of their texts.
-/

namespace DexPools

namespace Plan

def fieldDef (f : FieldDef) : Plan Unit := do
  field f.ref
  f.initialValue.forM value
  annotationSet f.annotations

def parameter (p : Parameter) : Plan Unit := do
  type p.type
  p.name.forM string
  annotationSet p.annotations

def methodDef (apiLevel : UInt32) (m : MethodDef) : Plan Unit := do
  method m.ref
  if m.body.isSome && m.flags.forbidsBody then fail (.badArgument (.bodyNotAllowed m.ref))
  m.params.forM parameter
  annotationSet m.annotations
  m.body.forM (body apiLevel)
  step .methodRow

namespace Below

theorem instruction (i : Instruction Reference) : (Plan.instruction i).Below 6 :=
  Only.forM fun r _ => reference r

theorem tryBlock (t : TryBlock String) : (Plan.tryBlock t).Below 6 :=
  Only.forM fun h _ => Only.forM_option (fun d => (type d).mono (by decide)) h.type

theorem debugItem : ∀ d : DebugItem String String, (Plan.debugItem d).Below 6
  | .startLocal _ _ name type signature =>
      Only.bind (Only.forM_option (fun t => (string t).mono (by decide)) name) fun _ =>
        Only.bind (Only.forM_option (fun d => (Below.type d).mono (by decide)) type) fun _ =>
          Only.forM_option (fun t => (string t).mono (by decide)) signature
  | .setSourceFile _ file => Only.forM_option (fun t => (string t).mono (by decide)) file
  | .endLocal .. | .restartLocal .. | .prologueEnd _ | .epilogueBegin _ | .line .. =>
      Only.pure ()

theorem body (apiLevel : UInt32) (b : TextBody) : (Plan.body apiLevel b).Below 6 :=
  Only.bind (Only.forM fun _ _ => Only.check _) fun _ =>
    Only.bind (Only.forM fun i _ => instruction i) fun _ =>
      Only.bind (Only.forM fun t _ => tryBlock t) fun _ => Only.forM fun d _ => debugItem d

end Below

end Plan

/-- The annotation sets of a method and of its parameters. -/
def MethodDef.annotationSets (m : MethodDef) : List AnnotationSet :=
  m.annotations :: m.params.map (·.annotations)

namespace Plan

/-! A member puts in keys of low levels and its annotation sets. What is to be known of its steps is
therefore to be shown of these. -/

namespace Only

variable {P : Event → Prop}

theorem fieldDef (hlow : ∀ e : Event, e.level < 6 → P e) {f : FieldDef}
    (hset : (Plan.annotationSet f.annotations).Only P) : (Plan.fieldDef f).Only P := by
  refine bind ((Below.field _).only hlow) fun _ => bind ?_ fun _ => hset
  exact Below.only (n := 6) (forM_option Below.value _) hlow

theorem parameter (hlow : ∀ e : Event, e.level < 6 → P e) {p : Parameter}
    (hset : (Plan.annotationSet p.annotations).Only P) : (Plan.parameter p).Only P := by
  refine bind ((Below.type _).only hlow) fun _ => bind ?_ fun _ => hset
  exact Below.only (n := 1) (forM_option Below.string _) hlow

/-- A method has a row besides. -/
theorem methodDef (hlow : ∀ e : Event, e.level < 6 → P e) (hrow : P .methodRow)
    {apiLevel : UInt32} {m : MethodDef}
    (hsets : ∀ set ∈ m.annotationSets, (Plan.annotationSet set).Only P) :
    (Plan.methodDef apiLevel m).Only P := by
  obtain ⟨hset, hparams⟩ := List.forall_mem_cons.mp hsets
  refine bind ((Below.method _).only hlow) fun _ => guard ?_
  refine bind (forM fun p hp => parameter hlow (List.forall_mem_map.mp hparams p hp)) fun _ => ?_
  refine bind hset fun _ => bind ?_ fun _ => step hrow
  exact Below.only (n := 6) (forM_option (Below.body _) _) hlow

end Only

theorem Below.fieldDef (f : FieldDef) : (Plan.fieldDef f).Below 8 :=
  Only.fieldDef (fun _ he => Nat.lt_trans he (by decide)) (Below.annotationSet _)

/-- A method puts keys in and is given a row, and there is nothing else to it. -/
theorem only_methodDef (apiLevel : UInt32) (m : MethodDef) :
    (methodDef apiLevel m).Only fun e => e.level < 8 ∨ e = .methodRow :=
  Only.methodDef (fun _ he => .inl (Nat.lt_trans he (by decide))) (.inr rfl) fun set _ =>
    Only.imp (Below.annotationSet set) fun _ => .inl

theorem Below.methodDef (apiLevel : UInt32) (m : MethodDef) :
    (Plan.methodDef apiLevel m).Below 9 := by
  intro e he
  rcases only_methodDef apiLevel m e he with hlevel | rfl
  · exact Nat.lt_succ_of_lt hlevel
  · exact Nat.lt_succ_self 8

end Plan

namespace Session

variable {s : Session}

/-! ## Putting members into the pools -/

theorem builds_defineField (f : FieldDef) : s.Builds (defineField f) (Plan.fieldDef f) f := by
  refine Follows.bind (builds_internField f.ref) fun ref t _ href => ?_
  refine Follows.bind (Follows.traverseOption_self builds_internValue f.initialValue)
    fun value u hlog hvalue => ?_
  refine Follows.map (builds_internAnnotationSet f.annotations) fun set v hlog' hset => ⟨?_, ?_⟩
  · obtain ⟨hclass, hname, htype⟩ := FieldRef.mk.inj href.text
    show FieldDef.mk _ _ _ _ _ _ = f
    rw [hclass, hname, htype, optionRel_eq_map hvalue.text, show set.readBack = _ from hset.text]
  · refine holdsAll_append.mpr ⟨holdsAll_append.mpr ⟨?_, ?_⟩, hset.holdsAll⟩
    · exact ((href.mono hlog.grows).mono hlog'.grows).holdsAll
    · exact (hvalue.mono hlog'.grows).holdsAll

theorem builds_defineParameter (p : Parameter) :
    s.Builds (defineParameter p) (Plan.parameter p) p := by
  refine Follows.bind (builds_internType p.type) fun type t _ htype => ?_
  refine Follows.bind (builds_internString? p.name) fun name u hlog hname => ?_
  refine Follows.map (builds_internAnnotationSet p.annotations) fun set v hlog' hset => ⟨?_, ?_⟩
  · show Parameter.mk _ _ _ = p
    rw [show type.text = _ from htype.text, optionRel_eq_map hname.text,
      show set.readBack = _ from hset.text]
  · refine holdsAll_append.mpr ⟨holdsAll_append.mpr ⟨?_, ?_⟩, hset.holdsAll⟩
    · exact ((htype.mono hlog.grows).mono hlog'.grows).holdsAll
    · exact (hname.mono hlog'.grows).holdsAll

theorem follows_allocateMethodRow :
    s.Follows allocateMethodRow (Plan.step .methodRow) fun _ _ => True := by
  intro hs
  have hafter : s.After [.methodRow] (s.run allocateMethodRow).2 := {
    config := rfl
    grows := Grows.refl s
    has := fun k => by
      show s.Has k ↔ _
      simp
    classes := ⟨[], rfl, rfl⟩
    sealedOrder := rfl
    notes := (List.append_nil _).symm
  }
  refine ⟨_, ?_, hafter, .inl ⟨_, rfl, rfl, trivial⟩⟩
  exact hs.of_find?_eq { hs.canonical with } (fun _ => rfl) rfl hs.sealedOrder

theorem builds_defineMethod (m : MethodDef) :
    s.Builds (defineMethod m) (Plan.methodDef s.config.apiLevel m) m := by
  refine Follows.bind (builds_internMethod m.ref) fun ref t hlog href => ?_
  rw [show ref.ref = m.ref from href.text]
  refine Follows.guard ?_
  refine Follows.bind (Follows.mapM_self fun p _ t _ => builds_defineParameter p)
    fun params u hlog₁ hparams => ?_
  refine Follows.bind (builds_internAnnotationSet m.annotations) fun set v hlog₂ hset => ?_
  have hlevel : v.config.apiLevel = s.config.apiLevel := by
    rw [hlog₂.config, hlog₁.config, hlog.config]
  rw [← hlevel]
  refine Follows.bind (Follows.traverseOption_self (fun b => builds_internBody b) m.body)
    fun body w hlog₃ hbody => ?_
  refine Follows.map follows_allocateMethodRow fun row x hlog₄ _ => ⟨⟨?_, href.text⟩, ?_⟩
  · obtain ⟨hclass, hname, -, hreturn⟩ := MethodRef.mk.inj href.text
    show MethodDef.mk _ _ _ _ _ _ _ = m
    rw [hclass, hname, hreturn, forall₂_eq_map hparams.text, optionRel_eq_map hbody.text,
      show set.readBack = _ from hset.text]
  · refine hlog₄.grows.holdsAll (holdsAll_append.mpr ⟨holdsAll_append.mpr
      ⟨holdsAll_append.mpr ⟨?_, ?_⟩, ?_⟩, hbody.holdsAll⟩)
    · exact (((href.mono hlog₁.grows).mono hlog₂.grows).mono hlog₃.grows).holdsAll
    · exact ((hparams.mono hlog₂.grows).mono hlog₃.grows).holdsAll
    · exact (hset.mono hlog₃.grows).holdsAll

/-! ## The members that a class declares -/

end Session

def MemberRef.definingClass : MemberRef → String
  | field f => f.definingClass
  | method m => m.definingClass

/-- Accepts members that a class declares, each once. The first member at fault is reported. -/
def checkMembers (type : String) : List MemberRef → List MemberRef → Except Error Unit
  | _, [] => .ok ()
  | seen, m :: rest =>
      if m.definingClass ≠ type then .error (.badArgument (.foreignMember m type))
      else if m ∈ seen then .error (.duplicate (.member m))
      else checkMembers type (m :: seen) rest

theorem checkMembers_eq_ok_iff {type : String} {seen ms : List MemberRef} :
    checkMembers type seen ms = .ok () ↔
      (∀ m ∈ ms, m.definingClass = type) ∧ ms.Nodup ∧ ∀ m ∈ ms, m ∉ seen := by
  induction ms generalizing seen with
  | nil => simp [checkMembers]
  | cons m rest ih =>
      rw [checkMembers]
      split
      · next hforeign => simp [hforeign]
      · next hown =>
        split
        · next hseen => simp [hseen]
        · next hnew =>
          rw [ih]
          simp only [List.mem_cons, List.nodup_cons, forall_eq_or_imp, not_or]
          constructor
          · rintro ⟨hclass, hnodup, hrest⟩
            exact ⟨⟨not_not.mp hown, hclass⟩, ⟨fun hm => (hrest m hm).1 rfl, hnodup⟩, hnew,
              fun x hx => (hrest x hx).2⟩
          · rintro ⟨⟨-, hclass⟩, ⟨hm, hnodup⟩, -, hrest⟩
            exact ⟨hclass, hnodup, fun x hx => ⟨fun hxm => hm (hxm ▸ hx), hrest x hx⟩⟩

namespace Session

variable {s : Session} {type : TypeEntry}

/-- Whether the field or method of an entry is declared by a class, which the rows of the types
decide as well as their texts. -/
theorem not_sameType_iff (hs : s.Sound) {a b : TypeEntry} (ha : s.HoldsAll a.items)
    (hb : s.HoldsAll b.items) : (!sameEntry a b) = true ↔ a.text ≠ b.text := by
  rw [Bool.not_eq_true', ← Bool.not_eq_true, Shelf.types.sameEntry_iff hs
    (ha _ List.mem_cons_self) (hb _ List.mem_cons_self)]
  rfl

/-- Pooled fields pass the check of a class as their references do. Both look for a field among
those before it, here by name and type and there by reference. -/
theorem checkFields_eq (hs : s.Sound) (htype : s.HoldsAll type.items) {fields : List PooledField}
    {seen : List (String × String)} {refs : List MemberRef}
    (hfields : ∀ f ∈ fields, s.HoldsAll f.items)
    (hseen : ∀ f : FieldRef, f.definingClass = type.text →
      ((f.name, f.type) ∈ seen ↔ MemberRef.field f ∈ refs)) :
    checkFields type seen fields =
      checkMembers type.text refs (fields.map fun f => .field f.ref.ref) := by
  induction fields generalizing seen refs with
  | nil => rfl
  | cons f rest ih =>
      have hclass : s.HoldsAll f.ref.definingClass.items := by
        have hf := hfields f List.mem_cons_self
        simp only [PooledField.items, FieldEntry.items, holdsAll_append, holdsAll_cons] at hf
        exact hf.1.1.2.1.1
      rw [checkFields, List.map_cons, checkMembers]
      simp only [not_sameType_iff hs hclass htype]
      split
      · next hforeign => exact (if_pos hforeign).symm
      · next hown =>
        have hown' : f.ref.ref.definingClass = type.text := not_not.mp hown
        have hkey : (f.ref.name.text, f.ref.type.text) ∈ seen ↔ MemberRef.field f.ref.ref ∈ refs :=
          hseen f.ref.ref hown'
        rw [if_neg (show ¬ (MemberRef.field f.ref.ref).definingClass ≠ type.text from hown)]
        by_cases hmem : MemberRef.field f.ref.ref ∈ refs
        · rw [if_pos hmem, if_pos (hkey.mpr hmem)]
        · rw [if_neg hmem, if_neg fun h => hmem (hkey.mp h)]
          -- Both lists of what was seen grow by the same field.
          refine ih (fun g hg => hfields g (List.mem_cons_of_mem _ hg)) fun g hg => ?_
          rw [List.mem_cons, List.mem_cons, hseen g hg, MemberRef.field.injEq]
          refine or_congr_left ⟨fun heq => ?_, fun heq => heq ▸ rfl⟩
          obtain ⟨hname, htype⟩ := Prod.mk.inj heq
          exact congr (congrArg₂ FieldRef.mk (hg.trans hown'.symm) hname) htype

/-- Pooled methods pass the check of a class as their references do. Both look for a method among
those before it, here by row and there by reference. -/
theorem checkMethods_eq (hs : s.Sound) (htype : s.HoldsAll type.items)
    {methods : List PooledMethod} {seen : List Nat} {refs : List MemberRef}
    (hmethods : ∀ m ∈ methods, s.HoldsAll m.items)
    (hseen : ∀ e : MethodEntry, s.Holds (.method e) →
      (e.row ∈ seen ↔ MemberRef.method e.ref ∈ refs)) :
    checkMethods type seen methods =
      checkMembers type.text refs (methods.map fun m => .method m.ref.ref) := by
  induction methods generalizing seen refs with
  | nil => rfl
  | cons m rest ih =>
      have hm : s.Holds (.method m.ref) ∧ s.HoldsAll m.ref.definingClass.items := by
        have hm := hmethods m List.mem_cons_self
        simp only [PooledMethod.items, MethodEntry.items, holdsAll_append, holdsAll_cons] at hm
        exact ⟨hm.1.1.1.1, hm.1.1.1.2.1.1⟩
      rw [checkMethods, List.map_cons, checkMembers]
      simp only [not_sameType_iff hs hm.2 htype]
      split
      · next hforeign => exact (if_pos hforeign).symm
      · next hown =>
        rw [if_neg (show ¬ (MemberRef.method m.ref.ref).definingClass ≠ type.text from hown)]
        by_cases hmem : MemberRef.method m.ref.ref ∈ refs
        · rw [if_pos hmem, if_pos ((hseen m.ref hm.1).mpr hmem)]
        · rw [if_neg hmem, if_neg fun h => hmem ((hseen m.ref hm.1).mp h)]
          refine ih (fun n hn => hmethods n (List.mem_cons_of_mem _ hn)) fun e he => ?_
          rw [List.mem_cons, List.mem_cons, hseen e he, MemberRef.method.injEq]
          exact or_congr_left (Shelf.methods.row_eq_iff hs he hm.1)

end Session

end DexPools
