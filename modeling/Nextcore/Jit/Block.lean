import Nextcore.Jit.Access

/-! A translated block: the effect of each word, and of the words up to the first
one that returns. -/

namespace Nextcore.Jit

open Cpu Emit X86

def effectOne (t : Target) (provider : Bool) (w : U32) (pc : U64) (n : U32) : VfCpu → List Byte → Effect :=
  if isMrsMsr w = true ∧ sysregKey w = Key.cpacrEl1 ∧ t.currentEl = 0#32 then
    stopEffect w pc n Status.undefinedInstruction
  else if isMrsMsr w = true ∧ (sysregKey w = Key.fpcr ∨ sysregKey w = Key.fpsr) then
    stopEffect w pc n Status.undefinedInstruction
  else if provider = true ∧ memoryFamily w = true then stopEffect w pc n Status.memoryDispatch
  else if w &&& 0x3fe00800#32 = 0x1a800000#32 then fun g ram => .next (conditionalSelectResult w g) ram
  else if w &&& 0x7fe0f000#32 = 0x1ac02000#32 then straightEffect w pc n (some (variableShiftResult w))
  else if w &&& 0x7fe00000#32 = 0x1b000000#32 then straightEffect w pc n (some (multiplyAddResult w))
  else if w &&& 0x3fe00410#32 = 0x3a400000#32 then fun g ram => .next (conditionalCompareResult w g) ram
  else if w &&& 0x7f800000#32 = 0x33000000#32 then straightEffect w pc n (bitfieldMoveResult w)
  else if w &&& 0x7f800000#32 = 0x53000000#32 then straightEffect w pc n (unsignedBitfieldMoveResult w)
  else if w &&& 0x1f800000#32 = 0x12000000#32 then straightEffect w pc n (logicalImmediateResult w)
  else if isIdRead w then idReadEffect w pc n
  else if isMrsMsr w = true ∧ threadOffset (sysregKey w) ≠ 0#32 then straightEffect w pc n (threadRegisterResult t w)
  else if w &&& 0x7f800000#32 = 0x52800000#32 ∨ w &&& 0x7f800000#32 = 0x72800000#32 ∨
      w &&& 0x7f800000#32 = 0x12800000#32 then straightEffect w pc n (moveWideResult w)
  else if w &&& 0x1f000000#32 = 0x10000000#32 then straightEffect w pc n (some (pcRelativeResult w pc))
  else if w &&& 0x1f000000#32 = 0x0a000000#32 then straightEffect w pc n (logicalShiftedResult w)
  else if w &&& 0x1f800000#32 = 0x11000000#32 then straightEffect w pc n (some (addSubImmediateResult w))
  else if w &&& 0x1fe00000#32 = 0x0b200000#32 then straightEffect w pc n (addSubExtendedResult w)
  else if w &&& 0x1f200000#32 = 0x0b000000#32 then straightEffect w pc n (addSubShiftedResult w)
  else if memoryFamily w then inlineEffect t w pc n
  else if w &&& 0xff000010#32 = 0x54000000#32 then
    branchEffect (conditionalTarget w pc) pc n fun g => conditionHolds g.pstate (w &&& 15#32)
  else if w &&& 0x7e000000#32 = 0x36000000#32 then branchEffect (testTarget w pc) pc n (testTakes w)
  else if w &&& 0x7e000000#32 = 0x34000000#32 then branchEffect (conditionalTarget w pc) pc n (compareTakes w)
  else if w &&& 0x7c000000#32 = 0x14000000#32 then branchResult w pc n
  else if w &&& 0xfffffc1f#32 = 0xd61f0000#32 ∨ w &&& 0xfffffc1f#32 = 0xd63f0000#32 ∨
      w &&& 0xfffffc1f#32 = 0xd65f0000#32 then branchRegisterResult w pc n
  else if w = 0xd503201f#32 then fun g ram => .next g ram
  else if w = 0xd4400000#32 then fun g ram => .stops Status.halt (finished g (pc + 4#64) (n + 1#32)) ram
  else
    let boundary := if knownPrivileged w t.currentEl then Status.privilegeFault
      else systemBoundary w t.currentEl
    stopEffect w pc n (if boundary ≠ Status.next then boundary else Status.undefinedInstruction)

lemma translates_ite {p : Prop} [Decidable p] {m m' : Emit Bool} {e e' : VfCpu → List Byte → Effect}
    (h : p → Translates m e) (h' : ¬p → Translates m' e') :
    Translates (if p then m else m') (if p then e else e') := by
  by_cases hp : p
  · rw [if_pos hp, if_pos hp]
    exact h hp
  · rw [if_neg hp, if_neg hp]
    exact h' hp

lemma translates_one (t : Target) (provider : Bool) (w : U32) (pc : U64) (n : U32) :
    Translates (translateOne t provider w pc n) (effectOne t provider w pc n) := by
  unfold translateOne effectOne
  refine translates_ite (fun _ => translates_stop _ _ _ _) fun _ => ?_
  refine translates_ite (fun _ => translates_stop _ _ _ _) fun _ => ?_
  refine translates_ite (fun _ => translates_stop _ _ _ _) fun _ => ?_
  refine translates_ite (fun _ => translates_conditionalSelect w) fun _ => ?_
  refine translates_ite (fun _ => translates_straight (computes_variableShift w) w pc n) fun _ => ?_
  refine translates_ite (fun _ => translates_straight (computes_multiplyAdd w) w pc n) fun _ => ?_
  refine translates_ite (fun _ => translates_conditionalCompare w) fun _ => ?_
  refine translates_ite (fun _ => translates_straight (computes_bitfieldMove w) w pc n) fun _ => ?_
  refine translates_ite (fun _ => translates_straight (computes_unsignedBitfieldMove w) w pc n) fun _ => ?_
  refine translates_ite (fun _ => translates_straight (computes_logicalImmediate w) w pc n) fun _ => ?_
  refine translates_ite (fun _ => translates_idRead w pc n) fun _ => ?_
  refine translates_ite (fun h => translates_straight (computes_threadRegister t h.2) w pc n) fun _ => ?_
  refine translates_ite (fun _ => translates_straight (computes_moveWide w) w pc n) fun _ => ?_
  refine translates_ite (fun _ => translates_straight (computes_pcRelative w pc) w pc n) fun _ => ?_
  refine translates_ite (fun _ => translates_straight (computes_logicalShifted w) w pc n) fun _ => ?_
  refine translates_ite (fun _ => translates_straight (computes_addSubImmediate w) w pc n) fun _ => ?_
  refine translates_ite (fun _ => translates_straight (computes_addSubExtended w) w pc n) fun _ => ?_
  refine translates_ite (fun _ => translates_straight (computes_addSubShifted w) w pc n) fun _ => ?_
  refine translates_ite (fun _ => translates_inlineMemory t w pc n) fun _ => ?_
  refine translates_ite (fun _ => translates_conditionalBranch w pc n) fun _ => ?_
  refine translates_ite (fun _ => translates_testBranch w pc n) fun _ => ?_
  refine translates_ite (fun _ => translates_compareBranch w pc n) fun _ => ?_
  refine translates_ite (fun _ => translates_ends (runs_branch w pc n) fun _ _ => ⟨_, _, _, rfl⟩) fun _ => ?_
  refine translates_ite (fun _ => translates_ends (runs_branchRegister w pc n) (branchRegisterResult_stops w pc n))
    fun _ => ?_
  refine translates_ite (fun _ => ?_) fun _ => ?_
  · exact ⟨[], true, emits_pure true, fun _ rax r9 r10 r11 f _ _ _ => ⟨rax, r9, r10, r11, f, rfl⟩, fun h => nomatch h⟩
  refine translates_ite (fun _ => translates_ends (fun _ _ _ _ _ _ _ _ _ => returned_finish _ _ _)
    fun _ _ => ⟨_, _, _, rfl⟩) fun _ => ?_
  exact translates_stop _ _ _ _

def blockWord (t : Target) (provider : Bool) (guest : List Byte) (pc : U64) : U32 :=
  word guest (if provider then 0 else (pc - t.base).toNat)

def Effect.andThen : Effect → (VfCpu → List Byte → Effect) → Effect
  | .next g ram, rest => rest g ram
  | .stops status g ram, _ => .stops status g ram

def effectFrom (t : Target) (provider : Bool) (guest : List Byte) : ℕ → U32 → U64 → VfCpu → List Byte → Effect
  | 0, _, _ => fun g ram => .next g ram
  | remaining + 1, n, pc => fun g ram =>
    if provider = false ∧ fetchFails t.base pc guest.length = true then
      .stops Status.instructionAbort (finished g pc n) ram
    else
      (effectOne t provider (blockWord t provider guest pc) pc n g ram).andThen
        (if remaining = 0 then fun g ram => .stops Status.next (finished g (pc + 4#64) (n + 1#32)) ram
        else effectFrom t provider guest remaining (n + 1#32) (pc + 4#64))

lemma effectFrom_stops (t : Target) (provider : Bool) (guest : List Byte) {remaining : ℕ} (h : remaining ≠ 0) (n : U32)
    (pc : U64) (g : VfCpu) (ram : List Byte) :
    ∃ status g' ram', effectFrom t provider guest remaining n pc g ram = .stops status g' ram' := by
  induction remaining generalizing n pc g ram with
  | zero => exact absurd rfl h
  | succ remaining ih =>
    rw [effectFrom]
    dsimp only
    split
    · exact ⟨_, _, _, rfl⟩
    cases effectOne t provider (blockWord t provider guest pc) pc n g ram with
    | stops status g ram => exact ⟨_, _, _, rfl⟩
    | next g ram =>
      dsimp only [Effect.andThen]
      split
      · exact ⟨_, _, _, rfl⟩
      next hremaining => exact ih hremaining _ _ _ _

lemma runs_append {code code' : List Byte} {effect effect' : VfCpu → List Byte → Effect} (h : Runs code effect)
    (h' : Runs code' effect') : Runs (code ++ code') fun g ram => (effect g ram).andThen effect' := by
  intro host rax r9 r10 r11 f g ram rest
  have hfirst := h host rax r9 r10 r11 f g ram (code' ++ rest)
  rw [List.append_assoc]
  dsimp only
  cases heffect : effect g ram with
  | stops status g' ram' =>
    rw [heffect] at hfirst
    exact hfirst
  | next g' ram' =>
    rw [heffect] at hfirst
    obtain ⟨rax', r9', r10', r11', f', hrun⟩ := hfirst
    rw [hrun]
    exact h' host rax' r9' r10' r11' f' g' ram' rest

lemma emits_block (t : Target) (provider : Bool) (guest : List Byte) {remaining : ℕ} (h : remaining ≠ 0) (n : U32)
    (pc : U64) :
    ∃ code, Emits (translateFrom t provider guest remaining n pc) () code ∧
      Runs code (effectFrom t provider guest remaining n pc) := by
  induction remaining generalizing n pc with
  | zero => exact absurd rfl h
  | succ remaining ih =>
    rw [translateFrom, effectFrom]
    by_cases hfetch : provider = false ∧ fetchFails t.base pc guest.length = true
    · simp only [if_pos hfetch]
      exact ⟨_, emits_bytes _, fun _ _ _ _ _ _ _ _ _ => returned_finish _ _ _⟩
    simp only [if_neg hfetch]
    obtain ⟨code, more, hemits, hruns, hstops⟩ := translates_one t provider (blockWord t provider guest pc) pc n
    cases more with
    | false =>
      refine ⟨code ++ [], hemits.bind (emits_pure ()), ?_⟩
      intro host rax r9 r10 r11 f g ram rest
      have hrun := hruns host rax r9 r10 r11 f g ram rest
      obtain ⟨status, g', ram', heffect⟩ := hstops rfl g ram
      dsimp only
      rw [heffect] at hrun ⊢
      rw [List.append_nil]
      exact hrun
    | true =>
      by_cases hlast : remaining = 0
      · subst hlast
        have hfinish : Runs (finish (pc + 4#64) (n + 1#32) Status.next) fun g ram =>
            .stops Status.next (finished g (pc + 4#64) (n + 1#32)) ram :=
          fun _ _ _ _ _ _ _ _ _ => returned_finish _ _ _
        refine ⟨code ++ (finish (pc + 4#64) (n + 1#32) Status.next ++ []),
          hemits.bind ((emits_bytes _).bind (emits_pure ())), ?_⟩
        rw [List.append_nil]
        simpa only [if_true] using runs_append hruns hfinish
      · obtain ⟨code', hemits', hruns'⟩ := ih hlast (n + 1#32) (pc + 4#64)
        refine ⟨code ++ code', hemits.bind ?_, ?_⟩
        · simpa only [if_neg hlast, if_true] using hemits'
        · simpa only [if_neg hlast] using runs_append hruns hruns'

def blockEffect (t : Target) (provider : Bool) (guest : List Byte) (pc : U64) (limit : ℕ) :
    VfCpu → List Byte → Effect := effectFrom t provider guest limit 0#32 pc

lemma translateImpl_spec (code : Buffer) (t : Target) (provider : Bool) (guest : List Byte) (pc : U64) {limit : ℕ}
    (hlimit : limit ≠ 0) :
    ∃ block, Emits (translateFrom t provider guest limit 0#32 pc) () block ∧
      Runs block (blockEffect t provider guest pc limit) ∧
      (translateImpl code t provider guest pc limit).1 =
        (if code.capacity < block.length then Status.codeFull else Status.next) ∧
      (translateImpl code t provider guest pc limit).2.used = block.length ∧
      (translateImpl code t provider guest pc limit).2.capacity = code.capacity ∧
      (block.length ≤ code.capacity →
        (translateImpl code t provider guest pc limit).2.bytes.take block.length = block) := by
  obtain ⟨block, hemits, hruns⟩ := emits_block t provider guest hlimit 0#32 pc
  have hempty : Buffer.Holds { code with used := 0 } [] := ⟨rfl, fun _ => rfl⟩
  obtain ⟨-, ⟨hused, htake⟩, hcapacity⟩ := write_holds (hemits []) hempty
  rw [List.nil_append] at hused htake
  refine ⟨block, hemits, hruns, ?_, hused, hcapacity, fun hle => htake ?_⟩
  · unfold translateImpl
    dsimp only
    rw [hused, hcapacity]
    rfl
  · rw [hcapacity]
    exact hle

end Nextcore.Jit
