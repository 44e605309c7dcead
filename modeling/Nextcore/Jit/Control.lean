import Nextcore.Jit.Native
import Nextcore.Jit.Room

/-! The families whose code branches: the conditional forms, the ID registers and
the branches of the guest. -/

namespace Nextcore.Jit

open Cpu Emit X86

lemma emit_conditionFalse {cond : U32} (h : cond < 14#32) (bs : List Byte) :
    (conditionFalse cond).emit bs =
      some ((bs ++ ((conditionTest cond).1 ++ [0x0f#8, (conditionTest cond).2])).length,
        bs ++ ((conditionTest cond).1 ++ [0x0f#8, (conditionTest cond).2]) ++ le32 0#32) := by
  rw [conditionFalse, if_neg (BitVec.not_le.mpr h)]
  simp only [jcc, emit_bind, emit_bytes, emit_hole, Option.bind_some, List.append_assoc]

lemma emit_conditionFalse_always {cond : U32} (h : 14#32 ≤ cond) (bs : List Byte) :
    (conditionFalse cond).emit bs = some (0, bs) := by
  rw [conditionFalse, if_pos h]
  rfl

def conditionCode (cond : U32) (body other : List Byte) : List Byte :=
  if 14#32 ≤ cond then body
  else eitherCode ((conditionTest cond).1 ++ [0x0f#8, (conditionTest cond).2]) body [0xe9#8] other

lemma emits_condition (cond : U32) (body other : List Byte) {β : Type} {k : Unit → Emit β} {b : β}
    {tail : List Byte} (hk : Emits (k ()) b tail) :
    Emits (do
        let p ← conditionFalse cond
        bytes body
        if p ≠ 0 then do
          bytes [0xe9#8]
          let q ← hole
          fix p
          bytes other
          let r ← fix q
          k r
        else k ()) b (conditionCode cond body other ++ tail) := by
  intro bs
  rw [emit_bind, conditionCode]
  by_cases h : 14#32 ≤ cond
  · rw [emit_conditionFalse_always h, if_pos h]
    simp only [Option.bind_some, emit_bind, emit_bytes, ne_eq, not_true, if_false, hk _, List.append_assoc]
  · have hpos : (bs ++ ((conditionTest cond).1 ++ [0x0f#8, (conditionTest cond).2])).length ≠ 0 := by
      simp
    rw [emit_conditionFalse (BitVec.not_le.mp h), if_neg h, Option.bind_some, emit_bind, emit_bytes,
      Option.bind_some, if_pos hpos, emit_join _ _ _ rfl, hk, List.append_assoc]

section Conditions

variable {host : Host} {rax rcx rdx r8 r9 r10 r11 : Value} {f : Flags} {g : VfCpu} {ram rest : List Byte}

lemma conditionHolds_always {cond : U32} (h : 14#32 ≤ cond) (h16 : cond < 16#32) (pstate : U64) :
    conditionHolds pstate cond = true := by
  have hcases : cond = 14#32 ∨ cond = 15#32 := by
    bv_omega
  rcases hcases with rfl | rfl <;> rfl

lemma conditionTest_opcode {cond : U32} : (conditionTest cond).2 &&& 0xf0#8 = 0x80#8 := by
  by_cases hflag : cond >>> 1 < 4#32
  · simp only [conditionTest, if_pos hflag]
    split <;> decide
  by_cases hhigher : cond >>> 1 = 4#32
  · simp only [conditionTest, if_neg hflag, if_pos hhigher]
    split <;> decide
  · simp only [conditionTest, if_neg hflag, if_neg hhigher]
    split <;> decide

lemma run_conditionCode {cond : U32} (h16 : cond < 16#32) {body other : List Byte} (hbody : body.length < 1000)
    (hother : other.length < 1000) :
    ∃ (rax' r9' : Value) (f' : Flags) (after : List Byte),
      run (layout host) (conditionCode cond body other ++ rest) (entry rax r9 r10 r11 f g ram) =
        run (layout host) (if conditionHolds g.pstate cond then body ++ after else other ++ rest)
          (entry rax' r9' r10 r11 f' g ram) ∧
      ∀ m, run (layout host) after m = run (layout host) rest m := by
  unfold conditionCode
  by_cases h : 14#32 ≤ cond
  · rw [if_pos h, conditionHolds_always h h16]
    exact ⟨_, _, _, rest, rfl, fun _ => rfl⟩
  · rw [if_neg h]
    have hover : ∀ m, run (layout host) ([0xe9#8] ++ (le32 (BitVec.ofNat 32 other.length) ++ (other ++ rest))) m =
        run (layout host) rest m := fun m => run_over (by omega)
    obtain ⟨v, r9', f', hrun, -, htaken⟩ := @run_conditionTest host rax .ram (.word (BitVec.ofNat 64 ram.length))
        r9 r10 r11 f g ram ([0x0f#8, (conditionTest cond).2] ++ (le32 (BitVec.ofNat 32 (body.length + 1 + 4)) ++
        (body ++ ([0xe9#8] ++ (le32 (BitVec.ofNat 32 other.length) ++ (other ++ rest)))))) _ (BitVec.not_le.mp h)
    have hlength : (body ++ ([0xe9#8] ++ le32 (BitVec.ofNat 32 other.length))).length = body.length + 1 + 4 := by
      simp only [List.length_append, List.length_cons, List.length_nil, le32]
    have hskip := @run_skip host (other ++ rest) (entry (.word v) r9' r10 r11 f' g ram)
        (body ++ ([0xe9#8] ++ le32 (BitVec.ofNat 32 other.length))) _ (@conditionTest_opcode cond)
        (by rw [hlength]; omega) _ htaken
    rw [hlength] at hskip
    simp only [List.append_assoc] at hskip
    refine ⟨.word v, r9', f', [0xe9#8] ++ (le32 (BitVec.ofNat 32 other.length) ++ (other ++ rest)), ?_, hover⟩
    simp only [eitherCode, List.append_assoc, List.length_cons, List.length_nil]
    rw [hrun, hskip]
    cases conditionHolds g.pstate cond <;> rfl

lemma run_immOrLoad (p : Prop) [Decidable p] (v : U64) {reg : U32} (hreg : reg < 32#32) (wide : Bool) :
    run (layout host) ((if p then imm v else load reg false wide) ++ rest)
        ⟨rax, .guest, rdx, r8, r9, r10, r11, f, g, ram⟩ =
      run (layout host) rest ⟨.word (if p then v else low wide (memoryRegister g reg false)), .guest, rdx, r8, r9, r10,
        r11, if p then f else loadFlags reg false f, g, ram⟩ := by
  split
  · exact run_imm v
  · exact run_load hreg false wide

lemma run_flags_then {after : List Byte} (hafter : ∀ m, run (layout host) after m = run (layout host) rest m)
    (subtract : Bool) (op : AluOp) (wide : Bool) (x y : U64) :
    ∃ (rax' r9' r10' r11' : Value) (f' : Flags),
      run (layout host) (saveArithmeticFlags subtract ++ after)
          ⟨rax, .guest, rdx, r8, r9, r10, r11, aluFlags op wide x y, g, ram⟩ =
        run (layout host) rest ⟨rax', .guest, rdx, r8, r9', r10', r11', f',
          setNzcv g (guestFlags subtract op wide x y), ram⟩ := by
  obtain ⟨rax', r9', r10', r11', f', hrun⟩ := @run_flags host rax rdx r8 r9 r10 r11 g ram after subtract op wide x
      y
  exact ⟨rax', r9', r10', r11', f', hrun.trans (hafter _)⟩

end Conditions

def conditionOf (w : U32) : U32 := (w >>> 12) &&& 15#32

lemma and_fifteen_lt (x : U32) : x &&& 15#32 < 16#32 := by
  have h : (x &&& 15#32).toNat ≤ 15 := by
    rw [BitVec.toNat_and]
    exact Nat.and_le_right
  exact Nat.lt_succ_of_le h

lemma runs_next {code : List Byte} {result : VfCpu → VfCpu}
    (h : ∀ (host : Host) (rax r9 r10 r11 : Value) (f : Flags) (g : VfCpu) (ram rest : List Byte),
      ∃ (rax' r9' r10' r11' : Value) (f' : Flags),
        run (layout host) (code ++ rest) (entry rax r9 r10 r11 f g ram) =
          run (layout host) rest (entry rax' r9' r10' r11' f' (result g) ram)) :
    Runs code fun g ram => .next (result g) ram := h

def conditionalSelectResult (w : U32) (g : VfCpu) : VfCpu :=
  let wide := wideOf w
  let v := operandOf g (rmOf w) wide
  let v := if bitOf w 30 then low wide (~~~(low wide v)) else v
  let v := if bitOf w 10 then alu .add wide v 1#64 else v
  saved g (rdOf w) false (if conditionHolds g.pstate (conditionOf w) then operandOf g (rnOf w) wide else v)

lemma translates_conditionalSelect (w : U32) :
    Translates (conditionalSelect w) fun g ram => .next (conditionalSelectResult w g) ram := by
  refine ⟨_, true, emits_condition _ _ _ ((emits_bytes _).bind (emits_pure true)), runs_next ?_,
    fun h => nomatch h⟩
  intro host rax r9 r10 r11 f g ram rest
  have hn := length_load_le (rnOf w) false (wideOf w)
  have hother : (load (rmOf w) false (wideOf w) ++ (if bitOf w 30 = true then notRax (wideOf w) else []) ++
      (if bitOf w 10 = true then rex (wideOf w) ++ [0x83#8, 0xc0#8, 1#8] else [])).length < 1000 := by
    have hm := length_load_le (rmOf w) false (wideOf w)
    have hrex := length_rex_le (wideOf w)
    simp only [List.length_append, notRax]
    split <;> split <;> simp only [List.length_append, List.length_cons, List.length_nil] <;> omega
  obtain ⟨rax', r9', f', after, hrun, hafter⟩ := @run_conditionCode host rax r9 r10 r11 f g ram
      (save (rdOf w) false ++ ([] ++ rest)) _ (and_fifteen_lt (w >>> 12)) (load (rnOf w) false (wideOf w)) _
      (by omega) hother
  rw [List.append_assoc (conditionCode _ _ _), List.append_assoc (save _ _), hrun]
  unfold conditionalSelectResult conditionOf
  by_cases hc : conditionHolds g.pstate ((w >>> 12) &&& 15#32) = true
  · simp only [hc, if_true, run_load (rnOf_lt w), hafter, run_save (rdOf_lt w), List.nil_append]
    exact ⟨_, _, _, _, _, rfl⟩
  · simp only [hc, Bool.false_eq_true, if_false, List.append_assoc, run_load (rmOf_lt w), run_notIf,
      run_incrementIf, run_save (rdOf_lt w), List.nil_append]
    exact ⟨_, _, _, _, _, rfl⟩

def conditionalCompareResult (w : U32) (g : VfCpu) : VfCpu :=
  let wide := wideOf w
  let v := if bitOf w 11 then (rmOf w).zeroExtend 64 else operandOf g (rmOf w) wide
  setNzcv g (if conditionHolds g.pstate (conditionOf w) then
      guestFlags (bitOf w 30) (addSubOp (bitOf w 30)) wide (operandOf g (rnOf w) wide) v
    else (w &&& 15#32).zeroExtend 64 <<< 28)

lemma translates_conditionalCompare (w : U32) :
    Translates (conditionalCompare w) fun g ram => .next (conditionalCompareResult w g) ram := by
  refine ⟨_, true, emits_condition _ _ _ (k := fun _ => pure true) (emits_pure true), runs_next ?_,
    fun h => nomatch h⟩
  intro host rax r9 r10 r11 f g ram rest
  have hbody : ((if bitOf w 11 = true then imm ((rmOf w).zeroExtend 64) else load (rmOf w) false (wideOf w)) ++
      moveR9 ++ load (rnOf w) false (wideOf w) ++
      aluR9 (wideOf w) (if bitOf w 30 = true then 0x29#8 else 0x01#8) ++
      saveArithmeticFlags (bitOf w 30)).length < 1000 := by
    have hn := length_load_le (rnOf w) false (wideOf w)
    have hm := length_load_le (rmOf w) false (wideOf w)
    simp only [List.length_append, length_flags, moveR9, aluR9, List.length_cons, List.length_nil]
    split
    · rw [length_imm]
      omega
    · omega
  obtain ⟨rax', r9', f', after, hrun, hafter⟩ := @run_conditionCode host rax r9 r10 r11 f g ram ([] ++ rest) _
      (and_fifteen_lt (w >>> 12)) _ (imm ((w &&& 15#32).zeroExtend 64 <<< 28) ++ mergeFlags) hbody
      (show 34 < 1000 by decide)
  rw [List.append_assoc (conditionCode _ _ _), hrun]
  unfold conditionalCompareResult conditionOf
  by_cases hc : conditionHolds g.pstate ((w >>> 12) &&& 15#32) = true
  · simp only [hc, if_true, List.append_assoc, run_immOrLoad _ _ (rmOf_lt w), run_moveR9, run_load (rnOf_lt w),
      addSub_opcode, run_aluR9 (addSubOp_writes _)]
    exact run_flags_then hafter _ _ _ _ _
  · simp only [hc, Bool.false_eq_true, if_false, List.append_assoc, run_imm, run_mergeFlags, List.nil_append]
    exact ⟨_, _, _, _, _, rfl⟩

def idReadCode (w : U32) (pc : U64) (n : U32) : List Byte :=
  eitherCode ([0x83#8, 0xb9#8] ++ le32 Offset.currentEl ++ [1#8] ++ [0x0f#8, 0x85#8])
    ([0x48#8, 0x8b#8, 0x81#8] ++ le32 Offset.hcrEl2 ++ [0x48#8, 0x0b#8, 0x81#8] ++ le32 Offset.scrEl3)
    [0x0f#8, 0x84#8] (stop w pc n Status.systemRegisterTrap) ++ (imm (idValue w) ++ save (rdOf w) false)

lemma emits_idRead (w : U32) (pc : U64) (n : U32) : Emits (idRead w pc n) true (idReadCode w pc n) := by
  intro bs
  have hjoin := @emit_join _ _ ([0x83#8, 0xb9#8] ++ le32 Offset.currentEl ++ [1#8] ++ [0x0f#8, 0x85#8])
      ([0x48#8, 0x8b#8, 0x81#8] ++ le32 Offset.hcrEl2 ++ [0x48#8, 0x0b#8, 0x81#8] ++ le32 Offset.scrEl3) bs
      [0x0f#8, 0x84#8] (stop w pc n Status.systemRegisterTrap)
      (fun _ => do bytes (imm (idValue w) ++ save (rdOf w) false); pure true) rfl
  have hlast : Emits (do bytes (imm (idValue w) ++ save (rdOf w) false); pure true) true
      (imm (idValue w) ++ save (rdOf w) false) := by
    simpa only [List.append_nil] using
      (emits_bytes (imm (idValue w) ++ save (rdOf w) false)).bind (f := fun _ => pure true) (emits_pure true)
  rw [idReadCode, ← List.append_assoc bs, ← hlast, ← hjoin]
  simp only [idRead, jcc, emit_bind, emit_bytes, emit_hole, Option.bind_some, List.append_assoc]

def idReadEffect (w : U32) (pc : U64) (n : U32) (g : VfCpu) (ram : List Byte) : Effect :=
  if g.currentEl = 1#32 ∧ g.hcrEl2 ||| g.scrEl3 = 0#64 then .next (saved g (rdOf w) false (idValue w)) ram
  else .stops Status.systemRegisterTrap (finished { g with instruction := w } pc n) ram

section Branches

variable {host : Host} {rax rcx rdx r8 r9 r10 r11 : Value} {f : Flags} {g : VfCpu} {ram rest : List Byte}

lemma run_compareLevel :
    ∃ f' : Flags, run (layout host) ([0x83#8, 0xb9#8] ++ (le32 Offset.currentEl ++ ([1#8] ++ rest)))
        (entry rax r9 r10 r11 f g ram) = run (layout host) rest (entry rax r9 r10 r11 f' g ram) ∧
      condition f' 5 = some (!decide (g.currentEl = 1#32)) := by
  refine ⟨aluFlags .cmp false (g.currentEl.zeroExtend 64) 1#64, ?_, ?_⟩
  · exact run_execute (i := .aluImm .cmp .dword (.field Offset.currentEl) 1#64) rfl rfl
  · change some (!decide (((g.currentEl.zeroExtend 64).truncate 32 : U32) - 1#32 = 0#32)) = _
    have hzero : g.currentEl - 1#32 = 0#32 ↔ g.currentEl = 1#32 := by
      constructor <;> intro h <;> bv_omega
    rw [BitVec.truncate_eq_setWidth, BitVec.setWidth_setWidth_of_le _ (by decide), BitVec.setWidth_eq]
    simp only [hzero]

lemma run_loadControls :
    ∃ f' : Flags, run (layout host) ([0x48#8, 0x8b#8, 0x81#8] ++ (le32 Offset.hcrEl2 ++ ([0x48#8, 0x0b#8, 0x81#8] ++
          (le32 Offset.scrEl3 ++ rest)))) (entry rax r9 r10 r11 f g ram) =
        run (layout host) rest (entry (.word (g.hcrEl2 ||| g.scrEl3)) r9 r10 r11 f' g ram) ∧
      condition f' 4 = some (decide (g.hcrEl2 ||| g.scrEl3 = 0#64)) := by
  refine ⟨aluFlags .or true g.hcrEl2 g.scrEl3, ?_, rfl⟩
  refine (run_execute (i := .mov .qword (.reg .rax) (.field Offset.hcrEl2)) rfl rfl).trans ?_
  exact run_execute (i := .alu .or .qword (.reg .rax) (.field Offset.scrEl3)) rfl rfl

lemma returned_branchTo {cc : Byte} (hcc : cc &&& 0xf0#8 = 0x80#8) (taken pc : U64) (n : U32) {takes : Bool}
    (h : condition f (cc.toNat % 16) = some (!takes)) :
    returned (run (layout host) ([0x0f#8, cc] ++ (le32 (BitVec.ofNat 32 34) ++ (finish taken (n + 1#32) Status.next ++
        (finish (pc + 4#64) (n + 1#32) Status.next ++ rest)))) (entry rax r9 r10 r11 f g ram)) =
      some (Status.next, finished g (if takes then taken else pc + 4#64) (n + 1#32), ram) := by
  have hskip := @run_skip host (finish (pc + 4#64) (n + 1#32) Status.next ++ rest) (entry rax r9 r10 r11 f g ram)
      (finish taken (n + 1#32) Status.next) _ hcc (show 34 < 2 ^ 31 by decide) _ h
  rw [length_finish] at hskip
  rw [hskip]
  cases takes
  · exact returned_finish _ _ _
  · exact returned_finish _ _ _

lemma run_testBit {bit : U32} (hbit : bit < 64#32) {a : U64} :
    ∃ f' : Flags, run (layout host) (rex (32#32 ≤ bit) ++ ([0x0f#8, 0xba#8, 0xe0#8, bit.truncate 8] ++ rest))
        (entry (.word (low (32#32 ≤ bit) a)) r9 r10 r11 f g ram) =
        run (layout host) rest (entry (.word (low (32#32 ≤ bit) a)) r9 r10 r11 f' g ram) ∧
      condition f' 2 = some (a.getLsbD bit.toNat) ∧ condition f' 3 = some (!a.getLsbD bit.toNat) := by
  have hlow : bit.toNat < 64 := hbit
  have hbyte : (bit.truncate 8 : Byte).toNat = bit.toNat := by
    rw [BitVec.truncate_eq_setWidth, BitVec.toNat_setWidth]
    omega
  have hd : decode (rex (32#32 ≤ bit) ++ ([0x0f#8, 0xba#8, 0xe0#8, bit.truncate 8] ++ rest)) =
      some (.bt (sizeOf (32#32 ≤ bit)) (.reg .rax) bit.toNat, rest) := by
    rw [← hbyte]
    cases decide (32#32 ≤ bit) <;> rfl
  have hvalue : (low (32#32 ≤ bit) (low (32#32 ≤ bit) a)).getLsbD
      (bit.toNat % (8 * (sizeOf (32#32 ≤ bit)).bytes)) = a.getLsbD bit.toNat := by
    rw [low_low]
    by_cases hwide : 32#32 ≤ bit
    · rw [decide_eq_true hwide]
      change a.getLsbD (bit.toNat % 64) = _
      rw [Nat.mod_eq_of_lt hlow]
    · have h32 : bit.toNat < 32 := BitVec.not_le.mp hwide
      rw [decide_eq_false hwide]
      change (BitVec.zeroExtend 64 (a.truncate 32 : U32)).getLsbD (bit.toNat % 32) = _
      rw [Nat.mod_eq_of_lt h32]
      simp [h32, hlow]
  refine ⟨{ Flags.undefined with cf := some (a.getLsbD bit.toNat) }, ?_, rfl, rfl⟩
  refine (run_execute hd (n := entry (.word (low (32#32 ≤ bit) a)) r9 r10 r11
    { Flags.undefined with cf := some (a.getLsbD bit.toNat) } g ram) ?_)
  rw [← hvalue]
  rfl

lemma run_testZero {a : U64} :
    ∃ f' : Flags, run (layout host) ([0x48#8, 0x85#8, 0xc0#8] ++ rest) (entry (.word a) r9 r10 r11 f g ram) =
        run (layout host) rest (entry (.word a) r9 r10 r11 f' g ram) ∧
      condition f' 4 = some (decide (a = 0#64)) ∧ condition f' 5 = some (!decide (a = 0#64)) := by
  refine ⟨aluFlags .test true a a, run_execute (i := .alu .test .qword (.reg .rax) (.reg .rax)) rfl rfl, ?_, ?_⟩
  · change some (decide (a &&& a = 0#64)) = _
    rw [BitVec.and_self]
  · change some (!decide (a &&& a = 0#64)) = _
    rw [BitVec.and_self]

end Branches

lemma translates_idRead (w : U32) (pc : U64) (n : U32) : Translates (idRead w pc n) (idReadEffect w pc n) := by
  refine ⟨_, true, emits_idRead w pc n, ?_, fun h => nomatch h⟩
  intro host rax r9 r10 r11 f g ram rest
  let controls : List Byte := [0x48#8, 0x8b#8, 0x81#8] ++ (le32 Offset.hcrEl2 ++ ([0x48#8, 0x0b#8, 0x81#8] ++
    (le32 Offset.scrEl3 ++ ([0x0f#8, 0x84#8] ++ le32 (BitVec.ofNat 32 44)))))
  let allowed := imm (idValue w) ++ (save (rdOf w) false ++ rest)
  obtain ⟨f1, hlevel, hc1⟩ := @run_compareLevel host rax r9 r10 r11 f g ram ([0x0f#8, 0x85#8] ++ (le32
      (BitVec.ofNat 32 controls.length) ++ (controls ++ (stop w pc n Status.systemRegisterTrap ++ allowed))))
  obtain ⟨f2, hcontrols, hc2⟩ := @run_loadControls host rax r9 r10 r11 f1 g ram ([0x0f#8, 0x84#8] ++ (le32
      (BitVec.ofNat 32 (stop w pc n Status.systemRegisterTrap).length) ++ (stop w pc n Status.systemRegisterTrap
      ++ allowed)))
  have hbad := @run_skip host (stop w pc n Status.systemRegisterTrap ++ allowed) (entry rax r9 r10 r11 f1 g ram)
      controls 0x85#8 rfl (show 20 < 2 ^ 31 by decide) _ hc1
  have hallowed := @run_skip host allowed (entry (.word (g.hcrEl2 ||| g.scrEl3)) r9 r10 r11 f2 g ram)
      (stop w pc n Status.systemRegisterTrap) 0x84#8 rfl (show 44 < 2 ^ 31 by decide) _ hc2
  have hcode : idReadCode w pc n ++ rest = [0x83#8, 0xb9#8] ++ (le32 Offset.currentEl ++ ([1#8] ++ ([0x0f#8, 0x85#8] ++
      (le32 (BitVec.ofNat 32 controls.length) ++ (controls ++ (stop w pc n Status.systemRegisterTrap ++ allowed)))))) := by
    simp only [idReadCode, eitherCode, controls, allowed, List.append_assoc, length_stop]
    rfl
  rw [hcode, hlevel, hbad]
  unfold idReadEffect
  by_cases h1 : g.currentEl = 1#32
  · have hsplit : controls ++ (stop w pc n Status.systemRegisterTrap ++ allowed) = [0x48#8, 0x8b#8, 0x81#8] ++
        (le32 Offset.hcrEl2 ++ ([0x48#8, 0x0b#8, 0x81#8] ++ (le32 Offset.scrEl3 ++ ([0x0f#8, 0x84#8] ++
        (le32 (BitVec.ofNat 32 (stop w pc n Status.systemRegisterTrap).length) ++
        (stop w pc n Status.systemRegisterTrap ++ allowed)))))) := rfl
    rw [decide_eq_true h1, if_neg (show ¬(!true) = true by decide), hsplit, hcontrols, hallowed]
    by_cases h2 : g.hcrEl2 ||| g.scrEl3 = 0#64
    · rw [if_pos ⟨h1, h2⟩, if_pos (decide_eq_true h2)]
      simp only [allowed, run_imm, run_save (rdOf_lt w)]
      exact ⟨_, _, _, _, _, rfl⟩
    · rw [if_neg (fun h => h2 h.2), if_neg (show ¬decide (g.hcrEl2 ||| g.scrEl3 = 0#64) = true by simpa using h2)]
      exact returned_stop _ _ _ _
  · rw [decide_eq_false h1, if_pos (show (!false) = true from rfl), if_neg (fun h => h1 h.1)]
    exact returned_stop _ _ _ _

lemma emits_branchTo {m : Emit ℕ} {head : List Byte}
    (hm : ∀ bs, m.emit bs = some ((bs ++ head).length, bs ++ head ++ le32 0#32)) (taken pc : U64) (n : U32) :
    Emits (do let fall ← m; branchTo taken pc n fall) false
      (head ++ (le32 (BitVec.ofNat 32 34) ++ (finish taken (n + 1#32) Status.next ++
        finish (pc + 4#64) (n + 1#32) Status.next))) := by
  intro bs
  rw [emit_bind, hm]
  simp only [branchTo, Option.bind_some, emit_bind, emit_bytes]
  rw [emit_fix rfl rfl, Option.bind_some, length_finish]
  change some (false, _) = _
  simp only [List.append_assoc]

def branchEffect (taken pc : U64) (n : U32) (takes : VfCpu → Bool) (g : VfCpu) (ram : List Byte) : Effect :=
  .stops Status.next (finished g (if takes g then taken else pc + 4#64) (n + 1#32)) ram

def conditionalTarget (w : U32) (pc : U64) : U64 := pc + sext ((w >>> 5) &&& 0x7ffff#32) 19 * 4#64

lemma translates_conditionalBranch (w : U32) (pc : U64) (n : U32) :
    Translates (conditionalBranch w pc n)
      (branchEffect (conditionalTarget w pc) pc n fun g => conditionHolds g.pstate (w &&& 15#32)) := by
  unfold conditionalBranch
  dsimp only
  split
  next halways =>
    refine ⟨_, false, (emits_bytes _).bind (emits_pure false), ?_, fun _ g ram => ⟨_, _, _, rfl⟩⟩
    intro host rax r9 r10 r11 f g ram rest
    rw [List.append_nil, branchEffect, conditionHolds_always halways (and_fifteen_lt w), if_pos rfl]
    exact returned_finish _ _ _
  next h =>
    have hcond := BitVec.not_le.mp h
    refine ⟨_, false, emits_branchTo (emit_conditionFalse hcond) _ _ _, ?_, fun _ g ram => ⟨_, _, _, rfl⟩⟩
    intro host rax r9 r10 r11 f g ram rest
    obtain ⟨v, r9', f', hrun, -, htaken⟩ := @run_conditionTest host rax .ram (.word (BitVec.ofNat 64 ram.length))
        r9 r10 r11 f g ram ([0x0f#8, (conditionTest (w &&& 15#32)).2] ++ (le32 (BitVec.ofNat 32 34) ++ (finish
        (conditionalTarget w pc) (n + 1#32) Status.next ++ (finish (pc + 4#64) (n + 1#32) Status.next ++ rest))))
        _ hcond
    simp only [List.append_assoc]
    exact (congrArg returned hrun).trans (returned_branchTo conditionTest_opcode _ _ _ htaken)

def testedBit (w : U32) : U32 := ((w >>> 26) &&& 32#32) ||| ((w >>> 19) &&& 31#32)

lemma testedBit_lt (w : U32) : testedBit w < 64#32 := by
  have h : testedBit w = testedBit w &&& 63#32 := by
    unfold testedBit
    rw [BitVec.and_comm (_ ||| _), BitVec.and_or_distrib_left]
    congr 1
    · rw [← BitVec.and_assoc, BitVec.and_comm 63#32, BitVec.and_assoc]
      rfl
    · rw [← BitVec.and_assoc, BitVec.and_comm 63#32, BitVec.and_assoc]
      rfl
  have hle : (testedBit w &&& 63#32).toNat ≤ 63 := by
    rw [BitVec.toNat_and]
    exact Nat.and_le_right
  rw [h]
  exact Nat.lt_succ_of_le hle

def testTarget (w : U32) (pc : U64) : U64 := pc + sext ((w >>> 5) &&& 0x3fff#32) 14 * 4#64

def testTakes (w : U32) (g : VfCpu) : Bool :=
  (memoryRegister g (rdOf w) false).getLsbD (testedBit w).toNat == bitOf w 24

lemma emits_jccBranch (head : List Byte) (cc : Byte) (taken pc : U64) (n : U32) :
    Emits (do bytes head; let fall ← jcc cc; branchTo taken pc n fall) false
      (head ++ [0x0f#8, cc] ++ (le32 (BitVec.ofNat 32 34) ++ (finish taken (n + 1#32) Status.next ++
        finish (pc + 4#64) (n + 1#32) Status.next))) := by
  intro bs
  have hjcc : ∀ bs, Emit.emit (jcc cc) bs = some ((bs ++ [0x0f#8, cc]).length, bs ++ [0x0f#8, cc] ++ le32 0#32) := by
    intro bs
    simp only [jcc, emit_bind, emit_bytes, emit_hole, Option.bind_some]
  rw [emit_bind, emit_bytes, Option.bind_some, emits_branchTo hjcc]
  simp only [List.append_assoc]

lemma translates_testBranch (w : U32) (pc : U64) (n : U32) :
    Translates (testBranch w pc n) (branchEffect (testTarget w pc) pc n (testTakes w)) := by
  refine ⟨_, false, emits_jccBranch _ _ _ _ _, ?_, fun _ g ram => ⟨_, _, _, rfl⟩⟩
  intro host rax r9 r10 r11 f g ram rest
  change returned _ = some (Status.next, finished g (if testTakes w g then testTarget w pc else pc + 4#64)
    (n + 1#32), ram)
  obtain ⟨f', hrun, hset, hclear⟩ := @run_testBit host r9 r10 r11 (loadFlags (rdOf w) false f) g ram ([0x0f#8, if
      bitOf w 24 = true then 0x83#8 else 0x82#8] ++ (le32 (BitVec.ofNat 32 34) ++ (finish (testTarget w pc) (n +
      1#32) Status.next ++ (finish (pc + 4#64) (n + 1#32) Status.next ++ rest)))) _ (testedBit_lt w)
      (memoryRegister g (rdOf w) false)
  simp only [List.append_assoc, run_load (rdOf_lt w)]
  refine (congrArg returned hrun).trans ?_
  cases h24 : bitOf w 24 with
  | true =>
    refine @returned_branchTo _ _ _ _ _ _ _ _ _ _ rfl _ _ _ (testTakes w g) (hclear.trans ?_)
    simp [testTakes, h24]
  | false =>
    refine @returned_branchTo _ _ _ _ _ _ _ _ _ _ rfl _ _ _ (testTakes w g) (hset.trans ?_)
    simp [testTakes, h24]

def compareTakes (w : U32) (g : VfCpu) : Bool :=
  decide (operandOf g (rdOf w) (wideOf w) = 0#64) == !bitOf w 24

lemma translates_compareBranch (w : U32) (pc : U64) (n : U32) :
    Translates (compareBranch w pc n) (branchEffect (conditionalTarget w pc) pc n (compareTakes w)) := by
  refine ⟨_, false, emits_jccBranch _ _ _ _ _, ?_, fun _ g ram => ⟨_, _, _, rfl⟩⟩
  intro host rax r9 r10 r11 f g ram rest
  change returned _ = some (Status.next, finished g (if compareTakes w g then conditionalTarget w pc else pc + 4#64)
    (n + 1#32), ram)
  obtain ⟨f', hrun, hzero, hnonzero⟩ := @run_testZero host r9 r10 r11 (loadFlags (rdOf w) false f) g ram ([0x0f#8,
      if bitOf w 24 = true then 0x84#8 else 0x85#8] ++ (le32 (BitVec.ofNat 32 34) ++ (finish (conditionalTarget w
      pc) (n + 1#32) Status.next ++ (finish (pc + 4#64) (n + 1#32) Status.next ++ rest))))
      (low (wideOf w) (memoryRegister g (rdOf w) false))
  simp only [List.append_assoc, run_load (rdOf_lt w)]
  refine (congrArg returned hrun).trans ?_
  cases h24 : bitOf w 24 with
  | true =>
    refine @returned_branchTo _ _ _ _ _ _ _ _ _ _ rfl _ _ _ (compareTakes w g) (hzero.trans ?_)
    by_cases hv : low (wideOf w) (memoryRegister g (rdOf w) false) = 0#64 <;>
      simp [compareTakes, h24, operandOf, hv]
  | false =>
    refine @returned_branchTo _ _ _ _ _ _ _ _ _ _ rfl _ _ _ (compareTakes w g) (hnonzero.trans ?_)
    by_cases hv : low (wideOf w) (memoryRegister g (rdOf w) false) = 0#64 <;>
      simp [compareTakes, h24, operandOf, hv]

lemma translates_ends {code : List Byte} {effect : VfCpu → List Byte → Effect} (hruns : Runs code effect)
    (hstops : ∀ g ram, ∃ status g' ram', effect g ram = .stops status g' ram') : Translates (ends code) effect := by
  refine ⟨code ++ [], false, (emits_bytes code).bind (emits_pure false), ?_, fun _ => hstops⟩
  rwa [List.append_nil]

def stopEffect (w : U32) (pc : U64) (n status : U32) (g : VfCpu) (ram : List Byte) : Effect :=
  .stops status (finished { g with instruction := w } pc n) ram

lemma translates_stop (w : U32) (pc : U64) (n status : U32) :
    Translates (ends (stop w pc n status)) (stopEffect w pc n status) :=
  translates_ends (fun _ _ _ _ _ _ _ _ _ => returned_stop w pc n status) fun _ _ => ⟨_, _, _, rfl⟩

def straightEffect (w : U32) (pc : U64) (n : U32) : Option (VfCpu → VfCpu) → VfCpu → List Byte → Effect
  | none => stopEffect w pc n Status.undefinedInstruction
  | some result => fun g ram => .next (result g) ram

lemma translates_straight {code : Option (List Byte)} {result : Option (VfCpu → VfCpu)} (h : Computes code result)
    (w : U32) (pc : U64) (n : U32) : Translates (straight w pc n code) (straightEffect w pc n result) := by
  match code, result, h with
  | none, none, _ => exact translates_stop w pc n Status.undefinedInstruction
  | some code, some result, h =>
    refine ⟨code ++ [], true, (emits_bytes code).bind (emits_pure true), ?_, fun h => nomatch h⟩
    rwa [List.append_nil]

def branchResult (w : U32) (pc : U64) (n : U32) (g : VfCpu) (ram : List Byte) : Effect :=
  .stops Status.next (finished (if w >>> 31 ≠ 0#32 then g.setX 30#32 (pc + 4#64) else g)
    (pc + sext (w &&& 0x3ffffff#32) 26 * 4#64) (n + 1#32)) ram

lemma runs_branch (w : U32) (pc : U64) (n : U32) : Runs (branch w pc n) (branchResult w pc n) := by
  intro host rax r9 r10 r11 f g ram rest
  change returned _ = some (Status.next, finished (if w >>> 31 ≠ 0#32 then g.setX 30#32 (pc + 4#64) else g)
    (pc + sext (w &&& 0x3ffffff#32) 26 * 4#64) (n + 1#32), ram)
  unfold branch
  by_cases hlink : w >>> 31 ≠ 0#32
  · rw [if_pos hlink, if_pos hlink, List.append_assoc, run_field (write64_slot (by decide) g (pc + 4#64))]
    exact returned_finish _ _ _
  · rw [if_neg hlink, if_neg hlink, List.nil_append]
    exact returned_finish _ _ _

def branchRegisterResult (w : U32) (pc : U64) (n : U32) (g : VfCpu) (ram : List Byte) : Effect :=
  if rnOf w = 31#32 then stopEffect w pc n Status.undefinedInstruction g ram
  else .stops Status.next (finished (if w &&& 0xfffffc1f#32 = 0xd63f0000#32 then g.setX 30#32 (pc + 4#64) else g)
    (memoryRegister g (rnOf w) false) (n + 1#32)) ram

lemma runs_branchRegister (w : U32) (pc : U64) (n : U32) :
    Runs (branchRegister w pc n) (branchRegisterResult w pc n) := by
  intro host rax r9 r10 r11 f g ram rest
  unfold branchRegister branchRegisterResult
  by_cases h31 : rnOf w = 31#32
  · rw [if_pos h31, if_pos h31]
    exact returned_stop _ _ _ _
  · rw [if_neg h31, if_neg h31]
    have hjump : ∀ (g : VfCpu) (v : U64) (rax : Value) (f : Flags), returned (run (layout host)
        ([0x4c#8, 0x89#8, 0x89#8] ++ (le32 Offset.pc ++ (retire (n + 1#32) Status.next ++ rest)))
        (entry rax (.word v) r10 r11 f g ram)) = some (Status.next, finished g v (n + 1#32), ram) := by
      intro g v rax f
      rw [run_execute (i := .mov .qword (.field Offset.pc) (.reg .r9)) (n := entry rax (.word v) r10 r11 f
        { g with pc := v } ram) rfl rfl]
      exact returned_retire _ _
    change returned _ = some (Status.next, _, ram)
    simp only [List.append_assoc, run_load (rnOf_lt w), run_moveR9]
    by_cases hlink : w &&& 0xfffffc1f#32 = 0xd63f0000#32
    · rw [if_pos hlink, if_pos hlink, run_field (write64_slot (by decide) g (pc + 4#64))]
      exact hjump _ _ _ _
    · rw [if_neg hlink, if_neg hlink, List.nil_append]
      exact hjump _ _ _ _

lemma branchRegisterResult_stops (w : U32) (pc : U64) (n : U32) (g : VfCpu) (ram : List Byte) :
    ∃ status g' ram', branchRegisterResult w pc n g ram = .stops status g' ram' := by
  unfold branchRegisterResult
  split
  · exact ⟨_, _, _, rfl⟩
  · exact ⟨_, _, _, rfl⟩

end Nextcore.Jit
