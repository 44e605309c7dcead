import Nextcore.Jit.Memory

/-! What an inline load or store does, and that its code does it. -/

namespace Nextcore.Jit

open Cpu Emit X86 Bytes

def accessAddress (g : VfCpu) (shape : MemoryShape) : U64 :=
  let base := memoryRegister g shape.rn true
  if shape.mode = 1#32 then base else base + memoryOffset g shape

def secondOutside (base size address : U64) (width : U32) : Bool :=
  address.uaddOverflow (width.zeroExtend 64) = true ∨ size < (2#32 * width).zeroExtend 64 ∨
    size - width.zeroExtend 64 - width.zeroExtend 64 < address - base

def accessFault (t : Target) (shape : MemoryShape) (g : VfCpu) (size : U64) : Option (Block × U64) :=
  let base := memoryRegister g shape.rn true
  let address := accessAddress g shape
  if checksSp t shape.rn = true ∧ base &&& 15#64 ≠ 0#64 then some (.spAlignment, base)
  else if address &&& (shape.width - 1#32).zeroExtend 64 ≠ 0#64 then some (.alignment, address)
  else if inRam t.base size address shape.width = false then some (.data, address)
  else if shape.count = 2#32 ∧ secondOutside t.base size address shape.width = true then
    some (.data, address + shape.width.zeroExtend 64)
  else none

def loadedAt (g : VfCpu) (shape : MemoryShape) (i : ℕ) (ram : List Byte) : VfCpu :=
  loadData g shape (loadLe ram i shape.width.toNat)
    (if shape.count = 2#32 then loadLe ram (i + shape.width.toNat) shape.width.toNat else 0#64)

def storedAt (g : VfCpu) (shape : MemoryShape) (i : ℕ) (ram : List Byte) : List Byte :=
  if shape.read then ram else
  let ram := storeLe ram i shape.width.toNat (memoryRegister g shape.rt false)
  if shape.count = 2#32 then
    storeLe ram (i + shape.width.toNat) shape.width.toNat (memoryRegister g shape.rt2 false)
  else ram

def accessEffect (t : Target) (shape : MemoryShape) (pc : U64) (n : U32) (g : VfCpu) (ram : List Byte) : Effect :=
  match accessFault t shape g (BitVec.ofNat 64 ram.length) with
  | some (block, far) => .stops block.status (finished { g with far := far } pc n) ram
  | none =>
    let i := (accessAddress g shape - t.base).toNat
    .next (writeBase (loadedAt g shape i ram) shape (memoryRegister g shape.rn true + memoryOffset g shape))
      (storedAt g shape i ram)

def inlineEffect (t : Target) (w : U32) (pc : U64) (n : U32) (g : VfCpu) (ram : List Byte) : Effect :=
  let g := { g with instruction := w }
  match decodeMemory w with
  | none => .stops Status.undefinedInstruction (finished g pc n) ram
  | some shape =>
    if outsideRegime t then .stops Status.systemRegisterTrap (finished g pc n) ram
    else accessEffect t shape pc n g ram

section Address

variable {host : Host} {rax r8 r9 r10 r11 : Value} {f : Flags} {g : VfCpu} {ram : List Byte} {a : U64} {label : Block}
  {code : List Byte} {mask : Byte} {m : Machine VfCpu}

lemma falls_tested (hcode : ∀ rest, run (layout host) (code ++ rest) m =
      run (layout host) rest ⟨.word a, .guest, .ram, r8, r9, r10, r11, testFlags a mask, g, ram⟩)
    (h : a &&& mask.zeroExtend 64 = 0#64) :
    Falls (layout host) [.code code, .guard 0x85#8 label] m
      ⟨.word a, .guest, .ram, r8, r9, r10, r11, testFlags a mask, g, ram⟩ :=
  .code hcode (.pass rfl ((condition_testFlags a mask).trans (by rw [decide_eq_true h]; rfl)) _ falls_nil)

lemma jumps_tested (hcode : ∀ rest, run (layout host) (code ++ rest) m =
      run (layout host) rest ⟨.word a, .guest, .ram, r8, r9, r10, r11, testFlags a mask, g, ram⟩)
    (h : a &&& mask.zeroExtend 64 ≠ 0#64) :
    Jumps (layout host) [.code code, .guard 0x85#8 label] m label
      ⟨.word a, .guest, .ram, r8, r9, r10, r11, testFlags a mask, g, ram⟩ :=
  .code hcode (.take rfl ((condition_testFlags a mask).trans (by rw [decide_eq_false h]; rfl)) _)

lemma signed_index (v : U64) :
    ((v.truncate 32 : U32).signExtend 64 : U64) =
      let low := (v.truncate 32 : U32).zeroExtend 64
      if low &&& (1#64 <<< 31) ≠ 0#64 then low ||| 0xffffffff00000000#64 else low := by
  have hbit : (v.truncate 32 : U32).zeroExtend 64 &&& (1#64 <<< 31) ≠ 0#64 ↔ (v.truncate 32 : U32).msb = true := by
    rw [show (1#64 <<< 31) = BitVec.twoPow 64 31 from rfl, BitVec.and_twoPow, BitVec.msb_eq_getLsbD_last]
    have hget : ((v.truncate 32 : U32).zeroExtend 64 : U64).getLsbD 31 = (v.truncate 32 : U32).getLsbD 31 := by
      simp
    rw [hget]
    cases (v.truncate 32 : U32).getLsbD 31 <;> decide
  dsimp only
  by_cases hmsb : (v.truncate 32 : U32).msb = true
  · rw [if_pos (hbit.mpr hmsb), show 0xffffffff00000000#64 = BitVec.allOnes 64 <<< 32 from by decide]
    apply BitVec.eq_of_getLsbD_eq
    intro i hi
    rw [BitVec.getLsbD_signExtend, BitVec.getLsbD_or, BitVec.getLsbD_shiftLeft, BitVec.getLsbD_allOnes, hmsb,
      BitVec.truncate_eq_setWidth, BitVec.getLsbD_setWidth]
    by_cases h32 : i < 32
    · simp [hi, h32]
    · simp [hi, h32, show i - 32 < 64 by omega]
  · rw [if_neg (fun h => hmsb (hbit.mp h)),
      BitVec.signExtend_eq_setWidth_of_msb_false (Bool.eq_false_iff.mpr hmsb)]

end Address

structure MemoryShape.Coded (shape : MemoryShape) : Prop where
  rn : shape.rn < 32#32
  rt : shape.rt < 32#32
  rt2 : shape.rt2 < 32#32
  rm : shape.rm < 32#32
  shift : shape.shift.toNat < 64
  indexed : shape.registerOffset = true → shape.mode = 2#32

def scalarForms : List (U32 × Bool × Bool) :=
  [(1#32, false, false), (2#32, false, false), (4#32, false, false), (8#32, false, true), (1#32, true, true),
    (2#32, true, true), (4#32, true, true), (1#32, true, false), (2#32, true, false)]

lemma decodePair_coded {w : U32} {shape : MemoryShape} (h : decodePair w = some shape) :
    shape.Coded ∧ shape.count = 2#32 ∧ shape.signedLoad = false ∧ shape.registerOffset = false ∧
      (shape.width = 8#32 ∧ shape.result64 = true ∨ shape.width = 4#32 ∧ shape.result64 = false) := by
  unfold decodePair at h
  dsimp only at h
  split at h
  · cases h
  cases h
  refine ⟨⟨and_lt _, and_lt _, and_lt _, show 0#32 < 32#32 by decide, show 0 < 64 by decide, fun h => nomatch h⟩, rfl,
    rfl, rfl, ?_⟩
  by_cases hopc : w >>> 30 = 2#32
  · exact .inl ⟨if_pos hopc, decide_eq_true hopc⟩
  · exact .inr ⟨if_neg hopc, decide_eq_false hopc⟩

lemma registerOffset_not_writeback {w : U32} (h : registerOffsetFamily w = true) : scalarWritebackFamily w = false := by
  simp only [registerOffsetFamily, scalarWritebackFamily, decide_eq_true_eq, decide_eq_false_iff_not] at *
  intro hw
  have h10 := congrArg (BitVec.getLsbD · 10) h
  have hw10 := congrArg (BitVec.getLsbD · 10) hw
  simp only [BitVec.getLsbD_and] at h10 hw10
  rw [show (0x3b200c00#32).getLsbD 10 = true from rfl, Bool.and_true] at h10
  rw [show (0x3b200400#32).getLsbD 10 = true from rfl, Bool.and_true, h10] at hw10
  exact absurd hw10 (by decide)

lemma opc_cases (w : U32) : (w >>> 22) &&& 3#32 = 0#32 ∨ (w >>> 22) &&& 3#32 = 1#32 ∨ (w >>> 22) &&& 3#32 = 2#32 ∨
    (w >>> 22) &&& 3#32 = 3#32 := by
  have h : ((w >>> 22) &&& 3#32).toNat ≤ 3 := by
    rw [BitVec.toNat_and]
    exact Nat.and_le_right
  generalize (w >>> 22) &&& 3#32 = x at h
  bv_omega

lemma decodeScalar_coded {w : U32} {shape : MemoryShape} (h : decodeScalar w = some shape) :
    shape.Coded ∧ shape.count = 1#32 ∧ (shape.read = false → shape.signedLoad = false) ∧
      (shape.width, shape.signedLoad, shape.result64) ∈ scalarForms := by
  unfold decodeScalar at h
  dsimp only at h
  split at h
  · cases h
  split at h
  · cases h
  rename_i hforms
  split at h
  · cases h
  cases h
  have hsize := size_cases w
  refine ⟨⟨and_lt _, and_lt _, show 0#32 < 32#32 by decide, ?_, ?_, ?_⟩, rfl, ?_, ?_⟩
  · dsimp only
    split
    · exact and_lt _
    · decide
  · dsimp only
    split
    · rcases hsize with h | h | h | h <;> rw [h] <;> decide
    · decide
  · intro hoffset
    exact if_neg (by rw [registerOffset_not_writeback hoffset]; decide)
  · dsimp only
    rcases opc_cases w with h | h | h | h <;> rw [h] <;> decide
  · dsimp only
    rcases hsize with h | h | h | h <;> rcases opc_cases w with h' | h' | h' | h' <;> rw [h, h'] at hforms ⊢ <;>
      first | decide | exact absurd (.inr (by decide)) hforms

section Address

variable {host : Host} {rax r8 r9 r10 r11 : Value} {f : Flags} {g : VfCpu} {ram : List Byte} {a : U64}

lemma run_displacement {shape : MemoryShape} (hoffset : shape.registerOffset = false) :
    ∃ f' : Flags, ∀ rest, run (layout host) ((if shape.mode ≠ 1#32 then addRax shape.displacement else []) ++ rest)
        ⟨.word (memoryRegister g shape.rn true), .guest, .ram, r8, r9, r10, r11, f, g, ram⟩ =
      run (layout host) rest ⟨.word (accessAddress g shape), .guest, .ram, r8, r9, r10, r11, f', g, ram⟩ := by
  unfold accessAddress
  dsimp only
  by_cases hmode : shape.mode = 1#32
  · refine ⟨f, fun rest => ?_⟩
    rw [if_neg (not_not.mpr hmode), if_pos hmode, List.nil_append]
  · refine ⟨aluFlags .add true (memoryRegister g shape.rn true) (shape.displacement.signExtend 64), fun rest => ?_⟩
    rw [if_pos hmode, if_neg hmode, run_addRax, memoryOffset, if_pos hoffset]

lemma index_value (option : U32) (v : U64) :
    (if option = 6#32 then ((low (option &&& 1#32 ≠ 0#32) v).truncate 32 : U32).signExtend 64
      else low (option &&& 1#32 ≠ 0#32) v) =
    if option &&& 1#32 = 0#32 then
      let low := (v.truncate 32 : U32).zeroExtend 64
      if option = 6#32 ∧ low &&& (1#64 <<< 31) ≠ 0#64 then low ||| 0xffffffff00000000#64 else low
    else v := by
  by_cases hsix : option = 6#32
  · subst hsix
    have hlow : ((low (decide ((6#32) &&& 1#32 ≠ 0#32)) v).truncate 32 : U32) = v.truncate 32 := truncate_low v
    simp only [hlow, signed_index, if_true, true_and]
    rfl
  · by_cases hodd : option &&& 1#32 = 0#32
    · simp only [hsix, hodd, if_false, if_true, false_and, ne_eq, not_true, decide_false]
      rfl
    · simp only [hsix, hodd, if_false, ne_eq, not_false_eq_true, decide_true]
      rfl

lemma run_signExtendIf (p : Prop) [Decidable p] {rest : List Byte} :
    run (layout host) ((if p then [0x48#8, 0x63#8, 0xc0#8] else []) ++ rest)
        ⟨.word a, .guest, .ram, r8, r9, r10, r11, f, g, ram⟩ =
      run (layout host) rest ⟨.word (if p then (a.truncate 32 : U32).signExtend 64 else a), .guest, .ram, r8, r9, r10,
        r11, f, g, ram⟩ := by
  split
  · exact run_signExtend
  · rfl

lemma run_index {shape : MemoryShape} (hcoded : shape.Coded) (hoffset : shape.registerOffset = true) :
    ∃ f' : Flags, ∀ rest, run (layout host) (moveR11 ++ (load shape.rm false (shape.option &&& 1#32 ≠ 0#32) ++
        ((if shape.option = 6#32 then [0x48#8, 0x63#8, 0xc0#8] else []) ++
        ((if shape.shift ≠ 0#32 then shiftRax true 0xe0#8 shape.shift else []) ++ ([0x4c#8, 0x01#8, 0xd8#8] ++ rest)))))
        ⟨.word (memoryRegister g shape.rn true), .guest, .ram, r8, r9, r10, r11, f, g, ram⟩ =
      run (layout host) rest ⟨.word (accessAddress g shape), .guest, .ram, r8, r9, r10,
        .word (memoryRegister g shape.rn true), f', g, ram⟩ := by
  have hshift : ∀ v : U64, (if shape.shift ≠ 0#32 then shifted .shl true v shape.shift.toNat else v) =
      v <<< shape.shift.toNat := by
    intro v
    by_cases hzero : shape.shift = 0#32
    · rw [if_neg (not_not.mpr hzero), hzero]
      simp
    · rw [if_pos hzero]
      change v <<< (shape.shift.toNat % 64) = _
      rw [Nat.mod_eq_of_lt hcoded.shift]
  have haddress : accessAddress g shape = memoryOffset g shape + memoryRegister g shape.rn true := by
    rw [accessAddress, hcoded.indexed hoffset, if_neg (by decide), BitVec.add_comm]
  have hindex := index_value shape.option (memoryRegister g shape.rm false)
  have hvalue : memoryOffset g shape = (if shape.option = 6#32 then
      ((low (shape.option &&& 1#32 ≠ 0#32) (memoryRegister g shape.rm false)).truncate 32 : U32).signExtend 64
      else low (shape.option &&& 1#32 ≠ 0#32) (memoryRegister g shape.rm false)) <<< shape.shift.toNat := by
    rw [hindex, memoryOffset, if_neg (by rw [hoffset]; decide)]
  refine ⟨aluFlags .add true (memoryOffset g shape) (memoryRegister g shape.rn true), fun rest => ?_⟩
  rw [run_moveR11, run_load hcoded.rm, run_signExtendIf, show 0xe0#8 = extensionOf .shl from rfl,
    run_shiftIf, run_addR11Rax, hshift, haddress, hvalue]

lemma run_scalarAddress {shape : MemoryShape} (hcoded : shape.Coded) :
    ∃ f' : Flags, ∀ rest, run (layout host) ((if shape.registerOffset then
        moveR11 ++ load shape.rm false (shape.option &&& 1#32 ≠ 0#32) ++
          (if shape.option = 6#32 then [0x48#8, 0x63#8, 0xc0#8] else []) ++
          (if shape.shift ≠ 0#32 then shiftRax true 0xe0#8 shape.shift else []) ++ [0x4c#8, 0x01#8, 0xd8#8]
      else if shape.mode ≠ 1#32 then addRax shape.displacement else []) ++ moveR11 ++ moveR9 ++ rest)
        ⟨.word (memoryRegister g shape.rn true), .guest, .ram, r8, r9, r10, r11, f, g, ram⟩ =
      run (layout host) rest ⟨.word (accessAddress g shape), .guest, .ram, r8, .word (accessAddress g shape), r10,
        .word (accessAddress g shape), f', g, ram⟩ := by
  cases hoffset : shape.registerOffset with
  | true =>
    obtain ⟨f', hrun⟩ := @run_index host r8 r9 r10 r11 f g ram _ hcoded hoffset
    refine ⟨f', fun rest => ?_⟩
    simp only [if_true, List.append_assoc]
    rw [hrun, run_moveR11, run_moveR9]
  | false =>
    obtain ⟨f', hrun⟩ := @run_displacement host r8 r9 r10 r11 f g ram _ hoffset
    refine ⟨f', fun rest => ?_⟩
    simp only [Bool.false_eq_true, if_false, List.append_assoc]
    rw [hrun, run_moveR11, run_moveR9]

lemma alignment_mask {width : U32} (h : width = 1#32 ∨ width = 2#32 ∨ width = 4#32 ∨ width = 8#32) :
    ((width - 1#32).truncate 8 : Byte).zeroExtend 64 = ((width - 1#32).zeroExtend 64 : U64) := by
  rcases h with rfl | rfl | rfl | rfl <;> decide

def ChecksAs (host : Host) (pieces : List (Piece Block)) (m : Machine VfCpu) (size offset address : U64) (g : VfCpu)
    (ram : List Byte) : Option (Block × U64) → Prop
  | none => ∃ (rax r10 : Value) (f : Flags), Falls (layout host) pieces m
      ⟨rax, .guest, .ram, .word size, .word offset, r10, .word address, f, g, ram⟩
  | some (block, far) => ∃ (rax r9 r10 : Value) (f : Flags), Jumps (layout host) pieces m block
      ⟨rax, .guest, .ram, .word size, r9, r10, .word far, f, g, ram⟩

variable {size offset address : U64} {fault : Option (Block × U64)} {first second : List (Piece Block)}
  {m m' : Machine VfCpu}

lemma ChecksAs.after (hfirst : Falls (layout host) first m m')
    (h : ChecksAs host second m' size offset address g ram fault) :
    ChecksAs host (first ++ second) m size offset address g ram fault := by
  match fault, h with
  | none, ⟨rax, r10, f, h⟩ => exact ⟨rax, r10, f, hfirst.append h⟩
  | some (block, far), ⟨rax, r9, r10, f, h⟩ => exact ⟨rax, r9, r10, f, hfirst.jumps h⟩

lemma checksAs_jumps {block : Block} {far : U64} {rax r9 r10 : Value} {f : Flags}
    (h : Jumps (layout host) first m block ⟨rax, .guest, .ram, .word size, r9, r10, .word far, f, g, ram⟩)
    (second : List (Piece Block)) :
    ChecksAs host (first ++ second) m size offset address g ram (some (block, far)) :=
  ⟨rax, r9, r10, f, h.append second⟩

lemma checksAs_element {base a : U64} {width : U32} (hw : width.toNat < 128) :
    ChecksAs host (elementChecks base width)
      ⟨rax, .guest, .ram, .word size, .word a, r10, .word a, f, g, ram⟩ size (a - base) a g ram
      (if inRam base size a width = false then some (.data, a) else none) := by
  by_cases hin : inRam base size a width = true
  · rw [if_neg (by rw [hin]; decide)]
    obtain ⟨f', h⟩ := @falls_elementChecks host rax .guest .ram r10 (.word a) f g ram _ _ _ _ hw hin
    exact ⟨_, _, f', h⟩
  · have hout := Bool.eq_false_iff.mpr hin
    rw [if_pos hout]
    obtain ⟨rax', r9', r10', f', h⟩ := @jumps_elementChecks host rax .guest .ram r10 (.word a) f g ram _ _ _ _ hw
        hout
    exact ⟨rax', r9', r10', f', h⟩

end Address

lemma width_lt {width : U32} (h : width = 1#32 ∨ width = 2#32 ∨ width = 4#32 ∨ width = 8#32) : width.toNat < 128 := by
  rcases h with rfl | rfl | rfl | rfl <;> decide

lemma checks_scalar (host : Host) (t : Target) {shape : MemoryShape} (hcoded : shape.Coded) (hcount : shape.count = 1#32)
    (hwidth : shape.width = 1#32 ∨ shape.width = 2#32 ∨ shape.width = 4#32 ∨ shape.width = 8#32)
    (rax r9 r10 r11 : Value) (f : Flags) (g : VfCpu) (ram : List Byte) (size : U64) :
    ChecksAs host (scalarPieces t shape) ⟨rax, .guest, .ram, .word size, r9, r10, r11, f, g, ram⟩ size
      (accessAddress g shape - t.base) (accessAddress g shape) g ram (accessFault t shape g size) := by
  unfold scalarPieces accessFault
  simp only [List.append_assoc, hcount, show ¬(1#32 = 2#32) by decide, false_and, if_false]
  refine .after (falls_code fun rest => run_load hcoded.rn true true) ?_
  -- behind the SP check the address is computed from the base in `rax`
  have hrest : ∀ (r11 : Value) (f : Flags), ChecksAs host ([.code ((if shape.registerOffset then
        moveR11 ++ (load shape.rm false (shape.option &&& 1#32 ≠ 0#32) ++
          ((if shape.option = 6#32 then [0x48#8, 0x63#8, 0xc0#8] else []) ++
          ((if shape.shift ≠ 0#32 then shiftRax true 0xe0#8 shape.shift else []) ++ [0x4c#8, 0x01#8, 0xd8#8])))
      else if shape.mode ≠ 1#32 then addRax shape.displacement else []) ++ (moveR11 ++ moveR9))] ++
      ((if 1#32 < shape.width then
        [.code (testAl ((shape.width - 1#32).truncate 8)), .guard 0x85#8 .alignment] else []) ++
      elementChecks t.base shape.width))
      ⟨.word (memoryRegister g shape.rn true), .guest, .ram, .word size, r9, r10, r11, f, g, ram⟩ size
      (accessAddress g shape - t.base) (accessAddress g shape) g ram
      (if accessAddress g shape &&& (shape.width - 1#32).zeroExtend 64 ≠ 0#64 then
        some (.alignment, accessAddress g shape)
      else if inRam t.base size (accessAddress g shape) shape.width = false then some (.data, accessAddress g shape)
      else none) := by
    intro r11 f
    obtain ⟨f', hrun⟩ := @run_scalarAddress host (.word size) r9 r10 r11 f g ram _ hcoded
    simp only [List.append_assoc] at hrun
    refine .after (falls_code fun rest => by simpa only [List.append_assoc] using hrun rest) ?_
    have hmask := alignment_mask hwidth
    by_cases hone : 1#32 < shape.width
    · rw [if_pos hone]
      by_cases haligned : accessAddress g shape &&& (shape.width - 1#32).zeroExtend 64 = 0#64
      · rw [if_neg (not_not.mpr haligned)]
        exact .after (falls_tested (fun rest => run_testAl _) (by rw [hmask]; exact haligned))
          (checksAs_element (width_lt hwidth))
      · rw [if_pos haligned]
        exact checksAs_jumps (jumps_tested (fun rest => run_testAl _) (by rw [hmask]; exact haligned)) _
    · have hwidth1 : shape.width = 1#32 := by
        rcases hwidth with h | h | h | h
        · exact h
        all_goals exact absurd (by rw [h]; decide) hone
      rw [if_neg hone, hwidth1, if_neg (by simp)]
      exact checksAs_element (by decide)
  by_cases hsp : checksSp t shape.rn = true
  · rw [if_pos hsp]
    by_cases hbase : memoryRegister g shape.rn true &&& 15#64 = 0#64
    · rw [if_neg (show ¬(checksSp t shape.rn = true ∧ memoryRegister g shape.rn true &&& 15#64 ≠ 0#64) from
        fun h => h.2 hbase)]
      exact .after (falls_tested (fun rest => by rw [List.append_assoc, run_moveR11, run_testAl]; rfl) hbase) (hrest _ _)
    · rw [if_pos (show checksSp t shape.rn = true ∧ memoryRegister g shape.rn true &&& 15#64 ≠ 0#64 from ⟨hsp, hbase⟩)]
      exact checksAs_jumps (jumps_tested (fun rest => by rw [List.append_assoc, run_moveR11, run_testAl]; rfl) hbase) _
  · rw [if_neg hsp, if_neg (show ¬(checksSp t shape.rn = true ∧ memoryRegister g shape.rn true &&& 15#64 ≠ 0#64) from
      fun h => hsp h.1)]
    exact hrest _ _

lemma checks_second (host : Host) {base size a : U64} {width : U32} (hw : width = 4#32 ∨ width = 8#32) (rax : Value)
    (f : Flags) (g : VfCpu) (ram : List Byte) :
    ChecksAs host [.code (aluSmall 0xc3#8 width), .guard 0x82#8 .data, .code (aluSmall 0xf8#8 (2#32 * width)),
        .guard 0x82#8 .data, .code (aluSmall 0xea#8 width ++ compareR9), .guard 0x87#8 .data]
      ⟨rax, .guest, .ram, .word size, .word (a - base), .word (size - width.zeroExtend 64), .word a, f, g, ram⟩ size
      (a - base) (a + width.zeroExtend 64) g ram
      (if secondOutside base size a width = true then some (.data, a + width.zeroExtend 64) else none) := by
  have hsmall : (width.truncate 8 : Byte).signExtend 64 = width.zeroExtend 64 := by
    rcases hw with rfl | rfl <;> decide
  have hdouble : ((2#32 * width).truncate 8 : Byte).signExtend 64 = (2#32 * width).zeroExtend 64 := by
    rcases hw with rfl | rfl <;> decide
  have hadd : ∀ rest, run (layout host) (aluSmall 0xc3#8 width ++ rest)
      ⟨rax, .guest, .ram, .word size, .word (a - base), .word (size - width.zeroExtend 64), .word a, f, g, ram⟩ =
      run (layout host) rest ⟨rax, .guest, .ram, .word size, .word (a - base), .word (size - width.zeroExtend 64),
        .word (a + width.zeroExtend 64), aluFlags .add true a (width.zeroExtend 64), g, ram⟩ := by
    intro rest
    rw [run_addR11, hsmall]
  have hcompare : ∀ (f : Flags) (rest : List Byte), run (layout host) (aluSmall 0xf8#8 (2#32 * width) ++ rest)
      ⟨rax, .guest, .ram, .word size, .word (a - base), .word (size - width.zeroExtend 64),
        .word (a + width.zeroExtend 64), f, g, ram⟩ =
      run (layout host) rest ⟨rax, .guest, .ram, .word size, .word (a - base), .word (size - width.zeroExtend 64),
        .word (a + width.zeroExtend 64), aluFlags .cmp true size ((2#32 * width).zeroExtend 64), g, ram⟩ := by
    intro f rest
    rw [run_compareR8, hdouble]
  have hlast : ∀ (f : Flags) (rest : List Byte), run (layout host) (aluSmall 0xea#8 width ++ compareR9 ++ rest)
      ⟨rax, .guest, .ram, .word size, .word (a - base), .word (size - width.zeroExtend 64),
        .word (a + width.zeroExtend 64), f, g, ram⟩ =
      run (layout host) rest ⟨rax, .guest, .ram, .word size, .word (a - base),
        .word (size - width.zeroExtend 64 - width.zeroExtend 64), .word (a + width.zeroExtend 64),
        aluFlags .cmp true (a - base) (size - width.zeroExtend 64 - width.zeroExtend 64), g, ram⟩ := by
    intro f rest
    rw [List.append_assoc, run_subR10, run_compareR9, hsmall]
  unfold secondOutside
  by_cases h1 : a.uaddOverflow (width.zeroExtend 64) = true
  · rw [if_pos (decide_eq_true (.inl h1))]
    exact ⟨_, _, _, _, .code hadd (.take rfl ((carry_add _ _).trans (by rw [h1])) _)⟩
  have hpass := (carry_add a (width.zeroExtend 64)).trans (by rw [Bool.eq_false_iff.mpr h1])
  by_cases h2 : size < (2#32 * width).zeroExtend 64
  · rw [if_pos (decide_eq_true (.inr (.inl h2)))]
    exact ⟨_, _, _, _, .code hadd (.pass rfl hpass _ (.code (hcompare _)
      (.take rfl ((carry_cmp _ _).trans (by rw [decide_eq_true h2])) _)))⟩
  have hpass2 := (carry_cmp size ((2#32 * width).zeroExtend 64)).trans (by rw [decide_eq_false h2])
  by_cases h3 : size - width.zeroExtend 64 - width.zeroExtend 64 < a - base
  · rw [if_pos (decide_eq_true (.inr (.inr h3)))]
    exact ⟨_, _, _, _, .code hadd (.pass rfl hpass _ (.code (hcompare _) (.pass rfl hpass2 _ (.code (hlast _)
      (.take rfl ((above_cmp _ _).trans (by rw [decide_eq_true h3])) _)))))⟩
  · rw [if_neg (by simp [h1, h2, h3])]
    exact ⟨_, _, _, .code hadd (.pass rfl hpass _ (.code (hcompare _) (.pass rfl hpass2 _ (.code (hlast _)
      (.pass rfl ((above_cmp _ _).trans (by rw [decide_eq_false h3])) _ falls_nil)))))⟩

lemma checks_pair (host : Host) (t : Target) {shape : MemoryShape} (hcoded : shape.Coded) (hcount : shape.count = 2#32)
    (hoffset : shape.registerOffset = false) (hwidth : shape.width = 4#32 ∨ shape.width = 8#32)
    (rax r9 r10 r11 : Value) (f : Flags) (g : VfCpu) (ram : List Byte) (size : U64) :
    ChecksAs host (pairPieces t shape) ⟨rax, .guest, .ram, .word size, r9, r10, r11, f, g, ram⟩ size
      (accessAddress g shape - t.base) (accessAddress g shape + shape.width.zeroExtend 64) g ram
      (accessFault t shape g size) := by
  have hmask : ((shape.width - 1#32).truncate 8 : Byte).zeroExtend 64 = ((shape.width - 1#32).zeroExtend 64 : U64) :=
    alignment_mask (hwidth.elim (.inr ∘ .inr ∘ .inl) (.inr ∘ .inr ∘ .inr))
  have hsmall : shape.width.toNat < 128 := by
    rcases hwidth with h | h <;> rw [h] <;> decide
  unfold pairPieces accessFault
  simp only [List.append_assoc, hcount, true_and]
  have hrest : ∀ (rax r11 : Value) (f : Flags), ChecksAs host ([.code (load shape.rn true true ++
        ((if shape.mode ≠ 1#32 then addRax shape.displacement else []) ++ (moveR11 ++ (moveR9 ++
        testAl ((shape.width - 1#32).truncate 8))))), .guard 0x85#8 .alignment] ++
      (elementChecks t.base shape.width ++
      [.code (aluSmall 0xc3#8 shape.width), .guard 0x82#8 .data, .code (aluSmall 0xf8#8 (2#32 * shape.width)),
        .guard 0x82#8 .data, .code (aluSmall 0xea#8 shape.width ++ compareR9), .guard 0x87#8 .data]))
      ⟨rax, .guest, .ram, .word size, r9, r10, r11, f, g, ram⟩ size
      (accessAddress g shape - t.base) (accessAddress g shape + shape.width.zeroExtend 64) g ram
      (if accessAddress g shape &&& (shape.width - 1#32).zeroExtend 64 ≠ 0#64 then
        some (.alignment, accessAddress g shape)
      else if inRam t.base size (accessAddress g shape) shape.width = false then some (.data, accessAddress g shape)
      else if secondOutside t.base size (accessAddress g shape) shape.width = true then
        some (.data, accessAddress g shape + shape.width.zeroExtend 64)
      else none) := by
    intro rax r11 f
    obtain ⟨f', hrun⟩ := @run_displacement host (.word size) r9 r10 r11 (loadFlags shape.rn true f) g ram _
        hoffset
    have hcode : ∀ rest, run (layout host) (load shape.rn true true ++
        ((if shape.mode ≠ 1#32 then addRax shape.displacement else []) ++ (moveR11 ++ (moveR9 ++
        testAl ((shape.width - 1#32).truncate 8)))) ++ rest)
        ⟨rax, .guest, .ram, .word size, r9, r10, r11, f, g, ram⟩ =
        run (layout host) rest ⟨.word (accessAddress g shape), .guest, .ram, .word size,
          .word (accessAddress g shape), r10, .word (accessAddress g shape),
          testFlags (accessAddress g shape) ((shape.width - 1#32).truncate 8), g, ram⟩ := by
      intro rest
      simp only [List.append_assoc]
      rw [run_load hcoded.rn]
      refine (hrun _).trans ?_
      rw [run_moveR11, run_moveR9, run_testAl]
    by_cases haligned : accessAddress g shape &&& (shape.width - 1#32).zeroExtend 64 = 0#64
    · rw [if_neg (not_not.mpr haligned)]
      refine .after (falls_tested hcode (by rw [hmask]; exact haligned)) ?_
      by_cases hin : inRam t.base size (accessAddress g shape) shape.width = true
      · rw [if_neg (show ¬inRam t.base size (accessAddress g shape) shape.width = false by rw [hin]; decide)]
        obtain ⟨f2, hfalls⟩ := @falls_elementChecks host (.word (accessAddress g shape)) .guest .ram r10
            (.word (accessAddress g shape)) (testFlags (accessAddress g shape) ((shape.width - 1#32).truncate 8))
            g ram _ _ _ _ hsmall hin
        exact .after hfalls (checks_second host hwidth _ _ g ram)
      · have hout := Bool.eq_false_iff.mpr hin
        rw [if_pos hout]
        obtain ⟨rax', r9', r10', f2, hjumps⟩ := @jumps_elementChecks host (.word (accessAddress g shape)) .guest
            .ram r10 (.word (accessAddress g shape))
            (testFlags (accessAddress g shape) ((shape.width - 1#32).truncate 8)) g ram _ _ _ _ hsmall hout
        exact checksAs_jumps hjumps _
    · rw [if_pos haligned]
      exact checksAs_jumps (jumps_tested hcode (by rw [hmask]; exact haligned)) _
  by_cases hsp : checksSp t shape.rn = true
  · have hrn : shape.rn = 31#32 := (of_decide_eq_true hsp).1
    have hcode : ∀ rest, run (layout host) (load 31#32 true true ++ (moveR11 ++ testAl 15#8) ++ rest)
        ⟨rax, .guest, .ram, .word size, r9, r10, r11, f, g, ram⟩ =
        run (layout host) rest ⟨.word (memoryRegister g shape.rn true), .guest, .ram, .word size, r9, r10,
          .word (memoryRegister g shape.rn true), testFlags (memoryRegister g shape.rn true) 15#8, g, ram⟩ := by
      intro rest
      simp only [List.append_assoc]
      rw [run_load (by decide), run_moveR11, run_testAl, hrn]
      rfl
    rw [if_pos hsp]
    by_cases hbase : memoryRegister g shape.rn true &&& 15#64 = 0#64
    · rw [if_neg (show ¬(checksSp t shape.rn = true ∧ memoryRegister g shape.rn true &&& 15#64 ≠ 0#64) from
        fun h => h.2 hbase)]
      exact .after (falls_tested hcode hbase) (hrest _ _ _)
    · rw [if_pos (show checksSp t shape.rn = true ∧ memoryRegister g shape.rn true &&& 15#64 ≠ 0#64 from ⟨hsp, hbase⟩)]
      exact checksAs_jumps (jumps_tested hcode hbase) _
  · rw [if_neg hsp, if_neg (show ¬(checksSp t shape.rn = true ∧ memoryRegister g shape.rn true &&& 15#64 ≠ 0#64) from
      fun h => hsp h.1), List.nil_append]
    exact hrest _ _ _

section Elements

variable {host : Host} {rax r8 r10 r11 : Value} {f : Flags} {g : VfCpu} {ram rest code : List Byte} {a off disp v : U64}
  {i : ℕ} {size : Size}

lemma index_at {n : ℕ} (hi : (off + disp).toNat = i) (hin : i + n ≤ ram.length) :
    (Machine.mk rax .guest .ram r8 (.word off) r10 r11 f g ram).index (layout host) disp n = some i := by
  simp only [Machine.index, Machine.word, Machine.get, Value.bits, hi, if_true, hin]

lemma read_ram (hi : (off + disp).toNat = i) (hin : i + size.bytes ≤ ram.length) :
    (Machine.mk rax .guest .ram r8 (.word off) r10 r11 f g ram).read (layout host) size (.ram disp) =
      some (loadLe ram i size.bytes) := by
  rw [Machine.read, index_at hi hin, Option.map_some]

lemma low_load (size : Size) (ram : List Byte) (i : ℕ) : size.low (loadLe ram i size.bytes) = loadLe ram i size.bytes := by
  have h := loadLe_lt ram i size.bytes
  apply BitVec.eq_of_toNat_eq
  cases size with
  | byte =>
    change _ < 2 ^ 8 at h
    simp only [Size.low, BitVec.truncate_eq_setWidth, BitVec.toNat_setWidth, Size.bytes] at h ⊢
    omega
  | word =>
    change _ < 2 ^ 16 at h
    simp only [Size.low, BitVec.truncate_eq_setWidth, BitVec.toNat_setWidth, Size.bytes] at h ⊢
    omega
  | dword =>
    change _ < 2 ^ 32 at h
    simp only [Size.low, BitVec.truncate_eq_setWidth, BitVec.toNat_setWidth, Size.bytes] at h ⊢
    omega
  | qword => rfl

lemma run_loadPlain (code : List Byte) (wide : Bool)
    (hd : decode (code ++ rest) = some (.mov (sizeOf wide) (.reg .rax) (.ram disp), rest)) (hi : (off + disp).toNat = i)
    (hin : i + (sizeOf wide).bytes ≤ ram.length) :
    run (layout host) (code ++ rest) ⟨rax, .guest, .ram, r8, .word off, r10, r11, f, g, ram⟩ =
      run (layout host) rest ⟨.word (low wide (loadLe ram i (sizeOf wide).bytes)), .guest, .ram, r8, .word off, r10,
        r11, f, g, ram⟩ := by
  have hread := @read_ram host rax r8 r10 r11 f g _ _ _ _ _ hi hin
  refine run_execute hd ?_
  cases wide with
  | true =>
    change (Machine.read _ _ .qword (.ram disp) >>= fun v => some (Machine.mk (.word v) _ _ _ _ _ _ _ _ _)) = _
    rw [show (Size.qword : Size) = sizeOf true from rfl, hread]
    rfl
  | false =>
    change (Machine.read _ _ .dword (.ram disp) >>= fun v => some (Machine.mk (.word (low false v)) _ _ _ _ _ _ _ _ _)) = _
    rw [show (Size.dword : Size) = sizeOf false from rfl, hread]
    rfl

lemma run_loadExtend (code : List Byte) (signed : Bool) (narrow size : Size)
    (hd : decode (code ++ rest) = some (.extend signed narrow size .rax (.ram disp), rest)) (hi : (off + disp).toNat = i)
    (hin : i + narrow.bytes ≤ ram.length) :
    run (layout host) (code ++ rest) ⟨rax, .guest, .ram, r8, .word off, r10, r11, f, g, ram⟩ =
      run (layout host) rest ⟨.word (extendAt signed narrow size (loadLe ram i narrow.bytes)), .guest, .ram, r8,
        .word off, r10, r11, f, g, ram⟩ := by
  refine run_execute hd ?_
  change (Machine.read _ _ narrow (.ram disp) >>= fun v => some _) = _
  rw [read_ram hi hin]
  rfl

lemma run_storeElement (code : List Byte) (size : Size)
    (hd : decode (code ++ rest) = some (.mov size (.ram disp) (.reg .rax), rest))
    (hi : (off + disp).toNat = i) (hin : i + size.bytes ≤ ram.length)
    (hv : ∀ k < 8 * size.bytes, a.getLsbD k = v.getLsbD k) :
    run (layout host) (code ++ rest) ⟨.word a, .guest, .ram, r8, .word off, r10, r11, f, g, ram⟩ =
      run (layout host) rest ⟨.word a, .guest, .ram, r8, .word off, r10, r11, f, g, storeLe ram i size.bytes v⟩ := by
  have hlow : storeLe ram i size.bytes (size.low a) = storeLe ram i size.bytes v := by
    refine storeLe_congr (fun k hk => ?_) ram i
    rw [← hv k hk]
    cases size with
    | byte =>
      change k < 8 at hk
      simp [Size.low, hk, show k < 64 by omega]
    | word =>
      change k < 16 at hk
      simp [Size.low, hk, show k < 64 by omega]
    | dword =>
      change k < 32 at hk
      simp [Size.low, hk, show k < 64 by omega]
    | qword => rfl
  have hindex := @index_at host (.word a) r8 r10 r11 f g _ _ _ _ _ hi hin
  refine run_execute hd ?_
  rw [← hlow]
  cases size with
  | byte =>
    change (Machine.index _ _ disp _).map _ = _
    rw [hindex]
    rfl
  | word =>
    change (Machine.index _ _ disp _).map _ = _
    rw [hindex]
    rfl
  | dword =>
    change (Machine.index _ _ disp _).map _ = _
    rw [hindex]
    rfl
  | qword =>
    change (Machine.index _ _ disp _).map _ = _
    rw [hindex]
    rfl

end Elements

section Bodies

variable {host : Host} {rax r8 r10 r11 : Value} {f : Flags} {g : VfCpu} {ram : List Byte} {off address updated : U64}
  {shape : MemoryShape}

lemma memorySave_eq (g : VfCpu) (reg : U32) (v : U64) (wide : Bool) : memorySave g reg v wide = saved g reg false (low wide v) := by
  cases wide <;> rfl

lemma run_writeback (hcoded : shape.Coded) (r9 : Value)
    (hupdated : (if shape.mode = 1#32 then address + shape.displacement.signExtend 64 else address) = updated) :
    ∃ (rax' : Value) (f' : Flags), ∀ rest, run (layout host) (writebackCode shape ++ rest)
        ⟨rax, .guest, .ram, r8, r9, r10, .word address, f, g, ram⟩ =
      run (layout host) rest ⟨rax', .guest, .ram, r8, r9, r10, .word address, f', writeBase g shape updated, ram⟩ := by
  unfold writebackCode writeBase
  by_cases htwo : shape.mode = 2#32
  · refine ⟨rax, f, fun rest => ?_⟩
    rw [if_neg (not_not.mpr htwo), if_neg (not_not.mpr htwo), List.nil_append]
  rw [if_pos htwo, if_pos htwo]
  by_cases hone : shape.mode = 1#32
  · rw [if_pos hone] at hupdated
    refine ⟨.word updated, aluFlags .add true address (shape.displacement.signExtend 64), fun rest => ?_⟩
    rw [if_pos hone]
    simp only [List.append_assoc]
    rw [run_loadR11, run_addRax, run_save hcoded.rn, hupdated]
    rfl
  · rw [if_neg hone] at hupdated
    refine ⟨.word updated, f, fun rest => ?_⟩
    rw [if_neg hone, ← hupdated]
    simp only [List.append_nil, List.append_assoc]
    rw [run_loadR11, run_save hcoded.rn]
    rfl

def loadedValue (shape : MemoryShape) (v : U64) : U64 :=
  low shape.result64 (if shape.signedLoad then sext (v.truncate 32) (shape.width * 8#32).toNat else v)

lemma signed_load {n : ℕ} (hpos : 0 < n) (hn : n ≤ 32) (v : U64) :
    sext (v.truncate 32) n = (v.truncate n : BitVec n).signExtend 64 := by
  rw [sext_eq _ hpos hn]
  simp only [BitVec.truncate_eq_setWidth]
  rw [BitVec.setWidth_setWidth_of_le _ hn]

lemma run_scalarLoad (hform : (shape.width, shape.signedLoad, shape.result64) ∈ scalarForms)
    (hin : off.toNat + shape.width.toNat ≤ ram.length) (rest : List Byte) :
    run (layout host) ([if shape.result64 then 0x4a#8 else 0x42#8] ++ ((if shape.width < 4#32 then
        [0x0f#8, (if shape.signedLoad then 0xbe#8 else 0xb6#8) + (if shape.width = 2#32 then 1#8 else 0#8)]
      else [if shape.signedLoad then 0x63#8 else 0x8b#8]) ++ ([0x04#8, 0x0a#8] ++ rest)))
        ⟨rax, .guest, .ram, r8, .word off, r10, r11, f, g, ram⟩ =
      run (layout host) rest ⟨.word (loadedValue shape (loadLe ram off.toNat shape.width.toNat)), .guest, .ram, r8,
        .word off, r10, r11, f, g, ram⟩ := by
  have hzero : (off + 0#64).toNat = off.toNat := by
    rw [BitVec.add_zero]
  unfold loadedValue
  simp only [scalarForms, List.mem_cons, List.not_mem_nil, or_false, Prod.mk.injEq] at hform
  rcases hform with ⟨hw, hs, hr⟩ | ⟨hw, hs, hr⟩ | ⟨hw, hs, hr⟩ | ⟨hw, hs, hr⟩ | ⟨hw, hs, hr⟩ | ⟨hw, hs, hr⟩ |
    ⟨hw, hs, hr⟩ | ⟨hw, hs, hr⟩ | ⟨hw, hs, hr⟩ <;> rw [hw] at hin <;> rw [hw, hs, hr]
  · rw [show (1#32).toNat = Size.byte.bytes from rfl] at hin ⊢
    refine (run_loadExtend [0x42#8, 0x0f#8, 0xb6#8, 0x04#8, 0x0a#8] false .byte .dword rfl hzero hin).trans ?_
    rw [extendAt, if_neg Bool.false_ne_true, low_load]
    rfl
  · rw [show (2#32).toNat = Size.word.bytes from rfl] at hin ⊢
    refine (run_loadExtend [0x42#8, 0x0f#8, 0xb7#8, 0x04#8, 0x0a#8] false .word .dword rfl hzero hin).trans ?_
    rw [extendAt, if_neg Bool.false_ne_true, low_load]
    rfl
  · exact run_loadPlain [0x42#8, 0x8b#8, 0x04#8, 0x0a#8] false rfl hzero hin
  · exact run_loadPlain [0x4a#8, 0x8b#8, 0x04#8, 0x0a#8] true rfl hzero hin
  · rw [if_pos rfl, show (1#32 * 8#32).toNat = 8 from rfl, signed_load (by decide) (by decide)]
    exact run_loadExtend [0x4a#8, 0x0f#8, 0xbe#8, 0x04#8, 0x0a#8] true .byte .qword rfl hzero hin
  · rw [if_pos rfl, show (2#32 * 8#32).toNat = 16 from rfl, signed_load (by decide) (by decide)]
    exact run_loadExtend [0x4a#8, 0x0f#8, 0xbf#8, 0x04#8, 0x0a#8] true .word .qword rfl hzero hin
  · rw [if_pos rfl, show (4#32 * 8#32).toNat = 32 from rfl, signed_load (by decide) (by decide)]
    exact run_loadExtend [0x4a#8, 0x63#8, 0x04#8, 0x0a#8] true .dword .qword rfl hzero hin
  · rw [if_pos rfl, show (1#32 * 8#32).toNat = 8 from rfl, signed_load (by decide) (by decide)]
    exact run_loadExtend [0x42#8, 0x0f#8, 0xbe#8, 0x04#8, 0x0a#8] true .byte .dword rfl hzero hin
  · rw [if_pos rfl, show (2#32 * 8#32).toNat = 16 from rfl, signed_load (by decide) (by decide)]
    exact run_loadExtend [0x42#8, 0x0f#8, 0xbf#8, 0x04#8, 0x0a#8] true .word .dword rfl hzero hin

lemma getLsbD_low (wide : Bool) (v : U64) {k : ℕ} (hk : wide = false → k < 32) : (low wide v).getLsbD k = v.getLsbD k := by
  cases wide with
  | true => rfl
  | false =>
    have h32 := hk rfl
    change (BitVec.zeroExtend 64 (v.truncate 32 : U32)).getLsbD k = _
    simp [h32, show k < 64 by omega]

lemma run_scalarStore (hwidth : shape.width = 1#32 ∨ shape.width = 2#32 ∨ shape.width = 4#32 ∨ shape.width = 8#32)
    (hin : off.toNat + shape.width.toNat ≤ ram.length) (rest : List Byte) (v : U64) :
    run (layout host) ((if shape.width = 2#32 then [0x66#8] else []) ++ ([if shape.width = 8#32 then 0x4a#8 else 0x42#8,
        if shape.width = 1#32 then 0x88#8 else 0x89#8, 0x04#8, 0x0a#8] ++ rest))
        ⟨.word (low (shape.width = 8#32) v), .guest, .ram, r8, .word off, r10, r11, f, g, ram⟩ =
      run (layout host) rest ⟨.word (low (shape.width = 8#32) v), .guest, .ram, r8, .word off, r10, r11, f, g,
        storeLe ram off.toNat shape.width.toNat v⟩ := by
  have hzero : (off + 0#64).toNat = off.toNat := by
    rw [BitVec.add_zero]
  rcases hwidth with hw | hw | hw | hw <;> rw [hw] at hin ⊢
  · exact run_storeElement [0x42#8, 0x88#8, 0x04#8, 0x0a#8] .byte rfl hzero hin
      fun k hk => getLsbD_low _ v fun _ => by change k < 8 at hk; omega
  · exact run_storeElement [0x66#8, 0x42#8, 0x89#8, 0x04#8, 0x0a#8] .word rfl hzero hin
      fun k hk => getLsbD_low _ v fun _ => by change k < 16 at hk; omega
  · exact run_storeElement [0x42#8, 0x89#8, 0x04#8, 0x0a#8] .dword rfl hzero hin
      fun k hk => getLsbD_low _ v fun _ => by change k < 32 at hk; omega
  · exact run_storeElement [0x4a#8, 0x89#8, 0x04#8, 0x0a#8] .qword rfl hzero hin
      fun k hk => getLsbD_low _ v fun h => nomatch h

lemma run_scalarBody (hcoded : shape.Coded) (hcount : shape.count = 1#32)
    (hwidth : shape.width = 1#32 ∨ shape.width = 2#32 ∨ shape.width = 4#32 ∨ shape.width = 8#32)
    (hform : (shape.width, shape.signedLoad, shape.result64) ∈ scalarForms)
    (hin : off.toNat + shape.width.toNat ≤ ram.length)
    (hupdated : (if shape.mode = 1#32 then address + shape.displacement.signExtend 64 else address) = updated) :
    ∃ (rax' : Value) (f' : Flags), ∀ rest, run (layout host) (scalarBody shape ++ rest)
        ⟨rax, .guest, .ram, r8, .word off, r10, .word address, f, g, ram⟩ =
      run (layout host) rest ⟨rax', .guest, .ram, r8, .word off, r10, .word address, f',
        writeBase (loadedAt g shape off.toNat ram) shape updated, storedAt g shape off.toNat ram⟩ := by
  have hsingle : ¬shape.count = 2#32 := by
    rw [hcount]
    decide
  unfold scalarBody loadedAt storedAt loadData
  cases hread : shape.read with
  | true =>
    simp only [if_true, if_neg hsingle, memorySave_eq]
    obtain ⟨rax', f', hbase⟩ := @run_writeback host
        (.word (loadedValue shape (loadLe ram off.toNat shape.width.toNat))) r8 r10 f
        (saved g shape.rt false (loadedValue shape (loadLe ram off.toNat shape.width.toNat))) ram _ _ _ hcoded
        (.word off) hupdated
    refine ⟨rax', f', fun rest => ?_⟩
    simp only [List.append_assoc]
    rw [run_scalarLoad hform hin, run_save hcoded.rt, hbase]
    rfl
  | false =>
    simp only [Bool.false_eq_true, if_false, if_neg hsingle]
    obtain ⟨rax', f', hbase⟩ := @run_writeback host
        (.word (low (shape.width = 8#32) (memoryRegister g shape.rt false))) r8 r10 (loadFlags shape.rt false f) g
        (storeLe ram off.toNat shape.width.toNat (memoryRegister g shape.rt false)) _ _ _ hcoded (.word off)
        hupdated
    refine ⟨rax', f', fun rest => ?_⟩
    simp only [List.append_assoc]
    rw [run_load hcoded.rt, run_scalarStore hwidth hin, hbase]

def elementAt (shape : MemoryShape) (i : ℕ) (second : Bool) : ℕ := if second then i + shape.width.toNat else i

lemma element_offset (hspan : off.toNat + 2 * shape.width.toNat < 2 ^ 64) (second : Bool) :
    (off + (if second then shape.width.zeroExtend 64 else 0#64)).toNat = elementAt shape off.toNat second := by
  have hw : (shape.width.zeroExtend 64 : U64).toNat = shape.width.toNat := by
    have := shape.width.isLt
    change (shape.width.setWidth 64).toNat = _
    rw [BitVec.toNat_setWidth]
    omega
  cases second with
  | true =>
    rw [if_pos rfl, BitVec.toNat_add, hw]
    exact Nat.mod_eq_of_lt (by omega)
  | false =>
    rw [if_neg Bool.false_ne_true, BitVec.add_zero]
    rfl

def elementModRM (shape : MemoryShape) (second : Bool) : List Byte :=
  if second then [0x44#8, 0x0a#8, shape.width.truncate 8] else [0x04#8, 0x0a#8]

lemma run_pairLoad (hwidth : shape.width = 8#32 ∧ shape.result64 = true ∨ shape.width = 4#32 ∧ shape.result64 = false)
    (hspan : off.toNat + 2 * shape.width.toNat < 2 ^ 64) (hin : off.toNat + 2 * shape.width.toNat ≤ ram.length)
    (second : Bool) (rest : List Byte) :
    run (layout host) ([if shape.width = 8#32 then 0x4a#8 else 0x42#8, 0x8b#8] ++ (elementModRM shape second ++ rest))
        ⟨rax, .guest, .ram, r8, .word off, r10, r11, f, g, ram⟩ =
      run (layout host) rest ⟨.word (low shape.result64 (loadLe ram (elementAt shape off.toNat second)
        shape.width.toNat)), .guest, .ram, r8, .word off, r10, r11, f, g, ram⟩ := by
  have hplace := element_offset hspan second
  have hbound : elementAt shape off.toNat second + shape.width.toNat ≤ ram.length := by
    unfold elementAt
    split <;> omega
  unfold elementModRM
  rcases hwidth with ⟨hw, hr⟩ | ⟨hw, hr⟩
  · rw [hr]
    rw [hw] at hplace hbound ⊢
    cases second with
    | true => exact run_loadPlain [0x4a#8, 0x8b#8, 0x44#8, 0x0a#8, 8#8] true rfl hplace hbound
    | false => exact run_loadPlain [0x4a#8, 0x8b#8, 0x04#8, 0x0a#8] true rfl hplace hbound
  · rw [hr]
    rw [hw] at hplace hbound ⊢
    cases second with
    | true => exact run_loadPlain [0x42#8, 0x8b#8, 0x44#8, 0x0a#8, 4#8] false rfl hplace hbound
    | false => exact run_loadPlain [0x42#8, 0x8b#8, 0x04#8, 0x0a#8] false rfl hplace hbound

lemma run_pairStore (hwidth : shape.width = 8#32 ∨ shape.width = 4#32)
    (hspan : off.toNat + 2 * shape.width.toNat < 2 ^ 64) (hin : off.toNat + 2 * shape.width.toNat ≤ ram.length)
    (second : Bool) (rest : List Byte) (v : U64) :
    run (layout host) ([if shape.width = 8#32 then 0x4a#8 else 0x42#8, 0x89#8] ++ (elementModRM shape second ++ rest))
        ⟨.word (low (shape.width = 8#32) v), .guest, .ram, r8, .word off, r10, r11, f, g, ram⟩ =
      run (layout host) rest ⟨.word (low (shape.width = 8#32) v), .guest, .ram, r8, .word off, r10, r11, f, g,
        storeLe ram (elementAt shape off.toNat second) shape.width.toNat v⟩ := by
  have hplace := element_offset hspan second
  have hbound : elementAt shape off.toNat second + shape.width.toNat ≤ ram.length := by
    unfold elementAt
    split <;> omega
  unfold elementModRM
  rcases hwidth with hw | hw
  · rw [hw] at hplace hbound ⊢
    have hv : ∀ k < 8 * Size.qword.bytes, (low (decide (8#32 = 8#32)) v).getLsbD k = v.getLsbD k :=
      fun k _ => getLsbD_low _ v fun h => nomatch h
    cases second with
    | true => exact run_storeElement [0x4a#8, 0x89#8, 0x44#8, 0x0a#8, 8#8] .qword rfl hplace hbound hv
    | false => exact run_storeElement [0x4a#8, 0x89#8, 0x04#8, 0x0a#8] .qword rfl hplace hbound hv
  · rw [hw] at hplace hbound ⊢
    have hv : ∀ k < 8 * Size.dword.bytes, (low (decide (4#32 = 8#32)) v).getLsbD k = v.getLsbD k :=
      fun k hk => getLsbD_low _ v fun _ => by change k < 32 at hk; omega
    cases second with
    | true => exact run_storeElement [0x42#8, 0x89#8, 0x44#8, 0x0a#8, 4#8] .dword rfl hplace hbound hv
    | false => exact run_storeElement [0x42#8, 0x89#8, 0x04#8, 0x0a#8] .dword rfl hplace hbound hv

lemma run_pairBody (hcoded : shape.Coded) (hcount : shape.count = 2#32) (hsigned : shape.signedLoad = false)
    (hwidth : shape.width = 8#32 ∧ shape.result64 = true ∨ shape.width = 4#32 ∧ shape.result64 = false)
    (hspan : off.toNat + 2 * shape.width.toNat < 2 ^ 64) (hin : off.toNat + 2 * shape.width.toNat ≤ ram.length)
    (hupdated : (if shape.mode = 1#32 then address + shape.displacement.signExtend 64 else address) = updated) :
    ∃ (rax' : Value) (f' : Flags), ∀ rest, run (layout host) (pairBody shape ++ rest)
        ⟨rax, .guest, .ram, r8, .word off, r10, .word (address + shape.width.zeroExtend 64), f, g, ram⟩ =
      run (layout host) rest ⟨rax', .guest, .ram, r8, .word off, r10, .word address, f',
        writeBase (loadedAt g shape off.toNat ram) shape updated, storedAt g shape off.toNat ram⟩ := by
  have hwidth' : shape.width = 8#32 ∨ shape.width = 4#32 := hwidth.imp And.left And.left
  have hsmall : (shape.width.truncate 8 : Byte).signExtend 64 = shape.width.zeroExtend 64 := by
    rcases hwidth' with h | h <;> rw [h] <;> decide
  have hsub : ∀ rest, run (layout host) (aluSmall 0xeb#8 shape.width ++ rest)
      ⟨rax, .guest, .ram, r8, .word off, r10, .word (address + shape.width.zeroExtend 64), f, g, ram⟩ =
      run (layout host) rest ⟨rax, .guest, .ram, r8, .word off, r10, .word address,
        aluFlags .sub true (address + shape.width.zeroExtend 64) (shape.width.zeroExtend 64), g, ram⟩ := by
    intro rest
    rw [run_subR11, hsmall, BitVec.add_sub_cancel]
  unfold pairBody pairElement loadedAt storedAt loadData
  cases hread : shape.read with
  | true =>
    simp only [if_true, hcount, hsigned, Bool.false_eq_true, if_false, memorySave_eq]
    obtain ⟨rax', f', hbase⟩ := @run_writeback host
        (.word (low shape.result64 (loadLe ram (elementAt shape off.toNat true) shape.width.toNat))) r8 r10
        (aluFlags .sub true (address + shape.width.zeroExtend 64) (shape.width.zeroExtend 64)) (saved (saved g
        shape.rt false (low shape.result64 (loadLe ram off.toNat shape.width.toNat))) shape.rt2 false (low
        shape.result64 (loadLe ram (off.toNat + shape.width.toNat) shape.width.toNat))) ram _ _ _ hcoded
        (.word off) hupdated
    refine ⟨rax', f', fun rest => ?_⟩
    simp only [List.append_assoc, List.nil_append]
    rw [hsub]
    refine (run_pairLoad hwidth hspan hin false _).trans ?_
    rw [run_save hcoded.rt]
    refine (run_pairLoad hwidth hspan hin true _).trans ?_
    rw [run_save hcoded.rt2]
    exact hbase rest
  | false =>
    simp only [Bool.false_eq_true, if_false, hcount, if_true]
    have hlength : (storeLe ram off.toNat shape.width.toNat (memoryRegister g shape.rt false)).length = ram.length :=
      length_storeLe (by omega) _
    obtain ⟨rax', f', hbase⟩ := @run_writeback host
        (.word (low (shape.width = 8#32) (memoryRegister g shape.rt2 false))) r8 r10 (loadFlags shape.rt2 false
        (loadFlags shape.rt false (aluFlags .sub true (address + shape.width.zeroExtend 64)
        (shape.width.zeroExtend 64)))) g (storeLe (storeLe ram off.toNat shape.width.toNat (memoryRegister g
        shape.rt false)) (off.toNat + shape.width.toNat) shape.width.toNat (memoryRegister g shape.rt2 false)) _ _
        _ hcoded (.word off) hupdated
    refine ⟨rax', f', fun rest => ?_⟩
    simp only [List.append_assoc, List.nil_append]
    rw [hsub, run_load hcoded.rt]
    refine (run_pairStore hwidth' hspan hin false _ _).trans ?_
    rw [run_load hcoded.rt2]
    refine (run_pairStore hwidth' hspan (hin.trans hlength.ge) true _ _).trans ?_
    exact hbase rest

end Bodies

lemma span_of_inRam {base a : U64} {width : U32} {ram : List Byte}
    (h : inRam base (BitVec.ofNat 64 ram.length) a width = true) :
    (a - base).toNat + width.toNat ≤ ram.length := by
  obtain ⟨-, h2, h3⟩ := of_decide_eq_true h
  have hw : (width.zeroExtend 64 : U64).toNat = width.toNat := by
    have := width.isLt
    change (width.setWidth 64).toNat = _
    rw [BitVec.toNat_setWidth]
    omega
  have hsize : (BitVec.ofNat 64 ram.length).toNat ≤ ram.length := by
    rw [BitVec.toNat_ofNat]
    exact Nat.mod_le _ _
  rw [BitVec.le_def] at h2 h3
  rw [BitVec.toNat_sub_of_le (BitVec.le_def.mpr h2)] at h3
  omega

lemma span_of_pair {base a : U64} {width : U32} {ram : List Byte} (hw : width.toNat < 128)
    (h : secondOutside base (BitVec.ofNat 64 ram.length) a width = false) :
    (a - base).toNat + 2 * width.toNat ≤ ram.length ∧ (a - base).toNat + 2 * width.toNat < 2 ^ 64 := by
  have hdouble : ((2#32 * width).zeroExtend 64 : U64).toNat = 2 * width.toNat := by
    change ((2#32 * width).setWidth 64).toNat = _
    rw [BitVec.toNat_setWidth, BitVec.toNat_mul, show (2#32).toNat = 2 from rfl]
    omega
  have hwide : (width.zeroExtend 64 : U64).toNat = width.toNat := by
    change (width.setWidth 64).toNat = _
    rw [BitVec.toNat_setWidth]
    omega
  have hsize : (BitVec.ofNat 64 ram.length).toNat ≤ ram.length := by
    rw [BitVec.toNat_ofNat]
    exact Nat.mod_le _ _
  have hlt := (BitVec.ofNat 64 ram.length).isLt
  simp only [secondOutside, decide_eq_false_iff_not, not_or, BitVec.not_lt] at h
  obtain ⟨-, h2, h3⟩ := h
  rw [BitVec.le_def, hdouble] at h2
  have hone : (BitVec.ofNat 64 ram.length - width.zeroExtend 64).toNat =
      (BitVec.ofNat 64 ram.length).toNat - width.toNat := by
    rw [BitVec.toNat_sub_of_le (BitVec.le_def.mpr (by omega)), hwide]
  have htwo : (BitVec.ofNat 64 ram.length - width.zeroExtend 64 - width.zeroExtend 64).toNat =
      (BitVec.ofNat 64 ram.length).toNat - width.toNat - width.toNat := by
    rw [BitVec.toNat_sub_of_le (BitVec.le_def.mpr (by omega)), hone, hwide]
  rw [BitVec.le_def, htwo] at h3
  omega

lemma runs_checked {t : Target} {shape : MemoryShape} {pieces : List (Piece Block)} {body : List Byte} {pc : U64}
    {n : U32} {alignment : Bool} {left : VfCpu → U64} (hlength : piecesLength pieces + body.length < 1000)
    (halignment : alignment = false → ∀ a : U64, a &&& (shape.width - 1#32).zeroExtend 64 = 0#64)
    (hchecks : ∀ (host : Host) (rax r9 r10 r11 : Value) (f : Flags) (g : VfCpu) (ram : List Byte) (size : U64),
      ChecksAs host pieces ⟨rax, .guest, .ram, .word size, r9, r10, r11, f, g, ram⟩ size
        (accessAddress g shape - t.base) (left g) g ram (accessFault t shape g size))
    (hbody : ∀ (host : Host) (rax r10 : Value) (f : Flags) (g : VfCpu) (ram : List Byte),
      accessFault t shape g (BitVec.ofNat 64 ram.length) = none →
      ∃ (rax' r10' r11' : Value) (f' : Flags), ∀ rest, run (layout host) (body ++ rest)
          ⟨rax, .guest, .ram, .word (BitVec.ofNat 64 ram.length), .word (accessAddress g shape - t.base), r10,
            .word (left g), f, g, ram⟩ =
        run (layout host) rest ⟨rax', .guest, .ram, .word (BitVec.ofNat 64 ram.length),
          .word (accessAddress g shape - t.base), r10', r11', f',
          writeBase (loadedAt g shape (accessAddress g shape - t.base).toNat ram) shape
            (memoryRegister g shape.rn true + memoryOffset g shape),
          storedAt g shape (accessAddress g shape - t.base).toNat ram⟩)
    (hstored : ∀ (g : VfCpu) (ram : List Byte), accessFault t shape g (BitVec.ofNat 64 ram.length) = none →
      (storedAt g shape (accessAddress g shape - t.base).toNat ram).length = ram.length) :
    Runs (checkedCode pieces body pc n (checksSp t shape.rn) alignment) (accessEffect t shape pc n) := by
  intro host rax r9 r10 r11 f g ram rest
  have hcheck := hchecks host rax r9 r10 r11 f g ram (BitVec.ofNat 64 ram.length)
  unfold accessEffect
  cases hfault : accessFault t shape g (BitVec.ofNat 64 ram.length) with
  | none =>
    rw [hfault] at hcheck
    obtain ⟨rax1, r10', f1, hfalls⟩ := hcheck
    obtain ⟨rax2, r10'', r11', f2, hrun⟩ := hbody host rax1 r10' f1 g ram hfault
    refine ⟨rax2, .word (accessAddress g shape - t.base), r10'', r11', f2, ?_⟩
    rw [run_checked hlength hfalls hrun]
    unfold entry
    rw [hstored g ram hfault]
  | some out =>
    obtain ⟨block, far⟩ := out
    rw [hfault] at hcheck
    obtain ⟨rax1, r9', r10', f1, hjumps⟩ := hcheck
    refine returned_checked hlength ?_ ?_ hjumps
    · rintro rfl
      unfold accessFault at hfault
      dsimp only at hfault
      split at hfault
      next h => exact h.1
      next =>
        split at hfault
        · cases hfault
        split at hfault
        · cases hfault
        split at hfault <;> cases hfault
    · rintro rfl
      by_contra hnone
      have hall := halignment (Bool.eq_false_iff.mpr hnone) (accessAddress g shape)
      unfold accessFault at hfault
      dsimp only at hfault
      split at hfault
      · cases hfault
      rw [if_neg (not_not.mpr hall)] at hfault
      split at hfault
      · cases hfault
      split at hfault <;> cases hfault

lemma accessFault_none {t : Target} {shape : MemoryShape} {g : VfCpu} {size : U64}
    (h : accessFault t shape g size = none) :
    inRam t.base size (accessAddress g shape) shape.width = true ∧
      (shape.count = 2#32 → secondOutside t.base size (accessAddress g shape) shape.width = false) := by
  unfold accessFault at h
  dsimp only at h
  split at h
  · cases h
  split at h
  · cases h
  split at h
  · cases h
  next hin =>
    split at h
    · cases h
    next hsecond =>
      refine ⟨Bool.not_eq_false _ ▸ hin, fun hcount => ?_⟩
      rw [← Bool.not_eq_true]
      exact fun h => hsecond ⟨hcount, h⟩

lemma updated_base {shape : MemoryShape} (hcoded : shape.Coded) (g : VfCpu) (hwrites : shape.mode ≠ 2#32) :
    (if shape.mode = 1#32 then accessAddress g shape + shape.displacement.signExtend 64 else accessAddress g shape) =
      memoryRegister g shape.rn true + memoryOffset g shape := by
  have hoffset : shape.registerOffset = false := by
    rw [← Bool.not_eq_true]
    exact fun h => hwrites (hcoded.indexed h)
  unfold accessAddress
  dsimp only
  by_cases hone : shape.mode = 1#32
  · rw [if_pos hone, if_pos hone, memoryOffset, if_pos hoffset]
  · rw [if_neg hone, if_neg hone]

lemma writeBase_plain {shape : MemoryShape} (h : shape.mode = 2#32) (g : VfCpu) (u v : U64) :
    writeBase g shape u = writeBase g shape v := by
  rw [writeBase, writeBase, if_neg (not_not.mpr h), if_neg (not_not.mpr h)]

lemma length_storedAt (g : VfCpu) {shape : MemoryShape} {i : ℕ} {ram : List Byte}
    (hone : i + shape.width.toNat ≤ ram.length) (htwo : shape.count = 2#32 → i + 2 * shape.width.toNat ≤ ram.length) :
    (storedAt g shape i ram).length = ram.length := by
  unfold storedAt
  dsimp only
  by_cases hread : shape.read = true
  · rw [if_pos hread]
  · rw [if_neg hread]
    by_cases hcount : shape.count = 2#32
    · have hpair := htwo hcount
      rw [if_pos hcount, length_storeLe (by rw [length_storeLe hone]; omega), length_storeLe hone]
    · rw [if_neg hcount, length_storeLe hone]

lemma runs_scalar (t : Target) {shape : MemoryShape} (hcoded : shape.Coded) (hcount : shape.count = 1#32)
    (hwidth : shape.width = 1#32 ∨ shape.width = 2#32 ∨ shape.width = 4#32 ∨ shape.width = 8#32)
    (hform : (shape.width, shape.signedLoad, shape.result64) ∈ scalarForms) (pc : U64) (n : U32) :
    Runs (checkedCode (scalarPieces t shape) (scalarBody shape) pc n (checksSp t shape.rn) (1#32 < shape.width))
      (accessEffect t shape pc n) := by
  have hsingle : ¬shape.count = 2#32 := by
    rw [hcount]
    decide
  refine @runs_checked _ _ _ _ _ _ _ (fun g => accessAddress g shape) ((length_scalar t shape).trans_lt (by decide)) ?_
      (checks_scalar · t hcoded hcount hwidth) ?_ ?_
  · intro hone a
    have hwidth1 : shape.width = 1#32 := by
      rcases hwidth with h | h | h | h
      · exact h
      all_goals exact absurd (by rw [h]; decide) (of_decide_eq_false hone)
    rw [hwidth1]
    simp
  · intro host rax r10 f g ram hfault
    have hin := span_of_inRam (accessFault_none hfault).1
    by_cases hmode : shape.mode = 2#32
    · obtain ⟨rax', f', hrun⟩ := @run_scalarBody host rax (.word (BitVec.ofNat 64 ram.length)) r10 f g _ _
        (accessAddress g shape) _ _ hcoded hcount hwidth hform hin rfl
      exact ⟨rax', r10, _, f', fun rest => by rw [hrun rest, writeBase_plain hmode]⟩
    · obtain ⟨rax', f', hrun⟩ := @run_scalarBody host rax (.word (BitVec.ofNat 64 ram.length)) r10 f g _ _
        (accessAddress g shape) _ _ hcoded hcount hwidth hform hin (updated_base hcoded g hmode)
      exact ⟨rax', r10, _, f', hrun⟩
  · intro g ram hfault
    exact length_storedAt g (span_of_inRam (accessFault_none hfault).1) fun h => absurd h hsingle

lemma runs_pair (t : Target) {shape : MemoryShape} (hcoded : shape.Coded) (hcount : shape.count = 2#32)
    (hsigned : shape.signedLoad = false) (hoffset : shape.registerOffset = false)
    (hwidth : shape.width = 8#32 ∧ shape.result64 = true ∨ shape.width = 4#32 ∧ shape.result64 = false)
    (pc : U64) (n : U32) :
    Runs (checkedCode (pairPieces t shape) (pairBody shape) pc n (checksSp t shape.rn) true)
      (accessEffect t shape pc n) := by
  have hwidth' : shape.width = 4#32 ∨ shape.width = 8#32 := (hwidth.imp And.left And.left).symm
  have hsmall : shape.width.toNat < 128 := by
    rcases hwidth' with h | h <;> rw [h] <;> decide
  refine @runs_checked _ _ _ _ _ _ _ (fun g => accessAddress g shape + shape.width.zeroExtend 64)
      ((length_pair t shape).trans_lt (by decide)) (fun h => nomatch h) (checks_pair · t hcoded hcount hoffset hwidth') ?_ ?_
  · intro host rax r10 f g ram hfault
    obtain ⟨hin, hspan⟩ := span_of_pair hsmall ((accessFault_none hfault).2 hcount)
    by_cases hmode : shape.mode = 2#32
    · obtain ⟨rax', f', hrun⟩ := @run_pairBody host rax (.word (BitVec.ofNat 64 ram.length)) r10 f g _ _
        (accessAddress g shape) _ _ hcoded hcount hsigned hwidth hspan hin rfl
      exact ⟨rax', r10, _, f', fun rest => by rw [hrun rest, writeBase_plain hmode]⟩
    · obtain ⟨rax', f', hrun⟩ := @run_pairBody host rax (.word (BitVec.ofNat 64 ram.length)) r10 f g _ _
        (accessAddress g shape) _ _ hcoded hcount hsigned hwidth hspan hin (updated_base hcoded g hmode)
      exact ⟨rax', r10, _, f', hrun⟩
  · intro g ram hfault
    obtain ⟨hin, -⟩ := span_of_pair hsmall ((accessFault_none hfault).2 hcount)
    exact length_storedAt g (span_of_inRam (accessFault_none hfault).1) fun _ => hin

lemma translates_inlineMemory (t : Target) (w : U32) (pc : U64) (n : U32) :
    Translates (inlineMemory t w pc n) (inlineEffect t w pc n) := by
  -- every form starts by recording the word
  have hrecord : ∀ {m : Emit Bool} {code : List Byte} {more : Bool} {effect : VfCpu → List Byte → Effect},
      Emits m more code → Runs code effect →
      (more = false → ∀ g ram, ∃ status g' ram', effect g ram = .stops status g' ram') →
      Translates (do bytes (field32 Offset.instruction w); m) fun g ram => effect { g with instruction := w } ram := by
    intro m code more effect hemits hruns hstops
    refine ⟨_, more, (emits_bytes _).bind hemits, ?_, fun hmore g ram => hstops hmore _ _⟩
    intro host rax r9 r10 r11 f g ram rest
    rw [List.append_assoc, run_field32]
    exact hruns host rax r9 r10 r11 f { g with instruction := w } ram rest
  have hends : ∀ status : U32, Emits (do bytes (finish pc n status); pure false) false (finish pc n status ++ []) ∧
      Runs (finish pc n status ++ []) fun g ram => .stops status (finished g pc n) ram := by
    intro status
    refine ⟨(emits_bytes _).bind (emits_pure false), fun _ _ _ _ _ _ _ _ _ => ?_⟩
    rw [List.append_nil]
    exact returned_finish _ _ _
  unfold inlineMemory inlineEffect
  cases hdecode : decodeMemory w with
  | none =>
    obtain ⟨hemits, hruns⟩ := hends Status.undefinedInstruction
    exact hrecord hemits hruns fun _ _ _ => ⟨_, _, _, rfl⟩
  | some shape =>
    dsimp only
    by_cases hregime : outsideRegime t = true
    · rw [if_pos hregime]
      obtain ⟨hemits, hruns⟩ := hends Status.systemRegisterTrap
      simp only [hregime, if_true]
      exact hrecord hemits hruns fun _ _ _ => ⟨_, _, _, rfl⟩
    rw [if_neg hregime]
    simp only [hregime, Bool.false_eq_true, if_false]
    have hwidth := (decodeMemory_decoded hdecode).width
    unfold decodeMemory at hdecode
    by_cases hpair : pairFamily w = true
    · rw [if_pos hpair] at hdecode ⊢
      obtain ⟨hcoded, hcount, hsigned, hoffset, hforms⟩ := decodePair_coded hdecode
      exact hrecord (emits_checked _ _ _ _ _ _) (runs_pair t hcoded hcount hsigned hoffset hforms pc n) fun h => nomatch h
    · rw [if_neg hpair] at hdecode ⊢
      split at hdecode
      · obtain ⟨hcoded, hcount, -, hform⟩ := decodeScalar_coded hdecode
        exact hrecord (emits_checked _ _ _ _ _ _) (runs_scalar t hcoded hcount hwidth hform pc n) fun h => nomatch h
      · cases hdecode

end Nextcore.Jit
