import Nextcore.Fp.Bank

/-! `runtime/simd_copy.c`: vector DUP, INS, UMOV and SMOV, and what each does to the lanes of a register. -/

namespace Nextcore.Fp

open Lanes

inductive CopyOperation where
  | dupElement
  | dupGeneral
  | insGeneral
  | insElement
  | umov
  | smov
deriving DecidableEq, Repr

def laneMask (bits : ℕ) : U64 := if bits = 64 then BitVec.allOnes 64 else (1#64 <<< bits) - 1#64

/-- `none`: the lane lies outside of the register. -/
def readLane (bank : Bank) (reg : Fin 32) (lane bits : ℕ) : Option U64 :=
  let offset := lane * bits
  if h : offset / 64 < 2 then some ((bank.v reg ⟨offset / 64, h⟩ >>> (offset % 64)) &&& laneMask bits) else none

def writeLane (bank : Bank) (reg : Fin 32) (lane bits : ℕ) (value : U64) : Option Bank :=
  let offset := lane * bits
  let shift := offset % 64
  let mask := laneMask bits
  if h : offset / 64 < 2 then
    let half : Fin 2 := ⟨offset / 64, h⟩
    some (bank.write reg half ((bank.v reg half &&& ~~~(mask <<< shift)) ||| ((value &&& mask) <<< shift)))
  else none

def copyOperation (instruction : U32) : Option CopyOperation :=
  let selector := instruction &&& 0xbfe0fc00#32
  if selector = 0x0e000400#32 then some .dupElement
  else if selector = 0x0e000c00#32 then some .dupGeneral
  else if selector = 0x0e003c00#32 then some .umov
  else if selector = 0x0e002c00#32 then some .smov
  else if instruction &&& 0xffe0fc00#32 = 0x4e001c00#32 then some .insGeneral
  else if instruction &&& 0xffe08400#32 = 0x6e000400#32 then some .insElement
  else none

/-- The loop that finds the lowest set bit of `imm5`; it has one among the lowest four. -/
def elementSize (imm5 : U32) : (fuel : ℕ) → (size : ℕ) → ℕ
  | 0, size => size
  | fuel + 1, size => if imm5 &&& (1#32 <<< size) ≠ 0#32 then size else elementSize imm5 fuel (size + 1)

def copyReserved (operation : CopyOperation) (size : ℕ) (q : Bool) : Bool :=
  match operation with
  | .dupElement | .dupGeneral => decide (size = 3) && !q
  | .umov => if q then decide (size ≠ 3) else decide (2 < size)
  | .smov => if q then decide (2 < size) else decide (1 < size)
  | .insGeneral | .insElement => false

def readX (x : Fin 31 → U64) (src : Fin 32) : U64 := if h : src.val < 31 then x ⟨src, h⟩ else 0#64

def writeX (x : Fin 31 → U64) (dst : Fin 32) (value : U64) : Fin 31 → U64 :=
  if h : dst.val < 31 then Function.update x ⟨dst, h⟩ value else x

def copyValue (bank : Bank) (x : Fin 31 → U64) (instruction : U32) (operation : CopyOperation) (size lane bits : ℕ) :
    Option U64 :=
  let src := regField instruction 5
  match operation with
  | .dupGeneral | .insGeneral => some (readX x src &&& laneMask bits)
  | .insElement => readLane bank src (((instruction >>> 11) &&& 15#32).toNat >>> size) bits
  | _ => readLane bank src lane bits

def repeatLane (value : U64) (bits : ℕ) : U64 :=
  (List.range (64 / bits)).foldl (fun repeated k => repeated ||| (value <<< (k * bits))) 0#64

def copyResult (bank : Bank) (x : Fin 31 → U64) (dst : Fin 32) (operation : CopyOperation) (lane bits : ℕ) (q : Bool)
    (value : U64) : Option (Bank × (Fin 31 → U64)) :=
  match operation with
  | .dupElement | .dupGeneral =>
    let repeated := repeatLane value bits
    some ((bank.write dst 0 repeated).write dst 1 (if q then repeated else 0#64), x)
  | .insGeneral | .insElement => (writeLane bank dst lane bits value).map (·, x)
  | .umov => some (bank, writeX x dst (if q then value else (value.truncate 32).zeroExtend 64))
  | .smov =>
    let sign := 1#64 <<< (bits - 1)
    let value := (value ^^^ sign) - sign
    some (bank, writeX x dst (if q then value else (value.truncate 32).zeroExtend 64))

/-- `nc_simd_execute_copy` on a bank at `bankAt` and registers at `xAt`; `none` is an index out of its array. -/
def executeCopy (bankAt xAt : U64) (access : FpAccess) (instruction : U32) (bank : Bank) (x : Fin 31 → U64) :
    Option (FpResult × Bank × (Fin 31 → U64)) :=
  if bankAt = 0#64 ∨ xAt = 0#64 then some (.invalid, bank, x) else
  match copyOperation instruction with
  | none => some (.unsupported, bank, x)
  | some operation =>
    let imm5 := (instruction >>> 16) &&& 31#32
    if imm5 &&& 15#32 = 0#32 then some (.unsupported, bank, x) else
    let size := elementSize imm5 4 0
    let bits := 8 <<< size
    let q := decide ((instruction >>> 30) &&& 1#32 ≠ 0#32)
    if copyReserved operation size q then some (.unsupported, bank, x) else
    let granted := access.check
    if granted ≠ .ok then some (granted, bank, x) else
    if bank.controls = false then some (.invalid, bank, x) else
    if overlaps bankAt bankSize xAt 248#64 then some (.invalid, bank, x) else
    let lane := imm5.toNat >>> (size + 1)
    do
      let value ← copyValue bank x instruction operation size lane bits
      let (bank, x) ← copyResult bank x (regField instruction 0) operation lane bits q value
      some (.ok, bank, x)

/-! The reference: the fixed fields of each encoding, and the result lane by lane. -/

def CopyOperation.Encodes (instruction : U32) : CopyOperation → Prop
  | .dupElement => instruction.extractLsb' 31 1 = 0b0#1 ∧ instruction.extractLsb' 21 9 = 0b001110000#9 ∧
      instruction.extractLsb' 10 6 = 0b000001#6
  | .dupGeneral => instruction.extractLsb' 31 1 = 0b0#1 ∧ instruction.extractLsb' 21 9 = 0b001110000#9 ∧
      instruction.extractLsb' 10 6 = 0b000011#6
  | .smov => instruction.extractLsb' 31 1 = 0b0#1 ∧ instruction.extractLsb' 21 9 = 0b001110000#9 ∧
      instruction.extractLsb' 10 6 = 0b001011#6
  | .umov => instruction.extractLsb' 31 1 = 0b0#1 ∧ instruction.extractLsb' 21 9 = 0b001110000#9 ∧
      instruction.extractLsb' 10 6 = 0b001111#6
  | .insGeneral => instruction.extractLsb' 21 11 = 0b01001110000#11 ∧ instruction.extractLsb' 10 6 = 0b000111#6
  | .insElement => instruction.extractLsb' 21 11 = 0b01101110000#11 ∧ instruction.extractLsb' 15 1 = 0b0#1 ∧
      instruction.extractLsb' 10 1 = 0b1#1

def CopyOperation.Sized (size : ℕ) (q : Bool) : CopyOperation → Prop
  | .dupElement | .dupGeneral => q = true ∨ size < 3
  | .umov => if q then size = 3 else size < 3
  | .smov => if q then size < 3 else size < 2
  | .insGeneral | .insElement => True

structure Allocated (instruction : U32) (operation : CopyOperation) (size index : ℕ) (q : Bool) : Prop where
  encodes : operation.Encodes instruction
  size_lt : size < 4
  imm5 : (instruction.extractLsb' 16 5).toNat = (2 * index + 1) * 2 ^ size
  q_eq : q = instruction.getLsbD 30
  sized : operation.Sized size q

def sourceElement (bank : Bank) (x : Fin 31 → U64) (instruction : U32) (operation : CopyOperation) (size index : ℕ) :
    BitVec (8 * 2 ^ size) :=
  let rn := (instruction.extractLsb' 5 5).toFin
  match operation with
  | .dupGeneral | .insGeneral => (readX x rn).setWidth _
  | .insElement => lane (bank.q rn) _ ((instruction.extractLsb' 11 4).toNat / 2 ^ size)
  | _ => lane (bank.q rn) _ index

structure BankLanes (bank bank' : Bank) (rd : Fin 32) (bits : ℕ) (lanes : ℕ → BitVec bits) : Prop where
  fpcr : bank'.fpcr = bank.fpcr
  fpsr : bank'.fpsr = bank.fpsr
  others : ∀ reg, reg ≠ rd → bank'.q reg = bank.q reg
  lanes : ∀ i, (i + 1) * bits ≤ 128 → lane (bank'.q rd) bits i = lanes i

def Copied (instruction : U32) (bank : Bank) (x : Fin 31 → U64) (bank' : Bank) (x' : Fin 31 → U64) (size index : ℕ)
    (q : Bool) (operation : CopyOperation) : Prop :=
  let rd : Fin 32 := (instruction.extractLsb' 0 5).toFin
  let element := sourceElement bank x instruction operation size index
  match operation with
  | .dupElement | .dupGeneral =>
    x' = x ∧ BankLanes bank bank' rd (8 * 2 ^ size) fun i =>
      if q = true ∨ (i + 1) * (8 * 2 ^ size) ≤ 64 then element else 0#_
  | .insGeneral | .insElement =>
    x' = x ∧ BankLanes bank bank' rd (8 * 2 ^ size) fun i => if i = index then element else lane (bank.q rd) _ i
  | .umov => bank' = bank ∧ x' = writeX x rd (element.setWidth 64)
  | .smov => bank' = bank ∧ x' = writeX x rd ((element.signExtend (if q then 64 else 32)).setWidth 64)

section Lanes

variable {bits : ℕ}

lemma getLsbD_laneMask (bits : ℕ) {i : ℕ} (hi : i < 64) : (laneMask bits).getLsbD i = decide (i < bits) := by
  rw [laneMask]
  by_cases h : bits = 64
  · rw [if_pos h, BitVec.getLsbD_allOnes, h]
  · rw [if_neg h, Bits.getLsbD_low_mask, decide_eq_true hi, Bool.true_and]

lemma lane_fits (hbits : bits ∣ 64) (lane : ℕ) : lane * bits % 64 + bits ≤ 64 := by
  obtain ⟨m, hm⟩ := hbits
  have hm0 : 0 < m := Nat.pos_of_ne_zero fun h => by simp [h] at hm
  have hlt := Nat.mod_lt lane hm0
  calc lane * bits % 64 + bits = bits * (lane % m) + bits := by rw [hm, Nat.mul_comm lane, Nat.mul_mod_mul_left]
    _ = bits * (lane % m + 1) := by rw [Nat.mul_add, Nat.mul_one]
    _ ≤ bits * m := Nat.mul_le_mul_left _ hlt
    _ = 64 := hm.symm

lemma lane_half {lane : ℕ} (hpos : 0 < bits) (hlane : (lane + 1) * bits ≤ 128) : lane * bits / 64 < 2 := by
  rw [Nat.add_mul] at hlane
  omega

lemma readLane_eq (hbits : bits ∣ 64) (bank : Bank) (reg : Fin 32) {i : ℕ} (hlane : (i + 1) * bits ≤ 128)
    (hpos : 0 < bits) : readLane bank reg i bits = some ((lane (bank.q reg) bits i).setWidth 64) := by
  have hfits := lane_fits hbits i
  rw [readLane, dif_pos (lane_half hpos hlane)]
  congr 1
  apply BitVec.eq_of_getLsbD_eq
  intro k hk
  rw [BitVec.getLsbD_and, getLsbD_laneMask bits hk, BitVec.getLsbD_ushiftRight, BitVec.getLsbD_setWidth, getLsbD_lane,
    decide_eq_true hk, Bool.true_and, Bool.and_comm]
  by_cases hin : k < bits
  · rw [Bank.getLsbD_half _ _ _ (by omega), ← Nat.add_assoc, Nat.div_add_mod]
  · simp [hin]

lemma getLsbD_merge {shift : ℕ} (hshift : shift + bits ≤ 64) (half : U64) (element : BitVec bits) {b : ℕ}
    (hb : b < 64) :
    ((half &&& ~~~(laneMask bits <<< shift)) ||| ((element.setWidth 64 &&& laneMask bits) <<< shift)).getLsbD b =
      if shift ≤ b ∧ b < shift + bits then element.getLsbD (b - shift) else half.getLsbD b := by
  rw [BitVec.getLsbD_or, BitVec.getLsbD_and, BitVec.getLsbD_not, BitVec.getLsbD_shiftLeft, BitVec.getLsbD_shiftLeft,
    BitVec.getLsbD_and, getLsbD_laneMask bits (by omega), BitVec.getLsbD_setWidth]
  by_cases hlow : b < shift
  · simp [hb, hlow, show ¬shift ≤ b by omega]
  by_cases hhigh : b < shift + bits
  · simp [hb, hlow, hhigh, show shift ≤ b by omega, show b - shift < bits by omega, show b - shift < 64 by omega]
  · simp [hb, hlow, hhigh, show ¬b - shift < bits by omega]

lemma writeLane_eq (hbits : bits ∣ 64) (bank : Bank) (reg : Fin 32) {index : ℕ} (hlane : (index + 1) * bits ≤ 128)
    (hpos : 0 < bits) (element : BitVec bits) :
    ∃ bank', writeLane bank reg index bits (element.setWidth 64) = some bank' ∧
      BankLanes bank bank' reg bits fun i => if i = index then element else lane (bank.q reg) bits i := by
  have hfits := lane_fits hbits index
  rw [writeLane, dif_pos (lane_half hpos hlane)]
  refine ⟨_, rfl, rfl, rfl, fun other hother => Bank.q_write_of_ne hother _ _, fun i hi => ?_⟩
  apply BitVec.eq_of_getLsbD_eq
  intro k hk
  have hplace : i * bits + k < 128 := by
    rw [Nat.add_mul] at hi
    omega
  rw [getLsbD_lane, decide_eq_true hk, Bool.true_and, Bank.getLsbD_q_write _ _ _ _ hplace,
    getLsbD_merge hfits _ element (Nat.mod_lt _ (by decide))]
  dsimp only
  by_cases hi : i = index
  · subst hi
    rw [if_pos (by omega), if_pos (by omega), if_pos rfl]
    congr 1
    omega
  · -- the bits of another lane are not those of this one
    have hother : ¬(index * bits ≤ i * bits + k ∧ i * bits + k < index * bits + bits) := by
      rintro ⟨hlow, hhigh⟩
      rcases Nat.lt_or_gt_of_ne hi with hlt | hlt
      · have := Nat.mul_le_mul_right bits (show i + 1 ≤ index from hlt)
        rw [Nat.add_mul] at this
        omega
      · have := Nat.mul_le_mul_right bits (show index + 1 ≤ i from hlt)
        rw [Nat.add_mul] at this
        omega
    rw [if_neg hi, getLsbD_lane, decide_eq_true hk, Bool.true_and]
    by_cases hhalf : (i * bits + k) / 64 = index * bits / 64
    · rw [if_pos hhalf, if_neg (by omega), Bank.getLsbD_half _ _ _ (Nat.mod_lt _ (by decide))]
      congr 1
      dsimp only
      omega
    · rw [if_neg hhalf]

lemma getLsbD_repeatLane (hbits : bits ∣ 64) (hpos : 0 < bits) (element : BitVec bits) {i : ℕ} (hi : i < 64) :
    (repeatLane (element.setWidth 64) bits).getLsbD i = element.getLsbD (i % bits) := by
  have hrounds : ∀ rounds, ((List.range rounds).foldl
      (fun repeated k => repeated ||| (element.setWidth 64 <<< (k * bits))) 0#64).getLsbD i =
        (decide (i < rounds * bits) && element.getLsbD (i % bits)) := by
    intro rounds
    induction rounds with
    | zero => simp
    | succ rounds ih =>
      rw [List.range_succ, List.foldl_append, List.foldl_cons, List.foldl_nil, BitVec.getLsbD_or, ih,
        BitVec.getLsbD_shiftLeft, BitVec.getLsbD_setWidth, Nat.add_mul, Nat.one_mul]
      by_cases hlow : i < rounds * bits
      · simp [hlow, show i < rounds * bits + bits by omega]
      by_cases hhigh : i < rounds * bits + bits
      · have hplace : i - rounds * bits = i % bits := by
          have hdiv : i = rounds * bits + (i - rounds * bits) := by omega
          rw [hdiv, Nat.add_comm, Nat.add_mul_mod_self_right, Nat.mod_eq_of_lt (by omega), Nat.add_sub_cancel]
        simp [hlow, hhigh, hi, hplace, show i % bits < 64 by omega]
      · simp [hlow, hhigh, BitVec.getLsbD_of_ge element (i - rounds * bits) (by omega)]
  rw [repeatLane, hrounds, Nat.div_mul_cancel hbits, decide_eq_true hi, Bool.true_and]

lemma dup_lanes (hbits : bits ∣ 64) (hpos : 0 < bits) (bank : Bank) (reg : Fin 32) (q : Bool) (element : BitVec bits) :
    BankLanes bank ((bank.write reg 0 (repeatLane (element.setWidth 64) bits)).write reg 1
      (if q then repeatLane (element.setWidth 64) bits else 0#64)) reg bits
      fun i => if q = true ∨ (i + 1) * bits ≤ 64 then element else (0 : BitVec bits) := by
  refine ⟨rfl, rfl, fun other hother => ?_, fun i hi => ?_⟩
  · rw [Bank.q_write_of_ne hother, Bank.q_write_of_ne hother]
  have hfits := lane_fits hbits i
  rw [Bank.q_write_write]
  apply BitVec.eq_of_getLsbD_eq
  intro k hk
  have hplace : i * bits + k < 128 := by
    rw [Nat.add_mul] at hi
    omega
  obtain ⟨m, hm⟩ := hbits
  rw [getLsbD_lane, decide_eq_true hk, Bool.true_and, BitVec.getLsbD_append]
  by_cases hlow : i * bits + k < 64
  · have hhalf : (i + 1) * bits ≤ 64 := by
      rw [Nat.add_mul]
      omega
    rw [if_pos hlow, getLsbD_repeatLane ⟨m, hm⟩ hpos element hlow, if_pos (.inr hhalf), Nat.mul_comm i,
      Nat.mul_add_mod, Nat.mod_eq_of_lt hk]
  · have hhalf : ¬(i + 1) * bits ≤ 64 := by
      rw [Nat.add_mul]
      omega
    rw [if_neg hlow]
    cases q with
    | false => simp [hhalf]
    | true =>
      have hlane : (i * bits + k - 64) % bits = k := by
        rw [hm, Nat.sub_mul_mod (by rw [← hm]; omega), Nat.mul_comm i, Nat.mul_add_mod, Nat.mod_eq_of_lt hk]
      rw [if_pos rfl, getLsbD_repeatLane ⟨m, hm⟩ hpos element (by omega), if_pos (.inl rfl), hlane]

end Lanes

section Decode

variable {instruction : U32} {operation : CopyOperation} {size index : ℕ} {q : Bool}

lemma selector_iff {v : U32} (hv : v &&& 0xbfe0fc00#32 = v) : instruction &&& 0xbfe0fc00#32 = v ↔
    instruction.extractLsb' 31 1 = v.extractLsb' 31 1 ∧ instruction.extractLsb' 21 9 = v.extractLsb' 21 9 ∧
      instruction.extractLsb' 10 6 = v.extractLsb' 10 6 := by
  rw [and_eq_iff_fields [(31, 1), (21, 9), (10, 6)] (by decide) hv]
  simp only [List.forall_mem_cons, List.not_mem_nil, false_implies, implies_true, and_true]

lemma insGeneral_iff :
    instruction &&& 0xffe0fc00#32 = 0x4e001c00#32 ↔ CopyOperation.insGeneral.Encodes instruction := by
  rw [and_eq_iff_fields [(21, 11), (10, 6)] (by decide) (by decide)]
  simp only [List.forall_mem_cons, List.not_mem_nil, false_implies, implies_true, and_true]
  exact Iff.rfl

lemma insElement_iff :
    instruction &&& 0xffe08400#32 = 0x6e000400#32 ↔ CopyOperation.insElement.Encodes instruction := by
  rw [and_eq_iff_fields [(21, 11), (15, 1), (10, 1)] (by decide) (by decide)]
  simp only [List.forall_mem_cons, List.not_mem_nil, false_implies, implies_true, and_true]
  exact Iff.rfl

lemma selector_ne_of_ins (h : operation.Encodes instruction)
    (hins : operation = .insGeneral ∨ operation = .insElement) {v : U32} (hv : v &&& 0xbfe0fc00#32 = v)
    (hfields : v.extractLsb' 21 9 = 0b001110000#9) (hlow : v.extractLsb' 10 6 ≠ 0b000111#6) :
    instruction &&& 0xbfe0fc00#32 ≠ v := by
  rw [ne_eq, selector_iff hv]
  rintro ⟨-, hmiddle, hten⟩
  rcases hins with rfl | rfl
  · exact hlow (hten.symm.trans h.2)
  · have hop := congrArg (BitVec.getLsbD · 8) h.1
    have hop' := congrArg (BitVec.getLsbD · 8) (hmiddle.trans hfields)
    simp at hop hop'
    rw [hop] at hop'
    cases hop'

lemma copyOperation_iff : copyOperation instruction = some operation ↔ operation.Encodes instruction := by
  constructor
  · intro h
    unfold copyOperation at h
    dsimp only at h
    split_ifs at h with h1 h2 h3 h4 h5 h6 <;> cases h
    · exact (selector_iff (by decide)).mp h1
    · exact (selector_iff (by decide)).mp h2
    · exact (selector_iff (by decide)).mp h3
    · exact (selector_iff (by decide)).mp h4
    · exact insGeneral_iff.mp h5
    · exact insElement_iff.mp h6
  · intro h
    unfold copyOperation
    dsimp only
    cases operation with
    | dupElement =>
      rw [(selector_iff (v := 0x0e000400#32) (by decide)).mpr h]
      rfl
    | dupGeneral =>
      rw [(selector_iff (v := 0x0e000c00#32) (by decide)).mpr h]
      rfl
    | umov =>
      rw [(selector_iff (v := 0x0e003c00#32) (by decide)).mpr h]
      rfl
    | smov =>
      rw [(selector_iff (v := 0x0e002c00#32) (by decide)).mpr h]
      rfl
    | insGeneral =>
      have hne {v : U32} := @selector_ne_of_ins instruction _ h (.inl rfl) v
      rw [if_neg (hne (by decide) (by decide) (by decide)), if_neg (hne (by decide) (by decide) (by decide)),
        if_neg (hne (by decide) (by decide) (by decide)), if_neg (hne (by decide) (by decide) (by decide)),
        if_pos (insGeneral_iff.mpr h)]
    | insElement =>
      have hne {v : U32} := @selector_ne_of_ins instruction _ h (.inr rfl) v
      have hgeneral : ¬instruction &&& 0xffe0fc00#32 = 0x4e001c00#32 := by
        rw [insGeneral_iff]
        intro hother
        exact absurd (hother.1.symm.trans h.1) (by decide)
      rw [if_neg (hne (by decide) (by decide) (by decide)), if_neg (hne (by decide) (by decide) (by decide)),
        if_neg (hne (by decide) (by decide) (by decide)), if_neg (hne (by decide) (by decide) (by decide)),
        if_neg hgeneral, if_pos (insElement_iff.mpr h)]

lemma elementSize_of : ∀ n < 32, (BitVec.ofNat 32 n) &&& 15#32 ≠ 0#32 → elementSize (BitVec.ofNat 32 n) 4 0 < 4 ∧
    n = (2 * (n >>> (elementSize (BitVec.ofNat 32 n) 4 0 + 1)) + 1) * 2 ^ elementSize (BitVec.ofNat 32 n) 4 0 := by
  decide

lemma elementSize_eq : ∀ size < 4, ∀ index < 16, (2 * index + 1) * 2 ^ size < 32 →
    (BitVec.ofNat 32 ((2 * index + 1) * 2 ^ size)) &&& 15#32 ≠ 0#32 ∧
      elementSize (BitVec.ofNat 32 ((2 * index + 1) * 2 ^ size)) 4 0 = size ∧
      ((2 * index + 1) * 2 ^ size) >>> (size + 1) = index := by
  decide

lemma copyReserved_iff (operation : CopyOperation) (hsize : size < 4) (q : Bool) :
    copyReserved operation size q = false ↔ operation.Sized size q := by
  cases operation <;> cases q <;> simp [copyReserved, CopyOperation.Sized] <;> omega

lemma Allocated.lanes (h : Allocated instruction operation size index q) :
    (index + 1) * (8 * 2 ^ size) ≤ 128 ∧
      ((instruction.extractLsb' 11 4).toNat / 2 ^ size + 1) * (8 * 2 ^ size) ≤ 128 := by
  have himm5 := h.imm5
  have hsize := h.size_lt
  have hfive := (instruction.extractLsb' 16 5).isLt
  have hfour := (instruction.extractLsb' 11 4).isLt
  constructor
  · interval_cases size <;> omega
  · interval_cases size <;> omega

lemma Allocated.fields (h : Allocated instruction operation size index q) :
    ((instruction >>> 16) &&& 31#32) &&& 15#32 ≠ 0#32 ∧ elementSize ((instruction >>> 16) &&& 31#32) 4 0 = size ∧
      ((instruction >>> 16) &&& 31#32).toNat >>> (size + 1) = index ∧
      decide ((instruction >>> 30) &&& 1#32 ≠ 0#32) = q ∧ copyReserved operation size q = false := by
  have himm5 : (instruction >>> 16) &&& 31#32 = BitVec.ofNat 32 ((2 * index + 1) * 2 ^ size) := by
    rw [← h.imm5, ← toNat_field, BitVec.ofNat_toNat, BitVec.setWidth_eq]
  have hlt : (2 * index + 1) * 2 ^ size < 32 := by
    rw [← h.imm5]
    exact (instruction.extractLsb' 16 5).isLt
  have hindex : index < 16 := by
    have := Nat.le_mul_of_pos_right (2 * index + 1) (Nat.two_pow_pos size)
    omega
  obtain ⟨hlow, hsize, hlane⟩ := elementSize_eq size h.size_lt index hindex hlt
  have hq : decide ((instruction >>> 30) &&& 1#32 ≠ 0#32) = instruction.getLsbD 30 := by
    rw [BitVec.and_one_eq_setWidth_ofBool_getLsbD, BitVec.getLsbD_ushiftRight]
    cases instruction.getLsbD 30 <;> rfl
  refine ⟨by rwa [himm5], by rwa [himm5], by rwa [toNat_field, h.imm5], by rw [hq, h.q_eq], ?_⟩
  exact (copyReserved_iff operation h.size_lt q).mpr h.sized

lemma allocated_of_checks (hoperation : copyOperation instruction = some operation)
    (himm5 : ((instruction >>> 16) &&& 31#32) &&& 15#32 ≠ 0#32)
    (hreserved : copyReserved operation (elementSize ((instruction >>> 16) &&& 31#32) 4 0)
      (decide ((instruction >>> 30) &&& 1#32 ≠ 0#32)) = false) :
    ∃ size index q, Allocated instruction operation size index q := by
  have hword : (instruction >>> 16) &&& 31#32 = BitVec.ofNat 32 (instruction.extractLsb' 16 5).toNat := by
    rw [← toNat_field, BitVec.ofNat_toNat, BitVec.setWidth_eq]
  have hq : decide ((instruction >>> 30) &&& 1#32 ≠ 0#32) = instruction.getLsbD 30 := by
    rw [BitVec.and_one_eq_setWidth_ofBool_getLsbD, BitVec.getLsbD_ushiftRight]
    cases instruction.getLsbD 30 <;> rfl
  rw [hword] at himm5 hreserved
  obtain ⟨hsize, hvalue⟩ := elementSize_of _ (instruction.extractLsb' 16 5).isLt himm5
  exact ⟨_, _, _, copyOperation_iff.mp hoperation, hsize, hvalue, rfl,
    (copyReserved_iff operation hsize _).mp (hq ▸ hreserved)⟩

end Decode

section Execute

variable {instruction : U32} {operation : CopyOperation} {size index : ℕ} {q : Bool}

lemma element_dvd (hsize : size < 4) : 8 * 2 ^ size ∣ 64 := by
  interval_cases size <;> decide

lemma copyValue_eq (h : Allocated instruction operation size index q) (bank : Bank) (x : Fin 31 → U64) :
    copyValue bank x instruction operation size index (8 * 2 ^ size) =
      some ((sourceElement bank x instruction operation size index).setWidth 64) := by
  have hdvd := element_dvd h.size_lt
  have hpos : 0 < 8 * 2 ^ size := Nat.mul_pos (by decide) (Nat.two_pow_pos size)
  obtain ⟨hindex, hsource⟩ := h.lanes
  have himm4 : ((instruction >>> 11) &&& 15#32).toNat >>> size = (instruction.extractLsb' 11 4).toNat / 2 ^ size := by
    rw [Bits.toNat_and_mask _ 4 _ rfl, BitVec.toNat_ushiftRight, BitVec.extractLsb'_toNat,
      Nat.shiftRight_eq_div_pow _ size]
  have hgeneral : readX x (regField instruction 5) &&& laneMask (8 * 2 ^ size) =
      ((readX x (instruction.extractLsb' 5 5).toFin).setWidth (8 * 2 ^ size)).setWidth 64 := by
    rw [regField_eq]
    apply BitVec.eq_of_getLsbD_eq
    intro i hi
    rw [BitVec.getLsbD_and, getLsbD_laneMask _ hi, BitVec.getLsbD_setWidth, BitVec.getLsbD_setWidth, decide_eq_true hi,
      Bool.true_and, Bool.and_comm]
  unfold copyValue sourceElement
  cases operation with
  | dupGeneral => exact congrArg some hgeneral
  | insGeneral => exact congrArg some hgeneral
  | insElement =>
    dsimp only
    rw [himm4, regField_eq, readLane_eq hdvd bank _ hsource hpos]
  | dupElement =>
    dsimp only
    rw [regField_eq, readLane_eq hdvd bank _ hindex hpos]
  | umov =>
    dsimp only
    rw [regField_eq, readLane_eq hdvd bank _ hindex hpos]
  | smov =>
    dsimp only
    rw [regField_eq, readLane_eq hdvd bank _ hindex hpos]

lemma copyResult_copied (h : Allocated instruction operation size index q) (bank : Bank) (x : Fin 31 → U64) :
    ∃ bank' x', copyResult bank x (regField instruction 0) operation index (8 * 2 ^ size) q
        ((sourceElement bank x instruction operation size index).setWidth 64) = some (bank', x') ∧
      Copied instruction bank x bank' x' size index q operation := by
  have hdvd := element_dvd h.size_lt
  have hpos : 0 < 8 * 2 ^ size := Nat.mul_pos (by decide) (Nat.two_pow_pos size)
  have hle : 8 * 2 ^ size ≤ 64 := Nat.le_of_dvd (by decide) hdvd
  have hsized := h.sized
  rw [regField_eq]
  unfold copyResult Copied
  generalize sourceElement bank x instruction operation size index = element
  cases operation with
  | dupElement => exact ⟨_, _, rfl, rfl, dup_lanes hdvd hpos bank _ q element⟩
  | dupGeneral => exact ⟨_, _, rfl, rfl, dup_lanes hdvd hpos bank _ q element⟩
  | insGeneral =>
    obtain ⟨bank', hwrite, hlanes⟩ :=
      writeLane_eq hdvd bank (instruction.extractLsb' 0 5).toFin h.lanes.1 hpos element
    exact ⟨bank', x, by rw [hwrite]; rfl, rfl, hlanes⟩
  | insElement =>
    obtain ⟨bank', hwrite, hlanes⟩ :=
      writeLane_eq hdvd bank (instruction.extractLsb' 0 5).toFin h.lanes.1 hpos element
    exact ⟨bank', x, by rw [hwrite]; rfl, rfl, hlanes⟩
  | umov =>
    refine ⟨_, _, rfl, rfl, ?_⟩
    cases q with
    | true => rfl
    | false =>
      -- a lane of at most 32 bits is not cut off by the W form
      have hwidth : size < 3 := hsized
      have hbits : 8 * 2 ^ size ≤ 32 := by interval_cases size <;> decide
      rw [if_neg Bool.false_ne_true]
      congr 1
      apply BitVec.eq_of_getLsbD_eq
      intro i hi
      simp only [BitVec.truncate_eq_setWidth, BitVec.getLsbD_setWidth, decide_eq_true hi, Bool.true_and]
      by_cases hin : i < 32
      · simp [hin]
      · simp [hin, BitVec.getLsbD_of_ge element i (by omega)]
  | smov =>
    refine ⟨_, _, rfl, rfl, ?_⟩
    rw [xor_sub_sign hpos hle]
    cases q with
    | true =>
      rw [if_pos rfl]
      exact congrArg (writeX x _) (BitVec.setWidth_eq _).symm
    | false =>
      rw [if_neg Bool.false_ne_true, BitVec.truncate_eq_setWidth, Bits.truncate_signExtend _ (by decide)]
      rfl

structure CopyAdmitted (bankAt xAt : U64) (access : FpAccess) (bank : Bank) : Prop where
  bank_ne : bankAt ≠ 0#64
  x_ne : xAt ≠ 0#64
  granted : access.check = .ok
  controls : bank.controls = true
  disjoint : overlaps bankAt bankSize xAt 248#64 = false

lemma executeCopy_allocated {bankAt xAt : U64} {access : FpAccess} {bank : Bank}
    (ha : CopyAdmitted bankAt xAt access bank) (h : Allocated instruction operation size index q) (x : Fin 31 → U64) :
    ∃ bank' x', executeCopy bankAt xAt access instruction bank x = some (.ok, bank', x') ∧
      Copied instruction bank x bank' x' size index q operation := by
  obtain ⟨hlow, hsize, hlane, hq, hreserved⟩ := h.fields
  obtain ⟨bank', x', hresult, hcopied⟩ := copyResult_copied h bank x
  have hpointers : ¬(bankAt = 0#64 ∨ xAt = 0#64) := not_or.mpr ⟨ha.bank_ne, ha.x_ne⟩
  refine ⟨bank', x', ?_, hcopied⟩
  rw [executeCopy, if_neg hpointers, copyOperation_iff.mpr h.encodes]
  dsimp only
  rw [if_neg hlow, hsize, hq, hreserved, if_neg Bool.false_ne_true, if_neg (not_not.mpr ha.granted), ha.controls,
    if_neg (by decide), ha.disjoint, if_neg Bool.false_ne_true, hlane, Nat.shiftLeft_eq, copyValue_eq h bank x,
    Option.bind_eq_bind, Option.bind_some, hresult]
  rfl

lemma executeCopy_refused {bankAt xAt : U64} {access : FpAccess} {bank : Bank} (x : Fin 31 → U64)
    (h : ¬(CopyAdmitted bankAt xAt access bank ∧
      ∃ operation size index q, Allocated instruction operation size index q)) :
    ∃ result, result ≠ .ok ∧ executeCopy bankAt xAt access instruction bank x = some (result, bank, x) := by
  rw [executeCopy]
  by_cases hpointers : bankAt = 0#64 ∨ xAt = 0#64
  · exact ⟨.invalid, by decide, if_pos hpointers⟩
  rw [if_neg hpointers]
  cases hoperation : copyOperation instruction with
  | none => exact ⟨.unsupported, by decide, rfl⟩
  | some operation =>
    dsimp only
    by_cases himm5 : ((instruction >>> 16) &&& 31#32) &&& 15#32 = 0#32
    · exact ⟨.unsupported, by decide, if_pos himm5⟩
    rw [if_neg himm5]
    cases hreserved : copyReserved operation (elementSize ((instruction >>> 16) &&& 31#32) 4 0)
        (decide ((instruction >>> 30) &&& 1#32 ≠ 0#32)) with
    | true => exact ⟨.unsupported, by decide, rfl⟩
    | false =>
      rw [if_neg Bool.false_ne_true]
      by_cases hgranted : access.check ≠ .ok
      · exact ⟨access.check, hgranted, if_pos hgranted⟩
      rw [if_neg hgranted]
      cases hcontrols : bank.controls with
      | false => exact ⟨.invalid, by decide, rfl⟩
      | true =>
        rw [if_neg (by decide)]
        cases hdisjoint : overlaps bankAt bankSize xAt 248#64 with
        | true => exact ⟨.invalid, by decide, rfl⟩
        | false =>
          rw [not_or] at hpointers
          exact (h ⟨⟨hpointers.1, hpointers.2, not_not.mp hgranted, hcontrols, hdisjoint⟩, operation,
            allocated_of_checks hoperation himm5 hreserved⟩).elim

/-- A copy is executed exactly when its word is allocated and the call is admitted. Every array index is then in its
array, the lanes lie within 128 bits, and the banks are as the reference says; in every other case they are as before. -/
theorem simd_copy (bankAt xAt : U64) (access : FpAccess) (instruction : U32) (bank : Bank) (x : Fin 31 → U64) :
    ∃ result bank' x', executeCopy bankAt xAt access instruction bank x = some (result, bank', x') ∧
      (result = .ok ↔ CopyAdmitted bankAt xAt access bank ∧
        ∃ operation size index q, Allocated instruction operation size index q) ∧
      (result ≠ .ok → bank' = bank ∧ x' = x) ∧
      (result = .ok → ∀ operation size index q, Allocated instruction operation size index q →
        (index + 1) * (8 * 2 ^ size) ≤ 128 ∧
        ((instruction.extractLsb' 11 4).toNat / 2 ^ size + 1) * (8 * 2 ^ size) ≤ 128 ∧
        Copied instruction bank x bank' x' size index q operation) := by
  by_cases h : CopyAdmitted bankAt xAt access bank ∧
      ∃ operation size index q, Allocated instruction operation size index q
  · obtain ⟨ha, operation, size, index, q, hallocated⟩ := h
    obtain ⟨bank', x', hrun, -⟩ := executeCopy_allocated ha hallocated x
    refine ⟨.ok, bank', x', hrun, iff_of_true rfl ⟨ha, _, _, _, _, hallocated⟩, fun hne => absurd rfl hne, ?_⟩
    intro _ operation size index q hallocated
    obtain ⟨bank'', x'', hrun', hcopied⟩ := executeCopy_allocated ha hallocated x
    rw [hrun] at hrun'
    cases hrun'
    exact ⟨hallocated.lanes.1, hallocated.lanes.2, hcopied⟩
  · obtain ⟨result, hne, hrun⟩ := executeCopy_refused x h
    exact ⟨result, bank, x, hrun, iff_of_false hne h, fun _ => ⟨rfl, rfl⟩, fun hok => absurd hok hne⟩

end Execute

end Nextcore.Fp
