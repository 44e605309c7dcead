import Nextcore.Lib.Bits
import Nextcore.Provider.Exchange

/-! What a provider step can end in, whatever the callback answers: success with
the complete commit, a guest fault with the recomputed syndrome, or a provider
error that leaves the CPU alone. -/

namespace Nextcore.Provider

open Abi Abi.V2 Cpu Jit

def faultEsr (q : Request) (r : Reply) : U64 :=
  let store := if q.operation = opStore then 64#64 else 0#64
  if r.fault = pcAlignment then 0x8a000000#64
  else if r.fault = dataAlignment then
    ((0x24#64 + q.currentEl.zeroExtend 64) <<< 26) ||| (1#64 <<< 25) ||| 0x21#64 ||| store
  else
    ((abortClass q + q.currentEl).zeroExtend 64 <<< 26) ||| (1#64 <<< 25) |||
      (faultStatus r.fault r.level).zeroExtend 64 ||| store

lemma v2FaultValid_esr {q : Request} {r : Reply} {esr : U64} (h : v2FaultValid q r = some esr) :
    esr = faultEsr q r := by
  unfold v2FaultValid at h
  unfold faultEsr
  dsimp only at h ⊢
  split at h
  · cases h
  split at h
  · rename_i halign
    split at h
    · cases h
    split at h
    · rename_i hpc
      rw [if_pos hpc]
      split at h
      · cases h
      · exact (Option.some.inj h).symm
    · rename_i hpc
      rw [if_neg hpc, if_pos (halign.resolve_left hpc)]
      split at h
      · cases h
      · exact (Option.some.inj h).symm
  · rename_i halign
    rw [not_or] at halign
    rw [if_neg halign.1, if_neg halign.2]
    split at h
    · cases h
    split at h
    · cases h
    split at h
    · cases h
    · exact (Option.some.inj h).symm

lemma v2Error_reason {result : RunResultV2} {reason : U32} (h : reason ≠ ProviderStatus.ok) :
    (v2Error result reason).2.base.providerStatus ≠ ProviderStatus.ok := h

structure Heard (q : Request) (code : U32) (r : Reply) (version : U32) : Prop where
  code : code = 0#32
  header : headerInvalid q r version = false

/-- A reply that serves its request. -/
structure Validated (q : Request) (code : U32) (r : Reply) (version : U32) : Prop extends Heard q code r version where
  ok : r.result = ok
  valid : okInvalid q r version = false

inductive Verdict (cpu : VfCpu) (q : Request) (code : U32) (r : Reply) (version : U32) :
    U32 × VfCpu × RunResultV2 → Prop
  | success (result : RunResultV2) (hvalidated : Validated q code r version) :
      Verdict cpu q code r version (Status.next, cpu, { result with lastReply := r })
  | fault (result : RunResultV2) (raised : VfCpu) (hheard : Heard q code r version)
      (hvalid : v2FaultValid q r = some (faultEsr q r)) (hesr : r.esr = faultEsr q r)
      (hlow : q.address ≤ r.address)
      (hhigh : r.address - q.address < (q.width * q.count).zeroExtend 64)
      (hraise : cpu.raiseException (faultKind q r) cpu.pc r.address ((faultEsr q r).truncate 32)
        (if q.operation = opFetch then 0#32 else cpu.instruction) = some raised) :
      Verdict cpu q code r version (faultStatusCode q r, raised, result)
  | error (result : RunResultV2) (hreason : result.base.providerStatus ≠ ProviderStatus.ok) :
      Verdict cpu q code r version (Status.dataFault, cpu, result)

lemma judgeReply_verdict (cpu : VfCpu) (q : Request) (code : U32) (r : Reply) (result : RunResultV2)
    (version : U32) : Verdict cpu q code r version (judgeReply cpu q code r result version) := by
  unfold judgeReply
  dsimp only
  split
  · exact .error _ (v2Error_reason (by decide))
  rename_i hcode
  split
  · exact .error _ (v2Error_reason (by decide))
  rename_i hheader
  have hheard : Heard q code r version := ⟨not_not.mp hcode, Bool.eq_false_of_not_eq_true hheader⟩
  split
  · rename_i hok
    split
    · exact .error _ (v2Error_reason (by decide))
    · rename_i hvalid
      exact .success result ⟨hheard, hok, Bool.eq_false_of_not_eq_true hvalid⟩
  split
  · exact .error _ (v2Error_reason (by decide))
  split
  · split <;> exact .error _ (v2Error_reason (by decide))
  split
  · exact .error _ (v2Error_reason (by decide))
  rename_i hrange
  rw [not_or, BitVec.not_lt, BitVec.not_le] at hrange
  split
  · split
    · exact .error _ (v2Error_reason (by decide))
    · refine .error _ (v2Error_reason ?_)
      split <;> decide
  split
  · exact .error _ (v2Error_reason (by decide))
  split
  · exact .error _ (v2Error_reason (by decide))
  unfold commitFault
  dsimp only
  split
  · exact .error _ (v2Error_reason (by decide))
  rename_i esr hvalid
  obtain rfl := v2FaultValid_esr hvalid
  split
  · exact .error _ (v2Error_reason (by decide))
  rename_i hesr
  split
  · exact .error _ (v2Error_reason (by decide))
  rename_i raised hraise
  exact .fault _ raised hheard hvalid (not_not.mp hesr) hrange.1 hrange.2 hraise

structure Admitted (cpu : VfCpu) (controls : Controls) (version : U32) : Prop where
  valid : cpu.stateValid = true
  quiet : cpu.exceptionPending = Exception.none
  controls : version = 2#32 ∧ memoryControlsValidV2 controls = true ∧ v2ControlsMatch cpu controls = true ∨
    version = 3#32 ∧ dynamicControlsValid controls = true ∧ cpu.currentEl = 1#32

lemma stateValid_el {cpu : VfCpu} (h : cpu.stateValid = true) : cpu.currentEl ≤ 3#32 := by
  unfold VfCpu.stateValid at h
  dsimp only at h
  split at h
  · cases h
  · rename_i hchecks
    rw [not_or, BitVec.not_lt] at hchecks
    exact hchecks.1

lemma toNat_or_lt {a b : U64} (ha : a.toNat < 2 ^ 32) (hb : b.toNat < 2 ^ 32) :
    (a ||| b).toNat < 2 ^ 32 := by
  rw [BitVec.toNat_or]
  exact Nat.or_lt_two_pow ha hb

lemma store_bit_lt (q : Request) : (if q.operation = opStore then 64#64 else 0#64).toNat < 2 ^ 32 := by
  split <;> decide

lemma faultEsr_lt {q : Request} (hel : q.currentEl ≤ 3#32) (r : Reply) :
    (faultEsr q r).toNat < 2 ^ 32 := by
  unfold faultEsr
  dsimp only
  split
  · decide
  split
  · refine toNat_or_lt (toNat_or_lt (toNat_or_lt ?_ (by decide)) (by decide)) (store_bit_lt q)
    bv_omega
  · refine toNat_or_lt (toNat_or_lt (toNat_or_lt ?_ (by decide)) ?_) (store_bit_lt q)
    · unfold abortClass
      split <;> bv_omega
    · have := (faultStatus r.fault r.level).isLt
      simp only [BitVec.truncate_eq_setWidth, BitVec.toNat_setWidth]
      omega

lemma faultEsr_ne_zero (q : Request) (r : Reply) : (faultEsr q r).truncate 32 ≠ (0#32 : U32) := by
  intro h
  have hbit := congrArg (fun v : U32 => v.getLsbD 25) h
  unfold faultEsr at hbit
  dsimp only at hbit
  split at hbit
  · revert hbit
    decide
  split at hbit
  · simp at hbit
  · simp at hbit

lemma saveActiveSp_eq (cpu : VfCpu) : ∃ spEl, cpu.saveActiveSp = { cpu with spEl := spEl } := by
  unfold VfCpu.saveActiveSp
  split
  · exact ⟨_, rfl⟩
  · exact ⟨cpu.spEl, rfl⟩

structure FaultRecorded (cpu cpu' : VfCpu) (q : Request) (r : Reply) : Prop where
  validated : v2FaultValid q r = some (faultEsr q r)
  esr : cpu'.esr = faultEsr q r
  far : cpu'.far = r.address
  low : q.address ≤ r.address
  high : r.address - q.address < (q.width * q.count).zeroExtend 64
  pending : cpu'.exceptionPending = faultKind q r
  x : cpu'.x = cpu.x
  sp : cpu'.sp = cpu.sp
  pc : cpu'.pc = cpu.pc
  pstate : cpu'.pstate = cpu.pstate
  retired : cpu'.retired = cpu.retired

lemma faultKind_sync (q : Request) (r : Reply) : VfCpu.asynchronous (faultKind q r) = false := by
  unfold faultKind
  split
  · decide
  split <;> decide

lemma raise_recorded {cpu raised : VfCpu} {q : Request} {r : Reply} {instruction : U32}
    (hel : q.currentEl ≤ 3#32) (hvalid : v2FaultValid q r = some (faultEsr q r))
    (hlow : q.address ≤ r.address)
    (hhigh : r.address - q.address < (q.width * q.count).zeroExtend 64)
    (hraise : cpu.raiseException (faultKind q r) cpu.pc r.address ((faultEsr q r).truncate 32)
      instruction = some raised) : FaultRecorded cpu raised q r := by
  unfold VfCpu.raiseException at hraise
  split at hraise
  · cases hraise
  dsimp only at hraise
  rw [if_neg (faultEsr_ne_zero q r)] at hraise
  obtain ⟨spEl, hsave⟩ := saveActiveSp_eq cpu
  simp only [VfCpu.recordException, hsave, faultKind_sync, Bool.false_eq_true, if_false] at hraise
  cases hraise
  have hesr : ((faultEsr q r).truncate 32 : U32).zeroExtend 64 = faultEsr q r := by
    apply BitVec.eq_of_toNat_eq
    have := faultEsr_lt hel r
    simp only [BitVec.truncate_eq_setWidth, BitVec.toNat_setWidth]
    omega
  refine ⟨hvalid, ?_, ?_, hlow, hhigh, rfl, rfl, rfl, rfl, rfl, rfl⟩
  · simpa using hesr
  · simp

def element (shape : MemoryShape) (value : U64) : BitVec (8 * shape.width.toNat) := value.truncate _

def loadedValue (shape : MemoryShape) (value : U64) : U64 :=
  if shape.signedLoad = false then (element shape value).zeroExtend 64
  else if shape.result64 then (element shape value).signExtend 64
  else ((element shape value).signExtend 32).zeroExtend 64

def committedX (cpu : VfCpu) (shape : MemoryShape) (r : Reply) (i : Fin 32) : U64 :=
  if shape.mode ≠ 2#32 ∧ shape.rn ≠ 31#32 ∧ i = VfCpu.slot shape.rn then dataUpdated cpu shape
  else if shape.read = true ∧ shape.count = 2#32 ∧ shape.rt2 ≠ 31#32 ∧ i = VfCpu.slot shape.rt2 then
    (element shape r.value1).zeroExtend 64
  else if shape.read = true ∧ shape.rt ≠ 31#32 ∧ i = VfCpu.slot shape.rt then
    loadedValue shape r.value0
  else cpu.x i

def committedSp (cpu : VfCpu) (shape : MemoryShape) : U64 :=
  if shape.mode ≠ 2#32 ∧ shape.rn = 31#32 then dataUpdated cpu shape else cpu.sp

def Committed (cpu cpu' : VfCpu) (shape : MemoryShape) (r : Reply) : Prop :=
  cpu' = VfCpu.advanceCounter
    { cpu with
      x := committedX cpu shape r, sp := committedSp cpu shape, pc := cpu.pc + 4#64,
      retired := cpu.retired + 1#64 } 1#64

lemma elementMask_narrow {width : U32} (h : width = 1#32 ∨ width = 2#32 ∨ width = 4#32) {v : U64}
    (hv : v &&& ~~~elementMask width = 0#64) : (v.truncate 32 : U32).zeroExtend 64 = v := by
  have hhigh : v &&& ~~~0xffffffff#64 = 0#64 := by
    refine Bits.and_eq_zero_of_subset hv ?_
    rcases h with rfl | rfl | rfl <;> decide
  have hlt := Bits.lt_of_and_not (k := 32) rfl hhigh
  apply BitVec.eq_of_toNat_eq
  simp only [BitVec.truncate_eq_setWidth, BitVec.toNat_setWidth]
  omega

lemma narrow_width {shape : MemoryShape} (hd : shape.Decoded) (hne : shape.width ≠ 8#32) :
    shape.width = 1#32 ∨ shape.width = 2#32 ∨ shape.width = 4#32 := by
  rcases hd.width with h | h | h | h
  · exact .inl h
  · exact .inr (.inl h)
  · exact .inr (.inr h)
  · exact (hne h).elim

lemma element_zeroExtend {shape : MemoryShape} (hd : shape.Decoded) {v : U64}
    (hv : v &&& ~~~elementMask shape.width = 0#64) : (element shape v).zeroExtend 64 = v := by
  have hlt : v.toNat < 2 ^ (8 * shape.width.toNat) := by
    rcases hd.width with h | h | h | h <;> rw [h] at hv ⊢
    · exact Bits.lt_of_and_not (k := 8) rfl hv
    · exact Bits.lt_of_and_not (k := 16) rfl hv
    · exact Bits.lt_of_and_not (k := 32) rfl hv
    · exact v.isLt
  apply BitVec.eq_of_toNat_eq
  simp only [element, BitVec.truncate_eq_setWidth, BitVec.toNat_setWidth]
  rw [Nat.mod_eq_of_lt hlt, Nat.mod_eq_of_lt v.isLt]

lemma saved_value {shape : MemoryShape} (hd : shape.Decoded) {v : U64}
    (hv : v &&& ~~~elementMask shape.width = 0#64) :
    (if shape.result64 then
        (if shape.signedLoad then sext (v.truncate 32) (shape.width * 8#32).toNat else v)
      else
        ((if shape.signedLoad then sext (v.truncate 32) (shape.width * 8#32).toNat else v).truncate 32 :
          U32).zeroExtend 64) = loadedValue shape v := by
  unfold loadedValue
  cases hsigned : shape.signedLoad with
  | false =>
    simp only [Bool.false_eq_true, if_false, if_true]
    rw [element_zeroExtend hd hv]
    split
    · rfl
    · rename_i hnarrow
      exact elementMask_narrow (narrow_width hd (hd.narrow (by simpa using hnarrow))) hv
  | true =>
    have hw := narrow_width hd (hd.signed hsigned).2
    have hbits : (shape.width * 8#32).toNat = 8 * shape.width.toNat := by
      rcases hw with h | h | h <;> rw [h] <;> rfl
    have hrange : 0 < 8 * shape.width.toNat ∧ 8 * shape.width.toNat ≤ 32 := by
      rcases hw with h | h | h <;> rw [h] <;> decide
    have hsext : sext (v.truncate 32) (shape.width * 8#32).toNat =
        (element shape v).signExtend 64 := by
      rw [hbits, sext_eq _ hrange.1 hrange.2]
      simp only [element, BitVec.truncate_eq_setWidth, BitVec.setWidth_setWidth_of_le _ hrange.2]
    simp only [if_true, Bool.true_eq_false, if_false, hsext]
    split
    · rfl
    · simp only [BitVec.truncate_eq_setWidth, Bits.truncate_signExtend _ (show 32 ≤ 64 by decide)]

lemma memorySave_eq (cpu : VfCpu) (reg : U32) (value : U64) (wide : Bool) :
    memorySave cpu reg value wide =
      { cpu with
        x := fun i => if reg ≠ 31#32 ∧ i = VfCpu.slot reg then
            (if wide then value else (value.truncate 32 : U32).zeroExtend 64) else cpu.x i } := by
  unfold memorySave
  split
  · rename_i hreg
    simp [hreg]
  · rename_i hreg
    simp only [VfCpu.setX, hreg, ne_eq, not_false_eq_true, true_and]
    congr 1
    funext i
    by_cases hi : i = VfCpu.slot reg
    · simp [hi]
    · simp [hi]

lemma loadData_eq {shape : MemoryShape} (hd : shape.Decoded) (cpu : VfCpu) {value0 value1 : U64}
    (h0 : value0 &&& ~~~elementMask shape.width = 0#64)
    (h1 : value1 &&& ~~~elementMask shape.width = 0#64) :
    loadData cpu shape value0 value1 =
      { cpu with
        x := fun i =>
          if shape.read = true ∧ shape.count = 2#32 ∧ shape.rt2 ≠ 31#32 ∧ i = VfCpu.slot shape.rt2 then
            (element shape value1).zeroExtend 64
          else if shape.read = true ∧ shape.rt ≠ 31#32 ∧ i = VfCpu.slot shape.rt then
            loadedValue shape value0
          else cpu.x i } := by
  have hsecond : (if shape.result64 then value1 else (value1.truncate 32 : U32).zeroExtend 64) =
      (element shape value1).zeroExtend 64 := by
    rw [element_zeroExtend hd h1]
    split
    · rfl
    · rename_i hnarrow
      exact elementMask_narrow (narrow_width hd (hd.narrow (by simpa using hnarrow))) h1
  unfold loadData
  by_cases hread : shape.read = true
  · rw [if_pos hread]
    dsimp only
    by_cases hcount : shape.count = 2#32
    · rw [if_pos hcount]
      simp only [memorySave_eq, saved_value hd h0, hsecond, hread, hcount, true_and]
    · rw [if_neg hcount]
      simp only [memorySave_eq, saved_value hd h0, hread, hcount, true_and, false_and, if_false]
  · simp [hread]

lemma writeBase_eq (cpu : VfCpu) (shape : MemoryShape) (updated : U64) :
    writeBase cpu shape updated =
      { cpu with
        x := fun i => if shape.mode ≠ 2#32 ∧ shape.rn ≠ 31#32 ∧ i = VfCpu.slot shape.rn then updated
          else cpu.x i
        sp := if shape.mode ≠ 2#32 ∧ shape.rn = 31#32 then updated else cpu.sp } := by
  unfold writeBase
  by_cases hmode : shape.mode = 2#32
  · simp [hmode]
  · by_cases hrn : shape.rn = 31#32
    · simp [hmode, hrn]
    · simp only [hmode, hrn, VfCpu.setX, ne_eq, not_false_eq_true, if_true, true_and, if_false]
      congr 1
      funext i
      by_cases hi : i = VfCpu.slot shape.rn
      · simp [hi]
      · simp [hi]

lemma commitData_committed {shape : MemoryShape} (hd : shape.Decoded) (cpu : VfCpu) {r : Reply}
    (h0 : r.value0 &&& ~~~elementMask shape.width = 0#64)
    (h1 : r.value1 &&& ~~~elementMask shape.width = 0#64) :
    Committed cpu (commitData cpu shape r) shape r := by
  unfold Committed commitData
  rw [loadData_eq hd cpu h0 h1, writeBase_eq]
  rfl

inductive Ending
  | success | fault | error
  deriving DecidableEq, Repr

/-- The fetch or data exchange of `q` with that answer ended in one of the three ways; `commits` is the commit of a
success. -/
def Ended (cpu : VfCpu) (q : Request) (answer : U32 × Reply) (version : U32) (commits : VfCpu → Prop) (status : U32)
    (cpu' : VfCpu) (result : RunResultV2) : Ending → Prop
  | .success => status = Status.next ∧ Validated q answer.1 answer.2 version ∧ commits cpu'
  | .fault => status = faultStatusCode q answer.2 ∧ Heard q answer.1 answer.2 version ∧ FaultRecorded cpu cpu' q answer.2
  | .error => status = Status.dataFault ∧ result.base.providerStatus ≠ ProviderStatus.ok ∧ cpu' = cpu

lemma faultStatusCode_cases (q : Request) (r : Reply) :
    faultStatusCode q r ≠ Status.next ∧ faultStatusCode q r ≠ Status.dataFault := by
  unfold faultStatusCode
  split
  · decide
  split <;> decide

lemma ended_unique {cpu cpu' : VfCpu} {q : Request} {answer : U32 × Reply} {version : U32} {commits : VfCpu → Prop}
    {status : U32} {result : RunResultV2} {e e' : Ending}
    (h : Ended cpu q answer version commits status cpu' result e)
    (h' : Ended cpu q answer version commits status cpu' result e') : e' = e := by
  obtain ⟨hnext, hdata⟩ := faultStatusCode_cases q answer.2
  cases e <;> cases e' <;> first
    | rfl
    | exact absurd (h.1.symm.trans h'.1) (by decide)
    | exact (hnext (h.1.symm.trans h'.1)).elim
    | exact (hnext (h'.1.symm.trans h.1)).elim
    | exact (hdata (h.1.symm.trans h'.1)).elim
    | exact (hdata (h'.1.symm.trans h.1)).elim

lemma exchange_ended {σ : Type} (cpu : VfCpu) (callback : Callback σ) (owner : σ) {q : Request}
    (result : RunResultV2) (version : U32) (hel : q.currentEl ≤ 3#32) :
    ∃ e, Ended cpu q (callback owner q).2 version (fun cpu' => cpu' = cpu)
      (memoryExchangeVersion cpu callback owner q result version).status
      (memoryExchangeVersion cpu callback owner q result version).cpu
      (memoryExchangeVersion cpu callback owner q result version).result e := by
  unfold memoryExchangeVersion
  rcases callback owner q with ⟨owner', code, r⟩
  dsimp only
  rcases hres : judgeReply cpu q code r (exchangeStart result q version) version with
    ⟨status, cpu', result'⟩
  have hverdict := judgeReply_verdict cpu q code r (exchangeStart result q version) version
  rw [hres] at hverdict
  cases hverdict with
  | success _ hvalidated => exact ⟨.success, rfl, hvalidated, rfl⟩
  | fault _ _ hheard hvalid hesr hlow hhigh hraise =>
    exact ⟨.fault, rfl, hheard, raise_recorded hel hvalid hlow hhigh hraise⟩
  | error _ hreason => exact ⟨.error, rfl, hreason, rfl⟩

lemma okInvalid_values {q : Request} {r : Reply} {version : U32} (h : okInvalid q r version = false) :
    r.value0 &&& ~~~elementMask q.width = 0#64 ∧ r.value1 &&& ~~~elementMask q.width = 0#64 := by
  simp only [okInvalid, decide_eq_false_iff_not, not_or, not_not] at h
  exact ⟨h.2.2.2.2.2.2.2.2.2.2.1, h.2.2.2.2.2.2.2.2.2.2.2.1⟩

lemma versionRequest_el (cpu : VfCpu) (controls : Controls) (version op width count : U32)
    (address : U64) :
    (versionRequest cpu controls version op width count address).currentEl = cpu.currentEl := by
  unfold versionRequest
  dsimp only
  split <;> rfl

lemma versionRequest_width (cpu : VfCpu) (controls : Controls) (version op width count : U32)
    (address : U64) :
    (versionRequest cpu controls version op width count address).width = width := by
  unfold versionRequest
  dsimp only
  split <;> rfl

lemma dataRequest_el (cpu : VfCpu) (controls : Controls) (version : U32) (shape : MemoryShape) :
    (dataRequest cpu controls version shape).currentEl = cpu.currentEl := by
  unfold dataRequest
  dsimp only
  split <;> exact versionRequest_el _ _ _ _ _ _ _

lemma dataRequest_width (cpu : VfCpu) (controls : Controls) (version : U32) (shape : MemoryShape) :
    (dataRequest cpu controls version shape).width = shape.width := by
  unfold dataRequest
  dsimp only
  split <;> exact versionRequest_width _ _ _ _ _ _ _

lemma dataStep_ended {σ : Type} (cpu : VfCpu) (controls : Controls) (callback : Callback σ) (owner : σ)
    (result : RunResultV2) (version : U32) (hel : cpu.currentEl ≤ 3#32) {shape : MemoryShape}
    (hshape : decodeMemory cpu.instruction = some shape) (hsp : spMisaligned cpu shape = false) :
    ∃ e, Ended cpu (dataRequest cpu controls version shape)
      (callback owner (dataRequest cpu controls version shape)).2 version
      (fun cpu' => Committed cpu cpu' shape
        (callback owner (dataRequest cpu controls version shape)).2.2)
      (memoryDataStepVersion cpu controls callback owner result version).status
      (memoryDataStepVersion cpu controls callback owner result version).cpu
      (memoryDataStepVersion cpu controls callback owner result version).result e := by
  obtain ⟨e, he⟩ := exchange_ended cpu callback owner (q := dataRequest cpu controls version shape)
    result version (by rw [dataRequest_el]; exact hel)
  have hreply : (memoryExchangeVersion cpu callback owner (dataRequest cpu controls version shape)
      result version).reply = (callback owner (dataRequest cpu controls version shape)).2.2 := rfl
  unfold memoryDataStepVersion
  rw [hshape]
  dsimp only
  rw [if_neg (by simp [hsp])]
  cases e with
  | success =>
    obtain ⟨hstatus, hvalidated, hcpu⟩ := he
    rw [if_neg (not_not.mpr hstatus)]
    refine ⟨.success, rfl, hvalidated, ?_⟩
    obtain ⟨h0, h1⟩ := okInvalid_values hvalidated.valid
    rw [dataRequest_width] at h0 h1
    dsimp only
    rw [hcpu, hreply]
    exact commitData_committed (decodeMemory_decoded hshape) cpu h0 h1
  | fault =>
    rw [if_pos (by rw [he.1]; exact (faultStatusCode_cases _ _).1)]
    exact ⟨.fault, he⟩
  | error =>
    rw [if_pos (by rw [he.1]; decide)]
    exact ⟨.error, he⟩

lemma controlsValidV2_ips {c : Controls} (h : memoryControlsValidV2 c = true) :
    (c.tcr >>> 32) &&& 7#64 ≤ 5#64 := by
  unfold memoryControlsValidV2 at h
  dsimp only at h
  split at h
  · cases h
  split at h
  · cases h
  rename_i hchecks
  simp only [not_or, BitVec.not_lt] at hchecks
  exact hchecks.2.2.2.2.2.2.2.2.2

lemma dynamicControlsValid_ips {c : Controls} (h : dynamicControlsValid c = true) :
    (c.tcr >>> 32) &&& 7#64 ≤ 5#64 := by
  unfold dynamicControlsValid at h
  split at h
  · cases h
  split at h
  · cases h
  exact controlsValidV2_ips (c := { c with
    abiVersion := 2#32, profile := 1#32, epoch := 1#64, sctlr := c.sctlr ||| 1#64 }) h

lemma Admitted.index_lt {cpu : VfCpu} {controls : Controls} {version : U32}
    (h : Admitted cpu controls version) (op width count : U32) (address : U64) :
    physicalBitsIndex (versionRequest cpu controls version op width count address).controls <
      physicalBitsTable.length := by
  have hbound : ∀ c : Controls, (c.tcr >>> 32) &&& 7#64 ≤ 5#64 →
      physicalBitsIndex c < physicalBitsTable.length := by
    intro c hc
    exact Nat.lt_succ_of_le hc
  rcases h.controls with ⟨rfl, hvalid, hmatch⟩ | ⟨rfl, hvalid, -⟩
  · simp only [v2ControlsMatch, decide_eq_true_eq] at hmatch
    refine hbound _ ?_
    have htcr : (versionRequest cpu controls 2#32 op width count address).controls.tcr =
        controls.tcr := hmatch.2.2.2.1
    rw [htcr]
    exact controlsValidV2_ips hvalid
  · exact hbound _ (dynamicControlsValid_ips hvalid)

/-- Soundness against an arbitrary provider, for the fetch and the data step of a run. -/
theorem provider_step_sound {σ : Type} {cpu : VfCpu} {controls : Controls} {version : U32}
    (hadmitted : Admitted cpu controls version) (callback : Callback σ) (owner : σ)
    (result : RunResultV2) :
    (∃! e, Ended cpu (fetchRequest cpu controls version)
      (callback owner (fetchRequest cpu controls version)).2 version (fun cpu' => cpu' = cpu)
      (memoryExchangeVersion cpu callback owner (fetchRequest cpu controls version) result version).status
      (memoryExchangeVersion cpu callback owner (fetchRequest cpu controls version) result version).cpu
      (memoryExchangeVersion cpu callback owner (fetchRequest cpu controls version) result version).result
      e) ∧
    (∀ shape, decodeMemory cpu.instruction = some shape → spMisaligned cpu shape = false →
      ∃! e, Ended cpu (dataRequest cpu controls version shape)
        (callback owner (dataRequest cpu controls version shape)).2 version
        (fun cpu' => Committed cpu cpu' shape
          (callback owner (dataRequest cpu controls version shape)).2.2)
        (memoryDataStepVersion cpu controls callback owner result version).status
        (memoryDataStepVersion cpu controls callback owner result version).cpu
        (memoryDataStepVersion cpu controls callback owner result version).result e) ∧
    (∀ op width count address,
      physicalBitsIndex (versionRequest cpu controls version op width count address).controls <
        physicalBitsTable.length) := by
  have hel := stateValid_el hadmitted.valid
  refine ⟨?_, fun shape hshape hsp => ?_, hadmitted.index_lt⟩
  · obtain ⟨e, he⟩ := exchange_ended cpu callback owner (q := fetchRequest cpu controls version)
      result version (by rw [fetchRequest, versionRequest_el]; exact hel)
    exact ⟨e, he, fun e' h' => ended_unique he h'⟩
  · obtain ⟨e, he⟩ := dataStep_ended cpu controls callback owner result version hel hshape hsp
    exact ⟨e, he, fun e' h' => ended_unique he h'⟩

namespace Fixture

def controls : Controls :=
  { abiVersion := 2#32, structSize := 80#32, profile := 1#32, reserved := 0#32, sctlr := 0x30d00803#64,
    ttbr0 := 0x2000#64, ttbr1 := 0x2000#64, tcr := 0x80100010#64, mair := 0x44#64, hcr := 0#64,
    scr := 0#64, epoch := 1#64 }

-- ldrsb x0, [x1]
def cpu : VfCpu :=
  { VfCpu.reset 1#32 with
    sctlr := controls.sctlr, ttbr0 := controls.ttbr0, ttbr1 := controls.ttbr1, tcr := controls.tcr,
    mair := controls.mair, instruction := 0x39800020#32 }

def shape : MemoryShape :=
  { width := 1#32, count := 1#32, rn := 1#32, mode := 2#32, read := true, signedLoad := true, result64 := true }

def serves : Callback Unit := fun _ q =>
  ((), 0#32, { abiVersion := 2#32, structSize := 128#32, level := noLevel, value0 := 0x80#64, epoch := q.controls.epoch })

def result : RunResultV2 :=
  { base := ⟨0#32, 0#64, 0#64, 0#64, 0#64⟩, lastReply := {} }

end Fixture

open Fixture in
theorem provider_step_sound_ldrsb :
    Ended cpu (dataRequest cpu controls 2#32 shape) (serves () (dataRequest cpu controls 2#32 shape)).2 2#32
      (fun cpu' => Committed cpu cpu' shape (serves () (dataRequest cpu controls 2#32 shape)).2.2)
      (memoryDataStepVersion cpu controls serves () result 2#32).status
      (memoryDataStepVersion cpu controls serves () result 2#32).cpu
      (memoryDataStepVersion cpu controls serves () result 2#32).result .success ∧
    (memoryDataStepVersion cpu controls serves () result 2#32).cpu.x 0 = 0xffffffffffffff80#64 := by
  have hadmitted : Admitted cpu controls 2#32 := ⟨by decide, by decide, .inl ⟨rfl, by decide, by decide⟩⟩
  have hstatus : (memoryDataStepVersion cpu controls serves () result 2#32).status = Status.next := by decide
  obtain ⟨e, he, -⟩ := (provider_step_sound hadmitted serves () result).2.1 shape (by decide) (by decide)
  have hsuccess : e = .success := by
    cases e with
    | success => rfl
    | fault => exact absurd (he.1.symm.trans hstatus) (faultStatusCode_cases _ _).1
    | error => exact absurd (he.1.symm.trans hstatus) (by decide)
  subst hsuccess
  exact ⟨he, by decide⟩

end Nextcore.Provider
