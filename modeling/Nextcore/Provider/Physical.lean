import Nextcore.Provider.Completeness
import Nextcore.Provider.Version1
import Nextcore.Service.Memory

/-! Every reply of the version 1 service is taken by the run, a refusal moves
nothing, and a served store is what later loads return. -/

namespace Nextcore.Service.MemoryService

open Abi Abi.V1 Bytes Provider

structure Placed (s : MemoryService) (r : Request) (i : ℕ) : Prop where
  base : s.base ≤ r.address
  index : i = (r.address - s.base).toNat
  span : i + r.width.toNat * r.count.toNat ≤ s.ram.length

structure Sized (r : Request) : Prop where
  width : WidthValid r.width
  count : r.count = 1#32 ∨ r.count = 2#32
  value0 : r.value0.toNat < 2 ^ (8 * r.width.toNat)
  value1 : r.value1.toNat < 2 ^ (8 * r.width.toNat)
  single : r.count = 1#32 → r.value1 = 0#64

lemma requestValid_sized {r : Request} (h : requestValid r = true) : Sized r := by
  unfold requestValid at h
  split at h
  · cases h
  rename_i hchecks
  obtain ⟨-, hchecks⟩ := not_or.mp hchecks
  obtain ⟨-, hchecks⟩ := not_or.mp hchecks
  obtain ⟨-, hchecks⟩ := not_or.mp hchecks
  obtain ⟨-, hchecks⟩ := not_or.mp hchecks
  obtain ⟨-, hchecks⟩ := not_or.mp hchecks
  obtain ⟨-, hchecks⟩ := not_or.mp hchecks
  obtain ⟨hwidth, hchecks⟩ := not_or.mp hchecks
  obtain ⟨hcount, hchecks⟩ := not_or.mp hchecks
  obtain ⟨-, hchecks⟩ := not_or.mp hchecks
  obtain ⟨-, hchecks⟩ := not_or.mp hchecks
  obtain ⟨-, hsingle⟩ := not_or.mp hchecks
  rw [not_not] at hwidth hcount
  obtain ⟨h0, h1⟩ := of_decide_eq_true h
  have hmask := elementMask_toNat hwidth
  refine ⟨hwidth, hcount, Bits.lt_of_and_not hmask h0, Bits.lt_of_and_not hmask h1, fun hone => ?_⟩
  by_contra hne
  exact hsingle ⟨hone, hne⟩

section Places

variable {s : MemoryService} {r : Request}

def indices (r : Request) (i : ℕ) : List ℕ := if r.count = 2#32 then [i, i + r.width.toNat] else [i]

lemma width_toNat {width : U32} (h : WidthValid width) : (width.zeroExtend 64 : U64).toNat = width.toNat := by
  rcases h with rfl | rfl | rfl | rfl <;> rfl

lemma place_zero : s.place r 0 =
    ((offset r.address r.width.toNat s.base s.ram.length).map Except.ok).getD (.error r.address) := by
  have hdelta : BitVec.ofNat 64 0 * r.width.zeroExtend 64 = 0#64 := BitVec.zero_mul
  have hflow : r.address.uaddOverflow 0#64 = false := by
    have hlt := r.address.isLt
    simpa [BitVec.uaddOverflow] using hlt
  unfold place
  dsimp only
  rw [hdelta, hflow, BitVec.add_zero]
  rfl

lemma offset_some {address base : U64} {width length i : ℕ} (h : offset address width base length = some i) :
    base ≤ address ∧ i = (address - base).toNat ∧ i + width ≤ length := by
  have hbound := offset_bound h
  unfold offset at h
  split at h
  · rename_i hin
    cases h
    exact ⟨hin.1, rfl, hbound⟩
  · cases h

lemma place_zero_cases : (∃ i, s.place r 0 = .ok i ∧ s.base ≤ r.address ∧ i = (r.address - s.base).toNat ∧
    i + r.width.toNat ≤ s.ram.length) ∨ s.place r 0 = .error r.address := by
  rw [place_zero]
  cases hoffset : offset r.address r.width.toNat s.base s.ram.length with
  | none => exact .inr rfl
  | some i =>
    obtain ⟨hbase, hindex, hspan⟩ := offset_some hoffset
    exact .inl ⟨i, rfl, hbase, hindex, hspan⟩

lemma place_one_cases (hwidth : WidthValid r.width) :
    (∃ j, s.place r 1 = .ok j ∧ (s.base ≤ r.address → j = (r.address - s.base).toNat + r.width.toNat) ∧
      j + r.width.toNat ≤ s.ram.length) ∨ s.place r 1 = .error (r.address + r.width.zeroExtend 64) := by
  have hdelta : BitVec.ofNat 64 1 * r.width.zeroExtend 64 = r.width.zeroExtend 64 := BitVec.one_mul _
  have hw := width_toNat hwidth
  unfold place
  dsimp only
  rw [hdelta]
  split
  · exact .inr rfl
  rename_i hflow
  cases hoffset : offset (r.address + r.width.zeroExtend 64) r.width.toNat s.base s.ram.length with
  | none => exact .inr rfl
  | some j =>
    obtain ⟨hbase, hindex, hspan⟩ := offset_some hoffset
    refine .inl ⟨j, rfl, fun hle => ?_, hspan⟩
    simp only [BitVec.uaddOverflow, ge_iff_le, decide_eq_true_eq, not_le] at hflow
    rw [BitVec.le_def] at hle hbase
    rw [hindex, BitVec.toNat_sub_of_le hbase, BitVec.toNat_sub_of_le hle, BitVec.toNat_add, Nat.mod_eq_of_lt hflow, hw]
    omega

lemma places_cases (h : Sized r) :
    (∃ i, s.Placed r i ∧ (List.range r.count.toNat).mapM (s.place r) = .ok (indices r i)) ∨
      ∃ address, (address = r.address ∨ r.count = 2#32 ∧ address = r.address + r.width.zeroExtend 64) ∧
        (List.range r.count.toNat).mapM (s.place r) = .error address := by
  have hrange1 : List.range 1 = [0] := rfl
  have hrange2 : List.range 2 = [0, 1] := rfl
  rcases h.count with hone | htwo
  · have hcount : r.count.toNat = 1 := congrArg BitVec.toNat hone
    rw [hcount, hrange1, List.mapM_cons]
    rcases place_zero_cases (s := s) (r := r) with ⟨i, hplace, hbase, hindex, hspan⟩ | hplace
    · refine .inl ⟨i, ⟨hbase, hindex, by rw [hcount, Nat.mul_one]; exact hspan⟩, ?_⟩
      rw [hplace, indices, if_neg (by rw [hone]; decide)]
      rfl
    · rw [hplace]
      exact .inr ⟨_, .inl rfl, rfl⟩
  · have hcount : r.count.toNat = 2 := congrArg BitVec.toNat htwo
    rw [hcount, hrange2, List.mapM_cons, List.mapM_cons]
    rcases place_zero_cases (s := s) (r := r) with ⟨i, hplace, hbase, hindex, hspan⟩ | hplace
    swap
    · rw [hplace]
      exact .inr ⟨_, .inl rfl, rfl⟩
    rcases place_one_cases (s := s) h.width with ⟨j, hplace', hnext, hspan'⟩ | hplace'
    · have hj : j = i + r.width.toNat := by rw [hnext hbase, hindex]
      refine .inl ⟨i, ⟨hbase, hindex, by rw [hcount]; omega⟩, ?_⟩
      rw [hplace, hplace', indices, if_pos htwo, hj]
      rfl
    · rw [hplace, hplace']
      exact .inr ⟨_, .inr ⟨htwo, rfl⟩, rfl⟩

end Places

section Contents

variable {s : MemoryService} {r l : Request} {i : ℕ}

def elementBytes (r : Request) : List Byte :=
  leBytes r.value0 r.width.toNat ++ if r.count = 2#32 then leBytes r.value1 r.width.toNat else []

lemma length_elementBytes (h : Sized r) : (elementBytes r).length = r.width.toNat * r.count.toNat := by
  rcases h.count with hone | htwo
  · rw [elementBytes, if_neg (by rw [hone]; decide), List.append_nil, length_leBytes, hone]
    exact (Nat.mul_one _).symm
  · rw [elementBytes, if_pos htwo, List.length_append, length_leBytes, length_leBytes, htwo]
    exact (Nat.mul_two _).symm

lemma storeElements_indices (h : Sized r) (hplaced : s.Placed r i) :
    storeElements r (indices r i) 0 s.ram = blit s.ram i (elementBytes r) := by
  have hspan := hplaced.span
  rcases h.count with hone | htwo
  · have hne : r.count ≠ 2#32 := by rw [hone]; decide
    rw [indices, if_neg hne, elementBytes, if_neg hne, List.append_nil]
    rfl
  · rw [indices, if_pos htwo, elementBytes, if_pos htwo]
    have hcount : r.count.toNat = 2 := congrArg BitVec.toNat htwo
    rw [hcount] at hspan
    have hjoin := @blit_blit s.ram (leBytes r.value0 r.width.toNat) (leBytes r.value1 r.width.toNat) i (by
      rw [length_leBytes, length_leBytes]
      omega)
    rw [length_leBytes] at hjoin
    exact hjoin

lemma loadLe_blit {m before bs after : List Byte} {i k n : ℕ} {value : U64} (hi : i ≤ m.length)
    (hk : k = before.length) (hbs : bs = leBytes value n) (hvalue : value.toNat < 2 ^ (8 * n)) :
    loadLe (blit m i (before ++ bs ++ after)) (i + k) n = value := by
  have hlength : n = bs.length := by rw [hbs, length_leBytes]
  rw [loadLe, slice_blit hi, List.append_assoc, slice_append hk hlength, hbs, leValue_leBytes_of_lt hvalue]

lemma loadElement_stored (h : Sized r) (hplaced : s.Placed r i) (hwidth : l.width = r.width)
    (hcount : l.count = r.count) :
    MemoryService.loadElement { s with ram := blit s.ram i (elementBytes r) } l (indices l i) 0 = r.value0 ∧
      MemoryService.loadElement { s with ram := blit s.ram i (elementBytes r) } l (indices l i) 1 = r.value1 := by
  have hspan := hplaced.span
  have hi : i ≤ s.ram.length := by omega
  have hfirst : loadLe (blit s.ram i (elementBytes r)) i r.width.toNat = r.value0 :=
    @loadLe_blit s.ram [] _ _ i 0 _ _ hi rfl rfl h.value0
  rcases h.count with hone | htwo
  · have hne : l.count ≠ 2#32 := by rw [hcount, hone]; decide
    rw [indices, if_neg hne, h.single hone]
    constructor
    · simp only [loadElement, List.getElem?_cons_zero, Option.map_some, Option.getD_some, hwidth, hfirst]
    · simp only [loadElement, List.getElem?_cons_succ, List.getElem?_nil, Option.map_none, Option.getD_none]
  · rw [indices, if_pos (hcount.trans htwo)]
    have hsecond : loadLe (blit s.ram i (elementBytes r)) (i + r.width.toNat) r.width.toNat = r.value1 := by
      have hbytes : elementBytes r = leBytes r.value0 r.width.toNat ++ leBytes r.value1 r.width.toNat ++ [] := by
        rw [elementBytes, if_pos htwo, List.append_nil]
      rw [hbytes]
      exact loadLe_blit hi (length_leBytes _ _).symm rfl h.value1
    constructor
    · simp only [loadElement, List.getElem?_cons_zero, Option.map_some, Option.getD_some, hwidth, hfirst]
    · simp only [loadElement, List.getElem?_cons_succ, List.getElem?_cons_zero, Option.map_some, Option.getD_some,
        hwidth, hsecond]

end Contents

section Execute

variable {s : MemoryService} {r l : Request}

inductive Answers (s : MemoryService) (r : Request) : Reply × MemoryService → Prop
  | refused (address : U64) (h : address = r.address ∨ r.count = 2#32 ∧ address = r.address + r.width.zeroExtend 64) :
    Answers s r ({ answer unsupported with address := address }, s)
  | misaligned (h : r.address &&& (r.width - 1#32).zeroExtend 64 ≠ 0#64) : Answers s r (alignmentReply r, s)
  | served (i : ℕ) (h : s.Placed r i) : Answers s r (s.transfer r (indices r i))

lemma execute_answers (hvalid : requestValid r = true) (s : MemoryService) : s.Answers r (s.execute r) := by
  unfold execute
  rw [if_neg (by simp [hvalid])]
  split
  · exact .refused _ (.inl rfl)
  split
  · exact .misaligned ‹_›
  rcases places_cases (s := s) (requestValid_sized hvalid) with ⟨i, hplaced, hplaces⟩ | ⟨address, haddress, hplaces⟩
  · rw [hplaces]
    exact .served i hplaced
  · rw [hplaces]
    exact .refused address haddress

lemma execute_refused (hne : (s.execute r).1.result ≠ ok) : (s.execute r).2 = s := by
  unfold execute at hne ⊢
  split at hne
  · rw [if_pos ‹_›]
  rw [if_neg ‹_›]
  split at hne
  · rw [if_pos ‹_›]
  rw [if_neg ‹_›]
  split at hne
  · rw [if_pos ‹_›]
  rw [if_neg ‹_›]
  split at hne
  · rfl
  unfold transfer at hne
  split at hne
  · exact (hne rfl).elim
  · exact (hne rfl).elim

lemma alignmentReply_result (r : Request) : (alignmentReply r).result = guestFault := by
  unfold alignmentReply
  dsimp only
  split
  · rfl
  · rfl

lemma execute_ok (hvalid : requestValid r = true) (hok : (s.execute r).1.result = ok) :
    r.address &&& (r.width - 1#32).zeroExtend 64 = 0#64 ∧
      ∃ i, s.Placed r i ∧ (List.range r.count.toNat).mapM (s.place r) = .ok (indices r i) ∧
        s.execute r = s.transfer r (indices r i) := by
  unfold execute at hok ⊢
  rw [if_neg (by simp [hvalid])] at hok ⊢
  split at hok
  · cases hok
  rw [if_neg ‹_›]
  split at hok
  · rw [alignmentReply_result] at hok
    cases hok
  rename_i haligned
  rw [if_neg haligned]
  refine ⟨not_not.mp haligned, ?_⟩
  rcases places_cases (s := s) (requestValid_sized hvalid) with ⟨i, hplaced, hplaces⟩ | ⟨address, -, hplaces⟩
  · rw [hplaces]
    exact ⟨i, hplaced, rfl, rfl⟩
  · rw [hplaces] at hok
    cases hok

lemma execute_store (hvalid : requestValid r = true) (hstore : r.operation = opStore) (hok : (s.execute r).1.result = ok) :
    ∃ i, s.Placed r i ∧ s.execute r = (answer ok, { s with ram := blit s.ram i (elementBytes r) }) := by
  obtain ⟨-, i, hplaced, -, hexecute⟩ := execute_ok hvalid hok
  refine ⟨i, hplaced, ?_⟩
  rw [hexecute, transfer, if_pos hstore, storeElements_indices (requestValid_sized hvalid) hplaced]

lemma place_congr {s' : MemoryService} (hbase : s'.base = s.base) (hlength : s'.ram.length = s.ram.length)
    (haddress : l.address = r.address) (hwidth : l.width = r.width) : s'.place l = s.place r := by
  funext element
  unfold place
  rw [hbase, hlength, haddress, hwidth]

lemma execute_store_load (hvalid : requestValid r = true) (hstore : r.operation = opStore)
    (hok : (s.execute r).1.result = ok) (hvalid' : requestValid l = true) (hload : l.operation = opLoad)
    (haddress : l.address = r.address) (hwidth : l.width = r.width) (hcount : l.count = r.count)
    (hregime : regimeServed l = true) :
    (s.execute r).2.execute l = ({ answer ok with value0 := r.value0, value1 := r.value1 }, (s.execute r).2) := by
  obtain ⟨haligned, i, hplaced, hplaces, hexecute⟩ := execute_ok hvalid hok
  have hsized := requestValid_sized hvalid
  have hstored : (s.execute r).2 = { s with ram := blit s.ram i (elementBytes r) } := by
    rw [hexecute, transfer, if_pos hstore, storeElements_indices hsized hplaced]
  have hlength : (blit s.ram i (elementBytes r)).length = s.ram.length := by
    refine length_blit ?_
    rw [length_elementBytes hsized]
    exact hplaced.span
  have hindices : indices l i = indices r i := by rw [indices, indices, hcount, hwidth]
  obtain ⟨hfirst, hsecond⟩ := loadElement_stored (l := l) hsized hplaced hwidth hcount
  rw [hstored]
  unfold execute
  rw [if_neg (by simp [hvalid']), if_neg (by simp [hregime]), haddress, hwidth, if_neg (not_not.mpr haligned), hcount,
    @place_congr s r l { s with ram := blit s.ram i (elementBytes r) } rfl hlength haddress hwidth, hplaces, ← hindices]
  dsimp only
  rw [transfer, if_neg (by rw [hload]; decide), hfirst, hsecond]

end Execute

end Nextcore.Service.MemoryService

namespace Nextcore.Provider.V1

open Abi Abi.V1 Cpu Jit Service MemoryService Bytes

structure Admitted (cpu : VfCpu) : Prop where
  valid : cpu.stateValid = true
  quiet : cpu.exceptionPending = Exception.none

inductive Sends (cpu : VfCpu) : Request → Prop
  | fetch : Sends cpu (fetchRequest cpu)
  | data (shape : MemoryShape) (hshape : decodeMemory cpu.instruction = some shape)
      (hsp : spMisaligned cpu shape = false) : Sends cpu (dataRequest cpu shape)

def unreported (cpu : VfCpu) : VfCpu :=
  { cpu with
    exceptionPending := 0#32, exceptionTargetEl := 0#32, exceptionFromLowerEl := 0#32, exceptionSyndrome := 0#64,
    exceptionFar := 0#64, exceptionPc := 0#64, instruction := 0#32, spEl := fun _ => 0#64, spsrEl := fun _ => 0#64,
    elrEl := fun _ => 0#64, esrEl := fun _ => 0#64, farEl := fun _ => 0#64, vbar := 0#64, esr := 0#64, far := 0#64,
    elr := 0#64 }

lemma raiseException_unreported {cpu raised : VfCpu} {kind : U32} {pc far : U64} {syndrome instruction : U32}
    (h : cpu.raiseException kind pc far syndrome instruction = some raised) : unreported raised = unreported cpu := by
  unfold VfCpu.raiseException at h
  split at h
  · cases h
  cases h
  obtain ⟨spEl, hsave⟩ := saveActiveSp_eq cpu
  simp only [VfCpu.recordException, hsave]
  rfl

lemma raise_alignment {cpu : VfCpu} (hadmitted : Admitted cpu) {kind : U32} (hkind : validExceptionKind kind = true)
    (pc far : U64) (syndrome instruction : U32) :
    ∃ raised, cpu.raiseException kind pc far syndrome instruction = some raised := by
  unfold VfCpu.raiseException
  rw [if_neg (by simp [hadmitted.valid, hadmitted.quiet, hkind])]
  exact ⟨_, rfl⟩

lemma dataRequest_eq (cpu : VfCpu) (shape : MemoryShape) :
    dataRequest cpu shape =
      { memoryRequest cpu (if shape.read then opLoad else opStore) (dataAddress cpu shape) shape.width shape.count with
        value0 := if shape.read then 0#64 else memoryRegister cpu shape.rt false &&& V2.elementMask shape.width
        value1 := if shape.read then 0#64
          else if shape.count = 2#32 then memoryRegister cpu shape.rt2 false &&& V2.elementMask shape.width
          else 0#64 } := by
  unfold dataRequest
  cases shape.read with
  | false => rfl
  | true => rfl

lemma data_operation (read : Bool) : (if read then opLoad else opStore) ≠ opFetch := by
  cases read with
  | false => decide
  | true => decide

lemma Sends.valid {cpu : VfCpu} {q : Request} (hq : Sends cpu q) : requestValid q = true := by
  cases hq with
  | fetch =>
    unfold requestValid
    rw [if_neg]
    · simp [fetchRequest, memoryRequest]
    · rintro (h | h | h | h | h | h | h | h | h | h | h | h)
      · exact h rfl
      · exact h rfl
      · exact h rfl
      · exact h rfl
      · exact h rfl
      · exact h (.inl rfl)
      · exact h (.inr (.inr (.inl rfl)))
      · exact h (.inl rfl)
      · exact absurd h.1 (by decide : ¬1#32 = 2#32)
      · exact h.2.elim (fun h => h rfl) (fun h => h.elim (fun h => h rfl) (fun h => h rfl))
      · exact h.2.elim (fun h => h rfl) (fun h => h rfl)
      · exact h.2 rfl
  | data shape hshape hsp =>
    have hd := decodeMemory_decoded hshape
    rw [dataRequest_eq]
    unfold requestValid
    rw [if_neg]
    · simp only [decide_eq_true_eq]
      constructor
      · split
        · exact BitVec.zero_and
        · exact masked_value _ _
      · split
        · exact BitVec.zero_and
        · split
          · exact masked_value _ _
          · exact BitVec.zero_and
    · rintro (h | h | h | h | h | h | h | h | h | h | h | h)
      · exact h rfl
      · exact h rfl
      · exact h rfl
      · exact h rfl
      · exact h rfl
      · refine h ?_
        cases shape.read with
        | false => exact .inr (.inr rfl)
        | true => exact .inr (.inl rfl)
      · exact h hd.width
      · exact h (hd.count.imp id And.left)
      · obtain ⟨hc, hw⟩ := h
        rcases hd.count with hone | ⟨-, hwidth⟩
        · exact absurd (hone.symm.trans hc) (by decide)
        · exact hw hwidth
      · exact data_operation shape.read h.1
      · obtain ⟨hs, hv⟩ := h
        cases hread : shape.read with
        | false => exact hs (by rw [hread]; rfl)
        | true => simp [hread] at hv
      · obtain ⟨hc, hv⟩ := h
        have hc' : shape.count = 1#32 := hc
        simp [hc'] at hv

section Exchange

variable {cpu : VfCpu} {q : Request} {s : MemoryService}

lemma answer_result (result : U32) : (answer result).result = result := rfl

def physical : Callback MemoryService := fun s q => ((s.execute q).2, 0#32, (s.execute q).1)

inductive Takes (cpu : VfCpu) (r : Reply) (result : RunResultV1) : U32 × VfCpu × RunResultV1 → Prop
  | ok (h : r.result = ok) : Takes cpu r result (Status.next, cpu, result)
  | refused (h : r.result = unsupported) : Takes cpu r result
      (Status.dataFault, cpu, { result with lastAddress := r.address, providerStatus := ProviderStatus.unsupported })
  | fault (status : U32) (raised : VfCpu) (h : r.result = guestFault) (hstatus : status ≠ Status.next)
      (hraised : unreported raised = unreported cpu) :
      Takes cpu r result (status, raised, { result with lastAddress := r.address })

lemma judgeReply_refused {address : U64} (h : address = q.address ∨ q.count = 2#32 ∧
    address = q.address + q.width.zeroExtend 64) (result : RunResultV1) :
    Takes cpu { answer unsupported with address := address } result
      (judgeReply cpu q 0#32 { answer unsupported with address := address } result) := by
  unfold judgeReply
  dsimp only
  rw [if_neg (by decide), if_neg (by decide), if_neg (by decide), if_neg (by decide), if_neg (by decide),
    if_pos (answer_result _), if_neg]
  · exact .refused rfl
  · rintro (hfault | hesr | ⟨hfirst, hsecond⟩)
    · exact hfault rfl
    · exact hesr rfl
    · exact h.elim hfirst hsecond

lemma judgeReply_misaligned (hadmitted : Admitted cpu) (hfetch : q.operation = opFetch → q.width = 4#32 ∧ q.address = q.pc)
    (h : q.address &&& (q.width - 1#32).zeroExtend 64 ≠ 0#64) (result : RunResultV1) :
    Takes cpu (alignmentReply q) result (judgeReply cpu q 0#32 (alignmentReply q) result) := by
  have hinvalid : faultInvalid q (alignmentReply q) = false := by
    unfold faultInvalid alignmentReply
    by_cases hop : q.operation = opFetch
    · obtain ⟨hwidth, haddress⟩ := hfetch hop
      rw [hwidth, haddress] at h
      have hpc : q.pc &&& 3#64 ≠ 0#64 := h
      simp [hop, hpc]
    · simp [hop, h]
  obtain ⟨fault, hanswer⟩ : ∃ fault, alignmentReply q =
      { answer guestFault with address := q.address, fault := fault, esr := faultSyndrome q } := by
    unfold alignmentReply faultSyndrome
    by_cases hop : q.operation = opFetch
    · exact ⟨pcAlignment, by simp [hop]⟩
    · exact ⟨dataAlignment, by simp [hop]⟩
  rw [hanswer] at hinvalid ⊢
  unfold judgeReply
  dsimp only
  rw [if_neg (by decide), if_neg (by decide), if_neg (by decide), if_neg (by decide), if_neg (by decide),
    if_neg (by decide), if_neg (by simp [hinvalid])]
  have hkind : validExceptionKind (if q.operation = opFetch then Exception.instructionAbort
      else Exception.alignmentFault) = true := by
    split
    · decide
    · decide
  obtain ⟨raised, hraise⟩ := raise_alignment hadmitted hkind cpu.pc q.address ((faultSyndrome q).truncate 32)
    (if q.operation = opFetch then 0#32 else cpu.instruction)
  rw [hraise]
  refine .fault _ raised rfl ?_ (raiseException_unreported hraise)
  split
  · decide
  · decide

lemma judgeReply_ok {v0 v1 : U64} (h0 : v0 &&& ~~~V2.elementMask q.width = 0#64)
    (h1 : v1 &&& ~~~V2.elementMask q.width = 0#64) (hsingle : q.count = 1#32 → v1 = 0#64)
    (hstore : q.operation = opStore → v0 = 0#64 ∧ v1 = 0#64) (result : RunResultV1) :
    Takes cpu { answer ok with value0 := v0, value1 := v1 } result
      (judgeReply cpu q 0#32 { answer ok with value0 := v0, value1 := v1 } result) := by
  unfold judgeReply
  dsimp only
  rw [if_neg (by decide), if_neg (by decide), if_pos (answer_result _), if_neg]
  · exact .ok rfl
  · rintro (h | h | h | h | h | ⟨hone, h⟩ | ⟨hop, h | h⟩)
    · exact h rfl
    · exact h rfl
    · exact h rfl
    · exact h h0
    · exact h h1
    · exact h (hsingle hone)
    · exact h (hstore hop).1
    · exact h (hstore hop).2

lemma loadElement_masked (hwidth : WidthValid q.width) (places : List ℕ) (element : ℕ) :
    s.loadElement q places element &&& ~~~V2.elementMask q.width = 0#64 := by
  unfold MemoryService.loadElement
  cases places[element]? with
  | none => exact BitVec.zero_and
  | some i => exact loadLe_masked hwidth s.ram i

lemma loadElement_single (hone : q.count = 1#32) (i : ℕ) : s.loadElement q (indices q i) 1 = 0#64 := by
  rw [indices, if_neg (by rw [hone]; decide)]
  rfl

lemma execute_takes (hadmitted : Admitted cpu) (hvalid : requestValid q = true)
    (hfetch : q.operation = opFetch → q.width = 4#32 ∧ q.address = q.pc) (result : RunResultV1) :
    Takes cpu (s.execute q).1 result (judgeReply cpu q 0#32 (s.execute q).1 result) := by
  have hsized := requestValid_sized hvalid
  have hanswers := execute_answers hvalid s
  generalize s.execute q = out at hanswers ⊢
  cases hanswers with
  | refused address haddress => exact judgeReply_refused haddress result
  | misaligned hmisaligned => exact judgeReply_misaligned hadmitted hfetch hmisaligned result
  | served i hplaced =>
    by_cases hop : q.operation = opStore
    · simp only [transfer, if_pos hop]
      exact judgeReply_ok BitVec.zero_and BitVec.zero_and (fun _ => rfl) (fun _ => ⟨rfl, rfl⟩) result
    · simp only [transfer, if_neg hop]
      exact judgeReply_ok (loadElement_masked hsized.width _ 0) (loadElement_masked hsized.width _ 1)
        (fun hone => loadElement_single hone i) (fun h => (hop h).elim) result

lemma Sends.fetch_shape (hq : Sends cpu q) : q.operation = opFetch → q.width = 4#32 ∧ q.address = q.pc := by
  cases hq with
  | fetch => exact fun _ => ⟨rfl, rfl⟩
  | data shape =>
    rw [dataRequest_eq]
    exact fun hop => (data_operation shape.read hop).elim

lemma Takes.outcome {r : Reply} {result : RunResultV1} {out : U32 × VfCpu × RunResultV1} (h : Takes cpu r result out) :
    (out.1 = Status.next ↔ r.result = V1.ok) ∧ (r.result ≠ V1.ok → unreported out.2.1 = unreported cpu) ∧
      (out.2.2.providerStatus = result.providerStatus ∨ out.2.2.providerStatus = ProviderStatus.unsupported) := by
  cases h with
  | ok hok => exact ⟨⟨fun _ => hok, fun _ => rfl⟩, fun _ => rfl, .inl rfl⟩
  | refused hrefused =>
    have hne : r.result ≠ V1.ok := by rw [hrefused]; decide
    have hfault : Status.dataFault ≠ Status.next := by decide
    exact ⟨⟨fun hnext => (hfault hnext).elim, fun hok => (hne hok).elim⟩, fun _ => rfl, .inr rfl⟩
  | fault status raised hfault hstatus hraised =>
    have hne : r.result ≠ V1.ok := by rw [hfault]; decide
    exact ⟨⟨fun hnext => (hstatus hnext).elim, fun hok => (hne hok).elim⟩, fun _ => hraised, .inl rfl⟩

lemma exchange_outcome (hadmitted : Admitted cpu) (hq : Sends cpu q) (s : MemoryService) (result : RunResultV1) :
    let e := memoryExchange cpu physical s q result
    (e.status = Status.next ↔ (s.execute q).1.result = ok) ∧
      ((s.execute q).1.result ≠ ok → unreported e.cpu = unreported cpu) ∧
      (e.result.providerStatus = result.providerStatus ∨ e.result.providerStatus = ProviderStatus.unsupported) :=
  (execute_takes hadmitted hq.valid hq.fetch_shape (exchangeStart result q)).outcome

lemma sends_dataStep {shape : MemoryShape} (hshape : decodeMemory cpu.instruction = some shape)
    (hsp : spMisaligned cpu shape = false) (result : RunResultV1)
    (h : (memoryExchange cpu physical s (dataRequest cpu shape) result).status ≠ Status.next) :
    (memoryDataStep cpu physical s result).cpu = (memoryExchange cpu physical s (dataRequest cpu shape) result).cpu ∧
      (memoryDataStep cpu physical s result).owner =
        (memoryExchange cpu physical s (dataRequest cpu shape) result).owner := by
  unfold memoryDataStep
  rw [hshape]
  dsimp only
  rw [if_neg (by simp [hsp]), if_pos h]
  exact ⟨rfl, rfl⟩

/-- The version 1 service is complete for the run: it never sends a reply the run finds invalid; a reply other
than OK leaves the RAM, and the CPU but for an exception report, as they were; a served store writes the bytes of
its elements and nothing else, and a later load of the same address and size returns them. -/
theorem physical_service_complete {cpu : VfCpu} (hadmitted : Admitted cpu) {q : Request} (hq : Sends cpu q)
    (s : MemoryService) (result : RunResultV1) :
    ((memoryExchange cpu physical s q result).result.providerStatus = result.providerStatus ∨
        (memoryExchange cpu physical s q result).result.providerStatus = ProviderStatus.unsupported) ∧
      ((s.execute q).1.result ≠ ok →
        (memoryExchange cpu physical s q result).owner = s ∧
          unreported (memoryExchange cpu physical s q result).cpu = unreported cpu ∧
          ∀ shape, decodeMemory cpu.instruction = some shape → spMisaligned cpu shape = false →
            q = dataRequest cpu shape →
            (memoryDataStep cpu physical s result).owner = s ∧
              unreported (memoryDataStep cpu physical s result).cpu = unreported cpu) ∧
      (q.operation = opStore → (s.execute q).1.result = ok →
        (∃ i, s.Placed q i ∧
          (memoryExchange cpu physical s q result).owner = { s with ram := blit s.ram i (elementBytes q) }) ∧
        ∀ cpu' l, Sends cpu' l → l.operation = opLoad → l.address = q.address → l.width = q.width → l.count = q.count →
          regimeServed l = true →
          ((memoryExchange cpu physical s q result).owner.execute l).1 =
            { answer ok with value0 := q.value0, value1 := q.value1 }) := by
  obtain ⟨hnext, hsame, hstatus⟩ := exchange_outcome hadmitted hq s result
  refine ⟨hstatus, fun hne => ?_, fun hstore hok => ⟨?_, ?_⟩⟩
  · have howner : (memoryExchange cpu physical s q result).owner = s := execute_refused hne
    refine ⟨howner, hsame hne, fun shape hshape hsp hdata => ?_⟩
    obtain ⟨hcpu, hstep⟩ := sends_dataStep (s := s) hshape hsp result (by
      rw [← hdata]
      exact fun h => hne (hnext.mp h))
    rw [hcpu, hstep, ← hdata]
    exact ⟨howner, hsame hne⟩
  · obtain ⟨i, hplaced, hexecute⟩ := execute_store hq.valid hstore hok
    exact ⟨i, hplaced, congrArg Prod.snd hexecute⟩
  · intro cpu' l hl hload haddress hwidth hcount hregime
    exact congrArg Prod.fst
      (execute_store_load hq.valid hstore hok hl.valid hload haddress hwidth hcount hregime)

section Example

def storePair : VfCpu :=
  { (((VfCpu.reset 1#32).setX 0#32 0x4010#64).setX 1#32 0x1122334455667788#64).setX 2#32 0x99aabbccddeeff00#64 with
    instruction := 0xa9000801#32 }

def loadPair : VfCpu := { storePair with instruction := 0xa9401003#32 }

def pairShape (read : Bool) (rt rt2 : U32) : MemoryShape :=
  { width := 8#32, count := 2#32, mode := 2#32, rt := rt, rt2 := rt2, rn := 0#32, rm := 0#32, option := 0#32,
    shift := 0#32, read := read, signedLoad := false, result64 := true, registerOffset := false, displacement := 0#32 }

def ramWindow : MemoryService := ⟨List.replicate 64 0xa5#8, 0x4000#64⟩

theorem physical_service_complete_pair :
    ((memoryExchange storePair physical ramWindow (dataRequest storePair (pairShape false 1#32 2#32))
      ⟨0#32, 0#64, 0#64, 0#64, 0#64⟩).owner.execute (dataRequest loadPair (pairShape true 3#32 4#32))).1 =
        { answer ok with value0 := 0x1122334455667788#64, value1 := 0x99aabbccddeeff00#64 } :=
  ((@physical_service_complete storePair ⟨by decide, by decide⟩ _
    (.data (pairShape false 1#32 2#32) (by decide) (by decide)) ramWindow _).2.2 rfl (by decide)).2 loadPair _
    (.data (pairShape true 3#32 4#32) (by decide) (by decide)) rfl rfl rfl rfl (by decide)

end Example

end Exchange

end Nextcore.Provider.V1
