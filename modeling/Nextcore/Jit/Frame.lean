import Nextcore.Jit.Block

/-! What generated code reads and writes: the working registers, and pc and the
retired count at its ends. Everything else of the record stays as it is. -/

namespace Nextcore.Jit

open Cpu Emit X86

structure Working where
  x : Fin 32 → U64
  sp : U64
  pstate : U64
  far : U64
  instruction : U32
  tpidrEl0 : U64
  tpidrroEl0 : U64
  tpidrEl1 : U64

def working (g : VfCpu) : Working :=
  ⟨g.x, g.sp, g.pstate, g.far, g.instruction, g.tpidrEl0, g.tpidrroEl0, g.tpidrEl1⟩

def put (g : VfCpu) (d : Working) : VfCpu :=
  { g with
    x := d.x, sp := d.sp, pstate := d.pstate, far := d.far, instruction := d.instruction, tpidrEl0 := d.tpidrEl0,
    tpidrroEl0 := d.tpidrroEl0, tpidrEl1 := d.tpidrEl1 }

def bare (d : Working) : VfCpu := put (VfCpu.reset 0#32) d

def KeepsMode (d d' : Working) : Prop := d'.pstate &&& ~~~0xf0000000#64 = d.pstate &&& ~~~0xf0000000#64

inductive Outcome
  | next (d : Working) (ram : List Byte)
  | branches (d : Working) (target : U64) (ram : List Byte)
  | halts (d : Working) (ram : List Byte)
  | faults (status : U32) (d : Working) (ram : List Byte)

def Outcome.apply (pc : U64) (n : U32) (g : VfCpu) : Outcome → Effect
  | next d ram => .next (put g d) ram
  | branches d target ram => .stops Status.next (finished (put g d) target (n + 1#32)) ram
  | halts d ram => .stops Status.halt (finished (put g d) (pc + 4#64) (n + 1#32)) ram
  | faults status d ram => .stops status (finished (put g d) pc n) ram

def FaultStatus (status : U32) : Prop := status ≠ Status.next ∧ status ≠ Status.halt

def Outcome.Keeps (d : Working) (ram : List Byte) : Outcome → Prop
  | next d' ram' => KeepsMode d d' ∧ ram'.length = ram.length
  | branches d' _ ram' => KeepsMode d d' ∧ ram' = ram
  | halts d' ram' => KeepsMode d d' ∧ ram' = ram
  | faults status d' ram' => FaultStatus status ∧ d'.pstate = d.pstate ∧ ram' = ram

def Localized (pc : U64) (e : U32 → VfCpu → List Byte → Effect) : Prop :=
  ∃ h : U32 → U64 → U64 → Working → List Byte → Outcome, ∀ n g ram,
    e n g ram = (h g.currentEl g.hcrEl2 g.scrEl3 (working g) ram).apply pc n g ∧
      (h g.currentEl g.hcrEl2 g.scrEl3 (working g) ram).Keeps (working g) ram

structure Local (f : VfCpu → VfCpu) : Prop where
  eq : ∀ g, f g = put g (working (f (bare (working g))))
  keeps : ∀ d, KeepsMode d (working (f (bare d)))

lemma local_id : Local id := ⟨fun _ => rfl, fun _ => rfl⟩

variable {f : VfCpu → VfCpu} {v : VfCpu → U64}

lemma Local.saved (hf : Local f) (hv : ∀ g, v g = v (bare (working g))) (reg : U32) (sp : Bool) :
    Local fun g => saved (f g) reg sp (v g) := by
  constructor
  · intro g
    rw [hf.eq g, hv g]
    unfold Jit.saved
    split
    · split <;> rfl
    · rfl
  · intro d
    unfold Jit.saved
    split
    · split <;> exact hf.keeps d
    · exact hf.keeps d

lemma keepsMode_setNzcv (p flags : U64) (hflags : flags &&& ~~~0xf0000000#64 = 0#64) :
    ((p &&& ~~~0xf0000000#64) ||| flags) &&& ~~~0xf0000000#64 = p &&& ~~~0xf0000000#64 := by
  rw [BitVec.and_comm, BitVec.and_or_distrib_left, BitVec.and_comm _ flags, hflags, BitVec.or_zero, BitVec.and_comm,
    BitVec.and_assoc, BitVec.and_self]

lemma nzcv_high (n z c v : Bool) : nzcv n z c v &&& ~~~0xf0000000#64 = 0#64 := by
  cases n <;> cases z <;> cases c <;> cases v <;> decide

lemma Local.setNzcv (hf : Local f) (hv : ∀ g, v g = v (bare (working g)))
    (hflags : ∀ g, v g &&& ~~~0xf0000000#64 = 0#64) : Local fun g => setNzcv (f g) (v g) := by
  constructor
  · intro g
    rw [hf.eq g, hv g]
    rfl
  · intro d
    have hkeeps := hf.keeps d
    unfold KeepsMode at *
    rw [← hkeeps]
    exact keepsMode_setNzcv _ _ (hflags _)

lemma Local.ite (p : Prop) [Decidable p] {f' : VfCpu → VfCpu} (hf : Local f) (hf' : Local f') :
    Local fun g => if p then f g else f' g := by
  by_cases h : p
  · simpa only [h, if_true] using hf
  · simpa only [h, if_false] using hf'

lemma local_setThread (key : U32) (hv : ∀ g, v g = v (bare (working g))) : Local fun g => setThread g key (v g) := by
  constructor
  · intro g
    rw [hv g]
    unfold setThread
    split
    · rfl
    split <;> rfl
  · intro d
    unfold setThread
    split
    · rfl
    split <;> rfl

section Families

lemma guestFlags_high (subtract : Bool) (op : AluOp) (wide : Bool) (a b : U64) :
    guestFlags subtract op wide a b &&& ~~~0xf0000000#64 = 0#64 := nzcv_high _ _ _ _

lemma local_conditionalSelect (w : U32) : Local (conditionalSelectResult w) :=
  local_id.saved (fun _ => rfl) _ _

lemma immediate_high (w : U32) : ((w &&& 15#32).zeroExtend 64 : U64) <<< 28 &&& ~~~0xf0000000#64 = 0#64 := by
  apply BitVec.eq_of_getLsbD_eq
  intro i hi
  have hmask : (0xf0000000#64) = 15#64 <<< 28 := by decide
  rw [BitVec.getLsbD_and, BitVec.getLsbD_not, hmask, BitVec.getLsbD_shiftLeft, BitVec.getLsbD_shiftLeft]
  by_cases h : i < 28
  · simp [hi, h]
  · have hbits : ((w &&& 15#32).zeroExtend 64 : U64).getLsbD (i - 28) =
        (w.getLsbD (i - 28) && (15#64).getLsbD (i - 28)) := by
      simp [show i - 28 < 64 by omega]
    rw [hbits]
    simp [hi, h]

lemma local_conditionalCompare (w : U32) : Local (conditionalCompareResult w) := by
  refine local_id.setNzcv (fun _ => rfl) fun g => ?_
  split
  · exact guestFlags_high _ _ _ _ _
  · exact immediate_high w

lemma local_bitfieldMove {w : U32} {f : VfCpu → VfCpu} (h : bitfieldMoveResult w = some f) : Local f := by
  obtain ⟨⟨r, s⟩, -, rfl⟩ := Option.map_eq_some_iff.mp h
  exact local_id.saved (fun _ => rfl) _ _

lemma local_unsignedBitfieldMove {w : U32} {f : VfCpu → VfCpu} (h : unsignedBitfieldMoveResult w = some f) : Local f := by
  obtain ⟨⟨r, s⟩, -, rfl⟩ := Option.map_eq_some_iff.mp h
  exact local_id.saved (fun _ => rfl) _ _

lemma local_logicalImmediate {w : U32} {f : VfCpu → VfCpu} (h : logicalImmediateResult w = some f) : Local f := by
  obtain ⟨mask, -, rfl⟩ := Option.map_eq_some_iff.mp h
  exact .ite _ ((local_id.saved (fun _ => rfl) _ _).setNzcv (fun _ => rfl) fun _ => guestFlags_high _ _ _ _ _)
    (local_id.saved (fun _ => rfl) _ _)

lemma local_threadRegister {t : Target} {w : U32} {f : VfCpu → VfCpu} (h : threadRegisterResult t w = some f) :
    Local f := by
  unfold threadRegisterResult at h
  dsimp only at h
  split at h
  · cases h
  split at h
  · cases h
    refine local_id.saved (fun g => ?_) _ _
    unfold threadValue
    split
    · rfl
    split <;> rfl
  · cases h
    exact local_setThread _ fun _ => rfl

lemma local_moveWide {w : U32} {f : VfCpu → VfCpu} (h : moveWideResult w = some f) : Local f := by
  unfold moveWideResult at h
  dsimp only at h
  split at h
  · cases h
  split at h
  · cases h
    exact local_id.saved (fun _ => rfl) _ _
  split at h
  · cases h
    exact local_id.saved (fun _ => rfl) _ _
  · cases h
    exact local_id.saved (fun _ => rfl) _ _

lemma local_logicalShifted {w : U32} {f : VfCpu → VfCpu} (h : logicalShiftedResult w = some f) : Local f := by
  unfold logicalShiftedResult at h
  dsimp only at h
  split at h
  · cases h
  cases h
  exact .ite _ (local_id.saved (fun _ => rfl) _ _) (.ite _ ((local_id.saved (fun _ => rfl) _ _).setNzcv (fun _ => rfl)
    fun _ => guestFlags_high _ _ _ _ _) (local_id.saved (fun _ => rfl) _ _))

lemma local_addSubImmediate (w : U32) : Local (addSubImmediateResult w) :=
  .ite _ ((local_id.saved (fun _ => rfl) _ _).setNzcv (fun _ => rfl) fun _ => guestFlags_high _ _ _ _ _)
    (local_id.saved (fun _ => rfl) _ _)

lemma local_addSubExtended {w : U32} {f : VfCpu → VfCpu} (h : addSubExtendedResult w = some f) : Local f := by
  unfold addSubExtendedResult at h
  split at h
  · cases h
  cases h
  exact .ite _ ((local_id.saved (fun _ => rfl) _ _).setNzcv (fun _ => rfl) fun _ => guestFlags_high _ _ _ _ _)
    (local_id.saved (fun _ => rfl) _ _)

lemma local_addSubShifted {w : U32} {f : VfCpu → VfCpu} (h : addSubShiftedResult w = some f) : Local f := by
  unfold addSubShiftedResult at h
  dsimp only at h
  split at h
  · cases h
  cases h
  exact .ite _ ((local_id.saved (fun _ => rfl) _ _).setNzcv (fun _ => rfl) fun _ => guestFlags_high _ _ _ _ _)
    (local_id.saved (fun _ => rfl) _ _)

end Families

section Effects

variable {pc : U64}

lemma localized_next (hf : Local f) : Localized pc fun _ g ram => .next (f g) ram := by
  refine ⟨fun _ _ _ d ram => .next (working (f (bare d))) ram, fun n g ram => ⟨?_, hf.keeps _, rfl⟩⟩
  exact congrArg (Effect.next · ram) (hf.eq g)

lemma localized_stop (w : U32) {status : U32} (h : FaultStatus status) :
    Localized pc fun n => stopEffect w pc n status :=
  ⟨fun _ _ _ d ram => .faults status { d with instruction := w } ram, fun _ _ _ => ⟨rfl, h, rfl, rfl⟩⟩

lemma localized_straight (w : U32) {result : Option (VfCpu → VfCpu)} (h : ∀ f, result = some f → Local f) :
    Localized pc fun n => straightEffect w pc n result := by
  cases result with
  | none => exact localized_stop w ⟨by decide, by decide⟩
  | some f => exact localized_next (h f rfl)

lemma localized_ite (p : Prop) [Decidable p] {e e' : U32 → VfCpu → List Byte → Effect} (h : Localized pc e)
    (h' : Localized pc e') : Localized pc fun n => if p then e n else e' n := by
  by_cases hp : p
  · simpa only [hp, if_true] using h
  · simpa only [hp, if_false] using h'

lemma localized_branches (hf : Local f) {target : VfCpu → U64} (htarget : ∀ g, target g = target (bare (working g))) :
    Localized pc fun n g ram => .stops Status.next (finished (f g) (target g) (n + 1#32)) ram := by
  refine ⟨fun _ _ _ d ram => .branches (working (f (bare d))) (target (bare d)) ram,
    fun n g ram => ⟨?_, hf.keeps _, rfl⟩⟩
  beta_reduce
  rw [hf.eq g, htarget g]
  rfl

lemma localized_branch (taken : U64) {takes : VfCpu → Bool} (htakes : ∀ g, takes g = takes (bare (working g))) :
    Localized pc fun n => branchEffect taken pc n takes :=
  @localized_branches id _ local_id (fun g => if takes g then taken else pc + 4#64) fun g => by rw [htakes g]

lemma local_setX (reg : U32) (v : U64) : Local fun g => g.setX reg v := ⟨fun _ => rfl, fun _ => rfl⟩

lemma localized_branchResult (w : U32) : Localized pc fun n => branchResult w pc n :=
  @localized_branches _ _ (.ite _ (local_setX _ _) local_id) (fun _ => pc + sext (w &&& 0x3ffffff#32) 26 * 4#64)
      fun _ => rfl

lemma localized_branchRegister (w : U32) : Localized pc fun n => branchRegisterResult w pc n := by
  unfold branchRegisterResult
  by_cases h31 : rnOf w = 31#32
  · simpa only [h31, if_true] using localized_stop w ⟨by decide, by decide⟩
  · simp only [h31, if_false]
    exact localized_branches (.ite _ (local_setX _ _) local_id) fun _ => rfl

lemma localized_idRead (w : U32) : Localized pc fun n => idReadEffect w pc n := by
  refine ⟨fun el hcr scr d ram =>
    if el = 1#32 ∧ hcr ||| scr = 0#64 then .next (working (saved (bare d) (rdOf w) false (idValue w))) ram
    else .faults Status.systemRegisterTrap { d with instruction := w } ram, fun n g ram => ?_⟩
  unfold idReadEffect
  beta_reduce
  by_cases h : g.currentEl = 1#32 ∧ g.hcrEl2 ||| g.scrEl3 = 0#64
  · have hlocal := local_id.saved (v := fun _ => idValue w) (fun _ => rfl) (rdOf w) false
    rw [if_pos h, if_pos h]
    exact ⟨congrArg (Effect.next · ram) (hlocal.eq g), hlocal.keeps _, rfl⟩
  · rw [if_neg h, if_neg h]
    exact ⟨rfl, ⟨by decide, by decide⟩, rfl, rfl⟩

end Effects

section Access

lemma Local.memorySave (hf : Local f) (hv : ∀ g, v g = v (bare (working g))) (reg : U32) (wide : Bool) :
    Local fun g => memorySave (f g) reg (v g) wide := by
  simp only [memorySave_eq]
  exact hf.saved (fun g => by rw [hv g]) reg false

lemma Local.writeBase (hf : Local f) (hv : ∀ g, v g = v (bare (working g))) (shape : MemoryShape) :
    Local fun g => writeBase (f g) shape (v g) := by
  unfold Jit.writeBase
  exact .ite _ (hf.saved hv shape.rn true) hf

lemma local_loadedAt (shape : MemoryShape) {i : VfCpu → ℕ} (hi : ∀ g, i g = i (bare (working g))) (ram : List Byte) :
    Local fun g => loadedAt g shape (i g) ram := by
  unfold loadedAt loadData
  refine .ite _ ?_ local_id
  have hfirst : Local fun g => memorySave g shape.rt (if shape.signedLoad then
      sext ((Bytes.loadLe ram (i g) shape.width.toNat).truncate 32) (shape.width * 8#32).toNat
      else Bytes.loadLe ram (i g) shape.width.toNat) shape.result64 :=
    local_id.memorySave (fun g => by rw [hi g]) _ _
  exact .ite _ (hfirst.memorySave (fun g => by rw [hi g]) _ _) hfirst

lemma length_access {t : Target} {shape : MemoryShape} (hdecoded : shape.Decoded) {g : VfCpu} {ram : List Byte}
    (h : accessFault t shape g (BitVec.ofNat 64 ram.length) = none) :
    (storedAt g shape (accessAddress g shape - t.base).toNat ram).length = ram.length := by
  obtain ⟨hin, hsecond⟩ := accessFault_none h
  exact length_storedAt g (span_of_inRam hin)
    fun hcount => (span_of_pair (width_lt hdecoded.width) (hsecond hcount)).1

lemma faultStatus_block (block : Block) : FaultStatus block.status := by
  cases block <;> exact ⟨by decide, by decide⟩

variable {pc : U64}

def accessOutcome (t : Target) (shape : MemoryShape) (d : Working) (ram : List Byte) : Outcome :=
  match accessFault t shape (bare d) (BitVec.ofNat 64 ram.length) with
  | some (block, far) => .faults block.status { d with far := far } ram
  | none =>
    let g := bare d
    let i := (accessAddress g shape - t.base).toNat
    .next (working (writeBase (loadedAt g shape i ram) shape
      (memoryRegister g shape.rn true + memoryOffset g shape))) (storedAt g shape i ram)

lemma localized_access (t : Target) {shape : MemoryShape} (hdecoded : shape.Decoded) :
    Localized pc fun n => accessEffect t shape pc n := by
  refine ⟨fun _ _ _ => accessOutcome t shape, fun n g ram => ?_⟩
  have hfault : accessFault t shape g (BitVec.ofNat 64 ram.length) =
      accessFault t shape (bare (working g)) (BitVec.ofNat 64 ram.length) := rfl
  unfold accessEffect accessOutcome
  beta_reduce
  rw [hfault]
  cases haccess : accessFault t shape (bare (working g)) (BitVec.ofNat 64 ram.length) with
  | some out => exact ⟨rfl, faultStatus_block _, rfl, rfl⟩
  | none =>
    have hlocal : Local fun g => writeBase (loadedAt g shape (accessAddress g shape - t.base).toNat ram) shape
        (memoryRegister g shape.rn true + memoryOffset g shape) :=
      (local_loadedAt shape (i := fun g => (accessAddress g shape - t.base).toNat) (fun _ => rfl) ram).writeBase
        (fun _ => rfl) shape
    exact ⟨congrArg (Effect.next · _) (hlocal.eq g), hlocal.keeps _, length_access hdecoded haccess⟩

lemma localized_record {e : U32 → VfCpu → List Byte → Effect} (h : Localized pc e) (w : U32) :
    Localized pc fun n g ram => e n { g with instruction := w } ram := by
  obtain ⟨out, hout⟩ := h
  have happly : ∀ (o : Outcome) (n : U32) (g : VfCpu), o.apply pc n { g with instruction := w } = o.apply pc n g := by
    intro o n g
    cases o <;> rfl
  have hkeep : ∀ (o : Outcome) (d : Working) (ram : List Byte), o.Keeps { d with instruction := w } ram →
      o.Keeps d ram := by
    intro o d ram h
    cases o <;> exact h
  refine ⟨fun el hcr scr d ram => out el hcr scr { d with instruction := w } ram, fun n g ram => ?_⟩
  obtain ⟨heq, hkeeps⟩ := hout n { g with instruction := w } ram
  exact ⟨heq.trans (happly _ n g), hkeep _ (working g) ram hkeeps⟩

lemma localized_inline (t : Target) (w : U32) : Localized pc fun n => inlineEffect t w pc n := by
  have hfails : ∀ status, FaultStatus status → Localized pc fun n g ram => .stops status (finished g pc n) ram :=
    fun status h => ⟨fun _ _ _ d ram => .faults status d ram, fun _ _ _ => ⟨rfl, h, rfl, rfl⟩⟩
  unfold inlineEffect
  cases hdecode : decodeMemory w with
  | none => exact localized_record (hfails _ ⟨by decide, by decide⟩) w
  | some shape =>
    by_cases hregime : outsideRegime t = true
    · simp only [hregime, if_true]
      exact localized_record (hfails _ ⟨by decide, by decide⟩) w
    · simp only [hregime, Bool.false_eq_true, if_false]
      exact localized_record (localized_access t (decodeMemory_decoded hdecode)) w

end Access

lemma faultStatus_boundary (w el : U32) :
    FaultStatus (if (if knownPrivileged w el then Status.privilegeFault else systemBoundary w el) ≠ Status.next then
      (if knownPrivileged w el then Status.privilegeFault else systemBoundary w el)
      else Status.undefinedInstruction) := by
  have hcases : systemBoundary w el = Status.next ∨ systemBoundary w el = Status.systemRegisterTrap ∨
      systemBoundary w el = Status.privilegeFault := by
    unfold systemBoundary
    split
    · exact .inr (.inl rfl)
    split
    · exact .inl rfl
    split
    · exact .inl rfl
    split
    · exact .inr (.inr rfl)
    · exact .inr (.inl rfl)
  cases knownPrivileged w el with
  | true =>
    simp only [if_true]
    exact ⟨by decide, by decide⟩
  | false => rcases hcases with h | h | h <;> simp only [h, Bool.false_eq_true, if_false] <;> exact ⟨by decide, by decide⟩

lemma localized_one (t : Target) (provider : Bool) (w : U32) (pc : U64) :
    Localized pc fun n => effectOne t provider w pc n := by
  have hundefined : FaultStatus Status.undefinedInstruction := ⟨by decide, by decide⟩
  unfold effectOne
  refine localized_ite _ (localized_stop w hundefined) ?_
  refine localized_ite _ (localized_stop w hundefined) ?_
  refine localized_ite _ (localized_stop w ⟨by decide, by decide⟩) ?_
  refine localized_ite _ (localized_next (local_conditionalSelect w)) ?_
  refine localized_ite _ (localized_next (local_id.saved (fun _ => rfl) _ _)) ?_
  refine localized_ite _ (localized_next (local_id.saved (fun _ => rfl) _ _)) ?_
  refine localized_ite _ (localized_next (local_conditionalCompare w)) ?_
  refine localized_ite _ (localized_straight w fun _ => local_bitfieldMove) ?_
  refine localized_ite _ (localized_straight w fun _ => local_unsignedBitfieldMove) ?_
  refine localized_ite _ (localized_straight w fun _ => local_logicalImmediate) ?_
  refine localized_ite _ (localized_idRead w) ?_
  refine localized_ite _ (localized_straight w fun _ => local_threadRegister) ?_
  refine localized_ite _ (localized_straight w fun _ => local_moveWide) ?_
  refine localized_ite _ (localized_next (local_id.saved (fun _ => rfl) _ _)) ?_
  refine localized_ite _ (localized_straight w fun _ => local_logicalShifted) ?_
  refine localized_ite _ (localized_next (local_addSubImmediate w)) ?_
  refine localized_ite _ (localized_straight w fun _ => local_addSubExtended) ?_
  refine localized_ite _ (localized_straight w fun _ => local_addSubShifted) ?_
  refine localized_ite _ (localized_inline t w) ?_
  refine localized_ite _ (localized_branch _ fun _ => rfl) ?_
  refine localized_ite _ (localized_branch _ fun _ => rfl) ?_
  refine localized_ite _ (localized_branch _ fun _ => rfl) ?_
  refine localized_ite _ (localized_branchResult w) ?_
  refine localized_ite _ (localized_branchRegister w) ?_
  refine localized_ite _ (localized_next local_id) ?_
  refine localized_ite _ ⟨fun _ _ _ d ram => .halts d ram, fun _ _ _ => ⟨rfl, rfl, rfl⟩⟩ ?_
  exact localized_stop w (faultStatus_boundary w t.currentEl)

end Nextcore.Jit
