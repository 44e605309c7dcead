import Nextcore.Jit.Refusal
import Nextcore.Provider.Transparency

/-! A refused system register write in a run of either kind. -/

namespace Nextcore.Provider

open Abi Cpu Jit Emit X86 Loop Preos.Pauth

variable {σ R τ : Type}

section Ready

variable {protect : Protect τ} {s ready : ProviderState σ R τ} {w : U32} {bytes : List Byte}

lemma preparePlain_ready (h : preparePlain protect s w = .ready ready bytes) :
    ready.cpu = s.cpu ∧
      bytes.take (wordBlock s.cpu.currentEl w s.cpu.pc).length = wordBlock s.cpu.currentEl w s.cpu.pc := by
  obtain ⟨-, hstatus, -, -, htake⟩ := translateWord_spec s.code s.cpu w
  unfold preparePlain at h
  dsimp only at h
  split at h
  · cases h
  split at h
  · cases h
  next hnext =>
    split at h
    · cases h
    · cases h
      refine ⟨rfl, htake ?_⟩
      by_contra hfull
      rw [if_pos (Nat.not_le.mp hfull)] at hstatus
      rw [hstatus] at hnext
      exact hnext (by decide)

lemma prepareCached_ready {size : ℕ} (hcache : CacheValid size s.code s.cache)
    (h : prepareCached size protect s w = .ready ready bytes) :
    ready.cpu = s.cpu ∧
      bytes.take (wordBlock s.cpu.currentEl w s.cpu.pc).length = wordBlock s.cpu.currentEl w s.cpu.pc := by
  unfold prepareCached at h
  rcases hhit : findHit (s.cache.entries.take (slotCount s.code size)) s.cpu w with - | i
  swap
  · obtain ⟨hi, hhits⟩ := findHit_some hhit
    obtain ⟨hvalid, hpc, hword, hel⟩ := of_decide_eq_true hhits
    obtain ⟨hused, -, htake⟩ := hcache.holds i hi hvalid
    rw [hpc, hword, hel] at hused htake
    simp only [hhit] at h
    cases h
    exact ⟨rfl, by rw [← hused]; exact htake⟩
  by_cases hslots : slotCount s.code size = 0
  · simp only [hhit, if_pos hslots] at h
    exact preparePlain_ready h
  obtain ⟨-, hslot⟩ := slotCount_le s.code size (hcache.victim hslots)
  obtain ⟨-, -, hused, hcapacity, htake⟩ := translateWord_spec (slotOf s.code size s.cache.victim) s.cpu w
  rw [capacity_slotOf hslot] at hcapacity htake
  simp only [hhit, if_neg hslots] at h
  split at h
  · cases h
  by_cases hfits : size < (wordBlock s.cpu.currentEl w s.cpu.pc).length
  · have hfalls := translateSlot_falls (slotCount s.code size) (s := { s with
      opaque_ := (protect s.opaque_ false).1,
      cache := { s.cache with entries := invalidateAt s.cache.entries s.cache.victim } }) hslot hfits
    obtain ⟨-, -, -, -, htake'⟩ := translateWord_spec
      (withSlot s.code size s.cache.victim (translateWord (slotOf s.code size s.cache.victim) s.cpu w).2) s.cpu w
    rw [capacity_withSlot hslot hcapacity] at htake'
    simp only [hfalls] at h
    by_cases hfull : s.code.capacity < (wordBlock s.cpu.currentEl w s.cpu.pc).length
    · simp only [if_pos hfull] at h
      rw [if_pos (by decide)] at h
      cases h
    · simp only [if_neg hfull] at h
      rw [if_neg (by decide)] at h
      split at h
      · cases h
      · rw [if_neg (by decide)] at h
        cases h
        exact ⟨rfl, htake' (Nat.not_lt.mp hfull)⟩
  · have hle : (wordBlock s.cpu.currentEl w s.cpu.pc).length ≤ size := Nat.not_lt.mp hfits
    have hslotted := translateSlot_fits (slotCount s.code size) (s := { s with
      opaque_ := (protect s.opaque_ false).1,
      cache := { s.cache with entries := invalidateAt s.cache.entries s.cache.victim } }) hslot hle
    simp only [hslotted] at h
    rw [if_neg (by decide)] at h
    split at h
    · cases h
    · rw [if_pos trivial] at h
      cases h
      refine ⟨rfl, ?_⟩
      rw [drop_withSlot hslot hcapacity hle]
      exact htake hle

end Ready

def Builds (protect : Protect τ) (s : ProviderState σ R τ) (prepare : Prepare σ R τ) : Prop :=
  prepare = preparePlain protect ∨ ∃ size, prepare = prepareCached size protect ∧ CacheValid size s.code s.cache

def V1.fetchedState (callback : V1.Callback σ) (s : ProviderState σ RunResultV1 τ) : ProviderState σ RunResultV1 τ :=
  let fetched := V1.fetch callback s.cpu s.owner s.result
  { s with cpu := fetched.cpu, owner := fetched.owner, result := fetched.result }

structure V1.Arrives (callback : V1.Callback σ) (pauth : Option PauthStep) (protect : Protect τ)
    (prepare : Prepare σ RunResultV1 τ) (budget start : U64) (s : ProviderState σ RunResultV1 τ) (w : U32)
    (ready : ProviderState σ RunResultV1 τ) (bytes : List Byte) : Prop where
  left : s.cpu.retired - start < budget
  valid : s.cpu.stateValid = true
  admitted : (V1.protocol callback pauth).gate s.cpu s.result = none
  quiet : s.cpu.pollInterrupt.1 = Status.next
  served : (V1.fetch callback s.cpu s.owner s.result).status = Status.next
  word : (V1.fetch callback s.cpu s.owner s.result).instruction = w
  build : Builds protect (V1.fetchedState callback s) prepare
  prepared : prepare (V1.fetchedState callback s) w = .ready ready bytes

section Turn

variable {callback : V1.Callback σ} {pauth : Option PauthStep} {protect : Protect τ} {prepare : Prepare σ RunResultV1 τ}
  {budget start : U64} {s ready : ProviderState σ RunResultV1 τ} {w : U32} {bytes : List Byte}

lemma V1.Arrives.code (h : V1.Arrives callback pauth protect prepare budget start s w ready bytes) :
    ready.cpu = s.cpu ∧
      bytes.take (wordBlock s.cpu.currentEl w s.cpu.pc).length = wordBlock s.cpu.currentEl w s.cpu.pc := by
  have hfetched : (V1.fetchedState callback s).cpu = s.cpu := V1.judgeReply_next h.served
  have hready : ready.cpu = (V1.fetchedState callback s).cpu ∧
      bytes.take (wordBlock (V1.fetchedState callback s).cpu.currentEl w (V1.fetchedState callback s).cpu.pc).length =
        wordBlock (V1.fetchedState callback s).cpu.currentEl w (V1.fetchedState callback s).cpu.pc := by
    have hprepared := h.prepared
    rcases h.build with hplain | ⟨size, hcached, hcache⟩
    · rw [hplain] at hprepared
      exact preparePlain_ready hprepared
    · rw [hcached] at hprepared
      exact prepareCached_ready hcache hprepared
  rw [hfetched] at hready
  exact hready

lemma word_le32 (w : U32) : word (le32 w) 0 = w := Nextcore.X86.le32_word w

lemma V1.Arrives.turn (h : V1.Arrives callback pauth protect prepare budget start s w ready bytes) (caller : Caller)
    {status : U32} (hnot : status ≠ Status.memoryDispatch)
    (hstop : effectOne (Target.ofCpu s.cpu) true w s.cpu.pc 0#32 = stopEffect w s.cpu.pc 0#32 status) :
    providerTurn caller (V1.protocol callback pauth) prepare budget start s =
      some (mapTurn ready.put (dispatch (slowStep pauth) status { boundary s.cpu 0 s.cpu with instruction := w })) := by
  obtain ⟨hcpu, hbytes⟩ := h.code
  have heffect : wordEffect ready.cpu w ready.cpu [] =
      .stops status (finished { s.cpu with instruction := w } s.cpu.pc 0#32) [] := by
    rw [hcpu, wordEffect, blockEffect, effectFrom]
    dsimp only
    rw [if_neg (by simp), blockWord, if_pos rfl, word_le32, hstop]
    rfl
  have hrun : runTurn caller (V1.protocol callback pauth) bytes ready =
      some (afterBlock (V1.protocol callback pauth) ready status
        (settle ready.cpu.retired (finished { s.cpu with instruction := w } s.cpu.pc 0#32))) := by
    refine runTurn_word ?_ heffect
    rw [hcpu]
    exact hbytes
  have hprepared := h.prepared
  unfold V1.fetchedState at hprepared
  unfold providerTurn
  rw [if_neg (not_not.mpr h.left), h.admitted]
  dsimp only
  rw [if_neg (not_not.mpr h.quiet), VfCpu.pollInterrupt_next h.quiet]
  have hserved : ((V1.protocol callback pauth).fetch s.cpu s.owner s.result).status = Status.next := h.served
  have hword : ((V1.protocol callback pauth).fetch s.cpu s.owner s.result).instruction = w := h.word
  rw [if_neg (not_not.mpr hserved), hword]
  refine (congrArg (preparedTurn caller (V1.protocol callback pauth)) hprepared).trans ?_
  rw [preparedTurn, hrun, hcpu]
  unfold afterBlock
  rw [if_neg hnot, boundary, show s.cpu.pc + BitVec.ofNat 64 (4 * 0) = s.cpu.pc from BitVec.add_zero _]
  rfl

lemma providerTurn_refused {installed : Bool}
    (h : V1.Arrives callback (pacStep installed) protect prepare budget start s w ready bytes) (caller : Caller)
    (hmsr : isMsrRegister w = true) (hkey : sysregKey w ∉ pauthKeyWords)
    (hrefused : ((boundary s.cpu 0 s.cpu).writeSysreg (sysregKey w) (sourceOf (boundary s.cpu 0 s.cpu) w)).1 ≠ .ok) :
    NoEffect ProviderState.cpu (boundary s.cpu 0 s.cpu) w
        (providerTurn caller (V1.protocol callback (pacStep installed)) prepare budget start s) ↔
      ¬PacWritesTcr installed (boundary s.cpu 0 s.cpu) w := by
  have hvalid : (boundary s.cpu 0 s.cpu).stateValid = true := h.valid
  obtain ⟨status, hstatus, hlevel, hstop⟩ := effectOne_refused (t := Target.ofCpu s.cpu) hmsr hvalid rfl hrefused true
    s.cpu.pc 0#32
  have hnot : status ≠ Status.memoryDispatch := by
    rcases hstatus with rfl | rfl | rfl <;> decide
  rw [h.turn caller hnot hstop]
  refine noEffect_dispatch hmsr hrefused (fun _ => rfl) hkey hvalid ?_ hstatus fun hel => hlevel hel
  have hgate := h.admitted
  simp only [V1.protocol] at hgate
  split at hgate
  · cases hgate
  next hopen => exact not_not.mp (not_or.mp hopen).1

end Turn

/-- A refused write has no effect and stops the run, exactly when the PAC step does not take it for a TCR write. -/
theorem refused_write_no_effect_iff (installed : Bool) (w : U32) (hmsr : isMsrRegister w = true)
    (hkey : sysregKey w ∉ pauthKeyWords) :
    (∀ (caller : Caller) (protect : Protect τ) (image : Image) (budget start : U64) (s : RunState τ) (k : ℕ) (g : VfCpu)
      (ram : List Byte), Arrives protect image 32 budget start s k w g ram →
      ((boundary s.cpu k g).writeSysreg (sysregKey w) (sourceOf (boundary s.cpu k g) w)).1 ≠ .ok →
      (NoEffect RunState.cpu (boundary s.cpu k g) w
          (vfRunTurn caller (pacStep installed) protect image 32 budget start s) ↔
        ¬PacWritesTcr installed (boundary s.cpu k g) w)) ∧
    (∀ (caller : Caller) (protect : Protect τ) (callback : V1.Callback σ) (prepare : Prepare σ RunResultV1 τ)
      (budget start : U64) (s ready : ProviderState σ RunResultV1 τ) (bytes : List Byte),
      V1.Arrives callback (pacStep installed) protect prepare budget start s w ready bytes →
      ((boundary s.cpu 0 s.cpu).writeSysreg (sysregKey w) (sourceOf (boundary s.cpu 0 s.cpu) w)).1 ≠ .ok →
      (NoEffect ProviderState.cpu (boundary s.cpu 0 s.cpu) w
          (providerTurn caller (V1.protocol callback (pacStep installed)) prepare budget start s) ↔
        ¬PacWritesTcr installed (boundary s.cpu 0 s.cpu) w)) :=
  ⟨fun caller _ _ _ _ _ _ _ _ harrives hrefused => vfRunTurn_refused harrives hmsr hrefused caller hkey,
    fun caller _ _ _ _ _ _ _ _ harrives hrefused => providerTurn_refused harrives caller hmsr hkey hrefused⟩

section Example

def reservedTcr : VfCpu := (VfCpu.reset 1#32).setX 0#32 0x8000000000#64

def msrTcr : U32 := 0xd5182040#32

def msrTcrImage : Image := ⟨fun _ => le32 msrTcr, 4, fun _ => rfl⟩

def msrTcrRun : RunState Unit := ⟨reservedTcr, List.replicate 8 0#8, ⟨List.replicate 128 0#8, 0⟩, ()⟩

def serveMsrTcr : V1.Callback Unit := fun _ _ =>
  ((), 0#32, { abiVersion := 1#32, structSize := 80#32, value0 := msrTcr.zeroExtend 64 })

def msrTcrProvider : ProviderState Unit RunResultV1 Unit :=
  ⟨reservedTcr, ⟨List.replicate 128 0#8, 0⟩, (), (), ⟨0#32, 0#64, 0#64, 0#64, 0#64⟩, .empty⟩

def always : Protect Unit := fun o _ => (o, 0#32)

lemma arrives_msrTcr : Arrives always msrTcrImage 32 1#64 0#64 msrTcrRun 0 msrTcr reservedTcr (List.replicate 8 0#8) := by
  refine ⟨by decide, by decide, by decide, by decide, by decide, by decide +kernel, by decide, by decide, rfl, by decide,
    by decide⟩

lemma arrives_serveMsrTcr (pauth : Option PauthStep) : ∃ ready bytes,
    V1.Arrives serveMsrTcr pauth always (preparePlain always) 1#64 0#64 msrTcrProvider msrTcr ready bytes := by
  obtain ⟨o, hplain⟩ := preparePlain_eq (show ∀ o flag, (always o flag).2 = 0#32 from fun _ _ => rfl)
    (V1.fetchedState serveMsrTcr msrTcrProvider) msrTcr
  have hroom : ¬128 < (wordBlock 1#32 msrTcr 0#64).length := by decide +kernel
  exact ⟨_, _, by decide, by decide, rfl, by decide, by decide, by decide, .inl rfl, hplain.trans (if_neg hroom)⟩

lemma refused_msrTcr : ((boundary reservedTcr 0 reservedTcr).writeSysreg (sysregKey msrTcr)
    (sourceOf (boundary reservedTcr 0 reservedTcr) msrTcr)).1 = .invalidValue := by decide

end Example

theorem refused_write_no_effect_tcr :
    NoEffect RunState.cpu (boundary reservedTcr 0 reservedTcr) msrTcr
        (vfRunTurn ⟨⟨0x10000#64, 0x20000#64⟩, fun _ => ⟨.word 0#64, .word 0#64, .word 0#64, .word 0#64, .undefined⟩⟩
          (pacStep false) always msrTcrImage 32 1#64 0#64 msrTcrRun) ∧
      NoEffect ProviderState.cpu (boundary reservedTcr 0 reservedTcr) msrTcr
        (providerTurn ⟨⟨0x10000#64, 0x20000#64⟩, fun _ => ⟨.word 0#64, .word 0#64, .word 0#64, .word 0#64, .undefined⟩⟩
          (V1.protocol serveMsrTcr (pacStep false)) (preparePlain always) 1#64 0#64 msrTcrProvider) := by
  obtain ⟨ready, bytes, harrives⟩ := arrives_serveMsrTcr (pacStep false)
  have hrefused : ((boundary reservedTcr 0 reservedTcr).writeSysreg (sysregKey msrTcr)
      (sourceOf (boundary reservedTcr 0 reservedTcr) msrTcr)).1 ≠ .ok := by
    rw [refused_msrTcr]
    decide
  have hpac : ¬PacWritesTcr false (boundary reservedTcr 0 reservedTcr) msrTcr := fun h => Bool.false_ne_true h.1
  have hlaw := refused_write_no_effect_iff (σ := Unit) (τ := Unit) false msrTcr (by decide) (by decide)
  exact ⟨(hlaw.1 _ _ _ _ _ _ _ _ _ arrives_msrTcr hrefused).mpr hpac,
    (hlaw.2 _ _ _ _ _ _ _ _ _ harrives hrefused).mpr hpac⟩

/-- With the PAC step, the refused write is made: TCR_EL1 takes the reserved bit, and the word retires. -/
theorem refused_write_stores_tcr :
    ((boundary reservedTcr 0 reservedTcr).writeSysreg (sysregKey msrTcr)
        (sourceOf (boundary reservedTcr 0 reservedTcr) msrTcr)).1 = .invalidValue ∧
      reservedTcr.tcr = 16#64 ∧
      (∃ s', vfRunTurn ⟨⟨0x10000#64, 0x20000#64⟩, fun _ => ⟨.word 0#64, .word 0#64, .word 0#64, .word 0#64, .undefined⟩⟩
          (pacStep true) always msrTcrImage 32 1#64 0#64 msrTcrRun = some (.again s') ∧
        s'.cpu.tcr = 0x8000000000#64 ∧ s'.cpu.retired = 1#64) ∧
      ¬NoEffect RunState.cpu (boundary reservedTcr 0 reservedTcr) msrTcr
        (vfRunTurn ⟨⟨0x10000#64, 0x20000#64⟩, fun _ => ⟨.word 0#64, .word 0#64, .word 0#64, .word 0#64, .undefined⟩⟩
          (pacStep true) always msrTcrImage 32 1#64 0#64 msrTcrRun) := by
  have hrefused : ((boundary reservedTcr 0 reservedTcr).writeSysreg (sysregKey msrTcr)
      (sourceOf (boundary reservedTcr 0 reservedTcr) msrTcr)).1 ≠ .ok := by
    rw [refused_msrTcr]
    decide
  have hpac : PacWritesTcr true (boundary reservedTcr 0 reservedTcr) msrTcr := ⟨rfl, by decide, by decide⟩
  obtain ⟨s', hturn, htcr, hretired⟩ := vfRunTurn_pac arrives_msrTcr (by decide) hrefused
    ⟨⟨0x10000#64, 0x20000#64⟩, fun _ => ⟨.word 0#64, .word 0#64, .word 0#64, .word 0#64, .undefined⟩⟩ hpac
  refine ⟨refused_msrTcr, rfl, ⟨s', hturn, ?_, ?_⟩, ?_⟩
  · exact htcr.trans (by decide)
  · exact hretired.trans (by decide)
  · rintro ⟨status, s'', hdone, -⟩
    rw [hturn] at hdone
    cases hdone

end Nextcore.Provider
