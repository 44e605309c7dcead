import Nextcore.Mmu.Page
import Nextcore.Service.EffectiveBank

/-! Every state a `MemoryServiceV2` can be in, on its own or inside a dynamic
owner, and the invariant that holds in all of them. -/

namespace Nextcore.Service

open Mmu Mmu.VfMmu Abi Abi.V2 Bytes

lemma offset_eq_some_iff {address base : U64} {width length i : ℕ} :
    offset address width base length = some i ↔ address.toNat = base.toNat + i ∧ i + width ≤ length := by
  unfold offset
  constructor
  · intro h
    split at h
    · rename_i hin
      obtain ⟨hle, hwidth, hroom⟩ := hin
      have hsub := BitVec.toNat_sub_of_le hle
      have hle' : base.toNat ≤ address.toNat := hle
      obtain rfl := Option.some.inj h
      omega
    · cases h
  · rintro ⟨haddress, hroom⟩
    have hle : base ≤ address := by
      rw [BitVec.le_def]
      omega
    have hsub := BitVec.toNat_sub_of_le hle
    rw [if_pos ⟨hle, by omega, by omega⟩, hsub]
    congr 1
    omega

lemma offset_eq_none_iff {address base : U64} {width length : ℕ} :
    offset address width base length = none ↔
      ∀ i, address.toNat = base.toNat + i → length < i + width := by
  rw [Option.eq_none_iff_forall_ne_some]
  refine forall_congr' (fun i => ?_)
  rw [ne_eq, offset_eq_some_iff, not_and, not_le]

namespace MemoryServiceV2

/-- The states of a version 2 service: its owner's after any requests, or the one
inside a dynamic service after any events of its host. -/
inductive Held : MemoryServiceV2 → Prop
  | fixed {ram : List Byte} {ramBase : U64} {tables : List Byte} {tableBase : U64}
      {controls : Controls} {s : MemoryServiceV2} (h : new ram ramBase tables tableBase controls = .ok s)
      (requests : List Request) : Held (Run.final execute s requests)
  | dynamic {ram : List Byte} {ramBase : U64} {tables : List Byte} {tableBase : U64}
      {controls : Controls} {s : MemoryServiceDynamic}
      (h : MemoryServiceDynamic.new ram ramBase tables tableBase controls = .ok s) (nextToken : U64)
      (events : List Event) : Held (Run.final Host.step ⟨s, nextToken⟩ events).service.inner

structure Backed (s : MemoryServiceV2) : Prop where
  ramEnd : s.ramBase.toNat + s.ram.length < 2 ^ 64
  tableEnd : s.tableBase.toNat + s.tables.length < 2 ^ 64
  disjoint : s.ramBase.toNat + s.ram.length ≤ s.tableBase.toNat ∨
    s.tableBase.toNat + s.tables.length ≤ s.ramBase.toNat

structure Wired (s : MemoryServiceV2) : Prop where
  configured : s.mmu.Configured
  coherent : s.mmu.Coherent (tableReader s.tables s.tableBase)
  backed : s.Backed

lemma new_backed {ram : List Byte} {ramBase : U64} {tables : List Byte} {tableBase : U64}
    {controls : Controls} {s : MemoryServiceV2} (h : new ram ramBase tables tableBase controls = .ok s) :
    s.Backed := by
  unfold new at h
  split at h
  · cases h
  rename_i hrange
  split at h
  · cases h
  split at h
  · cases h
  cases h
  simp only [not_or, not_le, overlaps, Bool.and_eq_true, decide_eq_true_eq, not_and, not_lt] at hrange
  obtain ⟨hram, htables, -, -, hramEnd, htableEnd, hdisjoint⟩ := hrange
  refine ⟨hramEnd, htableEnd, ?_⟩
  rcases Nat.lt_or_ge ramBase.toNat (tableBase.toNat + tables.length) with hlt | hge
  · exact .inl (hdisjoint hlt)
  · exact .inr hge

lemma Backed.follows {s s' : MemoryServiceV2} (h : s.Backed) (hf : Follows s s') : s'.Backed := by
  obtain ⟨hramEnd, htableEnd, hdisjoint⟩ := h
  refine ⟨?_, ?_, ?_⟩
  · rw [hf.ramBase, hf.ramLength]
    exact hramEnd
  · rw [hf.tableBase, hf.tables]
    exact htableEnd
  · rw [hf.ramBase, hf.ramLength, hf.tableBase, hf.tables]
    exact hdisjoint

lemma Wired.follows {s s' : MemoryServiceV2} (h : s.Wired) (hf : Follows s s') : s'.Wired := by
  obtain ⟨calls, hcalls⟩ := hf.mmu
  obtain ⟨hconfigured, hcoherent⟩ := afterCalls_preserves calls h.configured h.coherent
  refine ⟨?_, ?_, h.backed.follows hf⟩
  · rw [hcalls]
    exact hconfigured
  · rw [hcalls, hf.tables, hf.tableBase]
    exact hcoherent

lemma new_wired {ram : List Byte} {ramBase : U64} {tables : List Byte} {tableBase : U64}
    {controls : Controls} {s : MemoryServiceV2} (h : new ram ramBase tables tableBase controls = .ok s) :
    s.Wired := by
  have hbacked := new_backed h
  unfold new at h
  split at h
  · cases h
  split at h
  · cases h
  split at h
  · cases h
  rename_i mmu hmmu
  cases h
  obtain ⟨hconfigured, hcoherent⟩ := configureStrictNc_configured hmmu
  exact ⟨hconfigured, hcoherent _, hbacked⟩

lemma execute_follows (s : MemoryServiceV2) (r : Request) : Follows s (s.execute r).2 :=
  executeCounted_follows s r 0#64

end MemoryServiceV2

namespace MemoryServiceDynamic

lemma control_backed {s : MemoryServiceDynamic} (hs : s.inner.Backed) (q : Dynamic.Request) (n : U64) :
    (s.control q n).2.1.inner.Backed := by
  rcases hres : s.control q n with ⟨out, s', n'⟩
  cases control_cases hres with
  | rejected => exact hs
  | prepare => exact hs
  | cancel => exact hs
  | commit => exact ⟨hs.ramEnd, hs.tableEnd, hs.disjoint⟩

lemma step_backed (h : Host) (e : Event) (hs : h.service.inner.Backed) :
    (h.step e).2.service.inner.Backed := by
  cases e with
  | control q => exact control_backed hs q h.nextToken
  | execute q => exact hs.follows (execute_follows h.service q).inner
  | draw => rw [Host.draw_service]; exact hs

end MemoryServiceDynamic

namespace MemoryServiceV2

lemma Held.wired {s : MemoryServiceV2} (h : s.Held) : s.Wired := by
  cases h with
  | fixed h requests =>
    exact Run.final_invariant (I := Wired) (C := fun _ => True)
      (fun s r hs _ => hs.follows (execute_follows s r)) requests (fun _ _ => trivial) (new_wired h)
  | @dynamic _ _ _ _ _ s h nextToken events =>
    have hinit : s.inner.Backed := by
      obtain ⟨inner, -, -, hinner, rfl⟩ := MemoryServiceDynamic.new_eq h
      exact new_backed hinner
    have hbanked : (Run.final Host.step ⟨s, nextToken⟩ events).service.Banked :=
      Run.final_invariant (I := Host.Banked) (C := fun _ => True)
        (fun host e hs _ => Host.step_banked host e hs) events (fun _ _ => trivial)
        (MemoryServiceDynamic.new_banked h)
    have hbacked : (Run.final Host.step ⟨s, nextToken⟩ events).service.inner.Backed :=
      Run.final_invariant (I := fun host : Host => host.service.inner.Backed) (C := fun _ => True)
        (fun host e hs _ => MemoryServiceDynamic.step_backed host e hs) events (fun _ _ => trivial) hinit
    exact ⟨hbanked.mmuConfigured, hbanked.coherent, hbacked⟩

end MemoryServiceV2

namespace BlockFixture

def controls : Controls :=
  ⟨2#32, 80#32, profileFixedNcUnaligned, 0#32, 0x30d00801#64, 0x2000#64, 0x2000#64, 0x80270027#64, 0x44#64, 0#64,
    0#64, 1#64⟩

def ram : List Byte := List.replicate 16 0xa5#8

def tables : List Byte := leBytes 0x441#64 8

def service : MemoryServiceV2 :=
  ⟨ram, 0x3000#64, tables, 0x2000#64, controls,
    (VfMmu.disabled.configureStrictNc 0x2000#64 0x2000#64 0x80270027#64).1⟩

lemma new_service : MemoryServiceV2.new ram 0x3000#64 tables 0x2000#64 controls = .ok service := by
  decide

lemma held_service : MemoryServiceV2.Held service := .fixed new_service []

def request (operation width count : U32) (address value0 value1 : U64) : Request :=
  ⟨2#32, 160#32, operation, 0#32, width, count, 1#32, 0#32, 0#64, address, value0, value1, 4#64, controls, 0#64⟩

end BlockFixture

end Nextcore.Service
