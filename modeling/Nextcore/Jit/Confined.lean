import Nextcore.Jit.Block
import Nextcore.Lib.Stores

/-! The emitter keeps to its buffer, and its answer tells whether code was lost. -/

namespace Nextcore.Jit

open Emit

lemma translateFrom_emits (t : Target) (provider : Bool) (guest : List Byte) (limit : ℕ) (pc : U64) :
    ∃ block, Emits (translateFrom t provider guest limit 0#32 pc) () block := by
  by_cases h : limit = 0
  · subst h
    exact ⟨[], emits_pure ()⟩
  · obtain ⟨block, hemits, -⟩ := emits_block t provider guest h 0#32 pc
    exact ⟨block, hemits⟩

section Translate

variable (code : Buffer) (t : Target) (provider : Bool) (guest : List Byte) (pc : U64) (limit : ℕ)

def translateStores : List (ℕ × Byte) := (translateFrom t provider guest limit 0#32 pc).stores code.capacity 0

lemma translateImpl_bytes :
    (translateImpl code t provider guest pc limit).2.bytes = replay code.bytes (translateStores code t provider guest pc limit) :=
  bytes_write _ { code with used := 0 }

/-- A translation stores below the capacity of its buffer, and succeeds exactly when the code that an emitter of
unlimited capacity produces fits; the buffer then starts with that code. -/
theorem translate_confined :
    ∃ unlimited, (translateFrom t provider guest limit 0#32 pc).emit [] = some ((), unlimited) ∧
      (∀ store ∈ translateStores code t provider guest pc limit, store.1 < code.capacity) ∧
      (∀ behind, replay (code.bytes ++ behind) (translateStores code t provider guest pc limit) =
        (translateImpl code t provider guest pc limit).2.bytes ++ behind) ∧
      ((translateImpl code t provider guest pc limit).1 = Cpu.Status.next ↔ unlimited.length ≤ code.capacity) ∧
      ((translateImpl code t provider guest pc limit).1 = Cpu.Status.next →
        (translateImpl code t provider guest pc limit).2.used = unlimited.length ∧
        (translateImpl code t provider guest pc limit).2.bytes.take unlimited.length = unlimited) := by
  obtain ⟨block, hemits⟩ := translateFrom_emits t provider guest limit pc
  have hemit := hemits []
  rw [List.nil_append] at hemit
  have hempty : Buffer.Holds { code with used := 0 } [] := ⟨rfl, fun _ => rfl⟩
  obtain ⟨-, ⟨hused, htake⟩, hcapacity⟩ := write_holds hemit hempty
  have hconfined : ∀ store ∈ translateStores code t provider guest pc limit, store.1 < code.capacity := stores_lt
  have hstatus : (translateImpl code t provider guest pc limit).1 = Cpu.Status.next ↔ block.length ≤ code.capacity := by
    unfold translateImpl
    dsimp only
    rw [hused, hcapacity]
    change (if code.capacity < block.length then Cpu.Status.codeFull else Cpu.Status.next) = _ ↔ _
    by_cases hfull : code.capacity < block.length
    · rw [if_pos hfull]
      exact ⟨fun h => absurd h (by decide), fun h => absurd hfull (Nat.not_lt.mpr h)⟩
    · rw [if_neg hfull]
      exact ⟨fun _ => Nat.not_lt.mp hfull, fun _ => rfl⟩
  refine ⟨block, hemit, hconfined, fun behind => ?_, hstatus, fun h => ⟨hused, htake ?_⟩⟩
  · rw [translateImpl_bytes, replay_behind hconfined]
  · rw [hcapacity]
    exact hstatus.mp h

end Translate

end Nextcore.Jit
