import Nextcore.Lib.Bytes

/-! The decoder of a subset of x86-64: integer moves, arithmetic and shifts on the
volatile registers, and forward jumps. -/

namespace Nextcore.X86

open Bytes

inductive Reg
  | rax | rcx | rdx | r8 | r9 | r10 | r11
  deriving DecidableEq, Repr

def Reg.ofCode (ext : Bool) (code : ℕ) : Option Reg :=
  match ext, code with
  | false, 0 => some .rax
  | false, 1 => some .rcx
  | false, 2 => some .rdx
  | true, 0 => some .r8
  | true, 1 => some .r9
  | true, 2 => some .r10
  | true, 3 => some .r11
  | _, _ => none

inductive Size
  | byte | word | dword | qword
  deriving DecidableEq, Repr

def Size.bytes : Size → ℕ
  | byte => 1
  | word => 2
  | dword => 4
  | qword => 8

inductive Loc
  | reg (r : Reg)
  | field (disp : U32)
  | ram (disp : U64)
  deriving DecidableEq, Repr

inductive AluOp
  | add | or | and | sub | xor | cmp | test
  deriving DecidableEq, Repr

inductive ShiftOp
  | ror | shl | shr | sar
  deriving DecidableEq, Repr

inductive Instr
  | movImm (r : Reg) (imm : U64)
  | mov (size : Size) (dst src : Loc)
  | movStore (dst : Loc) (imm : U32)
  | extend (signed : Bool) (narrow : Size) (size : Size) (dst : Reg) (src : Loc)
  | alu (op : AluOp) (size : Size) (dst src : Loc)
  | aluImm (op : AluOp) (size : Size) (dst : Loc) (imm : U64)
  | shift (op : ShiftOp) (size : Size) (r : Loc) (count : ℕ)
  | shiftCl (op : ShiftOp) (size : Size) (r : Loc)
  | imul (size : Size) (dst : Reg) (src : Loc)
  | not (size : Size) (r : Loc)
  | setcc (cc : ℕ) (r : Loc)
  | bt (size : Size) (r : Loc) (bit : ℕ)
  | jcc (cc : ℕ) (rel : U32)
  | jmp (rel : U32)
  | ret
  deriving DecidableEq, Repr

structure Prefix where
  half : Bool
  w : Bool
  r : Bool
  x : Bool
  b : Bool
  deriving DecidableEq, Repr

def Prefix.size (p : Prefix) : Size := if p.w then .qword else if p.half then .word else .dword

def imm8 : List Byte → Option (Byte × List Byte)
  | b0 :: bs => some (b0, bs)
  | _ => none

def imm32 : List Byte → Option (U32 × List Byte)
  | b0 :: b1 :: b2 :: b3 :: bs => some (b3 ++ b2 ++ b1 ++ b0, bs)
  | _ => none

def imm64 : List Byte → Option (U64 × List Byte)
  | b0 :: b1 :: b2 :: b3 :: b4 :: b5 :: b6 :: b7 :: bs =>
    some (b7 ++ b6 ++ b5 ++ b4 ++ b3 ++ b2 ++ b1 ++ b0, bs)
  | _ => none

def operand (p : Prefix) : List Byte → Option (ℕ × Loc × List Byte)
  | [] => none
  | modrm :: bs =>
    let mode := modrm.toNat / 64
    let reg := modrm.toNat / 8 % 8
    let rm := modrm.toNat % 8
    if mode = 3 then (Reg.ofCode p.b rm).map fun r => (reg, .reg r, bs)
    else if mode = 2 ∧ rm = 1 ∧ p.b = false then (imm32 bs).map fun (disp, bs) => (reg, .field disp, bs)
    else if rm = 4 ∧ p.x = true ∧ p.b = false then
      match bs with
      | sib :: bs =>
        if sib ≠ 0x0a#8 then none
        else if mode = 0 then some (reg, .ram 0#64, bs)
        else if mode = 1 then (imm8 bs).map fun (disp, bs) => (reg, .ram (disp.signExtend 64), bs)
        else none
      | [] => none
    else none

def AluOp.ofCode : ℕ → Option AluOp
  | 0 => some .add
  | 1 => some .or
  | 4 => some .and
  | 5 => some .sub
  | 6 => some .xor
  | 7 => some .cmp
  | _ => none

def ShiftOp.ofCode : ℕ → Option ShiftOp
  | 1 => some .ror
  | 4 => some .shl
  | 5 => some .shr
  | 7 => some .sar
  | _ => none

def decodeTwoByte (p : Prefix) : List Byte → Option (Instr × List Byte)
  | [] => none
  | op :: bs =>
    if op &&& 0xf0#8 = 0x80#8 then
      (imm32 bs).map fun (rel, bs) => (.jcc (op.toNat % 16) rel, bs)
    else if op &&& 0xf0#8 = 0x90#8 then
      (operand p bs).map fun (_, loc, bs) => (.setcc (op.toNat % 16) loc, bs)
    else if op = 0xaf#8 then do
      let (reg, loc, bs) ← operand p bs
      let r ← Reg.ofCode p.r reg
      some (.imul p.size r loc, bs)
    else if op = 0xba#8 then do
      let (reg, loc, bs) ← operand p bs
      let (bit, bs) ← imm8 bs
      if reg = 4 then some (.bt p.size loc bit.toNat, bs) else none
    else if op = 0xb6#8 ∨ op = 0xb7#8 ∨ op = 0xbe#8 ∨ op = 0xbf#8 then do
      let (reg, loc, bs) ← operand p bs
      let r ← Reg.ofCode p.r reg
      some (.extend (op = 0xbe#8 ∨ op = 0xbf#8) (if op = 0xb6#8 ∨ op = 0xbe#8 then .byte else .word)
        p.size r loc, bs)
    else none

def decodeModRM (p : Prefix) (op : Byte) (reg : ℕ) (loc : Loc) (bs : List Byte) :
    Option (Instr × List Byte) :=
  if op = 0x89#8 then (Reg.ofCode p.r reg).map fun r => (.mov p.size loc (.reg r), bs)
  else if op = 0x88#8 then (Reg.ofCode p.r reg).map fun r => (.mov .byte loc (.reg r), bs)
  else if op = 0x8b#8 then (Reg.ofCode p.r reg).map fun r => (.mov p.size (.reg r) loc, bs)
  else if op = 0x63#8 then
    (Reg.ofCode p.r reg).map fun r => (.extend true .dword p.size r loc, bs)
  else if op = 0x85#8 then (Reg.ofCode p.r reg).map fun r => (.alu .test p.size loc (.reg r), bs)
  else if op &&& 0xc7#8 = 0x01#8 then do
    let r ← Reg.ofCode p.r reg
    let op ← AluOp.ofCode (op.toNat / 8)
    some (.alu op p.size loc (.reg r), bs)
  else if op &&& 0xc7#8 = 0x03#8 then do
    let r ← Reg.ofCode p.r reg
    let op ← AluOp.ofCode (op.toNat / 8)
    some (.alu op p.size (.reg r) loc, bs)
  else if op = 0x81#8 then do
    let op ← AluOp.ofCode reg
    let (imm, bs) ← imm32 bs
    some (.aluImm op p.size loc (imm.signExtend 64), bs)
  else if op = 0x83#8 then do
    let op ← AluOp.ofCode reg
    let (imm, bs) ← imm8 bs
    some (.aluImm op p.size loc (imm.signExtend 64), bs)
  else if op = 0xc1#8 then do
    let op ← ShiftOp.ofCode reg
    let (count, bs) ← imm8 bs
    some (.shift op p.size loc count.toNat, bs)
  else if op = 0xd3#8 then (ShiftOp.ofCode reg).map fun op => (.shiftCl op p.size loc, bs)
  else if op = 0xf7#8 then if reg = 2 then some (.not p.size loc, bs) else none
  else if op = 0xc7#8 then
    if reg = 0 ∧ p.w = false then (imm32 bs).map fun (imm, bs) => (.movStore loc imm, bs) else none
  else none

def decodeOpcode (p : Prefix) : List Byte → Option (Instr × List Byte)
  | [] => none
  | op :: bs =>
    if op = 0x0f#8 then decodeTwoByte p bs
    else if op = 0xc3#8 then some (.ret, bs)
    else if op = 0xe9#8 then (imm32 bs).map fun (rel, bs) => (.jmp rel, bs)
    else if op = 0xa8#8 then
      (imm8 bs).map fun (imm, bs) => (.aluImm .test .byte (.reg .rax) (imm.zeroExtend 64), bs)
    else if op &&& 0xc7#8 = 0x05#8 then do
      let op ← AluOp.ofCode (op.toNat / 8)
      let (imm, bs) ← imm32 bs
      some (.aluImm op p.size (.reg .rax) (imm.signExtend 64), bs)
    else if op &&& 0xf8#8 = 0xb8#8 then do
      let r ← Reg.ofCode p.b (op.toNat % 8)
      if p.w then (imm64 bs).map fun (imm, bs) => (.movImm r imm, bs)
      else (imm32 bs).map fun (imm, bs) => (.movImm r (imm.zeroExtend 64), bs)
    else do
      let (reg, loc, bs) ← operand p bs
      decodeModRM p op reg loc bs

def decodeRex (half : Bool) : List Byte → Option (Instr × List Byte)
  | [] => none
  | b :: bs =>
    if b &&& 0xf0#8 = 0x40#8 then
      decodeOpcode ⟨half, b.getLsbD 3, b.getLsbD 2, b.getLsbD 1, b.getLsbD 0⟩ bs
    else decodeOpcode ⟨half, false, false, false, false⟩ (b :: bs)

def decode : List Byte → Option (Instr × List Byte)
  | [] => none
  | b :: bs => if b = 0x66#8 then decodeRex true bs else decodeRex false (b :: bs)

lemma imm8_lt {bs rest : List Byte} {v : Byte} (h : imm8 bs = some (v, rest)) :
    rest.length < bs.length := by
  cases bs with
  | nil => cases h
  | cons b bs =>
    cases h
    simp

lemma imm32_lt {bs rest : List Byte} {v : U32} (h : imm32 bs = some (v, rest)) :
    rest.length < bs.length := by
  unfold imm32 at h
  split at h
  · cases h
    simp only [List.length_cons]
    omega
  · cases h

lemma imm64_lt {bs rest : List Byte} {v : U64} (h : imm64 bs = some (v, rest)) :
    rest.length < bs.length := by
  unfold imm64 at h
  split at h
  · cases h
    simp only [List.length_cons]
    omega
  · cases h

lemma operand_lt {p : Prefix} {bs rest : List Byte} {reg : ℕ} {loc : Loc}
    (h : operand p bs = some (reg, loc, rest)) : rest.length < bs.length := by
  cases bs with
  | nil => cases h
  | cons modrm bs =>
    simp only [operand] at h
    split at h
    · obtain ⟨r, -, hr⟩ := Option.map_eq_some_iff.mp h
      cases hr
      simp
    split at h
    · obtain ⟨⟨disp, bs'⟩, hi, hr⟩ := Option.map_eq_some_iff.mp h
      cases hr
      have := imm32_lt hi
      simp only [List.length_cons]
      omega
    split at h
    · split at h
      · split at h
        · cases h
        split at h
        · cases h
          simp only [List.length_cons]
          omega
        split at h
        · obtain ⟨⟨disp, bs'⟩, hi, hr⟩ := Option.map_eq_some_iff.mp h
          cases hr
          have := imm8_lt hi
          simp only [List.length_cons]
          omega
        · cases h
      · cases h
    · cases h

lemma decodeTwoByte_le {p : Prefix} {bs rest : List Byte} {i : Instr}
    (h : decodeTwoByte p bs = some (i, rest)) : rest.length ≤ bs.length := by
  cases bs with
  | nil => cases h
  | cons op bs =>
    simp only [decodeTwoByte, Option.bind_eq_bind] at h
    split at h
    · obtain ⟨⟨rel, bs'⟩, hi, hr⟩ := Option.map_eq_some_iff.mp h
      cases hr
      have := imm32_lt hi
      simp only [List.length_cons]
      omega
    split at h
    · obtain ⟨⟨reg, loc, bs'⟩, ho, hr⟩ := Option.map_eq_some_iff.mp h
      cases hr
      have := operand_lt ho
      simp only [List.length_cons]
      omega
    split at h
    · obtain ⟨⟨reg, loc, bs'⟩, ho, hr⟩ := Option.bind_eq_some_iff.mp h
      obtain ⟨r, -, hr⟩ := Option.bind_eq_some_iff.mp hr
      cases hr
      have := operand_lt ho
      simp only [List.length_cons]
      omega
    split at h
    · obtain ⟨⟨reg, loc, bs'⟩, ho, hr⟩ := Option.bind_eq_some_iff.mp h
      obtain ⟨⟨bit, bs''⟩, hi, hr⟩ := Option.bind_eq_some_iff.mp hr
      have := operand_lt ho
      have := imm8_lt hi
      dsimp only at hr this
      split at hr
      · cases hr
        simp only [List.length_cons]
        omega
      · cases hr
    split at h
    · obtain ⟨⟨reg, loc, bs'⟩, ho, hr⟩ := Option.bind_eq_some_iff.mp h
      obtain ⟨r, -, hr⟩ := Option.bind_eq_some_iff.mp hr
      cases hr
      have := operand_lt ho
      simp only [List.length_cons]
      omega
    · cases h

lemma map_rest {α β : Type} {o : Option α} {f : α → β} {b : β} {bs rest : List Byte}
    (h : (o.map fun a => (f a, bs)) = some (b, rest)) : rest = bs := by
  obtain ⟨a, -, ha⟩ := Option.map_eq_some_iff.mp h
  cases ha
  rfl

lemma bind_imm_le {α γ : Type} {o : Option α} {imm : Option (γ × List Byte)} {f : α → γ → Instr}
    {i : Instr} {bs rest : List Byte} (himm : ∀ v rest, imm = some (v, rest) → rest.length < bs.length)
    (h : (o.bind fun a => imm.bind fun v => some (f a v.1, v.2)) = some (i, rest)) :
    rest.length ≤ bs.length := by
  obtain ⟨a, -, ha⟩ := Option.bind_eq_some_iff.mp h
  obtain ⟨⟨v, bs'⟩, hv, hr⟩ := Option.bind_eq_some_iff.mp ha
  cases hr
  exact (himm _ _ hv).le

lemma decodeModRM_le {p : Prefix} {op : Byte} {reg : ℕ} {loc : Loc} {bs rest : List Byte} {i : Instr}
    (h : decodeModRM p op reg loc bs = some (i, rest)) : rest.length ≤ bs.length := by
  have halu : ∀ (r : Option Reg) (o : Option AluOp) (f : Reg → AluOp → Instr),
      (r.bind fun r => o.bind fun o => some (f r o, bs)) = some (i, rest) → rest = bs := by
    intro r o f hr
    obtain ⟨r, -, hr⟩ := Option.bind_eq_some_iff.mp hr
    obtain ⟨o, -, hr⟩ := Option.bind_eq_some_iff.mp hr
    cases hr
    rfl
  unfold decodeModRM at h
  by_cases hop : op = 0x89#8
  · rw [if_pos hop] at h
    rw [map_rest h]
  rw [if_neg hop] at h
  clear hop
  by_cases hop : op = 0x88#8
  · rw [if_pos hop] at h
    rw [map_rest h]
  rw [if_neg hop] at h
  clear hop
  by_cases hop : op = 0x8b#8
  · rw [if_pos hop] at h
    rw [map_rest h]
  rw [if_neg hop] at h
  clear hop
  by_cases hop : op = 0x63#8
  · rw [if_pos hop] at h
    rw [map_rest h]
  rw [if_neg hop] at h
  clear hop
  by_cases hop : op = 0x85#8
  · rw [if_pos hop] at h
    rw [map_rest h]
  rw [if_neg hop] at h
  clear hop
  by_cases hop : op &&& 0xc7#8 = 0x01#8
  · rw [if_pos hop] at h
    rw [halu _ _ (fun r o => .alu o p.size loc (.reg r)) h]
  rw [if_neg hop] at h
  clear hop
  by_cases hop : op &&& 0xc7#8 = 0x03#8
  · rw [if_pos hop] at h
    rw [halu _ _ (fun r o => .alu o p.size (.reg r) loc) h]
  rw [if_neg hop] at h
  clear hop
  by_cases hop : op = 0x81#8
  · rw [if_pos hop] at h
    exact bind_imm_le (f := fun o v => .aluImm o p.size loc (v.signExtend 64)) (fun _ _ => imm32_lt) h
  rw [if_neg hop] at h
  clear hop
  by_cases hop : op = 0x83#8
  · rw [if_pos hop] at h
    exact bind_imm_le (f := fun o v => .aluImm o p.size loc (v.signExtend 64)) (fun _ _ => imm8_lt) h
  rw [if_neg hop] at h
  clear hop
  by_cases hop : op = 0xc1#8
  · rw [if_pos hop] at h
    exact bind_imm_le (f := fun o v => .shift o p.size loc v.toNat) (fun _ _ => imm8_lt) h
  rw [if_neg hop] at h
  clear hop
  by_cases hop : op = 0xd3#8
  · rw [if_pos hop] at h
    rw [map_rest h]
  rw [if_neg hop] at h
  clear hop
  split at h
  · split at h
    · cases h
      exact le_rfl
    · cases h
  split at h
  · split at h
    · obtain ⟨⟨v, bs'⟩, hv, hr⟩ := Option.map_eq_some_iff.mp h
      cases hr
      exact (imm32_lt hv).le
    · cases h
  · cases h

lemma decodeOpcode_lt {p : Prefix} {bs rest : List Byte} {i : Instr}
    (h : decodeOpcode p bs = some (i, rest)) : rest.length < bs.length := by
  cases bs with
  | nil => cases h
  | cons op bs =>
    rw [List.length_cons, Nat.lt_succ_iff]
    simp only [decodeOpcode, Option.bind_eq_bind] at h
    split at h
    · exact decodeTwoByte_le h
    split at h
    · cases h
      exact le_rfl
    split at h
    · obtain ⟨⟨rel, bs'⟩, hi, hr⟩ := Option.map_eq_some_iff.mp h
      cases hr
      exact (imm32_lt hi).le
    split at h
    · obtain ⟨⟨imm, bs'⟩, hi, hr⟩ := Option.map_eq_some_iff.mp h
      cases hr
      exact (imm8_lt hi).le
    split at h
    · exact bind_imm_le (f := fun o v => .aluImm o p.size (.reg .rax) (v.signExtend 64))
        (fun _ _ => imm32_lt) h
    split at h
    · obtain ⟨r, -, hr⟩ := Option.bind_eq_some_iff.mp h
      split at hr
      · obtain ⟨⟨imm, bs'⟩, hi, hr⟩ := Option.map_eq_some_iff.mp hr
        cases hr
        exact (imm64_lt hi).le
      · obtain ⟨⟨imm, bs'⟩, hi, hr⟩ := Option.map_eq_some_iff.mp hr
        cases hr
        exact (imm32_lt hi).le
    · obtain ⟨⟨reg, loc, bs'⟩, ho, hr⟩ := Option.bind_eq_some_iff.mp h
      exact (decodeModRM_le hr).trans (operand_lt ho).le

lemma decode_lt {bs rest : List Byte} {i : Instr} (h : decode bs = some (i, rest)) :
    rest.length < bs.length := by
  have hrex : ∀ {half : Bool} {bs : List Byte}, decodeRex half bs = some (i, rest) →
      rest.length < bs.length := by
    intro half bs h
    cases bs with
    | nil => cases h
    | cons b bs =>
      simp only [decodeRex] at h
      split at h
      · exact (decodeOpcode_lt h).trans (Nat.lt_succ_self _)
      · exact decodeOpcode_lt h
  cases bs with
  | nil => cases h
  | cons b bs =>
    simp only [decode] at h
    split at h
    · exact (hrex h).trans (Nat.lt_succ_self _)
    · exact hrex h

end Nextcore.X86
