import Nextcore.Lib.X86.Decode

/-! The machine of the x86-64 subset, and runs of code whose jumps go forward. The
record behind `rcx` is abstract: a layout says which of its offsets may be read
and written. A flag the architecture leaves undefined, or that no program of the
subset may rely on, is `none`, and a branch on it is stuck. -/

namespace Nextcore.X86

open Bytes

inductive Value
  | word (v : U64)
  | guest
  | ram
  deriving DecidableEq, Repr

structure Flags where
  cf : Option Bool
  zf : Option Bool
  sf : Option Bool
  of : Option Bool
  deriving DecidableEq, Repr

def Flags.undefined : Flags := ⟨none, none, none, none⟩

structure Layout (C : Type) where
  guestAt : U64
  ramAt : U64
  read64 : C → U32 → Option U64
  write64 : C → U32 → U64 → Option C
  read32 : C → U32 → Option U32
  write32 : C → U32 → U32 → Option C

def Value.bits {C : Type} (L : Layout C) : Value → U64
  | .word v => v
  | .guest => L.guestAt
  | .ram => L.ramAt

structure Machine (C : Type) where
  rax : Value
  rcx : Value
  rdx : Value
  r8 : Value
  r9 : Value
  r10 : Value
  r11 : Value
  flags : Flags
  guest : C
  ram : List Byte

def aluOn {n : ℕ} (op : AluOp) (a b : BitVec n) : BitVec n × Flags :=
  let logical (r : BitVec n) : BitVec n × Flags :=
    (r, ⟨some false, some (r = 0#n), some r.msb, some false⟩)
  match op with
  | .add => (a + b, ⟨some (a.uaddOverflow b), some (a + b = 0#n), some (a + b).msb, some (a.saddOverflow b)⟩)
  | .sub | .cmp =>
    (a - b, ⟨some (a.usubOverflow b), some (a - b = 0#n), some (a - b).msb, some (a.ssubOverflow b)⟩)
  | .and | .test => logical (a &&& b)
  | .or => logical (a ||| b)
  | .xor => logical (a ^^^ b)

def AluOp.writes : AluOp → Bool
  | .cmp | .test => false
  | _ => true

def Size.low : Size → U64 → U64
  | .byte, v => (v.truncate 8 : Byte).zeroExtend 64
  | .word, v => (v.truncate 16 : BitVec 16).zeroExtend 64
  | .dword, v => (v.truncate 32 : U32).zeroExtend 64
  | .qword, v => v

def aluAt (op : AluOp) (size : Size) (a b : U64) : U64 × Flags :=
  match size with
  | .byte => let (r, f) := aluOn op (a.truncate 8 : Byte) (b.truncate 8); (r.zeroExtend 64, f)
  | .word => let (r, f) := aluOn op (a.truncate 16 : BitVec 16) (b.truncate 16); (r.zeroExtend 64, f)
  | .dword => let (r, f) := aluOn op (a.truncate 32 : U32) (b.truncate 32); (r.zeroExtend 64, f)
  | .qword => aluOn op a b

def shiftOn {n : ℕ} (op : ShiftOp) (v : BitVec n) (count : ℕ) : BitVec n :=
  match op with
  | .ror => v.rotateRight count
  | .shl => v <<< count
  | .shr => v >>> count
  | .sar => v.sshiftRight count

def shiftAt (op : ShiftOp) (size : Size) (v : U64) (count : ℕ) : Option U64 :=
  match size with
  | .qword => some (shiftOn op v (count % 64))
  | .dword => some ((shiftOn op (v.truncate 32 : U32) (count % 32)).zeroExtend 64)
  | _ => none

def extendAt (signed : Bool) (narrow size : Size) (v : U64) : U64 :=
  let wide : U64 :=
    if signed then
      match narrow with
      | .byte => (v.truncate 8 : Byte).signExtend 64
      | .word => (v.truncate 16 : BitVec 16).signExtend 64
      | .dword => (v.truncate 32 : U32).signExtend 64
      | .qword => v
    else narrow.low v
  size.low wide

def condition (f : Flags) : ℕ → Option Bool
  | 0 => f.of
  | 1 => f.of.map (!·)
  | 2 => f.cf
  | 3 => f.cf.map (!·)
  | 4 => f.zf
  | 5 => f.zf.map (!·)
  | 6 => f.cf.bind fun c => f.zf.map fun z => c || z
  | 7 => f.cf.bind fun c => f.zf.map fun z => !(c || z)
  | 8 => f.sf
  | 9 => f.sf.map (!·)
  | _ => none

namespace Machine

variable {C : Type}

def get (m : Machine C) : Reg → Value
  | .rax => m.rax
  | .rcx => m.rcx
  | .rdx => m.rdx
  | .r8 => m.r8
  | .r9 => m.r9
  | .r10 => m.r10
  | .r11 => m.r11

def set (m : Machine C) (r : Reg) (v : Value) : Machine C :=
  match r with
  | .rax => { m with rax := v }
  | .rcx => { m with rcx := v }
  | .rdx => { m with rdx := v }
  | .r8 => { m with r8 := v }
  | .r9 => { m with r9 := v }
  | .r10 => { m with r10 := v }
  | .r11 => { m with r11 := v }

variable (L : Layout C)

def word (m : Machine C) (r : Reg) : U64 := (m.get r).bits L

def index (m : Machine C) (disp : U64) (n : ℕ) : Option ℕ :=
  if m.rdx = .ram then
    let i := (m.word L .r9 + disp).toNat
    if i + n ≤ m.ram.length then some i else none
  else none

def read (m : Machine C) (size : Size) : Loc → Option U64
  | .reg r => some (size.low (m.word L r))
  | .field disp =>
    match m.rcx, size with
    | .guest, .qword => L.read64 m.guest disp
    | .guest, .dword => (L.read32 m.guest disp).map (BitVec.zeroExtend 64)
    | _, _ => none
  | .ram disp => (m.index L disp size.bytes).map fun i => loadLe m.ram i size.bytes

def write (m : Machine C) (size : Size) (loc : Loc) (v : U64) : Option (Machine C) :=
  match loc with
  | .reg r =>
    match size with
    | .qword => some (m.set r (.word v))
    | .dword => some (m.set r (.word ((v.truncate 32 : U32).zeroExtend 64)))
    | .byte =>
      some (m.set r (.word ((m.word L r &&& ~~~0xff#64) ||| (v.truncate 8 : Byte).zeroExtend 64)))
    | .word => none
  | .field disp =>
    match m.rcx, size with
    | .guest, .qword => (L.write64 m.guest disp v).map fun g => { m with guest := g }
    | .guest, .dword => (L.write32 m.guest disp (v.truncate 32)).map fun g => { m with guest := g }
    | _, _ => none
  | .ram disp =>
    (m.index L disp size.bytes).map fun i => { m with ram := storeLe m.ram i size.bytes v }

def assign (m : Machine C) (op : AluOp) (size : Size) (dst : Loc) (out : U64 × Flags) :
    Option (Machine C) :=
  let m := { m with flags := out.2 }
  if op.writes then m.write L size dst out.1 else some m

def clobber (m : Machine C) : Machine C := { m with flags := .undefined }

def execute (m : Machine C) : Instr → Option (Machine C)
  | .movImm r imm => some (m.set r (.word imm))
  | .mov .qword (.reg dst) (.reg src) => some (m.set dst (m.get src))
  | .mov size dst src => do
    let v ← m.read L size src
    m.write L size dst v
  | .movStore dst imm => m.write L .dword dst (imm.zeroExtend 64)
  | .extend signed narrow size dst src => do
    let v ← m.read L narrow src
    some (m.set dst (.word (extendAt signed narrow size v)))
  | .alu op size dst src => do
    let a ← m.read L size dst
    let b ← m.read L size src
    m.assign L op size dst (aluAt op size a b)
  | .aluImm op size dst imm => do
    let a ← m.read L size dst
    m.assign L op size dst (aluAt op size a imm)
  | .shift op size loc count => do
    let v ← m.read L size loc
    let r ← shiftAt op size v count
    m.clobber.write L size loc r
  | .shiftCl op size loc => do
    let v ← m.read L size loc
    let r ← shiftAt op size v ((m.word L .rcx).truncate 8 : Byte).toNat
    m.clobber.write L size loc r
  | .imul size dst src => do
    let a ← m.read L size (.reg dst)
    let b ← m.read L size src
    m.clobber.write L size (.reg dst) (a * b)
  | .not size loc => do
    let v ← m.read L size loc
    m.write L size loc (~~~v)
  | .setcc cc loc => do
    let c ← condition m.flags cc
    m.write L .byte loc (if c then 1#64 else 0#64)
  | .bt size loc bit => do
    let v ← m.read L size loc
    some { m with flags := { Flags.undefined with cf := some (v.getLsbD (bit % (8 * size.bytes))) } }
  | .jcc _ _ | .jmp _ | .ret => none

end Machine

def jump (rel : U32) (rest : List Byte) : Option (List Byte) :=
  if rel.toNat < 2 ^ 31 ∧ rel.toNat ≤ rest.length then some (rest.drop rel.toNat) else none

variable {C : Type}

def step (L : Layout C) (code : List Byte) (m : Machine C) :
    Option (U32 × Machine C ⊕ List Byte × Machine C) :=
  match decode code with
  | none => none
  | some (.ret, _) => some (.inl ((m.word L .rax).truncate 32, m))
  | some (.jmp rel, rest) => (jump rel rest).map fun rest => .inr (rest, m)
  | some (.jcc cc rel, rest) =>
    match condition m.flags cc with
    | none => none
    | some true => (jump rel rest).map fun rest => .inr (rest, m)
    | some false => some (.inr (rest, m))
  | some (i, rest) => (m.execute L i).map fun m => .inr (rest, m)

def exec (L : Layout C) : ℕ → List Byte → Machine C → Option (U32 × Machine C)
  | 0, _, _ => none
  | fuel + 1, code, m =>
    match step L code m with
    | none => none
    | some (.inl out) => some out
    | some (.inr (rest, m)) => exec L fuel rest m

def run (L : Layout C) (code : List Byte) (m : Machine C) : Option (U32 × Machine C) :=
  exec L code.length code m

lemma jump_le {rel : U32} {rest rest' : List Byte} (h : jump rel rest = some rest') :
    rest'.length ≤ rest.length := by
  unfold jump at h
  split at h
  · cases h
    simp
  · cases h

lemma step_lt {L : Layout C} {code rest : List Byte} {m m' : Machine C}
    (h : step L code m = some (.inr (rest, m'))) : rest.length < code.length := by
  unfold step at h
  split at h
  · cases h
  · cases h
  · rename_i rel bs hd
    obtain ⟨bs', hj, hr⟩ := Option.map_eq_some_iff.mp h
    cases hr
    exact (jump_le hj).trans_lt (decode_lt hd)
  · rename_i cc rel bs hd
    split at h
    · cases h
    · obtain ⟨bs', hj, hr⟩ := Option.map_eq_some_iff.mp h
      cases hr
      exact (jump_le hj).trans_lt (decode_lt hd)
    · cases h
      exact decode_lt hd
  · rename_i i bs _ _ _ hd
    obtain ⟨m'', -, hr⟩ := Option.map_eq_some_iff.mp h
    cases hr
    exact decode_lt hd

lemma exec_stable (L : Layout C) {fuel k : ℕ} {code : List Byte} (hf : code.length ≤ fuel)
    (hk : code.length ≤ k) (m : Machine C) : exec L fuel code m = exec L k code m := by
  have hnil : ∀ k (m : Machine C), exec L k [] m = none := by
    intro k m
    cases k <;> rfl
  induction fuel generalizing code k m with
  | zero =>
    obtain rfl := List.length_eq_zero_iff.mp (Nat.le_zero.mp hf)
    rw [hnil, hnil]
  | succ fuel ih =>
    cases k with
    | zero =>
      obtain rfl := List.length_eq_zero_iff.mp (Nat.le_zero.mp hk)
      rw [hnil, hnil]
    | succ k =>
      unfold exec
      cases hs : step L code m with
      | none => rfl
      | some out =>
        match out with
        | .inl out => rfl
        | .inr (rest, m') =>
          have hlt := step_lt hs
          exact ih (by omega) (by omega) m'

section

variable {L : Layout C} {code rest : List Byte} {m n : Machine C}

lemma run_step (h : step L code m = some (.inr (rest, n))) : run L code m = run L rest n := by
  have hlt := step_lt h
  unfold run
  rw [exec_stable L le_rfl (Nat.le_succ code.length) m]
  simp only [exec, h]
  exact exec_stable L (by omega) le_rfl n

lemma run_ret (hd : decode code = some (.ret, rest)) :
    run L code m = some ((m.word L .rax).truncate 32, m) := by
  have hs : step L code m = some (.inl ((m.word L .rax).truncate 32, m)) := by
    simp [step, hd]
  unfold run
  rw [exec_stable L le_rfl (Nat.le_succ code.length) m]
  simp only [exec, hs]

lemma run_jmp {rel : U32} (hd : decode code = some (.jmp rel, rest)) (hrel : rel.toNat < 2 ^ 31)
    (hle : rel.toNat ≤ rest.length) : run L code m = run L (rest.drop rel.toNat) m := by
  apply run_step
  have hj : jump rel rest = some (rest.drop rel.toNat) := if_pos ⟨hrel, hle⟩
  simp [step, hd, hj]

lemma run_jcc {cc : ℕ} {rel : U32} (hd : decode code = some (.jcc cc rel, rest))
    (hrel : rel.toNat < 2 ^ 31) (hle : rel.toNat ≤ rest.length) {c : Bool}
    (hc : condition m.flags cc = some c) :
    run L code m = run L (if c then rest.drop rel.toNat else rest) m := by
  apply run_step
  have hj : jump rel rest = some (rest.drop rel.toNat) := if_pos ⟨hrel, hle⟩
  cases c <;> simp [step, hd, hj, hc]

lemma run_execute {i : Instr} (hd : decode code = some (i, rest)) (he : m.execute L i = some n) :
    run L code m = run L rest n := by
  apply run_step
  cases i with
  | jcc cc rel => cases he
  | jmp rel => cases he
  | ret => cases he
  | _ => simp [step, hd, he]

end

end Nextcore.X86
