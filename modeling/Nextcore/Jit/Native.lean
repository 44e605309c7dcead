import Nextcore.Jit.Run

/-! The effect of every instruction family, and that the emitted code has it. -/

namespace Nextcore.Jit

open Cpu Emit X86

inductive Effect
  | next (cpu : VfCpu) (ram : List Byte)
  | stops (status : U32) (cpu : VfCpu) (ram : List Byte)

abbrev entry (rax r9 r10 r11 : Value) (f : Flags) (g : VfCpu) (ram : List Byte) : Machine VfCpu :=
  ⟨rax, .guest, .ram, .word (BitVec.ofNat 64 ram.length), r9, r10, r11, f, g, ram⟩

def Runs (code : List Byte) (effect : VfCpu → List Byte → Effect) : Prop :=
  ∀ (host : Host) (rax r9 r10 r11 : Value) (f : Flags) (g : VfCpu) (ram rest : List Byte),
    match effect g ram with
    | .next g' ram' => ∃ (rax' r9' r10' r11' : Value) (f' : Flags),
        run (layout host) (code ++ rest) (entry rax r9 r10 r11 f g ram) =
          run (layout host) rest (entry rax' r9' r10' r11' f' g' ram')
    | .stops status g' ram' =>
        returned (run (layout host) (code ++ rest) (entry rax r9 r10 r11 f g ram)) = some (status, g', ram')

def Translates (m : Emit Bool) (effect : VfCpu → List Byte → Effect) : Prop :=
  ∃ (code : List Byte) (more : Bool), Emits m more code ∧ Runs code effect ∧
    (more = false → ∀ g ram, ∃ status g' ram', effect g ram = .stops status g' ram')

lemma and_lt (x : U32) : x &&& 31#32 < 32#32 := by
  have h : (x &&& 31#32).toNat ≤ 31 := by
    rw [BitVec.toNat_and]
    exact Nat.and_le_right
  exact Nat.lt_succ_of_le h

lemma rdOf_lt (w : U32) : rdOf w < 32#32 := and_lt _

lemma rnOf_lt (w : U32) : rnOf w < 32#32 := and_lt _

lemma rmOf_lt (w : U32) : rmOf w < 32#32 := and_lt _

lemma raOf_lt (w : U32) : raOf w < 32#32 := and_lt _

def operandOf (g : VfCpu) (reg : U32) (wide : Bool) : U64 := low wide (memoryRegister g reg false)

def shiftOf (shift : U32) : ShiftOp :=
  if shift = 0#32 then .shl else if shift = 1#32 then .shr else if shift = 2#32 then .sar else .ror

lemma shiftExtension_eq (shift : U32) : shiftExtension shift = extensionOf (shiftOf shift) := by
  unfold shiftExtension shiftOf
  split
  · rfl
  split
  · rfl
  split <;> rfl

def addSubOp (subtract : Bool) : AluOp := if subtract then .sub else .add

lemma addSub_opcode (subtract : Bool) : (if subtract then 0x29#8 else 0x01#8) = opcodeOf (addSubOp subtract) := by
  cases subtract <;> rfl

lemma addSubOp_writes (subtract : Bool) : (addSubOp subtract).writes = true := by
  cases subtract <;> rfl

def logicalOp (op : U32) : AluOp := if op = 1#32 then .or else if op = 2#32 then .xor else .and

lemma logicalOpcode_eq (op : U32) : logicalOpcode op = opcodeOf (logicalOp op) := by
  unfold logicalOpcode logicalOp
  split
  · rfl
  split <;> rfl

lemma logicalOp_writes (op : U32) : (logicalOp op).writes = true := by
  unfold logicalOp
  split
  · rfl
  split <;> rfl

def product (wide : Bool) (a b : U64) : U64 := low wide (low wide a * low wide b)

def guestFlags (subtract : Bool) (op : AluOp) (wide : Bool) (a b : U64) : U64 :=
  let f := aluFlags op wide a b
  nzcv (f.sf.getD false) (f.zf.getD false) (subtract ^^ f.cf.getD false) (f.of.getD false)

section Straight

variable {host : Host} {rax rcx rdx r8 r9 r10 r11 : Value} {f : Flags} {g : VfCpu} {ram rest : List Byte}
  {a b c : U64}

lemma run_shiftCl (op : ShiftOp) (wide : Bool) :
    run (layout host) ([0x49#8, 0x89#8, 0xca#8] ++ ([0x44#8, 0x89#8, 0xc9#8] ++ (rex wide ++
        ([0xd3#8, extensionOf op] ++ ([0x4c#8, 0x89#8, 0xd1#8] ++ rest)))))
        ⟨.word a, .guest, rdx, r8, .word b, r10, r11, f, g, ram⟩ =
      run (layout host) rest ⟨.word (shifted op wide a b.toNat), .guest, rdx, r8, .word b, .guest, r11,
        .undefined, g, ram⟩ := by
  have hshift : decode (rex wide ++ ([0xd3#8, extensionOf op] ++ ([0x4c#8, 0x89#8, 0xd1#8] ++ rest))) =
      some (.shiftCl op (sizeOf wide) (.reg .rax), [0x4c#8, 0x89#8, 0xd1#8] ++ rest) := by
    cases op <;> cases wide <;> rfl
  have hcount : ∀ v : U64, shifted op wide v ((low false b).truncate 8 : Byte).toNat =
      shifted op wide v b.toNat := by
    intro v
    have hlow : ((low false b).truncate 8 : Byte).toNat = b.toNat % 256 := by
      change (BitVec.truncate 8 (BitVec.zeroExtend 64 (b.truncate 32 : U32)) : Byte).toNat = _
      simp only [BitVec.truncate_eq_setWidth, BitVec.toNat_setWidth]
      omega
    simp only [shifted, hlow, show b.toNat % 256 % 64 = b.toNat % 64 by omega,
      show b.toNat % 256 % 32 = b.toNat % 32 by omega]
  have hmove : (Machine.mk (.word a) .guest rdx r8 (.word b) .guest r11 f g ram).execute (layout host)
      (.mov .dword (.reg .rcx) (.reg .r9)) =
      some ⟨.word a, .word (low false b), rdx, r8, .word b, .guest, r11, f, g, ram⟩ :=
    congrArg (fun v => some (Machine.mk _ (.word v) _ _ _ _ _ _ _ _)) (low_low false b)
  have hexec : (Machine.mk (.word a) (.word (low false b)) rdx r8 (.word b) .guest r11 f g ram).execute
      (layout host) (.shiftCl op (sizeOf wide) (.reg .rax)) =
      some ⟨.word (shifted op wide a b.toNat), .word (low false b), rdx, r8, .word b, .guest, r11, .undefined, g,
        ram⟩ := by
    have hread : (Machine.mk (.word a) (.word (low false b)) rdx r8 (.word b) .guest r11 f g ram).read
        (layout host) (sizeOf wide) (.reg .rax) = some (low wide a) := rfl
    have hword : (Machine.mk (.word a) (.word (low false b)) rdx r8 (.word b) .guest r11 f g ram).word
        (layout host) .rcx = low false b := rfl
    simp only [Machine.execute, hread, hword, Option.bind_eq_bind, Option.bind_some, shiftAt_shifted, hcount]
    exact write_rax wide (low_shifted _ _ _ _)
  refine (run_execute (i := .mov .qword (.reg .r10) (.reg .rcx)) rfl rfl).trans ?_
  refine (run_execute (i := .mov .dword (.reg .rcx) (.reg .r9)) rfl hmove).trans ?_
  refine (run_execute hshift hexec).trans ?_
  exact run_execute (i := .mov .qword (.reg .rcx) (.reg .r10)) rfl rfl

lemma run_imul (wide : Bool) :
    run (layout host) ([if wide then 0x49#8 else 0x41#8, 0x0f#8, 0xaf#8, 0xc1#8] ++ rest)
        ⟨.word a, rcx, rdx, r8, .word b, r10, r11, f, g, ram⟩ =
      run (layout host) rest ⟨.word (product wide a b), rcx, rdx, r8, .word b, r10, r11, .undefined, g, ram⟩ := by
  have hd : decode ([if wide then 0x49#8 else 0x41#8, 0x0f#8, 0xaf#8, 0xc1#8] ++ rest) =
      some (.imul (sizeOf wide) .rax (.reg .r9), rest) := by
    cases wide <;> rfl
  refine run_execute hd ?_
  cases wide <;> rfl

lemma run_shiftIf (p : Prop) [Decidable p] (op : ShiftOp) (wide : Bool) (amount : U32) :
    run (layout host) ((if p then shiftRax wide (extensionOf op) amount else []) ++ rest)
        ⟨.word a, rcx, rdx, r8, r9, r10, r11, f, g, ram⟩ =
      run (layout host) rest ⟨.word (if p then shifted op wide a amount.toNat else a), rcx, rdx, r8, r9, r10, r11,
        if p then .undefined else f, g, ram⟩ := by
  split
  · exact run_shiftRax op wide amount
  · rfl

lemma run_notIf (p : Prop) [Decidable p] (wide : Bool) :
    run (layout host) ((if p then notRax wide else []) ++ rest) ⟨.word a, rcx, rdx, r8, r9, r10, r11, f, g, ram⟩ =
      run (layout host) rest ⟨.word (if p then low wide (~~~(low wide a)) else a), rcx, rdx, r8, r9, r10, r11, f, g,
        ram⟩ := by
  split
  · exact run_notRax wide
  · rfl

lemma run_incrementIf (p : Prop) [Decidable p] (wide : Bool) :
    run (layout host) ((if p then rex wide ++ [0x83#8, 0xc0#8, 1#8] else []) ++ rest)
        ⟨.word a, rcx, rdx, r8, r9, r10, r11, f, g, ram⟩ =
      run (layout host) rest ⟨.word (if p then alu .add wide a 1#64 else a), rcx, rdx, r8, r9, r10, r11,
        if p then aluFlags .add wide a 1#64 else f, g, ram⟩ := by
  split
  · exact run_increment wide
  · rfl

lemma aluFlags_eq (op : AluOp) (wide : Bool) (a b : U64) :
    ∃ cf zf sf of, aluFlags op wide a b = ⟨some cf, some zf, some sf, some of⟩ := by
  cases op <;> cases wide <;> exact ⟨_, _, _, _, rfl⟩

lemma run_flags (subtract : Bool) (op : AluOp) (wide : Bool) (x y : U64) :
    ∃ (rax' r9' r10' r11' : Value) (f' : Flags),
      run (layout host) (saveArithmeticFlags subtract ++ rest)
          ⟨rax, .guest, rdx, r8, r9, r10, r11, aluFlags op wide x y, g, ram⟩ =
        run (layout host) rest ⟨rax', .guest, rdx, r8, r9', r10', r11', f',
          setNzcv g (guestFlags subtract op wide x y), ram⟩ := by
  obtain ⟨cf, zf, sf, of, h⟩ := aluFlags_eq op wide x y
  rw [guestFlags, h]
  exact ⟨_, _, _, _, _, run_saveArithmeticFlags subtract⟩

lemma run_flagsIf (p : Prop) [Decidable p] (subtract : Bool) (op : AluOp) (wide : Bool) (x y : U64) :
    ∃ (rax' r9' r10' r11' : Value) (f' : Flags),
      run (layout host) ((if p then saveArithmeticFlags subtract else []) ++ rest)
          ⟨rax, .guest, rdx, r8, r9, r10, r11, aluFlags op wide x y, g, ram⟩ =
        run (layout host) rest ⟨rax', .guest, rdx, r8, r9', r10', r11', f',
          if p then setNzcv g (guestFlags subtract op wide x y) else g, ram⟩ := by
  split
  · exact run_flags subtract op wide x y
  · exact ⟨_, _, _, _, _, rfl⟩

def Computes : Option (List Byte) → Option (VfCpu → VfCpu) → Prop
  | none, none => True
  | some code, some result => Runs code fun g ram => .next (result g) ram
  | _, _ => False

def variableShiftResult (w : U32) (g : VfCpu) : VfCpu :=
  saved g (rdOf w) false (shifted (shiftOf ((w >>> 10) &&& 3#32)) (wideOf w) (operandOf g (rnOf w) (wideOf w))
    (operandOf g (rmOf w) (wideOf w)).toNat)

lemma computes_variableShift (w : U32) : Computes (variableShift w) (variableShiftResult w) := by
  intro host rax r9 r10 r11 f g ram rest
  simp only [variableShift, List.append_assoc, shiftExtension_eq, run_load (rmOf_lt w), run_moveR9,
    run_load (rnOf_lt w), run_shiftCl, run_save (rdOf_lt w)]
  exact ⟨_, _, _, _, _, rfl⟩

def multiplyAddResult (w : U32) (g : VfCpu) : VfCpu :=
  let wide := wideOf w
  saved g (rdOf w) false (alu (addSubOp (bitOf w 15)) wide (operandOf g (raOf w) wide)
    (product wide (operandOf g (rnOf w) wide) (operandOf g (rmOf w) wide)))

lemma computes_multiplyAdd (w : U32) : Computes (multiplyAdd w) (multiplyAddResult w) := by
  intro host rax r9 r10 r11 f g ram rest
  simp only [multiplyAdd, List.append_assoc, run_load (rmOf_lt w), run_moveR9, run_load (rnOf_lt w), run_imul,
    run_load (raOf_lt w), addSub_opcode, run_aluR9 (addSubOp_writes _), run_save (rdOf_lt w)]
  exact ⟨_, _, _, _, _, rfl⟩

def bitfieldMoveResult (w : U32) : Option (VfCpu → VfCpu) :=
  (bitfield w).map fun (r, s) g =>
    let wide := wideOf w
    let position := if r ≤ s then 0#32 else (if wide then 64#32 else 32#32) - r
    let mask := lowMask (if r ≤ s then s - r + 1#32 else s + 1#32)
    let v := operandOf g (rnOf w) wide
    let v := if r ≤ s ∧ r ≠ 0#32 then shifted .shr wide v r.toNat else v
    let v := alu .and wide v mask
    let v := if position ≠ 0#32 then shifted .shl wide v position.toNat else v
    saved g (rdOf w) false
      (alu .or wide (alu .and wide (operandOf g (rdOf w) wide) (~~~(mask <<< position.toNat))) v)

lemma computes_bitfieldMove (w : U32) : Computes (bitfieldMove w) (bitfieldMoveResult w) := by
  unfold bitfieldMove bitfieldMoveResult
  cases bitfield w with
  | none => trivial
  | some fields =>
    obtain ⟨r, s⟩ := fields
    intro host rax r9 r10 r11 f g ram rest
    simp only [List.append_assoc, run_load (rnOf_lt w), show (0xe8#8 : Byte) = extensionOf .shr from rfl,
      show (0xe0#8 : Byte) = extensionOf .shl from rfl, show (0x21#8 : Byte) = opcodeOf .and from rfl, run_shiftIf,
      run_constR9, @run_aluR9 _ _ _ _ _ _ _ _ _ _ _ _ .and rfl, run_moveR10, run_load (rdOf_lt w), run_orR10,
      run_save (rdOf_lt w)]
    exact ⟨_, _, _, _, _, rfl⟩

def unsignedBitfieldMoveResult (w : U32) : Option (VfCpu → VfCpu) :=
  (bitfield w).map fun (rotate, last) g =>
    let wide := wideOf w
    let v := operandOf g (rnOf w) wide
    let v := if rotate ≤ last ∧ rotate ≠ 0#32 then shifted .shr wide v rotate.toNat else v
    let v := alu .and wide v (lowMask (if rotate ≤ last then last - rotate + 1#32 else last + 1#32))
    saved g (rdOf w) false
      (if last < rotate then shifted .shl wide v ((if wide then 64#32 else 32#32) - rotate).toNat else v)

lemma computes_unsignedBitfieldMove (w : U32) :
    Computes (unsignedBitfieldMove w) (unsignedBitfieldMoveResult w) := by
  unfold unsignedBitfieldMove unsignedBitfieldMoveResult
  cases bitfield w with
  | none => trivial
  | some fields =>
    obtain ⟨rotate, last⟩ := fields
    intro host rax r9 r10 r11 f g ram rest
    simp only [List.append_assoc, run_load (rnOf_lt w), show (0xe8#8 : Byte) = extensionOf .shr from rfl,
      show (0xe0#8 : Byte) = extensionOf .shl from rfl, show (0x21#8 : Byte) = opcodeOf .and from rfl, run_shiftIf,
      run_constR9, @run_aluR9 _ _ _ _ _ _ _ _ _ _ _ _ .and rfl, run_save (rdOf_lt w)]
    exact ⟨_, _, _, _, _, rfl⟩

def logicalImmediateResult (w : U32) : Option (VfCpu → VfCpu) :=
  (logicalMask w).map fun mask g =>
    let wide := wideOf w
    let op := (w >>> 29) &&& 3#32
    let v := operandOf g (rnOf w) wide
    let g := saved g (rdOf w) (op ≠ 3#32) (alu (logicalOp op) wide v mask)
    if op = 3#32 then setNzcv g (guestFlags false (logicalOp op) wide v mask) else g

lemma computes_logicalImmediate (w : U32) : Computes (logicalImmediate w) (logicalImmediateResult w) := by
  unfold logicalImmediate logicalImmediateResult
  cases logicalMask w with
  | none => trivial
  | some mask =>
    intro host rax r9 r10 r11 f g ram rest
    simp only [List.append_assoc, run_load (rnOf_lt w), run_constR9, logicalOpcode_eq,
      run_aluR9 (logicalOp_writes _), run_save (rdOf_lt w)]
    exact run_flagsIf _ _ _ _ _ _

def shiftedOperand (g : VfCpu) (w : U32) : U64 :=
  let amount := (w >>> 10) &&& 63#32
  let v := operandOf g (rmOf w) (wideOf w)
  if amount ≠ 0#32 then shifted (shiftOf ((w >>> 22) &&& 3#32)) (wideOf w) v amount.toNat else v

def threadValue (g : VfCpu) (key : U32) : U64 :=
  if key = Key.tpidrEl0 then g.tpidrEl0 else if key = Key.tpidrroEl0 then g.tpidrroEl0 else g.tpidrEl1

def setThread (g : VfCpu) (key : U32) (v : U64) : VfCpu :=
  if key = Key.tpidrEl0 then { g with tpidrEl0 := v }
  else if key = Key.tpidrroEl0 then { g with tpidrroEl0 := v } else { g with tpidrEl1 := v }

def threadRegisterResult (t : Target) (w : U32) : Option (VfCpu → VfCpu) :=
  let key := sysregKey w
  let read := bitOf w 21
  if t.currentEl = 0#32 ∧ (key = Key.tpidrEl1 ∨ (read = false ∧ key = Key.tpidrroEl0)) then none
  else if read then some fun g => saved g (rdOf w) false (threadValue g key)
  else some fun g => setThread g key (operandOf g (rdOf w) true)

lemma threadOffset_cases {key : U32} (h : threadOffset key ≠ 0#32) :
    key = Key.tpidrEl0 ∨ key = Key.tpidrroEl0 ∨ key = Key.tpidrEl1 := by
  unfold threadOffset at h
  split at h
  · exact .inl ‹_›
  split at h
  · exact .inr (.inl ‹_›)
  split at h
  · exact .inr (.inr ‹_›)
  · exact absurd rfl h

lemma run_readThread {key : U32} (h : threadOffset key ≠ 0#32) :
    run (layout host) ([0x48#8, 0x8b#8, 0x81#8] ++ (le32 (threadOffset key) ++ rest))
        ⟨rax, .guest, rdx, r8, r9, r10, r11, f, g, ram⟩ =
      run (layout host) rest ⟨.word (threadValue g key), .guest, rdx, r8, r9, r10, r11, f, g, ram⟩ := by
  refine run_execute (decode_loadField true (threadOffset key)) ?_
  rcases threadOffset_cases h with rfl | rfl | rfl <;> rfl

lemma run_writeThread {key : U32} (h : threadOffset key ≠ 0#32) :
    run (layout host) ([0x48#8, 0x89#8, 0x81#8] ++ (le32 (threadOffset key) ++ rest))
        ⟨.word a, .guest, rdx, r8, r9, r10, r11, f, g, ram⟩ =
      run (layout host) rest ⟨.word a, .guest, rdx, r8, r9, r10, r11, f, setThread g key a, ram⟩ := by
  refine run_execute (decode_saveField (threadOffset key)) ?_
  rcases threadOffset_cases h with rfl | rfl | rfl <;> rfl

lemma computes_threadRegister (t : Target) {w : U32} (h : threadOffset (sysregKey w) ≠ 0#32) :
    Computes (threadRegister t w) (threadRegisterResult t w) := by
  unfold threadRegister threadRegisterResult
  dsimp only
  split
  · trivial
  split
  · intro host rax r9 r10 r11 f g ram rest
    simp only [List.append_assoc, run_readThread h, run_save (rdOf_lt w)]
    exact ⟨_, _, _, _, _, rfl⟩
  · intro host rax r9 r10 r11 f g ram rest
    simp only [List.append_assoc, run_load (rdOf_lt w), run_writeThread h]
    exact ⟨_, _, _, _, _, rfl⟩

def moveWideResult (w : U32) : Option (VfCpu → VfCpu) :=
  let wide := wideOf w
  let shift := ((w >>> 21) &&& 3#32).toNat * 16
  let v : U64 := ((w >>> 5) &&& 0xffff#32).zeroExtend 64 <<< shift
  if wide = false ∧ 32 ≤ shift then none
  else if w &&& 0x7f800000#32 = 0x72800000#32 then
    some fun g => saved g (rdOf w) false
      (alu .or true (alu .and true (operandOf g (rdOf w) wide) (~~~(0xffff#64 <<< shift))) v)
  else if w &&& 0x7f800000#32 = 0x12800000#32 then some fun g => saved g (rdOf w) false (low wide (~~~v))
  else some fun g => saved g (rdOf w) false v

lemma computes_moveWide (w : U32) : Computes (moveWide w) (moveWideResult w) := by
  unfold moveWide moveWideResult
  dsimp only
  split
  · trivial
  split
  · intro host rax r9 r10 r11 f g ram rest
    simp only [List.append_assoc, run_load (rdOf_lt w), show (0x21#8 : Byte) = opcodeOf .and from rfl,
      show (0x09#8 : Byte) = opcodeOf .or from rfl, run_constR9, @run_aluR9 _ _ _ _ _ _ _ _ _ _ _ _ .and rfl,
      @run_aluR9 _ _ _ _ _ _ _ _ _ _ _ _ .or rfl, run_save (rdOf_lt w)]
    exact ⟨_, _, _, _, _, rfl⟩
  split
  · intro host rax r9 r10 r11 f g ram rest
    have hlow : (if wideOf w = true then ~~~(((w >>> 5) &&& 0xffff#32).zeroExtend 64 <<<
          (((w >>> 21) &&& 3#32).toNat * 16))
        else ((~~~((((w >>> 5) &&& 0xffff#32).zeroExtend 64 : U64) <<< (((w >>> 21) &&& 3#32).toNat * 16))).truncate
          32 : U32).zeroExtend 64) =
        low (wideOf w) (~~~(((w >>> 5) &&& 0xffff#32).zeroExtend 64 <<< (((w >>> 21) &&& 3#32).toNat * 16))) := by
      cases wideOf w <;> rfl
    simp only [List.append_assoc, hlow, run_imm, run_save (rdOf_lt w)]
    exact ⟨_, _, _, _, _, rfl⟩
  · intro host rax r9 r10 r11 f g ram rest
    simp only [List.append_assoc, run_imm, run_save (rdOf_lt w)]
    exact ⟨_, _, _, _, _, rfl⟩

def pcRelativeResult (w : U32) (pc : U64) (g : VfCpu) : VfCpu :=
  let displacement := sext ((((w >>> 5) &&& 0x7ffff#32) <<< 2) ||| ((w >>> 29) &&& 3#32)) 21
  saved g (rdOf w) false
    (if w >>> 31 ≠ 0#32 then (pc &&& ~~~0xfff#64) + displacement * 4096#64 else pc + displacement)

lemma computes_pcRelative (w : U32) (pc : U64) : Computes (pcRelative w pc) (pcRelativeResult w pc) := by
  intro host rax r9 r10 r11 f g ram rest
  simp only [pcRelative, List.append_assoc, run_imm, run_save (rdOf_lt w)]
  exact ⟨_, _, _, _, _, rfl⟩

def logicalShiftedResult (w : U32) : Option (VfCpu → VfCpu) :=
  let wide := wideOf w
  let op := (w >>> 29) &&& 3#32
  let amount := (w >>> 10) &&& 63#32
  if wide = false ∧ 32#32 ≤ amount then none
  else some fun g =>
    let v := shiftedOperand g w
    let v := if bitOf w 21 then low wide (~~~(low wide v)) else v
    if op = 1#32 ∧ rnOf w = 31#32 ∧ (w >>> 22) &&& 3#32 = 0#32 ∧ amount = 0#32 then saved g (rdOf w) false v
    else
      let n := operandOf g (rnOf w) wide
      let g := saved g (rdOf w) false (alu (logicalOp op) wide n v)
      if op = 3#32 then setNzcv g (guestFlags false (logicalOp op) wide n v) else g

lemma computes_logicalShifted (w : U32) : Computes (logicalShifted w) (logicalShiftedResult w) := by
  unfold logicalShifted logicalShiftedResult
  dsimp only
  split
  · trivial
  intro host rax r9 r10 r11 f g ram rest
  simp only [List.append_assoc, run_load (rmOf_lt w), shiftExtension_eq, run_shiftIf, run_notIf]
  split
  next halias =>
    have hflags : ¬(w >>> 29) &&& 3#32 = 3#32 := by
      rw [halias.1]
      decide
    simp only [if_neg hflags, List.nil_append, run_save (rdOf_lt w)]
    exact ⟨_, _, _, _, _, rfl⟩
  next =>
    simp only [List.append_assoc, run_moveR9, run_load (rnOf_lt w), logicalOpcode_eq, run_aluR9 (logicalOp_writes _),
      run_save (rdOf_lt w)]
    exact run_flagsIf _ _ _ _ _ _

lemma run_addSubImmediate (subtract wide : Bool) (v : U32) :
    run (layout host) (rex wide ++ ([if subtract then 0x2d#8 else 0x05#8] ++ (le32 v ++ rest)))
        ⟨.word a, rcx, rdx, r8, r9, r10, r11, f, g, ram⟩ =
      run (layout host) rest ⟨.word (alu (addSubOp subtract) wide a (v.signExtend 64)), rcx, rdx, r8, r9, r10, r11,
        aluFlags (addSubOp subtract) wide a (v.signExtend 64), g, ram⟩ := by
  have hd : decode (rex wide ++ ([if subtract then 0x2d#8 else 0x05#8] ++ (le32 v ++ rest))) =
      some (.aluImm (addSubOp subtract) (sizeOf wide) (.reg .rax) ((join32 v).signExtend 64), rest) := by
    cases subtract <;> cases wide <;> rfl
  rw [join32_eq] at hd
  refine run_execute hd ?_
  have hread : (Machine.mk (.word a) rcx rdx r8 r9 r10 r11 f g ram).read (layout host) (sizeOf wide) (.reg .rax) =
      some (low wide a) := rfl
  simp only [Machine.execute, hread, Option.bind_eq_bind, Option.bind_some, aluAt_low_left, Machine.assign,
    addSubOp_writes, if_true]
  exact write_rax wide (low_alu _ _ _ _)

def addSubImmediateResult (w : U32) (g : VfCpu) : VfCpu :=
  let wide := wideOf w
  let op := addSubOp (bitOf w 30)
  let v := (((w >>> 10) &&& 4095#32) <<< (if bitOf w 22 then 12 else 0)).signExtend 64
  let n := low wide (memoryRegister g (rnOf w) true)
  let g := saved g (rdOf w) (!bitOf w 29) (alu op wide n v)
  if bitOf w 29 then setNzcv g (guestFlags (bitOf w 30) op wide n v) else g

lemma computes_addSubImmediate (w : U32) : Computes (addSubImmediate w) (addSubImmediateResult w) := by
  intro host rax r9 r10 r11 f g ram rest
  simp only [addSubImmediate, List.append_assoc, run_load (rnOf_lt w), run_addSubImmediate, run_save (rdOf_lt w)]
  exact run_flagsIf _ _ _ _ _ _

def extendedOperand (g : VfCpu) (w : U32) : U64 :=
  let wide := wideOf w
  let option := (w >>> 13) &&& 7#32
  let amount := (w >>> 10) &&& 7#32
  let width := if wide then 64#32 else 32#32
  let bits := 8#32 <<< (option &&& 3#32).toNat
  let bits := if width < bits then width else bits
  let v := operandOf g (rmOf w) wide
  let v := if bits < width then
      shifted (if option &&& 4#32 ≠ 0#32 then .sar else .shr) wide (shifted .shl wide v (width - bits).toNat)
        (width - bits).toNat
    else v
  if amount ≠ 0#32 then shifted .shl wide v amount.toNat else v

def addSubExtendedResult (w : U32) : Option (VfCpu → VfCpu) :=
  if 4#32 < (w >>> 10) &&& 7#32 then none
  else some fun g =>
    let wide := wideOf w
    let op := addSubOp (bitOf w 30)
    let v := extendedOperand g w
    let n := low wide (memoryRegister g (rnOf w) true)
    let g := saved g (rdOf w) (!bitOf w 29) (alu op wide n v)
    if bitOf w 29 then setNzcv g (guestFlags (bitOf w 30) op wide n v) else g

lemma run_extendIf (p : Prop) [Decidable p] (signed : Prop) [Decidable signed] (wide : Bool) (amount : U32) :
    ∃ f' : Flags, run (layout host) ((if p then shiftRax wide 0xe0#8 amount ++
          shiftRax wide (if signed then 0xf8#8 else 0xe8#8) amount else []) ++ rest)
        ⟨.word a, rcx, rdx, r8, r9, r10, r11, f, g, ram⟩ =
      run (layout host) rest ⟨.word (if p then shifted (if signed then .sar else .shr) wide
        (shifted .shl wide a amount.toNat) amount.toNat else a), rcx, rdx, r8, r9, r10, r11, f', g, ram⟩ := by
  have hextension : (if signed then 0xf8#8 else 0xe8#8 : Byte) = extensionOf (if signed then .sar else .shr) := by
    split <;> rfl
  split
  · rw [hextension, List.append_assoc, show (0xe0#8 : Byte) = extensionOf .shl from rfl, run_shiftRax, run_shiftRax]
    exact ⟨_, rfl⟩
  · exact ⟨_, rfl⟩

lemma computes_addSubExtended (w : U32) : Computes (addSubExtended w) (addSubExtendedResult w) := by
  unfold addSubExtended addSubExtendedResult
  dsimp only
  split
  · trivial
  intro host rax r9 r10 r11 f g ram rest
  simp only [List.append_assoc, run_load (rmOf_lt w)]
  obtain ⟨f', hrun⟩ := @run_extendIf host .guest .ram (.word (BitVec.ofNat 64 ram.length)) r9 r10 r11
      (loadFlags (rmOf w) false f) g ram _ (low (wideOf w) (memoryRegister g (rmOf w) false)) ((if (if wideOf w =
      true then 64#32 else 32#32) < 8#32 <<< (((w >>> 13) &&& 7#32) &&& 3#32).toNat then (if wideOf w = true then
      64#32 else 32#32) else 8#32 <<< (((w >>> 13) &&& 7#32) &&& 3#32).toNat) < (if wideOf w = true then 64#32
      else 32#32)) _ (((w >>> 13) &&& 7#32) &&& 4#32 ≠ 0#32) _ (wideOf w) _
  rw [hrun]
  simp only [show (0xe0#8 : Byte) = extensionOf .shl from rfl, run_shiftIf, run_moveR9, run_load (rnOf_lt w),
    addSub_opcode, run_aluR9 (addSubOp_writes _), run_save (rdOf_lt w)]
  exact run_flagsIf _ _ _ _ _ _

def addSubShiftedResult (w : U32) : Option (VfCpu → VfCpu) :=
  let wide := wideOf w
  if (w >>> 22) &&& 3#32 = 3#32 ∨ (wide = false ∧ 32#32 ≤ (w >>> 10) &&& 63#32) then none
  else some fun g =>
    let op := addSubOp (bitOf w 30)
    let v := shiftedOperand g w
    let n := operandOf g (rnOf w) wide
    let g := saved g (rdOf w) false (alu op wide n v)
    if bitOf w 29 then setNzcv g (guestFlags (bitOf w 30) op wide n v) else g

lemma computes_addSubShifted (w : U32) : Computes (addSubShifted w) (addSubShiftedResult w) := by
  unfold addSubShifted addSubShiftedResult
  dsimp only
  split
  · trivial
  intro host rax r9 r10 r11 f g ram rest
  simp only [List.append_assoc, run_load (rmOf_lt w), shiftExtension_eq, run_shiftIf, run_moveR9,
    run_load (rnOf_lt w), addSub_opcode, run_aluR9 (addSubOp_writes _), run_save (rdOf_lt w)]
  exact run_flagsIf _ _ _ _ _ _

end Straight

end Nextcore.Jit
