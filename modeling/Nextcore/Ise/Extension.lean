import Nextcore.Ise.Decoder

/-! What the decoder reads of a slice: an instruction is decided by its own bytes, unless the immediate byte of a shift
or of a carry-less product is cut off by the end of the slice. -/

namespace Nextcore.Ise

open Parse

variable {s : Input Byte} {k : ℕ}

/-! The ModRM operand. -/

def displacementBytes (mode : Byte) (rm : U32) : ℕ :=
  if mode = 1#8 then 1 else if mode = 2#8 then 4 else if mode = 0#8 ∧ rm = 5#32 then 4 else 0

def operandTail (modrm : Byte) : ℕ :=
  if modeOf modrm = 3#8 then 0
  else (if rmOf modrm = 4#32 then 1 else 0) + displacementBytes (modeOf modrm) (rmOf modrm)

lemma looks_byte : Looks 0 byte := looks_item

lemma looks_readSib (mode : Byte) (rm : U32) : Looks 0 (readSib mode rm) :=
  (looks_byte.bind fun _ => looks_pure _).ite (looks_pure _)

lemma looks_readDisplacement (mode : Byte) (rm base : U32) (index : Option U32) :
    Looks 0 (readDisplacement mode rm base index) :=
  (looks_byte.bind fun _ => looks_pure _).ite (((looks_items (by decide)).bind fun _ => looks_pure _).ite
    (((looks_items (by decide)).bind fun _ => looks_pure _).ite (looks_pure _)))

lemma looks_readOperand (modrm : Byte) : Looks 0 (readOperand modrm) :=
  (looks_pure _).ite ((looks_readSib _ _).bind fun _ => (looks_readDisplacement _ _ _ _).bind fun _ => looks_pure _)

lemma looks_readModrm : Looks 0 readModrm := looks_byte.bind looks_readOperand

lemma takes_readDisplacement {mode : Byte} {rm : U32} (base : U32) {index : Option U32} (h : rm = 5#32 → index = none) :
    Takes (displacementBytes mode rm) (readDisplacement mode rm base index) := by
  rw [displacementBytes, readDisplacement]
  by_cases hone : mode = 1#8
  · rw [if_pos hone, if_pos hone]
    exact takes_item.bind fun _ => takes_pure _
  rw [if_neg hone, if_neg hone]
  by_cases htwo : mode = 2#8
  · rw [if_pos htwo, if_pos htwo]
    exact (takes_items (by decide)).bind fun _ => takes_pure _
  rw [if_neg htwo, if_neg htwo]
  by_cases hzero : mode = 0#8 ∧ rm = 5#32
  · rw [if_pos hzero, if_pos ⟨hzero.1, hzero.2, h hzero.2⟩]
    exact (takes_items (by decide)).bind fun _ => takes_pure _
  · rw [if_neg hzero, if_neg fun h => hzero ⟨h.1, h.2.1⟩]
    exact takes_pure _

lemma takes_readOperand (modrm : Byte) : Takes (operandTail modrm) (readOperand modrm) := by
  rw [operandTail, readOperand]
  by_cases hmode : modeOf modrm = 3#8
  · rw [if_pos hmode, if_pos hmode]
    exact takes_pure _
  rw [if_neg hmode, if_neg hmode]
  by_cases hrm : rmOf modrm = 4#32
  · have hfive : rmOf modrm ≠ 5#32 := by
      rw [hrm]
      decide
    rw [if_pos hrm, readSib, if_pos hrm]
    exact (takes_item.bind fun _ => takes_pure _).bind fun _ =>
      (takes_readDisplacement _ fun h => absurd h hfive).bind fun _ => takes_pure _
  · rw [if_neg hrm, readSib, if_neg hrm, Nat.zero_add]
    exact (takes_readDisplacement (rmOf modrm) fun _ => rfl).bind fun _ => takes_pure _

lemma readModrm_ok {r : U32 × U32 × Option MemoryOperand} {m : ℕ} (h : readModrm s k = .ok (r, m)) :
    ∃ modrm, s.get k = some modrm ∧ m = k + 1 + operandTail modrm := by
  obtain ⟨modrm, _, hbyte, htail⟩ := bind_ok.mp h
  obtain ⟨hget, rfl⟩ := item_ok.mp hbyte
  exact ⟨modrm, hget, (takes_readOperand modrm).exactly htail⟩

lemma readModrm_succeeds {modrm : Byte} (hget : s.get k = some modrm) (h : k + 1 + operandTail modrm ≤ s.remaining) :
    ∃ r, readModrm s k = .ok (r, k + 1 + operandTail modrm) := by
  obtain ⟨r, htail⟩ := (takes_readOperand modrm).succeeds h
  exact ⟨r, bind_ok.mpr ⟨modrm, k + 1, item_ok.mpr ⟨hget, rfl⟩, htail⟩⟩

/-! The prefixes. -/

def isPrefixByte (b : Byte) : Bool := isRex b || isMandatory b

lemma prefixLoop_turn {b : Byte} (hget : s.get k = some b) (fuel : ℕ) (rex mandatory : Byte) :
    prefixLoop (fuel + 1) rex mandatory s k =
      if isPrefixByte b then
        prefixLoop fuel (if isRex b then b else rex) (if isRex b then mandatory else b) s (k + 1)
      else .ok ((rex, mandatory), k) := by
  have hlook : look DecodeError.insufficientData s k = .ok (b, k) := look_ok.mpr ⟨hget, rfl⟩
  have hbyte : byte s k = .ok (b, k + 1) := item_ok.mpr ⟨hget, rfl⟩
  rw [prefixLoop, bind_run hlook]
  unfold isPrefixByte
  cases hrex : isRex b with
  | true => exact bind_run hbyte
  | false =>
    cases hmandatory : isMandatory b with
    | true => exact bind_run hbyte
    | false => rfl

lemma prefixLoop_end (hget : s.get k = none) {fuel : ℕ} {rex mandatory : Byte} {r : (Byte × Byte) × ℕ} :
    prefixLoop fuel rex mandatory s k ≠ .ok r := by
  intro h
  cases fuel with
  | zero => cases h
  | succ fuel =>
    obtain ⟨b, _, hlook, -⟩ := bind_ok.mp h
    rw [(look_ok.mp hlook).1] at hget
    cases hget

lemma prefixLoop_ok {fuel : ℕ} {rex mandatory : Byte} {r : Byte × Byte} {m : ℕ}
    (h : prefixLoop fuel rex mandatory s k = .ok (r, m)) :
    k ≤ m ∧ (∀ i, k ≤ i → i < m → ∃ b, s.get i = some b ∧ isPrefixByte b = true) ∧
      (∃ b, s.get m = some b ∧ isPrefixByte b = false) ∧
      ∀ {s' : Input Byte} {fuel' : ℕ}, Agree s s' (m + 1) → m - k < fuel' →
        prefixLoop fuel' rex mandatory s' k = .ok (r, m) := by
  induction fuel generalizing k rex mandatory with
  | zero => cases h
  | succ fuel ih =>
    cases hget : s.get k with
    | none => exact absurd h (prefixLoop_end hget)
    | some b =>
      rw [prefixLoop_turn hget] at h
      cases hbyte : isPrefixByte b with
      | false =>
        rw [hbyte] at h
        obtain ⟨hr, hm⟩ := Prod.mk.inj (Except.ok.inj h)
        subst hr hm
        refine ⟨le_refl k, fun i hlow hhigh => by omega, ⟨b, hget, hbyte⟩, fun {s'} {fuel'} hagree hfuel => ?_⟩
        obtain ⟨fuel', rfl⟩ := Nat.exists_eq_add_of_lt hfuel
        have hget' : s'.get k = some b := (hagree k (by omega)).symm.trans hget
        rw [prefixLoop_turn hget', hbyte]
        rfl
      | true =>
        rw [hbyte, if_pos rfl] at h
        obtain ⟨hle, hbefore, hend, hsame⟩ := ih h
        refine ⟨by omega, fun i hlow hhigh => ?_, hend, fun {s'} {fuel'} hagree hfuel => ?_⟩
        · by_cases hi : i = k
          · exact ⟨b, hi ▸ hget, hbyte⟩
          · exact hbefore i (by omega) hhigh
        · obtain ⟨fuel', rfl⟩ : ∃ n, fuel' = n + 1 := ⟨fuel' - 1, by omega⟩
          have hget' : s'.get k = some b := (hagree k (by omega)).symm.trans hget
          rw [prefixLoop_turn hget', hbyte, if_pos rfl]
          exact hsame hagree (by omega)

lemma prefixLoop_succeeds {fuel m : ℕ} (hle : k ≤ m)
    (hbefore : ∀ i, k ≤ i → i < m → ∃ b, s.get i = some b ∧ isPrefixByte b = true) {b : Byte}
    (hget : s.get m = some b) (hbyte : isPrefixByte b = false) (hfuel : m - k < fuel) (rex mandatory : Byte) :
    ∃ r, prefixLoop fuel rex mandatory s k = .ok (r, m) := by
  induction fuel generalizing k rex mandatory with
  | zero => omega
  | succ fuel ih =>
    by_cases hk : k = m
    · subst hk
      rw [prefixLoop_turn hget, hbyte]
      exact ⟨_, rfl⟩
    · obtain ⟨b', hget', hlegacy'⟩ := hbefore k (le_refl k) (by omega)
      rw [prefixLoop_turn hget', hlegacy', if_pos rfl]
      exact ih (by omega) (fun i hlow hhigh => hbefore i (by omega) hhigh) (by omega) _ _

lemma looks_prefixes : Looks 1 prefixes := by
  refine ⟨⟨fun h => (prefixLoop_ok h).1, fun h _ => ?_⟩, fun {s} {s'} {k} _ m h hagree => ?_⟩
  · obtain ⟨-, -, ⟨b, hget, -⟩, -⟩ := prefixLoop_ok h
    exact (Input.lt_of_get hget).le
  · obtain ⟨hle, -, ⟨b, hget, -⟩, hsame⟩ := prefixLoop_ok h
    have hlt : m < s'.remaining := Input.lt_of_get ((hagree m (Nat.lt_succ_self m)).symm.trans hget)
    exact hsame hagree (by omega)

/-! The instructions. -/

lemma looks_decodeTable (opcode : U32) (name : OpcodeName) (rexW : Bool) : Looks 0 (decodeTable opcode name rexW) :=
  looks_readModrm.bind fun _ => looks_consumed.bind fun _ => looks_pure _

lemma looks_readImmediate (opcode : U32) (rexW : Bool) : Looks 0 (readImmediate opcode rexW) :=
  (looks_byte.bind fun _ => looks_pure _).ite (((looks_items (by decide)).bind fun _ => looks_pure _).ite
    ((looks_items (by decide)).bind fun _ => looks_pure _))

lemma looks_decodeImmediate (opcode : U32) (rexW : Bool) : Looks 0 (decodeImmediate opcode rexW) :=
  looks_readModrm.bind fun _ => (looks_readImmediate _ _).bind fun _ => looks_consumed.bind fun _ => looks_pure _

lemma looks_decodeRegRm (opcode : U32) (name : OpcodeName) (size : OperandSize) (isSse4 : Bool) :
    Looks 0 (decodeRegRm opcode name size isSse4) :=
  looks_readModrm.bind fun _ => looks_consumed.bind fun _ => looks_pure _

lemma looks_decodeVex2 : Looks 0 decodeVex2 := (looks_items (by decide)).bind fun _ => looks_pure _

lemma looks_decodeVex3 : Looks 0 decodeVex3 := (looks_items (by decide)).bind fun _ => looks_pure _

lemma advances_readCount (opcode : U32) : Advances (readCount opcode) :=
  (advances_itemIfAny.bind fun _ => (looks_pure _).toAdvances).ite ((looks_pure _).ite (looks_pure _)).toAdvances

lemma advances_decodeShift (opcode : U32) : Advances (decodeShift opcode) :=
  looks_readModrm.toAdvances.bind fun _ => (advances_readCount opcode).bind fun _ =>
    (looks_consumed.bind fun _ => looks_pure _).toAdvances

lemma advances_decodePclmulqdq : Advances decodePclmulqdq :=
  looks_readModrm.toAdvances.bind fun _ => advances_itemIfAny.bind fun _ =>
    (looks_consumed.bind fun _ => looks_pure _).toAdvances

lemma advances_afterEscape (rexW : Bool) (mandatory second : Byte) : Advances (afterEscape rexW mandatory second) :=
  (looks_decodeRegRm _ _ _ _).toAdvances.ite ((looks_decodeRegRm _ _ _ _).toAdvances.ite
    ((looks_byte.toAdvances.bind fun _ => ((looks_decodeRegRm _ _ _ _).ite (looks_fail _)).toAdvances).ite
      ((looks_byte.toAdvances.bind fun _ => advances_decodePclmulqdq.ite (looks_fail _).toAdvances).ite
        (looks_fail _).toAdvances)))

lemma advances_decodeTwoByte (rexW : Bool) (mandatory : Byte) : Advances (decodeTwoByte rexW mandatory) :=
  looks_byte.toAdvances.bind fun _ => advances_afterEscape _ _ _

lemma advances_afterOpcode (rex mandatory : Byte) (opcode : U32) : Advances (afterOpcode rex mandatory opcode) := by
  unfold afterOpcode
  cases tableName opcode with
  | some name => exact (looks_decodeTable _ _ _).toAdvances
  | none =>
    exact (looks_decodeImmediate _ _).toAdvances.ite ((advances_decodeShift _).ite ((advances_decodeTwoByte _ _).ite
      ((looks_consumed.bind fun _ => looks_pure _).ite (looks_fail _)).toAdvances))

lemma advances_decodeOpcode (rex mandatory : Byte) : Advances (decodeOpcode rex mandatory) :=
  looks_byte.toAdvances.bind fun _ => advances_afterOpcode _ _ _

lemma advances_decodeAt : Advances decodeAt :=
  looks_look.toAdvances.bind fun _ => looks_decodeVex2.toAdvances.ite (looks_decodeVex3.toAdvances.ite
    (looks_prefixes.toAdvances.bind fun _ => advances_decodeOpcode _ _))

inductive Missing (s : Input Byte) (k : ℕ) : Prop
  | shift {r : U32 × U32 × Option MemoryOperand} {m : ℕ} (hopcode : s.get k = some 0xc1#8)
      (hoperand : readModrm s (k + 1) = .ok (r, m)) (hend : s.get m = none) : Missing s k
  | product {r : U32 × U32 × Option MemoryOperand} {m : ℕ} (hescape : s.get k = some 0x0f#8)
      (hmap : s.get (k + 1) = some 0x3a#8) (hopcode : s.get (k + 2) = some 0x44#8)
      (hoperand : readModrm s (k + 3) = .ok (r, m)) (hend : s.get m = none) : Missing s k

lemma determined_decodeShift {opcode : U32}
    (h : opcode = 0xc1#32 → ∀ r m, readModrm s k = .ok (r, m) → s.get m ≠ none) :
    Determined (decodeShift opcode) s k := by
  refine looks_readModrm.bind_determined (fun {r} {m} hrun => ?_) fun hrest =>
    ((advances_readCount _).bind fun _ => (looks_consumed.bind fun _ => looks_pure _).toAdvances).mono hrest
  refine Determined.bind ?_ fun _ => looks_consumed.bind fun _ => looks_pure _
  rw [readCount]
  by_cases hopcode : opcode = 0xc1#32
  · rw [if_pos hopcode]
    exact (determined_itemIfAny (h hopcode r m hrun)).bind fun _ => looks_pure _
  · rw [if_neg hopcode]
    exact ((looks_pure _).ite (looks_pure _)).determined

lemma determined_decodePclmulqdq (h : ∀ r m, readModrm s k = .ok (r, m) → s.get m ≠ none) :
    Determined decodePclmulqdq s k := by
  refine looks_readModrm.bind_determined (fun {r} {m} hrun => ?_) fun hrest =>
    (advances_itemIfAny.bind fun _ => (looks_consumed.bind fun _ => looks_pure _).toAdvances).mono hrest
  exact (determined_itemIfAny (h r m hrun)).bind fun _ => looks_consumed.bind fun _ => looks_pure _

lemma determined_decodeTwoByte (rexW : Bool) (mandatory : Byte) (hescape : s.get k = some 0x0f#8)
    (h : ¬Missing s k) : Determined (decodeTwoByte rexW mandatory) s (k + 1) := by
  refine looks_byte.bind_determined (fun {second} {m} hrun => ?_) (advances_afterEscape _ _ _).mono
  obtain ⟨hsecond, rfl⟩ := item_ok.mp hrun
  rw [afterEscape]
  refine .ite (fun _ => (looks_decodeRegRm _ _ _ _).determined) fun _ => ?_
  refine .ite (fun _ => (looks_decodeRegRm _ _ _ _).determined) fun _ => ?_
  refine .ite (fun _ => ?_) fun _ => ?_
  · exact (looks_byte.bind fun _ => (looks_decodeRegRm _ _ _ _).ite (looks_fail _)).determined
  refine .ite (fun hmap => ?_) fun _ => (looks_fail _).determined
  subst hmap
  refine looks_byte.bind_determined (fun {third} {m} hrun => ?_)
    (advances_decodePclmulqdq.ite (looks_fail _).toAdvances).mono
  obtain ⟨hthird, rfl⟩ := item_ok.mp hrun
  refine .ite (fun hopcode => ?_) fun _ => (looks_fail _).determined
  subst hopcode
  exact determined_decodePclmulqdq fun r m hoperand hend => h (.product hescape hsecond hthird hoperand hend)

lemma zeroExtend_eq {b c : Byte} : (b.zeroExtend 32 : U32) = c.zeroExtend 32 ↔ b = c := by
  constructor
  · intro h
    have hnat := congrArg BitVec.toNat h
    simp only [BitVec.truncate_eq_setWidth, BitVec.toNat_setWidth] at hnat
    bv_omega
  · rintro rfl
    rfl

lemma determined_decodeOpcode (rex mandatory : Byte) (h : ¬Missing s k) :
    Determined (decodeOpcode rex mandatory) s k := by
  refine looks_byte.bind_determined (fun {opcode} {m} hrun => ?_) (advances_afterOpcode _ _ _).mono
  obtain ⟨hget, rfl⟩ := item_ok.mp hrun
  unfold afterOpcode
  cases tableName (opcode.zeroExtend 32) with
  | some name => exact (looks_decodeTable _ _ _).determined
  | none =>
    refine .ite (fun _ => (looks_decodeImmediate _ _).determined) fun _ => ?_
    refine .ite (fun _ => determined_decodeShift fun hshift r m hoperand hend => ?_) fun _ => ?_
    · have hopcode : opcode = 0xc1#8 := zeroExtend_eq.mp hshift
      exact h (.shift (hopcode ▸ hget) hoperand hend)
    refine .ite (fun hescape => ?_) fun _ => ((looks_consumed.bind fun _ => looks_pure _).ite (looks_fail _)).determined
    have hopcode : opcode = 0x0f#8 := zeroExtend_eq.mp hescape
    exact determined_decodeTwoByte _ _ (hopcode ▸ hget) h

def Short (s : Input Byte) : Prop :=
  ∃ m, (∀ i < m, ∃ b, s.get i = some b ∧ isPrefixByte b = true) ∧ Missing s m

lemma afterFirst_far {first : Byte} {instruction : DecodedInstruction} {k' : ℕ}
    (h : afterFirst first s k = .ok (instruction, k')) : k + 1 ≤ k' := by
  unfold afterFirst at h
  split_ifs at h
  · obtain ⟨bs, m, hbytes, hrest⟩ := bind_ok.mp h
    obtain ⟨-, -, rfl⟩ := items_ok.mp hbytes
    have := (pure_ok.mp hrest).2
    omega
  · obtain ⟨bs, m, hbytes, hrest⟩ := bind_ok.mp h
    obtain ⟨-, -, rfl⟩ := items_ok.mp hbytes
    have := (pure_ok.mp hrest).2
    omega
  · obtain ⟨r, m, hskipped, hopcode⟩ := bind_ok.mp h
    obtain ⟨b, _, hbyte, hrest⟩ := bind_ok.mp hopcode
    obtain ⟨-, rfl⟩ := item_ok.mp hbyte
    have hfirst := looks_prefixes.mono hskipped
    have hlast := (advances_afterOpcode _ _ _).mono hrest
    omega

lemma determined_decodeAt (h : ¬Short s) : Determined decodeAt s 0 := by
  refine looks_look.bind_determined (fun {first} {m} hrun => ?_) afterFirst_far
  obtain ⟨hget, rfl⟩ := look_ok.mp hrun
  refine .ite (fun _ => looks_decodeVex2.determined) fun _ => ?_
  refine .ite (fun _ => looks_decodeVex3.determined) fun _ => ?_
  refine looks_prefixes.bind_determined (fun {r} {m} hskipped => ?_) fun {r} {m} {_} {k'} hrest => ?_
  · obtain ⟨-, hbefore, -, -⟩ := prefixLoop_ok hskipped
    exact determined_decodeOpcode _ _ fun hmissing => h ⟨m, fun i hi => hbefore i (Nat.zero_le i) hi, hmissing⟩
  · obtain ⟨_, _, hbyte, htail⟩ := bind_ok.mp hrest
    obtain ⟨-, rfl⟩ := item_ok.mp hbyte
    exact (advances_afterOpcode _ _ _).mono htail

/-! The length of an instruction is where its decoder ends. -/

def Measured (p : Decoder DecodedInstruction) : Prop :=
  ∀ s k instruction k', p s k = .ok (instruction, k') → instruction.length = k'

lemma Measured.bind {α : Type} {p : Decoder α} {q : α → Decoder DecodedInstruction} (h : ∀ a, Measured (q a)) :
    Measured (p >>= q) := by
  intro s k instruction k' hrun
  obtain ⟨a, m, -, hrest⟩ := bind_ok.mp hrun
  exact h a s m instruction k' hrest

lemma Measured.ite {c : Prop} [Decidable c] {p q : Decoder DecodedInstruction} (hp : Measured p) (hq : Measured q) :
    Measured (if c then p else q) := by
  by_cases h : c
  · rwa [if_pos h]
  · rwa [if_neg h]

lemma measured_fail (e : DecodeError) : Measured (fail e) := by
  intro s k instruction k' hrun
  cases hrun

lemma measured_consumed {f : ℕ → DecodedInstruction} (hf : ∀ n, (f n).length = n) :
    Measured (consumed >>= fun n => pure (f n)) := by
  intro s k instruction k' hrun
  obtain ⟨n, m, hconsumed, hrest⟩ := bind_ok.mp hrun
  obtain ⟨rfl, rfl⟩ := consumed_ok.mp hconsumed
  obtain ⟨rfl, rfl⟩ := pure_ok.mp hrest
  exact hf k

lemma measured_decodeRegRm (opcode : U32) (name : OpcodeName) (size : OperandSize) (isSse4 : Bool) :
    Measured (decodeRegRm opcode name size isSse4) := .bind fun _ => measured_consumed fun _ => rfl

lemma measured_afterEscape (rexW : Bool) (mandatory second : Byte) : Measured (afterEscape rexW mandatory second) :=
  (measured_decodeRegRm _ _ _ _).ite ((measured_decodeRegRm _ _ _ _).ite
    ((Measured.bind fun _ => (measured_decodeRegRm _ _ _ _).ite (measured_fail _)).ite
      ((Measured.bind fun _ => (Measured.bind fun _ => .bind fun _ => measured_consumed fun _ => rfl).ite
        (measured_fail _)).ite (measured_fail _))))

lemma measured_afterOpcode (rex mandatory : Byte) (opcode : U32) : Measured (afterOpcode rex mandatory opcode) := by
  unfold afterOpcode
  cases tableName opcode with
  | some name => exact .bind fun _ => measured_consumed fun _ => rfl
  | none =>
    exact (Measured.bind fun _ => .bind fun _ => measured_consumed fun _ => rfl).ite
      ((Measured.bind fun _ => .bind fun _ => measured_consumed fun _ => rfl).ite
        ((Measured.bind fun _ => measured_afterEscape _ _ _).ite
          ((measured_consumed fun _ => rfl).ite (measured_fail _))))

lemma decodeAt_length {instruction : DecodedInstruction} {k' : ℕ} (h : decodeAt s 0 = .ok (instruction, k')) :
    instruction.length = k' := by
  obtain ⟨first, m, hlook, hrest⟩ := bind_ok.mp h
  obtain ⟨-, rfl⟩ := look_ok.mp hlook
  unfold afterFirst at hrest
  split_ifs at hrest
  · obtain ⟨bs, m, hbytes, hpure⟩ := bind_ok.mp hrest
    obtain ⟨-, -, rfl⟩ := items_ok.mp hbytes
    obtain ⟨rfl, rfl⟩ := pure_ok.mp hpure
    rfl
  · obtain ⟨bs, m, hbytes, hpure⟩ := bind_ok.mp hrest
    obtain ⟨-, -, rfl⟩ := items_ok.mp hbytes
    obtain ⟨rfl, rfl⟩ := pure_ok.mp hpure
    rfl
  · have hlegacy : Measured decodeLegacy := .bind fun _ => .bind fun _ => measured_afterOpcode _ _ _
    exact hlegacy s 0 instruction k' hrest

/-! The slice. -/

lemma decode_ok {data : List Byte} {offset : ℕ} {instruction : DecodedInstruction} :
    decode data offset = .ok instruction ↔ decodeAt ⟨data, offset⟩ 0 = .ok (instruction, instruction.length) := by
  unfold decode
  cases hrun : decodeAt ⟨data, offset⟩ 0 with
  | error e => simp
  | ok r =>
    have hlength : r.1.length = r.2 := decodeAt_length hrun
    constructor
    · intro h
      obtain rfl := Except.ok.inj h
      rw [hlength]
    · intro h
      rw [Except.ok.inj h]

structure ExtensionStable (data : List Byte) (offset : ℕ) : Prop where
  bounds : ∀ instruction, decode data offset = .ok instruction →
    1 ≤ instruction.length ∧ offset + instruction.length ≤ data.length
  stable : ∀ instruction, decode data offset = .ok instruction → ∀ data' offset',
    (data'.drop offset').take instruction.length = (data.drop offset).take instruction.length →
      decode data' offset' = .ok instruction
  cutOff : ∀ more instruction, decode (data ++ more) offset = .ok instruction →
    data.length < offset + instruction.length → ∃ e, decode data offset = .error e

def MissingImmediate (bytes : List Byte) : Prop :=
  ∃ before opcode modrm tail, bytes = before ++ opcode ++ modrm :: tail ∧ (∀ b ∈ before, isPrefixByte b = true) ∧
    (opcode = [0xc1#8] ∨ opcode = [0x0f#8, 0x3a#8, 0x44#8]) ∧ tail.length = operandTail modrm

lemma get_eq_drop (s : Input Byte) (k : ℕ) : s.get k = (s.data.drop s.origin)[k]? := by
  rw [List.getElem?_drop]
  rfl

lemma remaining_eq (s : Input Byte) : s.remaining = (s.data.drop s.origin).length := List.length_drop.symm

lemma drop_of_get {bytes : List Byte} {i : ℕ} {b : Byte} (h : bytes[i]? = some b) :
    bytes.drop i = b :: bytes.drop (i + 1) := by
  obtain ⟨hi, rfl⟩ := List.getElem?_eq_some_iff.mp h
  exact List.drop_eq_getElem_cons hi

lemma operand_at_end {r : U32 × U32 × Option MemoryOperand} {m : ℕ} (h : readModrm s k = .ok (r, m))
    (hend : s.get m = none) : ∃ modrm tail, (s.data.drop s.origin).drop k = modrm :: tail ∧
      tail.length = operandTail modrm := by
  obtain ⟨modrm, hget, rfl⟩ := readModrm_ok h
  have hinside := looks_readModrm.inside h (Input.lt_of_get hget).le
  have hlast := Input.get_eq_none.mp hend
  rw [get_eq_drop] at hget
  refine ⟨modrm, _, drop_of_get hget, ?_⟩
  rw [List.length_drop, ← remaining_eq]
  omega

lemma missing_of_short (h : Short s) : MissingImmediate (s.data.drop s.origin) := by
  obtain ⟨m, hbefore, hmissing⟩ := h
  have hskipped : ∀ b ∈ (s.data.drop s.origin).take m, isPrefixByte b = true := by
    intro b hb
    obtain ⟨i, hi, rfl⟩ := List.mem_iff_getElem.mp hb
    rw [List.length_take] at hi
    obtain ⟨b', hget, hbyte⟩ := hbefore i (by omega)
    rw [get_eq_drop, List.getElem?_eq_getElem (by omega)] at hget
    rw [List.getElem_take, Option.some.inj hget]
    exact hbyte
  cases hmissing with
  | shift hopcode hoperand hend =>
    obtain ⟨modrm, tail, hdrop, hlen⟩ := operand_at_end hoperand hend
    rw [get_eq_drop] at hopcode
    refine ⟨_, [0xc1#8], modrm, tail, ?_, hskipped, .inl rfl, hlen⟩
    rw [← hdrop, List.append_assoc, List.singleton_append, ← drop_of_get hopcode, List.take_append_drop]
  | product hescape hmap hopcode hoperand hend =>
    obtain ⟨modrm, tail, hdrop, hlen⟩ := operand_at_end hoperand hend
    rw [get_eq_drop] at hescape hmap hopcode
    refine ⟨_, [0x0f#8, 0x3a#8, 0x44#8], modrm, tail, ?_, hskipped, .inr rfl, hlen⟩
    rw [← hdrop, List.append_assoc, List.cons_append, List.cons_append, List.singleton_append, ← drop_of_get hopcode,
      ← drop_of_get hmap, ← drop_of_get hescape, List.take_append_drop]

lemma decodeAt_run {m : ℕ} {opcode : Byte} (hbefore : ∀ i < m, ∃ b, s.get i = some b ∧ isPrefixByte b = true)
    (hget : s.get m = some opcode) (hbyte : isPrefixByte opcode = false) (hvex : opcode ≠ 0xc5#8 ∧ opcode ≠ 0xc6#8) :
    ∃ rex mandatory, decodeAt s 0 = afterOpcode rex mandatory (opcode.zeroExtend 32) s (m + 1) := by
  obtain ⟨⟨rex, mandatory⟩, hloop⟩ := prefixLoop_succeeds (Nat.zero_le m) (fun i _ hi => hbefore i hi) hget hbyte
    (show m - 0 < s.remaining - 0 + 1 by have := Input.lt_of_get hget; omega) 0#8 0#8
  have hskipped : prefixes s 0 = .ok ((rex, mandatory), m) := hloop
  obtain ⟨first, hfirst, hfive, hsix⟩ : ∃ first, s.get 0 = some first ∧ first ≠ 0xc5#8 ∧ first ≠ 0xc6#8 := by
    cases m with
    | zero => exact ⟨opcode, hget, hvex⟩
    | succ m =>
      obtain ⟨b, hb, hlegacy⟩ := hbefore 0 (Nat.succ_pos m)
      refine ⟨b, hb, ?_, ?_⟩ <;> rintro rfl <;> cases hlegacy
  have hlook : look DecodeError.insufficientData s 0 = .ok (first, 0) := look_ok.mpr ⟨hfirst, rfl⟩
  have hbyte : byte s m = .ok (opcode, m + 1) := item_ok.mpr ⟨hget, rfl⟩
  refine ⟨rex, mandatory, ?_⟩
  rw [decodeAt, bind_run hlook, afterFirst, if_neg hfive, if_neg hsix, decodeLegacy, bind_run hskipped]
  exact bind_run hbyte

def afterAny (s : Input Byte) (k : ℕ) : ℕ := if s.get k = none then k else k + 1

lemma itemIfAny_run (s : Input Byte) (k : ℕ) :
    ∃ b, (itemIfAny : Decoder (Option Byte)) s k = .ok (b, afterAny s k) := by
  rw [itemIfAny, afterAny]
  cases s.get k with
  | none => exact ⟨none, rfl⟩
  | some b => exact ⟨some b, rfl⟩

lemma decodeShift_run {r : U32 × U32 × Option MemoryOperand} {m : ℕ} (h : readModrm s k = .ok (r, m)) :
    ∃ instruction, decodeShift 0xc1#32 s k = .ok (instruction, afterAny s m) := by
  obtain ⟨b, hany⟩ := itemIfAny_run s m
  have hcount : ∃ count, readCount 0xc1#32 s m = .ok (count, afterAny s m) := by
    rw [readCount, if_pos rfl, bind_run hany]
    exact ⟨_, rfl⟩
  obtain ⟨count, hcount⟩ := hcount
  obtain ⟨reg, rm, mem⟩ := r
  rw [decodeShift, bind_run h]
  dsimp only
  rw [bind_run hcount]
  exact ⟨_, rfl⟩

lemma decodePclmulqdq_run {r : U32 × U32 × Option MemoryOperand} {m : ℕ} (h : readModrm s k = .ok (r, m)) :
    ∃ instruction, decodePclmulqdq s k = .ok (instruction, afterAny s m) := by
  obtain ⟨b, hany⟩ := itemIfAny_run s m
  obtain ⟨reg, rm, mem⟩ := r
  rw [decodePclmulqdq, bind_run h]
  dsimp only
  rw [bind_run hany]
  exact ⟨_, rfl⟩

lemma immediate_run {before opcode tail : List Byte} {modrm : Byte} (rest : List Byte)
    (hbytes : s.data.drop s.origin = before ++ opcode ++ modrm :: (tail ++ rest))
    (hbefore : ∀ b ∈ before, isPrefixByte b = true) (hopcode : opcode = [0xc1#8] ∨ opcode = [0x0f#8, 0x3a#8, 0x44#8])
    (htail : tail.length = operandTail modrm) :
    ∃ instruction, decodeAt s 0 = .ok (instruction, afterAny s (before ++ opcode ++ modrm :: tail).length) := by
  have hget (i : ℕ) : s.get i = (before ++ opcode ++ modrm :: (tail ++ rest))[i]? := by rw [get_eq_drop, hbytes]
  have hremaining : s.remaining = before.length + opcode.length + 1 + tail.length + rest.length := by
    rw [remaining_eq, hbytes]
    simp only [List.length_append, List.length_cons]
    omega
  have hskipped : ∀ i < before.length, ∃ b, s.get i = some b ∧ isPrefixByte b = true := by
    intro i hi
    refine ⟨before[i], ?_, hbefore _ (List.getElem_mem hi)⟩
    rw [hget, List.append_assoc, List.getElem?_append_left hi, List.getElem?_eq_getElem hi]
  have hopcodes (i : ℕ) (hi : i < opcode.length) : s.get (before.length + i) = opcode[i]? := by
    rw [hget, List.append_assoc, List.getElem?_append_right (by omega), Nat.add_sub_cancel_left,
      List.getElem?_append_left hi]
  have hmodrm : s.get (before.length + opcode.length) = some modrm := by
    rw [hget, ← List.length_append, List.getElem?_append_right (le_refl _), Nat.sub_self]
    rfl
  obtain ⟨r, hoperand⟩ := readModrm_succeeds hmodrm (by omega)
  have hlength : (before ++ opcode ++ modrm :: tail).length = before.length + opcode.length + 1 + operandTail modrm := by
    rw [List.length_append, List.length_append, List.length_cons, htail]
    omega
  rw [hlength]
  rcases hopcode with rfl | rfl
  · obtain ⟨rex, mandatory, hrun⟩ := decodeAt_run hskipped (hopcodes 0 (by decide)) rfl ⟨by decide, by decide⟩
    rw [hrun]
    exact decodeShift_run hoperand
  · obtain ⟨rex, mandatory, hrun⟩ := decodeAt_run hskipped (hopcodes 0 (by decide)) rfl ⟨by decide, by decide⟩
    have hmap : byte s (before.length + 1) = .ok (0x3a#8, before.length + 2) :=
      item_ok.mpr ⟨hopcodes 1 (by decide), rfl⟩
    have hthird : byte s (before.length + 2) = .ok (0x44#8, before.length + 3) :=
      item_ok.mpr ⟨hopcodes 2 (by decide), rfl⟩
    have hescape : afterOpcode rex mandatory (BitVec.zeroExtend 32 0x0f#8) s (before.length + 1) =
        decodePclmulqdq s (before.length + 3) := (bind_run hmap).trans (bind_run hthird)
    rw [hrun, hescape]
    exact decodePclmulqdq_run hoperand

lemma not_stable_of_missing {data : List Byte} {offset : ℕ} (h : MissingImmediate (data.drop offset)) :
    ¬ExtensionStable data offset := by
  intro hstable
  obtain ⟨before, opcode, modrm, tail, hbytes, hbefore, hopcode, htail⟩ := h
  have hoffset : offset ≤ data.length := by
    by_contra hlt
    rw [List.drop_eq_nil_of_le (by omega)] at hbytes
    exact List.append_ne_nil_of_right_ne_nil _ (List.cons_ne_nil _ _) hbytes.symm
  have hlonger : (data ++ [0#8]).drop offset = data.drop offset ++ [0#8] := List.drop_append_of_le_length hoffset
  obtain ⟨i, hrun⟩ := immediate_run (s := ⟨data, offset⟩) [] (by rw [List.append_nil]; exact hbytes) hbefore hopcode
    htail
  obtain ⟨i', hrun'⟩ := immediate_run (s := ⟨data ++ [0#8], offset⟩) [0#8]
    (by rw [hlonger, hbytes, List.append_assoc, List.append_assoc, List.append_assoc, List.cons_append]) hbefore hopcode
    htail
  rw [← hbytes] at hrun hrun'
  have hend : afterAny ⟨data, offset⟩ (data.drop offset).length = (data.drop offset).length :=
    if_pos (by rw [get_eq_drop]; exact List.getElem?_eq_none (le_refl _))
  have hend' : afterAny ⟨data ++ [0#8], offset⟩ (data.drop offset).length = (data.drop offset).length + 1 := by
    refine if_neg ?_
    rw [get_eq_drop, hlonger, List.getElem?_append_right (le_refl _), Nat.sub_self]
    exact Option.some_ne_none _
  rw [hend] at hrun
  rw [hend'] at hrun'
  have hlength := decodeAt_length hrun
  have hsame := hstable.stable i (decode_ok.mpr (by rw [hlength]; exact hrun)) (data ++ [0#8]) offset
    (by rw [hlonger, hlength, List.take_left, List.take_length])
  have hrun'' := decode_ok.mp hsame
  rw [hrun', hlength] at hrun''
  have hcursor := congrArg Prod.snd (Except.ok.inj hrun'')
  exact absurd hcursor (Nat.succ_ne_self _)

lemma stable_of_not_missing {data : List Byte} {offset : ℕ} (h : ¬MissingImmediate (data.drop offset)) :
    ExtensionStable data offset := by
  have hdetermined : Determined decodeAt ⟨data, offset⟩ 0 := determined_decodeAt fun hshort => h (missing_of_short hshort)
  have hbounds : ∀ instruction, decode data offset = .ok instruction →
      1 ≤ instruction.length ∧ instruction.length ≤ (⟨data, offset⟩ : Input Byte).remaining := by
    intro instruction hok
    have hrun := decode_ok.mp hok
    obtain ⟨first, m, hlook, hrest⟩ := bind_ok.mp hrun
    obtain ⟨-, rfl⟩ := look_ok.mp hlook
    exact ⟨afterFirst_far hrest, advances_decodeAt.inside hrun (Nat.zero_le _)⟩
  have hstable : ∀ instruction, decode data offset = .ok instruction → ∀ data' offset',
      (data'.drop offset').take instruction.length = (data.drop offset).take instruction.length →
        decode data' offset' = .ok instruction := by
    intro instruction hok data' offset' hsame
    exact decode_ok.mpr (hdetermined.same (decode_ok.mp hok) (agree_iff_take.mpr hsame))
  refine ⟨fun instruction hok => ?_, hstable, fun more instruction hlong hcut => ?_⟩
  · obtain ⟨hpos, hin⟩ := hbounds instruction hok
    rw [Input.remaining] at hin
    exact ⟨hpos, by dsimp only at hin; omega⟩
  · cases hshort : decode data offset with
    | error e => exact ⟨e, rfl⟩
    | ok instruction' =>
      obtain ⟨hpos, hin⟩ := hbounds instruction' hshort
      rw [Input.remaining] at hin
      dsimp only at hin
      have hsame := hstable instruction' hshort (data ++ more) offset
        (by rw [List.drop_append_of_le_length (by omega),
          List.take_append_of_le_length (by rw [List.length_drop]; omega)])
      rw [hlong] at hsame
      have := Except.ok.inj hsame
      subst this
      omega

/-- An instruction is decided by its own bytes exactly where no immediate byte is missing. -/
theorem decode_extension_stable (data : List Byte) (offset : ℕ) :
    ExtensionStable data offset ↔ ¬MissingImmediate (data.drop offset) :=
  ⟨fun h hmissing => not_stable_of_missing hmissing h, stable_of_not_missing⟩

/-- `C1 E0`, a shift whose immediate byte is cut off, decodes as a shift by 0 of two bytes; with one more byte it decodes
as a shift of three. -/
theorem shift_without_immediate :
    (∃ instruction, decode [0xc1#8, 0xe0#8] 0 = .ok instruction ∧ instruction.length = 2) ∧
      (∃ instruction, decode [0xc1#8, 0xe0#8, 0x05#8] 0 = .ok instruction ∧ instruction.length = 3) ∧
      ¬∀ data offset, ExtensionStable data offset := by
  refine ⟨⟨_, rfl, rfl⟩, ⟨_, rfl, rfl⟩, fun h => ?_⟩
  exact not_stable_of_missing ⟨[], [0xc1#8], 0xe0#8, [], rfl, by simp, .inl rfl, rfl⟩ (h [0xc1#8, 0xe0#8] 0)

end Nextcore.Ise
