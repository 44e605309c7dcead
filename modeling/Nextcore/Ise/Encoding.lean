import Nextcore.Ise.Grammar

/-! What the decoder makes of the bytes of an encoding: prefixes, an opcode, and a ModRM byte that names registers. -/

namespace Nextcore.Ise

open Parse

variable {s : Input Byte} {k : ℕ}

def prefixTurn (state : Byte × Byte) (b : Byte) : Byte × Byte := if isRex b then (b, state.2) else (state.1, b)

def prefixState (before : List Byte) : Byte × Byte := before.foldl prefixTurn (0#8, 0#8)

lemma prefixLoop_run {before rest : List Byte} {b : Byte} (hbytes : s.data.drop (s.origin + k) = before ++ b :: rest)
    (hbefore : ∀ x ∈ before, isPrefixByte x = true) (hb : isPrefixByte b = false) {fuel : ℕ}
    (hfuel : before.length < fuel) (rex mandatory : Byte) :
    prefixLoop fuel rex mandatory s k = .ok (before.foldl prefixTurn (rex, mandatory), k + before.length) := by
  induction before generalizing k fuel rex mandatory with
  | nil =>
    obtain ⟨fuel, rfl⟩ := Nat.exists_eq_add_of_lt hfuel
    rw [prefixLoop_turn (get_cons hbytes), hb]
    rfl
  | cons x before ih =>
    obtain ⟨fuel, rfl⟩ : ∃ n, fuel = n + 1 := ⟨fuel - 1, by omega⟩
    have hx : isPrefixByte x = true := hbefore x List.mem_cons_self
    rw [prefixLoop_turn (get_cons hbytes), if_pos hx]
    have hless : before.length < fuel := Nat.lt_of_succ_lt_succ hfuel
    have hrest := ih (byte_cons hbytes).2 (fun y hy => hbefore y (List.mem_cons_of_mem x hy)) hless
      (if isRex x then x else rex) (if isRex x then mandatory else x)
    rw [hrest, List.foldl_cons, List.length_cons, Nat.add_assoc k 1, Nat.add_comm 1]
    unfold prefixTurn
    cases isRex x <;> rfl

lemma decodeAt_behind {before rest : List Byte} {opcode : Byte}
    (hbytes : s.data.drop s.origin = before ++ opcode :: rest) (hbefore : ∀ x ∈ before, isPrefixByte x = true)
    (hopcode : isPrefixByte opcode = false) (hvex : opcode ≠ 0xc5#8 ∧ opcode ≠ 0xc6#8) :
    decodeAt s 0 = afterOpcode (prefixState before).1 (prefixState before).2 (opcode.zeroExtend 32) s
        (before.length + 1) ∧
      s.data.drop (s.origin + (before.length + 1)) = rest := by
  have hstart : s.data.drop (s.origin + 0) = before ++ opcode :: rest := hbytes
  have hbehind : s.data.drop (s.origin + before.length) = opcode :: rest := by
    rw [← List.drop_drop, hbytes, List.drop_left]
  have hfuel : before.length < s.remaining - 0 + 1 := by
    rw [remaining_eq, hbytes, List.length_append, List.length_cons]
    omega
  have hskipped : prefixes s 0 = .ok (prefixState before, before.length) := by
    have hloop := prefixLoop_run hstart hbefore hopcode hfuel 0#8 0#8
    rw [Nat.zero_add] at hloop
    exact hloop
  obtain ⟨first, hfirst, hfive, hsix⟩ : ∃ first, s.get 0 = some first ∧ first ≠ 0xc5#8 ∧ first ≠ 0xc6#8 := by
    cases before with
    | nil => exact ⟨opcode, get_cons hstart, hvex⟩
    | cons x before =>
      have hx : isPrefixByte x = true := hbefore x List.mem_cons_self
      refine ⟨x, get_cons hstart, ?_, ?_⟩ <;> rintro rfl <;> cases hx
  have hlook : look DecodeError.insufficientData s 0 = .ok (first, 0) := look_ok.mpr ⟨hfirst, rfl⟩
  obtain ⟨hbyte, hrest⟩ := byte_cons hbehind
  refine ⟨?_, hrest⟩
  rw [decodeAt, bind_run hlook, afterFirst, if_neg hfive, if_neg hsix, decodeLegacy, bind_run hskipped]
  exact bind_run hbyte

lemma readModrm_register {modrm : Byte} {rest : List Byte} (hbytes : s.data.drop (s.origin + k) = modrm :: rest)
    (hmod : modeOf modrm = 3#8) :
    readModrm s k = .ok ((regOf modrm, rmOf modrm, none), k + 1) ∧ s.data.drop (s.origin + (k + 1)) = rest := by
  refine ⟨?_, (byte_cons hbytes).2⟩
  rw [readModrm_cons hbytes, readOperand, if_pos hmod]
  rfl

lemma readModrm_none {reg rm : U32} {k' : ℕ} (h : readModrm s k = .ok ((reg, rm, none), k')) :
    ∃ modrm rest, s.data.drop (s.origin + k) = modrm :: rest ∧ modeOf modrm = 3#8 ∧ reg = regOf modrm ∧
      rm = rmOf modrm ∧ k' = k + 1 := by
  obtain ⟨modrm, k₁, hbyte, hoperand⟩ := bind_ok.mp h
  obtain ⟨hget, rfl⟩ := item_ok.mp hbyte
  have hdrop := drop_of_get hget
  by_cases hmode : modeOf modrm = 3#8
  · rw [readOperand, if_pos hmode] at hoperand
    obtain ⟨hr, rfl⟩ := pure_ok.mp hoperand
    cases hr
    exact ⟨modrm, _, hdrop, hmode, rfl, rfl, rfl⟩
  · rw [readOperand, if_neg hmode] at hoperand
    obtain ⟨sib, k₂, -, hrest⟩ := bind_ok.mp hoperand
    obtain ⟨displacement, k₃, -, hlast⟩ := bind_ok.mp hrest
    obtain ⟨hr, -⟩ := pure_ok.mp hlast
    cases hr

lemma decodeAt_legacy {inst : DecodedInstruction} {k' : ℕ} (h : decodeAt s 0 = .ok (inst, k'))
    (hname : inst.name ∉ [.vzeroUpper, .vaddps, .unknown]) :
    ∃ before opcode behind, s.data.drop s.origin = before ++ opcode :: behind ∧
      (∀ x ∈ before, isPrefixByte x = true) ∧ isPrefixByte opcode = false ∧
      afterOpcode (prefixState before).1 (prefixState before).2 (opcode.zeroExtend 32) s (before.length + 1) =
        .ok (inst, k') ∧
      s.data.drop (s.origin + (before.length + 1)) = behind := by
  obtain ⟨first, _, hlook, hfirst⟩ := bind_ok.mp h
  obtain ⟨-, rfl⟩ := look_ok.mp hlook
  unfold afterFirst at hfirst
  split_ifs at hfirst
  · obtain ⟨bs, _, -, hpure⟩ := bind_ok.mp hfirst
    obtain ⟨rfl, -⟩ := pure_ok.mp hpure
    exfalso
    apply hname
    dsimp only
    split_ifs <;> decide
  · obtain ⟨bs, _, -, hpure⟩ := bind_ok.mp hfirst
    obtain ⟨rfl, -⟩ := pure_ok.mp hpure
    exact absurd (show OpcodeName.unknown ∈ [.vzeroUpper, .vaddps, .unknown] by decide) hname
  obtain ⟨r, m, hskipped, hopcode⟩ := bind_ok.mp hfirst
  obtain ⟨opcode, _, hbyte, hrest⟩ := bind_ok.mp hopcode
  obtain ⟨hget, rfl⟩ := item_ok.mp hbyte
  obtain ⟨-, hskip, ⟨b, hb, hend⟩, -⟩ := prefixLoop_ok hskipped
  obtain rfl : b = opcode := Option.some.inj (hb.symm.trans hget)
  have hm := Input.lt_of_get hget
  rw [get_eq_drop] at hget
  have hlength : ((s.data.drop s.origin).take m).length = m := by
    rw [List.length_take, ← remaining_eq]
    omega
  have hbytes : s.data.drop s.origin =
      (s.data.drop s.origin).take m ++ b :: (s.data.drop s.origin).drop (m + 1) := by
    rw [← drop_of_get hget, List.take_append_drop]
  have hbefore : ∀ x ∈ (s.data.drop s.origin).take m, isPrefixByte x = true := by
    intro x hx
    obtain ⟨i, hi, rfl⟩ := List.mem_iff_getElem.mp hx
    rw [hlength] at hi
    obtain ⟨y, hy, hprefix⟩ := hskip i (Nat.zero_le i) hi
    rw [get_eq_drop, List.getElem?_eq_getElem (by rw [← remaining_eq]; omega)] at hy
    rw [List.getElem_take, Option.some.inj hy]
    exact hprefix
  have hfuel : ((s.data.drop s.origin).take m).length < s.remaining - 0 + 1 := by omega
  have hloop := prefixLoop_run (k := 0) hbytes hbefore hend hfuel 0#8 0#8
  have hstate : prefixState ((s.data.drop s.origin).take m) = r :=
    congrArg Prod.fst (Except.ok.inj (hloop.symm.trans hskipped))
  refine ⟨_, b, _, hbytes, hbefore, hend, ?_, ?_⟩
  · rw [hstate, hlength]
    exact hrest
  · rw [hlength, List.drop_drop]

/-! What holds of every instruction of a decoder. -/

def Yields (P : DecodedInstruction → Prop) (p : Decoder DecodedInstruction) : Prop :=
  ∀ s k inst k', p s k = .ok (inst, k') → P inst

section Yields

variable {P Q : DecodedInstruction → Prop}

lemma Yields.mono {p : Decoder DecodedInstruction} (hp : Yields P p) (h : ∀ inst, P inst → Q inst) : Yields Q p :=
  fun s k inst k' hrun => h inst (hp s k inst k' hrun)

lemma Yields.bind {α : Type} {p : Decoder α} {q : α → Decoder DecodedInstruction} (h : ∀ a, Yields P (q a)) :
    Yields P (p >>= q) := by
  intro s k inst k' hrun
  obtain ⟨a, m, -, hrest⟩ := bind_ok.mp hrun
  exact h a s m inst k' hrest

lemma Yields.ite {c : Prop} [Decidable c] {p q : Decoder DecodedInstruction} (hp : Yields P p) (hq : Yields P q) :
    Yields P (if c then p else q) := by
  by_cases h : c
  · rwa [if_pos h]
  · rwa [if_neg h]

lemma yields_fail (e : DecodeError) : Yields P (fail e) := by
  intro s k inst k' hrun
  cases hrun

lemma yields_pure {inst : DecodedInstruction} (h : P inst) : Yields P (pure inst) := by
  intro s k inst' k' hrun
  obtain ⟨rfl, -⟩ := pure_ok.mp hrun
  exact h

lemma yields_decodeRegRm (opcode : U32) (name : OpcodeName) (size : OperandSize) (isSse4 : Bool) :
    Yields (fun inst => inst.name = name) (decodeRegRm opcode name size isSse4) :=
  .bind fun _ => .bind fun _ => yields_pure rfl

lemma yields_afterEscape (rexW : Bool) (mandatory second : Byte) :
    Yields (fun inst => inst.name ∈ [.popcnt, .movdqa, .movdqu, .pmovsxbw, .pclmulqdq])
      (afterEscape rexW mandatory second) := by
  have hregRm (opcode : U32) {name : OpcodeName} (size : OperandSize) (isSse4 : Bool)
      (h : name ∈ [OpcodeName.popcnt, .movdqa, .movdqu, .pmovsxbw, .pclmulqdq]) :
      Yields (fun inst => inst.name ∈ [.popcnt, .movdqa, .movdqu, .pmovsxbw, .pclmulqdq])
        (decodeRegRm opcode name size isSse4) :=
    (yields_decodeRegRm opcode name size isSse4).mono fun inst hname => hname.symm ▸ h
  refine (hregRm _ _ _ (by decide)).ite ((hregRm _ _ _ ?_).ite ((Yields.bind fun _ =>
    (hregRm _ _ _ (by decide)).ite (yields_fail _)).ite ((Yields.bind fun _ => (Yields.bind fun _ => .bind fun _ =>
      .bind fun _ => yields_pure (by simp)).ite (yields_fail _)).ite (yields_fail _))))
  split_ifs <;> decide

lemma shiftName_mem (reg : U32) : shiftName reg ∈ [OpcodeName.shl, .shr] := by
  unfold shiftName
  split_ifs <;> decide

lemma yields_decodeShift (opcode : U32) : Yields (fun inst => inst.name ∈ [.shl, .shr]) (decodeShift opcode) :=
  .bind fun _ => .bind fun _ => .bind fun _ => yields_pure (shiftName_mem _)

end Yields

end Nextcore.Ise
