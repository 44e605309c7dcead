import Nextcore.Nvram.Access
import Nextcore.Nvram.Image
import Nextcore.Nvram.Table

/-! Where the parsers of a bank stay within the bank and the fixed fields of the store, and where they do not. -/

namespace Nextcore.Nvram

open Bytes Loop Traced Table

section Values

variable {n : NvramV1} {name value : CString} {buf past data : List Byte}

lemma value_ite {ι α : Type} {c : Prop} [Decidable c] (m m' : Traced ι α) :
    (if c then m else m').value = if c then m.value else m'.value := apply_ite _ _ _ _

lemma scan_value (region : Region) (stop : Byte → Bool) (i : ℕ) (l : List Byte) :
    (scan region stop i l).value = (l.takeWhile fun b => !stop b).length := by
  induction l generalizing i with
  | nil => rfl
  | cons b bs ih =>
    rw [scan, value_bind, value_ite, List.takeWhile_cons]
    cases stop b with
    | true => rfl
    | false => exact congrArg (· + 1) (ih (i + 1))

lemma findEnvTraced_value (name : CString) (slot : ℕ) (env : List Env) :
    (findEnvTraced name slot env).value = (env.findIdx? (·.name = name)).map (· + slot) := by
  induction env generalizing slot with
  | nil => rfl
  | cons v vs ih =>
    rw [findEnvTraced, value_bind, value_bind, value_ite, List.findIdx?_cons]
    by_cases hv : v.name = name
    · rw [if_pos hv, if_pos (by simpa using hv), Option.map_some, Nat.zero_add]
      rfl
    · rw [if_neg hv, if_neg (by simpa using hv), ih, Option.map_map]
      congr 1
      funext i
      simp only [Function.comp_apply]
      omega

lemma envUnsetTraced_value (n : NvramV1) (name : CString) : (envUnsetTraced n name).value = (envUnset n name).2 := by
  rw [envUnsetTraced, value_bind, findEnvTraced_value, envUnset, findEnv]
  cases n.env.findIdx? (·.name = name) <;> rfl

lemma envSetTraced_value (n : NvramV1) (name value : CString) :
    (envSetTraced n name value).value = envSet n name value 0#32 := by
  rw [envSetTraced, envSet]
  simp only [value_bind, value_ite, value_pure, envUnsetTraced_value]
  by_cases hnamed : name.1 = []
  · rw [if_pos hnamed, if_pos (.inl hnamed)]
  by_cases hname : envNameMax ≤ name.1.length
  · rw [if_neg hnamed, if_pos hname, if_pos (.inr (.inl hname))]
  by_cases hvalue : envValueMax ≤ value.1.length
  · rw [if_neg hnamed, if_neg hname, if_pos hvalue, if_pos (.inr (.inr hvalue))]
  have hgood : ¬(name.1 = [] ∨ envNameMax ≤ name.1.length ∨ envValueMax ≤ value.1.length) := by tauto
  rw [if_neg hnamed, if_neg hname, if_neg hvalue, if_neg hgood]
  rfl

lemma take_takeWhile (p : Byte → Bool) (l : List Byte) : l.take (l.takeWhile p).length = l.takeWhile p :=
  (List.prefix_iff_eq_take.mp (List.takeWhile_prefix p)).symm

lemma loadEnvTraced_value (slot : ℕ) (n : NvramV1) (cnt : ℕ) (data : List Byte) :
    (loadEnvTraced slot n cnt data).value = loadEnvFrom n data := by
  induction hlength : data.length using Nat.strong_induction_on generalizing n cnt data with
  | _ length ih =>
    rw [loadEnvTraced, loadEnvFrom]
    by_cases hend : data.head? = none
    · rw [if_pos hend, if_pos (.inl hend)]
      rfl
    rw [if_neg hend, value_bind, value_ite]
    by_cases hstop : data.head? = some nul
    · rw [if_pos hstop, if_pos (.inr hstop)]
      rfl
    rw [if_neg hstop, if_neg (by tauto)]
    simp only [value_bind, value_ite, value_pure, scan_value, envSetTraced_value]
    have hname : (data.takeWhile fun b => !decide (b = nul ∨ b = equals)) =
        data.takeWhile fun b => b ≠ nul ∧ b ≠ equals := by
      congr 1
      funext b
      simp
    have hvalue (l : List Byte) : (l.takeWhile fun b => !decide (b = nul)) = l.takeWhile (· ≠ nul) := by
      congr 1
      funext b
      simp
    simp only [hname, hvalue, take_takeWhile]
    by_cases hsign : data[(data.takeWhile fun b => b ≠ nul ∧ b ≠ equals).length]? ≠ some equals
    · rw [if_pos hsign, if_pos hsign]
    rw [if_neg hsign, if_neg hsign]
    refine if_congr Iff.rfl rfl (if_congr Iff.rfl rfl ?_)
    obtain ⟨rest, hrest⟩ : ∃ rest, data.drop ((data.takeWhile fun b => b ≠ nul ∧ b ≠ equals).length + 1) = rest := ⟨_, rfl⟩
    rw [hrest]
    rcases envSet n (cstr (data.takeWhile fun b => b ≠ nul ∧ b ≠ equals)) (cstr (rest.takeWhile (· ≠ nul))) 0#32 with
      ⟨success, next⟩
    cases success with
    | false => rfl
    | true =>
      refine ih _ ?_ _ _ _ rfl
      have hpos : 0 < data.length := List.length_pos_iff.mpr fun h => hend (by rw [h]; rfl)
      rw [← hrest, List.length_drop, List.length_drop]
      omega

end Values

section Strings

variable {as bs : List Byte}

lemma strcmpLen_left (h : nul ∈ as) : strcmpLen as bs ≤ as.length := by
  induction as generalizing bs with
  | nil => cases h
  | cons a as ih =>
    cases bs with
    | nil => exact Nat.succ_pos _
    | cons b bs =>
      rw [strcmpLen]
      split
      · exact Nat.succ_pos _
      next hgo =>
        rw [not_or] at hgo
        have : strcmpLen as bs ≤ as.length := ih ((List.mem_cons.mp h).resolve_left fun h => hgo.2 h.symm)
        rw [List.length_cons]
        omega

lemma strcmpLen_right (h : nul ∈ bs) : strcmpLen as bs ≤ bs.length := by
  induction bs generalizing as with
  | nil => cases h
  | cons b bs ih =>
    cases as with
    | nil => exact Nat.succ_pos _
    | cons a as =>
      rw [strcmpLen]
      split
      · exact Nat.succ_pos _
      next hgo =>
        rw [not_or, ne_eq, not_not] at hgo
        have : strcmpLen as bs ≤ bs.length :=
          ih ((List.mem_cons.mp h).resolve_left fun h => hgo.2 (hgo.1.trans h.symm))
        rw [List.length_cons]
        omega

lemma uintReads_le (value : List Byte) : uintReads value ≤ value.length + 1 := by
  have hrun (base : U32) (l : List Byte) : (l.takeWhile fun c => digit base c ≠ none).length ≤ l.length :=
    (List.takeWhile_prefix _).length_le
  rw [uintReads]
  dsimp only
  split
  next hhex =>
    have hlong : 2 ≤ value.length := by
      by_contra hshort
      have hone : value[1]? = none := List.getElem?_eq_none (by omega)
      rw [hone] at hhex
      rcases hhex.2 with h | h <;> cases h
    have := hrun 16#32 (value.drop 2)
    rw [List.length_drop] at this
    omega
  next =>
    have := hrun 10#32 value
    omega

end Strings

section Fields

variable {bufLen start len slot : ℕ} {region : Region}

lemma all_reads : (reads region start len).All (Access.InBounds bufLen) ↔
    region.Lies bufLen ∧ start + len ≤ region.size := List.forall_mem_singleton

lemma all_writes : (writes region start len).All (Access.InBounds bufLen) ↔
    region.Lies bufLen ∧ start + len ≤ region.size := List.forall_mem_singleton

lemma all_readsEach (hlies : region.Lies bufLen) (hsize : start + len ≤ region.size) :
    (readsEach region start len).All (Access.InBounds bufLen) := by
  intro a ha
  obtain ⟨i, hi, rfl⟩ := List.mem_map.mp ha
  have := List.mem_range.mp hi
  exact ⟨hlies, by change start + i + 1 ≤ region.size; omega⟩

lemma chrpChecksumTraced_all {buf : List Byte} {offset : ℕ} (h : offset + 0x10 ≤ bufLen) :
    (chrpChecksumTraced buf offset).All (Access.InBounds bufLen) :=
  .bind (all_reads.mpr ⟨h, (by decide : 0 + 1 ≤ 0x10)⟩)
    (.bind (all_readsEach h (by decide : 2 + 14 ≤ 0x10)) (all_pure _))

lemma adler32Traced_all {buf : List Byte} (h : 0x14 ≤ buf.length) :
    (adler32Traced buf).All (Access.InBounds buf.length) := by
  refine .bind (all_readsEach ?_ ?_) (all_pure _)
  · change 0 + buf.length ≤ buf.length
    omega
  · change 0x14 + (buf.length - 0x14) ≤ buf.length
    omega

lemma copyStrTraced_all {dst src : Region} {dstLen : ℕ} {s : CString} (hdst : dst.Lies bufLen) (hsrc : src.Lies bufLen)
    (hroom : dst.size = dstLen) (hpos : 0 < dstLen) (hlong : s.1.length < src.size) :
    (copyStrTraced dst dstLen src s).All (Access.InBounds bufLen) := by
  have hmin : min s.1.length (dstLen - 1) < dstLen := by omega
  refine .bind (all_reads.mpr ⟨hsrc, by omega⟩) (.bind (all_reads.mpr ⟨hsrc, by omega⟩)
    (.bind (all_writes.mpr ⟨hdst, by omega⟩) (.bind (all_writes.mpr ⟨hdst, by omega⟩) (all_pure _))))

lemma findCommonTraced_all {parts : List Part} (h : slot + parts.length ≤ maxParts) :
    (findCommonTraced slot parts).All (Access.InBounds bufLen) := by
  induction parts generalizing slot with
  | nil => exact all_pure _
  | cons part parts ih =>
    rw [List.length_cons] at h
    have hlen : strcmpLen part.name (common ++ [nul]) ≤ 7 := strcmpLen_right (by decide)
    refine .bind (all_reads.mpr ⟨by change slot < maxParts; omega, ?_⟩) (.bind (all_reads.mpr ⟨trivial, ?_⟩) ?_)
    · change 0 + _ ≤ 16
      omega
    · change 0 + _ ≤ 7
      omega
    · exact all_ite (fun _ => all_pure _) fun _ => ih (by omega)

end Fields

section Setter

variable {bufLen slot : ℕ} {n : NvramV1} {name value : CString}

lemma findEnvTraced_all {env : List Env} (hshort : ∀ v ∈ env, v.name.1.length < envNameMax)
    (hname : name.1.length < envNameMax) (hslot : slot + env.length ≤ maxEnv) :
    (findEnvTraced name slot env).All (Access.InBounds bufLen) := by
  induction env generalizing slot with
  | nil => exact all_pure _
  | cons v vs ih =>
    rw [List.length_cons] at hslot
    have hnul (s : CString) : nul ∈ s.1 ++ [nul] := List.mem_append_right _ List.mem_cons_self
    have hstored : strcmpLen (v.name.1 ++ [nul]) (name.1 ++ [nul]) ≤ v.name.1.length + 1 := by
      simpa using @strcmpLen_left _ (name.1 ++ [nul]) (hnul v.name)
    have hgiven : strcmpLen (v.name.1 ++ [nul]) (name.1 ++ [nul]) ≤ name.1.length + 1 := by
      simpa using @strcmpLen_right (v.name.1 ++ [nul]) _ (hnul name)
    have hv := hshort v List.mem_cons_self
    refine .bind (all_reads.mpr ⟨by change slot < maxEnv; omega, ?_⟩) (.bind (all_reads.mpr ⟨trivial, ?_⟩) ?_)
    · change 0 + _ ≤ envNameMax
      omega
    · change 0 + _ ≤ envNameMax
      omega
    · exact all_ite (fun _ => all_pure _) fun _ => ih (fun w hw => hshort w (List.mem_cons_of_mem _ hw)) (by omega)

lemma envUnsetTraced_all (htidy : Tidy n.env) (hname : name.1.length < envNameMax) :
    (envUnsetTraced n name).All (Access.InBounds bufLen) := by
  have hcount := htidy.count
  refine .bind (findEnvTraced_all (fun v hv => (htidy.admitted v hv).nameShort) hname (by omega)) ?_
  rw [findEnvTraced_value]
  cases hfind : n.env.findIdx? (·.name = name) with
  | none => exact all_pure _
  | some i =>
    have hi : i < n.env.length := (List.findIdx?_eq_some_iff_findIdx_eq.mp hfind).1
    refine .bind (all_reads.mpr ⟨trivial, ?_⟩) (.bind (all_writes.mpr ⟨trivial, ?_⟩) (all_pure _))
    · change i + 1 + (n.env.length - i - 1) ≤ maxEnv
      omega
    · change i + (n.env.length - i - 1) ≤ maxEnv
      omega

lemma envSetTraced_all (htidy : Tidy n.env) (hname : name.1.length < envNameMax) (hvalue : value.1.length < envValueMax) :
    (envSetTraced n name value).All (Access.InBounds bufLen) := by
  refine .bind (all_reads.mpr ⟨trivial, by decide⟩) (all_ite (fun _ => all_pure _) fun _ => ?_)
  refine .bind (all_reads.mpr ⟨trivial, ?_⟩) (all_ite (fun _ => all_pure _) fun _ => ?_)
  · change 0 + _ ≤ envNameMax
    omega
  refine .bind (all_reads.mpr ⟨trivial, ?_⟩) (all_ite (fun _ => all_pure _) fun _ => ?_)
  · change 0 + _ ≤ envValueMax
    omega
  refine .bind (envUnsetTraced_all htidy hname) (all_ite (fun _ => all_pure _) fun hroom => ?_)
  rw [not_le] at hroom
  refine .bind (all_writes.mpr ⟨trivial, hroom⟩) ?_
  refine .bind (copyStrTraced_all hroom trivial rfl (by decide) hname) ?_
  refine .bind (copyStrTraced_all hroom trivial rfl (by decide) hvalue) ?_
  have := uintReads_le value.1
  refine .bind (all_reads.mpr ⟨trivial, ?_⟩) (all_pure _)
  change 0 + _ ≤ envValueMax
  omega

end Setter

section Loader

variable {bufLen slot cnt : ℕ} {n : NvramV1} {data : List Byte}

lemma scan_all {region : Region} {stop : Byte → Bool} {i : ℕ} {l : List Byte} (hlies : region.Lies bufLen)
    (hsize : i + l.length ≤ region.size) : (scan region stop i l).All (Access.InBounds bufLen) := by
  induction l generalizing i with
  | nil => exact all_pure _
  | cons b bs ih =>
    rw [List.length_cons] at hsize
    refine .bind (all_reads.mpr ⟨hlies, by omega⟩) (all_ite (fun _ => all_pure _) fun _ => ?_)
    exact .bind (ih (by omega)) (all_pure _)

lemma scan_le (region : Region) (stop : Byte → Bool) (i : ℕ) (l : List Byte) :
    (scan region stop i l).value ≤ l.length := by
  rw [scan_value]
  exact (List.takeWhile_prefix _).length_le

lemma length_cstr_le (l : List Byte) : (cstr l).1.length ≤ l.length := (List.takeWhile_prefix _).length_le

lemma loadEnvTraced_all (hslot : slot < maxParts) (hfit : cnt + data.length ≤ commonPartLen) (htidy : Tidy n.env) :
    (loadEnvTraced slot n cnt data).All (Access.InBounds bufLen) := by
  induction hlength : data.length using Nat.strong_induction_on generalizing n cnt data with
  | _ length ih =>
    rw [loadEnvTraced]
    refine all_ite (fun _ => all_pure _) fun hend => ?_
    have hpos : 0 < data.length := List.length_pos_iff.mpr fun h => hend (by rw [h]; rfl)
    refine .bind (all_reads.mpr ⟨hslot, ?_⟩) (all_ite (fun _ => all_pure _) fun _ => ?_)
    · change cnt + 1 ≤ commonPartLen
      omega
    refine .bind (scan_all hslot hfit) ?_
    have hname := scan_le (.partData slot) (fun b => b = nul ∨ b = equals) cnt data
    generalize (scan (.partData slot) (fun b => b = nul ∨ b = equals) cnt data).value = nameLen at hname
    refine .bind ?_ (all_ite (fun _ => all_pure _) fun hsign => ?_)
    · rw [all_touch]
      split
      · refine List.forall_mem_singleton.mpr ⟨hslot, ?_⟩
        change cnt + nameLen + 1 ≤ commonPartLen
        omega
      · exact fun _ h => absurd h List.not_mem_nil
    have hsome : nameLen < data.length := (List.getElem?_eq_some_iff.mp (not_not.mp hsign)).1
    have hrest : (data.drop (nameLen + 1)).length = data.length - (nameLen + 1) := List.length_drop
    dsimp only
    refine .bind (scan_all hslot ?_) (all_ite (fun _ => all_pure _) fun hended => ?_)
    · rw [hrest]
      change _ ≤ commonPartLen
      omega
    generalize (scan (.partData slot) (fun b => b = nul) (cnt + nameLen + 1) (data.drop (nameLen + 1))).value = valueLen
      at hended
    refine all_ite (fun _ => all_pure _) fun hshort => ?_
    rw [hrest] at hended
    rw [not_or, not_le, not_le] at hshort
    obtain ⟨hshort, hvalueShort⟩ := hshort
    have htake := length_cstr_le (data.take nameLen)
    have hvalueTake := length_cstr_le ((data.drop (nameLen + 1)).take valueLen)
    rw [List.length_take] at htake hvalueTake
    refine .bind (all_reads.mpr ⟨hslot, by change _ ≤ commonPartLen; omega⟩) ?_
    refine .bind (all_writes.mpr ⟨trivial, by change _ ≤ envNameMax; omega⟩) ?_
    refine .bind (all_writes.mpr ⟨trivial, hshort⟩) ?_
    refine .bind (all_reads.mpr ⟨hslot, by change _ ≤ commonPartLen; omega⟩) ?_
    refine .bind (all_writes.mpr ⟨trivial, by change _ ≤ envValueMax; omega⟩) ?_
    refine .bind (all_writes.mpr ⟨trivial, hvalueShort⟩) ?_
    refine .bind (envSetTraced_all htidy (by omega) (by omega)) (all_ite (fun _ => ?_) fun _ => all_pure _)
    rw [envSetTraced_value]
    refine ih _ ?_ ?_ (envSet_tidy htidy) rfl
    · rw [List.length_drop, hrest]
      omega
    · rw [List.length_drop, hrest]
      omega

end Loader

section Walk

variable {buf past : List Byte} {offset : ℕ} {parts : List Part}

structure Used (buf : List Byte) (offset : ℕ) : Prop where
  fits : offset + 0x10 ≤ buf.length
  checked : (ChrpPartHdr.read buf offset).checksum = chrpChecksum (ChrpPartHdr.read buf offset)
  used : (ChrpPartHdr.read buf offset).signature ≠ chrpPartFree
  units : 1 ≤ partUnits buf offset
  room : partUnits buf offset * 0x10 + offset ≤ buf.length

def Panic (buf : List Byte) (offset : ℕ) : Prop := Used buf offset ∧ (ChrpPartHdr.read buf offset).name = panicPartName

def Stored (buf : List Byte) (offset : ℕ) : Prop :=
  Used buf offset ∧ (ChrpPartHdr.read buf offset).name ≠ panicPartName ∧
    partUnits buf offset * 0x10 - 0x10 ≤ commonPartLen

inductive Copies (buf : List Byte) : ℕ → Prop
  | here {offset : ℕ} (h : Stored buf offset) : Copies buf offset
  | skip {offset : ℕ} (h : Panic buf offset) (hrest : Copies buf (offset + partUnits buf offset * 0x10)) :
      Copies buf offset

lemma nameCopy_not_inBounds (bufLen offset : ℕ) : ¬(nameCopy offset).InBounds bufLen :=
  fun h => absurd h.2 (by decide : ¬0 + 15 ≤ 12)

inductive Turned (buf past : List Byte) (offset : ℕ) (parts : List Part) (m : Traced Access (Turn (ℕ × List Part) Bool)) :
    Prop
  | stops (success : Bool) (s : ℕ × List Part) (hvalue : m.value = .done success s)
      (hparse : parsePartitions buf past offset parts = if success then some parts else none)
      (hparts : s.2 = parts) (hall : m.All (Access.InBounds buf.length))
      (hno : parts.length < maxParts → ¬Panic buf offset ∧ ¬Stored buf offset)
  | skips (h : Panic buf offset) (hvalue : m.value = .again (offset + partUnits buf offset * 0x10, parts))
      (hparse : parsePartitions buf past offset parts =
        parsePartitions buf past (offset + partUnits buf offset * 0x10) parts)
      (hall : m.All (Access.InBounds buf.length))
  | stores (h : Stored buf offset) (hroom : parts.length < maxParts)
      (hvalue : m.value = .again (offset + partUnits buf offset * 0x10, parts ++ [readPart buf past offset]))
      (hparse : parsePartitions buf past offset parts =
        parsePartitions buf past (offset + partUnits buf offset * 0x10) (parts ++ [readPart buf past offset]))
      (hcopy : nameCopy offset ∈ m.accesses)
      (hall : m.All fun a => a.InBounds buf.length ∨ a = nameCopy offset)

lemma Turned.after {α : Type} {m : Traced Access α} {f : α → Traced Access (Turn (ℕ × List Part) Bool)}
    (hm : m.All (Access.InBounds buf.length)) (h : Turned buf past offset parts (f m.value)) :
    Turned buf past offset parts (m >>= f) := by
  cases h with
  | stops success s hvalue hparse hparts hall hno => exact .stops success s hvalue hparse hparts (.bind hm hall) hno
  | skips h hvalue hparse hall => exact .skips h hvalue hparse (.bind hm hall)
  | stores h hroom hvalue hparse hcopy hall =>
    exact .stores h hroom hvalue hparse (List.mem_append_right _ hcopy) (.bind (hm.mono fun _ => .inl) hall)

lemma Turned.stop (success : Bool) (hparse : parsePartitions buf past offset parts = if success then some parts else none)
    (hno : Used buf offset → parts.length < maxParts → False) :
    Turned buf past offset parts (pure (.done success (offset, parts))) :=
  .stops success _ rfl hparse rfl (all_pure _) fun hroom => ⟨fun h => hno h.1 hroom, fun h => hno h.1 hroom⟩

lemma walkTurn_turned (buf past : List Byte) (offset : ℕ) (parts : List Part) :
    Turned buf past offset parts (walkTurn buf past offset parts) := by
  rw [walkTurn]
  by_cases hshort : buf.length < offset + 0x10
  · rw [if_pos hshort]
    refine .stop true ?_ fun h _ => absurd h.fits (by omega)
    rw [parsePartitions, if_pos hshort, if_pos rfl]
  rw [if_neg hshort]
  refine .after (all_reads.mpr ⟨by change offset + 1 + 1 ≤ _; omega, le_refl 1⟩) ?_
  refine .after (chrpChecksumTraced_all (by omega)) ?_
  change Turned buf past offset parts (if (ChrpPartHdr.read buf offset).checksum ≠ chrpChecksum (ChrpPartHdr.read buf offset)
    then _ else _)
  by_cases hsum : (ChrpPartHdr.read buf offset).checksum ≠ chrpChecksum (ChrpPartHdr.read buf offset)
  · rw [if_pos hsum]
    refine .stop false ?_ fun h _ => hsum h.checked
    rw [parsePartitions, if_neg hshort, if_pos hsum]
    rfl
  rw [if_neg hsum]
  refine .after (all_reads.mpr ⟨by change offset + 1 ≤ _; omega, le_refl 1⟩) ?_
  by_cases hfree : (ChrpPartHdr.read buf offset).signature = chrpPartFree
  · rw [if_pos hfree]
    refine .stop true ?_ fun h _ => h.used hfree
    rw [parsePartitions, if_neg hshort, if_neg hsum, if_pos hfree, if_pos rfl]
  rw [if_neg hfree]
  refine .after (all_reads.mpr ⟨by change offset + 2 + 2 ≤ _; omega, le_refl 2⟩) ?_
  by_cases hunits : partUnits buf offset < 1 ∨ buf.length < partUnits buf offset * 0x10 + offset
  · rw [if_pos hunits]
    refine .stop false ?_ fun h _ => ?_
    · rw [parsePartitions, if_neg hshort, if_neg hsum, if_neg hfree, dif_pos hunits]
      rfl
    · have := h.units
      have := h.room
      omega
  rw [if_neg hunits]
  by_cases hfull : maxParts ≤ parts.length
  · rw [if_pos hfull]
    refine .stop false ?_ fun _ h => absurd h (by omega)
    rw [parsePartitions, if_neg hshort, if_neg hsum, if_neg hfree, dif_neg hunits, if_pos hfull]
    rfl
  rw [if_neg hfull]
  have hused : Used buf offset := ⟨by omega, not_not.mp hsum, hfree, by omega, by omega⟩
  have hname : offset + 4 + 12 ≤ buf.length := by omega
  refine .after (all_reads.mpr ⟨hname, le_refl 12⟩) (.after (all_reads.mpr ⟨trivial, le_refl 12⟩) ?_)
  by_cases hpanic : (ChrpPartHdr.read buf offset).name = panicPartName
  · rw [if_pos hpanic]
    refine .skips ⟨hused, hpanic⟩ rfl ?_ (all_pure _)
    rw [parsePartitions, if_neg hshort, if_neg hsum, if_neg hfree, dif_neg hunits, if_neg hfull, if_pos hpanic]
  rw [if_neg hpanic]
  refine .after (all_writes.mpr ⟨trivial, by change parts.length + 1 ≤ maxParts; omega⟩) ?_
  refine .after (all_reads.mpr ⟨by change offset + 1 ≤ _; omega, le_refl 1⟩) ?_
  by_cases hlarge : commonPartLen < partUnits buf offset * 0x10 - 0x10
  · rw [if_pos hlarge]
    refine .stops false _ rfl ?_ rfl (all_pure _) fun _ => ⟨fun h => hpanic h.2, fun h => absurd h.2.2 (by omega)⟩
    rw [parsePartitions, if_neg hshort, if_neg hsum, if_neg hfree, dif_neg hunits, if_neg hfull, if_neg hpanic,
      if_pos hlarge]
    rfl
  rw [if_neg hlarge]
  have hlast : ¬buf.length < offset + 0x10 + (partUnits buf offset * 0x10 - 0x10) := by omega
  rw [if_neg hlast]
  refine .stores ⟨hused, hpanic, by omega⟩ (by omega) rfl ?_ List.mem_cons_self ?_
  · rw [parsePartitions, if_neg hshort, if_neg hsum, if_neg hfree, dif_neg hunits, if_neg hfull, if_neg hpanic,
      if_neg hlarge]
  have hslot : parts.length < maxParts := by omega
  have hrest : ∀ m : Traced Access (Turn (ℕ × List Part) Bool), m.All (Access.InBounds buf.length) →
      m.All fun a => a.InBounds buf.length ∨ a = nameCopy offset := fun m hm => hm.mono fun _ => .inl
  refine .bind (List.forall_mem_singleton.mpr (.inr rfl)) (hrest _ ?_)
  refine .bind (all_writes.mpr ⟨hslot, by change 0 + 15 ≤ 16; omega⟩) ?_
  refine .bind (all_reads.mpr ⟨by change 0 + buf.length ≤ _; omega, by change _ ≤ buf.length; omega⟩) ?_
  exact .bind (all_writes.mpr ⟨hslot, by change _ ≤ commonPartLen; omega⟩) (all_pure _)

structure Fits (parts : List Part) : Prop where
  count : parts.length ≤ maxParts
  data : ∀ part ∈ parts, part.data.length ≤ commonPartLen

structure Walked (buf past : List Byte) (offset : ℕ) (parts : List Part) (m : Traced Access (Option (Bool × List Part))) :
    Prop where
  value : ∃ success parts', m.value = some (success, parts') ∧
    parsePartitions buf past offset parts = (if success then some parts' else none) ∧ (Fits parts → Fits parts')
  all : m.All fun a => a.InBounds buf.length ∨ (∃ o, a = nameCopy o) ∧ Copies buf offset
  copies : parts = [] → Copies buf offset → ∃ o, nameCopy o ∈ m.accesses

lemma fits_append (h : Fits parts) (hroom : parts.length < maxParts) (hstored : Stored buf offset) :
    Fits (parts ++ [readPart buf past offset]) where
  count := by
    rw [List.length_append]
    exact hroom
  data part hpart := by
    rcases List.mem_append.mp hpart with hpart | hpart
    · exact h.data part hpart
    · rw [List.mem_singleton.mp hpart]
      exact (List.length_take_le _ _).trans hstored.2.2

lemma walk_walked {fuel : ℕ} (hfuel : buf.length - offset < fuel) (hin : offset ≤ buf.length) :
    Walked buf past offset parts (walk buf past fuel (offset, parts)) := by
  induction fuel generalizing offset parts with
  | zero => omega
  | succ fuel ih =>
    rw [walk]
    dsimp only
    cases walkTurn_turned buf past offset parts with
    | stops success s hvalue hparse hparts hall hno =>
      refine ⟨⟨success, parts, ?_, hparse, id⟩, ?_, ?_⟩
      · rw [value_bind, hvalue, ← hparts]
        rfl
      · rw [all_bind, hvalue]
        exact ⟨hall.mono fun _ => .inl, all_pure _⟩
      · rintro rfl hcopies
        obtain ⟨hpanic, hstored⟩ := hno (by decide)
        cases hcopies with
        | here h => exact absurd h hstored
        | skip h => exact absurd h hpanic
    | skips h hvalue hparse hall =>
      have hunits := h.1.units
      have hroom := h.1.room
      have hnext : Walked buf past (offset + partUnits buf offset * 0x10) parts _ := ih (by omega) (by omega)
      obtain ⟨success, parts', hlast, hrest, hfits⟩ := hnext.value
      refine ⟨⟨success, parts', ?_, hparse.trans hrest, hfits⟩, ?_, fun hparts hcopies => ?_⟩
      · rw [value_bind, hvalue]
        exact hlast
      · rw [all_bind, hvalue]
        exact ⟨hall.mono fun _ => .inl, hnext.all.mono fun _ ha => ha.imp_right fun hcopy => ⟨hcopy.1, .skip h hcopy.2⟩⟩
      · cases hcopies with
        | here hstored => exact absurd h.2 hstored.2.1
        | skip _ hcopies =>
          obtain ⟨o, ho⟩ := hnext.copies hparts hcopies
          refine ⟨o, ?_⟩
          rw [accesses_bind, hvalue]
          exact List.mem_append_right _ ho
    | stores h hfree hvalue hparse hcopy hall =>
      have hunits := h.1.units
      have hroom := h.1.room
      have hnext : Walked buf past (offset + partUnits buf offset * 0x10) (parts ++ [readPart buf past offset]) _ :=
        ih (by omega) (by omega)
      obtain ⟨success, parts', hlast, hrest, hfits⟩ := hnext.value
      refine ⟨⟨success, parts', ?_, hparse.trans hrest, fun hparts => hfits (fits_append hparts hfree h)⟩, ?_,
        fun _ _ => ⟨offset, List.mem_append_left _ hcopy⟩⟩
      · rw [value_bind, hvalue]
        exact hlast
      · rw [all_bind, hvalue]
        exact ⟨hall.mono fun _ ha => ha.imp_right fun hname => ⟨⟨offset, hname⟩, .here h⟩,
          hnext.all.mono fun _ ha => ha.imp_right fun hname => ⟨hname.1, .here h⟩⟩

lemma findCommonTraced_value (slot : ℕ) (parts : List Part) :
    ((findCommonTraced slot parts).value = none ∧ parts.find? Part.isCommon = none) ∨
    ∃ i part, (findCommonTraced slot parts).value = some (slot + i, part) ∧ parts.find? Part.isCommon = some part ∧
      i < parts.length := by
  induction parts generalizing slot with
  | nil => exact .inl ⟨rfl, rfl⟩
  | cons part parts ih =>
    rw [findCommonTraced, value_bind, value_bind, value_ite, List.find?_cons]
    cases hcommon : part.isCommon with
    | true => exact .inr ⟨0, part, rfl, rfl, Nat.succ_pos _⟩
    | false =>
      rcases ih (slot + 1) with h | ⟨i, found, hvalue, hfind, hi⟩
      · exact .inl h
      · refine .inr ⟨i + 1, found, ?_, hfind, Nat.succ_lt_succ hi⟩
        rw [if_neg Bool.false_ne_true, hvalue, Nat.add_right_comm]
        rfl

lemma initTraced_all {bufLen : ℕ} : initTraced.All (Access.InBounds bufLen) := by
  refine .bind (all_writes.mpr ⟨trivial, by decide⟩) (.bind (all_writes.mpr ⟨trivial, by decide⟩) ?_)
  have hslot : (Region.partName 0).Lies bufLen := (by decide : 0 < maxParts)
  exact .bind (copyStrTraced_all hslot trivial rfl (by decide) (by decide)) (all_pure _)

end Walk

section Bank

variable {n : NvramV1} {buf past : List Byte}

structure Filled (n : NvramV1) (buf past : List Byte) (m : Traced Access (Option (Bool × NvramV1))) : Prop where
  value : m.value = some (parseBank n buf past)
  all : m.All fun a => a.InBounds buf.length ∨ (∃ o, a = nameCopy o) ∧ Copies buf 0x20
  copies : Copies buf 0x20 → ∃ o, nameCopy o ∈ m.accesses

lemma parseBank_good (h : HeaderGood buf) : parseBank n buf past =
    match parsePartitions buf past 0x20 [] with
    | none => (false, zeroed)
    | some parts =>
      match parts.find? Part.isCommon with
      | none => init
      | some part =>
        match loadEnvFromCommon (storeOf buf parts) part with
        | (true, n) => (true, n)
        | (false, _) => (false, zeroed) := by
  obtain ⟨hlong, hsum, hadler⟩ := h
  rw [parseBank]
  dsimp only
  rw [if_neg (by omega), if_neg (not_not_intro hsum), if_neg (not_not_intro hadler)]
  rfl

lemma loadTraced_value {parts : List Part} (h : HeaderGood buf) {success : Bool}
    (hparse : parsePartitions buf past 0x20 [] = if success then some parts else none) :
    (loadTraced buf (some (success, parts))).value = some (parseBank n buf past) := by
  rw [parseBank_good h, hparse]
  cases success with
  | false => rfl
  | true =>
    rw [if_pos rfl, loadTraced, value_bind]
    dsimp only
    rcases findCommonTraced_value 0 parts with ⟨hvalue, hfind⟩ | ⟨i, part, hvalue, hfind, -⟩
    · rw [hvalue, hfind]
      rfl
    · rw [hvalue, hfind]
      dsimp only
      rw [value_bind, value_ite, loadEnvTraced_value, loadEnvFromCommon]
      rcases loadEnvFrom { storeOf buf parts with env := [] } part.data with ⟨loaded, next⟩
      cases loaded <;> rfl

lemma loadTraced_all {parts : List Part} (hfits : Fits parts) (success : Bool) :
    (loadTraced buf (some (success, parts))).All (Access.InBounds buf.length) := by
  have hstore : (writes .store 0 1).All (Access.InBounds buf.length) := all_writes.mpr ⟨trivial, le_refl 1⟩
  have hcount := hfits.count
  cases success with
  | false => exact .bind hstore (all_pure _)
  | true =>
    refine .bind (findCommonTraced_all (by omega)) ?_
    rcases findCommonTraced_value 0 parts with ⟨hvalue, hfind⟩ | ⟨i, part, hvalue, hfind, hi⟩
    · rw [hvalue]
      exact .bind initTraced_all (all_pure _)
    · rw [hvalue]
      have hdata := hfits.data part (List.mem_of_find?_eq_some hfind)
      refine .bind (loadEnvTraced_all (by omega) (by omega) tidy_nil) ?_
      exact all_ite (fun _ => all_pure _) fun _ => .bind hstore (all_pure _)

lemma fillTraced_filled (h : HeaderGood buf) : Filled n buf past (fillTraced (buf.length + 1) buf past) := by
  have hlong := h.1
  have hwalk : Walked buf past 0x20 [] _ := walk_walked (show buf.length - 0x20 < buf.length + 1 by omega) hlong
  obtain ⟨success, parts, hvalue, hparse, hfits⟩ := hwalk.value
  have hfirst : (writes .store 0 1).All (Access.InBounds buf.length) := all_writes.mpr ⟨trivial, le_refl 1⟩
  have hgeneration : (reads (.bank 0x14 4) 0 4).All (Access.InBounds buf.length) :=
    all_reads.mpr ⟨by change 0x14 + 4 ≤ _; omega, le_refl 4⟩
  have hload : (loadTraced buf (some (success, parts))).All (Access.InBounds buf.length) :=
    loadTraced_all (hfits ⟨Nat.zero_le _, fun _ h => absurd h List.not_mem_nil⟩) success
  refine ⟨?_, ?_, fun hcopies => ?_⟩
  · rw [fillTraced, value_bind, value_bind, value_bind, hvalue]
    exact loadTraced_value h hparse
  · refine .bind (hfirst.mono fun _ => .inl) (.bind (hgeneration.mono fun _ => .inl) (.bind hwalk.all ?_))
    rw [hvalue]
    exact hload.mono fun _ => .inl
  · obtain ⟨o, ho⟩ := hwalk.copies rfl hcopies
    exact ⟨o, List.mem_append_right _ (List.mem_append_right _ (List.mem_append_left _ ho))⟩

lemma parseBank_bad (h : ¬HeaderGood buf) : parseBank n buf past = (false, n) := by
  rcases parseBank_cases n buf past with ⟨-, hvalue⟩ | ⟨hgood, -⟩ | ⟨hgood, -⟩
  · exact hvalue
  · exact absurd hgood h
  · exact absurd hgood h

inductive Guarded (n : NvramV1) (buf past : List Byte) (rest m : Traced Access (Option (Bool × NvramV1))) : Prop
  | refused (h : ¬HeaderGood buf) (hvalue : m.value = some (parseBank n buf past))
      (hall : m.All (Access.InBounds buf.length))
  | passed (h : HeaderGood buf) (hvalue : m.value = rest.value) (before : List Access)
      (hall : ∀ a ∈ before, a.InBounds buf.length) (haccesses : m.accesses = before ++ rest.accesses)

lemma Guarded.after {α : Type} {m : Traced Access α} {f : α → Traced Access (Option (Bool × NvramV1))}
    {rest : Traced Access (Option (Bool × NvramV1))} (hm : m.All (Access.InBounds buf.length))
    (h : Guarded n buf past rest (f m.value)) : Guarded n buf past rest (m >>= f) := by
  cases h with
  | refused h hvalue hall => exact .refused h hvalue (.bind hm hall)
  | passed h hvalue before hall haccesses =>
    refine .passed h hvalue (m.accesses ++ before) (List.forall_mem_append.mpr ⟨hm, hall⟩) ?_
    rw [accesses_bind, haccesses, List.append_assoc]

lemma Guarded.refuse {rest : Traced Access (Option (Bool × NvramV1))} (h : ¬HeaderGood buf) :
    Guarded n buf past rest (pure (some (false, n))) :=
  .refused h (by rw [parseBank_bad h]; rfl) (all_pure _)

lemma parseBankTraced_guarded (n : NvramV1) (buf past : List Byte) (fuel : ℕ) :
    Guarded n buf past (fillTraced fuel buf past) (parseBankTraced fuel n buf past) := by
  rw [parseBankTraced]
  by_cases hshort : buf.length < 0x20
  · rw [if_pos hshort]
    exact .refuse fun h => absurd h.1 (by omega)
  rw [if_neg hshort]
  refine .after (all_reads.mpr ⟨by change 1 + 1 ≤ _; omega, le_refl 1⟩) (.after (chrpChecksumTraced_all (by omega)) ?_)
  change Guarded _ _ _ _ (if (ChrpPartHdr.read buf 0).checksum ≠ chrpChecksum (ChrpPartHdr.read buf 0) then _ else _)
  by_cases hsum : (ChrpPartHdr.read buf 0).checksum ≠ chrpChecksum (ChrpPartHdr.read buf 0)
  · rw [if_pos hsum]
    exact .refuse fun h => hsum h.2.1
  rw [if_neg hsum]
  refine .after (adler32Traced_all (by omega))
    (.after (all_reads.mpr ⟨by change 0x10 + 4 ≤ _; omega, le_refl 4⟩) ?_)
  change Guarded _ _ _ _ (if adler32 1#32 (buf.drop 0x14) ≠ (loadLe buf 0x10 4).truncate 32 then _ else _)
  by_cases hadler : adler32 1#32 (buf.drop 0x14) ≠ (loadLe buf 0x10 4).truncate 32
  · rw [if_pos hadler]
    exact .refuse fun h => hadler h.2.2
  rw [if_neg hadler]
  exact .passed ⟨by omega, not_not.mp hsum, not_not.mp hadler⟩ rfl [] (fun _ h => absurd h List.not_mem_nil) rfl

end Bank

def StaysInBounds (n : NvramV1) (buf past : List Byte) : Prop :=
  (∃ r, (parseBankTraced (buf.length + 1) n buf past).value = some r) ∧
    ∀ a ∈ (parseBankTraced (buf.length + 1) n buf past).accesses, a.InBounds buf.length

/-- The parser ends on every bank, and no access goes astray but the copy of a partition's name out of its header; so it
stays in bounds exactly where no partition is stored. -/
theorem parse_bank_in_bounds (n : NvramV1) (buf past : List Byte) :
    (parseBankTraced (buf.length + 1) n buf past).value = some (parseBank n buf past) ∧
    (∀ a ∈ (parseBankTraced (buf.length + 1) n buf past).accesses, a.InBounds buf.length ∨ ∃ o, a = nameCopy o) ∧
    (StaysInBounds n buf past ↔ (HeaderGood buf → ¬Copies buf 0x20)) := by
  cases parseBankTraced_guarded n buf past (buf.length + 1) with
  | refused h hvalue hall =>
    exact ⟨hvalue, fun a ha => .inl (hall a ha), fun _ hgood => absurd hgood h, fun _ => ⟨⟨_, hvalue⟩, hall⟩⟩
  | passed h hvalue before hall haccesses =>
    have hfilled : Filled n buf past _ := fillTraced_filled h
    rw [StaysInBounds, haccesses]
    refine ⟨hvalue.trans hfilled.value, ?_, fun hinside _ hcopies => ?_, fun hno =>
      ⟨⟨_, hvalue.trans hfilled.value⟩, ?_⟩⟩
    · exact List.forall_mem_append.mpr ⟨fun a ha => .inl (hall a ha), fun a ha => (hfilled.all a ha).imp_right And.left⟩
    · obtain ⟨o, ho⟩ := hfilled.copies hcopies
      exact nameCopy_not_inBounds _ _ (hinside.2 _ (List.mem_append_right _ ho))
    · exact List.forall_mem_append.mpr ⟨hall, fun a ha => (hfilled.all a ha).resolve_right fun hcopy => hno h hcopy.2⟩

def bareBank : List Byte :=
  bankImage 0#32 [{ sig := commonSig, name := ascii ['x'] ++ List.replicate 15 nul, data := [] }] []

theorem parse_bank_past_end : ¬ ∀ (n : NvramV1) (buf past : List Byte), StaysInBounds n buf past := by
  intro hall
  have hcopied : nameCopy 0x20 ∈ (parseBankTraced (bareBank.length + 1) zeroed bareBank []).accesses := by decide +kernel
  exact nameCopy_not_inBounds _ _ ((hall zeroed bareBank []).2 _ hcopied)

end Nextcore.Nvram
