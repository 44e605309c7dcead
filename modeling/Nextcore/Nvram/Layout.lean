import Nextcore.Nvram.Bank

/-! The partitions that lie in a bank image, and what the parser keeps of them. -/

namespace Nextcore.Nvram

open Bytes

def Part.stored (part : Part) : Part := { part with name := part.name.take 12 }

def partAt (buf : List Byte) (offset : ℕ) : Part :=
  { sig := (ChrpPartHdr.read buf offset).signature
    name := (ChrpPartHdr.read buf offset).name
    data := slice buf (offset + 0x10) (partUnits buf offset * 0x10 - 0x10) }

inductive Layout (buf : List Byte) : ℕ → List Part → Prop
  | short {offset : ℕ} : buf.length < offset + 0x10 → Layout buf offset []
  | free {offset : ℕ} : offset + 0x10 ≤ buf.length →
      (ChrpPartHdr.read buf offset).signature = chrpPartFree → Layout buf offset []
  | part {offset : ℕ} {parts : List Part} : offset + 0x10 ≤ buf.length →
      (ChrpPartHdr.read buf offset).signature ≠ chrpPartFree → 1 ≤ partUnits buf offset →
      offset + partUnits buf offset * 0x10 ≤ buf.length →
      Layout buf (offset + partUnits buf offset * 0x10) parts → Layout buf offset (partAt buf offset :: parts)

lemma Layout.unique {buf : List Byte} {offset : ℕ} {parts parts' : List Part} (h : Layout buf offset parts)
    (h' : Layout buf offset parts') : parts = parts' := by
  induction h generalizing parts' with
  | short hlen =>
    cases h' with
    | short _ => rfl
    | free _ _ => rfl
    | part hfit _ _ _ _ => omega
  | free _ hfree =>
    cases h' with
    | short _ => rfl
    | free _ _ => rfl
    | part _ hsig _ _ _ => exact absurd hfree hsig
  | part hfit hsig _ _ _ ih =>
    cases h' with
    | short hlen => omega
    | free _ hfree => exact absurd hfree hsig
    | part _ _ _ _ hrest => rw [ih hrest]

def Part.kept (part : Part) : Bool := part.name.take 12 ≠ panicPartName

def Part.size (part : Part) : ℕ := 0x10 + part.data.length

structure Part.Storable (part : Part) : Prop where
  aligned : part.data.length % 0x10 = 0
  bounded : part.data.length ≤ commonPartLen
  used : part.sig ≠ chrpPartFree
  kept : part.kept = true
  named : part.name.length = 16

section

variable {buf past : List Byte} {offset : ℕ}

lemma readPart_stored (h : offset + 0x10 ≤ buf.length) : (readPart buf past offset).stored = partAt buf offset := by
  have hname : (blit (List.replicate 16 nul) 0 (slice (buf ++ past) (offset + 4) 15)).take 12 =
      slice buf (offset + 4) 12 := by
    have hlen : 12 ≤ (buf.drop (offset + 4)).length := by
      rw [List.length_drop]
      omega
    have hslice : (slice (buf ++ past) (offset + 4) 15).take 12 = slice buf (offset + 4) 12 := by
      rw [slice, slice, List.take_take, List.drop_append_of_le_length (by omega)]
      exact List.take_append_of_le_length hlen
    have hwide : 12 ≤ (slice (buf ++ past) (offset + 4) 15).length := by
      simp only [slice, List.length_take, List.length_drop, List.length_append]
      omega
    rw [blit, List.take_zero, List.nil_append, List.take_append_of_le_length hwide, hslice]
  simp only [Part.stored, readPart, partAt, hname]
  rfl

lemma length_readPart_name : (readPart buf past offset).name.length = 16 := by
  have hwide : (slice (buf ++ past) (offset + 4) 15).length ≤ 15 := by
    simp only [slice, List.length_take]
    omega
  rw [readPart, length_blit]
  · rfl
  · rw [List.length_replicate]
    omega

lemma length_readPart_data (h : offset + partUnits buf offset * 0x10 ≤ buf.length) :
    (readPart buf past offset).data.length = partUnits buf offset * 0x10 - 0x10 := by
  simp only [readPart, slice, List.length_take, List.length_drop]
  omega

lemma parsePartitions_some {parts out : List Part} (h : parsePartitions buf past offset parts = some out) :
    (buf.length < offset + 0x10 ∧ out = parts) ∨
    (offset + 0x10 ≤ buf.length ∧ (ChrpPartHdr.read buf offset).signature = chrpPartFree ∧ out = parts) ∨
    ((offset + 0x10 ≤ buf.length ∧ (ChrpPartHdr.read buf offset).signature ≠ chrpPartFree ∧
        1 ≤ partUnits buf offset ∧ offset + partUnits buf offset * 0x10 ≤ buf.length ∧ parts.length < maxParts) ∧
      (((partAt buf offset).kept = false ∧
          parsePartitions buf past (offset + partUnits buf offset * 0x10) parts = some out) ∨
        ((partAt buf offset).kept = true ∧ partUnits buf offset * 0x10 - 0x10 ≤ commonPartLen ∧
          parsePartitions buf past (offset + partUnits buf offset * 0x10) (parts ++ [readPart buf past offset]) =
            some out))) := by
  rw [parsePartitions] at h
  dsimp only at h
  by_cases hshort : buf.length < offset + 0x10
  · rw [if_pos hshort] at h
    exact .inl ⟨hshort, (Option.some.inj h).symm⟩
  rw [if_neg hshort] at h
  have hfit : offset + 0x10 ≤ buf.length := by omega
  by_cases hsum : (ChrpPartHdr.read buf offset).checksum ≠ chrpChecksum (ChrpPartHdr.read buf offset)
  · rw [if_pos hsum] at h
    cases h
  rw [if_neg hsum] at h
  by_cases hfree : (ChrpPartHdr.read buf offset).signature = chrpPartFree
  · rw [if_pos hfree] at h
    exact .inr (.inl ⟨hfit, hfree, (Option.some.inj h).symm⟩)
  rw [if_neg hfree] at h
  by_cases hunits : partUnits buf offset < 1 ∨ buf.length < partUnits buf offset * 0x10 + offset
  · rw [dif_pos hunits] at h
    cases h
  rw [dif_neg hunits] at h
  by_cases hcount : maxParts ≤ parts.length
  · rw [if_pos hcount] at h
    cases h
  rw [if_neg hcount] at h
  refine .inr (.inr ⟨⟨hfit, hfree, by omega, by omega, by omega⟩, ?_⟩)
  have htake : (ChrpPartHdr.read buf offset).name.take 12 = (ChrpPartHdr.read buf offset).name := by
    rw [ChrpPartHdr.read, slice, List.take_take, Nat.min_self]
  have hkept : (partAt buf offset).kept = !decide ((ChrpPartHdr.read buf offset).name = panicPartName) := by
    rw [Part.kept, partAt, htake]
    exact decide_not
  by_cases hpanic : (ChrpPartHdr.read buf offset).name = panicPartName
  · rw [if_pos hpanic] at h
    exact .inl ⟨by rw [hkept, decide_eq_true hpanic]; rfl, h⟩
  rw [if_neg hpanic] at h
  by_cases hlarge : commonPartLen < partUnits buf offset * 0x10 - 0x10
  · rw [if_pos hlarge] at h
    cases h
  rw [if_neg hlarge] at h
  exact .inr ⟨by rw [hkept, decide_eq_false hpanic]; rfl, by omega, h⟩

lemma readPart_kept (h : offset + 0x10 ≤ buf.length) :
    (readPart buf past offset).kept = (partAt buf offset).kept := by
  have hstored : (readPart buf past offset).stored = partAt buf offset := readPart_stored h
  rw [← hstored, Part.kept, Part.kept, Part.stored, List.take_take, Nat.min_self]

structure Kept (buf : List Byte) (offset : ℕ) (parts disk added : List Part) : Prop where
  layout : Layout buf offset disk
  stored : added.map Part.stored = disk.filter Part.kept
  storable : ∀ part ∈ added, part.Storable
  count : added = [] ∨ parts.length + added.length ≤ maxParts
  fits : offset ≤ buf.length → offset + (added.map Part.size).sum ≤ buf.length

lemma parsePartitions_kept {parts out : List Part} (h : parsePartitions buf past offset parts = some out) :
    ∃ disk added, out = parts ++ added ∧ Kept buf offset parts disk added := by
  -- every partition moves the offset towards the end of the bank
  induction hleft : buf.length - offset using Nat.strong_induction_on generalizing offset parts with
  | _ left ih =>
    rcases parsePartitions_some h with ⟨hshort, rfl⟩ | ⟨hfit, hfree, rfl⟩ | ⟨⟨hfit, hsig, hunits, hinside, hcount⟩, hnext⟩
    · exact ⟨[], [], (List.append_nil _).symm, .short hshort, rfl, fun _ h => absurd h List.not_mem_nil, .inl rfl, id⟩
    · exact ⟨[], [], (List.append_nil _).symm, .free hfit hfree, rfl, fun _ h => absurd h List.not_mem_nil, .inl rfl, id⟩
    rcases hnext with ⟨hskip, hnext⟩ | ⟨hkept, hlarge, hnext⟩
    · obtain ⟨disk, added, hout, hrest⟩ := ih _ (by omega) hnext rfl
      refine ⟨partAt buf offset :: disk, added, hout, .part hfit hsig hunits hinside hrest.layout, ?_, hrest.storable,
        hrest.count, fun _ => ?_⟩
      · rw [hrest.stored, List.filter_cons_of_neg (by rw [hskip]; decide)]
      · have := hrest.fits hinside
        omega
    · obtain ⟨disk, added, hout, hrest⟩ := ih _ (by omega) hnext rfl
      have hdata : (readPart buf past offset).data.length = partUnits buf offset * 0x10 - 0x10 :=
        length_readPart_data hinside
      refine ⟨partAt buf offset :: disk, readPart buf past offset :: added, ?_,
        .part hfit hsig hunits hinside hrest.layout, ?_, ?_, ?_, fun _ => ?_⟩
      · rw [hout, List.append_assoc, List.singleton_append]
      · rw [List.map_cons, readPart_stored hfit, hrest.stored, List.filter_cons_of_pos hkept]
      · intro part hpart
        rcases List.mem_cons.mp hpart with rfl | hpart
        · exact ⟨by omega, by omega, hsig, (readPart_kept hfit).trans hkept, length_readPart_name⟩
        · exact hrest.storable part hpart
      · have := hrest.count
        simp only [List.length_append, List.length_cons, List.length_nil] at this ⊢
        right
        rcases this with rfl | h
        · simp only [List.length_nil]
          omega
        · omega
      · have := hrest.fits hinside
        rw [List.map_cons, List.sum_cons, Part.size]
        omega

end

lemma storeOf_parts (buf : List Byte) (parts : List Part) : (storeOf buf parts).parts = parts := rfl

lemma parseBank_accepted {m n : NvramV1} {buf past : List Byte} (h : parseBank m buf past = (true, n)) :
    ∃ parts, 0x20 ≤ buf.length ∧ parsePartitions buf past 0x20 [] = some parts ∧
      ((parts.find? Part.isCommon = none ∧ n = fresh) ∨
        ∃ part, parts.find? Part.isCommon = some part ∧
          loadEnvFromCommon (storeOf buf parts) part = (true, n)) := by
  rw [parseBank] at h
  dsimp only at h
  by_cases hshort : buf.length < 0x20
  · rw [if_pos hshort] at h
    cases h
  rw [if_neg hshort] at h
  by_cases hsum : (ChrpPartHdr.read buf 0).checksum ≠ chrpChecksum (ChrpPartHdr.read buf 0)
  · rw [if_pos hsum] at h
    cases h
  rw [if_neg hsum] at h
  by_cases hadler : adler32 1#32 (buf.drop 0x14) ≠ (loadLe buf 0x10 4).truncate 32
  · rw [if_pos hadler] at h
    cases h
  rw [if_neg hadler] at h
  cases hparts : parsePartitions buf past 0x20 [] with
  | none =>
    rw [hparts] at h
    cases h
  | some parts =>
    rw [hparts] at h
    dsimp only at h
    refine ⟨parts, by omega, rfl, ?_⟩
    cases hfind : parts.find? Part.isCommon with
    | none =>
      rw [storeOf_parts, hfind] at h
      exact .inl ⟨rfl, (Prod.mk.inj h).2.symm⟩
    | some part =>
      rw [storeOf_parts, hfind] at h
      dsimp only at h
      refine .inr ⟨part, rfl, ?_⟩
      rcases hload : loadEnvFromCommon (storeOf buf parts) part with ⟨code, loaded⟩
      rw [hload] at h
      cases code with
      | false => cases h
      | true => exact h

end Nextcore.Nvram
