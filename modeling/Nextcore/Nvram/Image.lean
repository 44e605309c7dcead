import Nextcore.Nvram.Layout

/-! The bank image that the writer prepares, and the partitions that the parser
finds in it. -/

namespace Nextcore.Nvram

open Bytes

section Header

variable {hdr : ChrpPartHdr} {pre suf : List Byte}

lemma be16ToHost_hostToBe16 (v : U32) : be16ToHost (hostToBe16 v) = v &&& 0xffff#32 := by
  apply BitVec.eq_of_getLsbD_eq
  intro i hi
  simp only [be16ToHost, hostToBe16, BitVec.truncate_eq_setWidth, BitVec.getLsbD_setWidth, BitVec.getLsbD_or,
    BitVec.getLsbD_and, BitVec.getLsbD_ushiftRight, BitVec.getLsbD_shiftLeft]
  interval_cases i <;> simp

lemma units_read {units : ℕ} (h : units < 65536) : (be16ToHost (hostToBe16 units)).toNat = units := by
  rw [be16ToHost_hostToBe16, BitVec.toNat_and]
  change (units % 2 ^ 32) &&& (2 ^ 16 - 1) = units
  rw [Nat.and_two_pow_sub_one_eq_mod]
  omega

lemma length_bytes (h : hdr.name.length = 12) : hdr.bytes.length = 16 := by
  simp only [ChrpPartHdr.bytes, List.length_append, List.length_cons, List.length_nil, length_leBytes, h]

lemma read_bytes (h : hdr.name.length = 12) (pre suf : List Byte) :
    ChrpPartHdr.read (pre ++ hdr.bytes ++ suf) pre.length = hdr := by
  have hsign : (pre ++ hdr.bytes ++ suf).getD pre.length 0#8 = hdr.signature := by
    simp [List.getD, ChrpPartHdr.bytes]
  have hsum : (pre ++ hdr.bytes ++ suf).getD (pre.length + 1) 0#8 = hdr.checksum := by
    simp [List.getD, ChrpPartHdr.bytes]
  have hlen : slice (pre ++ hdr.bytes ++ suf) (pre.length + 2) 2 = leBytes (hdr.len.setWidth 64) 2 := by
    have hsplit : pre ++ hdr.bytes ++ suf = (pre ++ [hdr.signature, hdr.checksum]) ++
        leBytes (hdr.len.setWidth 64) 2 ++ (hdr.name ++ suf) := by simp [ChrpPartHdr.bytes]
    rw [hsplit]
    exact slice_append (by simp) (length_leBytes _ 2).symm
  have hname : slice (pre ++ hdr.bytes ++ suf) (pre.length + 4) 12 = hdr.name := by
    have hsplit : pre ++ hdr.bytes ++ suf = (pre ++ ([hdr.signature, hdr.checksum] ++
        leBytes (hdr.len.setWidth 64) 2)) ++ hdr.name ++ suf := by simp [ChrpPartHdr.bytes]
    rw [hsplit]
    exact slice_append (by simp [length_leBytes]) h.symm
  rw [ChrpPartHdr.read, hsign, hsum, hname, loadLe, hlen, BitVec.truncate_eq_setWidth,
    leValue_leBytes (by decide) (by decide)]

lemma checked_checksum (hdr : ChrpPartHdr) : hdr.checked.checksum = chrpChecksum hdr.checked := rfl

end Header

def Part.disk (part : Part) : List Byte := part.hdr.bytes ++ part.data

def nonEmpty (parts : List Part) : List Part := parts.filter fun part => part.data.length ≠ 0

section Partition

variable {part : Part} {pre suf past : List Byte}

lemma Part.Storable.length_name (h : part.Storable) : part.hdr.name.length = 12 := by
  change (part.name.take 12).length = 12
  rw [List.length_take, h.named]
  rfl

lemma Part.Storable.units (h : part.Storable) : part.units * 0x10 = part.size := by
  have := h.aligned
  rw [Part.units, Part.size]
  omega

lemma Part.Storable.length_disk (h : part.Storable) : part.disk.length = part.size := by
  rw [Part.disk, List.length_append, length_bytes h.length_name, Part.size]

lemma Part.Storable.read (h : part.Storable) : ChrpPartHdr.read (pre ++ part.disk ++ suf) pre.length = part.hdr := by
  have hsplit : pre ++ part.disk ++ suf = pre ++ part.hdr.bytes ++ (part.data ++ suf) := by simp [Part.disk]
  rw [hsplit, read_bytes h.length_name]

lemma Part.Storable.partUnits (h : part.Storable) : partUnits (pre ++ part.disk ++ suf) pre.length = part.units := by
  have hbounded := h.bounded
  rw [Nvram.partUnits, h.read]
  refine units_read ?_
  rw [Part.units]
  rw [commonPartLen] at hbounded
  omega

lemma Part.Storable.partAt (h : part.Storable) : partAt (pre ++ part.disk ++ suf) pre.length = part.stored := by
  have hdata : slice (pre ++ part.disk ++ suf) (pre.length + 0x10) (part.units * 0x10 - 0x10) = part.data := by
    have hsplit : pre ++ part.disk ++ suf = (pre ++ part.hdr.bytes) ++ part.data ++ suf := by simp [Part.disk]
    have hunits := h.units
    rw [Part.size] at hunits
    rw [hsplit]
    exact slice_append (by rw [List.length_append, length_bytes h.length_name]) (by omega)
  rw [Nvram.partAt, h.read, h.partUnits, hdata]
  rfl

lemma parsePartitions_disk (h : part.Storable) {parts : List Part} (hcount : parts.length < maxParts) :
    parsePartitions (pre ++ part.disk ++ suf) past pre.length parts =
      parsePartitions (pre ++ part.disk ++ suf) past (pre ++ part.disk).length
        (parts ++ [readPart (pre ++ part.disk ++ suf) past pre.length]) := by
  have hunits := h.units
  have hsize : part.size = 0x10 + part.data.length := rfl
  have hlength : (pre ++ part.disk ++ suf).length = pre.length + part.size + suf.length := by
    rw [List.length_append, List.length_append, h.length_disk]
  have hsum : part.hdr.checksum = chrpChecksum part.hdr := checked_checksum _
  have hsig : part.hdr.signature ≠ chrpPartFree := h.used
  have hkept : part.hdr.name ≠ panicPartName := of_decide_eq_true h.kept
  have hbounded := h.bounded
  rw [parsePartitions]
  dsimp only
  rw [if_neg (by omega), h.read, if_neg (not_not_intro hsum), if_neg hsig, dif_neg (by rw [h.partUnits]; omega),
    if_neg (by omega), if_neg hkept, if_neg (by rw [h.partUnits]; omega), h.partUnits, hunits, List.length_append,
    h.length_disk]

end Partition

def Ends (tail : List Byte) : Prop := tail.length < 0x10 ∨ ∃ units rest, tail = (freeHdr units).bytes ++ rest

lemma parsePartitions_end {pre tail past : List Byte} {parts : List Part} (h : Ends tail) :
    parsePartitions (pre ++ tail) past pre.length parts = some parts := by
  rw [parsePartitions]
  dsimp only
  rcases h with hshort | ⟨units, rest, rfl⟩
  · rw [if_pos (by rw [List.length_append]; omega)]
  · have hname : (freeHdr units).name.length = 12 := rfl
    have hsum : (freeHdr units).checksum = chrpChecksum (freeHdr units) := checked_checksum _
    have hfree : (freeHdr units).signature = chrpPartFree := rfl
    have hread := read_bytes hname pre rest
    rw [List.append_assoc] at hread
    rw [if_neg (by rw [List.length_append, List.length_append, length_bytes hname]; omega), hread,
      if_neg (not_not_intro hsum), if_pos hfree]

lemma parsePartitions_disks {tail : List Byte} (htail : Ends tail) (past pre : List Byte) (before : List Part)
    {parts : List Part} (hparts : ∀ part ∈ parts, part.Storable) (hcount : before.length + parts.length ≤ maxParts) :
    ∃ added, parsePartitions (pre ++ parts.flatMap Part.disk ++ tail) past pre.length before = some (before ++ added) ∧
      added.map Part.stored = parts.map Part.stored := by
  induction parts generalizing pre before with
  | nil =>
    refine ⟨[], ?_, rfl⟩
    rw [List.flatMap_nil, List.append_nil, List.append_nil]
    exact parsePartitions_end htail
  | cons part parts ih =>
    rw [List.length_cons] at hcount
    have hpart := hparts part List.mem_cons_self
    have hsplit : pre ++ (part :: parts).flatMap Part.disk ++ tail =
        pre ++ part.disk ++ (parts.flatMap Part.disk ++ tail) := by
      rw [List.flatMap_cons, List.append_assoc, List.append_assoc, List.append_assoc]
    obtain ⟨added, hadded, hstored⟩ := ih (pre ++ part.disk)
      (before ++ [readPart (pre ++ part.disk ++ (parts.flatMap Part.disk ++ tail)) past pre.length])
      (fun p hp => hparts p (List.mem_cons_of_mem _ hp)) (by rw [List.length_append, List.length_singleton]; omega)
    rw [hsplit, parsePartitions_disk hpart (by omega)]
    rw [List.append_assoc (pre ++ part.disk)] at hadded
    refine ⟨_, hadded.trans (by rw [List.append_assoc, List.singleton_append]), ?_⟩
    have hfit : pre.length + 0x10 ≤ (pre ++ part.disk ++ (parts.flatMap Part.disk ++ tail)).length := by
      rw [List.length_append, List.length_append, hpart.length_disk, Part.size]
      omega
    rw [List.map_cons, List.map_cons, hstored, readPart_stored hfit, hpart.partAt]

def disks (parts : List Part) : List Byte := (nonEmpty parts).flatMap Part.disk

section Writer

variable {parts : List Part}

lemma disks_cons_empty {part : Part} (h : part.data.length = 0) (parts : List Part) :
    disks (part :: parts) = disks parts := by
  rw [disks, nonEmpty, List.filter_cons_of_neg (by simpa using h)]
  rfl

lemma disks_cons {part : Part} (h : part.data.length ≠ 0) (parts : List Part) :
    disks (part :: parts) = part.disk ++ disks parts := by
  rw [disks, nonEmpty, List.filter_cons_of_pos (by simpa using h)]
  rfl

lemma prepareParts_disks (parts : List Part) (hparts : ∀ part ∈ parts, part.Storable) (pre : List Byte) (room : ℕ) :
    prepareParts (pre ++ List.replicate room nul) pre.length parts =
      if (disks parts).length ≤ room then
        some (pre ++ disks parts ++ List.replicate (room - (disks parts).length) nul,
          pre.length + (disks parts).length)
      else none := by
  induction parts generalizing pre room with
  | nil =>
    have hnone : disks [] = [] := rfl
    rw [prepareParts, hnone, List.length_nil, if_pos (Nat.zero_le _), List.append_nil, Nat.sub_zero, Nat.add_zero]
  | cons part parts ih =>
    have hrest := fun p hp => hparts p (List.mem_cons_of_mem part hp)
    by_cases hempty : part.data.length = 0
    · rw [prepareParts, if_pos hempty, disks_cons_empty hempty, ih hrest]
    have hpart := hparts part List.mem_cons_self
    have hunits := hpart.units
    have hdisk := hpart.length_disk
    have hsize : part.size = 0x10 + part.data.length := rfl
    have hlength : (pre ++ List.replicate room nul).length = pre.length + room := by
      rw [List.length_append, List.length_replicate]
    have hdisks : (part.disk ++ disks parts).length = part.size + (disks parts).length := by
      rw [List.length_append, hdisk]
    rw [prepareParts, if_neg hempty, disks_cons hempty, hdisks, hlength, hunits]
    by_cases hfit : part.size ≤ room
    · have hhdr : part.hdr.bytes.length = 16 := length_bytes hpart.length_name
      have hwritten : blit (blit (pre ++ List.replicate room nul) pre.length part.hdr.bytes) (pre.length + 0x10)
          part.data = pre ++ part.disk ++ List.replicate (room - part.size) nul := by
        rw [blit_blank rfl (by omega), blit_blank (by rw [List.length_append, hhdr]) (by omega), Part.disk, hhdr,
          List.append_assoc pre, Nat.sub_sub, hsize]
      have hnext : pre.length + part.size = (pre ++ part.disk).length := by rw [List.length_append, hdisk]
      rw [if_neg (by omega)]
      dsimp only
      rw [if_neg (by omega), hwritten, hnext, ih hrest, List.length_append, hdisk]
      by_cases hroom : (disks parts).length ≤ room - part.size
      · rw [if_pos hroom, if_pos (by omega), List.append_assoc pre, Nat.sub_sub, Nat.add_assoc]
      · rw [if_neg hroom, if_neg (by omega)]
    · rw [if_neg (show ¬part.size + (disks parts).length ≤ room by omega)]
      by_cases hhdr : pre.length + room < pre.length + 0x10
      · rw [if_pos hhdr]
      · rw [if_neg hhdr]
        dsimp only
        rw [if_pos (by omega)]

end Writer

def bankTail (room : ℕ) : List Byte :=
  if 0x10 ≤ room then (freeHdr (room / 0x10)).bytes ++ List.replicate (room - 0x10) nul
  else List.replicate room nul

lemma bankTail_ends (room : ℕ) : Ends (bankTail room) := by
  rw [bankTail]
  by_cases hroom : 0x10 ≤ room
  · rw [if_pos hroom]
    exact .inr ⟨_, _, rfl⟩
  · rw [if_neg hroom]
    exact .inl (by rw [List.length_replicate]; omega)

def bankBody (generation : U32) (parts : List Part) (tail : List Byte) : List Byte :=
  leBytes (generation.setWidth 64) 4 ++ List.replicate 8 nul ++ parts.flatMap Part.disk ++ tail

def bankSum (generation : U32) (parts : List Part) (tail : List Byte) : List Byte :=
  leBytes ((adler32 1#32 (bankBody generation parts tail)).setWidth 64) 4

def bankImage (generation : U32) (parts : List Part) (tail : List Byte) : List Byte :=
  appleHdr.bytes ++ bankSum generation parts tail ++ bankBody generation parts tail

def NvramV1.image (n : NvramV1) (bankLen : ℕ) : List Byte :=
  bankImage n.generation (nonEmpty n.parts) (bankTail (bankLen - 0x20 - (disks n.parts).length))

lemma length_appleHdr : appleHdr.bytes.length = 16 := length_bytes rfl

lemma length_bankSum (generation : U32) (parts : List Part) (tail : List Byte) :
    (bankSum generation parts tail).length = 4 := length_leBytes _ 4

lemma length_bankImage (generation : U32) (parts : List Part) (tail : List Byte) :
    (bankImage generation parts tail).length = 0x20 + (parts.flatMap Part.disk).length + tail.length := by
  simp only [bankImage, bankBody, List.length_append, length_appleHdr, length_bankSum, length_leBytes,
    List.length_replicate]
  omega

lemma length_image {n : NvramV1} {bankLen : ℕ} (h : 0x20 + (disks n.parts).length ≤ bankLen) :
    (n.image bankLen).length = bankLen := by
  have htail : (bankTail (bankLen - 0x20 - (disks n.parts).length)).length =
      bankLen - 0x20 - (disks n.parts).length := by
    rw [bankTail]
    split
    · rw [List.length_append, length_bytes rfl, List.length_replicate]
      omega
    · rw [List.length_replicate]
  rw [NvramV1.image, length_bankImage, htail]
  change 0x20 + (disks n.parts).length + _ = bankLen
  omega

def bankHead (n : NvramV1) : List Byte :=
  appleHdr.bytes ++ List.replicate 4 nul ++ leBytes (n.generation.setWidth 64) 4 ++ List.replicate 8 nul

lemma length_bankHead (n : NvramV1) : (bankHead n).length = 0x20 := by
  simp only [bankHead, List.length_append, length_appleHdr, length_leBytes, List.length_replicate]

lemma blit_bankHead (n : NvramV1) {bankLen : ℕ} (h : 0x40 ≤ bankLen) :
    blit (blit (List.replicate bankLen nul) 0 appleHdr.bytes) 0x14 (leBytes (n.generation.setWidth 64) 4) =
      bankHead n ++ List.replicate (bankLen - 0x20) nul := by
  have hgeneration : (leBytes (n.generation.setWidth 64) 4).length = 4 := length_leBytes _ 4
  have hfirst : blit (List.replicate bankLen nul) 0 appleHdr.bytes =
      appleHdr.bytes ++ List.replicate (bankLen - 16) nul :=
    (blit_blank (a := []) rfl (by rw [length_appleHdr]; omega) nul).trans (by rw [length_appleHdr, List.nil_append])
  have hsum : List.replicate (bankLen - 16) nul = List.replicate 4 nul ++ List.replicate (bankLen - 20) nul := by
    rw [List.replicate_append_replicate]
    congr 1
    omega
  have hpadding : List.replicate (bankLen - 24) nul = List.replicate 8 nul ++ List.replicate (bankLen - 0x20) nul := by
    rw [List.replicate_append_replicate]
    congr 1
    omega
  rw [hfirst, hsum, ← List.append_assoc, blit_blank (by rw [List.length_append, length_appleHdr]; rfl) (by omega),
    hgeneration, Nat.sub_sub, hpadding, ← List.append_assoc, bankHead]

lemma blit_bankTail (n : NvramV1) {bankLen : ℕ} (h : 0x20 + (disks n.parts).length ≤ bankLen) :
    (if 0x20 + (disks n.parts).length + 0x10 ≤ bankLen then
      blit (bankHead n ++ disks n.parts ++ List.replicate (bankLen - 0x20 - (disks n.parts).length) nul)
        (0x20 + (disks n.parts).length) (freeHdr ((bankLen - (0x20 + (disks n.parts).length)) / 0x10)).bytes
    else bankHead n ++ disks n.parts ++ List.replicate (bankLen - 0x20 - (disks n.parts).length) nul) =
      appleHdr.bytes ++ List.replicate 4 nul ++ bankBody n.generation (nonEmpty n.parts)
        (bankTail (bankLen - 0x20 - (disks n.parts).length)) := by
  have hdisks : (nonEmpty n.parts).flatMap Part.disk = disks n.parts := rfl
  rw [bankBody, hdisks, bankTail, ← Nat.sub_sub]
  by_cases hfree : 0x20 + (disks n.parts).length + 0x10 ≤ bankLen
  · rw [if_pos hfree, if_pos (by omega), blit_blank (by rw [List.length_append, length_bankHead])
      (by rw [length_bytes rfl]; omega), length_bytes rfl]
    simp only [bankHead, List.append_assoc]
  · rw [if_neg hfree, if_neg (by omega)]
    simp only [bankHead, List.append_assoc]

lemma prepareBank_eq {n : NvramV1} (hparts : ∀ part ∈ n.parts, part.Storable) (bankLen : ℕ) :
    prepareBank n bankLen =
      if 0x40 ≤ bankLen ∧ 0x20 + (disks n.parts).length ≤ bankLen then some (n.image bankLen) else none := by
  rw [prepareBank]
  by_cases hshort : bankLen < 0x40
  · rw [if_pos hshort, if_neg (by omega)]
  have hloop := prepareParts_disks n.parts hparts (bankHead n) (bankLen - 0x20)
  rw [length_bankHead] at hloop
  rw [if_neg hshort]
  dsimp only
  rw [blit_bankHead n (by omega), hloop]
  by_cases hfit : (disks n.parts).length ≤ bankLen - 0x20
  · have hdrop : ∀ body : List Byte, (appleHdr.bytes ++ List.replicate 4 nul ++ body).drop 0x14 = body := fun body =>
      List.drop_left' (by rw [List.length_append, length_appleHdr, List.length_replicate])
    rw [if_pos hfit, if_pos (by omega)]
    dsimp only
    rw [blit_bankTail n (by omega), hdrop, blit_append length_appleHdr.symm (length_leBytes _ 4)]
    rfl
  · rw [if_neg hfit, if_neg (by omega)]

lemma parseBank_image {parts : List Part} (hparts : ∀ part ∈ parts, part.Storable) (hcount : parts.length ≤ maxParts)
    {tail : List Byte} (htail : Ends tail) (generation : U32) (m : NvramV1) (past : List Byte) :
    ∃ found, found.map Part.stored = parts.map Part.stored ∧
      ∀ part r, found.find? Part.isCommon = some part →
        loadEnvFromCommon ⟨[], found, (bankImage generation parts tail).length, generation⟩ part = (true, r) →
          parseBank m (bankImage generation parts tail) past = (true, r) := by
  have hlength := length_bankImage generation parts tail
  have hread : ChrpPartHdr.read (bankImage generation parts tail) 0 = appleHdr := by
    have h := @read_bytes appleHdr rfl [] (bankSum generation parts tail ++ bankBody generation parts tail)
    rw [List.nil_append, ← List.append_assoc] at h
    exact h
  have hsum : appleHdr.checksum = chrpChecksum appleHdr := checked_checksum _
  have hdrop : (bankImage generation parts tail).drop 0x14 = bankBody generation parts tail :=
    List.drop_left' (by rw [List.length_append, length_appleHdr, length_bankSum])
  have hadler : (loadLe (bankImage generation parts tail) 0x10 4).truncate 32 =
      adler32 1#32 (bankBody generation parts tail) := by
    rw [loadLe, bankImage, slice_append length_appleHdr.symm (length_bankSum _ _ _).symm, bankSum,
      BitVec.truncate_eq_setWidth, leValue_leBytes (by decide) (by decide)]
  have hgeneration : (loadLe (bankImage generation parts tail) 0x14 4).truncate 32 = generation := by
    have hsplit : bankImage generation parts tail = appleHdr.bytes ++ bankSum generation parts tail ++
        leBytes (generation.setWidth 64) 4 ++ (List.replicate 8 nul ++ parts.flatMap Part.disk ++ tail) := by
      simp only [bankImage, bankBody, List.append_assoc]
    rw [loadLe, hsplit, slice_append (by rw [List.length_append, length_appleHdr, length_bankSum])
      (length_leBytes _ 4).symm, BitVec.truncate_eq_setWidth, leValue_leBytes (by decide) (by decide)]
  have hsplit : bankImage generation parts tail = (appleHdr.bytes ++ bankSum generation parts tail ++
      leBytes (generation.setWidth 64) 4 ++ List.replicate 8 nul) ++ parts.flatMap Part.disk ++ tail := by
    simp only [bankImage, bankBody, List.append_assoc]
  have hpre : (appleHdr.bytes ++ bankSum generation parts tail ++ leBytes (generation.setWidth 64) 4 ++
      List.replicate 8 nul).length = 0x20 := by
    simp only [List.length_append, length_appleHdr, length_bankSum, length_leBytes, List.length_replicate]
  obtain ⟨found, hparse, hstored⟩ := parsePartitions_disks htail past (appleHdr.bytes ++ bankSum generation parts tail ++
    leBytes (generation.setWidth 64) 4 ++ List.replicate 8 nul) [] hparts
    (by rw [List.length_nil, Nat.zero_add]; exact hcount)
  rw [← hsplit, hpre, List.nil_append] at hparse
  refine ⟨found, hstored, fun part r hfind hload => ?_⟩
  have hstore : storeOf (bankImage generation parts tail) found =
      ⟨[], found, (bankImage generation parts tail).length, generation⟩ := by
    rw [storeOf, hgeneration, zeroed]
  rw [parseBank]
  dsimp only
  rw [if_neg (by omega), hread, if_neg (not_not_intro hsum), hdrop, hadler, if_neg (not_not_intro rfl), hparse]
  dsimp only
  rw [storeOf_parts, hfind, hstore]
  dsimp only
  rw [hload]

end Nextcore.Nvram
