import Nextcore.Service.Held

/-! The one-translation path of an aligned scalar and the byte-by-byte path:
in every held state they give the same reply, RAM, walker and read count. -/

namespace Nextcore.Service

open Mmu Mmu.VfMmu Abi Abi.V2 Bytes

namespace MemoryServiceV2

def executeBytes (s : MemoryServiceV2) (r : Request) (reads : U64) : Reply × MemoryServiceV2 × U64 :=
  match s.refusal r with
  | some out => (out, s, reads)
  | none => s.bytePath r reads

def byteOf (r : Request) (t : Translation) (k : ℕ) : Translation :=
  if r.operation = opFetch then t else { t with pa := t.pa + BitVec.ofNat 64 k }

def spanPlaces (s : MemoryServiceV2) (r : Request) (t : Translation) :
    (remaining byte : ℕ) → Except Reply (List (Bool × ℕ))
  | 0, _ => .ok []
  | remaining + 1, byte =>
    match s.locate r byte (byteOf r t byte) with
    | .error out => .error out
    | .ok place =>
      match s.spanPlaces r t remaining (byte + 1) with
      | .error out => .error out
      | .ok places => .ok (place :: places)

def spanAnswer (s : MemoryServiceV2) (r : Request) (t : Translation) (bytes : ℕ) : Reply × List Byte :=
  match s.spanPlaces r t bytes 0 with
  | .error out => (out, s.ram)
  | .ok places => s.transfer r places

lemma saturatingAdd_zero (reads : U64) : saturatingAdd reads 0 = reads := by
  have hlt := reads.isLt
  rw [saturatingAdd, if_pos (by omega)]
  exact BitVec.add_zero reads

lemma translate_eq (s : MemoryServiceV2) (va : U64) (r : Request) (reads : U64) :
    s.translate va r reads =
      ((s.mmu.translateDetailed va (requestAccess r) (requestEl r) (tableReader s.tables s.tableBase)).1,
        { s with mmu := (s.mmu.translateDetailed va (requestAccess r) (requestEl r)
          (tableReader s.tables s.tableBase)).2 },
        saturatingAdd reads (s.mmu.translateReads va (requestAccess r) (requestEl r)
          (tableReader s.tables s.tableBase))) := rfl

structure Spans (s : MemoryServiceV2) (r : Request) (t : Translation) (bytes : ℕ) : Prop where
  place : ∀ k < bytes, ∀ reads, s.placeByte r k reads = (s.locate r k (byteOf r t k), s, reads)

lemma requestAccess_execute {r : Request} : requestAccess r = .execute ↔ r.operation = opFetch := by
  unfold requestAccess
  constructor
  · intro h
    split at h
    · assumption
    · split at h <;> cases h
  · intro h
    rw [if_pos h]

lemma translate_spans {s s' : MemoryServiceV2} (hs : s.Wired) {r : Request} {reads reads' : U64}
    {t : Translation} {bytes : ℕ} (hpage : r.address.toNat % 2 ^ 12 + bytes ≤ 2 ^ 12)
    (h : s.translate r.address r reads = (.ok t, s', reads')) : s'.Spans r t bytes := by
  rw [translate_eq] at h
  simp only [Prod.mk.injEq] at h
  obtain ⟨hanswer, rfl, -⟩ := h
  have hcall : s.mmu.translateDetailed r.address (requestAccess r) (requestEl r)
      (tableReader s.tables s.tableBase) = (.ok t, (s.mmu.translateDetailed r.address (requestAccess r)
        (requestEl r) (tableReader s.tables s.tableBase)).2) := Prod.ext hanswer rfl
  constructor
  intro k hk reads
  rw [placeByte, translate_eq, byteOf, query]
  by_cases hfetch : r.operation = opFetch
  · obtain ⟨hagain, hcount⟩ := translate_again hs.configured hs.coherent hcall (k := 0) (by omega) (fun _ => rfl)
    rw [BitVec.add_zero] at hagain hcount
    simp only [hfetch, if_true, hagain, hcount, saturatingAdd_zero, BitVec.add_zero]
  · obtain ⟨hagain, hcount⟩ := translate_again hs.configured hs.coherent hcall (k := k) (by omega)
      (fun hx => (hfetch (requestAccess_execute.mp hx)).elim)
    simp only [hfetch, if_false, hagain, hcount, saturatingAdd_zero]

lemma Spans.placeBytes {s : MemoryServiceV2} {r : Request} {t : Translation} {bytes : ℕ}
    (h : s.Spans r t bytes) (remaining byte : ℕ) (hbytes : byte + remaining ≤ bytes) (reads : U64) :
    placeBytes r remaining byte s reads = (s.spanPlaces r t remaining byte, s, reads) := by
  induction remaining generalizing byte with
  | zero => rfl
  | succ remaining ih =>
    rw [MemoryServiceV2.placeBytes, spanPlaces, h.place byte (by omega) reads]
    cases s.locate r byte (byteOf r t byte) with
    | error out => rfl
    | ok place =>
      simp only [ih (byte + 1) (by omega)]
      cases s.spanPlaces r t remaining (byte + 1) <;> rfl

lemma Spans.bytePath {s : MemoryServiceV2} {r : Request} {t : Translation} {bytes : ℕ}
    (h : s.Spans r t bytes) (hbytes : (r.width * r.count).toNat = bytes) (reads : U64) :
    s.bytePath r reads =
      ((s.spanAnswer r t bytes).1, { s with ram := (s.spanAnswer r t bytes).2 }, reads) := by
  rw [MemoryServiceV2.bytePath, hbytes, h.placeBytes bytes 0 (by omega), spanAnswer]
  cases s.spanPlaces r t bytes 0 <;> rfl

lemma query_zero (r : Request) : query r 0 = r.address := by
  unfold query
  split
  · rfl
  · exact BitVec.add_zero _

lemma byteOf_zero (r : Request) (t : Translation) : byteOf r t 0 = t := by
  unfold byteOf
  split
  · rfl
  · rw [BitVec.add_zero]

lemma bytePath_page {s : MemoryServiceV2} (hs : s.Wired) {r : Request} {bytes : ℕ} (hpos : 0 < bytes)
    (hbytes : (r.width * r.count).toNat = bytes)
    (hpage : r.address.toNat % 2 ^ 12 + bytes ≤ 2 ^ 12) (reads : U64) :
    s.bytePath r reads =
      match s.translate r.address r reads with
      | (.error error, s, reads) => (s.failure r r.address error, s, reads)
      | (.ok t, s, reads) =>
        ((s.spanAnswer r t bytes).1, { s with ram := (s.spanAnswer r t bytes).2 }, reads) := by
  obtain ⟨n, rfl⟩ : ∃ n, bytes = n + 1 := ⟨bytes - 1, by omega⟩
  rw [bytePath, hbytes, placeBytes, placeByte, query_zero]
  rcases htranslate : s.translate r.address r reads with ⟨answer, s', reads'⟩
  cases answer with
  | error error => rfl
  | ok t =>
    have hspans := translate_spans hs hpage htranslate
    simp only [spanAnswer, spanPlaces, byteOf_zero]
    cases s'.locate r 0 t with
    | error out => rfl
    | ok place =>
      simp only [hspans.placeBytes n 1 (by omega)]
      cases s'.spanPlaces r t n 1 <;> rfl

lemma locate_plain {s : MemoryServiceV2} {r : Request} {t : Translation} {k : ℕ}
    (h : t.attributes ≠ some normalNc) :
    s.locate r k (byteOf r t k) =
      .error { s.empty unsupported with address := r.address + BitVec.ofNat 64 k } := by
  have hattributes : (byteOf r t k).attributes = t.attributes := by
    unfold byteOf
    split <;> rfl
  rw [locate, hattributes, if_pos h]

lemma locate_byteOf {s : MemoryServiceV2} {r : Request} {t : Translation} {k : ℕ}
    (h : t.attributes = some normalNc) :
    s.locate r k (byteOf r t k) =
      match offset (t.pa + BitVec.ofNat 64 k) 1 s.ramBase s.ram.length with
      | some i => .ok (false, i)
      | none =>
        match offset (t.pa + BitVec.ofNat 64 k) 1 s.tableBase s.tables.length with
        | some i =>
          if r.operation = opStore then
            .error { s.empty unsupported with
              address := r.address + BitVec.ofNat 64 k, outputPa := t.pa + BitVec.ofNat 64 k,
              metadataFlags := hasOutput }
          else .ok (true, i)
        | none =>
          .error { s.empty unavailable with
            address := r.address + BitVec.ofNat 64 k, outputPa := t.pa + BitVec.ofNat 64 k,
            metadataFlags := hasOutput } := by
  have hbyte : (byteOf r t k).attributes = some normalNc ∧
      (if r.operation = opFetch then (byteOf r t k).pa + BitVec.ofNat 64 k else (byteOf r t k).pa) =
        t.pa + BitVec.ofNat 64 k := by
    unfold byteOf
    by_cases hfetch : r.operation = opFetch
    · rw [if_pos hfetch, if_pos hfetch]
      exact ⟨h, rfl⟩
    · rw [if_neg hfetch, if_neg hfetch]
      exact ⟨h, rfl⟩
  rw [← hbyte.2]
  exact if_neg (not_not.mpr hbyte.1)

lemma spanPlaces_run {s : MemoryServiceV2} {r : Request} {t : Translation} (table : Bool) (i : ℕ)
    (remaining byte : ℕ)
    (h : ∀ k, byte ≤ k → k < byte + remaining → s.locate r k (byteOf r t k) = .ok (table, i + k)) :
    s.spanPlaces r t remaining byte = .ok ((List.range' (i + byte) remaining).map (table, ·)) := by
  induction remaining generalizing byte with
  | zero => rfl
  | succ remaining ih =>
    rw [spanPlaces, h byte le_rfl (by omega)]
    simp only [ih (byte + 1) (fun k hk hlt => h k (by omega) (by omega))]
    rw [List.range'_succ, List.map_cons, Nat.add_assoc]

lemma offset_add {address base : U64} {width length i : ℕ} (hend : base.toNat + length < 2 ^ 64)
    (h : offset address width base length = some i) {k : ℕ} (hk : k < width) :
    offset (address + BitVec.ofNat 64 k) 1 base length = some (i + k) := by
  rw [offset_eq_some_iff] at h ⊢
  rw [BitVec.toNat_add, BitVec.toNat_ofNat]
  omega

lemma offset_disjoint {s : MemoryServiceV2} (hs : s.Backed) {address : U64} {width i : ℕ}
    (h : offset address width s.tableBase s.tables.length = some i) {k : ℕ} (hk : k < width) :
    offset (address + BitVec.ofNat 64 k) 1 s.ramBase s.ram.length = none := by
  obtain ⟨hramEnd, htableEnd, hdisjoint⟩ := hs
  rw [offset_eq_some_iff] at h
  rw [offset_eq_none_iff, BitVec.toNat_add, BitVec.toNat_ofNat]
  intro j hj
  omega

end MemoryServiceV2

lemma blit_cons {m : List Byte} {i : ℕ} (hi : i < m.length) (b : Byte) (bs : List Byte) :
    blit (m.set i b) (i + 1) bs = blit m i (b :: bs) := by
  have htake : (m.set i b).take (i + 1) = m.take i ++ [b] := by
    rw [List.take_add_one, List.take_set_of_le le_rfl, List.getElem?_set_self hi]
    rfl
  have hdrop : (m.set i b).drop (i + 1 + bs.length) = m.drop (i + (b :: bs).length) := by
    rw [List.drop_set_of_lt (by omega), List.length_cons, Nat.add_right_comm, Nat.add_assoc]
  rw [blit, blit, htake, hdrop, List.append_assoc (m.take i), List.singleton_append]

lemma storePlaces_run {r : Request} {n byte i : ℕ} (hwidth : byte + n ≤ r.width.toNat) {ram : List Byte}
    (hram : i + n ≤ ram.length) :
    storePlaces r ((List.range' i n).map (false, ·)) byte ram =
      blit ram i (leBytes (r.value0 >>> (8 * byte)) n) := by
  induction n generalizing byte i ram with
  | zero => simp [storePlaces, blit, leBytes]
  | succ n ih =>
    have hlt : byte < r.width.toNat := by omega
    rw [List.range'_succ, List.map_cons, storePlaces, Nat.div_eq_of_lt hlt, Nat.mod_eq_of_lt hlt,
      ih (by omega) (by rw [List.length_set]; omega), leBytes, blit_cons (by omega), if_pos rfl,
      Nat.mul_comm byte 8, ← BitVec.shiftRight_add, Nat.mul_succ]

lemma slice_eq_map {m : List Byte} {i n : ℕ} (h : i + n ≤ m.length) :
    slice m i n = (List.range' i n).map (m.getD · 0) := by
  induction n generalizing i with
  | zero => simp [slice]
  | succ n ih =>
    rw [slice, List.drop_eq_getElem_cons (by omega), List.take_succ_cons, List.range'_succ, List.map_cons,
      List.getD_eq_getElem?_getD, List.getElem?_eq_getElem (by omega), Option.getD_some,
      ← ih (by omega), slice]

def placed (ram tables : List Byte) (place : Bool × ℕ) : Byte :=
  if place.1 then tables.getD place.2 0 else ram.getD place.2 0

def intoElement (values : U64 × U64) (element : ℕ) (value : U64) : U64 × U64 :=
  if element = 0 then (values.1 ||| value, values.2) else (values.1, values.2 ||| value)

lemma intoElement_or (values : U64 × U64) (element : ℕ) (v w : U64) :
    intoElement (intoElement values element v) element w = intoElement values element (v ||| w) := by
  unfold intoElement
  split
  · rw [BitVec.or_assoc]
  · rw [BitVec.or_assoc]

lemma intoElement_zero (values : U64 × U64) (element : ℕ) : intoElement values element 0#64 = values := by
  unfold intoElement
  split
  · rw [BitVec.or_zero]
  · rw [BitVec.or_zero]

lemma loadPlaces_element {r : Request} (ram tables : List Byte) (places : List (Bool × ℕ)) (byte element : ℕ)
    (hlow : element * r.width.toNat ≤ byte)
    (hhigh : byte + places.length ≤ (element + 1) * r.width.toNat) (values : U64 × U64) :
    loadPlaces r ram tables places byte values =
      intoElement values element
        (leValue (places.map (placed ram tables)) <<< (8 * (byte - element * r.width.toNat))) := by
  induction places generalizing byte values with
  | nil => rw [loadPlaces, List.map_nil, leValue, BitVec.zero_shiftLeft, intoElement_zero]
  | cons place places ih =>
    obtain ⟨table, i⟩ := place
    simp only [List.length_cons] at hhigh
    have hdiv : byte / r.width.toNat = element := Nat.div_eq_of_lt_le hlow (by omega)
    have hmod : byte % r.width.toNat = byte - element * r.width.toNat := by
      rw [Nat.mod_eq_sub_div_mul, hdiv]
    have hnext : byte + 1 - element * r.width.toNat = byte - element * r.width.toNat + 1 := by omega
    have hinto : ∀ v : U64, (if element = 0 then (values.1 ||| v, values.2) else (values.1, values.2 ||| v)) =
        intoElement values element v := fun _ => rfl
    have hplaced : (if table then tables.getD i 0 else ram.getD i 0) = placed ram tables (table, i) := rfl
    rw [loadPlaces, hdiv, hmod, hplaced]
    simp only [hinto]
    rw [ih (byte + 1) (by omega) (by omega), intoElement_or, List.map_cons, leValue, BitVec.shiftLeft_or_distrib,
      ← BitVec.shiftLeft_add, hnext, Nat.mul_comm _ 8, Nat.mul_succ, Nat.add_comm 8]

lemma loadPlaces_run {r : Request} {ram tables : List Byte} {table : Bool} {n i : ℕ}
    (hwidth : n ≤ r.width.toNat) (hroom : i + n ≤ (if table then tables else ram).length) :
    loadPlaces r ram tables ((List.range' i n).map (table, ·)) 0 (0#64, 0#64) =
      (leValue (slice (if table then tables else ram) i n), 0#64) := by
  rw [loadPlaces_element ram tables _ 0 0 (by omega) (by simpa using hwidth), slice_eq_map hroom, List.map_map]
  cases table <;> simp [intoElement, placed, Function.comp_def]

namespace MemoryServiceV2

structure Scalar (r : Request) (bytes : ℕ) : Prop where
  span : (r.width * r.count).toNat = bytes
  width : r.width.toNat = bytes
  pos : 0 < bytes
  page : r.address.toNat % 2 ^ 12 + bytes ≤ 2 ^ 12

lemma aligned_page {address : U64} {bytes k : ℕ} (hk : bytes = 2 ^ k) (h12 : k ≤ 12)
    (h : address.toNat % bytes = 0) : address.toNat % 2 ^ 12 + bytes ≤ 2 ^ 12 := by
  obtain ⟨d, hd⟩ := Nat.exists_eq_add_of_le h12
  have hsplit : 2 ^ 12 = bytes * 2 ^ d := by rw [hk, hd, pow_add]
  have hpos : 0 < bytes := by rw [hk]; positivity
  have hmod : address.toNat % 2 ^ 12 % bytes = 0 := by rw [hsplit, Nat.mod_mul_right_mod, h]
  obtain ⟨q, hq⟩ := Nat.dvd_of_mod_eq_zero hmod
  have hlt : bytes * q < bytes * 2 ^ d := by
    rw [← hq, ← hsplit]
    exact Nat.mod_lt _ (by decide)
  have hle := Nat.mul_le_mul_left bytes (Nat.succ_le_of_lt (Nat.lt_of_mul_lt_mul_left hlt))
  rw [Nat.mul_succ, ← hsplit, ← hq] at hle
  exact hle

lemma fastScalar_scalar {r : Request} (h : fastScalar r = true) : ∃ bytes, Scalar r bytes := by
  simp only [fastScalar, decide_eq_true_eq] at h
  obtain ⟨hcount, hwidth | hwidth, haligned⟩ := h
  · rw [hwidth] at haligned
    have hmod := Bits.toNat_and_mask r.address 2 (BitVec.zeroExtend 64 4#32 - 1#64) rfl
    rw [haligned] at hmod
    exact ⟨4, by rw [hwidth, hcount]; rfl, by rw [hwidth]; rfl, by decide, aligned_page (k := 2) rfl (by decide) hmod.symm⟩
  · rw [hwidth] at haligned
    have hmod := Bits.toNat_and_mask r.address 3 (BitVec.zeroExtend 64 8#32 - 1#64) rfl
    rw [haligned] at hmod
    exact ⟨8, by rw [hwidth, hcount]; rfl, by rw [hwidth]; rfl, by decide, aligned_page (k := 3) rfl (by decide) hmod.symm⟩

lemma fastAnswer_span {s : MemoryServiceV2} (hs : s.Backed) {r : Request} {bytes : ℕ} (hr : Scalar r bytes)
    {t : Translation} {answer : Reply × List Byte} (h : s.fastAnswer r t = some answer) :
    s.spanAnswer r t bytes = answer := by
  obtain ⟨hspan, hwidth, hpos, -⟩ := hr
  unfold fastAnswer at h
  dsimp only at h
  rw [hspan] at h
  split at h
  · rename_i hattributes
    cases h
    obtain ⟨n, rfl⟩ : ∃ n, bytes = n + 1 := ⟨bytes - 1, by omega⟩
    rw [spanAnswer, spanPlaces, locate_plain hattributes, BitVec.add_zero]
  rename_i hattributes
  have hattributes := not_not.mp hattributes
  split at h
  · rename_i i hi
    have hroom := (offset_eq_some_iff.mp hi).2
    have hplaces := spanPlaces_run (s := s) (r := r) (t := t) false i bytes 0
      (fun k _ hk => by rw [locate_byteOf hattributes, offset_add hs.ramEnd hi (by omega)])
    rw [spanAnswer, hplaces, Nat.add_zero]
    dsimp only
    unfold transfer
    split at h
    · rename_i hstore
      cases h
      rw [if_pos hstore, storePlaces_run (by omega) hroom]
      rfl
    · rename_i hload
      cases h
      rw [if_neg hload, loadPlaces_run hwidth.ge hroom]
      rfl
  split at h
  · rename_i i hi
    have hroom := (offset_eq_some_iff.mp hi).2
    split at h
    · cases h
    · rename_i hload
      cases h
      have hplaces := spanPlaces_run (s := s) (r := r) (t := t) true i bytes 0
        (fun k _ hk => by
          rw [locate_byteOf hattributes, offset_disjoint hs hi (by omega),
            offset_add hs.tableEnd hi (by omega)]
          simp only [hload, if_false])
      rw [spanAnswer, hplaces, Nat.add_zero]
      dsimp only
      rw [transfer, if_neg hload, loadPlaces_run hwidth.ge hroom]
      rfl
  · cases h

lemma Wired.translate {s s' : MemoryServiceV2} (hs : s.Wired) {r : Request} {va reads reads' : U64}
    {answer : Except TranslationFailure Translation} (h : s.translate va r reads = (answer, s', reads')) :
    s'.Wired := by
  have hf := translate_follows s va r reads
  rw [h] at hf
  exact hs.follows hf

lemma executeCounted_eq {s : MemoryServiceV2} (hs : s.Wired) (r : Request) (reads : U64) :
    s.executeCounted r reads = s.executeBytes r reads := by
  unfold executeCounted executeBytes
  cases s.refusal r with
  | some out => rfl
  | none =>
    dsimp only
    by_cases hfast : fastScalar r = true
    · rw [if_pos hfast]
      obtain ⟨bytes, hr⟩ := fastScalar_scalar hfast
      rw [bytePath_page hs hr.pos hr.span hr.page, fastPath]
      rcases htranslate : s.translate r.address r reads with ⟨answer, s', reads'⟩
      have hs' := hs.translate htranslate
      cases answer with
      | error error => rfl
      | ok t =>
        have hspans := translate_spans hs hr.page htranslate
        dsimp only
        cases hanswer : s'.fastAnswer r t with
        | some answer =>
          rw [fastAnswer_span hs'.backed hr hanswer]
        | none =>
          -- the fall-through translates byte 0 again, and hits
          exact hspans.bytePath hr.span reads'
    · rw [if_neg hfast]

/-- In every state, every request, the qualifying ones included, is answered as the
byte-by-byte path answers it: reply, RAM, walker with its TLB, and table reads. -/
theorem fast_path_equals_byte_path (s : MemoryServiceV2) (hs : s.Held) (r : Request) (reads : U64) :
    s.executeCounted r reads = s.executeBytes r reads :=
  executeCounted_eq hs.wired r reads

open BlockFixture in
theorem fast_path_equals_byte_path_block :
    service.refusal (request opStore 8#32 1#32 0x3008#64 0x1122334455667788#64 0#64) = none ∧
      fastScalar (request opStore 8#32 1#32 0x3008#64 0x1122334455667788#64 0#64) = true ∧
      (service.executeBytes (request opStore 8#32 1#32 0x3008#64 0x1122334455667788#64 0#64) 0#64).1.result = ok ∧
      service.executeCounted (request opStore 8#32 1#32 0x3008#64 0x1122334455667788#64 0#64) 0#64 =
        service.executeBytes (request opStore 8#32 1#32 0x3008#64 0x1122334455667788#64 0#64) 0#64 :=
  ⟨by decide, by decide, by decide, fast_path_equals_byte_path service held_service _ 0#64⟩

end MemoryServiceV2

end Nextcore.Service
