import Nextcore.Lib.Loop
import Nextcore.Lib.Traced
import Nextcore.Nvram.Bank

/-! `vf_nvram_parse_bank` and the parsers it calls a second time, with their accesses to the bank, to the arrays of the store
and to the buffers on the stack collected in order. -/

namespace Nextcore.Nvram

open Bytes Loop Traced

inductive Region where
  | bank (offset size : ℕ)
  | store
  | env
  | parts
  | envName (slot : ℕ)
  | envValue (slot : ℕ)
  | partName (slot : ℕ)
  | partData (slot : ℕ)
  | nameBuf
  | valueBuf
  | literal (size : ℕ)
  deriving DecidableEq

def Region.size : Region → ℕ
  | bank _ size => size
  | store => 1
  | env => maxEnv
  | parts => maxParts
  | envName _ => envNameMax
  | envValue _ => envValueMax
  | partName _ => 16
  | partData _ => commonPartLen
  | nameBuf => envNameMax
  | valueBuf => envValueMax
  | literal size => size

def Region.Lies (bufLen : ℕ) : Region → Prop
  | bank offset size => offset + size ≤ bufLen
  | envName slot => slot < maxEnv
  | envValue slot => slot < maxEnv
  | partName slot => slot < maxParts
  | partData slot => slot < maxParts
  | _ => True

structure Access where
  write : Bool
  region : Region
  start : ℕ
  len : ℕ
  deriving DecidableEq

def Access.InBounds (bufLen : ℕ) (a : Access) : Prop := a.region.Lies bufLen ∧ a.start + a.len ≤ a.region.size

def reads (region : Region) (start len : ℕ) : Traced Access Unit := touch [⟨false, region, start, len⟩]

def writes (region : Region) (start len : ℕ) : Traced Access Unit := touch [⟨true, region, start, len⟩]

def readsEach (region : Region) (start count : ℕ) : Traced Access Unit :=
  touch ((List.range count).map fun i => ⟨false, region, start + i, 1⟩)

def chrpChecksumTraced (buf : List Byte) (offset : ℕ) : Traced Access Byte := do
  reads (.bank offset 0x10) 0 1
  readsEach (.bank offset 0x10) 2 14
  pure (chrpChecksum (ChrpPartHdr.read buf offset))

def adler32Traced (buf : List Byte) : Traced Access U32 := do
  readsEach (.bank 0 buf.length) 0x14 (buf.length - 0x14)
  pure (adler32 1#32 (buf.drop 0x14))

def strcmpLen : List Byte → List Byte → ℕ
  | a :: as, b :: bs => if a ≠ b ∨ a = nul then 1 else 1 + strcmpLen as bs
  | _, _ => 1

def findCommonTraced : ℕ → List Part → Traced Access (Option (ℕ × Part))
  | _, [] => pure none
  | slot, part :: parts => do
    reads (.partName slot) 0 (strcmpLen part.name (common ++ [nul]))
    reads (.literal 7) 0 (strcmpLen part.name (common ++ [nul]))
    if part.isCommon then pure (some (slot, part)) else findCommonTraced (slot + 1) parts

def findEnvTraced (name : CString) : ℕ → List Env → Traced Access (Option ℕ)
  | _, [] => pure none
  | slot, v :: vs => do
    reads (.envName slot) 0 (strcmpLen (v.name.1 ++ [nul]) (name.1 ++ [nul]))
    reads .nameBuf 0 (strcmpLen (v.name.1 ++ [nul]) (name.1 ++ [nul]))
    if v.name = name then pure (some slot) else findEnvTraced name (slot + 1) vs

def copyStrTraced (dst : Region) (dstLen : ℕ) (src : Region) (s : CString) : Traced Access CString := do
  let n := min s.1.length (dstLen - 1)
  reads src 0 (s.1.length + 1)
  reads src 0 n
  writes dst 0 n
  writes dst n 1
  pure (copyStr dstLen s)

def uintReads (value : List Byte) : ℕ :=
  let run := fun (base : U32) (l : List Byte) => (l.takeWhile fun c => digit base c ≠ none).length
  if value[0]? = some 0x30#8 ∧ (value[1]? = some 0x78#8 ∨ value[1]? = some 0x58#8) then 3 + run 16#32 (value.drop 2)
  else 1 + run 10#32 value

def envUnsetTraced (n : NvramV1) (name : CString) : Traced Access NvramV1 := do
  match ← findEnvTraced name 0 n.env with
  | none => pure n
  | some i => do
    reads .env (i + 1) (n.env.length - i - 1)
    writes .env i (n.env.length - i - 1)
    pure { n with env := n.env.eraseIdx i }

def envSetTraced (n : NvramV1) (name value : CString) : Traced Access (Bool × NvramV1) := do
  reads .nameBuf 0 1
  if name.1 = [] then pure (false, n) else do
  reads .nameBuf 0 (name.1.length + 1)
  if envNameMax ≤ name.1.length then pure (false, n) else do
  reads .valueBuf 0 (value.1.length + 1)
  if envValueMax ≤ value.1.length then pure (false, n) else do
  let n ← envUnsetTraced n name
  if maxEnv ≤ n.env.length then pure (false, n) else do
  writes .env n.env.length 1
  let storedName ← copyStrTraced (.envName n.env.length) envNameMax .nameBuf name
  let storedValue ← copyStrTraced (.envValue n.env.length) envValueMax .valueBuf value
  reads .valueBuf 0 (uintReads value.1)
  let v : Env := { name := storedName, value := storedValue, flags := 0#32, parsedUint := parseEnvUint value.1 }
  pure (true, { n with env := n.env ++ [v] })

def scan (region : Region) (stop : Byte → Bool) : ℕ → List Byte → Traced Access ℕ
  | _, [] => pure 0
  | i, b :: bs => do
    reads region i 1
    if stop b then pure 0 else do
      let k ← scan region stop (i + 1) bs
      pure (k + 1)

def loadEnvTraced (slot : ℕ) (n : NvramV1) (cnt : ℕ) (data : List Byte) : Traced Access (Bool × NvramV1) :=
  if data.head? = none then pure (true, n)
  else do
    reads (.partData slot) cnt 1
    if data.head? = some nul then pure (true, n) else do
    let nameLen ← scan (.partData slot) (fun b => b = nul ∨ b = equals) cnt data
    touch (if nameLen < data.length then [⟨false, .partData slot, cnt + nameLen, 1⟩] else [])
    if data[nameLen]? ≠ some equals then pure (false, n) else do
    let rest := data.drop (nameLen + 1)
    let valueLen ← scan (.partData slot) (fun b => b = nul) (cnt + nameLen + 1) rest
    if rest.length ≤ valueLen then pure (false, n) else do
    if envNameMax ≤ nameLen ∨ envValueMax ≤ valueLen then pure (false, n) else do
    reads (.partData slot) cnt nameLen
    writes .nameBuf 0 nameLen
    writes .nameBuf nameLen 1
    reads (.partData slot) (cnt + nameLen + 1) valueLen
    writes .valueBuf 0 valueLen
    writes .valueBuf valueLen 1
    let r ← envSetTraced n (cstr (data.take nameLen)) (cstr (rest.take valueLen))
    if r.1 then loadEnvTraced slot r.2 (cnt + nameLen + valueLen + 2) (rest.drop (valueLen + 1)) else pure (false, r.2)
termination_by data.length
decreasing_by
  simp only [List.length_drop]
  have hne : data ≠ [] := by
    rintro rfl
    simp_all
  have := List.length_pos_iff.mpr hne
  omega

def nameCopy (offset : ℕ) : Access := ⟨false, .bank (offset + 4) 12, 0, 15⟩

def walkTurn (buf past : List Byte) (offset : ℕ) (parts : List Part) :
    Traced Access (Turn (ℕ × List Part) Bool) :=
  if buf.length < offset + 0x10 then pure (.done true (offset, parts))
  else do
    let hdr := ChrpPartHdr.read buf offset
    reads (.bank (offset + 1) 1) 0 1
    let sum ← chrpChecksumTraced buf offset
    if hdr.checksum ≠ sum then pure (.done false (offset, parts)) else do
    reads (.bank offset 1) 0 1
    if hdr.signature = chrpPartFree then pure (.done true (offset, parts)) else do
    reads (.bank (offset + 2) 2) 0 2
    let units := partUnits buf offset
    if units < 1 ∨ buf.length < units * 0x10 + offset then pure (.done false (offset, parts)) else
    if maxParts ≤ parts.length then pure (.done false (offset, parts)) else do
    reads (.bank (offset + 4) 12) 0 12
    reads (.literal 12) 0 12
    if hdr.name = panicPartName then pure (.again (offset + units * 0x10, parts)) else do
    writes .parts parts.length 1
    reads (.bank offset 1) 0 1
    if commonPartLen < units * 0x10 - 0x10 then pure (.done false (offset, parts)) else do
    touch [nameCopy offset]
    writes (.partName parts.length) 0 15
    if buf.length < offset + 0x10 + (units * 0x10 - 0x10) then pure (.done false (offset, parts)) else do
    reads (.bank 0 buf.length) (offset + 0x10) (units * 0x10 - 0x10)
    writes (.partData parts.length) 0 (units * 0x10 - 0x10)
    pure (.again (offset + units * 0x10, parts ++ [readPart buf past offset]))

/-- At most `fuel` turns; `none` is fuel that ran out. -/
def walk (buf past : List Byte) : ℕ → ℕ × List Part → Traced Access (Option (Bool × List Part))
  | 0, _ => pure none
  | fuel + 1, s => do
    match ← walkTurn buf past s.1 s.2 with
    | .again s => walk buf past fuel s
    | .done success s => pure (some (success, s.2))

def initTraced : Traced Access (Bool × NvramV1) := do
  writes .store 0 1
  writes .parts 0 1
  let _ ← copyStrTraced (.partName 0) 16 (.literal 7) (cstr common)
  pure init

def loadTraced (buf : List Byte) : Option (Bool × List Part) → Traced Access (Option (Bool × NvramV1))
  | none => pure none
  | some (false, _) => do
    writes .store 0 1
    pure (some (false, zeroed))
  | some (true, parts) => do
    match ← findCommonTraced 0 parts with
    | none => do
      let r ← initTraced
      pure (some r)
    | some (slot, part) => do
      let r ← loadEnvTraced slot { storeOf buf parts with env := [] } 0 part.data
      if r.1 then pure (some r) else do
        writes .store 0 1
        pure (some (false, zeroed))

def fillTraced (fuel : ℕ) (buf past : List Byte) : Traced Access (Option (Bool × NvramV1)) := do
  writes .store 0 1
  reads (.bank 0x14 4) 0 4
  let outcome ← walk buf past fuel (0x20, [])
  loadTraced buf outcome

def parseBankTraced (fuel : ℕ) (n : NvramV1) (buf past : List Byte) : Traced Access (Option (Bool × NvramV1)) :=
  if buf.length < 0x20 then pure (some (false, n))
  else do
    reads (.bank 1 1) 0 1
    let sum ← chrpChecksumTraced buf 0
    if (ChrpPartHdr.read buf 0).checksum ≠ sum then pure (some (false, n)) else do
    let adler ← adler32Traced buf
    reads (.bank 0x10 4) 0 4
    if adler ≠ (loadLe buf 0x10 4).truncate 32 then pure (some (false, n)) else fillTraced fuel buf past

end Nextcore.Nvram
