import Nextcore.Nvram.Store

/-! The bank image of the NVRAM store: its headers, the parser and the writer.
Numbers lie in the image as a little-endian host stores them. -/

namespace Nextcore.Nvram

open Bytes

structure ChrpPartHdr where
  signature : Byte
  checksum : Byte
  len : BitVec 16
  name : List Byte
  deriving DecidableEq, Repr

def be16ToHost (v : BitVec 16) : U32 := ((v >>> 8) ||| ((v &&& 0xff#16) <<< 8)).setWidth 32

def hostToBe16 (v : U32) : BitVec 16 := (((v &&& 0xff#32) <<< 8) ||| ((v >>> 8) &&& 0xff#32)).truncate 16

def ChrpPartHdr.bytes (hdr : ChrpPartHdr) : List Byte :=
  [hdr.signature, hdr.checksum] ++ leBytes (hdr.len.setWidth 64) 2 ++ hdr.name

def ChrpPartHdr.read (buf : List Byte) (offset : ℕ) : ChrpPartHdr :=
  { signature := buf.getD offset 0#8
    checksum := buf.getD (offset + 1) 0#8
    len := (loadLe buf (offset + 2) 2).truncate 16
    name := slice buf (offset + 4) 12 }

def chrpChecksum (hdr : ChrpPartHdr) : Byte :=
  let sum := (hdr.bytes.drop 2).foldl (fun sum p =>
    let sum := sum + p.setWidth 32
    (sum + ((sum &&& 0xff00#32) >>> 8)) &&& 0xff#32) (hdr.signature.setWidth 32)
  (sum &&& 0xff#32).truncate 8

def ChrpPartHdr.checked (hdr : ChrpPartHdr) : ChrpPartHdr := { hdr with checksum := chrpChecksum hdr }

def adler32 (adler : U32) (buf : List Byte) : U32 :=
  let sums := buf.foldl (fun (s : U32 × U32) b =>
    let s1 := (s.1 + b.setWidth 32) % 65521#32
    (s1, (s.2 + s1) % 65521#32)) (adler &&& 0xffff#32, (adler >>> 16) &&& 0xffff#32)
  (sums.2 <<< 16) ||| sums.1

def formatEnvEntry (room : ℕ) (v : Env) : Option (List Byte) :=
  let needed := v.name.1.length + 1 + v.value.1.length
  if room ≤ needed then none else some (v.name.1 ++ equals :: v.value.1 ++ [nul])

def envSerialize (buffer : List Byte) (pos : ℕ) : List Env → Option (List Byte)
  | [] => some (if pos < buffer.length then buffer.set pos nul else buffer)
  | v :: vs =>
    match formatEnvEntry (buffer.length - pos) v with
    | none => none
    | some entry => envSerialize (blit buffer pos entry) (pos + entry.length) vs

def Part.units (part : Part) : ℕ := (part.data.length + 0x10 + 0xf) / 0x10

def Part.hdr (part : Part) : ChrpPartHdr :=
  ChrpPartHdr.checked
    { signature := part.sig
      checksum := 0#8
      len := hostToBe16 part.units
      name := part.name.take 12 }

def prepareParts (buf : List Byte) (offset : ℕ) : List Part → Option (List Byte × ℕ)
  | [] => some (buf, offset)
  | part :: parts =>
    if part.data.length = 0 then prepareParts buf offset parts
    else if buf.length < offset + 0x10 then none
    else
      let total := part.units * 0x10
      if buf.length < offset + total then none
      else
        let buf := blit buf offset part.hdr.bytes
        let buf := blit buf (offset + 0x10) part.data
        prepareParts buf (offset + total) parts

def appleHdr : ChrpPartHdr :=
  ChrpPartHdr.checked
    { signature := chrpSig
      checksum := 0#8
      len := hostToBe16 2
      name := ascii ['n', 'v', 'r', 'a', 'm'] ++ List.replicate 7 nul }

def freeHdr (units : ℕ) : ChrpPartHdr :=
  ChrpPartHdr.checked
    { signature := chrpPartFree
      checksum := 0#8
      len := hostToBe16 units
      name := List.replicate 12 nul }

def prepareBank (n : NvramV1) (bankLen : ℕ) : Option (List Byte) :=
  if bankLen < 0x40 then none
  else
    let buf := List.replicate bankLen nul
    let buf := blit buf 0 appleHdr.bytes
    let buf := blit buf 0x14 (leBytes (n.generation.setWidth 64) 4)
    match prepareParts buf 0x20 n.parts with
    | none => none
    | some (buf, offset) =>
      let buf :=
        if offset + 0x10 ≤ bankLen then blit buf offset (freeHdr ((bankLen - offset) / 0x10)).bytes else buf
      some (blit buf 0x10 (leBytes ((adler32 1#32 (buf.drop 0x14)).setWidth 64) 4))

def serialize (n : NvramV1) (bufLen : ℕ) : Option (ℤ × List Byte) :=
  if bufLen = 0 then none
  else
    match ensureCommon n with
    | none => none
    | some (scratch, i) =>
      let bankLen := if scratch.bankLen = 0 ∨ bufLen < scratch.bankLen then bufLen else scratch.bankLen
      match scratch.parts[i]? with
      | none => none
      | some part =>
        match envSerialize part.data 0 scratch.env with
        | none => none
        | some data =>
          let scratch := { scratch with parts := scratch.parts.set i { part with data := data }, bankLen := bankLen }
          (prepareBank scratch bankLen).map fun bank => ((BitVec.ofNat 32 bankLen).toInt, bank)

def loadEnvFrom (n : NvramV1) (data : List Byte) : Bool × NvramV1 :=
  if data.head? = none ∨ data.head? = some nul then (true, n)
  else
    let name := data.takeWhile fun b => b ≠ nul ∧ b ≠ equals
    if data[name.length]? ≠ some equals then (false, n)
    else
      let rest := data.drop (name.length + 1)
      let value := rest.takeWhile (· ≠ nul)
      if rest.length ≤ value.length then (false, n)
      else if envNameMax ≤ name.length ∨ envValueMax ≤ value.length then (false, n)
      else
        match envSet n (cstr name) (cstr value) 0#32 with
        | (false, n) => (false, n)
        | (true, n) => loadEnvFrom n (rest.drop (value.length + 1))
termination_by data.length
decreasing_by
  simp only [List.length_drop]
  have hne : data ≠ [] := by
    rintro rfl
    simp_all
  have := List.length_pos_iff.mpr hne
  omega

def loadEnvFromCommon (n : NvramV1) (part : Part) : Bool × NvramV1 := loadEnvFrom { n with env := [] } part.data

def partUnits (buf : List Byte) (offset : ℕ) : ℕ := (be16ToHost (ChrpPartHdr.read buf offset).len).toNat

/-- The partition that a header announces. `memcpy` of the name reads 15 bytes, the
last three of them after the header, whatever `past` lies behind the buffer. -/
def readPart (buf past : List Byte) (offset : ℕ) : Part :=
  { sig := (ChrpPartHdr.read buf offset).signature
    name := blit (List.replicate 16 nul) 0 (slice (buf ++ past) (offset + 4) 15)
    data := slice buf (offset + 0x10) (partUnits buf offset * 0x10 - 0x10) }

def parsePartitions (buf past : List Byte) (offset : ℕ) (parts : List Part) : Option (List Part) :=
  if buf.length < offset + 0x10 then some parts
  else
    let hdr := ChrpPartHdr.read buf offset
    if hdr.checksum ≠ chrpChecksum hdr then none
    else if hdr.signature = chrpPartFree then some parts
    else if _hunits : partUnits buf offset < 1 ∨ buf.length < partUnits buf offset * 0x10 + offset then none
    else if maxParts ≤ parts.length then none
    else if hdr.name = panicPartName then parsePartitions buf past (offset + partUnits buf offset * 0x10) parts
    else if commonPartLen < partUnits buf offset * 0x10 - 0x10 then none
    else parsePartitions buf past (offset + partUnits buf offset * 0x10) (parts ++ [readPart buf past offset])
termination_by buf.length - offset
decreasing_by all_goals omega

def storeOf (buf : List Byte) (parts : List Part) : NvramV1 :=
  { zeroed with
    parts := parts
    bankLen := buf.length
    generation := (loadLe buf 0x14 4).truncate 32 }

/-- `vf_nvram_parse_bank` of a buffer; `true` is the result 0. -/
def parseBank (n : NvramV1) (buf past : List Byte) : Bool × NvramV1 :=
  if buf.length < 0x20 then (false, n)
  else
    let chrp := ChrpPartHdr.read buf 0
    if chrp.checksum ≠ chrpChecksum chrp then (false, n)
    else if adler32 1#32 (buf.drop 0x14) ≠ (loadLe buf 0x10 4).truncate 32 then (false, n)
    else
      match parsePartitions buf past 0x20 [] with
      | none => (false, zeroed)
      | some parts =>
        let n := storeOf buf parts
        match n.parts.find? Part.isCommon with
        | none => init
        | some part =>
          match loadEnvFromCommon n part with
          | (true, n) => (true, n)
          | (false, _) => (false, zeroed)

end Nextcore.Nvram
