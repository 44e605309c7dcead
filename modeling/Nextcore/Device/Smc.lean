import Nextcore.Lib.Bytes

/-! `apple_smc_v1.c`: the key store of the system controller, asked by messages. -/

namespace Nextcore.Device

structure SmcKey where
  key : U32
  size : Byte
  readable : Bool
  writable : Bool
  data : List Byte
  deriving DecidableEq, Repr

structure VfSmc where
  keys : List SmcKey
  sramAddr : U64
  sram : List Byte

structure SmcKeyMsg where
  cmd : Byte
  tag : Byte
  length : Byte
  payloadLength : Byte
  key : U32

/-- `vf_smc_key_resp`; its unknown byte is zero. -/
structure SmcKeyResp where
  status : Byte
  tag : Byte
  length : Byte
  response : List Byte

namespace VfSmc

abbrev sramSize : ℕ := 0x4000
abbrev maxKeys : ℕ := 8
abbrev keyNkey : U32 := 0x234b4559#32
abbrev keyClkh : U32 := 0x434c4b48#32
abbrev keyRgen : U32 := 0x5247454e#32
abbrev keyAdc : U32 := 0x61444323#32
abbrev keyMbse : U32 := 0x4d425345#32
abbrev keyNesn : U32 := 0x4e45534e#32
abbrev cmdReadKey : Byte := 0x10#8
abbrev cmdWriteKey : Byte := 0x11#8
abbrev cmdGetKeyByIndex : Byte := 0x12#8
abbrev cmdGetKeyInfo : Byte := 0x13#8
abbrev cmdGetSramAddr : Byte := 0x17#8
abbrev cmdReadKeyPayload : Byte := 0x20#8
abbrev success : Byte := 0#8
abbrev badCommand : Byte := 0x82#8
abbrev keyNotFound : Byte := 0x84#8
abbrev keyNotReadable : Byte := 0x85#8
abbrev keyNotWritable : Byte := 0x86#8
abbrev keyIndexRange : Byte := 0xb8#8

def zeroData : List Byte := List.replicate 8 0#8

def seedBootKeys : List SmcKey :=
  [⟨keyNkey, 4#8, true, false, zeroData⟩,
    ⟨keyClkh, 8#8, true, false, [0x00#8, 0x00#8, 0x70#8, 0x80#8, 0x00#8, 0x01#8, 0x19#8, 0x40#8]⟩,
    ⟨keyRgen, 1#8, true, false, zeroData.set 0 3#8⟩, ⟨keyAdc, 4#8, true, false, zeroData⟩,
    ⟨keyMbse, 4#8, false, true, zeroData⟩, ⟨keyNesn, 4#8, false, true, zeroData⟩]

def init : VfSmc := ⟨seedBootKeys, 0x100000000#64, List.replicate sramSize 0#8⟩

def findKey (s : VfSmc) (key : U32) : Option ℕ := s.keys.findIdx? fun k => decide (k.key = key)

def beBytes (key : U32) : List Byte := (Bytes.leBytes (key.zeroExtend 64) 4).reverse

def readKeyData (s : VfSmc) (i : ℕ) (k : SmcKey) : Byte × Byte × List Byte × VfSmc :=
  if !k.readable then (keyNotReadable, 0#8, [], s)
  else
    let count := Bytes.leBytes (BitVec.ofNat 64 s.keys.length) 4
    let k := if k.key = keyNkey then { k with data := Bytes.blit k.data 0 count } else k
    let s := { s with keys := s.keys.set i k }
    if k.size.toNat ≤ 4 then (success, k.size, k.data.take k.size.toNat, s)
    else if k.size.toNat ≤ 8 then
      (success, k.size, [], { s with sram := Bytes.blit s.sram 0 (k.data.take k.size.toNat) })
    else (keyNotFound, k.size, [], s)

def readKey (s : VfSmc) (key : U32) (bufLen : ℕ) : Option (List Byte) × VfSmc :=
  match s.findKey key with
  | none => (none, s)
  | some i =>
    match s.keys[i]? with
    | none => (none, s)
    | some k =>
      let r := s.readKeyData i k
      if r.1 ≠ success then (none, r.2.2.2)
      else if bufLen < k.size.toNat then (none, r.2.2.2)
      else if k.size.toNat ≤ 4 then (some r.2.2.1, r.2.2.2)
      else (some (r.2.2.2.sram.take k.size.toNat), r.2.2.2)

def unpackMsg (raw : U64) : SmcKeyMsg :=
  ⟨raw.truncate 8, (raw >>> 8).truncate 8, (raw >>> 16).truncate 8, (raw >>> 24).truncate 8, (raw >>> 32).truncate 32⟩

def packResp (r : SmcKeyResp) : U64 :=
  Bytes.leValue (Bytes.blit (List.replicate 8 0#8) 0 ([r.status, r.tag, r.length, 0#8] ++ r.response))

def answerReadKey (s : VfSmc) (m : SmcKeyMsg) : SmcKeyResp × VfSmc :=
  match s.findKey m.key with
  | none => (⟨keyNotFound, m.tag, 0#8, []⟩, s)
  | some i =>
    match s.keys[i]? with
    | none => (⟨keyNotFound, m.tag, 0#8, []⟩, s)
    | some k =>
      let r := s.readKeyData i k
      (⟨r.1, m.tag, r.2.1, r.2.2.1⟩, r.2.2.2)

def answerGetKeyInfo (s : VfSmc) (m : SmcKeyMsg) : SmcKeyResp × VfSmc :=
  match (s.findKey m.key).bind (s.keys[·]?) with
  | none => (⟨keyNotFound, m.tag, 0#8, []⟩, s)
  | some k =>
    (⟨success, m.tag, 0#8, []⟩, { s with sram := Bytes.blit s.sram 0 (k.size :: beBytes k.key ++ [0x04#8]) })

def answerGetKeyByIndex (s : VfSmc) (m : SmcKeyMsg) : SmcKeyResp :=
  match s.keys[m.key.toNat]? with
  | none => ⟨keyIndexRange, m.tag, 0#8, []⟩
  | some k => ⟨success, m.tag, 0#8, beBytes k.key⟩

def answerWriteKey (s : VfSmc) (m : SmcKeyMsg) : SmcKeyResp × VfSmc :=
  let answer := fun status => (⟨status, m.tag, m.length, []⟩ : SmcKeyResp)
  let written := fun data => Bytes.blit data 0 (s.sram.take m.length.toNat)
  match s.findKey m.key with
  | none =>
    if 8 < m.length.toNat ∨ maxKeys ≤ s.keys.length then (answer keyNotFound, s)
    else (answer success, { s with keys := s.keys ++ [⟨m.key, m.length, true, true, written zeroData⟩] })
  | some i =>
    match s.keys[i]? with
    | none => (answer keyNotFound, s)
    | some k =>
      if !k.writable then (answer keyNotWritable, s)
      else if m.length.toNat ≤ 8 then
        (answer success, { s with keys := s.keys.set i { k with size := m.length, data := written k.data } })
      else (answer keyNotWritable, s)

def handleMsg (s : VfSmc) (msgIn : U64) : U64 × VfSmc :=
  let m := unpackMsg msgIn
  if m.cmd = cmdGetSramAddr then (s.sramAddr, s)
  else
    let r :=
      if m.cmd = cmdReadKey ∨ m.cmd = cmdReadKeyPayload then s.answerReadKey m
      else if m.cmd = cmdGetKeyInfo then s.answerGetKeyInfo m
      else if m.cmd = cmdGetKeyByIndex then (s.answerGetKeyByIndex m, s)
      else if m.cmd = cmdWriteKey then s.answerWriteKey m
      else (⟨badCommand, m.tag, 0#8, []⟩, s)
    (packResp r.1, r.2)

end VfSmc

end Nextcore.Device
