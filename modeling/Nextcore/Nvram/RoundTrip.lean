import Nextcore.Lib.Run
import Nextcore.Nvram.Environment
import Nextcore.Nvram.Image

/-! Saving and loading: the environment that a run has set comes back where its
names are plain, a loaded bank is stable, and what a bank without a common
partition loses. -/

namespace Nextcore.Nvram

lemma isCommon_stored (part : Part) : part.stored.isCommon = part.isCommon := by
  have hname : (cstr (part.name.take 12)).1 = common ↔ (cstr part.name).1 = common := by
    change (part.name.take 12).takeWhile (· ≠ nul) = common ↔ part.name.takeWhile (· ≠ nul) = common
    by_cases hshort : part.name.length ≤ 12
    · rw [List.take_of_length_le hshort]
    -- a name of twelve signs is not the name in question, whatever follows it
    have hlength : (part.name.take 12).length = 12 := by
      rw [List.length_take]
      omega
    have hfull : (List.takeWhile (· ≠ nul) part.name) =
        if ((part.name.take 12).takeWhile (· ≠ nul)).length = (part.name.take 12).length then
          part.name.take 12 ++ (part.name.drop 12).takeWhile (· ≠ nul)
        else (part.name.take 12).takeWhile (· ≠ nul) := by
      rw [← List.takeWhile_append, List.take_append_drop]
    rw [hfull]
    split
    case isTrue hall =>
      rw [hlength] at hall
      constructor
      · intro h
        rw [h] at hall
        exact absurd hall (by decide)
      · intro h
        have := congrArg List.length h
        rw [List.length_append, hlength] at this
        change 12 + _ = 6 at this
        omega
    case isFalse => rfl
  exact decide_eq_decide.mpr hname

lemma find_isCommon_stored (parts : List Part) :
    (parts.map Part.stored).find? Part.isCommon = (parts.find? Part.isCommon).map Part.stored := by
  rw [List.find?_map]
  congr 1
  exact congrArg (List.find? · parts) (funext isCommon_stored)

structure Splits (parts before : List Part) (part : Part) (after : List Part) : Prop where
  eq : parts = before ++ part :: after
  common : part.isCommon = true
  first : ∀ p ∈ before, p.isCommon = false

lemma splits_of_find {parts : List Part} {part : Part} (h : parts.find? Part.isCommon = some part) :
    ∃ before after, Splits parts before part after := by
  obtain ⟨hcommon, before, after, heq, hfirst⟩ := List.find?_eq_some_iff_append.mp h
  exact ⟨before, after, heq, hcommon, fun p hp => by simpa using hfirst p hp⟩

section

variable {parts before after : List Part} {part : Part}

lemma Splits.find (h : Splits parts before part after) : parts.find? Part.isCommon = some part :=
  List.find?_eq_some_iff_append.mpr ⟨h.common, before, after, h.eq, fun p hp => by simp [h.first p hp]⟩

lemma Splits.index (h : Splits parts before part after) : parts.findIdx? Part.isCommon = some before.length := by
  obtain ⟨rfl, hcommon, hfirst⟩ := h
  induction before with
  | nil =>
    rw [List.nil_append, List.findIdx?_cons, if_pos hcommon]
    rfl
  | cons p before ih =>
    rw [List.cons_append, List.findIdx?_cons, if_neg (by rw [hfirst p List.mem_cons_self]; decide),
      ih fun q hq => hfirst q (List.mem_cons_of_mem _ hq)]
    rfl

lemma Splits.set (h : Splits parts before part after) (data : List Byte) :
    Splits (before ++ { part with data := data } :: after) before { part with data := data } after :=
  ⟨rfl, h.common, h.first⟩

lemma Splits.nonEmpty (h : Splits parts before part after) (hdata : part.data.length ≠ 0) :
    Splits (nonEmpty parts) (nonEmpty before) part (nonEmpty after) where
  eq := by
    rw [h.eq, Nvram.nonEmpty, List.filter_append, List.filter_cons_of_pos (by simpa using hdata)]
    rfl
  common := h.common
  first p hp := h.first p (List.mem_of_mem_filter hp)

end

structure Sound (n : NvramV1) : Prop where
  tidy : Tidy n.env
  storable : ∀ part ∈ n.parts, part.Storable
  count : n.parts.length ≤ maxParts

def savedLen (n : NvramV1) (bufLen : ℕ) : ℕ := if n.bankLen = 0 ∨ bufLen < n.bankLen then bufLen else n.bankLen

def NvramV1.withData (n : NvramV1) (before : List Part) (part : Part) (after : List Part) (data : List Byte) : NvramV1 :=
  { n with parts := before ++ { part with data := data } :: after }

section Save

variable {n : NvramV1} {before after : List Part} {part : Part} {data : List Byte} {bufLen : ℕ}

lemma storable_set (h : part.Storable) (hlength : data.length = part.data.length) :
    ({ part with data := data } : Part).Storable :=
  ⟨hlength ▸ h.aligned, hlength ▸ h.bounded, h.used, h.kept, h.named⟩

lemma withData_storable (hsound : Sound n) (hsplit : Splits n.parts before part after)
    (hlength : data.length = part.data.length) : ∀ p ∈ (n.withData before part after data).parts, p.Storable := by
  have hstorable := hsound.storable
  rw [hsplit.eq] at hstorable
  intro p hp
  rcases List.mem_append.mp hp with hp | hp
  · exact hstorable p (List.mem_append_left _ hp)
  rcases List.mem_cons.mp hp with rfl | hp
  · exact storable_set (hstorable part (List.mem_append_right _ List.mem_cons_self)) hlength
  · exact hstorable p (List.mem_append_right _ (List.mem_cons_of_mem _ hp))

lemma serialize_eq (hsound : Sound n) (hsplit : Splits n.parts before part after) (hbuf : bufLen ≠ 0)
    (hdata : envSerialize part.data 0 n.env = some data) :
    serialize n bufLen =
      if 0x40 ≤ savedLen n bufLen ∧ 0x20 + (disks (n.withData before part after data).parts).length ≤ savedLen n bufLen then
        some ((BitVec.ofNat 32 (savedLen n bufLen)).toInt,
          (n.withData before part after data).image (savedLen n bufLen))
      else none := by
  have hcommon : ensureCommon n = some (n, before.length) := by
    rw [ensureCommon, findCommon, hsplit.index]
  have hget : n.parts[before.length]? = some part := by
    rw [hsplit.eq, List.getElem?_append_right le_rfl, Nat.sub_self]
    rfl
  have hset : n.parts.set before.length { part with data := data } = before ++ { part with data := data } :: after := by
    rw [hsplit.eq, List.set_append_right _ _ le_rfl, Nat.sub_self]
    rfl
  have hlength : data.length = part.data.length := by
    obtain ⟨rest, -, hlength, -⟩ := envSerialize_some hdata (Nat.zero_le _)
    exact hlength
  rw [serialize, if_neg hbuf, hcommon]
  dsimp only
  rw [hget]
  dsimp only
  rw [hdata]
  dsimp only
  rw [hset]
  have hprepare : prepareBank { n.withData before part after data with bankLen := savedLen n bufLen }
      (savedLen n bufLen) = _ := prepareBank_eq (withData_storable hsound hsplit hlength) (savedLen n bufLen)
  refine (congrArg (Option.map fun bank => ((BitVec.ofNat 32 (savedLen n bufLen)).toInt, bank)) hprepare).trans ?_
  by_cases hfit : 0x40 ≤ savedLen n bufLen ∧
      0x20 + (disks (n.withData before part after data).parts).length ≤ savedLen n bufLen
  · rw [if_pos hfit, if_pos hfit]
    rfl
  · rw [if_neg hfit, if_neg hfit]
    rfl

lemma serialize_none (hsplit : Splits n.parts before part after) (hdata : envSerialize part.data 0 n.env = none) :
    serialize n bufLen = none := by
  have hcommon : ensureCommon n = some (n, before.length) := by
    rw [ensureCommon, findCommon, hsplit.index]
  have hget : n.parts[before.length]? = some part := by
    rw [hsplit.eq, List.getElem?_append_right le_rfl, Nat.sub_self]
    rfl
  rw [serialize, hcommon]
  dsimp only
  rw [hget]
  dsimp only
  rw [hdata]
  exact ite_self _

structure Reloads (n : NvramV1) (bankLen : ℕ) (parts : List Part) (r : NvramV1) : Prop where
  pairs : r.pairs = n.pairs
  generation : r.generation = n.generation
  bankLen : r.bankLen = bankLen
  parts : r.parts.map Part.stored = (nonEmpty parts).map Part.stored

lemma parseBank_saved (hsound : Sound n) (hplain : Plain n.env) (hsplit : Splits n.parts before part after)
    (hpart : part.data.length ≠ 0) (hdata : envSerialize part.data 0 n.env = some data) {bankLen : ℕ}
    (hfit : 0x20 + (disks (n.withData before part after data).parts).length ≤ bankLen) (m : NvramV1)
    (past : List Byte) :
    ∃ r, parseBank m ((n.withData before part after data).image bankLen) past = (true, r) ∧
      Reloads n bankLen (n.withData before part after data).parts r := by
  obtain ⟨rest, hstream, hlength, hend⟩ := envSerialize_some hdata (Nat.zero_le _)
  have hstorable := withData_storable hsound hsplit hlength
  have hcount : (nonEmpty (n.withData before part after data).parts).length ≤ maxParts := by
    refine (List.length_filter_le _ _).trans (le_trans (le_of_eq ?_) hsound.count)
    rw [hsplit.eq, NvramV1.withData, List.length_append, List.length_append]
    rfl
  have hnonEmpty : ∀ p ∈ nonEmpty (n.withData before part after data).parts, p.Storable :=
    fun p hp => hstorable p (List.mem_of_mem_filter hp)
  obtain ⟨found, hstored, hparse⟩ := parseBank_image hnonEmpty hcount
    (bankTail_ends (bankLen - 0x20 - (disks (n.withData before part after data).parts).length)) n.generation m past
  have hsaved := (hsplit.set data).nonEmpty (by rw [hlength]; exact hpart)
  obtain ⟨env, hfind, hdataEq⟩ : ∃ env, found.find? Part.isCommon = some env ∧ env.data = data := by
    have hmap := congrArg (List.find? Part.isCommon) hstored
    rw [find_isCommon_stored, find_isCommon_stored] at hmap
    change _ = ((nonEmpty (before ++ { part with data := data } :: after)).find? Part.isCommon).map _ at hmap
    rw [hsaved.find, Option.map_some] at hmap
    obtain ⟨env, hfind, henv⟩ := Option.map_eq_some_iff.mp hmap
    exact ⟨env, hfind, congrArg Part.data henv⟩
  rw [List.take_zero, List.nil_append] at hstream
  have hload : loadEnvFromCommon ⟨[], found, ((n.withData before part after data).image bankLen).length, n.generation⟩
      env = (true, ⟨n.env.map Env.loaded, found, bankLen, n.generation⟩) := by
    have hentries : loadEnvFrom ⟨[], found, bankLen, n.generation⟩ (stream n.env ++ rest) = _ :=
      loadEnvFrom_stream hend n.env hsound.tidy hplain
    rw [← hstream] at hentries
    rw [length_image hfit, loadEnvFromCommon, hdataEq]
    exact hentries
  exact ⟨_, hparse env _ hfind hload, List.map_map, rfl, rfl, hstored⟩

end Save

inductive Call
  | init
  | envSet (name value : CString) (flags : U32)
  | envUnset (name : CString)

def call (n : NvramV1) : Call → ℤ × NvramV1
  | .init => (if init.1 then 0 else -1, init.2)
  | .envSet name value flags => (if (envSet n name value flags).1 then 0 else -1, (envSet n name value flags).2)
  | .envUnset name => envUnset n name

structure Started (n : NvramV1) : Prop where
  parts : n.parts = [emptyCommon]
  bankLen : n.bankLen = bankMaxLen
  tidy : Tidy n.env

lemma started_fresh : Started fresh :=
  ⟨rfl, rfl, fun _ h => absurd h List.not_mem_nil, List.nodup_nil, Nat.zero_le _⟩

lemma Started.call {n : NvramV1} (h : Started n) (c : Call) : Started (call n c).2 := by
  cases c with
  | init => exact started_fresh
  | envSet name value flags =>
    change Started (Nvram.envSet n name value flags).2
    have htidy := @envSet_tidy n name value flags h.tidy
    rcases envSet_cases n name value flags with hset | hset | ⟨-, -, -, -, hset⟩
    · rw [hset]
      exact h
    · rw [hset] at htidy ⊢
      rw [envUnset_env] at htidy ⊢
      exact ⟨h.parts, h.bankLen, htidy⟩
    · rw [hset] at htidy ⊢
      exact ⟨h.parts, h.bankLen, htidy⟩
  | envUnset name =>
    change Started (Nvram.envUnset n name).2
    rw [envUnset_env]
    exact ⟨h.parts, h.bankLen, h.tidy.erase⟩

lemma started_run (n : NvramV1) (calls : List Call) : Started (Run.final call n (.init :: calls)) :=
  Run.final_invariant (C := fun _ => True) (fun _ c h _ => h.call c) calls (fun _ _ => trivial) started_fresh

lemma length_emptyCommon : emptyCommon.data.length = commonPartLen := List.length_replicate

lemma emptyCommon_storable : emptyCommon.Storable where
  aligned := by
    rw [length_emptyCommon]
    rfl
  bounded := length_emptyCommon.le
  used := by decide
  kept := by decide
  named := by decide

lemma Started.sound {n : NvramV1} (h : Started n) : Sound n where
  tidy := h.tidy
  storable p hp := by
    rw [h.parts] at hp
    rw [List.mem_singleton.mp hp]
    exact emptyCommon_storable
  count := by
    rw [h.parts]
    decide

lemma Started.splits {n : NvramV1} (h : Started n) : Splits n.parts [] emptyCommon [] :=
  ⟨h.parts, by decide, fun _ hp => absurd hp List.not_mem_nil⟩

lemma accepted_plain {m n : NvramV1} {buf past : List Byte} (h : parseBank m buf past = (true, n)) : Plain n.env := by
  obtain ⟨parts, -, -, hwhich⟩ := parseBank_accepted h
  rcases hwhich with ⟨-, rfl⟩ | ⟨part, -, hload⟩
  · exact fun v hv => absurd hv List.not_mem_nil
  · exact (loadEnvFrom_loads hload).plain fun v hv => absurd hv List.not_mem_nil

lemma reloaded_plain {m n s : NvramV1} {buf past : List Byte} (h : parseBank m buf past = (true, n))
    (hpairs : n.pairs = s.pairs) : Plain s.env := by
  intro v hv
  have hmem : v.pair ∈ n.pairs := hpairs ▸ List.mem_map_of_mem hv
  obtain ⟨w, hw, hpair⟩ := List.mem_map.mp hmem
  have hname : w.name = v.name := congrArg Prod.fst hpair
  rw [← hname]
  exact accepted_plain h w hw

/-- A saved run comes back exactly where no name has the sign in it. -/
theorem env_round_trip (n₀ : NvramV1) (calls : List Call) {bufLen : ℕ} {code : ℤ} {bank : List Byte}
    (h : serialize (Run.final call n₀ (.init :: calls)) bufLen = some (code, bank)) (m : NvramV1) (past : List Byte) :
    (∃ n, parseBank m bank past = (true, n) ∧ n.pairs = (Run.final call n₀ (.init :: calls)).pairs) ↔
      Plain (Run.final call n₀ (.init :: calls)).env := by
  have hstarted := started_run n₀ calls
  generalize Run.final call n₀ (.init :: calls) = s at h hstarted
  refine ⟨fun ⟨n, hparse, hpairs⟩ => reloaded_plain hparse hpairs, fun hplain => ?_⟩
  have hbuf : bufLen ≠ 0 := by
    rintro rfl
    cases h
  cases hdata : envSerialize emptyCommon.data 0 s.env with
  | none =>
    rw [serialize_none hstarted.splits hdata] at h
    cases h
  | some data =>
    rw [serialize_eq hstarted.sound hstarted.splits hbuf hdata] at h
    split at h
    case isFalse => cases h
    case isTrue hfit =>
      obtain ⟨n, hparse, hreload⟩ := parseBank_saved hstarted.sound hplain hstarted.splits
        (by rw [length_emptyCommon]; decide) hdata hfit.2 m past
      rw [← (Prod.mk.inj (Option.some.inj h)).2]
      exact ⟨n, hparse, hreload.pairs⟩

lemma length_disks_le {parts : List Part} (hparts : ∀ part ∈ parts, part.Storable) :
    (disks parts).length ≤ (parts.map Part.size).sum := by
  induction parts with
  | nil => exact Nat.le_refl 0
  | cons part parts ih =>
    have hrest := ih fun p hp => hparts p (List.mem_cons_of_mem _ hp)
    rw [List.map_cons, List.sum_cons]
    by_cases hempty : part.data.length = 0
    · rw [disks_cons_empty hempty]
      omega
    · rw [disks_cons hempty, List.length_append, (hparts part List.mem_cons_self).length_disk]
      omega

lemma Started.saves {n : NvramV1} (h : Started n) (hfit : (stream n.env).length ≤ commonPartLen) :
    ∃ bank, serialize n bankMaxLen = some ((bankMaxLen : ℤ), bank) := by
  obtain ⟨data, hdata⟩ := @envSerialize_fits emptyCommon.data 0 n.env (by rw [length_emptyCommon]; omega)
  obtain ⟨rest, -, hlength, -⟩ := envSerialize_some hdata (Nat.zero_le _)
  have hlen : savedLen n bankMaxLen = bankMaxLen := by
    rw [savedLen, h.bankLen]
    rfl
  have hdisks : (disks (n.withData [] emptyCommon [] data).parts).length ≤ 0x10 + commonPartLen := by
    refine (length_disks_le (withData_storable h.sound h.splits hlength)).trans (le_of_eq ?_)
    change 0x10 + data.length + 0 = 0x10 + commonPartLen
    rw [hlength, length_emptyCommon, Nat.add_zero]
  have hroom : 0x40 ≤ bankMaxLen ∧ 0x20 + (disks (n.withData [] emptyCommon [] data).parts).length ≤ bankMaxLen := by
    rw [commonPartLen] at hdisks
    rw [bankMaxLen]
    omega
  refine ⟨(n.withData [] emptyCommon [] data).image bankMaxLen, ?_⟩
  rw [serialize_eq h.sound h.splits (by decide) hdata, hlen, if_pos hroom]
  rfl

def boot : List Call := [.envSet (cstr (ascii ['b', 'o', 'o', 't'])) (cstr (ascii ['-', 'v', '=', '1'])) 0#32]

theorem env_round_trip_boot : ∃ code bank, serialize (Run.final call zeroed (.init :: boot)) bankMaxLen = some (code, bank) ∧
    ∃ n, parseBank zeroed bank [] = (true, n) ∧ n.pairs = (Run.final call zeroed (.init :: boot)).pairs := by
  obtain ⟨bank, hbank⟩ := (started_run zeroed boot).saves (by decide)
  exact ⟨_, bank, hbank, (env_round_trip zeroed boot hbank zeroed []).mpr (by decide)⟩

/-- A name that ends with the sign does not come back. -/
theorem env_round_trip_equals : ¬ ∀ (n₀ : NvramV1) (calls : List Call) (bufLen : ℕ) (code : ℤ) (bank : List Byte),
    serialize (Run.final call n₀ (.init :: calls)) bufLen = some (code, bank) → ∀ m past,
      ∃ n, parseBank m bank past = (true, n) ∧ n.pairs = (Run.final call n₀ (.init :: calls)).pairs := by
  intro hall
  let calls : List Call := [.envSet (cstr [0x61#8, equals]) (cstr [0x62#8]) 0#32]
  obtain ⟨bank, hbank⟩ := (started_run zeroed calls).saves (by decide)
  obtain ⟨n, hparse, hpairs⟩ := hall zeroed calls bankMaxLen _ bank hbank zeroed []
  exact reloaded_plain hparse hpairs ⟨cstr [0x61#8, equals], cstr [0x62#8], 0#32, 0#32⟩ (by decide) (by decide)

def Part.header (part : Part) : Byte × List Byte × ℕ := (part.sig, part.name.take 12, part.data.length)

structure Stable (n r : NvramV1) : Prop where
  pairs : r.pairs = n.pairs
  generation : r.generation = n.generation
  bankLen : r.bankLen = n.bankLen
  headers : r.parts.map Part.header = (nonEmpty n.parts).map Part.header
  data : (r.parts.eraseP Part.isCommon).map Part.data = (nonEmpty (n.parts.eraseP Part.isCommon)).map Part.data

lemma Splits.erase {parts before after : List Part} {part : Part} (h : Splits parts before part after) :
    parts.eraseP Part.isCommon = before ++ after := by
  rw [h.eq, List.eraseP_append_right _ fun p hp => by rw [h.first p hp]; decide, List.eraseP_cons_of_pos h.common]

lemma header_stored (part : Part) : part.stored.header = part.header := by
  rw [Part.header, Part.stored, List.take_take, Nat.min_self]
  rfl

lemma map_header_stored (parts : List Part) : (parts.map Part.stored).map Part.header = parts.map Part.header := by
  rw [List.map_map]
  exact congrArg (List.map · parts) (funext header_stored)

lemma map_data_stored (parts : List Part) : (parts.map Part.stored).map Part.data = parts.map Part.data := List.map_map

lemma nonEmpty_append (parts parts' : List Part) : nonEmpty (parts ++ parts') = nonEmpty parts ++ nonEmpty parts' :=
  List.filter_append ..

lemma Reloads.stable {n r : NvramV1} {before after : List Part} {part : Part} {data : List Byte}
    (h : Reloads n n.bankLen (n.withData before part after data).parts r) (hsplit : Splits n.parts before part after)
    (hpart : part.data.length ≠ 0) (hlength : data.length = part.data.length) : Stable n r := by
  have hset := (hsplit.set data).nonEmpty (by rw [hlength]; exact hpart)
  have hsplit' := hsplit.nonEmpty hpart
  have hstored := h.parts
  change r.parts.map Part.stored = (nonEmpty (before ++ { part with data := data } :: after)).map Part.stored at hstored
  rw [hset.eq, List.map_append, List.map_cons] at hstored
  obtain ⟨before', rest, hrest, hbefore, hnext⟩ := List.map_eq_append_iff.mp hstored
  obtain ⟨part', after', rfl, hpart', hafter⟩ := List.map_eq_cons_iff.mp hnext
  have hfound : Splits r.parts before' part' after' := by
    refine ⟨hrest, ?_, fun p hp => ?_⟩
    · rw [← isCommon_stored, hpart', isCommon_stored]
      exact hset.common
    · have hmem : p.stored ∈ (nonEmpty before).map Part.stored := hbefore ▸ List.mem_map_of_mem hp
      obtain ⟨q, hq, hpq⟩ := List.mem_map.mp hmem
      rw [← isCommon_stored, ← hpq, isCommon_stored]
      exact hset.first q hq
  refine ⟨h.pairs, h.generation, h.bankLen, ?_, ?_⟩
  · rw [← map_header_stored r.parts, hstored, hsplit'.eq, List.map_append, List.map_append, List.map_cons,
      List.map_cons, map_header_stored, map_header_stored, header_stored, Part.header, hlength]
    rfl
  · rw [hfound.erase, hsplit.erase, nonEmpty_append, List.map_append, List.map_append, ← map_data_stored before',
      ← map_data_stored after', hbefore, hafter, map_data_stored, map_data_stored]

lemma find_kept (disk : List Part) :
    (disk.filter Part.kept).find? Part.isCommon = disk.find? Part.isCommon := by
  rw [List.find?_filter]
  refine congrArg (List.find? · disk) (funext fun part => ?_)
  cases hcommon : part.isCommon with
  | false => exact decide_eq_false fun h => Bool.noConfusion h.2
  | true =>
    refine decide_eq_true ⟨decide_eq_true fun hpanic => ?_, rfl⟩
    rw [← isCommon_stored] at hcommon
    have hname : (cstr part.stored.name).1 = common := of_decide_eq_true hcommon
    rw [Part.stored, hpanic] at hname
    change (cstr panicPartName).1 = common at hname
    exact absurd hname (by decide)

lemma accepted_sound {m n : NvramV1} {buf past : List Byte} {disk : List Part} {part : Part}
    (h : parseBank m buf past = (true, n)) (hlayout : Layout buf 0x20 disk)
    (hcommon : disk.find? Part.isCommon = some part) :
    Sound n ∧ Plain n.env ∧ n.bankLen = buf.length ∧ 0x20 + (n.parts.map Part.size).sum ≤ buf.length ∧
      ∃ env, n.parts.find? Part.isCommon = some env ∧ env.data = part.data ∧
        (stream n.env).length ≤ env.data.length := by
  obtain ⟨parts, hlong, hparse, hwhich⟩ := parseBank_accepted h
  obtain ⟨disk', added, hadded, hkept⟩ := parsePartitions_kept hparse
  rw [List.nil_append] at hadded
  obtain rfl := hadded
  obtain rfl := hlayout.unique hkept.layout
  obtain ⟨env, hfind, hdata⟩ : ∃ env, parts.find? Part.isCommon = some env ∧ env.data = part.data := by
    have hmap := find_isCommon_stored parts
    rw [hkept.stored, find_kept, hcommon] at hmap
    obtain ⟨env, hfind, henv⟩ := Option.map_eq_some_iff.mp hmap.symm
    exact ⟨env, hfind, by rw [← henv]; rfl⟩
  rcases hwhich with ⟨hnone, -⟩ | ⟨env', hfind', hload⟩
  · rw [hfind] at hnone
    cases hnone
  obtain rfl := Option.some.inj (hfind.symm.trans hfind')
  have hloads := loadEnvFrom_loads hload
  have hparts : n.parts = parts := by rw [hloads.rest]; rfl
  refine ⟨⟨hloads.tidy ⟨fun v hv => absurd hv List.not_mem_nil, List.nodup_nil, Nat.zero_le _⟩, ?_, ?_⟩,
    hloads.plain fun v hv => absurd hv List.not_mem_nil, ?_, ?_, env, ?_, hdata, ?_⟩
  · rw [hparts]
    exact hkept.storable
  · rw [hparts]
    rcases hkept.count with rfl | hcount
    · exact Nat.zero_le _
    · rwa [List.length_nil, Nat.zero_add] at hcount
  · rw [hloads.rest]
    rfl
  · rw [hparts]
    exact hkept.fits hlong
  · rw [hparts]
    exact hfind
  · exact hloads.length.trans (Nat.zero_add _).le

/-- A loaded bank with data in its environment partition is stable. -/
theorem load_save_load {m n : NvramV1} {buf past : List Byte} {disk : List Part} {part : Part} {bufLen : ℕ}
    (h : parseBank m buf past = (true, n)) (hlong : 0x40 ≤ buf.length) (hlength : buf.length < 2 ^ 31)
    (hlayout : Layout buf 0x20 disk) (hcommon : disk.find? Part.isCommon = some part) (hdata : part.data ≠ [])
    (hbuf : buf.length ≤ bufLen) :
    ∃ bank, serialize n bufLen = some ((buf.length : ℤ), bank) ∧
      ∀ m' past', ∃ r, parseBank m' bank past' = (true, r) ∧ Stable n r := by
  obtain ⟨hsound, hplain, hbank, hfits, env, hfind, henv, hstream⟩ := accepted_sound h hlayout hcommon
  obtain ⟨before, after, hsplit⟩ := splits_of_find hfind
  obtain ⟨data, hwritten⟩ := @envSerialize_fits env.data 0 n.env (by omega)
  obtain ⟨rest, -, hsame, -⟩ := envSerialize_some hwritten (Nat.zero_le _)
  have hnonEmpty : env.data.length ≠ 0 := by
    rw [henv]
    exact fun h => hdata (List.length_eq_zero_iff.mp h)
  have hlen : savedLen n bufLen = buf.length := by
    rw [savedLen, hbank, if_neg (by omega)]
  have hdisks : 0x20 + (disks (n.withData before env after data).parts).length ≤ buf.length := by
    have hle := length_disks_le (withData_storable hsound hsplit hsame)
    have hsizes : ((n.withData before env after data).parts.map Part.size).sum = (n.parts.map Part.size).sum := by
      rw [hsplit.eq, NvramV1.withData, List.map_append, List.map_append, List.map_cons, List.map_cons]
      simp only [Part.size, hsame]
    omega
  refine ⟨(n.withData before env after data).image buf.length, ?_, fun m' past' => ?_⟩
  · have hnat : (BitVec.ofNat 32 buf.length).toNat = buf.length := by
      rw [BitVec.toNat_ofNat]
      omega
    rw [serialize_eq hsound hsplit (by omega) hwritten, hlen, if_pos ⟨hlong, hdisks⟩,
      BitVec.toInt_eq_toNat_of_lt (by omega), hnat]
  · obtain ⟨r, hparse, hreload⟩ := parseBank_saved hsound hplain hsplit hnonEmpty hwritten hdisks m' past'
    rw [← hbank] at hreload
    exact ⟨r, hparse, hreload.stable hsplit hnonEmpty hsame⟩

def loadedFrom (buf : List Byte) : NvramV1 := (parseBank zeroed buf []).2

lemma parseBank_loadedFrom {buf : List Byte} (h : (parseBank zeroed buf []).1 = true) :
    parseBank zeroed buf [] = (true, loadedFrom buf) := Prod.ext h rfl

def commonWith (data : List Byte) : Part := { emptyCommon with data := data }

def bootData : List Byte := ascii ['b', 'o', 'o', 't', '=', '-', 'v'] ++ List.replicate 9 nul

def bootBank : List Byte := bankImage 7#32 [commonWith bootData] (bankTail 0x10)

lemma bootBank_layout : Layout bootBank 0x20 [partAt bootBank 0x20] :=
  .part (by decide +kernel) (by decide +kernel) (by decide +kernel) (by decide +kernel)
    (.free (by decide +kernel) (by decide +kernel))

theorem load_save_load_boot : ∃ bank, serialize (loadedFrom bootBank) bankMaxLen = some (0x50, bank) ∧
    ∀ m' past', ∃ r, parseBank m' bank past' = (true, r) ∧ Stable (loadedFrom bootBank) r :=
  @load_save_load zeroed (loadedFrom bootBank) bootBank [] [partAt bootBank 0x20] (partAt bootBank 0x20)
    bankMaxLen (parseBank_loadedFrom (by decide +kernel)) (by decide +kernel) (by decide +kernel) bootBank_layout
    (by decide +kernel) (by decide +kernel) (by decide +kernel)

def twiceBank : List Byte := bankImage 0#32 [commonWith [], commonWith bootData] []

lemma twiceBank_layout : Layout twiceBank 0x20 [partAt twiceBank 0x20, partAt twiceBank 0x30] :=
  .part (by decide +kernel) (by decide +kernel) (by decide +kernel) (by decide +kernel)
    (.part (by decide +kernel) (by decide +kernel) (by decide +kernel) (by decide +kernel) (.short (by decide +kernel)))

/-- Saving drops the empty environment partition, and the other one takes its place. -/
theorem load_save_load_twice : ¬ ∀ (m n : NvramV1) (buf past : List Byte) (disk : List Part) (part : Part) (bufLen : ℕ),
    parseBank m buf past = (true, n) → 0x40 ≤ buf.length → buf.length < 2 ^ 31 → Layout buf 0x20 disk →
      part ∈ disk → part.isCommon = true → part.data ≠ [] → buf.length ≤ bufLen →
        ∃ bank, serialize n bufLen = some ((buf.length : ℤ), bank) ∧
          ∀ m' past', ∃ r, parseBank m' bank past' = (true, r) ∧ r.pairs = n.pairs := by
  intro hall
  obtain ⟨bank, hbank, hreload⟩ := hall zeroed (loadedFrom twiceBank) twiceBank [] _ (partAt twiceBank 0x30)
    0x50 (parseBank_loadedFrom (by decide +kernel)) (by decide +kernel) (by decide +kernel) twiceBank_layout
    (List.mem_cons_of_mem _ List.mem_cons_self) (by decide +kernel) (by decide +kernel) (by decide +kernel)
  obtain ⟨r, hr, hpairs⟩ := hreload zeroed []
  have hbefore : (loadedFrom twiceBank).pairs.length = 0 := by decide +kernel
  have hafter : (serialize (loadedFrom twiceBank) 0x50).map
      (fun saved => (loadedFrom saved.2).pairs.length) = some 1 := by decide +kernel
  have hloaded : loadedFrom bank = r := congrArg Prod.snd hr
  rw [hbank, Option.map_some, hloaded, hpairs, hbefore] at hafter
  cases hafter

def generationOf (buf : List Byte) : U32 := (Bytes.loadLe buf 0x14 4).truncate 32

structure Keeps (buf : List Byte) (disk : List Part) (n : NvramV1) : Prop where
  generation : n.generation = generationOf buf
  bankLen : n.bankLen = buf.length
  parts : (disk.filter Part.kept).Sublist (n.parts.map Part.stored)

/-- A bank is kept where it has a common partition, or nothing that a fresh store lacks. -/
theorem parseBank_keeps {m n : NvramV1} {buf past : List Byte} (h : parseBank m buf past = (true, n)) :
    ∃ disk, Layout buf 0x20 disk ∧
      (Keeps buf disk n ↔ (∃ part ∈ disk, part.isCommon = true) ∨
        generationOf buf = 0#32 ∧ buf.length = bankMaxLen ∧ disk.filter Part.kept = []) := by
  obtain ⟨parts, -, hparse, hwhich⟩ := parseBank_accepted h
  obtain ⟨disk, added, hadded, hkept⟩ := parsePartitions_kept hparse
  rw [List.nil_append] at hadded
  obtain rfl := hadded
  have hfind : (parts.find? Part.isCommon).map Part.stored = disk.find? Part.isCommon := by
    rw [← find_isCommon_stored, hkept.stored, find_kept]
  refine ⟨disk, hkept.layout, ?_⟩
  rcases hwhich with ⟨hnone, rfl⟩ | ⟨env, henv, hload⟩
  · rw [hnone, Option.map_none] at hfind
    have hno : ¬∃ part ∈ disk, part.isCommon = true := by
      rintro ⟨part, hpart, hcommon⟩
      exact (List.find?_eq_none.mp hfind.symm) part hpart hcommon
    constructor
    · intro hkeeps
      refine .inr ⟨hkeeps.generation.symm, hkeeps.bankLen.symm, ?_⟩
      -- the only partition of a fresh store is a common one
      refine List.eq_nil_iff_forall_not_mem.mpr fun part hpart => hno ⟨part, List.mem_of_mem_filter hpart, ?_⟩
      have hmem := hkeeps.parts.subset hpart
      change part ∈ [emptyCommon.stored] at hmem
      rw [List.mem_singleton.mp hmem]
      decide
    · rintro (hcommon | ⟨hgeneration, hlength, hempty⟩)
      · exact absurd hcommon hno
      · exact ⟨hgeneration.symm, hlength.symm, hempty ▸ List.nil_sublist _⟩
  · have hloads := loadEnvFrom_loads hload
    rw [henv, Option.map_some] at hfind
    have hcommon : ∃ part ∈ disk, part.isCommon = true :=
      ⟨_, List.mem_of_find?_eq_some hfind.symm, List.find?_some hfind.symm⟩
    refine ⟨fun _ => .inl hcommon, fun _ => ⟨?_, ?_, ?_⟩⟩
    · rw [hloads.rest]
      rfl
    · rw [hloads.rest]
      rfl
    · rw [hloads.rest]
      exact hkept.stored ▸ List.Sublist.refl _

theorem parseBank_keeps_boot : ∃ disk, Layout bootBank 0x20 disk ∧
    (Keeps bootBank disk (loadedFrom bootBank) ↔ (∃ part ∈ disk, part.isCommon = true) ∨
      generationOf bootBank = 0#32 ∧ bootBank.length = bankMaxLen ∧ disk.filter Part.kept = []) :=
  @parseBank_keeps zeroed (loadedFrom bootBank) bootBank [] (parseBank_loadedFrom (by decide +kernel))

/-- A bank without partitions loses its generation. -/
theorem parseBank_keeps_bare : ¬ ∀ (m n : NvramV1) (buf past : List Byte) (disk : List Part),
    parseBank m buf past = (true, n) → Layout buf 0x20 disk → Keeps buf disk n := by
  intro hall
  have hkeeps := hall zeroed (loadedFrom (bankImage 1#32 [] [])) (bankImage 1#32 [] []) [] []
    (parseBank_loadedFrom (by decide +kernel)) (.short (by decide +kernel))
  exact absurd hkeeps.generation (by decide +kernel)

end Nextcore.Nvram
