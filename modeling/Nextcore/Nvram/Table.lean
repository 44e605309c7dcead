import Nextcore.Lib.Run
import Nextcore.Nvram.Environment
import Nextcore.Nvram.Layout

/-! The environment as a table from names to values, over whole runs of the interface. -/

namespace Nextcore.Nvram

def envGet (n : NvramV1) (name : CString) : Option CString :=
  match findEnv n name with
  | none => none
  | some i => n.env[i]?.map Env.value

namespace Table

abbrev Values := CString → Option CString

def empty : Values := fun _ => none

def Values.set (t : Values) (name value : CString) : Values := Function.update t name (some value)

def Values.unset (t : Values) (name : CString) : Values := Function.update t name none

def listed (pairs : List (CString × CString)) (t : Values) : Values := pairs.foldl (fun t p => t.set p.1 p.2) t

def entries (data : List Byte) : List (CString × CString) :=
  if data.head? = none ∨ data.head? = some nul then []
  else
    let name := data.takeWhile fun b => b ≠ nul ∧ b ≠ equals
    let rest := data.drop (name.length + 1)
    let value := rest.takeWhile (· ≠ nul)
    (cstr name, cstr value) :: entries (rest.drop (value.length + 1))
termination_by data.length
decreasing_by
  simp only [List.length_drop]
  have hne : data ≠ [] := by
    rintro rfl
    simp_all
  have := List.length_pos_iff.mpr hne
  omega

def bankTable (buf past : List Byte) : Values :=
  match (parsePartitions buf past 0x20 []).bind (·.find? Part.isCommon) with
  | none => empty
  | some part => listed (entries part.data) empty

def HeaderGood (buf : List Byte) : Prop :=
  0x20 ≤ buf.length ∧ (ChrpPartHdr.read buf 0).checksum = chrpChecksum (ChrpPartHdr.read buf 0) ∧
    adler32 1#32 (buf.drop 0x14) = (Bytes.loadLe buf 0x10 4).truncate 32

instance decidableHeaderGood (buf : List Byte) : Decidable (HeaderGood buf) :=
  inferInstanceAs (Decidable (_ ∧ _ ∧ _))

inductive Call where
  | init
  | parseBank (buf past : List Byte)
  | envSet (name value : CString) (flags : U32)
  | envUnset (name : CString)

def code (success : Bool) : ℤ := if success then 0 else -1

def call (n : NvramV1) : Call → ℤ × NvramV1
  | .init => (code init.1, init.2)
  | .parseBank buf past => (code (parseBank n buf past).1, (parseBank n buf past).2)
  | .envSet name value flags => (code (envSet n name value flags).1, (envSet n name value flags).2)
  | .envUnset name => envUnset n name

abbrev Event := Run.Entry NvramV1 Call ℤ

def Values.after (t : Values) (x : Event) : Values :=
  match x.event with
  | .init => empty
  | .parseBank buf past => if x.answer = 0 then bankTable buf past else if HeaderGood buf then empty else t
  | .envSet name value _ => if x.answer = 0 then t.set name value else t
  | .envUnset name => t.unset name

def Leaves (x : Event) : Prop :=
  match x.event with
  | .init => x.answer = 0
  | .parseBank _ _ => x.answer = 0 ∨ x.after = x.before ∨ x.after = zeroed
  | .envSet _ _ _ => x.answer = 0 ∨ x.after = x.before
  | .envUnset name => x.after = { x.before with env := x.before.env.filter (·.name ≠ name) } ∧
      (x.answer = 1 ↔ name ∈ x.before.env.map Env.name)

inductive Origin : NvramV1 → Values → Prop
  | zeroed : Origin zeroed empty
  | init : Origin init.2 empty
  | parsed {n m : NvramV1} {buf past : List Byte} (h : parseBank n buf past = (true, m)) : Origin m (bankTable buf past)

section Lookup

variable {n : NvramV1} {name : CString}

lemma envGet_eq (n : NvramV1) (name : CString) : envGet n name = (n.env.find? (·.name = name)).map Env.value := by
  rw [envGet, findEnv]
  induction n.env with
  | nil => rfl
  | cons v vs ih =>
    rw [List.findIdx?_cons, List.find?_cons]
    by_cases hv : v.name = name
    · simp [hv]
    · simp only [hv, decide_false]
      cases h : vs.findIdx? (·.name = name) with
      | none =>
        rw [h] at ih
        simpa using ih
      | some i =>
        rw [h] at ih
        simpa using ih

lemma eraseP_eq_filter {env : List Env} (h : (env.map Env.name).Nodup) (name : CString) :
    env.eraseP (·.name = name) = env.filter (·.name ≠ name) := by
  induction env with
  | nil => rfl
  | cons v vs ih =>
    rw [List.map_cons, List.nodup_cons] at h
    by_cases hv : v.name = name
    · rw [List.eraseP_cons_of_pos (by simpa using hv), List.filter_cons_of_neg (by simpa using hv)]
      refine (List.filter_eq_self.mpr fun w hw => ?_).symm
      have hne : w.name ≠ name := by
        rintro rfl
        exact h.1 (hv ▸ List.mem_map_of_mem hw)
      simpa using hne
    · rw [List.eraseP_cons_of_neg (by simpa using hv), List.filter_cons_of_pos (by simpa using hv), ih h.2]

lemma findEnv_isSome : (findEnv n name).isSome = true ↔ name ∈ n.env.map Env.name := by
  rw [findEnv, List.findIdx?_isSome, List.any_eq_true, List.mem_map]
  simp only [decide_eq_true_eq]

lemma envUnset_leaves (h : (n.env.map Env.name).Nodup) (name : CString) :
    (envUnset n name).2 = { n with env := n.env.filter (·.name ≠ name) } ∧
      ((envUnset n name).1 = 1 ↔ name ∈ n.env.map Env.name) := by
  constructor
  · rw [envUnset_env, eraseP_eq_filter h]
  · rw [← findEnv_isSome, envUnset]
    cases findEnv n name <;> simp

lemma envUnset_get (h : (n.env.map Env.name).Nodup) (name : CString) :
    envGet (envUnset n name).2 = Values.unset (envGet n) name := by
  funext other
  rw [(envUnset_leaves h name).1, envGet_eq, Values.unset, Function.update_apply, List.find?_filter]
  by_cases hother : other = name
  · subst hother
    rw [if_pos rfl, List.find?_eq_none.mpr (by simp)]
    rfl
  · rw [if_neg hother, envGet_eq]
    congr 2
    funext v
    by_cases hv : v.name = other
    · simp [hv, hother]
    · simp [hv]

end Lookup

section Setter

variable {n : NvramV1} {name value : CString} {flags : U32}

lemma envSet_refused (htidy : Tidy n.env) (h : (envSet n name value flags).1 = false) :
    (envSet n name value flags).2 = n := by
  rw [envSet] at h ⊢
  split
  · rfl
  next hgood =>
    rw [if_neg hgood] at h
    dsimp only at h ⊢
    by_cases hfull : maxEnv ≤ (envUnset n name).2.env.length
    · rw [if_pos hfull]
      -- a table that stays full had no entry to remove
      rw [envUnset_env] at hfull ⊢
      have hcount := htidy.count
      have hlength : (n.env.eraseP (·.name = name)).length = n.env.length :=
        le_antisymm List.length_eraseP_le (hcount.trans hfull)
      rw [List.eraseP_sublist.eq_of_length hlength]
    · rw [if_neg hfull] at h
      cases h

lemma envSet_get (htidy : Tidy n.env) (h : (envSet n name value flags).1 = true) :
    envGet (envSet n name value flags).2 = Values.set (envGet n) name value := by
  rcases envSet_cases n name value flags with hset | hset | ⟨-, -, -, -, hset⟩
  · rw [hset] at h
    cases h
  · rw [hset] at h
    cases h
  have herase := envUnset_get htidy.distinct name
  rw [envUnset_env] at herase
  funext other
  have hother := congrFun herase other
  rw [envGet_eq] at hother
  rw [hset, envGet_eq, List.find?_append, Values.set, Function.update_apply]
  rw [Values.unset, Function.update_apply] at hother
  by_cases hname : other = name
  · rw [if_pos hname] at hother ⊢
    rw [Option.map_eq_none_iff.mp hother, Option.none_or, List.find?_cons_of_pos (by simpa using hname.symm)]
    rfl
  · rw [if_neg hname] at hother ⊢
    rw [List.find?_cons_of_neg (by simpa using fun h => hname h.symm), List.find?_nil, Option.or_none]
    exact hother

end Setter

section Parser

variable {n m : NvramV1} {data buf past : List Byte}

lemma tidy_nil : Tidy [] := ⟨fun _ h => absurd h List.not_mem_nil, List.nodup_nil, Nat.zero_le _⟩

lemma entries_end (h : data.head? = none ∨ data.head? = some nul) : entries data = [] := by rw [entries, if_pos h]

lemma entries_entry {name : CString} (hplain : equals ∉ name.1) (value : CString) (rest : List Byte) :
    entries (name.1 ++ equals :: (value.1 ++ nul :: rest)) = (name, value) :: entries rest := by
  obtain ⟨hname, hdrop, hvalue, hnext⟩ := entry_split hplain value rest
  rw [entries, if_neg (entry_starts name _)]
  dsimp only
  rw [hname, hdrop, hvalue, hnext, cstr_eq, cstr_eq]

lemma loadEnvFrom_get (htidy : Tidy n.env) (h : loadEnvFrom n data = (true, m)) :
    envGet m = listed (entries data) (envGet n) := by
  induction hlength : data.length using Nat.strong_induction_on generalizing n data with
  | _ length ih =>
    rcases loadEnvFrom_true h with ⟨hend, rfl⟩ | ⟨name, value, rest, hdata, hplain, hset, hnext⟩
    · rw [entries_end hend]
      rfl
    rw [List.append_assoc, List.cons_append] at hdata
    have hshorter : rest.length < data.length := by
      rw [hdata]
      simp only [List.length_append, List.length_cons]
      omega
    rw [ih rest.length (hlength ▸ hshorter) (envSet_tidy htidy) hnext rfl, envSet_get htidy hset, hdata,
      entries_entry hplain]
    rfl

lemma parseBank_table (h : parseBank n buf past = (true, m)) : Tidy m.env ∧ envGet m = bankTable buf past := by
  obtain ⟨parts, -, hparse, ⟨hnone, rfl⟩ | ⟨part, hpart, hload⟩⟩ := parseBank_accepted h
  · refine ⟨tidy_nil, ?_⟩
    rw [bankTable, hparse, Option.bind_some, hnone]
    rfl
  · rw [bankTable, hparse, Option.bind_some, hpart]
    exact ⟨(loadEnvFrom_loads hload).tidy tidy_nil, loadEnvFrom_get tidy_nil hload⟩

lemma parseBank_cases (n : NvramV1) (buf past : List Byte) :
    (¬HeaderGood buf ∧ parseBank n buf past = (false, n)) ∨
    (HeaderGood buf ∧ parseBank n buf past = (false, zeroed)) ∨
    (HeaderGood buf ∧ (parseBank n buf past).1 = true) := by
  rw [parseBank]
  dsimp only
  by_cases hshort : buf.length < 0x20
  · rw [if_pos hshort]
    exact .inl ⟨fun h => absurd h.1 (by omega), rfl⟩
  rw [if_neg hshort]
  by_cases hsum : (ChrpPartHdr.read buf 0).checksum ≠ chrpChecksum (ChrpPartHdr.read buf 0)
  · rw [if_pos hsum]
    exact .inl ⟨fun h => hsum h.2.1, rfl⟩
  rw [if_neg hsum]
  by_cases hadler : adler32 1#32 (buf.drop 0x14) ≠ (Bytes.loadLe buf 0x10 4).truncate 32
  · rw [if_pos hadler]
    exact .inl ⟨fun h => hadler h.2.2, rfl⟩
  rw [if_neg hadler]
  have hgood : HeaderGood buf := ⟨by omega, not_not.mp hsum, not_not.mp hadler⟩
  refine .inr ?_
  cases parsePartitions buf past 0x20 [] with
  | none => exact .inl ⟨hgood, rfl⟩
  | some parts =>
    dsimp only
    cases (storeOf buf parts).parts.find? Part.isCommon with
    | none => exact .inr ⟨hgood, rfl⟩
    | some part =>
      dsimp only
      rcases loadEnvFromCommon (storeOf buf parts) part with ⟨code, loaded⟩
      cases code with
      | false => exact .inl ⟨hgood, rfl⟩
      | true => exact .inr ⟨hgood, rfl⟩

end Parser

section Run

variable {n : NvramV1}

lemma code_false : code false ≠ 0 := by decide

lemma call_step (htidy : Tidy n.env) (c : Call) :
    Tidy (call n c).2.env ∧ envGet (call n c).2 = (Values.after (envGet n) (Run.entry call n c)) ∧
      Leaves (Run.entry call n c) := by
  cases c with
  | init => exact ⟨tidy_nil, rfl, rfl⟩
  | envUnset name =>
    have hleaves := envUnset_leaves htidy.distinct name
    refine ⟨?_, envUnset_get htidy.distinct name, hleaves⟩
    change Tidy (envUnset n name).2.env
    rw [envUnset_env]
    exact htidy.erase
  | envSet name value flags =>
    refine ⟨envSet_tidy htidy, ?_⟩
    change envGet (envSet n name value flags).2 =
        (if code (envSet n name value flags).1 = 0 then (Values.set (envGet n) name value) else envGet n) ∧
      (code (envSet n name value flags).1 = 0 ∨ (envSet n name value flags).2 = n)
    cases h : (envSet n name value flags).1 with
    | true => exact ⟨envSet_get htidy h, .inl rfl⟩
    | false =>
      have hsame := envSet_refused htidy h
      rw [if_neg code_false]
      exact ⟨congrArg envGet hsame, .inr hsame⟩
  | parseBank buf past =>
    change Tidy (parseBank n buf past).2.env ∧
      envGet (parseBank n buf past).2 = (if code (parseBank n buf past).1 = 0 then bankTable buf past
        else if HeaderGood buf then empty else envGet n) ∧
      (code (parseBank n buf past).1 = 0 ∨ (parseBank n buf past).2 = n ∨ (parseBank n buf past).2 = zeroed)
    rcases parseBank_cases n buf past with ⟨hbad, h⟩ | ⟨hgood, h⟩ | ⟨hgood, h⟩
    · rw [h, if_neg code_false, if_neg hbad]
      exact ⟨htidy, rfl, .inr (.inl rfl)⟩
    · rw [h, if_neg code_false, if_pos hgood]
      exact ⟨tidy_nil, rfl, .inr (.inr rfl)⟩
    · rw [h, if_pos (show code true = 0 from rfl)]
      obtain ⟨htable, hget⟩ := parseBank_table (Prod.ext h rfl)
      exact ⟨htable, hget, .inl rfl⟩

lemma Origin.table {t : Values} (h : Origin n t) : Tidy n.env ∧ envGet n = t := by
  cases h with
  | zeroed => exact ⟨tidy_nil, rfl⟩
  | init => exact ⟨tidy_nil, rfl⟩
  | parsed h => exact parseBank_table h

lemma run_table (htidy : Tidy n.env) (calls : List Call) :
    Tidy (Run.final call n calls).env ∧
      envGet (Run.final call n calls) = (Run.log call n calls).foldl Values.after (envGet n) ∧
      ∀ x ∈ Run.log call n calls, Leaves x := by
  induction calls generalizing n with
  | nil => exact ⟨htidy, rfl, fun _ h => absurd h List.not_mem_nil⟩
  | cons c calls ih =>
    obtain ⟨hnext, hget, hleaves⟩ := call_step htidy c
    obtain ⟨hfinal, htable, hlog⟩ := ih hnext
    refine ⟨hfinal, ?_, ?_⟩
    · rw [Run.final, htable, hget]
      rfl
    · exact List.forall_mem_cons.mpr ⟨hleaves, hlog⟩

end Run

/-- Over every run the names stay distinct and the limits hold; a name has the value that was last set for it; and a call
that fails leaves the store as it was, or cleared where a bank failed behind its header. -/
theorem env_table {n₀ : NvramV1} {t₀ : Values} (h : Origin n₀ t₀) (calls : List Call) :
    Tidy (Run.final call n₀ calls).env ∧
      envGet (Run.final call n₀ calls) = (Run.log call n₀ calls).foldl Values.after t₀ ∧
      ∀ x ∈ Run.log call n₀ calls, Leaves x := by
  obtain ⟨htidy, rfl⟩ := h.table
  exact run_table htidy calls

theorem env_table_twice :
    let a : CString := cstr [0x61#8]
    let b : CString := cstr [0x62#8]
    let n := Run.final call zeroed [.envSet a a 0#32, .envSet b a 0#32, .envSet a b 0#32, .envUnset b]
    Tidy n.env ∧ envGet n a = some b ∧ envGet n b = none := by
  intro a b n
  obtain ⟨htidy, hget, -⟩ := env_table .zeroed [.envSet a a 0#32, .envSet b a 0#32, .envSet a b 0#32, .envUnset b]
  refine ⟨htidy, ?_, ?_⟩ <;> exact (congrFun hget _).trans (by decide)

end Table

end Nextcore.Nvram
