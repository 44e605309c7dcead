import Nextcore.Nvram.Bank

/-! The environment in the data of the common partition: what the writer puts
there and what the parser reads back. -/

namespace Nextcore.Nvram

open Bytes

def Env.pair (v : Env) : CString × CString := (v.name, v.value)

def NvramV1.pairs (n : NvramV1) : List (CString × CString) := n.env.map Env.pair

def Env.entry (v : Env) : List Byte := v.name.1 ++ equals :: v.value.1 ++ [nul]

def stream (env : List Env) : List Byte := env.flatMap Env.entry

def Env.loaded (v : Env) : Env := { v with flags := 0#32, parsedUint := parseEnvUint v.value.1 }

structure Env.Admitted (v : Env) : Prop where
  named : v.name.1 ≠ []
  nameShort : v.name.1.length < envNameMax
  valueShort : v.value.1.length < envValueMax

structure Tidy (env : List Env) : Prop where
  admitted : ∀ v ∈ env, v.Admitted
  distinct : (env.map Env.name).Nodup
  count : env.length ≤ maxEnv

def Plain (env : List Env) : Prop := ∀ v ∈ env, equals ∉ v.name.1

instance decidablePlain (env : List Env) : Decidable (Plain env) :=
  inferInstanceAs (Decidable (∀ v ∈ env, equals ∉ v.name.1))

section Strings

lemma cstr_eq (s : CString) : cstr s.1 = s := by
  apply Subtype.ext
  change s.1.takeWhile _ = s.1
  rw [List.takeWhile_eq_self_iff]
  intro b hb
  have hne : b ≠ nul := by
    rintro rfl
    exact s.2 hb
  exact decide_eq_true hne

lemma copyStr_eq {len : ℕ} {s : CString} (h : s.1.length < len) : copyStr len s = s :=
  Subtype.ext (List.take_of_length_le (by omega))

lemma takeWhile_stop {α : Type} {p : α → Bool} {l : List α} {a : α} (hl : ∀ b ∈ l, p b) (ha : p a = false)
    (r : List α) : (l ++ a :: r).takeWhile p = l := by
  rw [List.takeWhile_append_of_pos hl, List.takeWhile_cons_of_neg (by rw [ha]; decide), List.append_nil]

lemma takeWhile_split {α : Type} {p : α → Bool} {l : List α} (h : (l.takeWhile p).length < l.length) :
    ∃ a, p a = false ∧ l = l.takeWhile p ++ a :: l.drop ((l.takeWhile p).length + 1) := by
  induction l with
  | nil => cases h
  | cons b l ih =>
    cases hb : p b with
    | false =>
      rw [List.takeWhile_cons_of_neg (by rw [hb]; decide)]
      exact ⟨b, hb, rfl⟩
    | true =>
      rw [List.takeWhile_cons_of_pos hb] at h ⊢
      obtain ⟨a, ha, hl⟩ := ih (Nat.lt_of_succ_lt_succ h)
      exact ⟨a, ha, congrArg (b :: ·) hl⟩

lemma entry_split {name : CString} (hplain : equals ∉ name.1) (value : CString) (rest : List Byte) :
    (name.1 ++ equals :: (value.1 ++ nul :: rest)).takeWhile (fun b => b ≠ nul ∧ b ≠ equals) = name.1 ∧
    (name.1 ++ equals :: (value.1 ++ nul :: rest)).drop (name.1.length + 1) = value.1 ++ nul :: rest ∧
    (value.1 ++ nul :: rest).takeWhile (· ≠ nul) = value.1 ∧
    (value.1 ++ nul :: rest).drop (value.1.length + 1) = rest := by
  refine ⟨takeWhile_stop (fun b hb => decide_eq_true ?_) (by decide) _, ?_,
    takeWhile_stop (fun b hb => decide_eq_true ?_) (by decide) _, ?_⟩
  · constructor
    · rintro rfl
      exact name.2 hb
    · rintro rfl
      exact hplain hb
  · rw [List.append_cons, List.drop_left' (by simp)]
  · rintro rfl
    exact value.2 hb
  · rw [List.append_cons, List.drop_left' (by simp)]

lemma entry_starts (name : CString) (rest : List Byte) :
    ¬((name.1 ++ equals :: rest).head? = none ∨ (name.1 ++ equals :: rest).head? = some nul) := by
  obtain ⟨bytes, hbytes⟩ := name
  cases bytes with
  | nil => exact (by decide : ¬(some equals = none ∨ some equals = some nul))
  | cons b bs =>
    rintro (h | h)
    · cases h
    · exact hbytes (by rw [show b = nul from Option.some.inj h]; exact List.mem_cons_self)

lemma cstr_until (l : List Byte) : (cstr (l.takeWhile (· ≠ nul))).1 = l.takeWhile (· ≠ nul) :=
  congrArg Subtype.val (cstr_eq (cstr l))

end Strings

section Setter

variable {n : NvramV1} {name value : CString} {flags : U32}

lemma envUnset_env : (envUnset n name).2 = { n with env := n.env.eraseP (·.name = name) } := by
  rw [envUnset, findEnv, List.eraseP_eq_eraseIdx]
  cases n.env.findIdx? (·.name = name) <;> rfl

lemma not_mem_eraseP {env : List Env} (h : (env.map Env.name).Nodup) :
    name ∉ (env.eraseP (·.name = name)).map Env.name := by
  induction env with
  | nil => exact List.not_mem_nil
  | cons v vs ih =>
    rw [List.map_cons, List.nodup_cons] at h
    by_cases hv : v.name = name
    · rw [List.eraseP_cons_of_pos (by simpa using hv), ← hv]
      exact h.1
    · rw [List.eraseP_cons_of_neg (by simpa using hv), List.map_cons, List.mem_cons, not_or]
      exact ⟨fun he => hv he.symm, ih h.2⟩

lemma Tidy.erase {env : List Env} (h : Tidy env) : Tidy (env.eraseP (·.name = name)) where
  admitted v hv := h.admitted v (List.eraseP_subset hv)
  distinct := h.distinct.sublist ((List.eraseP_sublist).map _)
  count := (List.length_eraseP_le).trans h.count

lemma envSet_cases (n : NvramV1) (name value : CString) (flags : U32) :
    (envSet n name value flags = (false, n)) ∨
    (envSet n name value flags = (false, (envUnset n name).2)) ∨
    (name.1 ≠ [] ∧ name.1.length < envNameMax ∧ value.1.length < envValueMax ∧
      (envUnset n name).2.env.length < maxEnv ∧
      envSet n name value flags = (true, { n with env := n.env.eraseP (·.name = name) ++
        [{ name := name, value := value, flags := flags, parsedUint := parseEnvUint value.1 }] })) := by
  by_cases hbad : name.1 = [] ∨ envNameMax ≤ name.1.length ∨ envValueMax ≤ value.1.length
  · exact .inl (if_pos hbad)
  rw [not_or, not_or] at hbad
  obtain ⟨hnamed, hname, hvalue⟩ := hbad
  have hset : envSet n name value flags = _ := if_neg (by tauto)
  by_cases hfull : maxEnv ≤ (envUnset n name).2.env.length
  · exact .inr (.inl (hset.trans (if_pos hfull)))
  refine .inr (.inr ⟨hnamed, by omega, by omega, by omega, hset.trans ((if_neg hfull).trans ?_)⟩)
  rw [envUnset_env, copyStr_eq (by omega), copyStr_eq (by omega)]

lemma envSet_tidy (h : Tidy n.env) : Tidy (envSet n name value flags).2.env := by
  rcases envSet_cases n name value flags with hset | hset | ⟨hnamed, hname, hvalue, hcount, hset⟩
  · rw [hset]
    exact h
  · rw [hset, envUnset_env]
    exact h.erase
  rw [hset]
  rw [envUnset_env] at hcount
  have herase : Tidy (n.env.eraseP (·.name = name)) := h.erase
  refine ⟨fun v hv => ?_, ?_, ?_⟩
  · rcases List.mem_append.mp hv with hv | hv
    · exact herase.admitted v hv
    · rw [List.mem_singleton.mp hv]
      exact ⟨hnamed, hname, hvalue⟩
  · rw [List.map_append, List.nodup_append]
    refine ⟨herase.distinct, List.nodup_singleton _, fun a ha b hb => ?_⟩
    rw [List.map_singleton, List.mem_singleton] at hb
    rintro rfl
    exact not_mem_eraseP h.distinct (hb ▸ ha)
  · rw [List.length_append]
    exact hcount

lemma envSet_fresh {v : Env} (hv : v.Admitted) (hfresh : v.name ∉ n.env.map Env.name) (hroom : n.env.length < maxEnv) :
    envSet n v.name v.value 0#32 = (true, { n with env := n.env ++ [v.loaded] }) := by
  have herase : n.env.eraseP (·.name = v.name) = n.env := by
    refine List.eraseP_of_forall_not fun w hw hname => hfresh ?_
    rw [← of_decide_eq_true hname]
    exact List.mem_map_of_mem hw
  have hgood : ¬(v.name.1 = [] ∨ envNameMax ≤ v.name.1.length ∨ envValueMax ≤ v.value.1.length) := by
    rintro (h | h | h)
    · exact hv.named h
    · exact absurd hv.nameShort (by omega)
    · exact absurd hv.valueShort (by omega)
  refine (if_neg hgood).trans ?_
  dsimp only
  rw [envUnset_env, herase, if_neg (Nat.not_le.mpr hroom), copyStr_eq hv.nameShort, copyStr_eq hv.valueShort]
  rfl

lemma entry_length (v : Env) : v.entry.length = v.name.1.length + v.value.1.length + 2 := by
  simp only [Env.entry, List.length_append, List.length_cons, List.length_nil]
  omega

lemma stream_cons (v : Env) (vs : List Env) : stream (v :: vs) = v.entry ++ stream vs := List.flatMap_cons

lemma length_stream_erase (env : List Env) (p : Env → Bool) :
    (stream (env.eraseP p)).length ≤ (stream env).length :=
  (List.eraseP_sublist.flatMap Env.entry).length_le

end Setter

section Loader

variable {n m : NvramV1} {data rest : List Byte}

lemma loadEnvFrom_end (h : data.head? = none ∨ data.head? = some nul) : loadEnvFrom n data = (true, n) := by
  rw [loadEnvFrom, if_pos h]

lemma loadEnvFrom_entry {v : Env} (hv : v.Admitted) (hplain : equals ∉ v.name.1) (rest : List Byte) :
    loadEnvFrom n (v.entry ++ rest) =
      if (envSet n v.name v.value 0#32).1 then loadEnvFrom (envSet n v.name v.value 0#32).2 rest
      else (false, (envSet n v.name v.value 0#32).2) := by
  have hentry : v.entry ++ rest = v.name.1 ++ equals :: (v.value.1 ++ nul :: rest) := by simp [Env.entry]
  obtain ⟨hname, hdrop, hvalue, hnext⟩ := entry_split hplain v.value rest
  have hstart : ¬((v.entry ++ rest).head? = none ∨ (v.entry ++ rest).head? = some nul) := by
    rw [hentry]
    exact entry_starts v.name _
  have hsign : (v.entry ++ rest)[v.name.1.length]? = some equals := by
    rw [hentry, List.getElem?_append_right le_rfl, Nat.sub_self]
    rfl
  have hlong : ¬(v.value.1 ++ nul :: rest).length ≤ v.value.1.length := by
    rw [List.length_append, List.length_cons]
    omega
  have hshort : ¬(envNameMax ≤ v.name.1.length ∨ envValueMax ≤ v.value.1.length) := by
    have := hv.nameShort
    have := hv.valueShort
    omega
  rw [← hentry] at hname hdrop
  rw [loadEnvFrom, if_neg hstart]
  dsimp only
  rw [hname, if_neg (not_not_intro hsign), hdrop, hvalue, if_neg hlong, if_neg hshort, hnext, cstr_eq, cstr_eq]
  rcases envSet n v.name v.value 0#32 with ⟨code, n'⟩
  cases code <;> rfl

lemma loadEnvFrom_stream (hend : rest.head? = none ∨ rest.head? = some nul) (env : List Env)
    (htidy : Tidy (n.env ++ env)) (hplain : Plain env) :
    loadEnvFrom n (stream env ++ rest) = (true, { n with env := n.env ++ env.map Env.loaded }) := by
  induction env generalizing n with
  | nil =>
    rw [List.map_nil, List.append_nil]
    exact loadEnvFrom_end hend
  | cons v vs ih =>
    have hv : v.Admitted := htidy.admitted v (List.mem_append_right _ List.mem_cons_self)
    have hfresh : v.name ∉ n.env.map Env.name := by
      have hdistinct := htidy.distinct
      rw [List.map_append, List.nodup_append] at hdistinct
      exact fun hmem => hdistinct.2.2 _ hmem v.name List.mem_cons_self rfl
    have hroom : n.env.length < maxEnv := by
      have := htidy.count
      rw [List.length_append, List.length_cons] at this
      omega
    rw [stream_cons, List.append_assoc, loadEnvFrom_entry hv (hplain v List.mem_cons_self), envSet_fresh hv hfresh hroom]
    rw [if_pos rfl, ih, List.map_cons, List.append_assoc, List.singleton_append]
    · refine ⟨fun w hw => ?_, ?_, ?_⟩
      · rcases List.mem_append.mp hw with hw | hw
        · rcases List.mem_append.mp hw with hw | hw
          · exact htidy.admitted w (List.mem_append_left _ hw)
          · rw [List.mem_singleton.mp hw]
            exact ⟨hv.named, hv.nameShort, hv.valueShort⟩
        · exact htidy.admitted w (List.mem_append_right _ (List.mem_cons_of_mem _ hw))
      · have hdistinct := htidy.distinct
        rw [List.map_append, List.map_cons] at hdistinct
        rw [List.map_append, List.map_append, List.map_singleton, List.append_assoc, List.singleton_append]
        exact hdistinct
      · have := htidy.count
        simp only [List.length_append, List.length_cons, List.length_nil] at this ⊢
        omega
    · exact fun w hw => hplain w (List.mem_cons_of_mem _ hw)

lemma loadEnvFrom_true (h : loadEnvFrom n data = (true, m)) :
    ((data.head? = none ∨ data.head? = some nul) ∧ m = n) ∨
    ∃ (name value : CString) (rest : List Byte), data = name.1 ++ equals :: value.1 ++ nul :: rest ∧
      equals ∉ name.1 ∧ (envSet n name value 0#32).1 = true ∧
      loadEnvFrom (envSet n name value 0#32).2 rest = (true, m) := by
  rw [loadEnvFrom] at h
  by_cases hend : data.head? = none ∨ data.head? = some nul
  · rw [if_pos hend] at h
    exact .inl ⟨hend, (Prod.mk.inj h).2.symm⟩
  rw [if_neg hend] at h
  dsimp only at h
  obtain ⟨name, hname⟩ : ∃ name, data.takeWhile (fun b => b ≠ nul ∧ b ≠ equals) = name := ⟨_, rfl⟩
  rw [hname] at h
  by_cases hsign : data[name.length]? ≠ some equals
  · rw [if_pos hsign] at h
    cases h
  rw [if_neg hsign] at h
  rw [ne_eq, not_not] at hsign
  obtain ⟨rest, hrest⟩ : ∃ rest, data.drop (name.length + 1) = rest := ⟨_, rfl⟩
  obtain ⟨value, hvalue⟩ : ∃ value, rest.takeWhile (· ≠ nul) = value := ⟨_, rfl⟩
  rw [hrest, hvalue] at h
  by_cases hfull : rest.length ≤ value.length
  · rw [if_pos hfull] at h
    cases h
  rw [if_neg hfull] at h
  by_cases hlong : envNameMax ≤ name.length ∨ envValueMax ≤ value.length
  · rw [if_pos hlong] at h
    cases h
  rw [if_neg hlong] at h
  have hbytes : ∀ b ∈ name, b ≠ nul ∧ b ≠ equals := by
    intro b hb
    rw [← hname] at hb
    simpa only [decide_eq_true_eq] using List.mem_takeWhile_imp hb
  have hstring : (cstr name).1 = name := by
    change name.takeWhile _ = name
    rw [List.takeWhile_eq_self_iff]
    exact fun b hb => decide_eq_true (hbytes b hb).1
  have hvalueString : (cstr value).1 = value := by rw [← hvalue, cstr_until]
  have hdata : data = name ++ equals :: rest := by
    obtain ⟨a, -, hsplit⟩ := takeWhile_split (p := fun b => b ≠ nul ∧ b ≠ equals) (l := data) (by
      rw [hname]
      exact (List.getElem?_eq_some_iff.mp hsign).1)
    rw [hname, hrest] at hsplit
    rw [hsplit, List.getElem?_append_right le_rfl, Nat.sub_self, List.getElem?_cons_zero] at hsign
    rw [← Option.some.inj hsign]
    exact hsplit
  have hsplit : rest = value ++ nul :: rest.drop (value.length + 1) := by
    obtain ⟨a, ha, hsplit⟩ := takeWhile_split (p := (· ≠ nul)) (l := rest) (by rw [hvalue]; omega)
    rw [hvalue, not_not.mp (of_decide_eq_false ha)] at hsplit
    exact hsplit
  rcases hset : envSet n (cstr name) (cstr value) 0#32 with ⟨code, next⟩
  rw [hset] at h
  cases code with
  | false => cases h
  | true =>
    refine .inr ⟨cstr name, cstr value, rest.drop (value.length + 1), ?_, ?_, ?_, ?_⟩
    · rw [hstring, hvalueString, List.append_assoc, List.cons_append, ← hsplit]
      exact hdata
    · rw [hstring]
      exact fun hmem => (hbytes _ hmem).2 rfl
    · rw [hset]
    · rw [hset]
      exact h

structure Loads (n m : NvramV1) (data : List Byte) : Prop where
  tidy : Tidy n.env → Tidy m.env
  plain : Plain n.env → Plain m.env
  length : (stream m.env).length ≤ (stream n.env).length + data.length
  rest : m = { n with env := m.env }

lemma envSet_loads {name value : CString} (hplain : equals ∉ name.1) (hset : (envSet n name value 0#32).1 = true) :
    Loads n (envSet n name value 0#32).2 (name.1 ++ equals :: value.1 ++ [nul]) := by
  rcases envSet_cases n name value 0#32 with h | h | ⟨-, -, -, -, h⟩
  · rw [h] at hset
    cases hset
  · rw [h] at hset
    cases hset
  refine ⟨envSet_tidy, fun hn v hv => ?_, ?_, ?_⟩
  · rw [h] at hv
    rcases List.mem_append.mp hv with hv | hv
    · exact hn v (List.eraseP_subset hv)
    · rw [List.mem_singleton.mp hv]
      exact hplain
  · have herase := length_stream_erase n.env (·.name = name)
    rw [h, stream, List.flatMap_append, List.flatMap_singleton, List.length_append]
    exact Nat.add_le_add_right herase _
  · rw [h]

lemma loadEnvFrom_loads (h : loadEnvFrom n data = (true, m)) : Loads n m data := by
  induction hlength : data.length using Nat.strong_induction_on generalizing n data with
  | _ length ih =>
    rcases loadEnvFrom_true h with ⟨-, rfl⟩ | ⟨name, value, rest, hdata, hplain, hset, hnext⟩
    · exact ⟨id, id, Nat.le_add_right _ _, rfl⟩
    have hfirst := envSet_loads hplain hset
    have hsize : data.length = (name.1 ++ equals :: value.1 ++ [nul]).length + rest.length := by
      rw [hdata]
      simp only [List.length_append, List.length_cons, List.length_nil]
      omega
    have hpos : 0 < (name.1 ++ equals :: value.1 ++ [nul]).length := by
      rw [List.length_append]
      exact Nat.succ_pos _
    have hlast := ih rest.length (by omega) hnext rfl
    refine ⟨fun ht => hlast.tidy (hfirst.tidy ht), fun hp => hlast.plain (hfirst.plain hp), ?_, ?_⟩
    · have := hfirst.length
      have := hlast.length
      omega
    · rw [hlast.rest, hfirst.rest]

end Loader

section Writer

variable {buffer data : List Byte} {pos : ℕ} {env : List Env}

lemma envSerialize_some (h : envSerialize buffer pos env = some data) (hpos : pos ≤ buffer.length) :
    ∃ rest, data = buffer.take pos ++ (stream env ++ rest) ∧ data.length = buffer.length ∧
      (rest.head? = none ∨ rest.head? = some nul) := by
  induction env generalizing buffer pos with
  | nil =>
    rw [envSerialize] at h
    obtain rfl := Option.some.inj h
    by_cases hroom : pos < buffer.length
    · rw [if_pos hroom]
      refine ⟨nul :: buffer.drop (pos + 1), ?_, List.length_set, .inr rfl⟩
      exact List.set_eq_take_append_cons_drop.trans (if_pos hroom)
    · rw [if_neg hroom]
      exact ⟨[], by rw [List.take_of_length_le (by omega)]; exact (List.append_nil _).symm, rfl, .inl rfl⟩
  | cons v vs ih =>
    rw [envSerialize, formatEnvEntry] at h
    by_cases hfull : buffer.length - pos ≤ v.name.1.length + 1 + v.value.1.length
    · rw [if_pos hfull] at h
      cases h
    rw [if_neg hfull] at h
    change envSerialize (blit buffer pos v.entry) (pos + v.entry.length) vs = some data at h
    have hfit : pos + v.entry.length ≤ buffer.length := by
      rw [entry_length]
      omega
    obtain ⟨rest, hdata, hlength, hrest⟩ := ih h (by rw [length_blit hfit]; exact hfit)
    refine ⟨rest, ?_, hlength.trans (length_blit hfit), hrest⟩
    have htake : (blit buffer pos v.entry).take (pos + v.entry.length) = buffer.take pos ++ v.entry := by
      refine List.take_left' ?_
      rw [List.length_append, List.length_take]
      omega
    rw [hdata, htake, stream_cons, List.append_assoc, List.append_assoc]

lemma envSerialize_fits (h : pos + (stream env).length ≤ buffer.length) :
    ∃ data, envSerialize buffer pos env = some data := by
  induction env generalizing buffer pos with
  | nil => exact ⟨_, rfl⟩
  | cons v vs ih =>
    rw [stream_cons, List.length_append] at h
    have hroom : ¬buffer.length - pos ≤ v.name.1.length + 1 + v.value.1.length := by
      rw [entry_length] at h
      omega
    rw [envSerialize, formatEnvEntry]
    rw [if_neg hroom]
    change ∃ data, envSerialize (blit buffer pos v.entry) (pos + v.entry.length) vs = some data
    exact ih (by rw [length_blit (by omega)]; omega)

end Writer

end Nextcore.Nvram
