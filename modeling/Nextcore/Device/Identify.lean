import Nextcore.Device.Ans

/-! The admin doorbell with an armed Identify. It either leaves all of memory, or fills
the identify buffer, the bound data pages and one completion slot. -/

namespace Nextcore.Device

open HostMemory

variable {ι α μ : Type}

namespace VfAns

open Ans

def identifyPrp1 (a : VfAns ι) (mem : HostMemory) (oldSqTail : U16) : U64 :=
  match a.adminAsq with
  | none => 0#64
  | some asq => Bytes.loadLe (mem.view asq.toSpan (oldSqTail.toNat * 64) 64) 24 8

def identifyFields (a : VfAns ι) (cns : U8) : List (ℕ × List Byte) :=
  if cns = idCnsCtrl then idCtrlFields a.isAppleAns else idNsFields

def identifyPayload (a : VfAns ι) (cns : U8) : List Byte :=
  (a.identifyFields cns).foldl (fun bs field => Bytes.blit bs field.1 field.2) (List.replicate 4096 0#8)

def identifyCqe (sqTail : U32) (phase : U8) : List Byte :=
  List.replicate 8 0#8 ++ Bytes.leBytes ((sqTail &&& dbValueMask).zeroExtend 64) 4 ++
    Bytes.leBytes (((phase &&& 1#8).zeroExtend 32 <<< 16 : U32).zeroExtend 64) 4

def asqSpans (a : VfAns ι) : List Span := (a.adminAsq.map Window.toSpan).toList

def acqSpans (a : VfAns ι) : List Span := (a.adminAcq.map Window.toSpan).toList

def prpSpans (a : VfAns ι) : List Span :=
  (a.adminIdPrp1.map Window.toSpan).toList ++ (a.adminIdPrp2.map Window.toSpan).toList

lemma identifyEntry_eq {a : VfAns ι} {sqe : List Byte} {opcode cns : U8} {prp1 : U64}
    (h : a.identifyEntry sqe opcode cns = some prp1) :
    prp1 = Bytes.loadLe sqe 24 8 ∧
      (a.adminIdPrp1.isSome → prp1 &&& prpPageMask ≠ 0#64 → a.adminIdPrp2.isSome) := by
  rw [identifyEntry] at h
  cases h1 : a.adminIdPrp1 with
  | none =>
    simp only [h1] at h
    split_ifs at h
    exact ⟨(Option.some.inj h).symm, fun hsome => by simp at hsome⟩
  | some p1 =>
    cases h2 : a.adminIdPrp2 with
    | none =>
      simp only [h1, h2] at h
      split_ifs at h with _ _ _ _ _ hoff
      refine ⟨(Option.some.inj h).symm, ?_⟩
      intro _ hne
      rw [← Option.some.inj h] at hne
      exact absurd hoff hne
    | some p2 =>
      simp only [h1, h2] at h
      split_ifs at h
      · exact ⟨(Option.some.inj h).symm, fun _ _ => rfl⟩
      · exact ⟨(Option.some.inj h).symm, fun _ _ => rfl⟩

lemma fetchAdminAsqIdentify_mem (a : VfAns ι) (mem : HostMemory) (oldSqTail : U16) (opcode cns : U8) :
    (a.fetchAdminAsqIdentify mem oldSqTail opcode cns).2 = mem := by
  rw [fetchAdminAsqIdentify]
  split
  · rfl
  · split_ifs with _ hlen
    · rfl
    · rfl
    · rw [load_eq (by omega)]

lemma fetchAdminAsqIdentify_eq {a : VfAns ι} {mem : HostMemory} {oldSqTail : U16} {opcode cns : U8} {prp1 : U64}
    (h : (a.fetchAdminAsqIdentify mem oldSqTail opcode cns).1 = some prp1) :
    prp1 = a.identifyPrp1 mem oldSqTail ∧
      (a.adminIdPrp1.isSome → prp1 &&& prpPageMask ≠ 0#64 → a.adminIdPrp2.isSome) := by
  rw [fetchAdminAsqIdentify] at h
  rw [identifyPrp1]
  cases hasq : a.adminAsq with
  | none =>
    simp only [hasq, Option.some.injEq] at h
    subst h
    exact ⟨rfl, fun _ hne => absurd BitVec.zero_and hne⟩
  | some asq =>
    simp only [hasq] at h
    split_ifs at h with _ hlen
    rw [load_eq (by omega)] at h
    exact identifyEntry_eq h

lemma writeIdentifyPrp_unbound {a : VfAns ι} (h : a.adminIdPrp1 = none) (mem : HostMemory) (buf : Span) (prp1 : U64) :
    a.writeIdentifyPrp mem buf prp1 = mem := by
  rw [writeIdentifyPrp, h]

lemma writeIdentifyPrp_whole {a : VfAns ι} {p1 : Window 4096} (h : a.adminIdPrp1 = some p1) (mem : HostMemory)
    {buf : Span} (hbuf : 4096 ≤ buf.len) {prp1 : U64} (hoff : (prp1 &&& prpPageMask).toNat = 0) :
    a.writeIdentifyPrp mem buf prp1 = mem.store p1.toSpan 0 (mem.view buf 0 4096) := by
  simp only [writeIdentifyPrp, h, if_neg (not_lt.mpr p1.fits), if_pos hoff]
  rw [load_eq (by omega)]

lemma prpOff_lt (prp1 : U64) : (prp1 &&& prpPageMask).toNat < 4096 := by
  rw [BitVec.toNat_and]
  exact lt_of_le_of_lt Nat.and_le_right (by decide)

lemma writeIdentifyPrp_split {a : VfAns ι} {p1 p2 : Window 4096} (h : a.adminIdPrp1 = some p1)
    (h2 : a.adminIdPrp2 = some p2) (mem : HostMemory) {buf : Span} (hbuf : 4096 ≤ buf.len) {prp1 : U64} {off : ℕ}
    (hoff : (prp1 &&& prpPageMask).toNat = off) (hne : off ≠ 0) :
    a.writeIdentifyPrp mem buf prp1 =
      let mem' := mem.store p1.toSpan off (mem.view buf 0 (4096 - off))
      mem'.store p2.toSpan 0 (mem'.view buf (4096 - off) off) := by
  have hlt : off < 4096 := hoff ▸ prpOff_lt prp1
  have hrest : 4096 - (4096 - off) = off := by omega
  simp only [writeIdentifyPrp, h, h2, if_neg (not_lt.mpr p1.fits), if_neg (not_lt.mpr p2.fits), hoff, if_neg hne,
    if_neg (show ¬4096 ≤ 4096 - off by omega), hrest]
  rw [load_eq (by omega), load_eq (by omega)]

lemma writeIdentifyPrp_missing {a : VfAns ι} {p1 : Window 4096} (h : a.adminIdPrp1 = some p1)
    (h2 : a.adminIdPrp2 = none) (mem : HostMemory) (buf : Span) {prp1 : U64} (hoff : (prp1 &&& prpPageMask).toNat ≠ 0) :
    a.writeIdentifyPrp mem buf prp1 = mem := by
  simp only [writeIdentifyPrp, h, h2, if_neg (not_lt.mpr p1.fits), if_neg hoff]

lemma within_writeIdentifyPrp (a : VfAns ι) (mem : HostMemory) {buf : Span} (hbuf : 4096 ≤ buf.len) (prp1 : U64) :
    Within a.prpSpans mem (a.writeIdentifyPrp mem buf prp1) := by
  cases hprp1 : a.adminIdPrp1 with
  | none =>
    rw [writeIdentifyPrp_unbound hprp1]
    exact .refl _ mem
  | some p1 =>
    have hlen := p1.fits
    by_cases hoff : (prp1 &&& prpPageMask).toNat = 0
    · rw [writeIdentifyPrp_whole hprp1 mem hbuf hoff]
      refine (within_store mem ?_).mono (by simp [prpSpans, hprp1])
      rw [length_view]
      omega
    · cases hprp2 : a.adminIdPrp2 with
      | none =>
        rw [writeIdentifyPrp_missing hprp1 hprp2 mem buf hoff]
        exact .refl _ mem
      | some p2 =>
        have hlen2 := p2.fits
        have hlt := prpOff_lt prp1
        rw [writeIdentifyPrp_split hprp1 hprp2 mem hbuf rfl hoff]
        have hfirst : Within a.prpSpans mem
            (mem.store p1.toSpan (prp1 &&& prpPageMask).toNat
              (mem.view buf 0 (4096 - (prp1 &&& prpPageMask).toNat))) := by
          refine (within_store mem ?_).mono (by simp [prpSpans, hprp1])
          rw [length_view]
          omega
        refine hfirst.trans ((within_store _ ?_).mono (by simp [prpSpans, hprp2]))
        rw [length_view]
        omega

lemma view_writeIdentifyPrp {a : VfAns ι} {p1 : Window 4096} (h : a.adminIdPrp1 = some p1) (mem : HostMemory)
    {buf : Span} (hbuf : 4096 ≤ buf.len) {prp1 : U64} {off : ℕ} (hoff : (prp1 &&& prpPageMask).toNat = off)
    (hsecond : off ≠ 0 → a.adminIdPrp2.isSome) (hapart : ∀ s ∈ a.prpSpans, s.Apart buf)
    (hpages : ∀ p2 ∈ a.adminIdPrp2, p2.toSpan.Apart p1.toSpan) :
    (a.writeIdentifyPrp mem buf prp1).view p1.toSpan off (4096 - off) ++
        ((a.adminIdPrp2.map fun p2 => (a.writeIdentifyPrp mem buf prp1).view p2.toSpan 0 off).getD []) =
      mem.view buf 0 4096 := by
  have hlen := p1.fits
  have hlt : off < 4096 := hoff ▸ prpOff_lt prp1
  by_cases hzero : off = 0
  · subst hzero
    have hpage : (mem.store p1.toSpan 0 (mem.view buf 0 4096)).view p1.toSpan 0 4096 = mem.view buf 0 4096 :=
      view_store_self mem (length_view _ _ _ _) (by omega)
    rw [writeIdentifyPrp_whole h mem hbuf hoff, hpage]
    cases a.adminIdPrp2 <;> simp [view]
  · obtain ⟨p2, hprp2⟩ := Option.isSome_iff_exists.mp (hsecond hzero)
    have hlen2 := p2.fits
    have hfirst : (mem.store p1.toSpan off (mem.view buf 0 (4096 - off))).view p1.toSpan off (4096 - off) =
        mem.view buf 0 (4096 - off) := view_store_self mem (length_view _ _ _ _) (by omega)
    have hbuf1 : (mem.store p1.toSpan off (mem.view buf 0 (4096 - off))).view buf (4096 - off) off =
        mem.view buf (4096 - off) off :=
      view_store_apart mem (hapart _ (by simp [prpSpans, h])) _ _ (by omega)
    rw [writeIdentifyPrp_split h hprp2 mem hbuf hoff hzero, hprp2]
    simp only [Option.map_some, Option.getD_some]
    rw [view_store_apart _ (hpages p2 (by simp [hprp2])) _ _ (by omega), hfirst,
      view_store_self _ (length_view _ _ _ _) (by omega), hbuf1,
      view_append mem buf 0 (by omega : 4096 - off + off = 4096), Nat.zero_add]

lemma identifyFields_fit (a : VfAns ι) (cns : U8) : ∀ f ∈ a.identifyFields cns, f.1 + f.2.length ≤ 4096 := by
  rw [identifyFields]
  split_ifs <;>
    simp only [idCtrlFields, idNsFields, List.forall_mem_cons, Bytes.length_leBytes, List.length_singleton,
      List.not_mem_nil, false_implies, implies_true, and_true] <;>
    omega

def completionPosted (a : VfAns ι) : VfAns ι :=
  { a with
    adminCqPhase := a.adminCqPhase ^^^ 1#8
    adminCqTail := a.adminCqTail + 1#16
    irqStatus := a.irqStatus ||| irqAdminCq }

def cqFill (a : VfAns ι) (mem : HostMemory) (cqBuf : Span) : HostMemory :=
  [(0, List.replicate 16 0#8), (8, Bytes.leBytes ((a.doorbell 0 &&& dbValueMask).zeroExtend 64) 4),
    (12, Bytes.leBytes (((a.adminCqPhase &&& 1#8).zeroExtend 32 <<< 16 : U32).zeroExtend 64) 4)].foldl
      (fun mem field => mem.store cqBuf field.1 field.2) mem

lemma within_cqFill (a : VfAns ι) (mem : HostMemory) {cqBuf : Span} (h : 16 ≤ cqBuf.len) :
    Within [cqBuf] mem (a.cqFill mem cqBuf) := by
  apply within_foldl_store
  simp only [List.forall_mem_cons, List.length_replicate, Bytes.length_leBytes, List.not_mem_nil, false_implies,
    implies_true, and_true]
  omega

lemma view_cqFill (a : VfAns ι) (mem : HostMemory) {cqBuf : Span} (h : 16 ≤ cqBuf.len) :
    (a.cqFill mem cqBuf).view cqBuf 0 16 = identifyCqe (a.doorbell 0) a.adminCqPhase := by
  have hclear : Bytes.blit (mem.view cqBuf 0 16) 0 (List.replicate 16 0#8) =
      List.replicate 8 0#8 ++ List.replicate 4 0#8 ++ List.replicate 4 0#8 := by
    rw [Bytes.blit, List.drop_of_length_le (by simp)]
    rfl
  rw [cqFill, view_foldl_store _ h]
  · simp only [List.foldl_cons, List.foldl_nil, hclear]
    rw [Bytes.blit_append (by simp) (by rw [Bytes.length_leBytes]; rfl), ← List.append_nil (_ ++ List.replicate 4 0#8),
      Bytes.blit_append (by simp [Bytes.length_leBytes]) (by rw [Bytes.length_leBytes]; rfl), List.append_nil]
    rfl
  · simp only [List.forall_mem_cons, List.length_replicate, Bytes.length_leBytes, List.not_mem_nil, false_implies,
      implies_true, and_true]
    omega

lemma checkAdminAcqSlot_fits {a : VfAns ι} (h : a.checkAdminAcqSlot = true) {acq : Window 16}
    (hacq : a.adminAcq = some acq) : a.adminCqTail.toNat * 16 + 16 ≤ acq.len := by
  simp only [checkAdminAcqSlot, hacq] at h
  split_ifs at h
  simpa using h

lemma within_writeAdminAcqCqe {a : VfAns ι} (hslot : a.checkAdminAcqSlot = true) (mem : HostMemory) {cqe : Span}
    (hcqe : 16 ≤ cqe.len) : Within a.acqSpans mem (a.writeAdminAcqCqe mem cqe) := by
  rw [writeAdminAcqCqe, acqSpans]
  cases hacq : a.adminAcq with
  | none => exact .refl _ _
  | some acq =>
    have hfits := checkAdminAcqSlot_fits hslot hacq
    dsimp only
    rw [load_eq (by omega)]
    refine within_store mem ?_
    rw [length_view]
    exact hfits

lemma view_writeAdminAcqCqe {a : VfAns ι} (hslot : a.checkAdminAcqSlot = true) (mem : HostMemory) {cqe : Span}
    (hcqe : 16 ≤ cqe.len) {acq : Window 16} (hacq : a.adminAcq = some acq) :
    (a.writeAdminAcqCqe mem cqe).view acq.toSpan 0 acq.len =
      Bytes.blit (mem.view acq.toSpan 0 acq.len) (a.adminCqTail.toNat * 16) (mem.view cqe 0 16) := by
  have hfits := checkAdminAcqSlot_fits hslot hacq
  rw [writeAdminAcqCqe, hacq]
  dsimp only
  rw [load_eq (by omega)]
  exact view_store mem (by rw [length_view]; exact hfits) (Nat.zero_le _) (by rw [length_view]; omega)

end VfAns

namespace VfAnsPci

open AnsPci

variable (s : VfAnsPci α μ) (e : Env α μ)

def gpaSpans : List Span := (s.msiGpa.map fun gpa => gpa.mem.toSpan).toList

lemma syncAic_mem : (s.syncAic e).2.2.mem = e.mem := by
  rw [syncAic]
  split
  · rfl
  · dsimp only
    split_ifs <;> rfl

lemma within_tryMsiMessageWrite : Within s.gpaSpans e.mem (s.tryMsiMessageWrite e).2.2.mem := by
  rw [tryMsiMessageWrite, gpaSpans]
  cases s.msiGpa with
  | none =>
    cases s.msiMessageFn with
    | none => exact .refl _ _
    | some fn =>
      dsimp only
      split_ifs <;> exact .refl _ _
  | some gpa =>
    dsimp only
    split_ifs with _ hoff hlen
    · exact .refl _ _
    · exact .refl _ _
    · exact .refl _ _
    · have hfirst : Within [gpa.mem.toSpan] e.mem
          (e.mem.store gpa.mem.toSpan (s.msiAddr - gpa.base).toNat [s.msiData.truncate 8]) := by
        apply within_store
        simp only [List.length_singleton]
        omega
      refine hfirst.trans (within_store _ ?_)
      simp only [List.length_singleton]
      omega

lemma within_setIrq (level : Bool) : Within s.gpaSpans e.mem (s.setIrq e level).2.mem := by
  simp only [setIrq, syncAic_mem]
  split_ifs
  · exact .refl _ _
  · exact within_tryMsiMessageWrite { s with msiPending := level, intxPending := false, msixPending := false } e
  · exact .refl _ _
  · exact .refl _ _

end VfAnsPci

namespace AnsWorld

open Ans

def gpaSpans (w : AnsWorld ι α μ) : List Span := (w.ans.pci.map fun i => (w.pci i).gpaSpans).getD []

def identifyReady (w : AnsWorld ι α μ) (oldSqTail : U16) (arm : AdminIdentify) : Option U64 :=
  if arm.opcode ≠ opcIdentify ∨ arm.cns ≠ idCnsCtrl ∧ arm.cns ≠ idCnsNs then none
  else
    (w.ans.fetchAdminAsqIdentify w.mem oldSqTail arm.opcode arm.cns).1.filter fun _ =>
      w.ans.checkAdminAcqSlot && w.identifyOpen

def identifyMem (w : AnsWorld ι α μ) (arm : AdminIdentify) (prp1 : U64) : HostMemory :=
  w.ans.writeIdentifyPrp (identifyFill w.mem arm.buf.toSpan (w.ans.identifyFields arm.cns)) arm.buf.toSpan prp1

lemma identifyDma_eq (w : AnsWorld ι α μ) {cns : U8} (hcns : ¬(cns ≠ idCnsCtrl ∧ cns ≠ idCnsNs)) (buf : Window 4096) :
    (if cns = idCnsCtrl then w.identifyCnsCtrlDma cns buf.toSpan else w.identifyCnsNsDma cns buf.toSpan) =
      if w.identifyOpen then some (identifyFill w.mem buf.toSpan (w.ans.identifyFields cns)) else none := by
  have hlen : ¬buf.len < 4096 := not_lt.mpr buf.fits
  by_cases hctrl : cns = idCnsCtrl
  · simp only [identifyCnsCtrlDma, VfAns.identifyFields, if_neg hlen, ne_eq, hctrl, not_true_eq_false, if_false, if_true]
  · have hns : cns = idCnsNs := by
      by_contra hns
      exact hcns ⟨hctrl, hns⟩
    simp only [identifyCnsNsDma, VfAns.identifyFields, if_neg hlen, ne_eq, hns, not_true_eq_false, if_false]
    rfl

lemma identifyReady_eq {w : AnsWorld ι α μ} {oldSqTail : U16} {arm : AdminIdentify} {prp1 : U64}
    (h : w.identifyReady oldSqTail arm = some prp1) :
    w.ans.checkAdminAcqSlot = true ∧ prp1 = w.ans.identifyPrp1 w.mem oldSqTail ∧
      (w.ans.adminIdPrp1.isSome → prp1 &&& prpPageMask ≠ 0#64 → w.ans.adminIdPrp2.isSome) := by
  rw [identifyReady] at h
  split_ifs at h
  rw [Option.filter_eq_some_iff] at h
  obtain ⟨hfetch, hgates⟩ := h
  exact ⟨(Bool.and_eq_true_iff.mp hgates).1, VfAns.fetchAdminAsqIdentify_eq hfetch⟩

lemma within_identifyFill (a : VfAns ι) (cns : U8) (mem : HostMemory) (buf : Window 4096) :
    Within [buf.toSpan] mem (identifyFill mem buf.toSpan (a.identifyFields cns)) := by
  have hlen := buf.fits
  have hclear : Within [buf.toSpan] mem (mem.store buf.toSpan 0 (List.replicate 4096 0#8)) := by
    apply within_store
    rw [List.length_replicate]
    omega
  refine hclear.trans (within_foldl_store _ ?_ _)
  intro f hf
  exact (a.identifyFields_fit cns f hf).trans hlen

lemma view_identifyFill (a : VfAns ι) (cns : U8) (mem : HostMemory) (buf : Window 4096) :
    (identifyFill mem buf.toSpan (a.identifyFields cns)).view buf.toSpan 0 4096 = a.identifyPayload cns := by
  have hlen := buf.fits
  rw [identifyFill, view_foldl_store _ hlen (a.identifyFields_fit cns),
    view_store_self mem List.length_replicate (by omega), VfAns.identifyPayload]

variable [DecidableEq ι]

@[simp] lemma ans_syncPciIrq (w : AnsWorld ι α μ) : w.syncPciIrq.ans = w.ans := by
  rw [syncPciIrq]
  split <;> rfl

lemma within_syncPciIrq (w : AnsWorld ι α μ) : Within w.gpaSpans w.mem w.syncPciIrq.mem := by
  rw [syncPciIrq, gpaSpans]
  cases w.ans.pci with
  | none => exact .refl _ _
  | some i => exact (w.pci i).within_setIrq w.toEnv _

lemma tryAdminIdentify_eq {w : AnsWorld ι α μ} {arm : AdminIdentify} (harm : w.ans.adminId = some arm)
    (oldSqTail : U16) :
    w.tryAdminIdentifyOnDoorbell oldSqTail =
      ((w.identifyReady oldSqTail arm).map fun prp1 =>
        postAdminIdentifyCqe { w with ans := w.ans.clearAdminIdentify, mem := w.identifyMem arm prp1 }
          arm.cqBuf.toSpan).getD { w with ans := w.ans.clearAdminIdentify } := by
  by_cases hop : arm.opcode ≠ opcIdentify
  · simp only [tryAdminIdentifyOnDoorbell, harm, identifyReady, if_pos hop, if_pos (Or.inl hop)]
    rfl
  · by_cases hcns : arm.cns ≠ idCnsCtrl ∧ arm.cns ≠ idCnsNs
    · simp only [tryAdminIdentifyOnDoorbell, harm, identifyReady, if_neg hop, if_pos hcns, if_pos (Or.inr hcns)]
      rfl
    · have hfetch : w.ans.clearAdminIdentify.fetchAdminAsqIdentify w.mem oldSqTail arm.opcode arm.cns =
          w.ans.fetchAdminAsqIdentify w.mem oldSqTail arm.opcode arm.cns := rfl
      have hslot : w.ans.clearAdminIdentify.checkAdminAcqSlot = w.ans.checkAdminAcqSlot := rfl
      simp only [tryAdminIdentifyOnDoorbell, harm, identifyReady, if_neg hop, if_neg hcns, if_neg (not_or.mpr ⟨hop, hcns⟩),
        identifyDma_eq _ hcns, hfetch, hslot, VfAns.fetchAdminAsqIdentify_mem]
      cases (w.ans.fetchAdminAsqIdentify w.mem oldSqTail arm.opcode arm.cns).1 with
      | none => rfl
      | some prp1 =>
        rw [Option.filter_some]
        cases w.ans.checkAdminAcqSlot with
        | false => rfl
        | true =>
          have hopen : ({ w with ans := w.ans.clearAdminIdentify } : AnsWorld ι α μ).identifyOpen = w.identifyOpen := rfl
          rw [hopen]
          cases w.identifyOpen with
          | false => rfl
          | true => rfl

lemma postAdminIdentifyCqe_eq (w : AnsWorld ι α μ) (cqBuf : Span) :
    w.postAdminIdentifyCqe cqBuf =
      syncPciIrq { w with
        mem := w.ans.writeAdminAcqCqe (w.ans.cqFill w.mem cqBuf) cqBuf
        ans := w.ans.completionPosted } := rfl

def boundSpans (w : AnsWorld ι α μ) (arm : AdminIdentify) : List Span :=
  [arm.buf.toSpan, arm.cqBuf.toSpan] ++ w.ans.acqSpans ++ w.ans.prpSpans ++ w.ans.asqSpans ++ w.gpaSpans

structure IdentifyFailed (w w' : AnsWorld ι α μ) : Prop where
  mem : w'.mem = w.mem
  tail : w'.ans.adminCqTail = w.ans.adminCqTail
  phase : w'.ans.adminCqPhase = w.ans.adminCqPhase
  irqStatus : w'.ans.irqStatus = w.ans.irqStatus

structure IdentifyDone (w w' : AnsWorld ι α μ) (arm : AdminIdentify) (value : U32) (off : ℕ) : Prop where
  buf : w'.mem.view arm.buf.toSpan 0 4096 = w.ans.identifyPayload arm.cns
  pages : ∀ p1 ∈ w.ans.adminIdPrp1,
    w'.mem.view p1.toSpan off (4096 - off) ++
      ((w.ans.adminIdPrp2.map fun p2 => w'.mem.view p2.toSpan 0 off).getD []) = w.ans.identifyPayload arm.cns
  cqBuf : w'.mem.view arm.cqBuf.toSpan 0 16 = VfAns.identifyCqe value w.ans.adminCqPhase
  acq : ∀ acq ∈ w.ans.adminAcq,
    w'.mem.view acq.toSpan 0 acq.len =
      Bytes.blit (w.mem.view acq.toSpan 0 acq.len) (w.ans.adminCqTail.toNat * 16)
        (VfAns.identifyCqe value w.ans.adminCqPhase)
  tail : w'.ans.adminCqTail = w.ans.adminCqTail + 1#16
  phase : w'.ans.adminCqPhase = w.ans.adminCqPhase ^^^ 1#8
  irqStatus : w'.ans.irqStatus = w.ans.irqStatus ||| irqAdminCq

lemma identifyDone_of_ready {w : AnsWorld ι α μ} {arm : AdminIdentify} (harm : w.ans.adminId = some arm)
    (hapart : (w.boundSpans arm).Pairwise Span.Apart) {oldSqTail : U16} {prp1 : U64}
    (hready : w.identifyReady oldSqTail arm = some prp1) {w' : AnsWorld ι α μ}
    (hw' : w.tryAdminIdentifyOnDoorbell oldSqTail = w') :
    w'.mem.fault = w.mem.fault ∧ w'.ans.adminId = none ∧
      IdentifyDone w w' arm (w.ans.doorbell 0) (prp1 &&& prpPageMask).toNat := by
  obtain ⟨hslot, _, hsecond⟩ := identifyReady_eq hready
  rw [tryAdminIdentify_eq harm, hready, Option.map_some, Option.getD_some, postAdminIdentifyCqe_eq] at hw'
  have hans : w'.ans = w.ans.clearAdminIdentify.completionPosted := by
    rw [← hw', ans_syncPciIrq]
  have s5 : Within w.gpaSpans
      (w.ans.writeAdminAcqCqe (w.ans.cqFill (w.identifyMem arm prp1) arm.cqBuf.toSpan) arm.cqBuf.toSpan) w'.mem := by
    have hsync := within_syncPciIrq { w with
      mem := w.ans.writeAdminAcqCqe (w.ans.cqFill (w.identifyMem arm prp1) arm.cqBuf.toSpan) arm.cqBuf.toSpan
      ans := w.ans.clearAdminIdentify.completionPosted }
    rw [← hw']
    exact hsync
  clear hw'
  have hbuf := arm.buf.fits
  have hcq := arm.cqBuf.fits
  -- the buffers, apart from each other
  obtain ⟨h1, -, hgpa⟩ := List.pairwise_append.mp hapart
  obtain ⟨h2, -, -⟩ := List.pairwise_append.mp h1
  obtain ⟨h3, hpages, hprp⟩ := List.pairwise_append.mp h2
  obtain ⟨h4, -, hacq⟩ := List.pairwise_append.mp h3
  have hbq : arm.buf.toSpan.Apart arm.cqBuf.toSpan := by simpa using h4
  have hprpBuf : ∀ s ∈ w.ans.prpSpans, s.Apart arm.buf.toSpan := fun s hs => (hprp _ (by simp) s hs).symm
  have hprpCq : ∀ s ∈ w.ans.prpSpans, arm.cqBuf.toSpan.Apart s := fun s hs => hprp _ (by simp) s hs
  -- the memory after each part of the command
  have s1 := within_identifyFill w.ans arm.cns w.mem arm.buf
  have s2 : Within w.ans.prpSpans _ (w.identifyMem arm prp1) := VfAns.within_writeIdentifyPrp w.ans _ hbuf prp1
  have hfill : (w.identifyMem arm prp1).view arm.buf.toSpan 0 4096 = w.ans.identifyPayload arm.cns := by
    rw [s2.view _ hprpBuf (by omega), view_identifyFill]
  have hpage : ∀ p1 ∈ w.ans.adminIdPrp1,
      (w.identifyMem arm prp1).view p1.toSpan (prp1 &&& prpPageMask).toNat (4096 - (prp1 &&& prpPageMask).toNat) ++
        ((w.ans.adminIdPrp2.map fun p2 =>
          (w.identifyMem arm prp1).view p2.toSpan 0 (prp1 &&& prpPageMask).toNat).getD []) =
        w.ans.identifyPayload arm.cns := by
    intro p1 hp1
    rw [identifyMem, VfAns.view_writeIdentifyPrp hp1 _ hbuf rfl, view_identifyFill]
    · intro hne
      refine hsecond (by simp [Option.mem_def.mp hp1]) fun hzero => hne ?_
      rw [hzero]
      rfl
    · exact hprpBuf
    · intro p2 hp2
      rw [VfAns.prpSpans, Option.mem_def.mp hp1, Option.mem_def.mp hp2] at hpages
      exact Span.Apart.symm (by simpa using hpages)
  generalize w.identifyMem arm prp1 = m2 at *
  have s3 : Within [arm.cqBuf.toSpan] m2 (w.ans.cqFill m2 arm.cqBuf.toSpan) := VfAns.within_cqFill w.ans m2 hcq
  have hcqe := VfAns.view_cqFill w.ans m2 hcq
  generalize w.ans.cqFill m2 arm.cqBuf.toSpan = m3 at *
  have s4 : Within w.ans.acqSpans m3 (w.ans.writeAdminAcqCqe m3 arm.cqBuf.toSpan) :=
    VfAns.within_writeAdminAcqCqe hslot m3 hcq
  have hslots : ∀ acq ∈ w.ans.adminAcq, _ := fun acq => VfAns.view_writeAdminAcqCqe hslot m3 hcq
  generalize w.ans.writeAdminAcqCqe m3 arm.cqBuf.toSpan = m4 at *
  have later : ∀ t : Span, (∀ s ∈ w.ans.acqSpans, s.Apart t) → (∀ s ∈ w.gpaSpans, s.Apart t) → ∀ {off n : ℕ},
      off + n ≤ t.len → w'.mem.view t off n = m3.view t off n :=
    fun t hacqT hgpaT off n hn => (s5.view t hgpaT hn).trans (s4.view t hacqT hn)
  refine ⟨?_, by rw [hans]; rfl, ?_, ?_, ?_, ?_, by rw [hans]; rfl, by rw [hans]; rfl, by rw [hans]; rfl⟩
  · rw [s5.fault, s4.fault, s3.fault, s2.fault, s1.fault]
  · rw [later arm.buf.toSpan (fun s hs => (hacq _ (by simp) s hs).symm) (fun s hs => (hgpa _ (by simp) s hs).symm)
      (by omega), s3.view _ (by simpa using hbq.symm) (by omega), hfill]
  · intro p1 hp1
    have hlen := p1.fits
    have hoff := VfAns.prpOff_lt prp1
    have hkeep : ∀ s ∈ w.ans.prpSpans, ∀ {off n : ℕ}, off + n ≤ s.len → w'.mem.view s off n = m2.view s off n := by
      intro s hs off n hn
      rw [later s (fun t ht => hprp t (by simp [ht]) s hs) (fun t ht => (hgpa s (by simp [hs]) t ht).symm) hn,
        s3.view s (by simpa using hprpCq s hs) hn]
    rw [← hpage p1 hp1, hkeep p1.toSpan (by simp [VfAns.prpSpans, Option.mem_def.mp hp1]) (by omega)]
    cases hp2 : w.ans.adminIdPrp2 with
    | none => rfl
    | some p2 =>
      have hlen2 := p2.fits
      simp only [Option.map_some, Option.getD_some]
      rw [hkeep p2.toSpan (by simp [VfAns.prpSpans, hp2]) (by omega)]
  · rw [later arm.cqBuf.toSpan (fun s hs => (hacq _ (by simp) s hs).symm) (fun s hs => (hgpa _ (by simp) s hs).symm)
      (by omega), hcqe]
  · intro acq hmem
    have hin : acq.toSpan ∈ w.ans.acqSpans := by simp [VfAns.acqSpans, Option.mem_def.mp hmem]
    have hkeep : m3.view acq.toSpan 0 acq.len = w.mem.view acq.toSpan 0 acq.len := by
      rw [s3.view _ (by simpa using hacq _ (by simp) _ hin) (by omega),
        s2.view _ (fun s hs => (hprp _ (by simp [hin]) s hs).symm) (by omega),
        s1.view _ (by simpa using hacq _ (by simp) _ hin) (by omega)]
    rw [s5.view _ (fun s hs => (hgpa _ (by simp [hin]) s hs).symm) (by omega), hslots acq hmem, hkeep, hcqe]

def ringSqTail (w : AnsWorld ι α μ) (value : U32) : AnsWorld ι α μ :=
  { w with ans := { w.ans with doorbell := Function.update w.ans.doorbell 0 (value &&& dbValueMask) } }

lemma write_sqTail {w : AnsWorld ι α μ} {arm : AdminIdentify} {value : U32} (harm : w.ans.adminId = some arm)
    (htail : value &&& dbValueMask ≠ w.ans.doorbell 0) :
    w.write dbBase 4 value = some ((w.ringSqTail value).tryAdminIdentifyOnDoorbell ((w.ans.doorbell 0).truncate 16)) := by
  have hin : VfAns.outOfBounds dbBase 4 = false := by decide
  have hdb : VfAns.dbIndex dbBase = some 0 := by decide
  have harmed : w.ans.adminId.isSome = true := by rw [harm, Option.isSome_some]
  rw [write, hin, if_neg Bool.false_ne_true, hdb]
  exact if_pos ⟨rfl, htail, harmed⟩

lemma identifyCqe_mask (value : U32) (phase : U8) :
    VfAns.identifyCqe (value &&& dbValueMask) phase = VfAns.identifyCqe value phase := by
  rw [VfAns.identifyCqe, VfAns.identifyCqe, BitVec.and_assoc, BitVec.and_self]

/-- A changing write of the admin submission doorbell while an Identify is armed. The
command is disarmed, no access leaves its buffer, and it fails as a whole if one of its
checks does, else completes as a whole. -/
theorem identify_doorbell_atomic (w : AnsWorld ι α μ) (arm : AdminIdentify) (value : U32)
    (harm : w.ans.adminId = some arm) (hapart : (w.boundSpans arm).Pairwise Span.Apart)
    (htail : value &&& dbValueMask ≠ w.ans.doorbell 0) :
    ∃ w', w.write dbBase 4 value = some w' ∧ w'.ans.adminId = none ∧ w'.mem.fault = w.mem.fault ∧
      (w.identifyReady ((w.ans.doorbell 0).truncate 16) arm = none ∧ IdentifyFailed w w' ∨
        w.identifyReady ((w.ans.doorbell 0).truncate 16) arm ≠ none ∧
          IdentifyDone w w' arm value
            (w.ans.identifyPrp1 w.mem ((w.ans.doorbell 0).truncate 16) &&& prpPageMask).toNat) := by
  have harm' : (w.ringSqTail value).ans.adminId = some arm := harm
  have hsame : (w.ringSqTail value).identifyReady ((w.ans.doorbell 0).truncate 16) arm =
      w.identifyReady ((w.ans.doorbell 0).truncate 16) arm := rfl
  refine ⟨_, write_sqTail harm htail, ?_⟩
  rw [← hsame]
  cases hready : (w.ringSqTail value).identifyReady ((w.ans.doorbell 0).truncate 16) arm with
  | none =>
    rw [tryAdminIdentify_eq harm', hready]
    exact ⟨rfl, rfl, .inl ⟨rfl, rfl, rfl, rfl, rfl⟩⟩
  | some prp1 =>
    obtain ⟨hfault, hdisarmed, hdone⟩ := identifyDone_of_ready harm' hapart hready rfl
    obtain ⟨-, hprp1, -⟩ := identifyReady_eq hready
    have hsqTail : (w.ringSqTail value).ans.doorbell 0 = value &&& dbValueMask := by
      simp only [ringSqTail, Function.update_self]
    refine ⟨hdisarmed, hfault, .inr ⟨Option.some_ne_none _, ?_⟩⟩
    subst hprp1
    obtain ⟨hbuf, hpages, hcqBuf, hacq, htailNext, hphase, hirq⟩ := hdone
    simp only [hsqTail, identifyCqe_mask] at hcqBuf hacq
    exact ⟨hbuf, hpages, hcqBuf, hacq, htailNext, hphase, hirq⟩

def armedWorld (arm : AdminIdentify) : AnsWorld Unit Unit Unit :=
  { init ⟨⟨fun _ => 0#8, false⟩, (), ()⟩ with
    ans := { VfAns.init with
      cc := ccEn
      csts := cstsRdy
      acqLo := 1#32
      adminId := some arm
      adminAcq := some ⟨⟨8192, 4096⟩, by decide⟩
      adminIdPrp1 := some ⟨⟨16384, 4096⟩, le_rfl⟩ } }

theorem identify_doorbell_atomic_armed :
    let arm : AdminIdentify := ⟨opcIdentify, idCnsCtrl, ⟨⟨0, 4096⟩, le_rfl⟩, ⟨⟨4096, 16⟩, le_rfl⟩⟩
    ∃ w', (armedWorld arm).write dbBase 4 1#32 = some w' ∧ w'.ans.adminId = none ∧ w'.mem.fault = false ∧
      IdentifyDone (armedWorld arm) w' arm 1#32 0 := by
  intro arm
  have hapart : ((armedWorld arm).boundSpans arm).Pairwise Span.Apart := by
    simp [boundSpans, VfAns.acqSpans, VfAns.prpSpans, VfAns.asqSpans, gpaSpans, Span.Apart, armedWorld, VfAns.init, arm]
  have hoff : ((armedWorld arm).ans.identifyPrp1 (armedWorld arm).mem (((armedWorld arm).ans.doorbell 0).truncate 16) &&&
      prpPageMask).toNat = 0 := by decide
  have hready : (armedWorld arm).identifyReady (((armedWorld arm).ans.doorbell 0).truncate 16) arm ≠ none := by decide
  obtain ⟨w', hwrite, hdisarmed, hfault, ⟨hnone, -⟩ | ⟨-, hdone⟩⟩ :=
    identify_doorbell_atomic (armedWorld arm) arm 1#32 rfl hapart (by decide)
  · exact absurd hnone hready
  · rw [hoff] at hdone
    exact ⟨w', hwrite, hdisarmed, hfault, hdone⟩

end AnsWorld

end Nextcore.Device
