import Nextcore.Lib.Bytes

/-! Programs that write code: they append bytes, ask how many have been appended
and patch words at earlier positions. They run against a growing list or against
a buffer of fixed capacity; while the buffer is large enough both agree. -/

namespace Nextcore

inductive Emit (α : Type) where
  | ret (a : α)
  | byte (x : Byte) (next : Emit α)
  | used (next : ℕ → Emit α)
  | patch (position : ℕ) (word : U32) (next : Emit α)

namespace Emit

variable {α β : Type}

def bind (m : Emit α) (f : α → Emit β) : Emit β :=
  match m with
  | .ret a => f a
  | .byte x next => .byte x (next.bind f)
  | .used next => .used fun n => (next n).bind f
  | .patch position word next => .patch position word (next.bind f)

instance : Monad Emit where
  pure := .ret
  bind := bind

def le32 (w : U32) : List Byte :=
  [w.truncate 8, (w >>> 8).truncate 8, (w >>> 16).truncate 8, (w >>> 24).truncate 8]

def le64 (v : U64) : List Byte :=
  [v.truncate 8, (v >>> 8).truncate 8, (v >>> 16).truncate 8, (v >>> 24).truncate 8,
    (v >>> 32).truncate 8, (v >>> 40).truncate 8, (v >>> 48).truncate 8, (v >>> 56).truncate 8]

def bytes : List Byte → Emit Unit
  | [] => .ret ()
  | x :: xs => .byte x (bytes xs)

def position : Emit ℕ := .used .ret

def patchWord (at_ : ℕ) (word : U32) : Emit Unit := .patch at_ word (.ret ())

def setWord (bs : List Byte) (p : ℕ) (word : U32) : List Byte :=
  (((bs.set p (word.truncate 8)).set (p + 1) ((word >>> 8).truncate 8)).set (p + 2)
    ((word >>> 16).truncate 8)).set (p + 3) ((word >>> 24).truncate 8)

def emit : Emit α → List Byte → Option (α × List Byte)
  | .ret a, bs => some (a, bs)
  | .byte x next, bs => next.emit (bs ++ [x])
  | .used next, bs => (next bs.length).emit bs
  | .patch p word next, bs => if p + 4 ≤ bs.length then next.emit (setWord bs p word) else none

structure Buffer where
  bytes : List Byte
  used : ℕ
  deriving DecidableEq, Repr

def Buffer.capacity (c : Buffer) : ℕ := c.bytes.length

def Buffer.push (c : Buffer) (x : Byte) : Buffer :=
  ⟨if c.used < c.capacity then c.bytes.set c.used x else c.bytes, c.used + 1⟩

def Buffer.patch (c : Buffer) (p : ℕ) (word : U32) : Buffer :=
  ⟨if p + 4 ≤ c.capacity then setWord c.bytes p word else c.bytes, c.used⟩

def write : Emit α → Buffer → α × Buffer
  | .ret a, c => (a, c)
  | .byte x next, c => next.write (c.push x)
  | .used next, c => (next c.used).write c
  | .patch p word next, c => next.write (c.patch p word)

lemma length_setWord (bs : List Byte) (p : ℕ) (word : U32) : (setWord bs p word).length = bs.length := by
  simp [setWord]

lemma Buffer.capacity_push (c : Buffer) (x : Byte) : (c.push x).capacity = c.capacity := by
  unfold Buffer.push
  split
  · exact List.length_set
  · rfl

lemma Buffer.capacity_patch (c : Buffer) (p : ℕ) (word : U32) :
    (c.patch p word).capacity = c.capacity := by
  unfold Buffer.patch
  split
  · exact length_setWord _ _ _
  · rfl

def Buffer.Holds (c : Buffer) (bs : List Byte) : Prop :=
  c.used = bs.length ∧ (bs.length ≤ c.capacity → c.bytes.take bs.length = bs)

lemma Buffer.Holds.push {c : Buffer} {bs : List Byte} (h : c.Holds bs) (x : Byte) :
    (c.push x).Holds (bs ++ [x]) := by
  obtain ⟨hused, htake⟩ := h
  refine ⟨by simp [Buffer.push, hused], fun hle => ?_⟩
  rw [Buffer.capacity_push, List.length_append, List.length_singleton] at hle
  have hlt : bs.length < c.bytes.length := hle
  have hcap : c.used < c.capacity := by rw [hused]; exact hlt
  rw [Buffer.push, if_pos hcap, hused, List.length_append, List.length_singleton, List.take_add_one,
    List.take_set, htake hlt.le]
  simp [hlt, List.set_eq_of_length_le]

lemma Buffer.Holds.patch {c : Buffer} {bs : List Byte} (h : c.Holds bs) {p : ℕ}
    (hp : p + 4 ≤ bs.length) (word : U32) : (c.patch p word).Holds (setWord bs p word) := by
  obtain ⟨hused, htake⟩ := h
  refine ⟨by rw [length_setWord]; exact hused, fun hle => ?_⟩
  rw [Buffer.capacity_patch, length_setWord] at hle
  rw [length_setWord, Buffer.patch, if_pos (hp.trans hle)]
  simp only [setWord, List.take_set, htake hle]

lemma write_holds {m : Emit α} {bs bs' : List Byte} {a : α} (h : m.emit bs = some (a, bs'))
    {c : Buffer} (hc : c.Holds bs) :
    (m.write c).1 = a ∧ (m.write c).2.Holds bs' ∧ (m.write c).2.capacity = c.capacity := by
  induction m generalizing bs c with
  | ret a' =>
    cases h
    exact ⟨rfl, hc, rfl⟩
  | byte x next ih =>
    obtain ⟨h1, h2, h3⟩ := ih h (hc.push x)
    exact ⟨h1, h2, h3.trans (c.capacity_push x)⟩
  | used next ih =>
    rw [emit, ← hc.1] at h
    exact ih _ h hc
  | patch p word next ih =>
    rw [emit] at h
    split at h
    · rename_i hp
      obtain ⟨h1, h2, h3⟩ := ih h (hc.patch hp word)
      exact ⟨h1, h2, h3.trans (c.capacity_patch p word)⟩
    · cases h

lemma emit_bind (m : Emit α) (f : α → Emit β) (bs : List Byte) :
    (m >>= f).emit bs = (m.emit bs).bind fun out => (f out.1).emit out.2 := by
  change (m.bind f).emit bs = _
  induction m generalizing bs with
  | ret a => rfl
  | byte x next ih => exact ih _
  | used next ih => exact ih _ _
  | patch p word next ih =>
    simp only [bind, emit]
    split
    · exact ih _
    · rfl

def Emits (m : Emit α) (a : α) (code : List Byte) : Prop := ∀ bs, m.emit bs = some (a, bs ++ code)

lemma emits_bytes (xs : List Byte) : Emits (bytes xs) () xs := by
  intro bs
  induction xs generalizing bs with
  | nil => simp [bytes, emit]
  | cons x xs ih => simp [bytes, emit, ih]

lemma emits_pure (a : α) : Emits (pure a) a [] := fun bs => by
  change some (a, bs) = _
  rw [List.append_nil]

lemma Emits.bind {m : Emit α} {f : α → Emit β} {a : α} {b : β} {code code' : List Byte}
    (h : Emits m a code) (h' : Emits (f a) b code') : Emits (m >>= f) b (code ++ code') := by
  intro bs
  rw [emit_bind, h bs]
  change (f a).emit (bs ++ code) = _
  rw [h' (bs ++ code), List.append_assoc]

lemma setWord_hole (pre post : List Byte) (w0 w1 w2 w3 : Byte) (word : U32) :
    setWord (pre ++ w0 :: w1 :: w2 :: w3 :: post) pre.length word = pre ++ le32 word ++ post := by
  have hset : ∀ (l : List Byte) (k : ℕ) (x : Byte) (t : List Byte),
      (l ++ t).set (l.length + k) x = l ++ t.set k x := by
    intro l k x t
    rw [List.set_append_right _ _ (Nat.le_add_right _ _), Nat.add_sub_cancel_left]
  have h0 := hset pre 0 (word.truncate 8) (w0 :: w1 :: w2 :: w3 :: post)
  rw [Nat.add_zero] at h0
  simp only [setWord, h0, hset, List.set_cons_zero, List.set_cons_succ, le32, List.append_assoc,
    List.cons_append, List.nil_append]

def hole : Emit ℕ := do
  let p ← position
  bytes (le32 0#32)
  pure p

def fixTo (p target : ℕ) : Emit Unit :=
  patchWord p (BitVec.ofNat 32 target - BitVec.ofNat 32 p - 4#32)

def fix (p : ℕ) : Emit Unit := do
  let target ← position
  fixTo p target

lemma emit_bytes (xs bs : List Byte) : (bytes xs).emit bs = some ((), bs ++ xs) := emits_bytes xs bs

lemma emit_hole (bs : List Byte) : hole.emit bs = some (bs.length, bs ++ le32 0#32) := by
  unfold hole
  rw [emit_bind]
  change ((bytes (le32 0#32)) >>= fun _ => pure bs.length).emit bs = _
  rw [emit_bind, emit_bytes]
  rfl

lemma distance (p k : ℕ) : BitVec.ofNat 32 (p + 4 + k) - BitVec.ofNat 32 p - 4#32 = BitVec.ofNat 32 k := by
  rw [BitVec.ofNat_add, BitVec.ofNat_add]
  bv_omega

lemma emit_fixTo (pre post : List Byte) (k : ℕ) :
    (fixTo pre.length (pre.length + 4 + k)).emit (pre ++ le32 0#32 ++ post) =
      some ((), pre ++ le32 (BitVec.ofNat 32 k) ++ post) := by
  have hlen : pre.length + 4 ≤ (pre ++ le32 0#32 ++ post).length := by
    simp only [List.length_append, le32, List.length_cons, List.length_nil]
    omega
  have hset := setWord_hole pre post 0#8 0#8 0#8 0#8 (BitVec.ofNat 32 k)
  rw [fixTo, distance, patchWord, emit, if_pos hlen]
  change some ((), setWord (pre ++ le32 0#32 ++ post) pre.length (BitVec.ofNat 32 k)) = _
  rw [← hset, List.append_assoc]
  rfl

lemma emit_fix {p : ℕ} {pre post code : List Byte} (hp : p = pre.length)
    (hcode : code = pre ++ le32 0#32 ++ post) :
    (fix p).emit code = some ((), pre ++ le32 (BitVec.ofNat 32 post.length) ++ post) := by
  subst hp hcode
  have hlen : (pre ++ le32 0#32 ++ post).length = pre.length + 4 + post.length := by
    simp only [List.length_append, le32, List.length_cons, List.length_nil]
  rw [fix, emit_bind]
  change (fixTo pre.length (pre ++ le32 0#32 ++ post).length).emit _ = _
  rw [hlen, emit_fixTo]

def eitherCode (head body second other : List Byte) : List Byte :=
  head ++ (le32 (BitVec.ofNat 32 (body.length + second.length + 4)) ++ (body ++ (second ++
    (le32 (BitVec.ofNat 32 other.length) ++ other))))

lemma emit_join {p : ℕ} {head body bs : List Byte} (second other : List Byte) (k : Unit → Emit β)
    (hp : p = (bs ++ head).length) :
    Emit.emit (do
        bytes second
        let q ← hole
        fix p
        bytes other
        let r ← fix q
        k r) (bs ++ head ++ le32 0#32 ++ body) = (k ()).emit (bs ++ eitherCode head body second other) := by
  simp only [emit_bind, emit_bytes, emit_hole, Option.bind_some]
  rw [@emit_fix _ (bs ++ head) (body ++ second ++ le32 0#32) _ hp (by simp only [List.append_assoc]),
    Option.bind_some,
    @emit_fix _ (bs ++ head ++ le32 (BitVec.ofNat 32 (body ++ second ++ le32 0#32).length) ++ body ++ second)
        other _ (by simp [le32]) (by simp only [List.append_assoc])]
  simp only [eitherCode, List.append_assoc, List.length_append, le32, List.length_cons, List.length_nil,
    Nat.add_assoc, Option.bind_some]

inductive Piece (ι : Type) where
  | code (bs : List Byte)
  | guard (cc : Byte) (label : ι)

def emitPieces {ι : Type} : List (Piece ι) → Emit (List (ℕ × ι))
  | [] => pure []
  | .code bs :: rest => do
    bytes bs
    emitPieces rest
  | .guard cc label :: rest => do
    bytes [0x0f#8, cc]
    let p ← hole
    let holes ← emitPieces rest
    pure ((p, label) :: holes)

def fixAll {ι : Type} (holes : List (ℕ × ι)) (target : ι → ℕ) : Emit Unit :=
  match holes with
  | [] => pure ()
  | (p, label) :: rest => do
    fixTo p (target label)
    fixAll rest target

section Pieces

variable {ι : Type}

def piecesLength : List (Piece ι) → ℕ
  | [] => 0
  | .code bs :: rest => bs.length + piecesLength rest
  | .guard _ _ :: rest => 6 + piecesLength rest

def holesOf : List (Piece ι) → ℕ → List (ℕ × ι)
  | [], _ => []
  | .code bs :: rest, start => holesOf rest (start + bs.length)
  | .guard _ label :: rest, start => (start + 2, label) :: holesOf rest (start + 6)

def unresolved : List (Piece ι) → List Byte
  | [] => []
  | .code bs :: rest => bs ++ unresolved rest
  | .guard cc _ :: rest => [0x0f#8, cc] ++ (le32 0#32 ++ unresolved rest)

def resolved (after : ι → ℕ) : List (Piece ι) → List Byte
  | [] => []
  | .code bs :: rest => bs ++ resolved after rest
  | .guard cc label :: rest =>
    [0x0f#8, cc] ++ (le32 (BitVec.ofNat 32 (piecesLength rest + after label)) ++ resolved after rest)

lemma length_resolved (after : ι → ℕ) (pieces : List (Piece ι)) :
    (resolved after pieces).length = piecesLength pieces := by
  induction pieces with
  | nil => rfl
  | cons piece rest ih =>
    cases piece with
    | code bs => simp only [resolved, piecesLength, List.length_append, ih]
    | guard cc label =>
      simp only [resolved, piecesLength, List.length_append, ih, le32, List.length_cons, List.length_nil]
      omega

lemma length_unresolved (pieces : List (Piece ι)) : (unresolved pieces).length = piecesLength pieces := by
  induction pieces with
  | nil => rfl
  | cons piece rest ih =>
    cases piece with
    | code bs => simp only [unresolved, piecesLength, List.length_append, ih]
    | guard cc label =>
      simp only [unresolved, piecesLength, List.length_append, ih, le32, List.length_cons, List.length_nil]
      omega

lemma resolved_append (after : ι → ℕ) (first second : List (Piece ι)) :
    resolved after (first ++ second) =
      resolved (fun label => piecesLength second + after label) first ++ resolved after second := by
  have hlength : ∀ pieces : List (Piece ι), piecesLength (pieces ++ second) =
      piecesLength pieces + piecesLength second := by
    intro pieces
    induction pieces with
    | nil => simp [piecesLength]
    | cons piece rest ih =>
      cases piece <;> simp only [List.cons_append, piecesLength, ih, Nat.add_assoc]
  induction first with
  | nil => rfl
  | cons piece rest ih =>
    cases piece with
    | code bs => simp only [List.cons_append, resolved, ih, List.append_assoc]
    | guard cc label => simp only [List.cons_append, resolved, ih, hlength, List.append_assoc, Nat.add_assoc]

lemma piecesLength_append (first second : List (Piece ι)) :
    piecesLength (first ++ second) = piecesLength first + piecesLength second := by
  rw [← length_resolved fun _ => 0, resolved_append, List.length_append, length_resolved, length_resolved]

lemma emit_emitPieces (pieces : List (Piece ι)) (bs : List Byte) :
    (emitPieces pieces).emit bs = some (holesOf pieces bs.length, bs ++ unresolved pieces) := by
  induction pieces generalizing bs with
  | nil =>
    change some ([], bs) = _
    simp only [unresolved, holesOf, List.append_nil]
  | cons piece rest ih =>
    cases piece with
    | code code =>
      simp only [emitPieces, emit_bind, emit_bytes, Option.bind_some, ih, List.length_append, unresolved, holesOf,
        List.append_assoc]
    | guard cc label =>
      simp only [emitPieces, emit_bind, emit_bytes, emit_hole, Option.bind_some, ih, List.length_append, unresolved,
        holesOf, List.append_assoc, le32, List.length_cons, List.length_nil]
      rfl

lemma emit_fixAll (pieces : List (Piece ι)) {target after : ι → ℕ} (bs tail : List Byte)
    (h : ∀ label, target label = bs.length + piecesLength pieces + after label) :
    (fixAll (holesOf pieces bs.length) target).emit (bs ++ unresolved pieces ++ tail) =
      some ((), bs ++ resolved after pieces ++ tail) := by
  induction pieces generalizing bs with
  | nil => rfl
  | cons piece rest ih =>
    cases piece with
    | code code =>
      have hrest := ih (bs ++ code) (fun label => by
        rw [h label, List.length_append, piecesLength]
        omega)
      simpa only [holesOf, unresolved, resolved, List.length_append, List.append_assoc] using hrest
    | guard cc label =>
      have hfirst := emit_fixTo (bs ++ [0x0f#8, cc]) (unresolved rest ++ tail) (piecesLength rest + after label)
      have htarget : target label = (bs ++ [0x0f#8, cc]).length + 4 + (piecesLength rest + after label) := by
        rw [h label, List.length_append, piecesLength, List.length_cons, List.length_cons, List.length_nil]
        omega
      have hrest := ih (bs ++ [0x0f#8, cc] ++ le32 (BitVec.ofNat 32 (piecesLength rest + after label)))
        (fun label => by
          rw [h label, piecesLength]
          simp only [List.length_append, le32, List.length_cons, List.length_nil]
          omega)
      rw [← htarget] at hfirst
      simp only [List.length_append, List.length_cons, List.length_nil, le32, List.append_assoc] at hfirst hrest
      simp only [holesOf, fixAll, emit_bind, unresolved, resolved, le32, List.append_assoc]
      rw [hfirst]
      exact hrest

end Pieces

section Size

def AtMost (m : Emit α) (k : ℕ) : Prop := ∀ c : Buffer, (m.write c).2.used ≤ c.used + k

variable {m m' : Emit α} {f : α → Emit β} {k j : ℕ}

lemma AtMost.mono (h : AtMost m k) (hk : k ≤ j) : AtMost m j := fun c => (h c).trans (by omega)

lemma atMost_pure (a : α) : AtMost (pure a : Emit α) k := fun c => Nat.le_add_right c.used k

lemma write_bind (m : Emit α) (f : α → Emit β) (c : Buffer) :
    (m >>= f).write c = (f (m.write c).1).write (m.write c).2 := by
  change (m.bind f).write c = _
  induction m generalizing c with
  | ret a => rfl
  | byte x next ih => exact ih _
  | used next ih => exact ih _ _
  | patch p word next ih => exact ih _

lemma capacity_write (m : Emit α) (c : Buffer) : (m.write c).2.capacity = c.capacity := by
  induction m generalizing c with
  | ret a => rfl
  | byte x next ih => exact (ih _).trans (c.capacity_push x)
  | used next ih => exact ih _ c
  | patch p word next ih => exact (ih _).trans (c.capacity_patch p word)

lemma AtMost.bind (h : AtMost m k) (h' : ∀ a, AtMost (f a) j) : AtMost (m >>= f) (k + j) := by
  intro c
  rw [write_bind]
  have hfirst := h c
  have hrest := h' (m.write c).1 (m.write c).2
  omega

lemma AtMost.ite {p : Prop} [Decidable p] (h : p → AtMost m k) (h' : ¬p → AtMost m' k) :
    AtMost (if p then m else m') k := by
  split
  next hp => exact h hp
  next hp => exact h' hp

lemma atMost_bytes (xs : List Byte) (h : xs.length ≤ k) : AtMost (bytes xs) k := by
  intro c
  induction xs generalizing c k with
  | nil => exact Nat.le_add_right _ _
  | cons x xs ih =>
    rw [List.length_cons] at h
    have hrest := @ih xs.length (le_refl _) (c.push x)
    change ((bytes xs).write (c.push x)).2.used ≤ _
    have hpush : (c.push x).used = c.used + 1 := rfl
    omega

lemma atMost_position : AtMost position 0 := fun c => le_refl c.used

lemma atMost_hole : AtMost hole 4 := fun c => le_refl (c.used + 4)

lemma atMost_fixTo (p target : ℕ) : AtMost (fixTo p target) 0 := fun c => le_refl c.used

lemma atMost_fix (p : ℕ) : AtMost (fix p) 0 := fun c => le_refl c.used

lemma atMost_fixAll {ι : Type} (holes : List (ℕ × ι)) (target : ι → ℕ) : AtMost (fixAll holes target) 0 := by
  induction holes with
  | nil => exact atMost_pure ()
  | cons hole rest ih => exact (atMost_fixTo hole.1 _).bind fun _ => ih

lemma atMost_emitPieces {ι : Type} (pieces : List (Piece ι)) : AtMost (emitPieces pieces) (piecesLength pieces) := by
  induction pieces with
  | nil => exact atMost_pure []
  | cons piece rest ih =>
    cases piece with
    | code bs => exact (atMost_bytes bs (le_refl _)).bind fun _ => ih
    | guard cc label =>
      have hhead := (atMost_bytes [0x0f#8, cc] (le_refl 2)).bind fun _ => atMost_hole.bind fun p =>
        ih.bind fun holes => @atMost_pure _ 0 ((p, label) :: holes)
      exact hhead.mono (by rw [piecesLength]; omega)

end Size

end Emit

end Nextcore
