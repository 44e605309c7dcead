import Mathlib.Tactic.Lemma

/-! Callbacks of an owner that keeps more than another: the record of its exchanges. -/

namespace Nextcore.Recorder

variable {σ σ' ρ Q C R : Type}

def Shows (view : σ' → σ) (call' : σ' → Q → σ' × C × R) (call : σ → Q → σ × C × R) : Prop :=
  ∀ owner q, call (view owner) q = (view (call' owner q).1, (call' owner q).2)

structure Exchange (Q C R : Type) where
  request : Q
  code : C
  reply : R
  deriving DecidableEq

def record (call : σ → Q → σ × C × R) (owner : σ × List (Exchange Q C R)) (q : Q) :
    (σ × List (Exchange Q C R)) × C × R :=
  (((call owner.1 q).1, owner.2 ++ [⟨q, (call owner.1 q).2.1, (call owner.1 q).2.2⟩]), (call owner.1 q).2)

def silent (call : σ → Q → σ × C × R) (owner : σ × ρ) (q : Q) : (σ × ρ) × C × R :=
  (((call owner.1 q).1, owner.2), (call owner.1 q).2)

lemma record_shows (call : σ → Q → σ × C × R) : Shows Prod.fst (record call) call := fun _ _ => rfl

lemma silent_shows (call : σ → Q → σ × C × R) : Shows (Prod.fst : σ × ρ → σ) (silent call) call := fun _ _ => rfl

end Nextcore.Recorder
