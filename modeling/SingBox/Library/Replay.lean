import Mathlib.Tactic

/-! Sources that are read ahead. Blocks of elements are taken off a source and put back by wrappers,
one block for each wrapper; a wrapper yields its block before the source it wraps. -/

open List

/-- A source of elements `α` in states `σ`, with wrappers for blocks `β`. -/
structure Replay (σ β α : Type) where
  pending : σ → List α
  contents : β → List α
  cached : σ → β → σ
  pending_cached : ∀ source block, pending (cached source block) = contents block++pending source

lemma observe_foldl {σ β α : Type} (o : σ → α) {wp : σ → β → σ} (ws : List β)
    (h : ∀ wr ∈ ws, ∀ s, o (wp s wr) = o s) (s : σ) : o (ws.foldl wp s) = o s := by
  induction ws generalizing s with
  | nil => rfl
  | cons wr ws ih =>
    rw [foldl_cons,ih fun w hw => h w (mem_cons_of_mem _ hw)]
    exact h wr mem_cons_self s

namespace Replay
variable {σ β α : Type} (r : Replay σ β α)

def taken (blocks : List β) : List α := blocks.flatMap r.contents

lemma taken_concat (bs : List β) (b : β) : r.taken (bs++[b]) = r.taken bs++r.contents b := by
  rw [taken,taken,flatMap_append,flatMap_cons,flatMap_nil,append_nil]

lemma pending_foldl_cached (bs : List β) (s : σ) :
    r.pending (bs.foldl r.cached s) = r.taken bs.reverse++r.pending s := by
  induction bs generalizing s with
  | nil => rfl
  | cons b bs ih =>
    rw [foldl_cons,ih,r.pending_cached,reverse_cons,taken_concat,append_assoc]

lemma pending_foldl_cached_eq_iff {bs : List β} {s : σ} {rd o : List α} (h : rd++r.pending s = o) :
    r.pending (bs.foldl r.cached s) = o ↔ r.taken bs.reverse = rd := by
  rw [pending_foldl_cached,← h]
  exact append_left_inj _

end Replay
