import Mathlib.Tactic

/-! Threads as a list: a step puts another stage in the place of one thread, or takes the thread out. Threads as a
family: a step changes one member. -/
namespace Threads
open List Function
variable {α : Type}

lemma sum_update_add {ι M : Type} [DecidableEq ι] [Fintype ι] [AddCommMonoid M] (ts : ι → α) (f : α → M) (i : ι)
    (t : α) : ∑ j, f (update ts i t j)+f (ts i) = ∑ j, f (ts j)+f t := by
  have hu : ∀ j ∈ Finset.univ.erase i, f (update ts i t j) = f (ts j) := by
    intro j hj
    rw [update_of_ne (Finset.ne_of_mem_erase hj)]
  rw [← Finset.add_sum_erase Finset.univ (fun j => f (ts j)) (Finset.mem_univ i),
    ← Finset.add_sum_erase Finset.univ (fun j => f (update ts i t j)) (Finset.mem_univ i),
    update_self,Finset.sum_congr rfl hu]
  abel

lemma exists_split {ts : List α} {i : ℕ} {t : α} (h : ts[i]? = some t) :
    ∃ b a, ts = b++t::a ∧ ts.eraseIdx i = b++a ∧ ∀ t', ts.set i t' = b++t'::a := by
  obtain ⟨hi,rfl⟩ := List.getElem?_eq_some_iff.mp h
  refine ⟨ts.take i,ts.drop (i+1),?_,eraseIdx_eq_take_drop_succ ts i,fun t' => ?_⟩
  · rw [← drop_eq_getElem_cons hi,take_append_drop]
  · rw [set_eq_take_append_cons_drop,if_pos hi]

variable {β : Type} (hold : α → Option β)

def held (threads : List α) : Multiset β := ↑(threads.filterMap hold)

lemma held_concat (ts : List α) (t : α) : held hold (ts++[t]) = held hold ts+↑(hold t).toList := by
  unfold held
  rw [filterMap_append,← Multiset.coe_add]
  cases ht : hold t <;> simp [ht]

lemma exists_held {ts : List α} {i : ℕ} {t : α} (h : ts[i]? = some t) :
    ∃ r, held hold ts = ↑(hold t).toList+r ∧ held hold (ts.eraseIdx i) = r ∧
      ∀ t', held hold (ts.set i t') = ↑(hold t').toList+r := by
  obtain ⟨bf,a,hth,he,hs⟩ := exists_split h
  have hm : ∀ t', held hold (bf++t'::a) = ↑(hold t').toList+held hold (bf++a) := by
    intro t'
    unfold held
    rw [filterMap_append,filterMap_append,← Multiset.coe_add,← Multiset.coe_add]
    cases ht : hold t' with
    | none => simp [ht]
    | some =>
      rw [filterMap_cons_some ht,Option.toList_some,← Multiset.cons_coe,Multiset.coe_singleton,
        ← Multiset.singleton_add]
      abel
  refine ⟨held hold (bf++a),?_,?_,fun t' => ?_⟩
  · rw [hth,hm]
  · rw [he]
  · rw [hs,hm]

lemma eq_of_held {ts : List α} (h : (held hold ts).Nodup) {i j : ℕ} {b : β}
    (hi : ts[i]?.bind hold = some b) (hj : ts[j]?.bind hold = some b) : i = j := by
  have hp : ts.Pairwise fun x y => ∀ b, hold x = some b → ∀ b', hold y = some b' → b ≠ b' := by
    exact pairwise_filterMap.mp (Multiset.coe_nodup.mp h)
  obtain ⟨x,hx,hxb⟩ := Option.bind_eq_some_iff.mp hi
  obtain ⟨y,hy,hyb⟩ := Option.bind_eq_some_iff.mp hj
  obtain ⟨hil,rfl⟩ := List.getElem?_eq_some_iff.mp hx
  obtain ⟨hjl,rfl⟩ := List.getElem?_eq_some_iff.mp hy
  rcases lt_trichotomy i j with hlt | heq | hlt
  · exact absurd rfl (pairwise_iff_getElem.mp hp i j hil hjl hlt b hxb b hyb)
  · exact heq
  · exact absurd rfl (pairwise_iff_getElem.mp hp j i hjl hil hlt b hyb b hxb)

end Threads
