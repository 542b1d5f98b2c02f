import Mathlib.Order.WellFoundedSet
import Mathlib.Tactic

/-! Members that list what they depend on by tag: cycles, orders that respect the lists, and the two
facts that connect them. -/
namespace Dependency
open List
variable {μ τ : Type} (tag : μ → τ) (dependencies ds : μ → List τ)

/-- Some member with tag `a` lists `b`. -/
def Edge (members : List μ) (a b : τ) : Prop := ∃ m ∈ members, tag m = a ∧ b ∈ dependencies m

/-- Every tag that is listed is the tag of a member. -/
def Closed (members : List μ) : Prop := ∀ m ∈ members, ∀ d ∈ dependencies m, d ∈ members.map tag

def Acyclic (members : List μ) : Prop := ∀ t, ¬ Relation.TransGen (Edge tag dependencies members) t t

/-- Everything that an element lists stands before it. -/
def Ordered (order : List μ) : Prop :=
  ∀ before m after, order = before++m::after → ∀ d ∈ dependencies m, d ∈ before.map tag

variable {tag dependencies ds}

lemma Ordered.nil : Ordered tag ds [] := by
  intro b m a h
  exact absurd h (by simp)

variable {o ms : List μ}

lemma Ordered.snoc (h : Ordered tag ds o) {m : μ} (hm : ∀ d ∈ ds m, d ∈ o.map tag) : Ordered tag ds (o++[m]) := by
  intro b n a hs
  rcases eq_nil_or_concat a with rfl | ⟨r,l,rfl⟩
  · obtain ⟨rfl,hl⟩ := append_inj' hs rfl
    cases hl
    exact hm
  · rw [concat_eq_append,← cons_append,← append_assoc] at hs
    exact h b n r (append_inj' hs rfl).1

variable {mm' : List μ}

lemma Edge.of_subset (hs : ms ⊆ mm') {a b : τ} (h : Edge tag ds ms a b) : Edge tag ds mm' a b := by
  obtain ⟨m,hm,ht,hb⟩ := h
  exact ⟨m,hs hm,ht,hb⟩

lemma Acyclic.of_subset (hs : ms ⊆ mm') (h : Acyclic tag ds mm') : Acyclic tag ds ms :=
  fun t ht => h t (Relation.TransGen.mono (fun _ _ he => he.of_subset hs) t t ht)

lemma Ordered.closed (h : Ordered tag ds o) : Closed tag ds o := by
  intro m hm d hd
  obtain ⟨b,a,rfl⟩ := append_of_mem hm
  have hb := h b m a rfl d hd
  rw [map_append]
  exact mem_append_left _ hb

lemma Ordered.idxOf_lt [DecidableEq τ] (h : Ordered tag ds o)
    (hn : (o.map tag).Nodup) {a b : τ} (he : Edge tag ds o a b) : (o.map tag).idxOf b < (o.map tag).idxOf a := by
  obtain ⟨m,hm,rfl,hb⟩ := he
  obtain ⟨bf,af,rfl⟩ := append_of_mem hm
  have hbf := h bf m af rfl b hb
  rw [map_append,map_cons] at hn ⊢
  have hnw : tag m ∉ bf.map tag := by
    intro hmm
    exact (nodup_append.mp hn).2.2 _ hmm _ mem_cons_self rfl
  rw [idxOf_append_of_mem hbf,idxOf_append_of_notMem hnw,idxOf_cons_self,Nat.add_zero]
  exact idxOf_lt_length_of_mem hbf

lemma Ordered.acyclic [DecidableEq τ] (h : Ordered tag ds o) (hn : (o.map tag).Nodup) : Acyclic tag ds o := by
  have hlt : ∀ {a b : τ}, Relation.TransGen (Edge tag ds o) a b →
      (o.map tag).idxOf b < (o.map tag).idxOf a := by
    intro a b hp
    induction hp with
    | single he => exact h.idxOf_lt hn he
    | tail _ he ih => exact (h.idxOf_lt hn he).trans ih
  intro t ht
  exact lt_irrefl _ (hlt ht)

/-- Where every listed tag is a member's and there is no cycle, some member is next as long as one is
left: it is not done, and all that it lists is done. -/
theorem exists_ready (dn : τ → Prop) (hc : Closed tag ds ms) (ha : Acyclic tag ds ms) (hl : ∃ m ∈ ms, ¬dn (tag m)) :
    ∃ m ∈ ms, ¬dn (tag m) ∧ ∀ d ∈ ds m, dn d := by
  classical
  let l (a b : τ) : Prop := Relation.TransGen (Edge tag ds ms) b a
  have hs : IsStrictOrder τ l :=
    { irrefl := ha
      trans := fun _ _ _ hab hbc => hbc.trans hab }
  -- the tags that are left are finitely many, so one of them reaches no other
  let lf : Set τ := {t | t ∈ ms.map tag ∧ ¬dn t}
  have hf : lf.Finite := (ms.map tag).finite_toSet.subset fun _ ht => ht.1
  obtain ⟨m₀,hm₀,hd₀⟩ := hl
  have hn : lf.Nonempty := ⟨tag m₀,mem_map_of_mem hm₀,hd₀⟩
  have hwf : lf.WellFoundedOn l := Set.Finite.wellFoundedOn hf
  obtain ⟨t,⟨ht,hdn⟩,hmn⟩ := Set.wellFoundedOn_iff.mp hwf |>.has_min lf hn
  obtain ⟨m,hm,rfl⟩ := mem_map.mp ht
  refine ⟨m,hm,hdn,fun d hd => ?_⟩
  by_contra hd'
  have hmm : d ∈ lf := ⟨hc m hm d hd,hd'⟩
  exact hmn d hmm ⟨.single ⟨m,hm,rfl,hd⟩,hmm,ht,hdn⟩

end Dependency
