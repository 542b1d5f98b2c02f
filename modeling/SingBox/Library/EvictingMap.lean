import Mathlib.Tactic

/-! Maps that may forget: a lookup finds what was inserted last under the key, or nothing. -/

structure EvictingMap (μ κ ν : Type) where
  empty : μ
  lookup : μ → κ → Option ν
  insert : μ → κ → ν → μ
  erase : μ → κ → μ
  clear : μ → μ
  lookup_empty : ∀ k, lookup empty k = none
  lookup_insert : ∀ m k v k' v', lookup (insert m k v) k' = some v' → k' = k ∧ v' = v ∨ k' ≠ k ∧ lookup m k' = some v'
  lookup_erase : ∀ m k k' v, lookup (erase m k) k' = some v → lookup m k' = some v
  lookup_clear : ∀ m k, lookup (clear m) k = none

namespace EvictingMap
variable {μ κ ν : Type} (o : EvictingMap μ κ ν)

/-- Every entry satisfies `P`. -/
def All (P : κ → ν → Prop) (m : μ) : Prop := ∀ k v, o.lookup m k = some v → P k v

variable {o} {P Q : κ → ν → Prop} {m : μ}

lemma All.empty : o.All P o.empty := by
  intro k v h
  rw [o.lookup_empty] at h
  cases h

lemma All.insert (h : o.All P m) {k : κ} {v : ν} (hv : P k v) : o.All P (o.insert m k v) := by
  intro k' v' hk
  rcases o.lookup_insert m k v k' v' hk with ⟨rfl,rfl⟩ | ⟨_,hk⟩
  · exact hv
  · exact h k' v' hk

lemma All.erase (h : o.All P m) (k : κ) : o.All P (o.erase m k) :=
  fun k' v hk => h k' v (o.lookup_erase m k k' v hk)

lemma All.clear : o.All P (o.clear m) := by
  intro k v h
  rw [o.lookup_clear] at h
  cases h

lemma All.mono (h : o.All P m) (hPQ : ∀ k v, P k v → Q k v) : o.All Q m :=
  fun k v hk => hPQ k v (h k v hk)

def total [DecidableEq κ] : EvictingMap (κ → Option ν) κ ν where
  empty _ := none
  lookup m k := m k
  insert m k v := Function.update m k (some v)
  erase m k := Function.update m k none
  clear _ _ := none
  lookup_empty _ := rfl
  lookup_insert m k v k' v' h := by
    by_cases hk : k' = k
    · subst hk
      rw [Function.update_self] at h
      exact Or.inl ⟨rfl,(Option.some.inj h).symm⟩
    · rw [Function.update_of_ne hk] at h
      exact Or.inr ⟨hk,h⟩
  lookup_erase m k k' v h := by
    by_cases hk : k' = k
    · subst hk
      rw [Function.update_self] at h
      cases h
    · rwa [Function.update_of_ne hk] at h
  lookup_clear _ _ := rfl

end EvictingMap
