import SingBox.Group.LateDials

/-! The outbound that `Select` of a URL-test group finds among delays of 16 bits. -/
namespace SingBox.Group.URLTestGroup
open List
variable {ω : Type} (g : URLTestGroup ω) {r : Reading ω} {outbounds currents : Set ω} {current : Option ω}

/-- An outbound that supports the network, with its delay. -/
def Tested (r : Reading ω) (outbound : ω) (delay : ℕ) : Prop :=
  r.supports outbound = true ∧ r.delay outbound = some delay

/-- The outbound is as fast as any other up to the tolerance, and it is the current one unless another is faster by
more than that. -/
structure Right (r : Reading ω) (current : Option ω) (outbound : ω) : Prop where
  bounded : ∃ delay, Tested r outbound delay ∧ ∀ x ∈ g.outbounds, ∀ d, Tested r x d → delay ≤ d+g.tolerance
  kept : ∀ x ∈ current, ∀ delay, r.delay x = some delay →
    outbound = x ∨ ∃ y ∈ g.outbounds, ∃ d, Tested r y d ∧ d+g.tolerance < delay

/-- `Select` finds the right outbound in a history, in which it reads the delay of the current one, too. -/
def SelectsRight (r : Reading ω) (current : Option ω) : Prop :=
  ∀ outbound, g.select current { r with current := current.bind r.delay } = some (outbound,true) →
    g.Right r current outbound

/-- A current outbound supports the network, and of two outbounds the first has a delay that does not stand for none and
the second is faster by more than the tolerance where the sum of 16 bits says so. -/
structure Comparable (r : Reading ω) (tolerance : ℕ) (outbounds currents : Set ω) : Prop where
  supports : ∀ x ∈ currents, ∀ d, r.delay x = some d → r.supports x = true
  faster : ∀ x ∈ outbounds ∪ currents, ∀ y ∈ outbounds, x ≠ y → ∀ d e, Tested r x d → Tested r y e →
    d ≠ 0 ∧ ((e+tolerance)%2^16 < d → e+tolerance < d)

/-- The current outbound is one of `currents` or, as one that an earlier `Select` found, one of the group's that supports
the network. -/
def IsCurrent (r : Reading ω) (outbounds currents : Set ω) (x : ω) : Prop :=
  x ∈ currents ∨ x ∈ outbounds ∧ r.supports x = true

/-- What the scan has found so far; without an outbound the delay is zero. -/
def Best (r : Reading ω) (members : Set ω) : Option ω × ℕ → Prop
  | (none,delay) => delay = 0
  | (some outbound,delay) => outbound ∈ members ∧ Tested r outbound delay

section
variable {g} (hc : Comparable r g.tolerance outbounds currents)
include hc

/-- What the scan begins with. -/
lemma select_eq (hcur : ∀ x ∈ current, IsCurrent r outbounds currents x) : ∃ b, Best r (outbounds ∪ currents) b ∧
    (∀ x ∈ current, ∀ d, r.delay x = some d → b = (some x,d)) ∧
    g.select current { r with current := current.bind r.delay } = match (g.outbounds.foldl (g.selectRound r) b).1 with
      | some mo => some (mo,true)
      | none => (g.outbounds.find? r.supports).map fun dt => (dt,false) := by
  cases current with
  | none => exact ⟨(none,0),rfl,by simp,rfl⟩
  | some x =>
    cases hx : r.delay x with
    | none =>
      refine ⟨(none,0),rfl,by simp [hx],?_⟩
      simp only [select,Option.bind_some,hx]
      rfl
    | some d =>
      have hm : x ∈ outbounds ∪ currents ∧ r.supports x = true := by
        rcases hcur x rfl with hm | ⟨hm,hs⟩
        · exact ⟨.inr hm,hc.supports x hm d hx⟩
        · exact ⟨.inl hm,hs⟩
      refine ⟨(some x,d),⟨hm.1,hm.2,hx⟩,by simp [hx],?_⟩
      simp only [select,Option.bind_some,hx]
      rfl

lemma selectRound_cases {b : Option ω × ℕ} (hb : Best r (outbounds ∪ currents) b) {dt : ω} (hdt : dt ∈ outbounds) :
    (g.selectRound r b dt = b ∧ ∀ d, Tested r dt d → b.1 ≠ none ∧ b.2 ≤ d+g.tolerance) ∨
    ∃ d, Tested r dt d ∧ (b.1 = none ∨ d+g.tolerance < b.2) ∧ g.selectRound r b dt = (some dt,d) := by
  by_cases hs : r.supports dt = true
  · cases hd : r.delay dt with
    | none => exact .inl ⟨by simp [selectRound,hs,hd],by simp [Tested,hd]⟩
    | some d =>
      have hr : g.selectRound r b dt = if b.2 = 0 ∨ (d+g.tolerance)%2^16 < b.2 then (some dt,d) else b := by
        simp only [selectRound,hs,hd,if_true]
      obtain ⟨_ | x,m⟩ := b
      · cases hb
        exact .inr ⟨d,⟨hs,hd⟩,.inl rfl,hr⟩
      obtain ⟨hx,ht⟩ := hb
      by_cases heq : x = dt
      · subst heq
        cases ht.2.symm.trans hd
        refine .inl ⟨by rw [hr,ite_self],fun d h => ?_⟩
        cases h.2.symm.trans hd
        exact ⟨by simp,Nat.le_add_right _ _⟩
      obtain ⟨hm,hf⟩ := hc.faster x hx dt hdt heq m d ht ⟨hs,hd⟩
      by_cases hw : (d+g.tolerance)%2^16 < m
      · exact .inr ⟨d,⟨hs,hd⟩,.inr (hf hw),by rw [hr,if_pos (.inr hw)]⟩
      · refine .inl ⟨by rw [hr,if_neg (not_or.mpr ⟨hm,hw⟩)],fun d' h => ⟨by simp,?_⟩⟩
        cases h.2.symm.trans hd
        exact (not_lt.mp hw).trans (Nat.mod_le _ _)
  · exact .inl ⟨by simp [selectRound,hs],fun d h => absurd h.1 hs⟩

/-- The delay of the scan bounds those of the outbounds that it went through, and it gives up what it began with only
for an outbound that is faster by more than the tolerance. -/
lemma foldl_selectRound (os : List ω) (hos : ∀ x ∈ os, x ∈ outbounds) {b : Option ω × ℕ}
    (hb : Best r (outbounds ∪ currents) b) :
    let l := os.foldl (g.selectRound r) b
    Best r (outbounds ∪ currents) l ∧ (∀ x ∈ os, ∀ d, Tested r x d → l.1 ≠ none ∧ l.2 ≤ d+g.tolerance) ∧
      (b.1 ≠ none → l.1 ≠ none ∧ l.2 ≤ b.2 ∧ (l = b ∨ ∃ x ∈ os, ∃ d, Tested r x d ∧ d+g.tolerance < b.2)) := by
  induction os using reverseRecOn with
  | nil => exact ⟨hb,by simp,fun h => ⟨h,le_rfl,.inl rfl⟩⟩
  | append_singleton os dt ih =>
    rw [foldl_concat]
    replace ih := ih fun x hx => hos x (mem_append_left _ hx)
    generalize os.foldl _ b = l at ih
    obtain ⟨hl,ha,hk⟩ := ih
    have hdt := hos dt (by simp)
    rcases selectRound_cases hc hl hdt with ⟨hs,ho⟩ | ⟨d,hd,hlt,hn⟩
    · rw [hs]
      refine ⟨hl,fun x hx => ?_,fun h => ?_⟩
      · rcases mem_append.mp hx with hx | hx
        · exact ha x hx
        · rwa [mem_singleton.mp hx]
      · obtain ⟨hne,hle,h⟩ := hk h
        exact ⟨hne,hle,h.imp_right fun ⟨x,hx,h⟩ => ⟨x,mem_append_left _ hx,h⟩⟩
    · rw [hn]
      refine ⟨⟨.inl hdt,hd⟩,fun x hx d' hd' => ⟨by simp,?_⟩,fun h => ⟨by simp,?_⟩⟩
      · rcases mem_append.mp hx with hx | hx
        · obtain ⟨hne,hle⟩ := ha x hx d' hd'
          have := hlt.resolve_left hne
          dsimp only
          omega
        · rw [mem_singleton.mp hx] at hd'
          cases hd.2.symm.trans hd'.2
          exact Nat.le_add_right d g.tolerance
      · obtain ⟨hne,hle,-⟩ := hk h
        have := hlt.resolve_left hne
        dsimp only
        exact ⟨by omega,.inr ⟨dt,by simp,d,hd,by omega⟩⟩

lemma selectsRight (hos : ∀ x ∈ g.outbounds, x ∈ outbounds)
    (hcur : ∀ x ∈ current, IsCurrent r outbounds currents x) : g.SelectsRight r current := by
  intro o h
  obtain ⟨b,hb,hst,hs⟩ := select_eq hc hcur
  obtain ⟨hl,ha,hk⟩ := foldl_selectRound hc g.outbounds hos hb
  rw [hs] at h
  generalize g.outbounds.foldl _ b = l at h hl ha hk
  obtain ⟨_ | x,delay⟩ := l
  · cases hf : g.outbounds.find? r.supports <;> simp [hf] at h
  · cases h
    refine ⟨⟨delay,hl.2,fun x hx d hd => (ha x hx d hd).2⟩,fun x hx d hd => ?_⟩
    rw [hst x hx d hd] at hk
    refine (hk (by simp)).2.2.imp_left fun h => ?_
    exact Option.some.inj (congrArg Prod.fst h)

end

end SingBox.Group.URLTestGroup
