import SingBox.Service.Resolved
import SingBox.Transport.Resolver

/-! The candidates that the DHCP transport and `resolved` make for a name out of their search domains. -/
namespace SingBox.Resolver
open Cut List
open DHCP (Name)

/-- The search domains in `nameList` of a link. -/
def linkSearch (link : Resolved.TransportLink) : List Name :=
  (link.domain.filter fun domain => !domain.routingOnly).map Resolved.LinkDomain.domain

/-- `TransportLink.nameList`. -/
def linkNameList (link : Resolved.TransportLink) (ndots : ℕ) (name : Name) : List Name :=
  nameList ndots (linkSearch link) name

/-- The name with a final dot. -/
def rooted (name : Name) : Name := if name.getLast? = some dot then name else name++[dot]

/-- A fully qualified candidate for a name. -/
structure Candidate (search : List Name) (name fqdn : Name) : Prop where
  qualified : fqdn.getLast? = some dot
  short : fqdn.length ≤ 254
  noOnion : ¬ onion <:+ fqdn.dropLast
  made : fqdn = rooted name ∨ ∃ suffix ∈ search, fqdn = rooted name++suffix

/-- The search domain goes behind the name, and what that makes is short and not under `.onion`. -/
def Appended (name suffix : Name) : Prop :=
  name.getLast? ≠ some dot ∧ name.length+1+suffix.length ≤ 254 ∧ ¬ onion <:+ name++dot::suffix

section
variable {ns : ℕ} {sr : List Name} {n f : Name}

lemma getLast?_rooted (n : Name) : (rooted n).getLast? = some dot := by
  unfold rooted
  split_ifs with hr
  · exact hr
  · simp

lemma mem_nameList (h : f ∈ nameList ns sr n) : avoidDNS f = false ∧ f.length ≤ 254 ∧
    (f = rooted n ∨ n.getLast? ≠ some dot ∧ ∃ s ∈ sr, f = rooted n++s) := by
  have ho : ∀ {c : Prop} [Decidable c], f ∈ (if c ∧ avoidDNS (n++[dot]) = false then
      [n++[dot]] else []) → f = n++[dot] ∧ avoidDNS f = false := by
    intro c _ hmm
    split_ifs at hmm with hc
    · rw [mem_singleton.mp hmm]
      exact ⟨rfl,hc.2⟩
    · cases hmm
  by_cases hln : 254 < n.length ∨ n.length = 254 ∧ ¬ n.getLast? = some dot
  · rw [nameList,if_pos hln] at h
    cases h
  by_cases hr : n.getLast? = some dot
  · rw [nameList,if_neg hln,if_pos hr] at h
    split_ifs at h with hd
    · cases h
    · rw [mem_singleton.mp h,rooted,if_pos hr]
      exact ⟨Bool.eq_false_iff.mpr hd,by omega,.inl rfl⟩
  · rw [nameList,if_neg hln,if_neg hr] at h
    rw [rooted,if_neg hr]
    have hl : (n++[dot]).length ≤ 254 := by
      have hne : n.length ≠ 254 := fun heq => hln (.inr ⟨heq,hr⟩)
      rw [length_append,length_singleton]
      omega
    rcases mem_append.mp h with h | h
    · rcases mem_append.mp h with h | h
      · obtain ⟨rfl,hd⟩ := ho h
        exact ⟨hd,hl,.inl rfl⟩
      · obtain ⟨hm,hk⟩ := mem_filter.mp h
        obtain ⟨s,hs,rfl⟩ := mem_map.mp hm
        simp only [Bool.and_eq_true,Bool.not_eq_true',decide_eq_true_eq] at hk
        exact ⟨hk.1,hk.2,.inr ⟨hr,s,hs,rfl⟩⟩
    · obtain ⟨rfl,hd⟩ := ho h
      exact ⟨hd,hl,.inl rfl⟩

lemma Candidate.of_mem (h : f ∈ nameList ns sr n) (hd : f.getLast? = some dot) : Candidate sr n f := by
  obtain ⟨hdn,hs,hm⟩ := mem_nameList h
  refine ⟨hd,hs,?_,hm.imp_right And.right⟩
  have hne : f ≠ [] := by
    rintro rfl
    cases hd
  rw [avoidDNS,if_neg hne,if_pos hd] at hdn
  rw [← isSuffixOf_iff_suffix,hdn]
  exact Bool.false_ne_true

lemma nameList_candidates_iff (ns : ℕ) (sr : List Name) (n : Name) : (∀ f ∈ nameList ns sr n, Candidate sr n f) ↔
      ∀ s ∈ sr, Appended n s → s = [] ∨ s.getLast? = some dot := by
  have hl : ∀ s, (rooted n++s).getLast? = some dot ↔ s = [] ∨ s.getLast? = some dot := by
    intro s
    by_cases he : s = []
    · simp [he,getLast?_rooted]
    · simp [he,getLast?_append_of_ne_nil _ he]
  have hav : ∀ s, n.getLast? ≠ some dot → ¬ (s = [] ∨ s.getLast? = some dot) →
      (avoidDNS (n++[dot]++s) = false ↔ ¬ onion <:+ n++dot::s) := by
    intro s hr hs
    have hd := (hl s).not.mpr hs
    rw [rooted,if_neg hr] at hd
    rw [avoidDNS,if_neg (by simp),if_neg hd,← isSuffixOf_iff_suffix,Bool.not_eq_true,append_assoc]
    rfl
  constructor
  · rintro h s hs ⟨hr,hln,ho⟩
    by_contra hc
    refine hc ((hl s).mp (h _ ?_).qualified)
    rw [rooted,if_neg hr,nameList,if_neg (by omega),if_neg hr]
    refine mem_append_left _ (mem_append_right _ (mem_filter.mpr ⟨mem_map.mpr ⟨s,hs,rfl⟩,?_⟩))
    simp only [(hav s hr hc).mpr ho,length_append,length_singleton,hln,Bool.not_false,decide_true,Bool.and_self]
  · intro h f hm
    refine .of_mem hm ?_
    obtain ⟨hd,hln,rfl | ⟨hr,s,hs,rfl⟩⟩ := mem_nameList hm
    · exact getLast?_rooted n
    · refine (hl s).mpr (by_contra fun hc => hc (h s hs ⟨hr,?_,?_⟩))
      · rwa [rooted,if_neg hr,length_append,length_append,length_singleton] at hln
      · rw [rooted,if_neg hr] at hd
        exact (hav s hr hc).mp hd

end

end SingBox.Resolver
