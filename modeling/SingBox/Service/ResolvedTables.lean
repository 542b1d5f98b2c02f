import SingBox.Library.Run
import SingBox.Service.Resolved

/-! The three tables of the resolved service: the links, the order of the default routes and the servers. What a query
finds in them, and what an update of the network leaves of them. -/
namespace SingBox.Resolved
open Adapter List

namespace State

variable (s : State) (byIndex : ℤ → Except GoError InterfaceRef)

lemma lookup_foldl_erase (d : List ℤ) (ls : AList fun _ : ℤ => TransportLink) (i : ℤ) :
    (d.foldl (fun ls ii => ls.erase ii) ls).lookup i = if i ∈ d then none else ls.lookup i := by
  induction d generalizing ls with
  | nil => rfl
  | cons j d ih =>
    rw [foldl_cons,ih]
    by_cases hi : i ∈ d
    · rw [if_pos hi,if_pos (mem_cons_of_mem j hi)]
    · rw [if_neg hi]
      by_cases hij : i = j
      · subst hij
        rw [AList.lookup_erase,if_pos mem_cons_self]
      · have hc : i ∉ j::d := fun hm => (mem_cons.mp hm).elim hij hi
        rw [AList.lookup_erase_ne hij,if_neg hc]

lemma foldl_updateRound (es : List (Sigma fun _ : ℤ => TransportLink)) : es.foldl updateRound s = { s with
      defaultRouteSequence := s.defaultRouteSequence.filter (· ∉ es.map Sigma.fst)
      linkServers := fun id => if id ∈ es.map (fun e => e.2.id) then none else s.linkServers id } := by
  induction es generalizing s with
  | nil => simp
  | cons e es ih =>
    rw [foldl_cons,ih]
    simp only [updateRound,deleteTransport,filter_filter,map_cons,mem_cons]
    congr 1
    · refine filter_congr fun i _ => ?_
      rw [← Bool.decide_and]
      exact decide_eq_decide.mpr (by tauto)
    · funext id
      by_cases hid : id = e.2.id
      · simp [hid]
      · rw [Function.update_of_ne hid]
        by_cases hm : id ∈ es.map fun e => e.2.id
        · rw [if_pos hm,if_pos (.inr hm)]
        · rw [if_neg hm,if_neg (not_or.mpr ⟨hid,hm⟩)]

lemma lookup_networkUpdated (i : ℤ) :
    (s.networkUpdated byIndex).links.lookup i = (s.links.lookup i).filter (unchanged byIndex i) := by
  rw [networkUpdated,foldl_updateRound]
  simp only
  rw [lookup_foldl_erase]
  cases hl : s.links.lookup i with
  | none =>
    rw [ite_self]
    rfl
  | some link =>
    have he := AList.mem_lookup_iff.mp hl
    by_cases hs : unchanged byIndex i link = true
    · rw [if_neg,Option.filter_some_pos hs]
      intro hd
      obtain ⟨⟨j,o⟩,ho,rfl⟩ := mem_map.mp hd
      obtain ⟨ho,hc⟩ := mem_filter.mp ho
      cases (AList.mem_lookup_iff.mpr ho).symm.trans hl
      simp [hs] at hc
    · rw [if_pos,Option.filter_some_neg (Bool.not_eq_true _ ▸ hs)]
      exact mem_map.mpr ⟨⟨i,link⟩,mem_filter.mpr ⟨he,by simp [hs]⟩,rfl⟩

lemma sequence_networkUpdated : (s.networkUpdated byIndex).defaultRouteSequence =
    s.defaultRouteSequence.filter fun i => (s.links.lookup i).isNone := by
  rw [networkUpdated,foldl_updateRound]
  refine filter_congr fun i _ => ?_
  rw [Bool.eq_iff_iff,decide_eq_true_iff,Option.isNone_iff_eq_none,AList.lookup_eq_none]
  exact Iff.rfl

variable {link : TransportLink}

lemma linkServers_networkUpdated {i : ℤ} (h : s.links.lookup i = some link) :
    (s.networkUpdated byIndex).linkServers link.id = none := by
  rw [networkUpdated,foldl_updateRound]
  have hid : link.id ∈ s.links.entries.map fun e => e.2.id := mem_map.mpr ⟨⟨i,link⟩,AList.mem_lookup_iff.mp h,rfl⟩
  exact if_pos hid

/-- An update leaves a link alone whose interface is the same, and takes another one out of all tables. -/
structure LeavesOthers (s' : State) : Prop where
  links : ∀ i link, s.links.lookup i = some link → unchanged byIndex i link = true →
    s'.links.lookup i = some link ∧ s'.linkServers link.id = s.linkServers link.id
  order : s'.defaultRouteSequence.filter (fun i => (s.links.lookup i).any (unchanged byIndex i)) =
    s.defaultRouteSequence.filter fun i => (s.links.lookup i).any (unchanged byIndex i)
  gone : ∀ i link, s.links.lookup i = some link → unchanged byIndex i link = false →
    s'.links.lookup i = none ∧ s'.linkServers link.id = none ∧ i ∉ s'.defaultRouteSequence

variable {s byIndex}

lemma not_mem_sequence_networkUpdated {i : ℤ} (h : s.links.lookup i = some link) :
    i ∉ (s.networkUpdated byIndex).defaultRouteSequence := by
  rw [sequence_networkUpdated]
  intro hm
  have hn := (mem_filter.mp hm).2
  rw [h] at hn
  cases hn

end State

/-- An update leaves the other links alone exactly where those have neither servers nor a place among the default
routes. -/
theorem leavesOthers_iff (s : State) (byIndex : ℤ → Except GoError InterfaceRef) :
    s.LeavesOthers byIndex (s.networkUpdated byIndex) ↔
      ∀ i link, s.links.lookup i = some link → State.unchanged byIndex i link = true →
        s.linkServers link.id = none ∧ i ∉ s.defaultRouteSequence := by
  constructor
  · intro h i link hl hs
    refine ⟨?_,fun hm => ?_⟩
    · rw [← (h.links i link hl hs).2]
      exact s.linkServers_networkUpdated byIndex hl
    · have hp : i ∈ s.defaultRouteSequence.filter fun j => (s.links.lookup j).any (State.unchanged byIndex j) := by
        refine mem_filter.mpr ⟨hm,?_⟩
        rw [hl]
        exact hs
      rw [← h.order] at hp
      exact State.not_mem_sequence_networkUpdated hl (mem_filter.mp hp).1
  · intro h
    refine ⟨fun i link hl hs => ⟨?_,?_⟩,?_,fun i link hl hc => ⟨?_,?_,?_⟩⟩
    · rw [State.lookup_networkUpdated,hl,Option.filter_some_pos hs]
    · rw [s.linkServers_networkUpdated byIndex hl,(h i link hl hs).1]
    · -- neither order has a link that stays
      have hn : ∀ o : List ℤ, (∀ i ∈ o, i ∈ s.defaultRouteSequence) →
          o.filter (fun i => (s.links.lookup i).any (State.unchanged byIndex i)) = [] := by
        intro o ho
        refine filter_eq_nil_iff.mpr fun i hi ha => ?_
        obtain ⟨link,hl,hs⟩ := (Option.any_eq_true _ _).mp ha
        exact (h i link hl hs).2 (ho i hi)
      rw [hn _ fun i hi => hi,hn]
      rw [State.sequence_networkUpdated]
      exact fun i hi => (mem_filter.mp hi).1
    · rw [State.lookup_networkUpdated,hl,Option.filter_some_neg hc]
    · exact s.linkServers_networkUpdated byIndex hl
    · exact State.not_mem_sequence_networkUpdated hl

def twoLinks : State :=
  [Event.setLinkDNS 1 (.ok 7) [⟨[1,1,1,1]⟩],.setLinkDefaultRoute 1 (.ok 7) true,
    .setLinkDNS 2 (.ok 8) [⟨[8,8,8,8]⟩]].foldl State.next {}

def onlyFirst (i : ℤ) : Except GoError InterfaceRef := if i = 1 then .ok 7 else .error { text := "no such network interface" }

/-- The first link loses its servers and the default route, and names are no longer resolved. -/
theorem lost_interface_stops_other_link :
    (∃ link, twoLinks.links.lookup 1 = some link ∧ State.unchanged onlyFirst 1 link = true ∧
      (twoLinks.linkServers link.id).isSome ∧ (twoLinks.networkUpdated onlyFirst).linkServers link.id = none) ∧
    twoLinks.defaultRouteSequence = [1] ∧ (twoLinks.networkUpdated onlyFirst).defaultRouteSequence = [] ∧
    (∃ link servers, twoLinks.exchange true (twoLinks.links.entries.map Sigma.snd) (ascii "a.") =
      .exchange link servers) ∧ (twoLinks.networkUpdated onlyFirst).exchange true
      ((twoLinks.networkUpdated onlyFirst).links.entries.map Sigma.snd) (ascii "a.") = .nameError := by
  refine ⟨⟨_,rfl,rfl,rfl,rfl⟩,rfl,rfl,⟨_,_,rfl⟩,rfl⟩

end SingBox.Resolved
