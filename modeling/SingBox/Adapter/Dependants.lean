import SingBox.Adapter.OutboundManager
import SingBox.DNS.TransportManager

/-! The two managers over whole runs: their members start in the order of their dependencies, and which calls
keep the reverse index of dependencies exact. -/
namespace SingBox.Adapter

/-- Outbound `a` depends on endpoint `b`, which starts first. -/
def dependsOnEndpoint : Outbound.Manager :=
  Outbound.next (Outbound.newManager ⟨[⟨0,"b","",[],.legacy none none none⟩],1,by simp⟩ "a")
    (.create "a" (.ok { dependencies := ["b"] }) none)

/-- Server `a` depends on server `b`, which starts first. -/
def dependsOnServer : DNS.TransportManager :=
  DNS.nextTransports (DNS.nextTransports (DNS.newTransportManager "a")
    (.create "a" (.ok { dependencies := ["b"] }) none)) (.create "b" (.ok {}) none)

example : (dependsOnEndpoint.startOutbounds (dependsOnEndpoint.members++dependsOnEndpoint.endpoint.endpoints) 3).map
      (fun r => (r.1.map Member.tag,r.2)) = some (["b","a"],.ok) ∧
    (dependsOnServer.startTransports dependsOnServer.members 3).map (fun r => (r.1.map Member.tag,r.2)) =
      some (["b","a"],.ok) := by
  decide

end SingBox.Adapter

namespace SingBox.Outbound
open Adapter

/-- An outbound that replaces another depends on all that the other depended on; who is removed while others
depend on it depends on nothing; and the records of who is removed otherwise are dropped cleanly. -/
def KeepsIndex (m : Manager) : Event → Prop
  | .create tag made closeErr => (m.create tag made closeErr).2 = .ok → ∀ old new, m.byTag tag = some old →
      made = .ok new → old.dependencies ⊆ new.dependencies
  | .remove tag _ => ∀ old, m.byTag tag = some old →
      if m.dependByTag tag = [] then m.toRegistry.DropsCleanly tag old else old.dependencies = []
  | .start _ _ => True

/-- The index is exact, and so a call of `Remove` fails, where closing does not, exactly for who is depended
on. -/
structure DependantsExact (m : Manager) : Prop where
  index : m.toRegistry.IndexExact
  refused_iff : ∀ tag old, m.byTag tag = some old → ((m.remove tag none).2 ≠ .ok ↔
    ∃ a o, m.byTag a = some o ∧ tag ∈ o.dependencies)

variable {m : Manager}

lemma dependantsExact_iff (h : m.toRegistry.Sound) : DependantsExact m ↔ m.toRegistry.IndexExact := by
  refine ⟨DependantsExact.index,fun he => ⟨he,fun t o ho => ?_⟩⟩
  rw [← he.ne_nil_iff]
  obtain ⟨hd,e,heq⟩ | ⟨hd,c,r,heq,-,⟨-,hok⟩ | ⟨hn,-⟩⟩ := remove_of_listed ho (h.isListed ho) none
  · rw [heq]
    exact ⟨fun _ => hd,fun _ => by simp⟩
  · rw [heq]
    exact ⟨fun hne => absurd hok hne,fun hne => absurd hd hne⟩
  · exact absurd (fun _ => rfl) hn

lemma keepsIndex_iff (h : Inv m) (he : m.toRegistry.IndexExact) (ev : Event) :
    KeepsIndex m ev ↔ (next m ev).toRegistry.IndexExact := by
  cases ev with
  | create t md ce =>
    rw [next]
    obtain ⟨hf,cr,-,heq⟩ | ⟨hok,n,hnw,-,c,heq,-⟩ := create_cases h.sound t md ce
    · rw [heq]
      exact ⟨fun _ => he,fun _ hok => absurd hok hf⟩
    · rw [heq,register_toRegistry]
      refine Iff.trans ?_ (he.put_iff (n.member m.created t)).symm
      constructor
      · exact fun hk o ho => hk hok o n ho hnw
      · rintro hs - o n' ho hn'
        cases hnw.symm.trans hn'
        exact hs o ho
  | remove t ce =>
    rw [next,KeepsIndex]
    cases ho : m.byTag t with
    | none =>
      rw [Manager.remove,ho]
      exact ⟨fun _ => he,fun _ o ho => by cases ho⟩
    | some =>
      simp only [Option.some.injEq,forall_eq']
      obtain ⟨hd,er,heq⟩ | ⟨hd,c,r,heq,-⟩ := remove_of_listed ho (h.sound.isListed ho) ce
      · rw [heq,if_neg hd]
        exact (he.unregister_iff ho).symm
      · rw [heq,if_pos hd]
        exact (he.forget_iff ho).symm
  | start st f =>
    refine ⟨fun _ => ?_,fun _ => trivial⟩
    rw [next,start_fst]
    split_ifs
    · exact he
    · obtain ⟨-,-,er,heq⟩ | ⟨-,heq⟩ | ⟨-,-,e,-,heq⟩ | ⟨hn,ht,s,heq⟩ :=
        chooseDefault_cases (m.begun st) f
      · rw [heq]
        exact he
      · rw [heq]
        exact he
      · rw [heq]
        exact he
      · rw [heq]
        refine (he.addFallback_iff ⟨m.created,"direct","direct",[],s⟩ rfl).mpr ?_
        intro o ho
        rw [h.byTag_of_empty (h.empty ht hn)] at ho
        cases ho
    · exact he

end SingBox.Outbound

namespace SingBox.DNS
open Adapter

/-- A transport that replaces another depends on all that the other depended on, and a fallback on as much; who
is removed while others depend on it depends on nothing; and who is removed otherwise is not the default in front of a
server that is not FakeIP, and its records are dropped cleanly. -/
def KeepsTransportIndex (m : TransportManager) : TransportEvent → Prop
  | .create tag made closeErr => ∀ old new, m.byTag tag = some old → m.accept tag made closeErr = .ok new →
      old.dependencies ⊆ new.dependencies
  | .remove tag => ∀ old, m.byTag tag = some old → if m.dependByTag tag = [] then
      ¬ m.RefusesNext old ∧ m.toRegistry.DropsCleanly tag old else old.dependencies = []
  | .start stage fallback => m.FallsBack stage fallback → ∀ old, m.byTag "local" = some old → old.dependencies = []

/-- A call leaves the index exact, and a call of `Remove` fails exactly for who is depended on. -/
structure TransportCallExact (m : TransportManager) (event : TransportEvent) : Prop where
  index : (nextTransports m event).toRegistry.IndexExact
  refused_iff : ∀ tag old, event = .remove tag → m.byTag tag = some old → ((m.remove tag).2 ≠ .ok ↔
    ∃ a o, m.byTag a = some o ∧ tag ∈ o.dependencies)

variable {m : TransportManager}

lemma keepsTransportIndex_iff (h : m.toRegistry.Sound) (he : m.toRegistry.IndexExact) (e : TransportEvent) :
    KeepsTransportIndex m e ↔ TransportCallExact m e := by
  have hc : (∀ t, e ≠ .remove t) → (TransportCallExact m e ↔ (nextTransports m e).toRegistry.IndexExact) :=
    fun hn => ⟨TransportCallExact.index,fun h => ⟨h,fun t _ ht => absurd ht (hn t)⟩⟩
  cases e with
  | create t md ce =>
    rw [hc (by simp),nextTransports,KeepsTransportIndex]
    cases ha : m.accept t md ce with
    | error =>
      rw [create_of_error ha]
      exact ⟨fun _ => he,fun _ o n _ hn => by cases hn⟩
    | ok n =>
      rw [create_of_ok ha,assignRoles_toRegistry]
      refine Iff.trans ?_ (he.put_iff n).symm
      rw [(accept_ok ha).2]
      constructor
      · exact fun hk o ho => hk o n ho rfl
      · rintro hs o n' ho ⟨⟩
        exact hs o ho
  | remove t =>
    have hr : TransportCallExact m (.remove t) ↔ (m.remove t).1.toRegistry.IndexExact ∧
        ∀ o, m.byTag t = some o → ((m.remove t).2 ≠ .ok ↔ m.dependByTag t ≠ []) := by
      simp only [he.ne_nil_iff]
      constructor
      · exact fun h => ⟨h.index,fun o ho => h.refused_iff t o rfl ho⟩
      · rintro ⟨hi,hf⟩
        refine ⟨hi,?_⟩
        rintro _ o ⟨⟩ ho
        exact hf o ho
    rw [hr,KeepsTransportIndex]
    cases ho : m.byTag t with
    | none =>
      rw [TransportManager.remove,ho]
      exact ⟨fun _ => ⟨he,fun o ho => by cases ho⟩,fun _ o ho => by cases ho⟩
    | some o =>
      simp only [Option.some.injEq,forall_eq']
      obtain ⟨hs,er,heq⟩ | ⟨hn,hd,heq⟩ := remove_of_listed ho (h.isListed ho)
      · rw [heq]
        by_cases hd : m.dependByTag t = []
        · rw [if_pos hd]
          exact iff_of_false (fun hk => hk.1 (hs.resolve_right (not_not.mpr hd))) fun hk => hk.2.mp (by simp) hd
        · rw [if_neg hd,and_iff_left ⟨fun _ => hd,fun _ => by simp⟩]
          exact (he.unregister_iff ho).symm
      · rw [heq,if_pos hd,and_iff_right hn,and_iff_left ⟨fun hne => absurd rfl hne,fun hne => absurd hd hne⟩]
        exact (he.forget_iff ho).symm
  | start st f =>
    rw [hc (by simp),nextTransports,KeepsTransportIndex]
    obtain ⟨-,-,⟨hnt,heq,-⟩ | ⟨hf,s,-,heq⟩⟩ := start_roles m st f
    · rw [heq]
      exact ⟨fun _ => he,fun _ hf => absurd hf hnt⟩
    · rw [heq]
      refine Iff.trans ⟨fun hk => hk hf,fun hk _ => hk⟩ ?_
      exact (he.addFallback_iff ⟨m.created,"local","local",[],s⟩ rfl).symm

end SingBox.DNS

namespace SingBox.Adapter
open Outbound DNS

/-- Calls on the two managers from their making on: the recorded dependants are exact after each call, and removals are
refused exactly for who is depended on, exactly where each call keeps the index. -/
theorem dependants_exact_iff_keepsIndex (endpoint : EndpointManager) (defaultTag : String) (events : List Event)
    (defaultServer : String) (transportEvents : List TransportEvent) :
    (Run.Along next KeepsIndex (newManager endpoint defaultTag) events ↔
      Run.Throughout next DependantsExact (newManager endpoint defaultTag) events) ∧
    (Run.Along nextTransports KeepsTransportIndex (newTransportManager defaultServer) transportEvents ↔
      Run.Along nextTransports TransportCallExact (newTransportManager defaultServer) transportEvents) := by
  constructor
  · refine Run.along_iff_throughout_of_invariant (I := Inv) (fun m e h => h.next e) ?_ events
      (Inv.newManager endpoint defaultTag) ?_
    · intro m e h he
      rw [dependantsExact_iff (h.next e).sound]
      exact keepsIndex_iff h he.index e
    · exact (dependantsExact_iff (Inv.newManager endpoint defaultTag).sound).mpr (.empty endpoint.made)
  · refine Run.along_congr_of_invariant (I := fun m => m.toRegistry.Sound ∧ m.toRegistry.IndexExact) ?_
      (fun m e h => keepsTransportIndex_iff h.1 h.2 e) transportEvents ⟨.empty 0,.empty 0⟩
    exact fun m e h hk => ⟨sound_nextTransports h.1 e,((keepsTransportIndex_iff h.1 h.2 e).mp hk).index⟩

/-- An outbound that no longer depends on `x` after it was replaced is still recorded for it; a default server
that could not be removed is no longer registered, but is recorded; and one that nobody depends on cannot be removed. -/
theorem replaced_or_refused_members_stay_recorded : ¬Run.Throughout next DependantsExact (newManager {} "")
      [.create "a" (.ok { dependencies := ["x"] }) none,.create "a" (.ok {}) none] ∧
    ¬Run.Along nextTransports TransportCallExact (newTransportManager "")
      [.create "a" (.ok { dependencies := ["b"] }) none,.create "b" (.ok {}) none,.remove "a"] ∧
    ¬Run.Along nextTransports TransportCallExact (newTransportManager "")
      [.create "a" (.ok {}) none,.create "b" (.ok {}) none,.remove "a"] := by
  refine ⟨?_,?_,?_⟩
  · rintro ⟨-,-,he⟩
    obtain ⟨o,ho,hx⟩ := (he.index "x" "a").mp List.mem_cons_self
    cases ho
    exact absurd hx List.not_mem_nil
  · rintro ⟨-,-,he,-⟩
    obtain ⟨o,ho,-⟩ := (he.index "b" "a").mp List.mem_cons_self
    cases ho
  · rintro ⟨-,⟨hi,-⟩,he,-⟩
    exact ((hi.ne_nil_iff "a").mpr ((he.refused_iff "a" _ rfl rfl).mp (by decide))) rfl

end SingBox.Adapter
