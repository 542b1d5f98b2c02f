import SingBox.Adapter.OutboundManager
import SingBox.DNS.TransportManager

/-! What calls of `Create` and `Remove` that return an error leave behind. Most of them return before anything has
changed, but `Remove` looks at the dependants after the member has left the registry, and the DNS manager looks at
its FakeIP servers after the new one has joined it. -/
namespace SingBox.Adapter

/-- What can be seen of a registry stays the same; the count of instances cannot be seen. -/
structure Registry.Same (r r' : Registry) : Prop where
  members : r'.members = r.members
  byTag : r'.byTag = r.byTag
  dependByTag : r'.dependByTag = r.dependByTag

/-- The registered instances are older than the next one. -/
def Registry.Older (r : Registry) : Prop := ∀ t o, r.byTag t = some o → o.id < r.created

lemma Registry.Sound.older {r : Registry} (h : r.Sound) : r.Older := fun t o ho => h.id_lt o (h.byTag_mem t o ho).1

lemma Registry.not_same_of_byTag {r r' : Registry} {tg : String} {o : Member} (ho : r.byTag tg = some o)
    (h : r'.byTag tg ≠ some o) : ¬ r.Same r' := by
  intro hs
  rw [hs.byTag] at h
  exact h ho

/-- The two calls of `Remove`: who is not registered is refused at once, who is not listed is no error but a panic, and
who is listed is gone in the end, with or without an error. -/
lemma Registry.failed_same_iff {r : Registry} {tg : String} {rs : CallResult} {s : Prop} {c : Member → Prop}
    (hn : r.byTag tg = none → s) (hu : ∀ o, r.byTag tg = some o → r.isListed o = false → ∀ e, rs ≠ .failed e)
    (hl : ∀ o, r.byTag tg = some o → r.isListed o = true → ¬ s ∧ ((∃ e, rs = .failed e) ↔ ¬ c o)) :
    (∀ e, rs = .failed e → s) ↔ ∀ o, r.byTag tg = some o → r.isListed o = true → c o := by
  constructor
  · intro ha o ho ho'
    obtain ⟨hg,hf⟩ := hl o ho ho'
    by_contra hc
    obtain ⟨e,he⟩ := hf.mpr hc
    exact hg (ha e he)
  · intro hcn e he
    cases ho : r.byTag tg with
    | none => exact hn ho
    | some o =>
      cases ho' : r.isListed o with
      | false => exact absurd he (hu o ho ho' e)
      | true => exact absurd (hcn o ho ho') ((hl o ho ho').2.mp ⟨e,he⟩)

end SingBox.Adapter

namespace SingBox.Outbound
open Adapter

structure Manager.Same (m m' : Manager) : Prop where
  registry : m.toRegistry.Same m'.toRegistry
  defaultOutbound : m'.defaultOutbound = m.defaultOutbound

/-- A failed call of `Create` has changed nothing. -/
lemma same_of_create_failed {m : Manager} {tg : String} {md : Except GoError Made} {ce : Option GoError}
    {e : GoError} (h : (m.create tg md ce).2 = .failed e) : m.Same (m.create tg md ce).1 := by
  have hs : ∀ c, m.Same { m with created := c } := fun _ => ⟨⟨rfl,rfl,rfl⟩,rfl⟩
  unfold Manager.create at h ⊢
  split_ifs at h ⊢ with ht
  · exact hs m.created
  cases md with
  | error => exact hs m.created
  | ok =>
    dsimp only at h ⊢
    split at h
    · exact hs _
    · split at h
      · cases h
      · split at h
        · exact hs _
        · split_ifs at h

/-- Nobody depends on the outbound, and a running one can be closed. -/
def Manager.CanRemove (m : Manager) (tag : String) (closeErr : Option GoError) : Prop :=
  ∀ old, m.byTag tag = some old → m.isListed old = true →
    m.dependByTag tag = [] ∧ (m.started = true → closeErr = none)

/-- `Remove` returns its errors in the state before it only for a tag that is not registered. -/
lemma remove_failed_same_iff (m : Manager) (tg : String) (ce : Option GoError) :
    (∀ e, (m.remove tg ce).2 = .failed e → m.Same (m.remove tg ce).1) ↔ m.CanRemove tg ce := by
  refine Registry.failed_same_iff (fun hn => ?_) (fun o ho hu e he => ?_) fun o ho hl => ?_
  · rw [Manager.remove,hn]
    exact ⟨⟨rfl,rfl,rfl⟩,rfl⟩
  · rw [Manager.remove,ho] at he
    dsimp only at he
    rw [hu] at he
    cases he
  · have hg : Function.update m.byTag tg none tg ≠ some o := by
      rw [Function.update_self]
      exact (Option.some_ne_none o).symm
    obtain ⟨hd,e,heq⟩ | ⟨hd,c,r,heq,-,hr⟩ := remove_of_listed ho hl ce
    · rw [heq]
      exact ⟨fun hs => Registry.not_same_of_byTag ho hg hs.registry, iff_of_true ⟨e,rfl⟩ fun hcn => hd hcn.1⟩
    · rw [heq]
      refine ⟨fun hs => Registry.not_same_of_byTag ho hg hs.registry,?_⟩
      obtain ⟨hcl,rfl⟩ | ⟨hnt,he⟩ := hr
      · exact iff_of_false (by simp) fun hc => hc ⟨hd,hcl⟩
      · exact iff_of_true he fun hcn => hnt hcn.2

end SingBox.Outbound

namespace SingBox.DNS
open Adapter

structure TransportManager.Same (m m' : TransportManager) : Prop where
  registry : m.toRegistry.Same m'.toRegistry
  defaultTransport : m'.defaultTransport = m.defaultTransport
  fakeIPTransport : m'.fakeIPTransport = m.fakeIPTransport

/-- A new server is to be the default. -/
def TransportManager.TakesDefault (m : TransportManager) (tag : String) : Prop :=
  tag = m.defaultTag ∨ m.defaultTag = "" ∧ m.defaultTransport = none

/-- A FakeIP server that gets through is not to be the default, and is the first one. -/
def TransportManager.CanCreate (m : TransportManager) (tag : String) (made : Except GoError Made)
    (closeErr : Option GoError) : Prop :=
  ∀ new, m.accept tag made closeErr = .ok new → new.type = dnsTypeFakeIP →
    ¬ m.TakesDefault tag ∧ m.fakeIPTransport = none

/-- Nobody depends on the server, and it is not the default in front of another server. -/
def TransportManager.CanRemove (m : TransportManager) (tag : String) : Prop :=
  ∀ old, m.byTag tag = some old → m.isListed old = true → m.dependByTag tag = [] ∧ ¬ m.RefusesNext old

variable (m : TransportManager) (t : Member)

/-- What the end of `Create` does to the two places. It fails for FakeIP servers only. -/
lemma assignRoles_cases : (m.TakesDefault t.tag ∧ t.type ≠ dnsTypeFakeIP ∧
      m.assignRoles t = ({ m with defaultTransport := some t },.ok)) ∨
    (¬ (m.TakesDefault t.tag ∧ t.type ≠ dnsTypeFakeIP) ∧ ∃ f, (m.assignRoles t).1 = { m with fakeIPTransport := f } ∧
        (f = m.fakeIPTransport ∨ m.fakeIPTransport = none ∧ f = some t) ∧
        ((∃ e, (m.assignRoles t).2 = .failed e) ↔ t.type = dnsTypeFakeIP ∧
          ¬ (¬ m.TakesDefault t.tag ∧ m.fakeIPTransport = none))) := by
  have ht : (t.tag = m.defaultTag ∨ m.defaultTag = "" ∧ m.defaultTransport.isNone = true) ↔
      m.TakesDefault t.tag := by
    rw [TransportManager.TakesDefault,Option.isNone_iff_eq_none]
  unfold TransportManager.assignRoles
  by_cases hd : m.TakesDefault t.tag
  · rw [if_pos (ht.mpr hd)]
    by_cases htp : t.type = dnsTypeFakeIP
    · rw [if_pos htp]
      exact .inr ⟨fun h => h.2 htp,m.fakeIPTransport,rfl,.inl rfl, iff_of_true ⟨_,rfl⟩ ⟨htp,fun hn => hn.1 hd⟩⟩
    · rw [if_neg htp,TransportManager.assignFakeIP,if_neg htp]
      exact .inl ⟨hd,htp,rfl⟩
  · rw [if_neg (mt ht.mp hd)]
    refine .inr ⟨fun h => hd h.1,?_⟩
    unfold TransportManager.assignFakeIP
    split_ifs with htp hs
    · refine ⟨m.fakeIPTransport,rfl,.inl rfl,iff_of_true ⟨_,rfl⟩ ⟨htp,fun hn => ?_⟩⟩
      rw [hn.2] at hs
      cases hs
    · rw [Bool.not_eq_true,Option.isSome_eq_false_iff,Option.isNone_iff_eq_none] at hs
      exact ⟨some t,rfl,.inr ⟨hs,rfl⟩,iff_of_false (by simp) fun h => h.2 ⟨hd,hs⟩⟩
    · exact ⟨m.fakeIPTransport,rfl,.inl rfl,iff_of_false (by simp) fun h => htp h.1⟩

lemma assignRoles_failed_iff : (∃ e, (m.assignRoles t).2 = .failed e) ↔ t.type = dnsTypeFakeIP ∧
      ¬ (¬ m.TakesDefault t.tag ∧ m.fakeIPTransport = none) := by
  obtain ⟨-,ht,heq⟩ | ⟨-,-,-,-,hf⟩ := assignRoles_cases m t
  · rw [heq]
    exact iff_of_false (by simp) fun h => ht h.1
  · exact hf

/-- `Create` returns its errors in the state before it unless it had registered the server. -/
lemma create_failed_same_iff {m : TransportManager} (holder : m.toRegistry.Older) (tg : String)
    (md : Except GoError Made) (ce : Option GoError) :
    (∀ e, (m.create tg md ce).2 = .failed e → m.Same (m.create tg md ce).1) ↔ m.CanCreate tg md ce := by
  cases ha : m.accept tg md ce with
  | error =>
    rw [create_of_error ha]
    refine ⟨fun _ n hnw => ?_,fun _ _ _ => ⟨⟨rfl,rfl,rfl⟩,rfl,rfl⟩⟩
    rw [ha] at hnw
    cases hnw
  | ok n =>
    obtain ⟨hid,rfl⟩ := accept_ok ha
    have hc : ¬ m.Same (m.create n.tag md ce).1 := by
      intro hs
      have hbt := congrFun hs.registry.byTag n.tag
      rw [create_of_ok ha,assignRoles_toRegistry] at hbt
      change Function.update m.byTag n.tag (some n) n.tag = m.byTag n.tag at hbt
      rw [Function.update_self] at hbt
      have hlt := holder n.tag n hbt.symm
      omega
    have hf := assignRoles_failed_iff (m.joined n) n
    rw [← create_of_ok ha] at hf
    constructor
    · intro hal n' hn' ht
      cases ha.symm.trans hn'
      by_contra hn
      obtain ⟨e,he⟩ := hf.mpr ⟨ht,hn⟩
      exact hc (hal e he)
    · intro hcn e he
      obtain ⟨ht,hn⟩ := hf.mp ⟨e,he⟩
      exact absurd (hcn n ha ht) hn

/-- `Remove` returns its errors in the state before it only for a tag that is not registered. -/
lemma remove_failed_same_iff (tg : String) :
    (∀ e, (m.remove tg).2 = .failed e → m.Same (m.remove tg).1) ↔ m.CanRemove tg := by
  refine Registry.failed_same_iff (fun hn => ?_) (fun o ho hu e he => ?_)
    fun o ho hl => ⟨fun hsm => ?_,?_⟩
  · rw [TransportManager.remove,hn]
    exact ⟨⟨rfl,rfl,rfl⟩,rfl,rfl⟩
  · rw [TransportManager.remove,ho] at he
    dsimp only at he
    rw [hu] at he
    cases he
  · have hbt : (m.remove tg).1.byTag = Function.update m.byTag tg none := by
      obtain ⟨-,e,heq⟩ | ⟨-,-,heq⟩ := remove_of_listed ho hl
      all_goals
        rw [heq]
        rfl
    refine Registry.not_same_of_byTag ho ?_ hsm.registry
    rw [hbt,Function.update_self]
    exact (Option.some_ne_none o).symm
  · obtain ⟨hs,e,heq⟩ | ⟨hnx,hd,heq⟩ := remove_of_listed ho hl
    · rw [heq]
      refine iff_of_true ⟨e,rfl⟩ fun hcn => ?_
      exact hs.elim hcn.2 fun hne => hne hcn.1
    · rw [heq]
      exact iff_of_false (by simp) fun hc => hc ⟨hd,hnx⟩

end SingBox.DNS

namespace SingBox.Adapter
open Outbound DNS

/-- A call that returns an error leaves what can be seen of the managers as it was: always for `Create` of the
outbound manager, and for the others exactly where they do not fail half way. -/
theorem failed_calls_keep_state_iff (m : Manager) (t : TransportManager) (holder : t.toRegistry.Older) (tag : String)
    (made : Except GoError Made) (closeErr : Option GoError) :
    (∀ err, (m.create tag made closeErr).2 = .failed err → m.Same (m.create tag made closeErr).1) ∧
    ((∀ err, (m.remove tag closeErr).2 = .failed err → m.Same (m.remove tag closeErr).1) ↔ m.CanRemove tag closeErr) ∧
    ((∀ err, (t.create tag made closeErr).2 = .failed err → t.Same (t.create tag made closeErr).1) ↔
      t.CanCreate tag made closeErr) ∧
    ((∀ err, (t.remove tag).2 = .failed err → t.Same (t.remove tag).1) ↔ t.CanRemove tag) :=
  ⟨fun _ h => same_of_create_failed h,Outbound.remove_failed_same_iff m tag closeErr,
    create_failed_same_iff holder tag made closeErr,DNS.remove_failed_same_iff t tag⟩

/-- A fresh pair of managers, which a FakeIP server may join but not as the default. -/
theorem failed_calls_keep_state_of_new :
    (∀ err, ((newTransportManager "a").create "b" (.ok { type := dnsTypeFakeIP }) none).2 = .failed err →
      (newTransportManager "a").Same ((newTransportManager "a").create "b" (.ok { type := dnsTypeFakeIP }) none).1) ∧
    ¬ ∀ err, ((newTransportManager "a").create "a" (.ok { type := dnsTypeFakeIP }) none).2 = .failed err →
      (newTransportManager "a").Same ((newTransportManager "a").create "a" (.ok { type := dnsTypeFakeIP }) none).1 := by
  have holder : (newTransportManager "a").toRegistry.Older := (Registry.Sound.empty 0).older
  constructor
  · refine (failed_calls_keep_state_iff (newManager {} "") _ holder "b" _ none).2.2.1.mpr fun n hn _ => ⟨?_,rfl⟩
    rintro (ht | ⟨ht,_⟩)
    all_goals exact absurd ht (by decide)
  · rw [(failed_calls_keep_state_iff (newManager {} "") _ holder "a" _ none).2.2.1]
    exact fun hc => (hc _ rfl rfl).1 (.inl rfl)

/-- An outbound that another one depends on is gone after `Remove` was refused; a FakeIP server that was refused as
the default is registered; the default server is gone after its removal was refused. -/
theorem refused_calls_change_registry :
    (∃ m err, m = [Event.create "a" (.ok {}) none,.create "b" (.ok { dependencies := ["a"] }) none].foldl next
        (newManager {} "") ∧
      (m.remove "a" none).2 = .failed err ∧ m.byTag "a" ≠ none ∧ (m.remove "a" none).1.byTag "a" = none) ∧
    (∃ err, ((newTransportManager "").create "f" (.ok { type := dnsTypeFakeIP }) none).2 = .failed err ∧
      ((newTransportManager "").create "f" (.ok { type := dnsTypeFakeIP }) none).1.byTag "f" ≠ none) ∧
    ∃ t err, t = [TransportEvent.create "a" (.ok {}) none,.create "b" (.ok {}) none].foldl nextTransports
        (newTransportManager "") ∧
      (t.remove "a").2 = .failed err ∧ t.byTag "a" ≠ none ∧ (t.remove "a").1.byTag "a" = none := by
  refine ⟨⟨_,_,rfl,rfl,?_,rfl⟩,⟨_,rfl,?_⟩,_,_,rfl,rfl,?_,rfl⟩ <;> exact Option.some_ne_none _

end SingBox.Adapter
