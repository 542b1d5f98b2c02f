import SingBox.Adapter.OutboundManager

/-! The default of the outbound manager: which calls of `Create` and `Remove` leave `Default()` at the instance
that is registered under its tag. -/
namespace SingBox.Outbound
open Adapter Function

section
variable {m : Manager}

/-- A default is what is registered under its own tag and is open; what is registered under the configured tag
is the default. Endpoints count as far as `get` has them. -/
structure DefaultRegistered (get : String → Option Member) (m : Manager) : Prop where
  registered : ∀ d, m.defaultOutbound = some d → m.lookup get d.tag = some d ∧ d.id ∉ m.closed
  configured : m.defaultTag ≠ "" → ∀ o, m.lookup get m.defaultTag = some o → m.defaultOutbound = some o

/-- `Start` has come to the choice of the default. -/
def Manager.isChosen (m : Manager) : Bool := m.started && decide (1 ≤ m.stage.toNat)

/-- A new outbound takes the tag of the default only if that is the configured tag; the outbound with the
configured tag is not removed where an endpoint has that tag too; and no stage is left out before the default
is chosen. -/
def KeepsDefault (m : Manager) : Event → Prop
  | .create tag made closeErr => (m.create tag made closeErr).2 = .ok →
      tag = m.defaultTag ∨ ∀ d, m.defaultOutbound = some d → d.tag ≠ tag
  | .remove tag _ => tag = m.defaultTag → tag ≠ "" → m.byTag tag ≠ none → m.endpoint.get tag = none
  | .start stage _ => m.isChosen = true ∨ stage.toNat ≤ 1

variable {get : String → Option Member} {o : Member} {t tag : String} (endpoint : EndpointManager)
  {ce : Option GoError}

lemma lookup_of_some (h : m.byTag t = some o) : m.lookup get t = some o := by
  rw [Manager.lookup,h]

lemma lookup_of_none (h : m.byTag t = none) : m.lookup get t = get t := by
  rw [Manager.lookup,h]

/-- Endpoints are older than all outbounds. -/
def Older (get : String → Option Member) (made : ℕ) : Prop := ∀ t e, get t = some e → e.id < made

variable {get : String → Option Member}

section
variable (h : Inv m) (hg : Older get m.endpoint.made) (ho : m.lookup get t = some o)
include h hg ho

lemma Inv.lookup_cases :
    (m.byTag t = some o ∧ o ∈ m.members ∧ m.endpoint.made ≤ o.id) ∨ (m.byTag t = none ∧ o.id < m.endpoint.made) := by
  cases hby : m.byTag t with
  | some =>
    rw [lookup_of_some hby] at ho
    cases ho
    have hm := (h.sound.byTag_mem t o hby).1
    exact .inl ⟨rfl,hm,h.made_le o hm⟩
  | none =>
    rw [lookup_of_none hby] at ho
    exact .inr ⟨rfl,hg t o ho⟩

lemma Inv.lookup_open : o.id ∉ m.closed := by
  rcases h.lookup_cases hg ho with ⟨-,hm,-⟩ | ⟨-,hl⟩
  · exact h.opened o hm
  · exact fun hc => absurd hl (not_lt.mpr (h.closed o.id hc).1)

lemma Inv.lookup_lt : o.id < m.created := by
  rcases h.lookup_cases hg ho with ⟨-,hm,-⟩ | ⟨-,hl⟩
  · exact h.sound.id_lt o hm
  · exact hl.trans_le h.made_le_created

lemma Inv.lookup_id_ne {t' : String} {ol : Member} (hol : m.byTag t' = some ol) (hne : t ≠ t') : o.id ≠ ol.id := by
  obtain ⟨hm,ht⟩ := h.sound.byTag_mem t' ol hol
  rcases h.lookup_cases hg ho with ⟨hby,hm',-⟩ | ⟨-,hl⟩
  · refine h.id_ne hm' hm ?_
    rintro rfl
    exact hne ((h.sound.byTag_mem t o hby).2.symm.trans ht)
  · exact (hl.trans_le (h.made_le ol hm)).ne

end

lemma Inv.defaultRegistered (h : Inv m) (hgt : Older get m.endpoint.made)
    (hr : ∀ d, m.defaultOutbound = some d → m.lookup get d.tag = some d)
    (hc : m.defaultTag ≠ "" → ∀ o, m.lookup get m.defaultTag = some o → m.defaultOutbound = some o) :
    DefaultRegistered get m :=
  ⟨fun d hd => ⟨hr d hd,h.lookup_open hgt (hr d hd)⟩,hc⟩

lemma register_lookup_self (m : Manager) (o : Member) : (m.register o).lookup get o.tag = some o :=
  lookup_of_some (by rw [register_toRegistry,Registry.put_byTag,update_self])

lemma register_lookup_of_ne (m : Manager) (o : Member) (ht : t ≠ o.tag) :
    (m.register o).lookup get t = m.lookup get t := by
  rw [Manager.lookup,register_toRegistry,Registry.put_byTag,update_of_ne ht,Manager.lookup]

lemma DefaultRegistered.register_iff (hg : DefaultRegistered get m) (h : Inv m)
    (hgt : Older get m.endpoint.made) (new : Member) (hid : new.id = m.created) {closed : List ℕ}
    (hcl : closed = m.closed ∨ ∃ old, m.byTag new.tag = some old ∧ closed = old.id::m.closed) :
    (new.tag = m.defaultTag ∨ ∀ d, m.defaultOutbound = some d → d.tag ≠ new.tag) ↔
      DefaultRegistered get (Manager.register { m with created := m.created+1, closed := closed } new) := by
  have hin := h.register hid hcl
  constructor
  · intro ha
    refine hin.defaultRegistered hgt ?_ ?_
    · intro d hd
      rw [register_defaultOutbound] at hd
      split_ifs at hd with hc
      · cases hd
        exact register_lookup_self _ new
      · have hne := ha.resolve_left (fun heq => hc (.inl heq)) d hd
        rw [register_lookup_of_ne _ _ hne]
        exact (hg.registered d hd).1
    · rw [register_defaultTag,register_defaultOutbound]
      intro ht o ho
      by_cases heq : new.tag = m.defaultTag
      · rw [if_pos (.inl heq)]
        rw [← heq,register_lookup_self] at ho
        exact ho
      · rw [if_neg (by rintro (heq' | ⟨he,-⟩); exacts [heq heq',ht he])]
        rw [register_lookup_of_ne _ _ (Ne.symm heq)] at ho
        exact hg.configured ht o ho
  · intro hg'
    by_contra hnt
    push Not at hnt
    obtain ⟨hne,d,hd,hdt⟩ := hnt
    -- the default is still the instance that has just been replaced
    have hs : (Manager.register { m with created := m.created+1, closed := closed } new).defaultOutbound =
        some d := by
      rw [register_defaultOutbound,if_neg (by rintro (heq | ⟨-,hn⟩); exacts [hne heq,by simp [hd] at hn])]
      exact hd
    have hnw := (hg'.registered d hs).1
    rw [hdt,register_lookup_self] at hnw
    cases hnw
    have hlt := h.lookup_lt hgt (hg.registered new hd).1
    omega

/-- What `Create` and `Remove` leave alone. -/
structure SameSetting (m m' : Manager) : Prop where
  endpoint : m'.endpoint = m.endpoint
  defaultTag : m'.defaultTag = m.defaultTag
  isChosen : m'.isChosen = m.isChosen

lemma remove_none (hol : m.byTag tag = none) (ce : Option GoError) : (m.remove tag ce).1 = m := by
  rw [Manager.remove,hol]

lemma remove_found {m : Manager} (h : m.toRegistry.Sound) {ol : Member}
    (hol : m.byTag tag = some ol) (ce : Option GoError) : (m.remove tag ce).1.byTag = update m.byTag tag none ∧
    (m.remove tag ce).1.members = eraseMember m.members ol ∧
    SameSetting m (m.remove tag ce).1 ∧ (m.remove tag ce).1.defaultOutbound =
      if m.defaultOutbound.map Member.id = some ol.id then (eraseMember m.members ol).head?
      else m.defaultOutbound := by
  obtain ⟨-,e,heq⟩ | ⟨-,c,r,heq,-⟩ := remove_of_listed hol (h.isListed hol) ce
  all_goals
    rw [heq]
    exact ⟨rfl,rfl,⟨rfl,rfl,rfl⟩,rfl⟩

lemma DefaultRegistered.remove_iff (hg : DefaultRegistered get m) (h : Inv m)
    (hgt : Older get m.endpoint.made) (tag : String) (ce : Option GoError) :
    (tag = m.defaultTag → tag ≠ "" → m.byTag tag ≠ none → get tag = none) ↔
      DefaultRegistered get (m.remove tag ce).1 := by
  have hin := h.remove tag ce
  cases hol : m.byTag tag with
  | none =>
    rw [remove_none hol]
    exact ⟨fun _ => hg,fun _ _ _ hf => absurd rfl hf⟩
  | some ol =>
    obtain ⟨hbt,hm,⟨hen,hdt,-⟩,hdf⟩ := remove_found h.sound hol ce
    have hl : ∀ {t}, t ≠ tag → (m.remove tag ce).1.lookup get t = m.lookup get t := by
      intro t ht
      rw [Manager.lookup,hbt,update_of_ne ht,Manager.lookup]
    have hgn : (m.remove tag ce).1.lookup get tag = get tag := lookup_of_none (by rw [hbt,update_self])
    constructor
    · intro ha
      refine hin.defaultRegistered (hen ▸ hgt) ?_ ?_
      · intro d hd
        rw [hdf] at hd
        split_ifs at hd with hw
        · have hmm : d ∈ (m.remove tag ce).1.members := hm ▸ List.mem_of_mem_head? hd
          exact lookup_of_some (hin.listed d hmm)
        · have hr := (hg.registered d hd).1
          have hne : d.tag ≠ tag := by
            intro heq
            rw [heq,lookup_of_some hol] at hr
            cases hr
            exact hw (by rw [hd]; rfl)
          rw [hl hne]
          exact hr
      · rw [hdt]
        intro htg o ho
        by_cases heq : m.defaultTag = tag
        · rw [heq,hgn,ha heq.symm (heq ▸ htg) (by simp)] at ho
          cases ho
        · rw [hl heq] at ho
          have hd := hg.configured htg o ho
          have hne := h.lookup_id_ne hgt ho hol heq
          rw [hdf,if_neg (by rw [hd]; simpa using hne)]
          exact hd
    · intro hg' heq hne _
      by_contra hs
      obtain ⟨e,he⟩ := Option.ne_none_iff_exists'.mp hs
      have hw := hg.configured (heq ▸ hne) ol (heq ▸ lookup_of_some hol)
      have hn := hg'.configured (by rw [hdt,← heq]; exact hne) e
        (by rw [hdt,← heq,hgn]; exact he)
      -- the new default is an outbound, and endpoints are none
      rw [hdf,if_pos (by rw [hw]; rfl),← hm] at hn
      have hle := hin.made_le e (List.mem_of_mem_head? hn)
      rw [hen] at hle
      exact absurd (hgt tag e he) (not_lt.mpr hle)

lemma DefaultRegistered.create_iff (hg : DefaultRegistered get m) (h : Inv m)
    (hgt : Older get m.endpoint.made) (tag : String) (made : Except GoError Made) (ce : Option GoError) :
    KeepsDefault m (.create tag made ce) ↔ DefaultRegistered get (m.create tag made ce).1 := by
  obtain ⟨hf,c,-,heq⟩ | ⟨hok,n,-,-,cl,heq,hc⟩ := create_cases h.sound tag made ce
  · rw [heq]
    exact ⟨fun _ => ⟨hg.registered,hg.configured⟩,fun _ hok => absurd hok hf⟩
  · rw [heq]
    exact Iff.trans ⟨fun ha => ha hok,fun ha _ => ha⟩
      (hg.register_iff h hgt (n.member m.created tag) rfl hc)

lemma create_setting (h : Inv m) (tag : String) (made : Except GoError Made) (ce : Option GoError) :
    SameSetting m (m.create tag made ce).1 := by
  obtain ⟨-,c,-,heq⟩ | ⟨-,n,-,-,cl,heq,-⟩ := create_cases h.sound tag made ce
  all_goals
    rw [heq]
    exact ⟨rfl,rfl,rfl⟩

lemma remove_setting (h : Inv m) (tag : String) (ce : Option GoError) : SameSetting m (m.remove tag ce).1 := by
  cases hol : m.byTag tag with
  | none =>
    rw [remove_none hol]
    exact ⟨rfl,rfl,rfl⟩
  | some => exact (remove_found h.sound hol ce).2.2.1

lemma older_none (made : ℕ) : Older (fun _ => none) made := by
  intro t e he
  cases he

lemma older_get : Older endpoint.get endpoint.made :=
  fun _ _ he => (EndpointManager.get_spec he).2

/-- Before the start the default is an outbound, and there is none as long as an endpoint alone has the
configured tag. -/
structure BeforeStart (m : Manager) : Prop where
  good : DefaultRegistered (fun _ => none) m
  waiting : m.defaultTag ≠ "" → m.byTag m.defaultTag = none → m.endpoint.get m.defaultTag ≠ none →
    m.defaultOutbound = none

section
variable (hb : BeforeStart m) (h : Inv m)
include hb h

lemma BeforeStart.create {made : Except GoError Made} (hk : KeepsDefault m (.create tag made ce)) :
    BeforeStart (m.create tag made ce).1 := by
  refine ⟨(hb.good.create_iff h (older_none _) tag made ce).mp hk,?_⟩
  obtain ⟨-,created,-,heq⟩ | ⟨-,new,-,-,closed,heq,-⟩ := create_cases h.sound tag made ce
  · rw [heq]
    exact hb.waiting
  · rw [heq,register_defaultTag,register_toRegistry,register_endpoint,register_defaultOutbound,Registry.put_byTag]
    intro ht hn hgt
    by_cases hs : (new.member m.created tag).tag = m.defaultTag
    · rw [← hs,update_self] at hn
      cases hn
    · rw [update_of_ne (Ne.symm hs)] at hn
      rw [if_neg (by rintro (heq' | ⟨he,-⟩); exacts [hs heq',ht he])]
      exact hb.waiting ht hn hgt

lemma BeforeStart.remove (hk : KeepsDefault m (.remove tag ce)) : BeforeStart (m.remove tag ce).1 := by
  refine ⟨(hb.good.remove_iff h (older_none _) tag ce).mp fun _ _ _ => rfl,?_⟩
  cases hol : m.byTag tag with
  | none =>
    rw [remove_none hol]
    exact hb.waiting
  | some =>
    obtain ⟨hbt,-,⟨he,hdt,-⟩,hd⟩ := remove_found h.sound hol ce
    rw [hbt,he,hdt,hd]
    intro ht hn hgt
    by_cases hs : m.defaultTag = tag
    · exact absurd (hs ▸ hk hs.symm (hs ▸ ht) (by simp [hol])) hgt
    · rw [update_of_ne hs] at hn
      have hw := hb.waiting ht hn hgt
      rw [if_neg (by simp [hw]),hw]

lemma BeforeStart.chooseDefault (f : Except GoError Starter) :
    DefaultRegistered m.endpoint.get ((m.chooseDefault f).toOption.getD m) ∧
      ((m.chooseDefault f).toOption.getD m).endpoint = m.endpoint := by
  have hgt := older_get m.endpoint
  have hin := h.chooseDefault f
  have hu : m.defaultOutbound = none → m.defaultTag ≠ "" → m.byTag m.defaultTag = none := by
    intro hn ht
    by_contra hf
    obtain ⟨o,ho⟩ := Option.ne_none_iff_exists'.mp hf
    cases hn.symm.trans (hb.good.configured ht o (lookup_of_some ho))
  obtain ⟨hn,hno,er,heq⟩ | ⟨hs,heq⟩ | ⟨hn,ht,e,he,heq⟩ | ⟨hn,ht,s,heq⟩ := chooseDefault_cases m f
  · rw [heq]
    refine ⟨h.defaultRegistered hgt ?_ ?_,rfl⟩
    · intro d hd
      cases hn.symm.trans hd
    · intro ht o ho
      rw [lookup_of_none (hu hn ht),hno ht] at ho
      cases ho
  · rw [heq]
    refine ⟨h.defaultRegistered hgt ?_ ?_,rfl⟩
    · intro d hd
      have hr := (hb.good.registered d hd).1
      rcases h.lookup_cases (older_none _) hr with ⟨hby,-⟩ | ⟨hby,-⟩
      · exact lookup_of_some hby
      · rw [lookup_of_none hby] at hr
        cases hr
    · intro ht o ho
      cases hby : m.byTag m.defaultTag with
      | some =>
        rw [lookup_of_some hby] at ho
        cases ho
        exact hb.good.configured ht o (lookup_of_some hby)
      | none =>
        rw [lookup_of_none hby] at ho
        exact absurd (hb.waiting ht hby (by rw [ho]; simp)) hs
  · rw [heq] at hin ⊢
    have hl : m.lookup m.endpoint.get m.defaultTag = some e := by
      rw [lookup_of_none (hu hn ht),he]
    refine ⟨hin.defaultRegistered hgt ?_ ?_,rfl⟩
    · intro d hd
      cases hd
      rw [(EndpointManager.get_spec he).1]
      exact hl
    · intro _ o ho
      exact hl.symm.trans ho
  · rw [heq] at hin ⊢
    refine ⟨hin.defaultRegistered hgt ?_ fun hne => absurd ht hne,rfl⟩
    intro d hd
    cases hd
    exact lookup_of_some (update_self "direct" _ m.byTag)

end

/-- What the calls keep before and after the choice of the default. -/
def Settled (m : Manager) : Prop :=
  if m.isChosen then DefaultRegistered m.endpoint.get m else BeforeStart m

lemma keepsDefault_iff (h : Inv m) (hc : m.isChosen = true) (hg : DefaultRegistered m.endpoint.get m)
    (e : Event) : KeepsDefault m e ↔ DefaultRegistered (next m e).endpoint.get (next m e) := by
  cases e with
  | create tag made ce =>
    rw [next,(create_setting h tag made ce).endpoint]
    exact hg.create_iff h (older_get m.endpoint) tag made ce
  | remove tag ce =>
    rw [next,(remove_setting h tag ce).endpoint]
    exact hg.remove_iff h (older_get m.endpoint) tag ce
  | start =>
    refine ⟨fun _ => ?_,fun _ => .inl hc⟩
    rw [next,start_fst]
    split_ifs with hov hs
    · exact hg
    · simp only [Manager.isChosen,Bool.and_eq_true,decide_eq_true_eq] at hc
      subst hs
      exact absurd ⟨hc.1,hc.2⟩ hov
    · exact ⟨hg.registered,hg.configured⟩

lemma isChosen_next (h : Inv m) (hc : m.isChosen = true) (e : Event) : (next m e).isChosen = true := by
  cases e with
  | create tag made ce => rw [next,(create_setting h tag made ce).isChosen,hc]
  | remove tag ce => rw [next,(remove_setting h tag ce).isChosen,hc]
  | start s =>
    rw [next,start_fst]
    simp only [Manager.isChosen,Bool.and_eq_true,decide_eq_true_eq] at hc ⊢
    split_ifs with hov hs
    · exact hc
    · subst hs
      exact absurd ⟨hc.1,hc.2⟩ hov
    · refine ⟨rfl,?_⟩
      have := not_and.mp hov hc.1
      change 1 ≤ s.toNat
      omega

/-- `Start` from a manager whose default is not chosen yet. -/
lemma Settled.start (h : Inv m) (hbf : BeforeStart m) (hc : m.isChosen = false) {s : StartStage}
    (hst : s.toNat ≤ 1) (f : Except GoError Starter) : Settled (m.start s f).1 := by
  rw [start_fst]
  split_ifs with hov hs
  · rw [Settled,if_neg (by rw [hc]; decide)]
    exact hbf
  · have hb : BeforeStart (m.begun s) := ⟨⟨hbf.good.registered,hbf.good.configured⟩,hbf.waiting⟩
    obtain ⟨hg,he⟩ := hb.chooseDefault (h.begun s) f
    have hnw : ((m.begun s).chooseDefault f |>.toOption.getD (m.begun s)).isChosen = true := by
      subst hs
      obtain ⟨-,-,er,heq⟩ | ⟨-,heq⟩ | ⟨-,-,e,-,heq⟩ | ⟨-,-,st,heq⟩ := chooseDefault_cases (m.begun .stateStart) f
      all_goals
        rw [heq]
        rfl
    rw [Settled,if_pos hnw,he]
    exact hg
  · have hn : (m.begun s).isChosen = false := by
      cases s with
      | stateInitialize => rfl
      | stateStart => exact absurd rfl hs
      | statePostStart | stateStarted => exact absurd hst (by decide)
    rw [Settled,if_neg (by rw [hn]; decide)]
    exact ⟨⟨hbf.good.registered,hbf.good.configured⟩,hbf.waiting⟩

lemma Settled.next (hs : Settled m) (h : Inv m) {e : Event} (hk : KeepsDefault m e) : Settled (next m e) := by
  cases hc : m.isChosen with
  | true =>
    rw [Settled,if_pos hc] at hs
    rw [Settled,if_pos (isChosen_next h hc e)]
    exact (keepsDefault_iff h hc hs e).mp hk
  | false =>
    rw [Settled,if_neg (by rw [hc]; decide)] at hs
    cases e with
    | create tag made ce =>
      have hsm := (create_setting h tag made ce).isChosen
      rw [Outbound.next,Settled,if_neg (by rw [hsm,hc]; decide)]
      exact hs.create h hk
    | remove tag ce =>
      have hsm := (remove_setting h tag ce).isChosen
      rw [Outbound.next,Settled,if_neg (by rw [hsm,hc]; decide)]
      exact hs.remove h hk
    | start s f =>
      have hst : s.toNat ≤ 1 := hk.resolve_left (by rw [hc]; decide)
      exact Settled.start h hs hc hst f

lemma Settled.newManager (dt : String) : Settled (newManager endpoint dt) := by
  have hn : (Outbound.newManager endpoint dt).isChosen = false := rfl
  rw [Settled,if_neg (by rw [hn]; decide)]
  refine ⟨⟨?_,?_⟩,fun _ _ _ => rfl⟩
  · intro d hd
    cases hd
  · intro _ o ho
    cases ho

end

/-- Calls on a manager whose `Start` has chosen the default: the default is right after each of them exactly
where each of them keeps it. -/
theorem default_registered_iff_keepsDefault (endpoint : EndpointManager) (defaultTag : String)
    (before after : List Event) (hbefore : Run.Along next KeepsDefault (newManager endpoint defaultTag) before)
    (hchosen : (before.foldl next (newManager endpoint defaultTag)).isChosen = true) :
    Run.Along next KeepsDefault (before.foldl next (newManager endpoint defaultTag)) after ↔
      Run.Throughout next (fun m => DefaultRegistered m.endpoint.get m)
        (before.foldl next (newManager endpoint defaultTag)) after := by
  obtain ⟨hin,hs⟩ := Run.foldl_of_along (I := fun m => Inv m ∧ Settled m)
    (fun m e hm hk => ⟨hm.1.next e,hm.2.next hm.1 hk⟩)
    ⟨Inv.newManager endpoint defaultTag,Settled.newManager endpoint defaultTag⟩ hbefore
  rw [Settled,if_pos hchosen] at hs
  exact Run.along_iff_throughout_of_invariant (I := fun m => Inv m ∧ m.isChosen = true)
    (fun m e hm => ⟨hm.1.next e,isChosen_next hm.1 hm.2 e⟩)
    (fun m e hm hg => keepsDefault_iff hm.1 hm.2 hg e) after ⟨hin,hchosen⟩ hs

/-- Outbound `a` becomes the default of a manager without a configured tag. -/
def defaultByOrder : List Event :=
  [.create "a" (.ok {}) none,.start .stateInitialize (.ok (.legacy none none none)),
    .start .stateStart (.ok (.legacy none none none))]

lemma defaultByOrder_keepsDefault : Run.Along next KeepsDefault (newManager {} "") defaultByOrder :=
  ⟨fun _ => .inr (by rintro d ⟨⟩),.inr (by decide),.inr (by decide),trivial⟩

/-- A new outbound with the tag of the default closes the old one, which stays the default. -/
theorem replaced_outbound_stays_default : ¬Run.Throughout next (fun m => DefaultRegistered m.endpoint.get m)
      (defaultByOrder.foldl next (newManager {} "")) [.create "a" (.ok {}) none] := by
  rintro ⟨-,hg⟩
  have hc := (hg.registered ⟨0,"a","",[],.legacy none none none⟩ rfl).2
  exact hc List.mem_cons_self

/-- The run in which outbound `b` is created and removed. -/
theorem default_registered_while_another_is_removed : Run.Throughout next (fun m => DefaultRegistered m.endpoint.get m)
      (defaultByOrder.foldl next (newManager {} "")) [.create "b" (.ok {}) none,.remove "b" none] := by
  refine (default_registered_iff_keepsDefault {} "" defaultByOrder _ defaultByOrder_keepsDefault rfl).mp
    ⟨fun _ => .inr ?_,?_,trivial⟩
  · rintro d ⟨⟩
    decide
  · intro hs
    exact absurd hs (by decide)

end SingBox.Outbound
