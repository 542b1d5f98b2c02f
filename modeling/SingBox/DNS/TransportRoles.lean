import SingBox.Adapter.FailedCalls

/-! The default and the FakeIP server of the DNS manager along runs. Both are kept beside the registry: `Create`
fills them, `Remove` looks for the next default, and nothing clears the place of the FakeIP server. -/
namespace SingBox.DNS
open Adapter List
open Function (update update_of_ne update_self)

namespace TransportManager

/-- A server that is not FakeIP may be the default. With a tag for the default only that server takes the place
while it is free, and any other one may follow a default that goes. -/
def MayBeDefault (m : TransportManager) (o : Member) : Prop :=
  o.type ≠ dnsTypeFakeIP ∧ (m.defaultTag = "" ∨ o.tag = m.defaultTag ∨ m.defaultTransport ≠ none)

/-- The default is no FakeIP server; it is registered when a server that may be the default is; the FakeIP server
is registered. -/
structure RolesRight (m : TransportManager) : Prop where
  notFakeIP : ∀ d, m.defaultTransport = some d → d.type ≠ dnsTypeFakeIP
  default : ∀ t o, m.byTag t = some o → m.MayBeDefault o → ∃ d, m.defaultTransport = some d ∧ m.byTag d.tag = some d
  fakeIP : ∀ f, m.fakeIPTransport = some f → m.byTag f.tag = some f

/-- All other servers are FakeIP. -/
def OnlyFakeIPBut (m : TransportManager) (tag : String) : Prop :=
  ∀ t o, m.byTag t = some o → t ≠ tag → o.type = dnsTypeFakeIP

/-- The call does not touch the FakeIP server's tag. The default is replaced by a server that becomes the default or
where only FakeIP servers are left, a new server that may be the default finds the default in its place, and the default
is removed as the last server, or in front of a server that is not FakeIP and no longer registered. -/
def KeepsRoles (m : TransportManager) : TransportEvent → Prop
  | .create tag made closeErr => ∀ new, m.accept tag made closeErr = .ok new →
      (∀ f, m.fakeIPTransport = some f → f.tag ≠ tag) ∧
      (¬ (m.TakesDefault tag ∧ new.type ≠ dnsTypeFakeIP) → ∀ d, m.defaultTransport = some d →
        (new.type ≠ dnsTypeFakeIP → d.tag ≠ tag ∧ m.byTag d.tag = some d) ∧
        (new.type = dnsTypeFakeIP → d.tag = tag → m.OnlyFakeIPBut tag))
  | .remove tag => ∀ old, m.byTag tag = some old → (∀ f, m.fakeIPTransport = some f → f.tag ≠ tag) ∧
      (m.defaultTransport = some old → ∀ n, (eraseMember m.members old).head? = some n →
        n.type ≠ dnsTypeFakeIP ∧ m.OnlyFakeIPBut tag)
  | .start stage fallback => m.FallsBack stage fallback → ∀ f, m.fakeIPTransport = some f → f.tag ≠ "local"

/-- An instance in a role is an old one, and no other instance has its number. -/
def Known (m : TransportManager) (o : Member) : Prop := o.id < m.created ∧ ∀ n ∈ m.members, n.id = o.id → n = o

structure RoleInv (m : TransportManager) : Prop where
  sound : m.toRegistry.Sound
  default : ∀ d, m.defaultTransport = some d → m.Known d
  fakeIP : ∀ f, m.fakeIPTransport = some f → m.Known f

end TransportManager

section
variable {m : TransportManager}

/-- The two places after `Remove` of a registered server. -/
lemma remove_roles (h : m.toRegistry.Sound) {tag : String} {old : Member} (ho : m.byTag tag = some old) :
    (m.remove tag).1.byTag = Function.update m.byTag tag none ∧ (m.remove tag).1.members = eraseMember m.members old ∧
    (m.remove tag).1.created = m.created ∧ (m.remove tag).1.defaultTag = m.defaultTag ∧
    (m.remove tag).1.fakeIPTransport = m.fakeIPTransport ∧
    (m.remove tag).1.defaultTransport = if m.defaultTransport.map Member.id = some old.id then
      (match (eraseMember m.members old).head? with
      | some n => if n.type ≠ dnsTypeFakeIP then m.defaultTransport else some n
      | none => none) else m.defaultTransport := by
  obtain ⟨-,e,heq⟩ | ⟨-,-,heq⟩ := remove_of_listed ho (h.isListed ho)
  all_goals
    rw [heq]
    exact ⟨rfl,rfl,rfl,rfl,rfl,rfl⟩

end

section
variable {m m' : TransportManager}

lemma known_of_mem (h : m.toRegistry.Sound) {o : Member} (ho : o ∈ m.members) : m.Known o :=
  ⟨h.id_lt o ho,fun _ hn hid => inj_on_of_nodup_map h.nodup hn ho hid⟩

lemma TransportManager.Known.of_members {o : Member} (h : m.Known o) (hc : m.created ≤ m'.created)
    (hm : ∀ n ∈ m'.members, n ∈ m.members ∨ n.id = m.created) : m'.Known o := by
  refine ⟨h.1.trans_le hc,fun n hn hid => ?_⟩
  obtain ho | hnw := hm n hn
  · exact h.2 n ho hid
  · exact absurd h.1 (by omega)

/-- Members that a call adds are new instances, and whoever comes into a role is a member. -/
structure TransportManager.Grows (m m' : TransportManager) : Prop where
  created : m.created ≤ m'.created
  members : ∀ n ∈ m'.members, n ∈ m.members ∨ n.id = m.created
  default : ∀ d, m'.defaultTransport = some d → m.defaultTransport = some d ∨ d ∈ m'.members
  fakeIP : ∀ f, m'.fakeIPTransport = some f → m.fakeIPTransport = some f ∨ f ∈ m'.members

lemma grows_create (m : TransportManager) (tag : String) (md : Except GoError Made) (ce : Option GoError) :
    m.Grows (m.create tag md ce).1 := by
  cases ha : m.accept tag md ce with
  | error =>
    rw [create_of_error ha]
    exact ⟨Nat.le_succ _,fun _ hn => .inl hn,fun _ hd => .inl hd,fun _ hf => .inl hf⟩
  | ok new =>
    obtain ⟨k,hm,hs,-,-⟩ := m.toRegistry.put_members new
    have hnw : new ∈ (m.joined new).members := by
      change new ∈ (m.toRegistry.put new).members
      rw [hm]
      exact mem_append_right _ mem_cons_self
    have ho : ∀ n ∈ (m.joined new).members, n ∈ m.members ∨ n.id = m.created := by
      intro n hn
      change n ∈ (m.toRegistry.put new).members at hn
      rw [hm] at hn
      rcases mem_append.mp hn with hk | hl
      · exact .inl (hs.subset hk)
      · rw [mem_singleton.mp hl]
        exact .inr (accept_ok ha).1
    rw [create_of_ok ha]
    obtain ⟨-,-,heq⟩ | ⟨-,f,heq,hf,-⟩ := assignRoles_cases (m.joined new) new
    · rw [heq]
      refine ⟨Nat.le_succ _,ho,fun d hd => .inr ?_,fun _ hf => .inl hf⟩
      cases hd
      exact hnw
    · rw [heq]
      refine ⟨Nat.le_succ _,ho,fun _ hd => .inl hd,fun f' hf' => ?_⟩
      obtain rfl | ⟨-,rfl⟩ := hf
      · exact .inl hf'
      · cases hf'
        exact .inr hnw

lemma remove_of_absent {tag : String} (h : m.byTag tag = none) : (m.remove tag).1 = m := by
  rw [TransportManager.remove,h]

lemma grows_remove (h : m.toRegistry.Sound) (tag : String) : m.Grows (m.remove tag).1 := by
  cases ho : m.byTag tag with
  | none =>
    rw [remove_of_absent ho]
    exact ⟨le_rfl,fun _ hn => .inl hn,fun _ hd => .inl hd,fun _ hf => .inl hf⟩
  | some old =>
    obtain ⟨-,hm,hc,-,hfp,hdf⟩ := remove_roles h ho
    refine ⟨hc.ge,fun n hn => ?_,fun d hd => ?_,fun f hf => .inl (hfp.symm.trans hf)⟩
    · rw [hm] at hn
      exact .inl ((eraseMember_sublist _ _).subset hn)
    · rw [hdf] at hd
      rw [hm]
      split_ifs at hd
      · cases hh : (eraseMember m.members old).head? with
        | none =>
          rw [hh] at hd
          cases hd
        | some =>
          rw [hh] at hd
          dsimp only at hd
          split_ifs at hd
          · exact .inl hd
          · cases hd
            exact .inr (mem_of_head? hh)
      · exact .inl hd

lemma grows_start (m : TransportManager) (s : StartStage) (fl : Except GoError Starter) :
    m.Grows (m.start s fl).1 := by
  obtain ⟨hfp,-,⟨-,hr,hdf⟩ | ⟨-,st,hdf,hr⟩⟩ := start_roles m s fl
  · refine ⟨?_,fun n hn => ?_,fun d hd => .inl (hdf.symm.trans hd),fun f hf => .inl (hfp.symm.trans hf)⟩
    · rw [hr]
    · rw [hr] at hn
      exact .inl hn
  · refine ⟨?_,fun n hn => ?_,fun d hd => .inr ?_,fun f hf => .inl (hfp.symm.trans hf)⟩
    · rw [hr]
      exact Nat.le_succ _
    · rw [hr] at hn
      rcases mem_append.mp hn with hm | hl
      · exact .inl hm
      · rw [mem_singleton.mp hl]
        exact .inr rfl
    · cases hdf.symm.trans hd
      rw [hr]
      exact mem_append_right _ mem_cons_self

lemma grows_nextTransports (h : m.toRegistry.Sound) (e : TransportEvent) : m.Grows (nextTransports m e) := by
  cases e with
  | create tag md ce => exact grows_create m tag md ce
  | remove tag => exact grows_remove h tag
  | start s f => exact grows_start m s f

lemma roleInv_nextTransports (h : m.RoleInv) (e : TransportEvent) : (nextTransports m e).RoleInv := by
  have hs := sound_nextTransports h.sound e
  have hg := grows_nextTransports h.sound e
  refine ⟨hs,fun d hd => ?_,fun f hf => ?_⟩
  · obtain ho | hm := hg.default d hd
    · exact (h.default d ho).of_members hg.created hg.members
    · exact known_of_mem hs hm
  · obtain ho | hm := hg.fakeIP f hf
    · exact (h.fakeIP f ho).of_members hg.created hg.members
    · exact known_of_mem hs hm

end

section
variable {m : TransportManager}

lemma joined_byTag_iff {new o : Member} (hid : new.id = m.created) (hk : m.Known o) :
    (m.joined new).byTag o.tag = some o ↔ o.tag ≠ new.tag ∧ m.byTag o.tag = some o := by
  change update m.byTag new.tag (some new) o.tag = some o ↔ _
  by_cases ht : o.tag = new.tag
  · rw [ht,update_self]
    constructor
    · intro heq
      have hlt := hk.1
      cases heq
      omega
    · exact fun h => absurd rfl h.1
  · rw [update_of_ne ht]
    exact ⟨fun h => ⟨ht,h⟩,fun h => h.2⟩

section
variable {new : Member}

lemma joined_byTag_self (m : TransportManager) (new : Member) : (m.joined new).byTag new.tag = some new :=
  update_self ..

lemma joined_byTag_of_ne {t : String} (ht : t ≠ new.tag) : (m.joined new).byTag t = m.byTag t := update_of_ne ht ..

variable (hi : m.RoleInv) (hrs : m.RolesRight) (hid : new.id = m.created)
include hi hrs hid

lemma joined_fakeIP_iff : (∀ f, m.fakeIPTransport = some f → (m.joined new).byTag f.tag = some f) ↔
    ∀ f, m.fakeIPTransport = some f → f.tag ≠ new.tag := by
  refine forall_congr' fun f => imp_congr_right fun hf => ?_
  rw [joined_byTag_iff hid (hi.fakeIP f hf),and_iff_left (hrs.fakeIP f hf)]

lemma rolesRight_joined_default (ht : new.type ≠ dnsTypeFakeIP) :
    TransportManager.RolesRight { m.joined new with defaultTransport := some new } ↔
      ∀ f, m.fakeIPTransport = some f → f.tag ≠ new.tag := by
  rw [← joined_fakeIP_iff hi hrs hid]
  refine ⟨fun h => h.fakeIP,fun hf => ⟨fun d hd => ?_,fun _ _ _ _ => ⟨new,rfl,joined_byTag_self m new⟩,hf⟩⟩
  cases hd
  exact ht

lemma rolesRight_joined_of_not (hnt : ¬ (m.TakesDefault new.tag ∧ new.type ≠ dnsTypeFakeIP)) {f : Option Member}
    (hf : f = m.fakeIPTransport ∨ m.fakeIPTransport = none ∧ f = some new) :
    TransportManager.RolesRight { m.joined new with fakeIPTransport := f } ↔
      (∀ f, m.fakeIPTransport = some f → f.tag ≠ new.tag) ∧ ∀ d, m.defaultTransport = some d →
        (new.type ≠ dnsTypeFakeIP → d.tag ≠ new.tag ∧ m.byTag d.tag = some d) ∧
        (new.type = dnsTypeFakeIP → d.tag = new.tag → m.OnlyFakeIPBut new.tag) := by
  rw [← joined_fakeIP_iff hi hrs hid]
  constructor
  · intro h
    refine ⟨fun f' hf' => ?_,fun d hd => ?_⟩
    · obtain rfl | ⟨hn,-⟩ := hf
      · exact h.fakeIP f' hf'
      · cases hn.symm.trans hf'
    · -- a server that may be the default finds the default registered
      have hs : m.defaultTransport ≠ none := by
        rw [hd]
        exact Option.some_ne_none d
      have hfn : ∀ t o, (m.joined new).byTag t = some o → o.type ≠ dnsTypeFakeIP →
          d.tag ≠ new.tag ∧ m.byTag d.tag = some d := by
        intro t o ho htp
        obtain ⟨d',hd',hbt⟩ := h.default t o ho ⟨htp,.inr (.inr hs)⟩
        cases hd.symm.trans hd'
        exact (joined_byTag_iff hid (hi.default d hd)).mp hbt
      refine ⟨fun htp => hfn new.tag new (joined_byTag_self m new) htp,fun _ htg t o ho hne => ?_⟩
      by_contra htp
      exact (hfn t o ((joined_byTag_of_ne hne).trans ho) htp).1 htg
  · rintro ⟨hfp,hdf⟩
    refine ⟨hrs.notFakeIP,fun t o ho hm => ?_,fun f' hf' => ?_⟩
    · by_cases ht : t = new.tag
      · obtain rfl : new = o := Option.some.inj ((joined_byTag_self m new).symm.trans (ht ▸ ho))
        cases hd : m.defaultTransport with
        | none =>
          -- a free place would have been taken
          refine absurd ⟨?_,hm.1⟩ hnt
          rcases hm.2 with he | htg | hs
          · exact .inr ⟨he,hd⟩
          · exact .inl htg
          · exact absurd hd hs
        | some d =>
          obtain ⟨hne,hbt⟩ := (hdf d hd).1 hm.1
          exact ⟨d,hd,(joined_byTag_of_ne hne).trans hbt⟩
      · have hr := (joined_byTag_of_ne ht).symm.trans ho
        obtain ⟨d,hd,hbt⟩ := hrs.default t o hr hm
        refine ⟨d,hd,(joined_byTag_of_ne ?_).trans hbt⟩
        intro htg
        by_cases htp : new.type = dnsTypeFakeIP
        · exact hm.1 ((hdf d hd).2 htp htg t o hr ht)
        · exact ((hdf d hd).1 htp).1 htg
    · obtain rfl | ⟨-,rfl⟩ := hf
      · exact hfp f' hf'
      · cases hf'
        exact joined_byTag_self m new

end

/-- The call of `Create` that registers a server leaves the roles right exactly under its condition. -/
lemma rolesRight_create_iff (hin : m.RoleInv) (hr : m.RolesRight) (tag : String) (md : Except GoError Made)
    (ce : Option GoError) : m.KeepsRoles (.create tag md ce) ↔ (m.create tag md ce).1.RolesRight := by
  cases ha : m.accept tag md ce with
  | error =>
    rw [create_of_error ha]
    refine ⟨fun _ => ⟨hr.notFakeIP,hr.default,hr.fakeIP⟩,fun _ new hnw => ?_⟩
    rw [ha] at hnw
    cases hnw
  | ok new =>
    obtain ⟨hid,rfl⟩ := accept_ok ha
    rw [TransportManager.KeepsRoles,ha,create_of_ok ha]
    simp only [Except.ok.injEq,forall_eq']
    obtain ⟨ht,htp,heq⟩ | ⟨hn,f,heq,hf,-⟩ := assignRoles_cases (m.joined new) new
    · rw [heq,rolesRight_joined_default hin hr hid htp]
      exact and_iff_left fun hn => absurd ⟨ht,htp⟩ hn
    · rw [heq,rolesRight_joined_of_not hin hr hid hn hf]
      exact and_congr_right fun _ => ⟨fun h => h hn,fun h _ => h⟩

section
variable {tag : String} {old : Member} (hi : m.RoleInv) (hrs : m.RolesRight) (hol : m.byTag tag = some old)

include hi hol

lemma remove_byTag_iff {t : String} {o : Member} :
    (m.remove tag).1.byTag t = some o ↔ t ≠ tag ∧ m.byTag t = some o := by
  rw [(remove_roles hi.sound hol).1]
  by_cases ht : t = tag
  · rw [ht,update_self]
    exact iff_of_false (Option.some_ne_none o).symm fun h => h.1 rfl
  · rw [update_of_ne ht,and_iff_right ht]

lemma map_id_defaultTransport_iff : m.defaultTransport.map Member.id = some old.id ↔ m.defaultTransport = some old := by
  constructor
  · intro h
    obtain ⟨d,hd,hid⟩ := Option.map_eq_some_iff.mp h
    rw [hd,(hi.default d hd).2 old (hi.sound.byTag_mem tag old hol).1 hid.symm]
  · intro h
    rw [h]
    rfl

include hrs

lemma remove_fakeIP_iff : (∀ f, (m.remove tag).1.fakeIPTransport = some f → (m.remove tag).1.byTag f.tag = some f) ↔
      ∀ f, m.fakeIPTransport = some f → f.tag ≠ tag := by
  obtain ⟨-,-,-,-,hfp,-⟩ := remove_roles hi.sound hol
  rw [hfp]
  refine forall_congr' fun f => imp_congr_right fun hf => ?_
  rw [remove_byTag_iff hi hol,and_iff_left (hrs.fakeIP f hf)]

lemma rolesRight_remove_of_ne (hne : m.defaultTransport ≠ some old) :
    (m.remove tag).1.RolesRight ↔ ∀ f, m.fakeIPTransport = some f → f.tag ≠ tag := by
  obtain ⟨-,-,-,hdt,-,hdf⟩ := remove_roles hi.sound hol
  rw [if_neg (mt (map_id_defaultTransport_iff hi hol).mp hne)] at hdf
  rw [← remove_fakeIP_iff hi hrs hol]
  refine ⟨fun h => h.fakeIP,fun hf => ⟨?_,fun t o ho hm => ?_,hf⟩⟩
  · rw [hdf]
    exact hrs.notFakeIP
  · obtain ⟨-,hr⟩ := (remove_byTag_iff hi hol).mp ho
    rw [TransportManager.MayBeDefault,hdf,hdt] at hm
    obtain ⟨d,hd,hp⟩ := hrs.default t o hr hm
    refine ⟨d,hdf.trans hd,(remove_byTag_iff hi hol).mpr ⟨fun heq => ?_,hp⟩⟩
    rw [heq,hol] at hp
    exact hne (hd.trans hp.symm)

lemma rolesRight_remove_of_last (heq : m.defaultTransport = some old) (hh : (eraseMember m.members old).head? = none) :
    (m.remove tag).1.RolesRight ↔ ∀ f, m.fakeIPTransport = some f → f.tag ≠ tag := by
  obtain ⟨-,-,-,-,-,hdf⟩ := remove_roles hi.sound hol
  rw [if_pos ((map_id_defaultTransport_iff hi hol).mpr heq),hh] at hdf
  rw [← remove_fakeIP_iff hi hrs hol]
  refine ⟨fun h => h.fakeIP,fun hf => ⟨fun d hd => ?_,fun t o ho => ?_,hf⟩⟩
  · cases hdf.symm.trans hd
  · obtain ⟨hne,hr⟩ := (remove_byTag_iff hi hol).mp ho
    have hs := hi.sound.mem_eraseMember hol hr hne
    rw [head?_eq_none_iff.mp hh] at hs
    exact absurd hs not_mem_nil

lemma rolesRight_remove_of_next (heq : m.defaultTransport = some old) {n : Member}
    (hh : (eraseMember m.members old).head? = some n) :
    (m.remove tag).1.RolesRight ↔ (∀ f, m.fakeIPTransport = some f → f.tag ≠ tag) ∧
      n.type ≠ dnsTypeFakeIP ∧ m.OnlyFakeIPBut tag := by
  obtain ⟨-,-,-,-,-,hdf⟩ := remove_roles hi.sound hol
  rw [if_pos ((map_id_defaultTransport_iff hi hol).mpr heq),hh] at hdf
  dsimp only at hdf
  rw [← remove_fakeIP_iff hi hrs hol]
  by_cases ht : n.type = dnsTypeFakeIP
  · rw [if_neg (not_not.mpr ht)] at hdf
    exact iff_of_false (fun h => h.notFakeIP n hdf ht) fun h => h.2.1 ht
  · rw [if_pos ht,heq] at hdf
    constructor
    · intro h
      refine ⟨h.fakeIP,ht,fun t o ho hne => ?_⟩
      by_contra hn
      obtain ⟨d,hd,hp⟩ := h.default t o ((remove_byTag_iff hi hol).mpr ⟨hne,ho⟩)
        ⟨hn,.inr (.inr (by rw [hdf]; simp))⟩
      cases hdf.symm.trans hd
      exact ((remove_byTag_iff hi hol).mp hp).1 (hi.sound.byTag_mem tag old hol).2
    · rintro ⟨hf,-,hon⟩
      refine ⟨fun d hd => ?_,fun t o ho hm => ?_,hf⟩
      · exact hrs.notFakeIP d (heq.trans (hdf.symm.trans hd))
      · obtain ⟨hne,hr⟩ := (remove_byTag_iff hi hol).mp ho
        exact absurd (hon t o hr hne) hm.1

end

variable (hi : m.RoleInv) (hrs : m.RolesRight)
include hi hrs

/-- The call of `Remove` leaves the roles right exactly under its condition. -/
lemma rolesRight_remove_iff (tag : String) : m.KeepsRoles (.remove tag) ↔ (m.remove tag).1.RolesRight := by
  cases ho : m.byTag tag with
  | none =>
    rw [remove_of_absent ho]
    refine ⟨fun _ => hrs,fun _ old ho' => ?_⟩
    cases ho.symm.trans ho'
  | some old =>
    rw [TransportManager.KeepsRoles,ho]
    simp only [Option.some.injEq,forall_eq']
    by_cases heq : m.defaultTransport = some old
    · cases hh : (eraseMember m.members old).head? with
      | none =>
        rw [rolesRight_remove_of_last hi hrs ho heq hh]
        simp
      | some =>
        rw [rolesRight_remove_of_next hi hrs ho heq hh]
        simp [heq]
    · rw [rolesRight_remove_of_ne hi hrs ho heq]
      simp [heq]

/-- The call of `Start` leaves the roles right exactly where its fallback does not take the FakeIP server's tag. -/
lemma rolesRight_start_iff (s : StartStage) (fl : Except GoError Starter) :
    m.KeepsRoles (.start s fl) ↔ (m.start s fl).1.RolesRight := by
  obtain ⟨hfp,hdt,⟨hn,hr,hdf⟩ | ⟨hfl,st,hdf,hr⟩⟩ := start_roles m s fl
  · refine ⟨fun _ => ⟨?_,?_,?_⟩,fun _ hfl => absurd hfl hn⟩
    · rw [hdf]
      exact hrs.notFakeIP
    · intro t o ho hm
      rw [TransportManager.MayBeDefault,hdf,hdt] at hm
      rw [hdf,hr]
      rw [hr] at ho
      exact hrs.default t o ho hm
    · rw [hfp,hr]
      exact hrs.fakeIP
  · have hbt : (m.start s fl).1.byTag =
        update m.byTag "local" (some ⟨m.created,"local","local",[],st⟩) := by
      rw [hr]
      rfl
    constructor
    · intro hk
      refine ⟨fun d hd => ?_,fun _ _ _ _ => ⟨_,hdf,?_⟩,fun f hf => ?_⟩
      · cases hdf.symm.trans hd
        change "local" ≠ dnsTypeFakeIP
        decide
      · rw [hbt]
        exact update_self ..
      · rw [hfp] at hf
        rw [hbt,update_of_ne (hk hfl f hf)]
        exact hrs.fakeIP f hf
    · intro h _ f hf ht
      have hp := h.fakeIP f (hfp.trans hf)
      rw [hbt,ht,update_self] at hp
      have hlt := (hi.fakeIP f hf).1
      cases hp
      exact absurd hlt (Nat.lt_irrefl m.created)

lemma rolesRight_nextTransports_iff (e : TransportEvent) : m.KeepsRoles e ↔ (nextTransports m e).RolesRight := by
  cases e with
  | create tag md ce => exact rolesRight_create_iff hi hrs tag md ce
  | remove tag => exact rolesRight_remove_iff hi hrs tag
  | start s f => exact rolesRight_start_iff hi hrs s f

end

/-- The roles are right in every state of a run exactly where each call keeps to its condition. -/
theorem roles_right_throughout_iff (defaultTag : String) (events : List TransportEvent) :
    Run.Along nextTransports TransportManager.KeepsRoles (newTransportManager defaultTag) events ↔
      Run.Throughout nextTransports TransportManager.RolesRight (newTransportManager defaultTag) events := by
  have hin : (newTransportManager defaultTag).RoleInv := by
    refine ⟨Registry.Sound.empty 0,fun d hd => ?_,fun f hf => ?_⟩
    · cases hd
    · cases hf
  have hrl : (newTransportManager defaultTag).RolesRight := by
    refine ⟨fun d hd => ?_,fun t o ho => ?_,fun f hf => ?_⟩
    · cases hd
    · cases ho
    · cases hf
  exact Run.along_iff_throughout_of_invariant (fun _ e h => roleInv_nextTransports h e)
    (fun _ e h hr => rolesRight_nextTransports_iff h hr e) events hin hrl

/-- The default is removed in front of another server and stays the default; in front of a FakeIP server, which
becomes the default; a removed FakeIP server is still the one that is returned. -/
theorem removed_servers_keep_roles :
    (∃ m d, m = [TransportEvent.create "a" (.ok {}) none,.create "b" (.ok {}) none,.remove "a"].foldl nextTransports
        (newTransportManager "") ∧
      m.defaultTransport = some d ∧ d.tag = "a" ∧ m.byTag "a" = none ∧ m.byTag "b" ≠ none) ∧
    (∃ m d, m = [TransportEvent.create "a" (.ok {}) none,.create "f" (.ok { type := dnsTypeFakeIP }) none,
        .remove "a"].foldl nextTransports (newTransportManager "") ∧
      m.defaultTransport = some d ∧ d.type = dnsTypeFakeIP) ∧
    ∃ m f, m = [TransportEvent.create "a" (.ok {}) none,.create "f" (.ok { type := dnsTypeFakeIP }) none,
        .remove "f"].foldl nextTransports (newTransportManager "") ∧
      m.fakeIPTransport = some f ∧ f.tag = "f" ∧ m.byTag "f" = none := by
  refine ⟨⟨_,_,rfl,rfl,rfl,rfl,?_⟩,⟨_,_,rfl,rfl,rfl⟩,_,_,rfl,rfl,rfl,rfl⟩
  exact Option.some_ne_none _

end SingBox.DNS
