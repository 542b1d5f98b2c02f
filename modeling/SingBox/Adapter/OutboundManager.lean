import SingBox.Adapter.Registry
import SingBox.Library.Run

/-! The outbound manager (`adapter/outbound/manager.go`): its start, and `Create` and `Remove` on a registry
with a cached default. -/
namespace SingBox.Outbound
open Adapter List

/-- The endpoint manager, as far as the outbound manager asks it. Its instances are none of the outbound
manager's, which are counted from `made` on. -/
structure EndpointManager where
  endpoints : List Member := []
  made : ℕ := 0
  id_lt : ∀ e ∈ endpoints, e.id < made := by simp

def EndpointManager.get (endpoint : EndpointManager) (tag : String) : Option Member :=
  endpoint.endpoints.find? fun it => it.tag = tag

/-- `closed` has the instances that `Close` was called on without an error. -/
structure Manager extends Registry where
  endpoint : EndpointManager := {}
  defaultTag : String := ""
  started : Bool := false
  stage : StartStage := .stateInitialize
  defaultOutbound : Option Member := none
  closed : List ℕ := []

/-- `NewManager`. -/
def newManager (endpoint : EndpointManager) (defaultTag : String) : Manager :=
  { created := endpoint.made, endpoint := endpoint, defaultTag := defaultTag }

def outboundName (o : Member) : String := "outbound/"++o.type++"["++o.tag++"]"

def outboundKind : MemberKind where
  start o := match o.starter with
    | .lifecycle start => start .stateStart
    | .legacy _ (some err) _ => err
    | .legacy _ none _ => none
  name := outboundName
  noun := "outbound"

namespace Manager

def startOutbounds (m : Manager) (outbounds : List Member) (fuel : ℕ) : Option (List Member × CallResult) :=
  startMembers outboundKind m.byTag outbounds fuel

/-- The outbound with a tag, or else what `get` has. -/
def lookup (m : Manager) (get : String → Option Member) (tag : String) : Option Member :=
  match m.byTag tag with
  | some o => some o
  | none => get tag

/-- `Manager.Outbound`. -/
def outbound (m : Manager) (tag : String) : Option Member := m.lookup m.endpoint.get tag

def addDefault (m : Manager) (directOutbound : Member) : Manager :=
  { m with toRegistry := m.toRegistry.addFallback directOutbound, defaultOutbound := some directOutbound }

/-- The choice of the default in `Start`, where `defaultOutboundFallback` makes a direct outbound. -/
def chooseDefault (m : Manager) (fallback : Except GoError Starter) : Except GoError Manager := do
  let m ← if m.defaultTag ≠ "" ∧ m.defaultOutbound.isNone then
      match m.endpoint.get m.defaultTag with
      | none => .error ⟨"default outbound not found: "++m.defaultTag,false,false⟩
      | some defaultEndpoint => .ok { m with defaultOutbound := some defaultEndpoint }
    else .ok m
  if m.defaultOutbound.isNone then
    match fallback with
    | .error err => .error (err.cause "create direct outbound for fallback")
    | .ok starter =>
      let directOutbound : Member := ⟨m.created,"direct","direct",[],starter⟩
      .ok (addDefault { m with created := m.created+1 } directOutbound)
  else .ok m

/-- The loop of `Start` for the other stages. -/
def startStage (outbounds : List Member) (stage : StartStage) : CallResult :=
  match outbounds.findSome? fun o =>
      (legacyStart o.starter stage).map fun err => err.cause (stage.toString++" "++outboundName o) with
  | some err => .failed err
  | none => .ok

/-- `Manager.Start`; the passes over the outbounds have fuel enough to end. -/
def start (m : Manager) (stage : StartStage) (fallback : Except GoError Starter) : Manager × Option CallResult :=
  if m.started ∧ stage.toNat ≤ m.stage.toNat then (m,some (.panicked "already started"))
  else
    let m := { m with started := true, stage := stage }
    if stage = .stateStart then
      match m.chooseDefault fallback with
      | .error err => (m,some (.failed err))
      | .ok m =>
        let outbounds := m.members++m.endpoint.endpoints
        (m,(m.startOutbounds outbounds (outbounds.length+1)).map Prod.snd)
    else (m,some (startStage m.members stage))

/-- The second half of `Remove`: who depends on the outbound keeps it from being closed, but no longer from
being unregistered. -/
def finishRemove (m : Manager) (tag : String) (outbound : Member) (closeErr : Option GoError) :
    Manager × CallResult :=
  let dependBy := m.dependByTag tag
  if 0 < dependBy.length then
    (m,.failed ⟨"outbound["++tag++"] is depended by "++", ".intercalate dependBy,false,false⟩)
  else
    let m := { m with toRegistry := m.toRegistry.forget tag outbound }
    if m.started then
      match closeErr with
      | some err => (m,.failed err)
      | none => ({ m with closed := outbound.id::m.closed },.ok)
    else (m,.ok)

def nextDefault (m : Manager) (removed : Member) : Option Member :=
  if m.defaultOutbound.map Member.id = some removed.id then m.members.head? else m.defaultOutbound

def remove (m : Manager) (tag : String) (closeErr : Option GoError) : Manager × CallResult :=
  match m.byTag tag with
  | none => (m,.failed errInvalid)
  | some outbound =>
    if !m.isListed outbound then
      ({ m with byTag := Function.update m.byTag tag none },.panicked "invalid inbound index")
    else
      let m := { m with toRegistry := m.toRegistry.unregister tag outbound }
      let m := { m with defaultOutbound := m.nextDefault outbound }
      m.finishRemove tag outbound closeErr

def startNew (m : Manager) (o : Member) : Option GoError :=
  if m.started then
    listStartStages.findSome? fun stage =>
      (legacyStart o.starter stage).map fun err => err.cause (stage.toString++" "++outboundName o)
  else none

/-- The end of `Create`. -/
def register (m : Manager) (outbound : Member) : Manager :=
  { m with
    toRegistry := m.toRegistry.put outbound
    defaultOutbound :=
      if outbound.tag = m.defaultTag ∨ m.defaultTag = "" ∧ m.defaultOutbound.isNone then some outbound
      else m.defaultOutbound }

def create (m : Manager) (tag : String) (made : Except GoError Made) (closeErr : Option GoError) :
    Manager × CallResult :=
  if tag = "" then (m,.failed errInvalid)
  else match made with
    | .error err => (m,.failed err)
    | .ok made =>
      let outbound := made.member m.created tag
      let m := { m with created := m.created+1 }
      match m.startNew outbound with
      | some err => (m,.failed err)
      | none =>
        match m.byTag tag with
        | none => (m.register outbound,.ok)
        | some existsOutbound =>
          match if m.started then closeErr else none with
          | some err => (m,.failed (err.cause ("close "++outboundName existsOutbound)))
          | none =>
            if !m.isListed existsOutbound then (m,.panicked "invalid inbound index")
            else
              let m := { m with closed := if m.started then existsOutbound.id::m.closed else m.closed }
              (m.register outbound,.ok)

end Manager

/-- The calls on a manager, with what the calls that they make return. -/
inductive Event
  | create (tag : String) (made : Except GoError Made) (closeErr : Option GoError)
  | remove (tag : String) (closeErr : Option GoError)
  | start (stage : StartStage) (fallback : Except GoError Starter)

def next (m : Manager) : Event → Manager
  | .create tag made closeErr => (m.create tag made closeErr).1
  | .remove tag closeErr => (m.remove tag closeErr).1
  | .start stage fallback => (m.start stage fallback).1

structure Inv (m : Manager) : Prop where
  sound : m.toRegistry.Sound
  listed : m.toRegistry.Listed
  made_le : ∀ o ∈ m.members, m.endpoint.made ≤ o.id
  made_le_created : m.endpoint.made ≤ m.created
  closed : ∀ id ∈ m.closed, m.endpoint.made ≤ id ∧ id < m.created
  opened : ∀ o ∈ m.members, o.id ∉ m.closed
  empty : m.defaultTag = "" → m.defaultOutbound = none → m.members = []
  endpoint_tag : ∀ d, m.defaultOutbound = some d → d.id < m.endpoint.made → d.tag = m.defaultTag

/-- A failed call of `Create` changes nothing but the count of instances; another one registers the new
outbound, and may have closed the one it replaces. -/
lemma create_cases {m : Manager} (h : m.toRegistry.Sound) (tag : String) (md : Except GoError Made)
    (ce : Option GoError) : ((m.create tag md ce).2 ≠ .ok ∧ ∃ c, m.created ≤ c ∧
      (m.create tag md ce).1 = { m with created := c }) ∨
    ((m.create tag md ce).2 = .ok ∧ ∃ n, md = .ok n ∧ tag ≠ "" ∧ ∃ cl, (m.create tag md ce).1 =
        Manager.register { m with created := m.created+1, closed := cl } (n.member m.created tag) ∧
      (cl = m.closed ∨ ∃ ol, m.byTag tag = some ol ∧ cl = ol.id::m.closed)) := by
  unfold Manager.create
  split_ifs with ht
  · exact .inl ⟨by simp,m.created,le_rfl,rfl⟩
  cases md with
  | error => exact .inl ⟨by simp,m.created,le_rfl,rfl⟩
  | ok n =>
    dsimp only
    cases Manager.startNew _ (n.member m.created tag) with
    | some => exact .inl ⟨by simp,m.created+1,Nat.le_succ _,rfl⟩
    | none =>
      cases ho : m.byTag tag with
      | none => exact .inr ⟨rfl,n,rfl,ht,m.closed,rfl,.inl rfl⟩
      | some ol =>
        cases if m.started then ce else none with
        | some => exact .inl ⟨by simp,m.created+1,Nat.le_succ _,rfl⟩
        | none =>
          have hl : Registry.isListed { m.toRegistry with created := m.created+1 } ol = true := h.isListed ho
          dsimp only
          rw [hl]
          refine .inr ⟨rfl,n,rfl,ht,_,rfl,?_⟩
          split_ifs
          · exact .inr ⟨ol,rfl,rfl⟩
          · exact .inl rfl

/-- The manager after the first half of `Remove`. -/
def Manager.unregistered (m : Manager) (tag : String) (outbound : Member) : Manager :=
  let m := { m with toRegistry := m.toRegistry.unregister tag outbound }
  { m with defaultOutbound := m.nextDefault outbound }

/-- `Remove` of a listed outbound unregisters it; if somebody depends on it, that is all, and if not, its records are
dropped and it may be closed. -/
lemma remove_of_listed {m : Manager} {tag : String} {ol : Member} (ho : m.byTag tag = some ol)
    (hl : m.isListed ol = true) (ce : Option GoError) :
    (m.dependByTag tag ≠ [] ∧ ∃ e, m.remove tag ce = (m.unregistered tag ol,.failed e)) ∨
    (m.dependByTag tag = [] ∧ ∃ c r, m.remove tag ce = ({ m.unregistered tag ol with
        toRegistry := (m.toRegistry.unregister tag ol).forget tag ol, closed := c },r) ∧
      (c = m.closed ∨ c = ol.id::m.closed) ∧ ((m.started = true → ce = none) ∧ r = .ok ∨
        ¬ (m.started = true → ce = none) ∧ ∃ e, r = .failed e)) := by
  rw [Manager.remove,ho]
  dsimp only
  rw [hl]
  simp only [Bool.not_true,Bool.false_eq_true,if_false]
  rw [Manager.finishRemove]
  rw [Registry.unregister_dependByTag]
  cases m.dependByTag tag with
  | cons => exact .inl ⟨by simp,_,rfl⟩
  | nil =>
    simp only [length_nil,Nat.lt_irrefl,if_false]
    refine .inr ⟨trivial,?_⟩
    split_ifs with hs
    · cases ce with
      | some e => exact ⟨m.closed,.failed e,rfl,.inl rfl,.inr ⟨fun hc => (by cases hc hs),e,rfl⟩⟩
      | none => exact ⟨ol.id::m.closed,.ok,rfl,.inr rfl,.inl ⟨fun _ => rfl,rfl⟩⟩
    · exact ⟨m.closed,.ok,rfl,.inl rfl,.inl ⟨fun hr => absurd hr hs,rfl⟩⟩

variable (m : Manager) (o : Member)

@[simp] lemma register_toRegistry : (m.register o).toRegistry = m.toRegistry.put o := rfl

@[simp] lemma register_endpoint : (m.register o).endpoint = m.endpoint := rfl

@[simp] lemma register_defaultTag : (m.register o).defaultTag = m.defaultTag := rfl

@[simp] lemma register_closed : (m.register o).closed = m.closed := rfl

lemma register_defaultOutbound : (m.register o).defaultOutbound =
    if o.tag = m.defaultTag ∨ m.defaultTag = "" ∧ m.defaultOutbound.isNone then some o else m.defaultOutbound := rfl

lemma Inv.newManager (e : EndpointManager) (dt : String) : Inv (newManager e dt) where
  sound := .empty e.made
  listed := by
    intro o ho
    exact absurd ho not_mem_nil
  made_le := by
    intro o ho
    exact absurd ho not_mem_nil
  made_le_created := le_rfl
  closed := by
    intro id hid
    exact absurd hid not_mem_nil
  opened := by
    intro o ho
    exact absurd ho not_mem_nil
  empty := fun _ _ => rfl
  endpoint_tag := by
    intro d hd
    cases hd

variable {m : Manager}

lemma Inv.created (h : Inv m) {c : ℕ} (hle : m.created ≤ c) : Inv { m with created := c } where
  sound := h.sound.mono hle
  listed := h.listed
  made_le := h.made_le
  made_le_created := h.made_le_created.trans hle
  closed := fun id hid => ⟨(h.closed id hid).1,(h.closed id hid).2.trans_le hle⟩
  opened := h.opened
  empty := h.empty
  endpoint_tag := h.endpoint_tag

lemma Inv.id_ne (h : Inv m) {o o' : Member} (ho : o ∈ m.members) (ho' : o' ∈ m.members) (hne : o ≠ o') :
    o.id ≠ o'.id := fun heq => hne (inj_on_of_nodup_map h.sound.nodup ho ho' heq)

lemma Inv.register (h : Inv m) {n : Member} (hid : n.id = m.created) {c : List ℕ}
    (hcl : c = m.closed ∨ ∃ ol, m.byTag n.tag = some ol ∧ c = ol.id::m.closed) :
    Inv (Manager.register { m with created := m.created+1, closed := c } n) := by
  obtain ⟨k,hm,hs,-,hr⟩ := m.toRegistry.put_members n
  have hlt : ∀ id ∈ c, m.endpoint.made ≤ id ∧ id < m.created := by
    rcases hcl with rfl | ⟨ol,hol,rfl⟩
    · exact h.closed
    · have hmm := (h.sound.byTag_mem _ ol hol).1
      intro id hm'
      rcases mem_cons.mp hm' with rfl | hm'
      · exact ⟨h.made_le ol hmm,h.sound.id_lt ol hmm⟩
      · exact h.closed id hm'
  have hk : ∀ o ∈ k, o.id ∉ c := by
    intro o ho
    have hop := h.opened o (hs.subset ho)
    rcases hcl with rfl | ⟨ol,hol,rfl⟩
    · exact hop
    · have hmm := (h.sound.byTag_mem _ ol hol).1
      rw [hr ol hol,mem_eraseMember h.sound.nodup hmm] at ho
      rw [mem_cons,not_or]
      exact ⟨h.id_ne ho.1 hmm ho.2,hop⟩
  refine ⟨?_,?_,?_,?_,?_,?_,?_,?_⟩
  · rw [register_toRegistry]
    exact h.sound.put hid
  · rw [register_toRegistry]
    exact h.listed.put h.sound n
  · intro o ho
    rw [register_toRegistry] at ho
    rw [register_endpoint]
    rcases mem_append.mp (hm ▸ ho) with hol | hnw
    · exact h.made_le o (hs.subset hol)
    · rw [mem_singleton.mp hnw,hid]
      exact h.made_le_created
  · rw [register_endpoint,register_toRegistry]
    exact Nat.le_succ_of_le h.made_le_created
  · rw [register_closed,register_endpoint,register_toRegistry]
    exact fun id hmm => ⟨(hlt id hmm).1,Nat.lt_succ_of_lt (hlt id hmm).2⟩
  · intro o ho
    rw [register_toRegistry] at ho
    rw [register_closed]
    rcases mem_append.mp (hm ▸ ho) with hol | hnw
    · exact hk o hol
    · rw [mem_singleton.mp hnw,hid]
      exact fun hmm => lt_irrefl _ (hlt _ hmm).2
  · rw [register_defaultTag,register_defaultOutbound]
    intro ht hn
    rw [ht] at hn
    split_ifs at hn with hc
    exact absurd (Or.inr ⟨rfl,by rw [hn]; rfl⟩) hc
  · rw [register_defaultTag,register_defaultOutbound,register_endpoint]
    intro d hd hl
    split_ifs at hd with hc
    · cases hd
      have := h.made_le_created
      dsimp only at hl
      omega
    · exact h.endpoint_tag d hd hl

variable {tag : String}

lemma Inv.unregistered (h : Inv m) {ol : Member} (hol : m.byTag tag = some ol) : Inv (m.unregistered tag ol) := by
  have hs := eraseMember_sublist m.members ol
  refine ⟨h.sound.unregister hol,h.listed.unregister h.sound hol,fun o ho => h.made_le o (hs.subset ho),
    h.made_le_created,h.closed,fun o ho => h.opened o (hs.subset ho),?_,?_⟩
  · intro ht hn
    change Manager.nextDefault _ ol = none at hn
    rw [Manager.nextDefault] at hn
    split_ifs at hn with hdf
    · exact head?_eq_none_iff.mp hn
    · have hm := (h.sound.byTag_mem tag ol hol).1
      rw [h.empty ht hn] at hm
      exact absurd hm not_mem_nil
  · intro d hd hl
    change Manager.nextDefault _ ol = some d at hd
    rw [Manager.nextDefault] at hd
    split_ifs at hd with hdf
    · have hle := h.made_le d (hs.subset (mem_of_mem_head? hd))
      exact absurd hl (not_lt.mpr hle)
    · exact h.endpoint_tag d hd hl

lemma Inv.forget (h : Inv m) {ol : Member} {c : List ℕ}
    (hc : c = m.closed ∨ c = ol.id::m.closed) (hm : m.endpoint.made ≤ ol.id)
    (hlt : ol.id < m.created) (hl : ∀ o ∈ m.members, o.id ≠ ol.id) :
    Inv { m with toRegistry := m.toRegistry.forget tag ol, closed := c } := by
  refine ⟨⟨h.sound.byTag_mem,h.sound.nodup,h.sound.id_lt⟩,h.listed,h.made_le,h.made_le_created,?_,?_,h.empty,
    h.endpoint_tag⟩
  · rcases hc with rfl | rfl
    · exact h.closed
    · intro id hid
      rcases mem_cons.mp hid with rfl | hid
      · exact ⟨hm,hlt⟩
      · exact h.closed id hid
  · intro o ho
    rcases hc with rfl | rfl
    · exact h.opened o ho
    · rw [mem_cons,not_or]
      exact ⟨hl o ho,h.opened o ho⟩

lemma Inv.create (h : Inv m) (tag : String) (md : Except GoError Made) (ce : Option GoError) :
    Inv (m.create tag md ce).1 := by
  obtain ⟨-,c,hle,heq⟩ | ⟨-,n,-,-,cl,heq,hc⟩ := create_cases h.sound tag md ce
  · rw [heq]
    exact h.created hle
  · rw [heq]
    exact h.register rfl hc

lemma Inv.remove (h : Inv m) (tag : String) (ce : Option GoError) : Inv (m.remove tag ce).1 := by
  cases hol : m.byTag tag with
  | none =>
    rw [Manager.remove,hol]
    exact h
  | some ol =>
    obtain ⟨-,e,heq⟩ | ⟨-,c,r,heq,hc,-⟩ := remove_of_listed hol (h.sound.isListed hol) ce
    · rw [heq]
      exact h.unregistered hol
    · rw [heq]
      have hm := (h.sound.byTag_mem tag ol hol).1
      refine (h.unregistered hol).forget hc (h.made_le ol hm) (h.sound.id_lt ol hm) ?_
      intro o ho
      obtain ⟨ho,hne⟩ := (mem_eraseMember h.sound.nodup hm).mp ho
      exact h.id_ne ho hm hne

/-- What `Start` makes the default: nothing where it fails, the default there was, the endpoint with the
configured tag, or the fallback. -/
lemma chooseDefault_cases (m : Manager) (f : Except GoError Starter) :
    (m.defaultOutbound = none ∧ (m.defaultTag ≠ "" → m.endpoint.get m.defaultTag = none) ∧
      ∃ er, m.chooseDefault f = .error er) ∨ (m.defaultOutbound ≠ none ∧ m.chooseDefault f = .ok m) ∨
    (m.defaultOutbound = none ∧ m.defaultTag ≠ "" ∧ ∃ e, m.endpoint.get m.defaultTag = some e ∧
      m.chooseDefault f = .ok { m with defaultOutbound := some e }) ∨
    (m.defaultOutbound = none ∧ m.defaultTag = "" ∧ ∃ s, m.chooseDefault f =
      .ok (Manager.addDefault { m with created := m.created+1 } ⟨m.created,"direct","direct",[],s⟩)) := by
  unfold Manager.chooseDefault
  cases hd : m.defaultOutbound with
  | some => exact .inr (.inl ⟨by simp,by simp [hd,bind,Except.bind]⟩)
  | none =>
    by_cases ht : m.defaultTag = ""
    · cases f with
      | error => exact .inl ⟨rfl,fun h => absurd ht h,by simp [hd,ht,bind,Except.bind]⟩
      | ok s => exact .inr (.inr (.inr ⟨rfl,ht,s,by simp [hd,ht,bind,Except.bind]⟩))
    · cases hg : m.endpoint.get m.defaultTag with
      | none => exact .inl ⟨rfl,fun _ => rfl,by simp [ht,bind,Except.bind]⟩
      | some e => exact .inr (.inr (.inl ⟨rfl,ht,e,rfl,by simp [ht,bind,Except.bind]⟩))

/-- The manager that `Start` works on. -/
def Manager.begun (m : Manager) (stage : StartStage) : Manager := { m with started := true, stage := stage }

/-- `Start` does nothing for a stage that is over; else it notes the stage, and chooses the default when the
stage is `StartStateStart`. -/
lemma start_fst (m : Manager) (s : StartStage) (f : Except GoError Starter) :
    (m.start s f).1 = if m.started ∧ s.toNat ≤ m.stage.toNat then m
      else if s = .stateStart then ((m.begun s).chooseDefault f).toOption.getD (m.begun s) else m.begun s := by
  unfold Manager.start Manager.begun
  split_ifs with ho hs
  · rfl
  · dsimp only
    cases Manager.chooseDefault _ f <;> rfl
  · rfl

lemma Inv.begun (h : Inv m) (s : StartStage) : Inv (m.begun s) :=
  ⟨h.sound,h.listed,h.made_le,h.made_le_created,h.closed,h.opened,h.empty,h.endpoint_tag⟩

lemma EndpointManager.get_spec {en : EndpointManager} {e : Member}
    (h : en.get tag = some e) : e.tag = tag ∧ e.id < en.made := by
  rw [EndpointManager.get] at h
  exact ⟨by simpa using find?_some h,en.id_lt e (mem_of_find?_eq_some h)⟩

lemma Inv.byTag_of_empty (h : Inv m) (he : m.members = []) (t : String) : m.byTag t = none := by
  by_contra hne
  obtain ⟨o,ho⟩ := Option.ne_none_iff_exists'.mp hne
  have hm := (h.sound.byTag_mem t o ho).1
  rw [he] at hm
  exact absurd hm not_mem_nil

lemma Inv.addDefault (h : Inv m) (he : m.members = []) {n : Member} (hid : n.id = m.created) :
    Inv (Manager.addDefault { m with created := m.created+1 } n) := by
  have hm : (Manager.addDefault { m with created := m.created+1 } n).members = [n] := by
    change m.members++[n] = [n]
    rw [he,nil_append]
  refine ⟨h.sound.addFallback hid,?_,?_,Nat.le_succ_of_le h.made_le_created,?_,?_,?_,?_⟩
  · intro o ho
    rw [hm,mem_singleton] at ho
    subst ho
    exact Function.update_self o.tag _ m.byTag
  · intro o ho
    rw [hm,mem_singleton] at ho
    rw [ho,hid]
    exact h.made_le_created
  · exact fun id hc => ⟨(h.closed id hc).1,Nat.lt_succ_of_lt (h.closed id hc).2⟩
  · intro o ho hc
    rw [hm,mem_singleton] at ho
    have hlt := (h.closed o.id hc).2
    rw [ho,hid] at hlt
    exact lt_irrefl _ hlt
  · intro _ hn
    cases hn
  · intro d hd hl
    cases hd
    rw [hid] at hl
    exact absurd hl (not_lt.mpr h.made_le_created)

lemma Inv.chooseDefault (h : Inv m) (f : Except GoError Starter) : Inv ((m.chooseDefault f).toOption.getD m) := by
  obtain ⟨-,-,er,heq⟩ | ⟨-,heq⟩ | ⟨-,-,e,he,heq⟩ | ⟨hn,ht,s,heq⟩ := chooseDefault_cases m f
  · rw [heq]
    exact h
  · rw [heq]
    exact h
  · rw [heq]
    refine ⟨h.sound,h.listed,h.made_le,h.made_le_created,h.closed,h.opened,?_,?_⟩
    · intro _ hn
      cases hn
    · intro d hd _
      cases hd
      exact (EndpointManager.get_spec he).1
  · rw [heq]
    exact h.addDefault (h.empty ht hn) rfl

lemma Inv.next (h : Inv m) (e : Event) : Inv (next m e) := by
  cases e with
  | create tag md ce => exact h.create tag md ce
  | remove tag ce => exact h.remove tag ce
  | start s f =>
    change Inv (m.start s f).1
    rw [start_fst]
    split_ifs
    · exact h
    · exact (h.begun s).chooseDefault f
    · exact h.begun s

/-- In every run `Outbound` finds the listed outbounds by their tags, and none that was closed. -/
theorem outbound_found_open (endpoint : EndpointManager) (defaultTag : String) (events : List Event) :
    let m := events.foldl next (newManager endpoint defaultTag)
    (∀ o ∈ m.members, m.outbound o.tag = some o) ∧
      ∀ tag o, m.outbound tag = some o → o.tag = tag ∧ o.id ∉ m.closed := by
  intro m
  have h : Inv m := foldlRecOn events next (.newManager endpoint defaultTag) fun _ h e _ => h.next e
  refine ⟨fun o ho => by rw [Manager.outbound,Manager.lookup,h.listed o ho],fun tag o ho => ?_⟩
  unfold Manager.outbound Manager.lookup at ho
  split at ho
  · next hb =>
    cases ho
    obtain ⟨hm,ht⟩ := h.sound.byTag_mem tag o hb
    exact ⟨ht,h.opened o hm⟩
  · obtain ⟨ht,hl⟩ := EndpointManager.get_spec ho
    exact ⟨ht,fun hc => hl.not_ge (h.closed o.id hc).1⟩

end SingBox.Outbound
