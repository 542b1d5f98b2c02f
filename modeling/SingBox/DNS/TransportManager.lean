import SingBox.Adapter.Registry

/-! The DNS transport manager (`dns/transport_manager.go`). It keeps its registry as the outbound manager does,
has a place for the one FakeIP transport, and returns some errors after the registry has been changed. -/
namespace SingBox.DNS
open Adapter

structure TransportManager extends Registry where
  defaultTag : String := ""
  started : Bool := false
  stage : StartStage := .stateInitialize
  defaultTransport : Option Member := none
  fakeIPTransport : Option Member := none

/-- `NewTransportManager`. -/
def newTransportManager (defaultTag : String) : TransportManager := { defaultTag := defaultTag }

/-- `C.DNSTypeFakeIP`. -/
def dnsTypeFakeIP : String := "fakeip"

def transportName (t : Member) : String := "dns/"++t.type++"["++t.tag++"]"

def transportKind : MemberKind where
  start t := match t.starter with
    | .lifecycle start => start .stateStart
    | .legacy _ _ _ => none
  name := transportName
  noun := "server"

def errDefaultFakeIP : GoError := ⟨"default server cannot be fakeip",false,false⟩

namespace TransportManager

def startTransports (m : TransportManager) (transports : List Member) (fuel : ℕ) :
    Option (List Member × CallResult) :=
  startMembers transportKind m.byTag transports fuel

/-- The choice of the default in `Start`, where `defaultTransportFallback` makes a local server. -/
def chooseDefault (m : TransportManager) (fallback : Except GoError Starter) : Except GoError TransportManager :=
  if m.defaultTag ≠ "" ∧ m.defaultTransport.isNone then
    .error ⟨"default DNS server not found: "++m.defaultTag,false,false⟩
  else if m.defaultTransport.isNone then
    match fallback with
    | .error err => .error (err.cause "default DNS server fallback")
    | .ok starter =>
      let defaultTransport : Member := ⟨m.created,"local","local",[],starter⟩
      let m := { m with created := m.created+1 }
      .ok { m with
        toRegistry := m.toRegistry.addFallback defaultTransport
        defaultTransport := some defaultTransport }
  else .ok m

/-- The loop of `Start` for the other stages. -/
def startStage (transports : List Member) (stage : StartStage) : CallResult :=
  match transports.findSome? fun t =>
      (legacyStart t.starter stage).map fun err => err.cause (stage.toString++" "++transportName t) with
  | some err => .failed err
  | none => .ok

/-- `TransportManager.Start`; the passes over the transports have fuel enough to end. -/
def start (m : TransportManager) (stage : StartStage) (fallback : Except GoError Starter) :
    TransportManager × Option CallResult :=
  if m.started ∧ stage.toNat ≤ m.stage.toNat then (m,some (.panicked "already started"))
  else
    let m := { m with started := true, stage := stage }
    if stage = .stateStart then
      match m.chooseDefault fallback with
      | .error err => (m,some (.failed err))
      | .ok m => (m,(m.startTransports m.members (m.members.length+1)).map Prod.snd)
    else (m,some (startStage m.members stage))

/-- The second half of `Remove`. What `Close` returns is not looked at. -/
def finishRemove (m : TransportManager) (tag : String) (transport : Member) : TransportManager × CallResult :=
  let dependBy := m.dependByTag tag
  if 0 < dependBy.length then
    (m,.failed ⟨"server["++tag++"] is depended by "++", ".intercalate dependBy,false,false⟩)
  else ({ m with toRegistry := m.toRegistry.forget tag transport },.ok)

def remove (m : TransportManager) (tag : String) : TransportManager × CallResult :=
  match m.byTag tag with
  | none => (m,.failed errInvalid)
  | some transport =>
    if !m.isListed transport then
      ({ m with byTag := Function.update m.byTag tag none },.panicked "invalid inbound index")
    else
      let m := { m with toRegistry := m.toRegistry.unregister tag transport }
      if m.defaultTransport.map Member.id = some transport.id then
        match m.members.head? with
        | some nextTransport =>
          -- the test is the wrong way round: any next server but a FakeIP one is refused
          if nextTransport.type ≠ dnsTypeFakeIP then (m,.failed errDefaultFakeIP)
          else finishRemove { m with defaultTransport := some nextTransport } tag transport
        | none => finishRemove { m with defaultTransport := none } tag transport
      else m.finishRemove tag transport

def startNew (m : TransportManager) (t : Member) : Option GoError :=
  if m.started then
    listStartStages.findSome? fun stage =>
      (legacyStart t.starter stage).map fun err => err.cause (stage.toString++" "++transportName t)
  else none

/-- What `Create` does before it changes the registry: the transport to register, or the end of the call. -/
def accept (m : TransportManager) (tag : String) (made : Except GoError Made) (closeErr : Option GoError) :
    Except CallResult Member :=
  if tag = "" then .error (.failed errInvalid)
  else match made with
    | .error err => .error (.failed err)
    | .ok made =>
      let transport := made.member m.created tag
      match m.startNew transport with
      | some err => .error (.failed err)
      | none =>
        match m.byTag tag with
        | none => .ok transport
        | some existsTransport =>
          match if m.started then closeErr else none with
          | some err => .error (.failed (err.cause ("close "++transportName existsTransport)))
          | none => if !m.isListed existsTransport then .error (.panicked "invalid inbound index") else .ok transport

def assignFakeIP (m : TransportManager) (transport : Member) : TransportManager × CallResult :=
  if transport.type = dnsTypeFakeIP then
    if m.fakeIPTransport.isSome then (m,.failed ⟨"multiple fakeip server are not supported",false,false⟩)
    else ({ m with fakeIPTransport := some transport },.ok)
  else (m,.ok)

/-- The end of `Create`, with the transport registered. -/
def assignRoles (m : TransportManager) (transport : Member) : TransportManager × CallResult :=
  if transport.tag = m.defaultTag ∨ m.defaultTag = "" ∧ m.defaultTransport.isNone then
    if transport.type = dnsTypeFakeIP then (m,.failed errDefaultFakeIP)
    else assignFakeIP { m with defaultTransport := some transport } transport
  else m.assignFakeIP transport

def create (m : TransportManager) (tag : String) (made : Except GoError Made) (closeErr : Option GoError) :
    TransportManager × CallResult :=
  match m.accept tag made closeErr with
  | .error result => ({ m with created := m.created+1 },result)
  | .ok transport =>
    let m := { m with created := m.created+1 }
    assignRoles { m with toRegistry := m.toRegistry.put transport } transport

end TransportManager

/-- The calls on a manager, with what the calls that they make return. -/
inductive TransportEvent
  | create (tag : String) (made : Except GoError Made) (closeErr : Option GoError)
  | remove (tag : String)
  | start (stage : StartStage) (fallback : Except GoError Starter)

def nextTransports (m : TransportManager) : TransportEvent → TransportManager
  | .create tag made closeErr => (m.create tag made closeErr).1
  | .remove tag => (m.remove tag).1
  | .start stage fallback => (m.start stage fallback).1

variable {m : TransportManager}

lemma assignRoles_toRegistry (m : TransportManager) (t : Member) : (m.assignRoles t).1.toRegistry = m.toRegistry := by
  unfold TransportManager.assignRoles TransportManager.assignFakeIP
  split_ifs <;> rfl

lemma accept_ok {tag : String} {ma : Except GoError Made} {c : Option GoError} {n : Member}
    (h : m.accept tag ma c = .ok n) : n.id = m.created ∧ n.tag = tag := by
  unfold TransportManager.accept at h
  by_cases ht : tag = ""
  · rw [if_pos ht] at h
    cases h
  · rw [if_neg ht] at h
    cases ma with
    | error => cases h
    | ok =>
      dsimp only at h
      split at h
      · cases h
      · split at h
        · cases h
          exact ⟨rfl,rfl⟩
        · split at h
          · cases h
          · split at h
            · cases h
            · cases h
              exact ⟨rfl,rfl⟩

section
variable {tag : String} {md : Except GoError Made} {ce : Option GoError}

/-- A call of `Create` that ends early leaves the registry but for the count of instances. -/
lemma create_of_error {r : CallResult} (h : m.accept tag md ce = .error r) :
    (m.create tag md ce).1 = { m with created := m.created+1 } := by
  rw [TransportManager.create,h]

def TransportManager.joined (m : TransportManager) (new : Member) : TransportManager :=
  { m with toRegistry := { m.toRegistry.put new with created := m.created+1 } }

/-- Another one puts the new transport into it, whatever it then returns. -/
lemma create_of_ok {n : Member} (h : m.accept tag md ce = .ok n) :
    m.create tag md ce = (m.joined n).assignRoles n := by
  rw [TransportManager.create,h]
  rfl

end

/-- `Remove` takes the default away and refuses the server that would follow it. -/
def TransportManager.RefusesNext (m : TransportManager) (transport : Member) : Prop :=
  m.defaultTransport.map Member.id = some transport.id ∧
    ∃ n, (eraseMember m.members transport).head? = some n ∧ n.type ≠ dnsTypeFakeIP

/-- The manager that has lost the transport, with the next default in the place of the one that goes. -/
def TransportManager.without (m : TransportManager) (tag : String) (old : Member) : TransportManager :=
  { m with
    toRegistry := m.toRegistry.unregister tag old
    defaultTransport := if m.defaultTransport.map Member.id = some old.id then
      (match (m.toRegistry.unregister tag old).members.head? with
      | some n => if n.type ≠ dnsTypeFakeIP then m.defaultTransport else some n
      | none => none) else m.defaultTransport }

/-- `Remove` of a listed transport unregisters it. That is all where it refuses the next default or somebody depends
on the transport, and else its records are dropped. -/
lemma remove_of_listed {tag : String} {o : Member} (ho : m.byTag tag = some o) (hl : m.isListed o = true) :
    ((m.RefusesNext o ∨ m.dependByTag tag ≠ []) ∧ ∃ e, m.remove tag = (m.without tag o,.failed e)) ∨
    (¬ m.RefusesNext o ∧ m.dependByTag tag = [] ∧ m.remove tag =
      ({ m.without tag o with toRegistry := (m.toRegistry.unregister tag o).forget tag o },.ok)) := by
  have hrm : (m.RefusesNext o ∧ m.remove tag = (m.without tag o,.failed errDefaultFakeIP)) ∨
      (¬ m.RefusesNext o ∧ m.remove tag = (m.without tag o).finishRemove tag o) := by
    rw [TransportManager.remove,ho]
    dsimp only
    rw [hl]
    simp only [Bool.not_true,Bool.false_eq_true,if_false]
    unfold TransportManager.without
    split_ifs with hd
    · cases hh : (m.toRegistry.unregister tag o).members.head? with
      | none =>
        refine .inr ⟨?_,rfl⟩
        rintro ⟨-,n,hn,-⟩
        cases hh.symm.trans hn
      | some n =>
        dsimp only
        split_ifs with ht
        · exact .inl ⟨⟨hd,n,hh,ht⟩,rfl⟩
        · refine .inr ⟨?_,rfl⟩
          rintro ⟨-,n',hn',ht'⟩
          cases hh.symm.trans hn'
          exact ht ht'
    · exact .inr ⟨fun hr => hd hr.1,rfl⟩
  obtain ⟨hr,heq⟩ | ⟨hnx,heq⟩ := hrm
  · exact .inl ⟨.inl hr,_,heq⟩
  · have hdp : (m.without tag o).dependByTag = m.dependByTag := m.toRegistry.unregister_dependByTag tag o
    rw [heq,← hdp,TransportManager.finishRemove]
    cases (m.without tag o).dependByTag tag with
    | cons => exact .inl ⟨.inr (by simp),_,rfl⟩
    | nil => exact .inr ⟨hnx,rfl,rfl⟩

/-- `Start` comes to the fallback. -/
def TransportManager.FallsBack (m : TransportManager) (stage : StartStage) (fallback : Except GoError Starter) :
    Prop :=
  ¬(m.started = true ∧ stage.toNat ≤ m.stage.toNat) ∧ stage = .stateStart ∧ m.defaultTag = "" ∧
    m.defaultTransport = none ∧ fallback.isOk = true

/-- `Start` leaves the two places, or the default is the fallback that it registers. -/
lemma start_roles (m : TransportManager) (s : StartStage) (f : Except GoError Starter) :
    (m.start s f).1.fakeIPTransport = m.fakeIPTransport ∧ (m.start s f).1.defaultTag = m.defaultTag ∧
    ((¬ m.FallsBack s f ∧ (m.start s f).1.toRegistry = m.toRegistry ∧
        (m.start s f).1.defaultTransport = m.defaultTransport) ∨
      (m.FallsBack s f ∧ ∃ st, (m.start s f).1.defaultTransport =
          some ⟨m.created,"local","local",[],st⟩ ∧ (m.start s f).1.toRegistry =
          { m.toRegistry.addFallback ⟨m.created,"local","local",[],st⟩ with created := m.created+1 })) := by
  unfold TransportManager.start
  split_ifs with ho hs
  · exact ⟨rfl,rfl,.inl ⟨fun hf => hf.1 ho,rfl,rfl⟩⟩
  · dsimp only
    unfold TransportManager.chooseDefault
    cases hd : m.defaultTransport with
    | some =>
      refine ⟨by simp,by simp,.inl ⟨fun hf => ?_,by simp,by simp⟩⟩
      cases hd.symm.trans hf.2.2.2.1
    | none =>
      by_cases ht : m.defaultTag = ""
      · cases f with
        | error =>
          refine ⟨by simp [ht],by simp [ht],.inl ⟨fun hf => ?_,by simp [ht],by simp [ht]⟩⟩
          cases hf.2.2.2.2
        | ok st =>
          exact ⟨by simp [ht],by simp [ht],
            .inr ⟨⟨ho,hs,ht,hd,rfl⟩,st,by simp [ht],by simp [ht,Registry.addFallback]⟩⟩
      · exact ⟨by simp [ht],by simp [ht],.inl ⟨fun hf => ht hf.2.2.1,by simp [ht],by simp [ht]⟩⟩
  · exact ⟨rfl,rfl,.inl ⟨fun hf => hs hf.2.1,rfl,rfl⟩⟩

lemma sound_nextTransports (h : m.toRegistry.Sound) (e : TransportEvent) : (nextTransports m e).toRegistry.Sound := by
  cases e with
  | create tag ma c =>
    rw [nextTransports]
    cases ha : m.accept tag ma c with
    | error =>
      rw [create_of_error ha]
      exact h.mono (Nat.le_succ _)
    | ok =>
      rw [create_of_ok ha,assignRoles_toRegistry]
      exact h.put (accept_ok ha).1
  | remove tag =>
    rw [nextTransports]
    cases ho : m.byTag tag with
    | none =>
      rw [TransportManager.remove,ho]
      exact h
    | some =>
      have hs := h.unregister ho
      obtain ⟨-,er,heq⟩ | ⟨-,-,heq⟩ := remove_of_listed ho (h.isListed ho)
      · rw [heq]
        exact hs
      · rw [heq]
        exact ⟨hs.byTag_mem,hs.nodup,hs.id_lt⟩
  | start s f =>
    rw [nextTransports]
    obtain ⟨-,-,⟨-,heq,-⟩ | ⟨-,st,-,heq⟩⟩ := start_roles m s f
    · rw [heq]
      exact h
    · rw [heq]
      exact h.addFallback rfl

end SingBox.DNS
