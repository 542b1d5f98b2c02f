import SingBox.Adapter.InboundContext
import SingBox.Group.Interrupt

/-! Selectors and URL-test groups (`protocol/group`) with dials and changes of the selection in any interleaving. -/
namespace SingBox.Group
open Adapter

section
variable {ω : Type} [DecidableEq ω]

/-- What `Start` leaves of the options of a selector. -/
structure Selector (ω : Type) where
  outbounds : String → Option ω
  interruptExternalConnections : Bool

structure Selector.State (ω : Type) where
  selected : ω
  calls : Calls Unit ω := {}

/-- The atomic sections of `DialContext` or `ListenPacket`, of a `Close`, and of `SelectOutbound`. -/
inductive Selector.Event
  | dial (isExternal : Bool)
  | connected (d : ℕ)
  | failed (d : ℕ)
  | close (d : ℕ)
  | swap (tag : String)
  | interrupt (c : ℕ)

variable (g : Selector ω)

/-- `SelectOutbound` up to its swap. A tag that is not known and the outbound that is selected already change nothing. -/
def Selector.swap (s : Selector.State ω) (tag : String) : Selector.State ω :=
  match g.outbounds tag with
  | none => s
  | some detour =>
    if s.selected = detour then s else { selected := detour, calls := s.calls.replaced () s.selected }

def Selector.next (s : Selector.State ω) : Selector.Event → Selector.State ω
  | .dial isExternal => { s with calls := s.calls.begin () (some s.selected) isExternal }
  | .connected d => { s with calls := s.calls.connected d }
  | .failed d => { s with calls := s.calls.failed d }
  | .close d => { s with calls := s.calls.close d }
  | .swap tag => g.swap s tag
  | .interrupt c =>
    if s.calls.changes[c]?.any (!·.returned) then
      { s with calls := s.calls.interrupted g.interruptExternalConnections (· == c) }
    else s

def Selector.Event.connects : Selector.Event → Option ℕ
  | .connected d => some d
  | _ => none

lemma Selector.moves_next (s : Selector.State ω) {e : Selector.Event} (h : e.connects = none) :
    s.calls.Moves g.interruptExternalConnections (g.next s e).calls := by
  cases e with
  | connected => cases h
  | dial ie => exact .begin () _ ie
  | failed d => exact .failed d
  | close d => exact .close d
  | swap =>
    simp only [next,swap]
    split
    · exact .same
    · split_ifs
      · exact .same
      · exact .replaced () _
  | interrupt =>
    simp only [next]
    split_ifs
    · exact .interrupted _
    · exact .same

end

section
variable {ω : Type} [DecidableEq ω]

/-- What one call of `Select` reads: the delay of the current outbound, and of each outbound its delay and whether it
supports the network. -/
structure Reading (ω : Type) where
  current : Option ℕ
  delay : ω → Option ℕ
  supports : ω → Bool

structure URLTestGroup (ω : Type) where
  outbounds : List ω
  tolerance : ℕ
  interruptExternalConnections : Bool

variable (g : URLTestGroup ω)

/-- One round of the loop of `Select`, with the outbound and the delay found so far. -/
def URLTestGroup.selectRound (reading : Reading ω) (best : Option ω × ℕ) (detour : ω) : Option ω × ℕ :=
  if reading.supports detour then
    match reading.delay detour with
    | none => best
    | some delay => if best.2 = 0 ∨ (delay+g.tolerance)%2^16 < best.2 then (some detour,delay) else best
  else best

/-- `Select`; the flag tells that the outbound has a delay. -/
def URLTestGroup.select (current : Option ω) (reading : Reading ω) : Option (ω × Bool) :=
  let best := match current, reading.current with
    | some outbound, some delay => (some outbound,delay)
    | _, _ => (none,0)
  match (g.outbounds.foldl (g.selectRound reading) best).1 with
  | some minOutbound => some (minOutbound,true)
  | none => (g.outbounds.find? reading.supports).map fun detour => (detour,false)

/-- The outbound that `performUpdateCheck` stores in place of the current one. -/
def URLTestGroup.update (current : Option ω) (reading : Reading ω) : Option ω :=
  match g.select current reading with
  | none => none
  | some (outbound,found) => if current = none ∨ found = true ∧ some outbound ≠ current then some outbound else none

inductive Slot
  | tcp
  | udp
  deriving DecidableEq

/-- Where a `performUpdateCheck` stands, with `updated`; there is at most one, as `checking` tells. -/
inductive Check
  | idle
  | tcpStored (updated : Bool)
  | udpStored (updated : Bool)

structure URLTestGroup.State (ω : Type) where
  selected : Slot → Option ω := fun _ => none
  check : Check := .idle
  calls : Calls Slot ω := {}

/-- The atomic sections of `DialContext` and `ListenPacket`, of a `Close`, and of `performUpdateCheck`. -/
inductive URLTestGroup.Event (ω : Type)
  | dial (network : Network) (isExternal : Bool)
  | select (d : ℕ) (reading : Reading ω)
  | connected (d : ℕ)
  | failed (d : ℕ)
  | close (d : ℕ)
  | storeTCP (reading : Reading ω)
  | storeUDP (reading : Reading ω)
  | finish

def slotOf : Network → Option Slot
  | .tcp => some .tcp
  | .udp => some .udp
  | _ => none

/-- `storeSelectedTCP` or `storeSelectedUDP`, where the selection changes, and whether an outbound was replaced. -/
def URLTestGroup.store (s : URLTestGroup.State ω) (slot : Slot) (reading : Reading ω) : URLTestGroup.State ω × Bool :=
  match g.update (s.selected slot) reading with
  | none => (s,false)
  | some outbound =>
    let stored := { s with selected := Function.update s.selected slot (some outbound) }
    match s.selected slot with
    | none => (stored,false)
    | some former => ({ stored with calls := s.calls.replaced slot former },true)

def URLTestGroup.next (s : URLTestGroup.State ω) : URLTestGroup.Event ω → URLTestGroup.State ω
  | .dial network isExternal =>
    match slotOf network with
    | none => s
    | some slot => { s with calls := s.calls.begin slot (s.selected slot) isExternal }
  | .select d reading =>
    match s.calls.dials[d]? with
    | none => s
    | some dial => { s with calls := s.calls.select d ((g.select (s.selected dial.slot) reading).map Prod.fst) }
  | .connected d => { s with calls := s.calls.connected d }
  | .failed d => { s with calls := s.calls.failed d }
  | .close d => { s with calls := s.calls.close d }
  | .storeTCP reading =>
    match s.check with
    | .idle =>
      let stored := g.store s .tcp reading
      { stored.1 with check := .tcpStored stored.2 }
    | _ => s
  | .storeUDP reading =>
    match s.check with
    | .tcpStored updated =>
      let stored := g.store s .udp reading
      { stored.1 with check := .udpStored (updated || stored.2) }
    | _ => s
  | .finish =>
    match s.check with
    | .udpStored true =>
      { s with check := .idle, calls := s.calls.interrupted g.interruptExternalConnections fun _ => true }
    | .udpStored false => { s with check := .idle }
    | _ => s

def URLTestGroup.Event.connects : URLTestGroup.Event ω → Option ℕ
  | .connected d => some d
  | _ => none

variable (s : URLTestGroup.State ω)

lemma URLTestGroup.moves_store (sl : Slot) (r : Reading ω) :
    s.calls.Moves g.interruptExternalConnections (g.store s sl r).1.calls := by
  unfold store
  cases g.update (s.selected sl) r with
  | none => exact .same
  | some =>
    cases s.selected sl with
    | none => exact .same
    | some f => exact .replaced sl f

lemma URLTestGroup.moves_next {e : URLTestGroup.Event ω} (h : e.connects = none) :
    s.calls.Moves g.interruptExternalConnections (g.next s e).calls := by
  cases e with
  | connected => cases h
  | dial n ie =>
    simp only [next]
    split
    · exact .same
    · exact .begin _ _ ie
  | select d =>
    simp only [next]
    split
    · exact .same
    · exact .select d _
  | failed d => exact .failed d
  | close d => exact .close d
  | storeTCP r =>
    simp only [next]
    split
    · exact g.moves_store s .tcp r
    · exact .same
  | storeUDP r =>
    simp only [next]
    split
    · exact g.moves_store s .udp r
    · exact .same
  | finish =>
    simp only [next]
    split
    · exact .interrupted _
    all_goals exact .same

end

/-- Once a change of the selection has returned and the dials before it are over, no connection through the former
outbound is open: so it is throughout a run exactly where no dial registers its connection after the interrupt of a
change that replaced its outbound meanwhile. -/
theorem former_connections_closed_iff {ω : Type} [DecidableEq ω] (selector : Selector ω) (selected : ω)
    (events : List Selector.Event) (g : URLTestGroup ω) (events' : List (URLTestGroup.Event ω)) :
    (Run.Along selector.next (fun s event => ∀ d, event.connects = some d →
        s.calls.InTime selector.interruptExternalConnections d) { selected } events ↔
      Run.Throughout selector.next (fun s => s.calls.Law selector.interruptExternalConnections) { selected } events) ∧
    (Run.Along g.next (fun s event => ∀ d, event.connects = some d →
        s.calls.InTime g.interruptExternalConnections d) {} events' ↔
      Run.Throughout g.next (fun s => s.calls.Law g.interruptExternalConnections) {} events') := by
  constructor
  · refine Calls.inTime_iff_law (fun s event d h => ?_) (fun s event => selector.moves_next s) events rfl
    cases event <;> cases h
    rfl
  · refine Calls.inTime_iff_law (fun s event d h => ?_) (fun s event => g.moves_next s) events' rfl
    cases event <;> cases h
    rfl

/-- A dial goes through the first outbound, which is then replaced; its connection is registered after the interrupt and
stays open. -/
theorem late_connection_stays_open : (∃ s, s = [Selector.Event.dial false,.swap "b",.interrupt 0,.connected 0].foldl
        (Selector.next ⟨fun tag => some (decide (tag = "b")),true⟩) { selected := false } ∧
      s.calls.changes = [⟨(),false,true⟩] ∧ s.calls.dials = [⟨(),some false,false,0,.returned⟩] ∧
      s.calls.isOpen 0 = true) ∧
    ∃ s, s = [URLTestGroup.Event.storeTCP ⟨none,fun o => some (if o then 500 else 100),fun _ => true⟩,
          .storeUDP ⟨none,fun _ => none,fun _ => false⟩,.finish,.dial .tcp false,
          .storeTCP ⟨some 500,fun o => some (if o then 100 else 500),fun _ => true⟩,
          .storeUDP ⟨none,fun _ => none,fun _ => false⟩,.finish,.connected 0].foldl
        (URLTestGroup.next ⟨[false,true],50,true⟩) {} ∧
      s.calls.changes = [⟨.tcp,false,true⟩] ∧ s.calls.dials = [⟨.tcp,some false,false,0,.returned⟩] ∧
      s.calls.isOpen 0 = true :=
  ⟨⟨_,rfl,rfl,rfl,rfl⟩,_,rfl,rfl,rfl,rfl⟩

end SingBox.Group
