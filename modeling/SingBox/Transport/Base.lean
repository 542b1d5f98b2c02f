import SingBox.Adapter.InboundContext

/-! The lifecycle that DNS transports share (`dns/transport/base.go`); each function is one section with
the mutex held. -/
namespace SingBox.Transport
open Adapter

inductive TransportState
  | new
  | started
  | closing
  | closed
  deriving DecidableEq

/-- `state >= StateClosing`. -/
def TransportState.isClosing : TransportState → Bool
  | .closing => true
  | .closed => true
  | _ => false

def errTransportClosed : GoError := ⟨"file already closed",false,false⟩

/-- `queriesComplete` is set while a shutdown waits for the queries. -/
structure BaseTransport where
  state : TransportState
  inFlight : ℕ
  queriesComplete : Bool

namespace BaseTransport

def newBaseTransport : BaseTransport := ⟨.new,0,false⟩

def setStarted (t : BaseTransport) : BaseTransport × Option GoError :=
  match t.state with
  | .new => ({ t with state := .started },none)
  | .started => (t,none)
  | _ => (t,some errTransportClosed)

def beginQuery (t : BaseTransport) : BaseTransport × Bool :=
  if t.state ≠ .started then (t,false) else ({ t with inFlight := t.inFlight+1 },true)

def endQuery (t : BaseTransport) : BaseTransport :=
  let inFlight := if 0 < t.inFlight then t.inFlight-1 else t.inFlight
  { t with inFlight := inFlight, queriesComplete := t.queriesComplete && inFlight ≠ 0 }

/-- `Shutdown` up to where it returns, or has to wait. -/
def shutdown (t : BaseTransport) : BaseTransport × Bool :=
  if t.state.isClosing then (t,false)
  else if t.state = .new then ({ t with state := .closed },false)
  else if t.inFlight = 0 then ({ t with state := .closed },false)
  else ({ t with state := .closing, queriesComplete := true },true)

/-- The end of a `Shutdown` that waited, for the queries or for its context. -/
def shutdownWaited (t : BaseTransport) : BaseTransport := { t with state := .closed }

variable (t : BaseTransport)

@[simp] lemma isClosing_setStarted : t.setStarted.1.state.isClosing = t.state.isClosing := by
  unfold setStarted
  cases hs : t.state <;> simp [hs,TransportState.isClosing]

@[simp] lemma state_beginQuery : t.beginQuery.1.state = t.state := by
  unfold beginQuery
  split_ifs <;> rfl

@[simp] lemma state_endQuery : t.endQuery.state = t.state := rfl

@[simp] lemma isClosing_shutdown : t.shutdown.1.state.isClosing = true := by
  unfold shutdown
  split_ifs with hc
  · exact hc
  all_goals rfl

end BaseTransport

end SingBox.Transport
