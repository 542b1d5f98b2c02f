import SingBox.Route.Connection

/-! Connections that follow a script, and a router over them: the assumptions on connections hold of
something, and routing can be evaluated. -/
namespace SingBox.Route
open Adapter

/-- A client whose reads are written down; when they are used up, a read times out. -/
abbrev StreamScript := List (List UInt8 × Option GoError)
abbrev PacketScript := List ReadOutcome

def timedOut : GoError := { text := "i/o timeout", deadlineExceeded := true }

def scriptStreams : StreamConn StreamScript where
  pending script := script.flatMap Prod.fst
  now _ := 0
  reads script _ := script.length
  setReadDeadline script _ := (script,none)
  readOnceFrom
    | [], buffer => ([],buffer,some timedOut)
    | (data,err) :: script, buffer => (script,buffer++data,err)
  newCachedConn script buffer := (buffer,none) :: script
  needAdditionalReadDeadline _ := false
  newDeadlineConn script := script
  pending_setReadDeadline _ _ := rfl
  pending_readOnceFrom script buffer := by
    cases script with
    | nil => rfl
    | cons => exact List.append_assoc _ _ _
  pending_newCachedConn _ _ := rfl
  pending_newDeadlineConn _ := rfl
  reads_lt script script₁ script₂ deadline buffer buffer' hset hread := by
    cases hset
    cases script with
    | nil => cases hread
    | cons =>
      rw [← (Prod.mk.inj hread).1]
      exact Nat.lt_succ_self _

def ReadOutcome.packet? : ReadOutcome → Option Packet
  | .packet read => some read
  | _ => none

def ReadOutcome.withDestination (destination : Socksaddr) : ReadOutcome → ReadOutcome
  | .packet read => .packet { read with destination := destination }
  | outcome => outcome

def scriptPackets : PacketConn PacketScript where
  pending script := script.filterMap ReadOutcome.packet?
  readPacket
    | [], _ => ([],.failed timedOut)
    | outcome :: script, _ => (script,outcome)
  close script := script
  newCachedPacketConn script packet := .packet packet :: script
  natDestination _ destination packet := { packet with destination := destination }
  newNATPacketConn script _ destination := script.map (ReadOutcome.withDestination destination)
  pending_readPacket script script' timeout packet hread := by
    cases script with
    | nil => cases hread
    | cons =>
      cases hread
      rfl
  pending_readPacket_failed script script' timeout err hread := by
    cases script with
    | nil | cons outcome script =>
      cases hread
      rfl
  pending_newCachedPacketConn _ _ := rfl
  pending_newNATPacketConn script origin destination := by
    rw [List.filterMap_map,List.map_filterMap]
    refine List.filterMap_congr fun outcome _ => ?_
    cases outcome with
    | packet packet | failed err | cancelled err => rfl

def constantSniffer {δ : Type} (err : Option GoError) (metadata : InboundContext) (_ : δ) :
    InboundContext × Option GoError :=
  (metadata,err)

def scriptSniffers : Sniffers :=
  let refuse : StreamSniffer := constantSniffer (some { text := "refused" })
  let refusePacket : PacketSniffer := constantSniffer (some { text := "refused" })
  ⟨refuse,refuse,refuse,refuse,refuse,refuse,refusePacket,refusePacket,refusePacket,refusePacket,refusePacket,
    refusePacket,refusePacket⟩

def scriptRouter (rules : List RouteRule) : ConnectionRouter StreamScript PacketScript where
  p := bareHost
  e :=
    { cause := fun err message => { err with text := message ++ ": " ++ err.text }
      errors := fun errs => errs.head?.map fun err =>
        { err with needMoreData := errs.any GoError.needMoreData } }
  streams := scriptStreams
  packets := scriptPackets
  sniffers := scriptSniffers
  processSearcher := none
  neighborResolver := none
  fakeIP := none
  lookupReverseMapping _ := none
  transport _ := false
  lookup _ _ _ := .ok []
  rules := rules
  inbound _ := none
  outbound _ := none
  defaultOutbound := ⟨"direct",[.tcp,.udp]⟩
  muxDestination := "mux"
  vmessMuxDestination := "vmess-mux"
  uotMagicAddress := "uot"
  uotLegacyMagicAddress := "uot-legacy"
  trackers := []
  packetTrackers := []
  pending_trackers _ h := absurd h List.not_mem_nil
  pending_packetTrackers _ h := absurd h List.not_mem_nil

def sniffRule (port : ℕ) (action : SniffAction) : RouteRule :=
  ⟨.default ⟨[.port false [port]],none,false⟩,.sniff action⟩

end SingBox.Route
