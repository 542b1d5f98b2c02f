import SingBox.Adapter.InboundContext
import SingBox.Library.Replay

/-! Protocol sniffing (`common/sniff/sniff.go` and `Router.actionSniff`): data is read ahead from the
client, shown to the sniffers and kept for the outbound. -/
namespace SingBox.Route
open Adapter

/-- A sniffer updates the metadata and accepts by returning no error. A stream is shown to it in the parts in which
it was read: one read of an `io.MultiReader` does not go beyond the part that it is in. -/
abbrev StreamSniffer := InboundContext → List (List UInt8) → InboundContext × Option GoError
abbrev PacketSniffer := InboundContext → List UInt8 → InboundContext × Option GoError

/-- The constructors of package `exceptions`. -/
structure ErrorOps where
  cause : GoError → String → GoError
  errors : List GoError → Option GoError

/-- `errors.Is(err, ErrNeedMoreData)`. -/
def isNeedMoreData (err : Option GoError) : Bool := err.any GoError.needMoreData

/-- A stream connection with the calls that sniffing and routing make on it. `pending` is what its
reader will read, `reads` bounds the reads that succeed before a deadline. -/
structure StreamConn (σ : Type) where
  pending : σ → List UInt8
  now : σ → ℤ
  reads : σ → ℤ → ℕ
  setReadDeadline : σ → Option ℤ → σ × Option GoError
  readOnceFrom : σ → List UInt8 → σ × List UInt8 × Option GoError
  newCachedConn : σ → List UInt8 → σ
  needAdditionalReadDeadline : σ → Bool
  newDeadlineConn : σ → σ
  pending_setReadDeadline : ∀ conn deadline, pending (setReadDeadline conn deadline).1 = pending conn
  pending_readOnceFrom : ∀ conn buffer,
    (readOnceFrom conn buffer).2.1++pending (readOnceFrom conn buffer).1 = buffer++pending conn
  pending_newCachedConn : ∀ conn buffer, pending (newCachedConn conn buffer) = buffer++pending conn
  pending_newDeadlineConn : ∀ conn, pending (newDeadlineConn conn) = pending conn
  reads_lt : ∀ conn conn₁ conn₂ deadline buffer buffer',
    setReadDeadline conn (some deadline) = (conn₁,none) → readOnceFrom conn₁ buffer = (conn₂,buffer',none) →
      reads (setReadDeadline conn₂ none).1 deadline < reads conn deadline

/-- The wrappers of package `bufio` give back what was read ahead. -/
def StreamConn.replay {σ : Type} (conns : StreamConn σ) : Replay σ (List UInt8) UInt8 where
  pending := conns.pending
  contents := id
  cached := conns.newCachedConn
  pending_cached := conns.pending_newCachedConn

lemma StreamConn.taken_replay {σ : Type} (conns : StreamConn σ) (bs : List (List UInt8)) :
    conns.replay.taken bs = bs.flatten :=
  List.flatMap_id

structure Packet where
  buffer : List UInt8
  destination : Socksaddr
  deriving DecidableEq

/-- `N.PacketBuffer`, which is handed on by its pointer. -/
structure PacketBuffer extends Packet where
  pointer : ℕ
  deriving DecidableEq

/-- How the wait for a packet ends: the read returns, or the context is done before it. -/
inductive ReadOutcome
  | packet (read : Packet)
  | failed (err : GoError)
  | cancelled (err : GoError)
  deriving DecidableEq

/-- A packet connection; `readPacket` is a read under a deadline, raced against the context. -/
structure PacketConn (τ : Type) where
  pending : τ → List Packet
  readPacket : τ → ℤ → τ × ReadOutcome
  close : τ → τ
  newCachedPacketConn : τ → Packet → τ
  natDestination : Socksaddr → Socksaddr → Packet → Packet
  newNATPacketConn : τ → Socksaddr → Socksaddr → τ
  pending_readPacket : ∀ conn conn' timeout packet,
    readPacket conn timeout = (conn',.packet packet) → pending conn = packet::pending conn'
  pending_readPacket_failed : ∀ conn conn' timeout err,
    readPacket conn timeout = (conn',.failed err) → pending conn' = pending conn
  pending_newCachedPacketConn : ∀ conn packet, pending (newCachedPacketConn conn packet) = packet::pending conn
  pending_newNATPacketConn : ∀ conn origin destination, pending (newNATPacketConn conn origin destination) =
      (pending conn).map (natDestination origin destination)

def PacketConn.replay {τ : Type} (conns : PacketConn τ) : Replay τ Packet Packet where
  pending := conns.pending
  contents packet := [packet]
  cached := conns.newCachedPacketConn
  pending_cached := conns.pending_newCachedPacketConn

lemma PacketConn.taken_replay {τ : Type} (conns : PacketConn τ) (ps : List Packet) : conns.replay.taken ps = ps :=
  List.flatMap_singleton' ps

/-- `R.RuleActionSniff`. -/
structure SniffAction where
  snifferNames : List String := []
  streamSniffers : List StreamSniffer := []
  packetSniffers : List PacketSniffer := []
  timeout : ℤ := 0
  overrideDestination : Bool := false

structure Sniffers where
  tlsClientHello : StreamSniffer
  httpHost : StreamSniffer
  streamDomainNameQuery : StreamSniffer
  bitTorrent : StreamSniffer
  ssh : StreamSniffer
  rdp : StreamSniffer
  domainNameQuery : PacketSniffer
  quicClientHello : PacketSniffer
  stunMessage : PacketSniffer
  utp : PacketSniffer
  udpTracker : PacketSniffer
  dtlsRecord : PacketSniffer
  ntp : PacketSniffer

/-- `C.ReadPayloadTimeout`, in nanoseconds. -/
def readPayloadTimeout : ℤ := 300000000

/-- `sniff.Skip`: ports of server-first protocols. -/
def skip (metadata : InboundContext) : Bool :=
  match metadata.destination.port with
  | 25 | 465 | 587 => true
  | 143 | 993 => true
  | 110 | 995 => true
  | _ => false

section
variable (e : ErrorOps)

/-- One round of the stream sniffers over the data read so far; the flag tells whether one accepted. -/
def sniffStream (parts : List (List UInt8)) :
    List StreamSniffer → InboundContext → Option GoError → InboundContext × Bool × Option GoError
  | [], metadata, sniffError => (metadata,false,sniffError)
  | sniffer :: sniffers, metadata, sniffError =>
      match sniffer metadata parts with
      | (metadata,none) => (metadata,true,none)
      | (metadata,some err) => sniffStream parts sniffers metadata (e.errors (sniffError.toList++[err]))

structure PeekResult (σ : Type) where
  conn : σ
  buffer : List UInt8
  metadata : InboundContext
  err : Option GoError

variable {σ : Type} (conns : StreamConn σ)

/-- The loop of `PeekStream`: another read for as long as the sniffers ask for more data. -/
def peekLoop (buffers : List (List UInt8)) (sniffers : List StreamSniffer) (deadline : ℤ) (i : ℕ)
    (conn : σ) (buffer : List UInt8) (metadata : InboundContext) (sniffError : Option GoError) :
    PeekResult σ :=
  match hset : conns.setReadDeadline conn (some deadline) with
  | (conn₁,some err) => ⟨conn₁,buffer,metadata,some (e.cause err "set read deadline")⟩
  | (conn₁,none) =>
      match hread : conns.readOnceFrom conn₁ buffer with
      | (conn₂,buffer,some err) =>
          ⟨(conns.setReadDeadline conn₂ none).1,buffer,metadata,
            if i > 0 then sniffError else some (e.cause err "read payload")⟩
      | (conn₂,buffer',none) =>
          let conn₃ := (conns.setReadDeadline conn₂ none).1
          match sniffStream e (buffers++[buffer']) sniffers metadata none with
          | (metadata,true,_) => ⟨conn₃,buffer',metadata,none⟩
          | (metadata,false,sniffError) =>
              if isNeedMoreData sniffError then
                have := conns.reads_lt conn conn₁ conn₂ deadline buffer buffer' hset hread
                peekLoop buffers sniffers deadline (i+1) conn₃ buffer' metadata sniffError
              else
                ⟨conn₃,buffer',metadata,sniffError⟩
termination_by conns.reads conn deadline

def peekStream (metadata : InboundContext) (conn : σ) (buffers : List (List UInt8)) (buffer : List UInt8)
    (timeout : ℤ) (sniffers : List StreamSniffer) : PeekResult σ :=
  let timeout := if timeout = 0 then readPayloadTimeout else timeout
  peekLoop e conns buffers sniffers (conns.now conn+timeout) 0 conn buffer metadata none

/-- `PeekPacket`, with the errors of the sniffers that refused so far. -/
def peekPacket (packet : List UInt8) :
    List PacketSniffer → InboundContext → List GoError → InboundContext × Option GoError
  | [], metadata, sniffError => (metadata,e.errors sniffError)
  | sniffer :: sniffers, metadata, sniffError =>
      match sniffer metadata packet with
      | (metadata,none) => (metadata,none)
      | (metadata,some err) => peekPacket packet sniffers metadata (sniffError++[err])

end

/-- What sniffing calls: the errors, the two kinds of connections and the built-in sniffers. -/
structure SniffEnv (σ τ : Type) where
  p : Platform
  e : ErrorOps
  streams : StreamConn σ
  packets : PacketConn τ
  sniffers : Sniffers

/-- The results of `actionSniff`, with the metadata and the connections it leaves. -/
structure SniffResult (σ τ : Type) where
  metadata : InboundContext
  inputConn : Option σ
  inputPacketConn : Option τ
  buffer : Option (List UInt8) := none
  packetBuffers : List PacketBuffer := []
  fatalErr : Option GoError := none

section
variable {σ τ : Type} (env : SniffEnv σ τ) (action : SniffAction)

def failedBefore (metadata : InboundContext) : Bool :=
  metadata.snifferNames == action.snifferNames && metadata.sniffError.isSome &&
    !isNeedMoreData metadata.sniffError

def quicMoreData (metadata : InboundContext) : Bool :=
  metadata.snifferNames == action.snifferNames && isNeedMoreData metadata.sniffError

/-- `override_destination`, after a sniffer accepted. -/
def overrideDestination (err : Option GoError) (metadata : InboundContext) : InboundContext :=
  if err.isNone && action.overrideDestination && env.p.isDomainName metadata.domain then
    { metadata with destination := { fqdn := metadata.domain, port := metadata.destination.port } }
  else
    metadata

def actionStreamSniffers : List StreamSniffer :=
  if action.streamSniffers.length > 0 then action.streamSniffers
  else
    [env.sniffers.tlsClientHello,env.sniffers.httpHost,env.sniffers.streamDomainNameQuery,
      env.sniffers.bitTorrent,env.sniffers.ssh,env.sniffers.rdp]

def actionPacketSniffers : List PacketSniffer :=
  if action.packetSniffers.length > 0 then action.packetSniffers
  else
    [env.sniffers.domainNameQuery,env.sniffers.quicClientHello,env.sniffers.stunMessage,
      env.sniffers.utp,env.sniffers.udpTracker,env.sniffers.dtlsRecord,env.sniffers.ntp]

def sniffPacket (packet : List UInt8) (metadata : InboundContext) : InboundContext × Option GoError :=
  let sniffers :=
    if quicMoreData action metadata then [env.sniffers.quicClientHello] else actionPacketSniffers env action
  match peekPacket env.e packet sniffers metadata [] with
  | (metadata,err) => ({ metadata with snifferNames := action.snifferNames, sniffError := err },err)

/-- The loop over the packets of earlier actions. It falls through, without an outcome, when every
packet asked for more data. -/
def sniffBuffered : List PacketBuffer → InboundContext → InboundContext × Option (Option GoError)
  | [], metadata => (metadata,none)
  | packet :: packets, metadata =>
      match sniffPacket env action packet.buffer metadata with
      | (metadata,err) =>
          if isNeedMoreData err then sniffBuffered packets metadata else (metadata,some err)

structure IncomingResult (τ : Type) where
  conn : τ
  packetBuffers : List PacketBuffer
  metadata : InboundContext
  err : Option GoError := none
  fatalErr : Option GoError := none

/-- The loop that waits for packets, until one of them does not ask for more data. -/
def sniffIncoming (conn : τ) (packetBuffers : List PacketBuffer) (metadata : InboundContext) :
    IncomingResult τ :=
  let sniffTimeout := if action.timeout > 0 then action.timeout else readPayloadTimeout
  match hread : env.packets.readPacket conn sniffTimeout with
  | (conn,.cancelled err) =>
      { conn := env.packets.close conn, packetBuffers, metadata, fatalErr := some err }
  | (conn,.failed err) =>
      if !err.deadlineExceeded then { conn, packetBuffers, metadata, fatalErr := some err }
      else { conn, packetBuffers, metadata, err := some err }
  | (conn',.packet packet) =>
      -- `N.NewPacketBuffer` returns a pointer that none of the buffered packets has
      let packetBuffer := ⟨packet,packetBuffers.length⟩
      match sniffPacket env action packet.buffer metadata with
      | (metadata,err) =>
          if isNeedMoreData err then
            have : (env.packets.pending conn').length < (env.packets.pending conn).length := by
              rw [env.packets.pending_readPacket conn conn' _ packet hread]
              exact Nat.lt_succ_self _
            sniffIncoming conn' (packetBuffers++[packetBuffer]) metadata
          else
            { conn := conn', packetBuffers := packetBuffers++[packetBuffer], metadata, err }
termination_by (env.packets.pending conn).length

/-- The stream half of `actionSniff`. -/
def sniffConn (metadata : InboundContext) (conn : σ) (inputPacketConn : Option τ)
    (inputBuffers : List (List UInt8)) : SniffResult σ τ :=
  let peeked := peekStream env.e env.streams metadata conn inputBuffers [] action.timeout
    (actionStreamSniffers env action)
  { metadata := overrideDestination env action peeked.err
      { peeked.metadata with snifferNames := action.snifferNames, sniffError := peeked.err }
    inputConn := some peeked.conn
    inputPacketConn
    buffer := if peeked.buffer.isEmpty then none else some peeked.buffer }

/-- The packet half of `actionSniff`. -/
def sniffPacketConn (metadata : InboundContext) (inputConn : Option σ) (conn : τ)
    (inputPacketBuffers : List PacketBuffer) : SniffResult σ τ :=
  match sniffBuffered env action inputPacketBuffers metadata with
  | (metadata,some err) =>
      { metadata := overrideDestination env action err metadata, inputConn, inputPacketConn := some conn }
  | (metadata,none) =>
      let incoming := sniffIncoming env action conn inputPacketBuffers metadata
      { metadata :=
          if incoming.fatalErr.isSome then incoming.metadata
          else overrideDestination env action incoming.err incoming.metadata
        inputConn
        inputPacketConn := some incoming.conn
        packetBuffers := incoming.packetBuffers
        fatalErr := incoming.fatalErr }

def actionSniff (metadata : InboundContext) (inputConn : Option σ) (inputPacketConn : Option τ)
    (inputBuffers : List (List UInt8)) (inputPacketBuffers : List PacketBuffer) : SniffResult σ τ :=
  if skip metadata then { metadata, inputConn, inputPacketConn }
  else if metadata.protocol != "" then { metadata, inputConn, inputPacketConn }
  else
    match inputConn, inputPacketConn with
    | some conn, _ =>
        if action.streamSniffers.length == 0 && action.packetSniffers.length > 0 then
          { metadata, inputConn, inputPacketConn }
        else if failedBefore action metadata then { metadata, inputConn, inputPacketConn }
        else sniffConn env action metadata conn inputPacketConn inputBuffers
    | none, some conn =>
        if action.packetSniffers.length == 0 && action.streamSniffers.length > 0 then
          { metadata, inputConn, inputPacketConn }
        else if failedBefore action metadata then { metadata, inputConn, inputPacketConn }
        else sniffPacketConn env action metadata inputConn conn inputPacketBuffers
    | none, none => { metadata, inputConn, inputPacketConn }

end

/-! What the sniffers keep of the metadata, sniffing keeps. -/

variable {K : InboundContext → Prop}

def KeepsMetadata {δ : Type} (K : InboundContext → Prop)
    (sniffer : InboundContext → δ → InboundContext × Option GoError) : Prop :=
  ∀ metadata data, K metadata → K (sniffer metadata data).1

variable {ss : List StreamSniffer} {e : ErrorOps}

lemma sniffStream_keeps (hs : ∀ sniffer ∈ ss, KeepsMetadata K sniffer) (ps : List (List UInt8))
    {metadata : InboundContext} (h : K metadata) (sniffError : Option GoError) :
    K (sniffStream e ps ss metadata sniffError).1 := by
  induction ss generalizing metadata sniffError with
  | nil => exact h
  | cons sniffer ss ih =>
    have hf := hs sniffer (by simp) metadata ps h
    rw [sniffStream]
    split
    · rename_i metadata' hsn
      rw [hsn] at hf
      exact hf
    · rename_i metadata' err hsn
      rw [hsn] at hf
      exact ih (fun l hl => hs l (by simp [hl])) hf _

lemma peekPacket_keeps {ss : List PacketSniffer} (hs : ∀ sniffer ∈ ss, KeepsMetadata K sniffer) (p : List UInt8)
    {metadata : InboundContext} (h : K metadata) (sniffError : List GoError) :
    K (peekPacket e p ss metadata sniffError).1 := by
  induction ss generalizing metadata sniffError with
  | nil => exact h
  | cons sniffer ss ih =>
    have hf := hs sniffer (by simp) metadata p h
    rw [peekPacket]
    split
    · rename_i metadata' hsn
      rw [hsn] at hf
      exact hf
    · rename_i metadata' err hsn
      rw [hsn] at hf
      exact ih (fun l hl => hs l (by simp [hl])) hf _

lemma peekLoop_keeps {σ : Type} {conns : StreamConn σ}
    (hsn : ∀ sniffer ∈ ss, KeepsMetadata K sniffer) (bs : List (List UInt8))
    (d : ℤ) (i : ℕ) (c : σ) (b : List UInt8) (metadata : InboundContext)
    (sniffError : Option GoError) (h : K metadata) :
    K (peekLoop e conns bs ss d i c b metadata sniffError).metadata := by
  have hr : ∀ {metadata b' result}, K metadata → sniffStream e (bs++[b']) ss metadata none = result → K result.1 := by
    rintro metadata b' _ h rfl
    exact sniffStream_keeps hsn _ h none
  fun_induction peekLoop e conns bs ss d i c b metadata sniffError with
  | case1 | case2 => exact h
  | case3 i c b metadata sniffError conn₁ hst conn₂ b' hrd conn₃ metadata' err hs =>
    exact hr h hs
  | case4 i c b metadata sniffError conn₁ hst conn₂ b' hrd conn₃ metadata' err hs hm hlt ih =>
    exact ih (hr h hs)
  | case5 i c b metadata sniffError conn₁ hst conn₂ b' hrd conn₃ metadata' err hs =>
    exact hr h hs

variable {σ τ : Type} {env : SniffEnv σ τ} {a : SniffAction}
  (hst : ∀ sniffer ∈ actionStreamSniffers env a, KeepsMetadata K sniffer)
  (hp : ∀ sniffer ∈ actionPacketSniffers env a, KeepsMetadata K sniffer)
  (hq : KeepsMetadata K env.sniffers.quicClientHello)
  (hrc : ∀ metadata names err, K metadata → K { metadata with snifferNames := names, sniffError := err })
  (ho : a.overrideDestination = false)

include ho in
lemma overrideDestination_of_unset (err : Option GoError) (metadata : InboundContext) :
    overrideDestination env a err metadata = metadata := by
  simp [overrideDestination,ho]

include hp hq hrc

lemma sniffPacket_keeps (p : List UInt8) {metadata : InboundContext} (h : K metadata) :
    K (sniffPacket env a p metadata).1 := by
  apply hrc
  apply peekPacket_keeps _ p h
  intro sniffer hs
  split_ifs at hs
  · rw [List.mem_singleton.mp hs]
    exact hq
  · exact hp sniffer hs

lemma sniffBuffered_keeps (ps : List PacketBuffer) {metadata : InboundContext} (h : K metadata) :
    K (sniffBuffered env a ps metadata).1 := by
  induction ps generalizing metadata with
  | nil => exact h
  | cons p ps ih =>
    have hf := sniffPacket_keeps hp hq hrc p.buffer h
    rw [sniffBuffered]
    split
    rename_i metadata' err hs
    rw [hs] at hf
    split_ifs
    · exact ih hf
    · exact hf

lemma sniffIncoming_keeps (c : τ) (pb : List PacketBuffer) (metadata : InboundContext)
    (h : K metadata) : K (sniffIncoming env a c pb metadata).metadata := by
  fun_induction sniffIncoming env a c pb metadata with
  | case1 | case2 | case3 => exact h
  | case4 c pb metadata st c' p hr _ metadata' err hs hm hlt ih =>
    have hk := sniffPacket_keeps hp hq hrc p.buffer h
    rw [hs] at hk
    exact ih hk
  | case5 c pb metadata st c' p hr _ metadata' err hs =>
    have hk := sniffPacket_keeps hp hq hrc p.buffer h
    rw [hs] at hk
    exact hk

include ho

lemma sniffPacketConn_keeps {metadata : InboundContext} (h : K metadata) (ic : Option σ) (c : τ)
    (ip : List PacketBuffer) : K (sniffPacketConn env a metadata ic c ip).metadata := by
  have hb := sniffBuffered_keeps hp hq hrc ip h
  simp only [sniffPacketConn,overrideDestination_of_unset ho]
  split
  · rename_i metadata' err hs
    rw [hs] at hb
    exact hb
  · rename_i metadata' hs
    rw [hs] at hb
    have hin := sniffIncoming_keeps hp hq hrc c ip metadata' hb
    simpa using hin

include hst

lemma actionSniff_keeps {metadata : InboundContext} (h : K metadata) (ic : Option σ)
    (i : Option τ) (ib : List (List UInt8)) (ip : List PacketBuffer) :
    K (actionSniff env a metadata ic i ib ip).metadata := by
  cases ic with
  | some =>
    simp only [actionSniff]
    split_ifs
    iterate 4 exact h
    · simp only [sniffConn,overrideDestination_of_unset ho]
      exact hrc _ _ _ (peekLoop_keeps hst _ _ _ _ _ _ _ h)
  | none =>
    cases i with
    | some c =>
      simp only [actionSniff]
      split_ifs
      iterate 4 exact h
      · exact sniffPacketConn_keeps hp hq hrc ho h none c ip
    | none =>
      simp only [actionSniff]
      split_ifs <;> exact h

end SingBox.Route
