import SingBox.Route.Sniff

/-! What sniffing takes off a connection: the bytes of its buffer, or the packets that it adds to
the buffered ones. -/
namespace SingBox.Route
open Adapter List

section
variable {σ : Type} (e : ErrorOps) (cs : StreamConn σ)

lemma pending_readRound {conn conn₁ conn₂ : σ} {d : Option ℤ} {buffer buffer₂ : List UInt8}
    {de er : Option GoError} (hs : cs.setReadDeadline conn d = (conn₁,de))
    (hr : cs.readOnceFrom conn₁ buffer = (conn₂,buffer₂,er)) :
    buffer₂++cs.pending (cs.setReadDeadline conn₂ none).1 = buffer++cs.pending conn := by
  have hp := cs.pending_setReadDeadline conn d
  have hpn := cs.pending_readOnceFrom conn₁ buffer
  rw [hs] at hp
  rw [hr] at hpn
  rw [cs.pending_setReadDeadline,hpn,hp]

lemma peekLoop_pending (bs : List (List UInt8)) (ss : List StreamSniffer) (d : ℤ)
    (i : ℕ) (c : σ) (b : List UInt8) (m : InboundContext) (se : Option GoError) :
    let r := peekLoop e cs bs ss d i c b m se
    r.buffer++cs.pending r.conn = b++cs.pending c := by
  -- the induction follows the reads of the loop
  fun_induction peekLoop e cs bs ss d i c b m se with
  | case1 i c b m se conn₁ err h =>
    have hp := cs.pending_setReadDeadline c (some d)
    rw [h] at hp
    exact congrArg (b++·) hp
  | case2 i c b m se conn₁ h₁ conn₂ buffer₂ err h₂ => exact pending_readRound cs h₁ h₂
  | case3 i c b m se conn₁ h₁ conn₂ buffer₂ h₂ =>
    exact pending_readRound cs h₁ h₂
  | case4 i c b m se conn₁ h₁ conn₂ buffer₂ h₂ conn₃ m' err' h₃ h₄ h₅ ih =>
    exact ih.trans (pending_readRound cs h₁ h₂)
  | case5 i c b m se conn₁ h₁ conn₂ buffer₂ h₂ =>
    exact pending_readRound cs h₁ h₂

lemma peekStream_pending (m : InboundContext) (c : σ) (bs : List (List UInt8))
    (b : List UInt8) (t : ℤ) (ss : List StreamSniffer) :
    let r := peekStream e cs m c bs b t ss
    r.buffer++cs.pending r.conn = b++cs.pending c :=
  peekLoop_pending e cs bs ss _ 0 c b m none

end

variable {σ τ : Type} (env : SniffEnv σ τ) (ac : SniffAction)

/-- The buffer of a result holds what is missing from the stream connection. -/
def TakesBytes (conn : σ) (result : SniffResult σ τ) : Prop :=
  result.packetBuffers = [] ∧ ∃ conn', result.inputConn = some conn' ∧
    result.buffer.getD []++env.streams.pending conn' = env.streams.pending conn

/-- The sniffers of the action do not ask for more data after the first packet. -/
def DecidesOnFirst (packets : List Packet) : Prop :=
  ∀ first ∈ packets.head?, ∀ metadata, isNeedMoreData (sniffPacket env ac first.buffer metadata).2 = false

/-- A result holds no packets, or those buffered before followed by those missing from the connection; where the first
of all decides, none was buffered and at most one is missing. -/
def TakesPackets (conn : τ) (inputPacketBuffers : List PacketBuffer) (result : SniffResult σ τ) : Prop :=
  result.buffer = none ∧ result.inputConn = none ∧ ∃ conn', result.inputPacketConn = some conn' ∧
    (result.fatalErr = none → (result.packetBuffers = [] ∧ env.packets.pending conn' = env.packets.pending conn) ∨
      ∃ read, result.packetBuffers = inputPacketBuffers++read ∧
        read.map PacketBuffer.toPacket++env.packets.pending conn' = env.packets.pending conn ∧
        (DecidesOnFirst env ac (inputPacketBuffers.map PacketBuffer.toPacket++env.packets.pending conn) →
          inputPacketBuffers = [] ∧ read.length ≤ 1))

variable (mt : InboundContext)

lemma actionSniff_takesBytes (c : σ) (ip : Option τ) (ib : List (List UInt8)) (i : List PacketBuffer) : TakesBytes env c
      (actionSniff env ac mt (some c) ip ib i) := by
  have hs : TakesBytes env c ⟨mt,some c,ip,none,[],none⟩ := ⟨rfl,c,rfl,rfl⟩
  simp only [actionSniff]
  split_ifs
  iterate 4 exact hs
  · refine ⟨rfl,_,rfl,?_⟩
    have hp := peekStream_pending env.e env.streams mt c ib [] ac.timeout
      (actionStreamSniffers env ac)
    simp only [sniffConn]
    split_ifs with he
    · simp only [List.isEmpty_iff.mp he] at hp
      exact hp
    · exact hp

lemma sniffIncoming_pending (c : τ) (pb : List PacketBuffer) (mt : InboundContext) :
    let r := sniffIncoming env ac c pb mt
    ∃ rd, r.packetBuffers = pb++rd ∧
      (r.fatalErr = none → rd.map PacketBuffer.toPacket++env.packets.pending r.conn = env.packets.pending c) := by
  fun_induction sniffIncoming env ac c pb mt with
  | case1 c pb mt t c' er h =>
    exact ⟨[],(append_nil _).symm,fun h => by cases h⟩
  | case2 c pb mt t c' er h =>
    exact ⟨[],(append_nil _).symm,fun h => by cases h⟩
  | case3 c pb mt t c' er h =>
    exact ⟨[],(append_nil _).symm,fun _ => env.packets.pending_readPacket_failed _ _ _ _ h⟩
  | case4 c pb mt t c' p h b m' er hs hm hlt ih =>
    obtain ⟨rd,hb,hp⟩ := ih
    refine ⟨b::rd,by rw [hb,append_assoc,singleton_append],fun hf => ?_⟩
    rw [map_cons,cons_append,hp hf,env.packets.pending_readPacket _ _ _ _ h]
  | case5 c pb mt t c' p h =>
    exact ⟨[_],rfl,fun _ => (env.packets.pending_readPacket _ _ _ _ h).symm⟩

lemma length_sniffIncoming {c : τ} (pb : List PacketBuffer) (mt : InboundContext)
    (h : DecidesOnFirst env ac (env.packets.pending c)) :
    (sniffIncoming env ac c pb mt).packetBuffers.length ≤ pb.length+1 := by
  fun_cases sniffIncoming env ac c pb mt with
  | case1 | case2 | case3 => exact Nat.le_succ _
  | case4 t c' p hr b m er hs hm =>
    have hd := h p (by rw [env.packets.pending_readPacket _ _ _ _ hr]; rfl) mt
    rw [hs,hm] at hd
    cases hd
  | case5 => simp

lemma actionSniff_takesPackets (c : τ) (ib : List (List UInt8)) (ip : List PacketBuffer) : TakesPackets env ac c ip
      (actionSniff env ac mt none (some c) ib ip) := by
  have hs : ∀ m, TakesPackets env ac c ip ⟨m,none,some c,none,[],none⟩ :=
    fun m => ⟨rfl,rfl,c,rfl,fun _ => Or.inl ⟨rfl,rfl⟩⟩
  simp only [actionSniff]
  split_ifs
  · exact hs mt
  · exact hs mt
  · exact hs mt
  · exact hs mt
  · unfold sniffPacketConn
    cases hsb : sniffBuffered env ac ip mt with
    | mk md' o =>
      cases o with
      | some => exact hs _
      | none =>
        obtain ⟨r,hr,hp⟩ := sniffIncoming_pending env ac c ip md'
        refine ⟨rfl,rfl,_,rfl,fun hf => Or.inr ⟨r,hr,hp hf,fun hd => ?_⟩⟩
        cases ip with
        | nil =>
          have hl := length_sniffIncoming env ac [] md' hd
          rw [hr] at hl
          exact ⟨rfl,by simpa using hl⟩
        | cons b bs =>
          have hd := hd b.toPacket rfl mt
          cases hsp : sniffPacket env ac b.buffer mt with
          | mk m er =>
            rw [hsp] at hd
            simp [sniffBuffered,hsp,hd] at hsb

end SingBox.Route
