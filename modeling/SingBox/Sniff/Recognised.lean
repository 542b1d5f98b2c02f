import SingBox.Sniff.Stream

/-! All built-in sniffers, and what it takes for one that returns no error to have set the protocol. How a message of
DNS, a TLS handshake and an HTTP request are read is left to the libraries. -/
namespace SingBox.Sniff
open Adapter Route PartReader

def checkPacket (protocol : String) (refuse : Bytes → Option GoError) : PacketSniffer := fun metadata packet =>
  match refuse packet with
  | some err => (metadata,some err)
  | none => ({ metadata with protocol },none)

def uintAt (packet : Bytes) (low high : ℕ) : ℕ := BigEndian.read ((packet.take high).drop low)

/-- The loop over the extensions; a seek beyond the end is no error. -/
def utpExtensions (extension : UInt8) (rest : Bytes) : Option GoError :=
  if extension = 0 then none
  else
    match rest with
    | [] => some errEOF
    | [next] => if 0x04 < next then some errInvalid else some errEOF
    | next::length::rest => if 0x04 < next then some errInvalid else utpExtensions next (rest.drop length.toNat)
termination_by rest.length
decreasing_by simp; omega

def utp : PacketSniffer := checkPacket "bittorrent" fun packet =>
  if packet.length < 20 then some errInvalid
  else if packet.getD 0 0 &&& 0x0F ≠ 1 ∨ (4 : UInt8) < packet.getD 0 0 >>> 4 then some errInvalid
  else utpExtensions (packet.getD 1 0) (packet.drop 20)

def udpTracker : PacketSniffer := checkPacket "bittorrent" fun packet =>
  if packet.length < 16 then some errInvalid
  else if uintAt packet 0 8 ≠ 0x41727101980 then some errInvalid
  else if uintAt packet 8 12 ≠ 0 then some errInvalid
  else none

def stunMessage : PacketSniffer := checkPacket "stun" fun packet =>
  if packet.length < 20 then some errInvalid
  else if uintAt packet 4 8 ≠ 0x2112A442 then some errInvalid
  else if packet.length < 20+uintAt packet 2 4 then some errInvalid
  else none

def dtlsRecord : PacketSniffer := checkPacket "dtls" fun packet =>
  if packet.length < 13 then some errInvalid
  else if packet.getD 0 0 ∉ [20,21,22,23,25] then some errInvalid
  else if packet.getD 1 0 ≠ 0xfe then some errInvalid
  else if packet.getD 2 0 ≠ 0xff ∧ packet.getD 2 0 ≠ 0xfd then some errInvalid
  else none

/-- The quotients by 65536 are exact in the floating point numbers of the source. -/
def ntp : PacketSniffer := checkPacket "ntp" fun packet =>
  let firstByte := packet.getD 0 0
  if packet.length < 48 then some errInvalid
  else if (3 : UInt8) < (firstByte >>> 6) &&& 0x03 then some errInvalid
  else if (firstByte >>> 3) &&& 0x07 ≠ 3 ∧ (firstByte >>> 3) &&& 0x07 ≠ 4 then some errInvalid
  else if firstByte &&& 0x07 ≠ 3 then some errInvalid
  else if 16*65536 < uintAt packet 4 8 then some errInvalid
  else if 16*65536 < uintAt packet 8 12 then some errInvalid
  else none

/-- A call that does not come back is no success. -/
def quic (protection : PacketProtection) : PacketSniffer := fun metadata packet =>
  match quicClientHello protection metadata packet with
  | (metadata,.ok _) => (metadata,none)
  | (metadata,.error (.failed err)) => (metadata,some err)
  | (metadata,.error (.crashed _)) => (metadata,some { text := "panic" })

/-- `dns.Msg.Unpack`, the protection of QUIC packets, `tls.Server` with the name of the hello that it was shown, and
`http.ReadRequest` with the host of the request. A handshake without a hello fails. -/
structure Library where
  unpack : Bytes → Except GoError DNS.Msg
  protection : PacketProtection
  isUnexpectedEOF : GoError → Bool
  handshake : List Bytes → Option String × Option GoError
  handshake_fails : ∀ parts, (handshake parts).1 = none → (handshake parts).2 ≠ none
  readRequest : List Bytes → Except GoError String
  addrString : String → String

/-- `E.Errors` of some errors is an error. -/
structure JoinedErrors extends ErrorOps where
  errors_ne_none : ∀ errs, errs ≠ [] → errors errs ≠ none

inductive BuiltInStream
  | tls
  | http
  | read (protocol : StreamProtocol)
  deriving DecidableEq

inductive BuiltInPacket
  | dns | quic | stun | utp | udpTracker | dtls | ntp
  deriving DecidableEq

namespace Library
variable (lib : Library)

def wrap (err : GoError) : GoError := if lib.isUnexpectedEOF err then needMoreData err.text else err

def tlsClientHello : StreamSniffer := fun metadata parts =>
  match lib.handshake parts with
  | (some serverName,_) => ({ metadata with protocol := "tls", domain := serverName },none)
  | (none,err) => (metadata,err.map lib.wrap)

def httpHost : StreamSniffer := fun metadata parts =>
  match lib.readRequest parts with
  | .error err => (metadata,some (lib.wrap err))
  | .ok host => ({ metadata with protocol := "http", domain := lib.addrString host },none)

def packetQuery : PacketSniffer := fun metadata packet =>
  match domainNameQuery lib.unpack packet with
  | .error err => (metadata,some err)
  | .ok update => (update metadata,none)

def stream : BuiltInStream → StreamSniffer
  | .tls => lib.tlsClientHello
  | .http => lib.httpHost
  | .read protocol => protocol.sniffer lib.unpack

def packet : BuiltInPacket → PacketSniffer
  | .dns => lib.packetQuery
  | .quic => Sniff.quic lib.protection
  | .stun => stunMessage
  | .utp => Sniff.utp
  | .udpTracker => Sniff.udpTracker
  | .dtls => dtlsRecord
  | .ntp => Sniff.ntp

/-- The packet is a message of DNS, and no plain query. -/
def Misread (packet : Bytes) : Prop :=
  ∃ msg, lib.unpack packet = .ok msg ∧
    (msg.response || msg.question.length == 0 || msg.answer.length > 0 || msg.ns.length > 0) = true

end Library

def BuiltInStream.protocol : BuiltInStream → String
  | .tls => "tls"
  | .http => "http"
  | .read .bitTorrent => "bittorrent"
  | .read .rdp => "rdp"
  | .read .ssh => "ssh"
  | .read .dns => "dns"

def BuiltInPacket.protocol : BuiltInPacket → String
  | .dns => "dns"
  | .quic => "quic"
  | .stun => "stun"
  | .utp | .udpTracker => "bittorrent"
  | .dtls => "dtls"
  | .ntp => "ntp"

/-- `StreamDomainNameQuery` up to the message. -/
def readQueryPacket : StreamReader Bytes := do
  let length ← binaryRead 2
  reject (decide (length < 12)) errInvalid
  window length refuseHeader shortRead

def Library.StreamMisread (lib : Library) (parts : List Bytes) : Prop :=
  ∃ packet rest, readQueryPacket parts = .ok (packet,rest) ∧ lib.Misread packet

/-- Where the sniffer returns no error, it has set the protocol, whatever the metadata was. -/
def Sets {δ : Type} (protocol : String) (sniffer : InboundContext → δ → InboundContext × Option GoError) (data : δ) :
    Prop :=
  ∀ metadata, (sniffer metadata data).2 = none → (sniffer metadata data).1.protocol = protocol

section
variable {lib : Library} {name : String}

def ReaderSets (name : String) (r : StreamReader (InboundContext → InboundContext)) : Prop :=
  ∀ parts update rest, r parts = .ok (update,rest) → ∀ metadata, (update metadata).protocol = name

lemma ReaderSets.bind {α : Type} {r : StreamReader α} {k : α → StreamReader (InboundContext → InboundContext)}
    (h : ∀ a, ReaderSets name (k a)) : ReaderSets name (r >>= k) := by
  intro ps u rs hr
  obtain ⟨a,md,-,hk⟩ := exists_of_bind_eq_ok hr
  exact h a md u rs hk

lemma readerSets_pure {u : InboundContext → InboundContext} (h : ∀ mt, (u mt).protocol = name) :
    ReaderSets name (pure u) := by
  rintro ps _ _ ⟨⟩
  exact h

lemma ReaderSets.sets {r : StreamReader (InboundContext → InboundContext)} (h : ReaderSets name r)
    (ps : List Bytes) : Sets name (toSniffer r) ps := by
  intro mt hok
  rw [toSniffer] at hok ⊢
  split at hok
  next u rs hr => exact h ps u rs hr mt
  · cases hok

lemma readerSets_bitTorrent : ReaderSets "bittorrent" bitTorrent :=
  .bind fun _ => .bind fun _ => readerSets_pure fun _ => rfl

lemma readerSets_ssh : ReaderSets "ssh" ssh := .bind fun _ => .bind fun _ => readerSets_pure fun _ => rfl

lemma readerSets_rdp : ReaderSets "rdp" rdp := by
  iterate 9 refine .bind fun _ => ?_
  exact readerSets_pure fun _ => rfl

variable (rf : Bytes → Option GoError) (k : BuiltInPacket) (pc : Bytes) (m : InboundContext)

lemma sets_checkPacket : Sets name (checkPacket name rf) pc := by
  intro m hok
  rw [checkPacket] at hok ⊢
  cases hr : rf pc with
  | some => simp [hr] at hok
  | none => rfl

lemma protocol_sniffFrames (fr : Frames) : (sniffFrames m fr).1.protocol = "quic" := by
  simp only [sniffFrames]
  split
  · rfl
  · simp only [parseRecord]
    split
    · rfl
    · rfl
    · simp only [recognize]
      split_ifs
      · split <;> rfl
      · rfl

lemma sets_quic : Sets "quic" (quic lib.protection) pc := by
  intro m hok
  have hfs : (quic lib.protection m pc).1 = (quicClientHello lib.protection m pc).1 := by
    rw [quic]
    split <;> simp_all
  rw [hfs,quicClientHello]
  cases hi : initialFrames lib.protection pc with
  | error s => cases s <;> simp [quic,quicClientHello,hi] at hok
  | ok fr => exact protocol_sniffFrames m fr

lemma sets_packetQuery_iff : Sets "dns" lib.packetQuery pc ↔ ¬ lib.Misread pc := by
  cases hu : lib.unpack pc with
  | error => simp [Sets,Library.packetQuery,domainNameQuery,Library.Misread,hu]
  | ok ms =>
    by_cases hp : (ms.response || ms.question.length == 0 || ms.answer.length > 0 || ms.ns.length > 0) = true
    · refine iff_of_false (fun h => ?_) (not_not.mpr ⟨ms,hu,hp⟩)
      have hs := h {} (by rw [Library.packetQuery,domainNameQuery,hu]; simp only [if_pos hp])
      rw [Library.packetQuery,domainNameQuery,hu] at hs
      simp [hp] at hs
    · refine iff_of_true (fun m _ => ?_) ?_
      · rw [Library.packetQuery,domainNameQuery,hu]
        simp only [if_neg hp]
      · rintro ⟨ms',hms,hm⟩
        rw [hu] at hms
        cases hms
        exact hp hm

lemma streamQuery_eq (ps : List Bytes) :
    lib.stream (.read .dns) m ps = match readQueryPacket ps with
      | .ok (pc,_) => lib.packetQuery m pc
      | .error er => (m,some er) := by
  have hr : streamDomainNameQuery lib.unpack =
      readQueryPacket >>= fun pc => PartReader.ofExcept (domainNameQuery lib.unpack pc) := by
    simp only [streamDomainNameQuery,readQueryPacket,bind_assoc]
  change toSniffer (streamDomainNameQuery lib.unpack) m ps = _
  rw [toSniffer,hr]
  cases hp : readQueryPacket ps with
  | error => rw [bind_of_error hp]
  | ok r =>
    rw [bind_of_ok hp,PartReader.ofExcept]
    cases hq : domainNameQuery lib.unpack r.1 <;> simp [Library.packetQuery,hq,Except.map]

lemma sets_stream_iff (k : BuiltInStream) (ps : List Bytes) :
    Sets k.protocol (lib.stream k) ps ↔ ¬ (k = .read .dns ∧ lib.StreamMisread ps) := by
  cases k with
  | tls =>
    refine iff_of_true (fun m hok => ?_) (by simp)
    have hf := lib.handshake_fails ps
    simp only [Library.stream,Library.tlsClientHello] at hok ⊢
    split at hok
    · rfl
    next er heq => simp_all
  | http =>
    refine iff_of_true (fun m hok => ?_) (by simp)
    simp only [Library.stream,Library.httpHost] at hok ⊢
    split at hok
    · cases hok
    · rfl
  | read p =>
    cases p with
    | bitTorrent => exact iff_of_true (readerSets_bitTorrent.sets ps) (by simp)
    | rdp => exact iff_of_true (readerSets_rdp.sets ps) (by simp)
    | ssh => exact iff_of_true (readerSets_ssh.sets ps) (by simp)
    | dns =>
      simp only [Sets,streamQuery_eq,true_and,Library.StreamMisread]
      cases hp : readQueryPacket ps with
      | error => simp
      | ok r =>
        refine (sets_packetQuery_iff r.1).trans (not_congr ?_)
        constructor
        · exact fun h => ⟨r.1,r.2,rfl,h⟩
        · rintro ⟨pc,rs,heq,h⟩
          cases heq
          exact h

lemma sets_packet_iff : Sets k.protocol (lib.packet k) pc ↔ ¬ (k = .dns ∧ lib.Misread pc) := by
  cases k with
  | dns =>
    rw [eq_self_iff_true,true_and]
    exact sets_packetQuery_iff pc
  | quic => exact iff_of_true (sets_quic pc) (by simp)
  | stun | utp | udpTracker | dtls | ntp => exact iff_of_true (sets_checkPacket _ pc) (by simp)

end

section
variable {e : JoinedErrors}

lemma peekPacket_of_success {p : Bytes} {ss : List PacketSniffer} {mt : InboundContext}
    {er : List GoError} (hs : ss ≠ [] ∨ er ≠ []) (h : (peekPacket e.toErrorOps p ss mt er).2 = none) :
    ∃ s ∈ ss, ∃ sh, (s sh p).2 = none ∧ peekPacket e.toErrorOps p ss mt er = s sh p := by
  induction ss generalizing mt er with
  | nil => exact absurd h (e.errors_ne_none er (by simpa using hs))
  | cons s ss ih =>
    rw [peekPacket] at h ⊢
    split at h
    next heq => exact ⟨s,by simp,mt,by rw [heq],heq.symm⟩
    next heq =>
      obtain ⟨l,hm,sh,hok,hp⟩ := ih (.inr (by simp)) h
      exact ⟨l,List.mem_cons_of_mem s hm,sh,hok,hp⟩

lemma sniffStream_spec (ps : List Bytes) (ss : List StreamSniffer) (mt : InboundContext)
    (er : Option GoError) :
    match sniffStream e.toErrorOps ps ss mt er with
    | (a,true,_) => ∃ s ∈ ss, ∃ sh, s sh ps = (a,none)
    | (_,false,er') => ss ≠ [] ∨ er ≠ none → er' ≠ none := by
  induction ss generalizing mt er with
  | nil => simp [sniffStream]
  | cons s ss ih =>
    rw [sniffStream]
    cases hs : s mt ps with
    | mk a rs =>
      cases rs with
      | none => exact ⟨s,by simp,mt,hs⟩
      | some r =>
        have hl := ih a (e.errors (er.toList++[r]))
        dsimp only
        split at hl
        · obtain ⟨l,hm,hsh⟩ := hl
          exact ⟨l,List.mem_cons_of_mem s hm,hsh⟩
        · exact fun _ => hl (.inr (e.errors_ne_none _ (by simp)))

lemma peekLoop_of_success {σ : Type} {cs : StreamConn σ} {ss : List StreamSniffer} (hsn : ss ≠ [])
    (bs : List Bytes) (d : ℤ) (i : ℕ) (c : σ) (b : Bytes) (mt : InboundContext)
    (se : Option GoError) (hi : 0 < i → se ≠ none) :
    let p := peekLoop e.toErrorOps cs bs ss d i c b mt se
    p.err = none → ∃ s ∈ ss, ∃ sh, s sh (bs++[p.buffer]) = (p.metadata,none) := by
  fun_induction peekLoop e.toErrorOps cs bs ss d i c b mt se with
  | case1 => exact fun h => by cases h
  | case2 =>
    intro p h
    dsimp only [p] at h
    split_ifs at h with hp
    exact absurd h (hi hp)
  | case3 i c b mt se conn₁ hst conn₂ b' hr conn₃ mt' err hs =>
    have hsp := sniffStream_spec (e := e) (bs++[b']) ss mt none
    rw [hs] at hsp
    exact fun _ => hsp
  | case4 i c b mt se conn₁ hst conn₂ b' hr conn₃ mt' err hs hm hlt ih =>
    refine ih fun _ hn => ?_
    rw [hn] at hm
    cases hm
  | case5 i c b mt se conn₁ hst conn₂ b' hr conn₃ mt' err hs =>
    have hsp := sniffStream_spec (e := e) (bs++[b']) ss mt none
    rw [hs] at hsp
    exact fun h => absurd h (hsp (.inl hsn))

end

/-- A built-in sniffer that returns no error has set its protocol, but for the sniffers of DNS on a message that is no
plain query; and so `PeekStream` and `PeekPacket` report success for a recognised connection or for such a message. -/
theorem recognised_iff (lib : Library) (e : JoinedErrors) {σ : Type} (conns : StreamConn σ) :
    (∀ kind parts, Sets kind.protocol (lib.stream kind) parts ↔ ¬ (kind = .read .dns ∧ lib.StreamMisread parts)) ∧
    (∀ kind packet, Sets kind.protocol (lib.packet kind) packet ↔ ¬ (kind = .dns ∧ lib.Misread packet)) ∧
    (∀ kinds : List BuiltInStream, kinds ≠ [] → ∀ metadata conn buffers buffer timeout peeked,
      peekStream e.toErrorOps conns metadata conn buffers buffer timeout (kinds.map lib.stream) = peeked →
      peeked.err = none → (∃ kind ∈ kinds, peeked.metadata.protocol = kind.protocol) ∨
        .read .dns ∈ kinds ∧ lib.StreamMisread (buffers++[peeked.buffer])) ∧
    ∀ kinds : List BuiltInPacket, kinds ≠ [] → ∀ metadata packet after,
      peekPacket e.toErrorOps packet (kinds.map lib.packet) metadata [] = (after,none) →
        (∃ kind ∈ kinds, after.protocol = kind.protocol) ∨ .dns ∈ kinds ∧ lib.Misread packet := by
  refine ⟨sets_stream_iff,sets_packet_iff,?_,?_⟩
  · rintro kinds hk metadata conn buffers buffer timeout peeked rfl hs
    obtain ⟨sn,hmm,s,hsn⟩ := peekLoop_of_success (by simpa using hk) buffers _ 0 conn buffer metadata
      none (fun hps => absurd hps (lt_irrefl 0)) hs
    obtain ⟨kind,hkn,rfl⟩ := List.mem_map.mp hmm
    by_cases hm : kind = .read .dns ∧ lib.StreamMisread (buffers++[(peekStream e.toErrorOps conns metadata conn
        buffers buffer timeout (kinds.map lib.stream)).buffer])
    · exact .inr ⟨hm.1 ▸ hkn,hm.2⟩
    · have hst := (sets_stream_iff kind _).mpr hm s
      rw [peekStream] at hst
      rw [hsn] at hst
      exact .inl ⟨kind,hkn,hst rfl⟩
  · intro kinds hk metadata packet after hs
    obtain ⟨sn,hmm,s,hok,hp⟩ := peekPacket_of_success (by simpa using hk) (congrArg Prod.snd hs)
    obtain ⟨kind,hkn,rfl⟩ := List.mem_map.mp hmm
    rw [hs] at hp
    by_cases hm : kind = .dns ∧ lib.Misread packet
    · exact .inr ⟨hm.1 ▸ hkn,hm.2⟩
    · have hst := (sets_packet_iff kind packet).mpr hm s hok
      rw [← hp] at hst
      exact .inl ⟨kind,hkn,hst⟩

/-- A message that ends behind its header is unpacked without any section, whatever its header counts. -/
def headerLibrary : Library where
  unpack packet :=
    if packet.length = 12 then .ok { response := packet.getD 2 0 &&& 0x80 != 0 } else .error errUnexpectedEOF
  protection := ⟨fun _ _ _ => .error errInvalid,fun _ _ _ _ _ => .error errInvalid,by simp,by simp⟩
  isUnexpectedEOF _ := false
  handshake _ := (none,some errEOF)
  handshake_fails := by simp
  readRequest _ := .error errEOF
  addrString host := host

/-- The header of a response is sniffed without an error, and so is a query over TCP that ends behind its header. -/
theorem message_without_protocol :
    peekPacket ⟨fun err _ => err,List.head?⟩ [0,1,0x80,0,0,0,0,0,0,0,0,0] [headerLibrary.packet .dns] {} [] = ({},none) ∧
      headerLibrary.stream (.read .dns) {} [[0,12,0,1,1,0,0,1,0,0,0,0,0,0]] = ({},none) := by
  refine ⟨rfl,?_⟩
  rw [streamQuery_eq]
  rfl

end SingBox.Sniff
