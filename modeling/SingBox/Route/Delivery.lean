import SingBox.Route.Script

/-! What an outbound reads from a routed connection, against what the client sent. -/
namespace SingBox.Route
open Adapter List

section
variable {σ τ : Type} (r : Router σ τ)

/-- The buffers of a pass, in the order they were filled, are what is missing from the connection. -/
def StreamAhead (conn : σ) (pass : Pass σ τ) : Prop :=
  ∃ conn', pass.inputConn = some conn' ∧
    r.streams.replay.taken pass.buffers++r.streams.pending conn' = r.streams.pending conn

lemma sniffRound_streamAhead (conn : σ) (a : SniffAction) (p : Pass σ τ)
    (h : StreamAhead r conn p) : (sniffRound r a p).Keeps (StreamAhead r conn) := by
  obtain ⟨conn',hc,ha⟩ := h
  obtain ⟨_,conn'',hc',hb⟩ := actionSniff_takesBytes r.toSniffEnv a p.metadata conn'
    p.inputPacketConn p.buffers p.packetBuffers
  rw [← hc] at hc' hb
  simp only [sniffRound]
  cases hbf : (actionSniff r.toSniffEnv a p.metadata p.inputConn p.inputPacketConn
    p.buffers p.packetBuffers).buffer with
  | none =>
    rw [hbf] at hb
    split
    · exact trivial
    · exact ⟨conn'',hc',by rw [← ha,← hb]; rfl⟩
  | some nb =>
    rw [hbf] at hb
    split
    · exact trivial
    · refine ⟨conn'',hc',?_⟩
      rw [← ha,← hb,Replay.taken_concat,append_assoc]
      rfl

def SniffAction.looksAtStreams (action : SniffAction) : Bool :=
  !(action.streamSniffers.length == 0 && action.packetSniffers.length > 0)

def RouteRule.sniffsStreams (rule : RouteRule) : Bool :=
  match rule.action with
  | .sniff action => action.looksAtStreams
  | _ => false

variable {r} (pm sb : Bool)

lemma buffer_actionSniff {a : SniffAction} (h : a.looksAtStreams = false) (mt : InboundContext) (ic : Option σ)
    (ip : Option τ) (ib : List (List UInt8)) (pb : List PacketBuffer) :
    (actionSniff r.toSniffEnv a mt ic ip ib pb).buffer = none := by
  have hl : (a.streamSniffers.length == 0 && decide (a.packetSniffers.length > 0)) = true := by
    simpa [SniffAction.looksAtStreams] using h
  have hs : ∀ c, (sniffPacketConn r.toSniffEnv a mt ic c pb).buffer = none := by
    intro c
    rw [sniffPacketConn]
    split <;> rfl
  fun_cases actionSniff r.toSniffEnv a mt ic ip ib pb <;> simp_all

/-- A rule adds a buffer at most if its sniff action looks at streams. -/
lemma length_buffers_ruleRound (rl : RouteRule) (p : Pass σ τ) :
    (ruleRound r pm sb rl p).Keeps fun q => q.buffers.length ≤ p.buffers.length+rl.sniffsStreams.toNat := by
  by_cases hsn : ∃ a, rl.action = .sniff a
  · obtain ⟨a,ha⟩ := hsn
    rw [RouteRule.sniffsStreams,ruleRound,ha]
    simp only [actionRound,sniffRound]
    split_ifs
    · exact Nat.le_add_right _ _
    · split
      · trivial
      · cases hs : a.looksAtStreams with
        | false =>
          rw [Round.Keeps,buffer_actionSniff hs]
          rfl
        | true =>
          simp only [Round.Keeps]
          split <;> simp
    · exact Nat.le_add_right _ _
    · exact Nat.le_add_right _ _
  · have hk : (ruleRound r pm sb rl p).Keeps fun q => q.buffers = p.buffers :=
      ruleRound_keeps (fun _ _ h => h) rl (fun a ha => absurd ⟨a,ha⟩ hsn) p rfl
    cases hr : ruleRound r pm sb rl p with
    | next q | selected q =>
      rw [hr] at hk
      exact (congrArg length hk).trans_le (Nat.le_add_right _ _)
    | fatal => trivial

lemma length_buffers_matchLoop (rs : List RouteRule) (i : ℕ) (p : Pass σ τ)
    (hok : (matchLoop r pm sb rs i p).fatalErr = none) :
    (matchLoop r pm sb rs i p).pass.buffers.length ≤ p.buffers.length+rs.countP RouteRule.sniffsStreams := by
  induction rs generalizing i p with
  | nil => exact le_rfl
  | cons rl rs ih =>
    have hk := length_buffers_ruleRound (r := r) pm sb rl p
    have hc : (rl::rs).countP RouteRule.sniffsStreams =
        rs.countP RouteRule.sniffsStreams+rl.sniffsStreams.toNat := by
      rw [countP_cons]
      cases rl.sniffsStreams <;> rfl
    rw [matchLoop] at hok ⊢
    cases hr : ruleRound r pm sb rl p with
    | next q =>
      rw [hr] at hk
      simp only [hr] at hok
      have := ih (i+1) q hok
      simp only [Round.Keeps] at hk
      simp only
      omega
    | selected q =>
      rw [hr] at hk
      simp only [Round.Keeps] at hk
      simp only
      omega
    | fatal => simp [hr] at hok

lemma length_buffers_matchRule (mt : InboundContext) (ic : Option σ) (ip : Option τ)
    (hok : (matchRule r pm sb mt ic ip).fatalErr = none) :
    (matchRule r pm sb mt ic ip).pass.buffers.length ≤ r.rules.countP RouteRule.sniffsStreams := by
  unfold matchRule at hok ⊢
  cases hg : gatherMetadata r mt with
  | error => simp [hg] at hok
  | ok =>
    simp only [hg] at hok ⊢
    exact (length_buffers_matchLoop pm sb _ _ _ hok).trans (le_of_eq (Nat.zero_add _))

variable (r)

/-- The packets of a pass are the packets missing from the connection, or one of them is there twice; and there is one at
most where all sniff actions of the rules decide on the first packet. -/
def PacketsAhead (conn : τ) (pass : Pass σ τ) : Prop :=
  pass.inputConn = none ∧ ∃ conn' read, pass.inputPacketConn = some conn' ∧
    read++r.packets.pending conn' = r.packets.pending conn ∧
    ((pass.packetBuffers.map PacketBuffer.pointer).Nodup → pass.packetBuffers.map PacketBuffer.toPacket = read) ∧
    ((∀ rule ∈ r.rules, ∀ action, rule.action = .sniff action →
      DecidesOnFirst r.toSniffEnv action (r.packets.pending conn)) → pass.packetBuffers.length ≤ 1)

lemma nodup_of_length_le {α : Type} {l : List α} (h : l.length ≤ 1) : l.Nodup := by
  match l, h with
  | [], _ => exact nodup_nil
  | [x], _ => exact nodup_singleton x

lemma sniffRound_packetsAhead (conn : τ) (rl : RouteRule) (hrl : rl ∈ r.rules) (a : SniffAction)
    (hac : rl.action = .sniff a) (p : Pass σ τ) (h : PacketsAhead r conn p) :
    (sniffRound r a p).Keeps (PacketsAhead r conn) := by
  obtain ⟨hn,conn',rd,hc,ha,hb,hl⟩ := h
  obtain ⟨hbf,hn',conn'',hc',hpc⟩ := actionSniff_takesPackets r.toSniffEnv a
    p.metadata conn' p.buffers p.packetBuffers
  rw [← hc,← hn] at hbf hn' hc' hpc
  simp only [sniffRound,hbf]
  cases hf : (actionSniff r.toSniffEnv a p.metadata p.inputConn p.inputPacketConn
    p.buffers p.packetBuffers).fatalErr with
  | some e => exact trivial
  | none =>
    refine ⟨hn'.trans hn,conn'',?_⟩
    rcases hpc hf with ⟨hnw,hp⟩ | ⟨n,hnw,hp,hd⟩
    · refine ⟨rd,hc',hp ▸ ha,?_⟩
      simpa only [hnw,append_nil] using ⟨hb,hl⟩
    · refine ⟨rd++n.map PacketBuffer.toPacket,hc',by rw [append_assoc,hp,ha],?_,fun hall => ?_⟩
      · -- packets buffered before come back a second time
        simp only [hnw]
        cases he : p.packetBuffers with
        | nil =>
          rw [he] at hb
          rw [← hb nodup_nil]
          exact fun _ => rfl
        | cons => simp
      · have hm := hb (nodup_of_length_le (by simpa using hl hall))
        obtain ⟨hpn,hle⟩ := hd (by rw [hm,ha]; exact hall rl hrl a hac)
        simp only [hnw]
        rw [hpn]
        exact hle

end

section
variable {σ τ : Type} (r : ConnectionRouter σ τ) (conn : σ) (metadata : InboundContext)

lemma injectDetour_toOutbound {α : Type} (i : Inbound → Bool) (t : String) (conn : α)
    (metadata : InboundContext) : (injectDetour r i t conn metadata).toOutbound = none ∧
      (injectDetour r i t conn metadata).panics = false := by
  simp only [injectDetour]
  split_ifs
  · exact ⟨rfl,rfl⟩
  · split
    · exact ⟨rfl,rfl⟩
    · split_ifs
      all_goals exact ⟨rfl,rfl⟩

/-- Inversion of `routeConnection` where an outbound gets the connection. -/
lemma routeConnection_toOutbound {conn rt : σ} {metadata : InboundContext}
    (h : (routeConnection r conn metadata).toOutbound = some rt) : (matchConnection r conn metadata).fatalErr = none ∧
      r.streams.pending rt = r.streams.pending ((matchConnection r conn metadata).pass.buffers.foldl
        r.streams.newCachedConn ((matchConnection r conn metadata).pass.inputConn.getD conn)) := by
  simp only [routeConnection] at h
  split_ifs at h
  · rw [(injectDetour_toOutbound ..).1] at h
    cases h
  · split at h
    · cases h
    · split at h
      · cases h
      · rename_i hf
        refine ⟨hf,?_⟩
        split at h
        · cases h
        · cases h
        · cases h
        · cases h
          exact observe_foldl r.streams.pending r.trackers
            (fun t ht conn => r.pending_trackers t ht conn _ _ _) _

lemma matchConnection_streamAhead (hok : (matchConnection r conn metadata).fatalErr = none) :
    StreamAhead r.toRouter conn (matchConnection r conn metadata).pass := by
  refine matchRule_keeps (I := StreamAhead r.toRouter conn) (fun _ _ h => h)
    (fun _ _ a _ => sniffRound_streamAhead r.toRouter conn a) _ _ _ (fun _ => ⟨_,rfl,?_⟩) hok
  split_ifs
  · exact r.streams.pending_newDeadlineConn conn
  · rfl

end

variable {σ τ : Type} (r : ConnectionRouter σ τ)

def natPacket (metadata : InboundContext) (packet : Packet) : Packet :=
  if metadata.fakeIP then
    r.packets.natDestination metadata.originDestination metadata.destination packet
  else packet

variable (conn : τ) (metadata : InboundContext)

lemma pending_natConn (conn : τ) :
    r.packets.pending (natConn r metadata conn) = (r.packets.pending conn).map (natPacket r metadata) := by
  unfold natConn
  split_ifs with hf
  · rw [r.packets.pending_newNATPacketConn]
    exact map_congr_left fun p _ => (if_pos hf).symm
  · exact (map_id'' (fun p => if_neg hf) _).symm

lemma cachePackets_eq (bs : List PacketBuffer) (cl : List ℕ) (conn : τ) : cachePackets r bs cl conn =
    if (bs.map PacketBuffer.pointer).Nodup ∧ ∀ b ∈ bs, b.pointer ∉ cl then
      some ((bs.map PacketBuffer.toPacket).foldl r.packets.newCachedPacketConn conn) else none := by
  induction bs generalizing cl conn with
  | nil => simp [cachePackets]
  | cons b bs ih =>
    rw [cachePackets,ih]
    simp only [map_cons,nodup_cons,foldl_cons,mem_cons,not_or,forall_eq_or_imp]
    split_ifs <;> grind

/-- Inversion of `routePacketConnection` where it gets to the packets that were read ahead. -/
lemma routePacketConnection_inv :
    let result := matchPacketConnection r conn metadata
    let cached := cachePackets r result.pass.packetBuffers [] (result.pass.inputPacketConn.getD conn)
    ((routePacketConnection r conn metadata).panics = true → result.fatalErr = none ∧ cached = none) ∧
    ∀ rt, (routePacketConnection r conn metadata).toOutbound = some rt → result.fatalErr = none ∧
      ∃ c, cached = some c ∧ r.packets.pending rt = (r.packets.pending c).map (natPacket r result.pass.metadata) := by
  simp only [routePacketConnection]
  split_ifs
  · refine ⟨fun h => absurd h (Bool.eq_false_iff.mp (injectDetour_toOutbound ..).2),fun rt h => ?_⟩
    rw [(injectDetour_toOutbound ..).1] at h
    cases h
  · split
    · exact ⟨nofun,nofun⟩
    next hf =>
      split
      · exact ⟨nofun,nofun⟩
      · exact ⟨nofun,nofun⟩
      · exact ⟨nofun,nofun⟩
      · split
        next hc => exact ⟨fun _ => ⟨hf,hc⟩,nofun⟩
        next c hc =>
          refine ⟨nofun,fun rt h => ⟨hf,c,hc,?_⟩⟩
          cases h
          rw [pending_natConn,observe_foldl r.packets.pending r.packetTrackers
            fun t ht conn => r.pending_packetTrackers t ht conn _ _ _]

lemma matchPacketConnection_packetsAhead (hok : (matchPacketConnection r conn metadata).fatalErr = none) :
    PacketsAhead r.toRouter conn (matchPacketConnection r conn metadata).pass :=
  matchRule_keeps (I := PacketsAhead r.toRouter conn) (fun _ _ h => h)
    (sniffRound_packetsAhead r.toRouter conn) _ none (some conn)
    (fun _ => ⟨rfl,conn,[],rfl,rfl,fun _ => rfl,fun _ => Nat.zero_le 1⟩) hok

end SingBox.Route
