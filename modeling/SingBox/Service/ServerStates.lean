import SingBox.Library.Outcome
import SingBox.Service.ResolvedQueries
import SingBox.Service.Tailscale

/-! The states of the servers that the DNS transports of the resolved service and of Tailscale endpoints make. None of the
two starts a server. -/

namespace SingBox.Resolved
open Adapter Transport

lemma Server.state_close (sr : Server) : sr.close.base.state ≠ .started := by
  have hc := sr.base.isClosing_shutdown
  rw [close]
  split_ifs
  · exact fun h => by cases h
  · intro h
    rw [h] at hc
    cases hc

lemma newServer_eq_some {d : Bool} {a : Bytes} {p : ℕ} {n : String} {sr : Server}
    (h : newServer d a p n = some sr) : sr.base.state = .new := by
  unfold newServer at h
  split at h
  · cases h
    rfl
  · cases h

lemma newServers_eq_some {l : TransportLink} {ss : List Server} (h : newServers l = some ss) :
    ∀ sr ∈ ss, sr.base.state = .new := by
  obtain ⟨ts,ht,h⟩ := Option.bind_eq_some_iff.mp h
  obtain ⟨te,hte,h⟩ := Option.bind_eq_some_iff.mp h
  cases h
  intro sr hs
  obtain hs | hs := List.mem_append.mp hs
  · obtain ⟨a,-,hn⟩ := Outcome.exists_of_mem_mapM_option ht sr hs
    exact newServer_eq_some hn
  · obtain ⟨a,-,hn⟩ := Outcome.exists_of_mem_mapM_option hte sr hs
    exact newServer_eq_some hn

namespace State

/-- No server of the table is started. -/
def Idle (s : State) : Prop :=
  ∀ id servers, s.linkServers id = some servers → ∀ server ∈ servers, server.base.state ≠ .started

variable {s : State}

section
variable (h : s.Idle)
include h

lemma Idle.update (s' : State) {id : ℕ} {e : Option (List Server)}
    (hs' : s'.linkServers = Function.update s.linkServers id e)
    (he : ∀ ss, e = some ss → ∀ sr ∈ ss, sr.base.state ≠ .started) : s'.Idle := by
  intro o ss hs
  rw [hs'] at hs
  by_cases heq : o = id
  · subst heq
    rw [Function.update_self] at hs
    exact he ss hs
  · rw [Function.update_of_ne heq] at hs
    exact h o ss hs

variable (ln : TransportLink)

lemma Idle.updateTransports : (s.updateTransports ln).1.Idle := by
  -- The old servers are closed, whether or not new ones can be made.
  have hc : Idle { s with
      linkServers := Function.update s.linkServers ln.id ((s.linkServers ln.id).map (·.map Server.close)) } := by
    refine h.update _ rfl fun ss hs sr hsr => ?_
    obtain ⟨o,-,rfl⟩ := Option.map_eq_some_iff.mp hs
    obtain ⟨b,-,rfl⟩ := List.mem_map.mp hsr
    exact b.state_close
  rw [State.updateTransports]
  cases hn : newServers ln with
  | none => exact hc
  | some =>
    refine hc.update _ rfl fun ss hs sr hsr => ?_
    cases hs
    rw [newServers_eq_some hn sr hsr]
    exact fun h => by cases h

lemma Idle.postUpdate : (s.postUpdate ln).1.Idle := by
  rw [State.postUpdate]
  split_ifs
  · exact h
  · exact h.updateTransports ln

/-- What `getLink` adds has no servers. -/
lemma Idle.withLink (i : ℤ) (bi : Except GoError InterfaceRef) {l : State → State}
    {b : State → TransportLink → State × CallResult} (hl : ∀ s : State, (l s).linkServers = s.linkServers)
    (hb : ∀ s₁ : State, s₁.Idle → ∀ ln, (b s₁ ln).1.Idle) : (s.withLink i bi l b).1.Idle := by
  unfold State.withLink
  split_ifs
  · exact h
  obtain ⟨ln,-,hg⟩ | ⟨ii,-,hg⟩ | ⟨e,-,hg⟩ := s.getLink_cases i bi
  · rw [hg]
    exact hb s h ln
  · rw [hg]
    exact hb (s.addLink i (some ii)) h _
  · rw [hg]
    intro id ss hs
    rw [hl] at hs
    exact h id ss hs

lemma Idle.editLink {i : ℤ} (bi : Except GoError InterfaceRef) (e : Edit i) : (s.editLink bi e).1.Idle :=
  h.withLink i bi (fun _ => rfl) fun _ h₁ ln => Idle.postUpdate (by exact h₁) (e.link ln)

lemma Idle.networkUpdated (bi : ℤ → Except GoError InterfaceRef) : (s.networkUpdated bi).Idle := by
  have hl : ∀ (es : List (Sigma fun _ : ℤ => TransportLink)) (s : State), s.Idle → (es.foldl updateRound s).Idle := by
    intro es
    induction es with
    | nil => exact fun s h => h
    | cons e es ih =>
      intro s h
      refine ih _ (h.update _ rfl fun ss hs => ?_)
      cases hs
  exact hl s.links.entries s h

lemma Idle.next (e : Event) : (s.next e).Idle := by
  cases e with
  | setLinkDNS i bi _ | setLinkDNSEx i bi _ | setLinkDomains i bi _ | setLinkDefaultRoute i bi _
  | setLinkDNSOverTLS i bi => exact h.editLink bi _
  | revertLink i bi => exact h.withLink i bi (fun _ => rfl) fun _ h₁ ln => Idle.postUpdate (by exact h₁) ln
  | resolve i bi =>
    refine h.withLink i bi (fun _ => rfl) fun s₁ h₁ ln => ?_
    split_ifs <;> exact h₁
  | networkUpdate bi =>
    change (s.onNetworkUpdate bi).1.Idle
    rw [onNetworkUpdate]
    split_ifs
    · exact h
    · exact h.networkUpdated bi

end

/-- A query can come to the server. -/
def Selects (acceptDefaultResolvers : Bool) (s : State) (server : Server) : Prop :=
  ∃ visited : List TransportLink, visited.Perm (s.links.entries.map Sigma.snd) ∧ ∃ name link servers,
    s.exchange acceptDefaultResolvers visited name = .exchange link servers ∧ server ∈ servers

lemma Idle.ne_of_selects {ad : Bool} (h : s.Idle) {sr : Server} (hs : s.Selects ad sr) : sr.base.state ≠ .started := by
  obtain ⟨v,-,n,l,ss,he,hse⟩ := hs
  unfold exchange at he
  split at he
  · cases he
  split at he
  · cases he
  · cases he
  split at he
  · cases he
  · cases he
  · rename_i hsr
    cases he
    exact h l.id ss hsr sr hse

end State

end SingBox.Resolved

namespace SingBox.Tailscale
open Adapter Transport

variable {lib : Parsers}

lemma createResolver_eq_ok {r : Resolver} {sr : Server} (h : createResolver lib r = .ok sr) :
    ∀ b, sr.base = some b → b.state = .new := by
  unfold createResolver at h
  dsimp only at h
  intro b hb
  split at h
  · cases h
    cases hb
    rfl
  split at h
  · cases h
  split_ifs at h
  all_goals
    cases h
    cases hb

/-- No server of the routes or of the default resolvers is started. -/
def Idle (t : DNSTransport) : Prop :=
  ∀ servers, servers ∈ t.routes.map Prod.snd ∨ servers = t.defaultResolvers →
    ∀ server ∈ servers, ∀ base, server.base = some base → base.state = .new

variable {t : DNSTransport}

lemma idle_updateDNSServers {t' : DNSTransport} {c : Config} (h : updateDNSServers lib t c = .ok t') : Idle t' := by
  obtain ⟨rs,hr,h⟩ := Outcome.bind_eq_ok.mp h
  obtain ⟨dr,hd,h⟩ := Outcome.bind_eq_ok.mp h
  cases h
  rintro ss (hsr | rfl) sr hs
  · obtain ⟨rt,hrt,rfl⟩ := List.mem_map.mp hsr
    obtain ⟨os,-,hc⟩ := Outcome.exists_of_mem_mapM hr rt hrt
    obtain ⟨mr,hmr,hc⟩ := Outcome.bind_eq_ok.mp hc
    cases hc
    obtain ⟨r,-,hn⟩ := Outcome.exists_of_mem_mapM hmr sr hs
    exact createResolver_eq_ok hn
  · obtain ⟨r,-,hn⟩ := Outcome.exists_of_mem_mapM hd sr hs
    exact createResolver_eq_ok hn

lemma Idle.onReconfig (h : Idle t) (c : Config) : Idle (onReconfig lib t c) := by
  unfold Tailscale.onReconfig
  cases hu : updateDNSServers lib t c with
  | error => exact h
  | ok => exact idle_updateDNSServers hu

/-- A query can come to the server. -/
def Selects (t : DNSTransport) (server : Server) : Prop :=
  ∃ visited : List (Bytes × List Server), visited.Perm t.routes ∧ ∃ name qtype servers,
    exchange t visited name qtype = .exchange servers ∧ server ∈ servers

lemma Idle.new_of_selects (h : Idle t) {sr : Server} (hs : Selects t sr) : ∀ b, sr.base = some b → b.state = .new := by
  obtain ⟨v,hv,n,q,ss,he,hsr⟩ := hs
  refine h ss ?_ sr hsr
  unfold exchange at he
  split at he
  · cases he
  split at he
  · cases he
  · rename_i d ts _ hr
    cases he
    have hm := List.mem_of_find?_eq_some hr
    exact .inl (List.mem_map.mpr ⟨_,hv.mem_iff.mp hm,rfl⟩)
  · split_ifs at he
    cases he
    exact .inr rfl

end SingBox.Tailscale

namespace SingBox
open Adapter Transport

/-- The servers that queries come to are started in every state exactly where queries come to no server at all that can be
started, for none ever is: all such queries are refused. -/
theorem servers_started_iff (acceptDefaultResolvers : Bool) (events : List Resolved.Event) (lib : Tailscale.Parsers)
    (configs : List Tailscale.Config) :
    (Run.Throughout Resolved.State.next (fun s => ∀ server, s.Selects acceptDefaultResolvers server →
        server.base.state = .started) {} events ↔
      Run.Throughout Resolved.State.next (fun s => ∀ server, ¬ s.Selects acceptDefaultResolvers server) {} events) ∧
    (Run.Throughout (Tailscale.onReconfig lib) (fun t => ∀ server, Tailscale.Selects t server →
        ∀ base, server.base = some base → base.state = .started) { acceptDefaultResolvers } configs ↔
      Run.Throughout (Tailscale.onReconfig lib) (fun t => ∀ server, Tailscale.Selects t server → server.base = none)
        { acceptDefaultResolvers } configs) ∧
    Run.Throughout Resolved.State.next (fun s => ∀ server, s.Selects acceptDefaultResolvers server →
      ∀ sent : Except GoError Bytes, server.exchange sent = .error errTransportClosed) {} events ∧
    Run.Throughout (Tailscale.onReconfig lib) (fun t => ∀ server, Tailscale.Selects t server →
      ∀ base, server.base = some base → base.beginQuery.2 = false) { acceptDefaultResolvers } configs := by
  have hl : Resolved.State.Idle {} := by
    intro id ss hsr
    cases hsr
  have hrt : Tailscale.Idle { acceptDefaultResolvers } := by
    rintro ss (hsr | rfl) server hse
    · cases hsr
    · cases hse
  have hnx : ∀ (s : Resolved.State) e, s.Idle → (s.next e).Idle := fun s e h => h.next e
  have hr : ∀ t c, Tailscale.Idle t → Tailscale.Idle (Tailscale.onReconfig lib t c) :=
    fun t c h => h.onReconfig c
  refine ⟨?_,?_,?_,?_⟩
  · refine Run.throughout_congr_of_invariant hnx (fun s h => ?_) events hl
    refine forall_congr' fun server => ⟨fun hst hs => ?_,fun hn hs => absurd hs hn⟩
    exact h.ne_of_selects hs (hst hs)
  · refine Run.throughout_congr_of_invariant hr (fun t h => ?_) configs hrt
    refine forall₂_congr fun server hs => ⟨fun hst => ?_,fun hn base hb => ?_⟩
    · refine Option.eq_none_iff_forall_ne_some.mpr fun base hb => ?_
      cases (h.new_of_selects hs base hb).symm.trans (hst base hb)
    · cases hn.symm.trans hb
  · refine Run.throughout_of_invariant hnx (fun s h server hs sent => ?_) events hl
    rw [Resolved.Server.exchange,BaseTransport.beginQuery,if_pos (h.ne_of_selects hs)]
    rfl
  · refine Run.throughout_of_invariant hr (fun t h server hs base hb => ?_) configs hrt
    rw [BaseTransport.beginQuery,if_pos]
    rw [h.new_of_selects hs base hb]
    exact fun h => by cases h

def addressParsers : Tailscale.Parsers where
  socksaddr _ := some { addr := .v4 0x01010101 }
  socksaddrHostPort _ _ := {}
  url _ := .error { text := "missing protocol scheme" }

/-- A default route of the resolved service whose server is new, or closed after an address that is none; a resolver of a
Tailscale endpoint that is new. -/
theorem selected_server_refuses :
    (∃ s, s = [Resolved.Event.setLinkDNS 1 (.ok 7) [⟨[1,1,1,1]⟩],.setLinkDefaultRoute 1 (.ok 7) true].foldl
        Resolved.State.next {} ∧
      ∃ link server, s.exchange true (s.links.entries.map Sigma.snd) (ascii "a.") = .exchange link [server] ∧
        server.base.state = .new ∧ server.exchange (.ok [0]) = .error errTransportClosed) ∧
    (∃ s, s = [Resolved.Event.setLinkDNS 1 (.ok 7) [⟨[1,1,1,1]⟩],.setLinkDefaultRoute 1 (.ok 7) true,
        .setLinkDNS 1 (.ok 7) [⟨[1]⟩]].foldl Resolved.State.next {} ∧
      ∃ link server, s.exchange true (s.links.entries.map Sigma.snd) (ascii "a.") = .exchange link [server] ∧
        server.base.state = .closed ∧ server.exchange (.ok [0]) = .error errTransportClosed) ∧
    ∃ t, t = [{ defaultResolvers := [⟨"1.1.1.1",[]⟩] }].foldl (Tailscale.onReconfig addressParsers)
        { acceptDefaultResolvers := true } ∧
      ∃ server base, Tailscale.exchange t t.routes (ascii "a.") DNS.typeA = .exchange [server] ∧
        server.base = some base ∧ base.state = .new ∧ base.beginQuery.2 = false := by
  exact ⟨⟨_,rfl,_,_,rfl,rfl,rfl⟩,⟨_,rfl,_,_,rfl,rfl,rfl⟩,_,rfl,_,_,rfl,rfl,rfl,rfl⟩

end SingBox
