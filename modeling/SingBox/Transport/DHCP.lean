import SingBox.Adapter.InboundContext
import SingBox.Library.Run

/-! DNS servers from DHCP (`dns/transport/dhcp/dhcp.go`): when the transport asks again. Times are
nanoseconds; a time stamp that is the zero value is `none`. -/
namespace SingBox.DHCP
open Adapter

/-- A domain name, as the bytes of a Go string. -/
abbrev Name := List UInt8

structure Transport where
  clock : ℕ
  updatedAt : Option ℕ
  lastError : Option GoError
  servers : List Socksaddr
  search : List Name

/-- `NewTransport`. -/
def newTransport (clock : ℕ) : Transport := ⟨clock,none,none,[],[]⟩

def dhcpTTL : ℕ := 3600*10^9

/-- What `recreateServers` reads of an offer. -/
structure Offer where
  domainSearch : List Name
  domainName : Name
  dns : List Addr

/-- The end of `fetchServers0`: no offer, or an offer that was taken, perhaps as the time ran out. -/
inductive Reply
  | failed (err : GoError)
  | offered (offer : Offer) (late : Option GoError)

/-- What `updateServers` meets: no interface, or a request that takes its time. -/
inductive Attempt
  | noInterface (err : GoError)
  | request (reply : Reply) (duration : ℕ)

structure Request where
  endedAt : ℕ
  err : Option GoError
  deriving DecidableEq

def Reply.err : Reply → Option GoError
  | .failed err => some err
  | .offered _ late => late

namespace Transport

def recreateServers (t : Transport) (offer : Offer) : Transport :=
  let search :=
    if 0 < offer.domainSearch.length then offer.domainSearch
    else if offer.domainName ≠ [] then [offer.domainName]
    else t.search
  { t with search := search, servers := offer.dns.map fun address => ⟨address,53,""⟩ }

def fetchServers0 (t : Transport) : Reply → Transport
  | .failed _ => t
  | .offered offer _ => t.recreateServers offer

/-- `updateServers`, with the request that it makes. -/
def updateServers (t : Transport) : Attempt → Transport × Option GoError × Option Request
  | .noInterface err => (t,some (err.cause "dhcp: prepare interface"),none)
  | .request reply duration =>
      let t := t.fetchServers0 reply
      let now := t.clock+duration
      let t := { t with clock := now, updatedAt := some now }
      match reply.err with
      | some err => ({ t with lastError := some err },some err,some ⟨now,some err⟩)
      | none =>
          if t.servers.length = 0 then
            let err : GoError := ⟨"dhcp: empty DNS servers response",false,false⟩
            ({ t with lastError := some err },some err,some ⟨now,some err⟩)
          else ({ t with lastError := none },none,some ⟨now,none⟩)

/-- `time.Since(updatedAt) < C.DHCPTTL`. -/
def recent (t : Transport) : Bool :=
  match t.updatedAt with
  | none => false
  | some updatedAt => t.clock-updatedAt < dhcpTTL

/-- What `fetch` leaves and returns, with the request that it makes. -/
structure Fetched where
  transport : Transport
  servers : List Socksaddr
  err : Option GoError
  request : Option Request

/-- `fetch`. The second look at the time stamp, with the lock held, finds what the first one found. -/
def fetch (t : Transport) (attempt : Attempt) : Fetched :=
  match t.lastError with
  | some lastError => ⟨t,[],some lastError,none⟩
  | none =>
      if t.recent then ⟨t,t.servers,none,none⟩
      else
        match t.updateServers attempt with
        | (t',some err,request) => ⟨t',t.servers,some err,request⟩
        | (t',none,request) => ⟨t',t'.servers,none,request⟩

def reset (t : Transport) : Transport := { t with updatedAt := none, servers := [] }

end Transport

/-- What happens to the transport, with the requests that are made. -/
inductive Event
  | advance (elapsed : ℕ)
  | fetch (request : Option Request)
  | interfaceUpdated (request : Option Request)
  | reset

inductive Step : Transport → Event → Transport → Prop
  | advance (t : Transport) (elapsed : ℕ) : Step t (.advance elapsed) { t with clock := t.clock+elapsed }
  | fetch (t : Transport) (attempt : Attempt) :
      Step t (.fetch (t.fetch attempt).request) (t.fetch attempt).transport
  | interfaceUpdated (t : Transport) (attempt : Attempt) :
      Step t (.interfaceUpdated (t.updateServers attempt).2.2) (t.updateServers attempt).1
  | reset (t : Transport) : Step t .reset t.reset

/-- The last request of a history, and whether there was a reset after it. -/
structure Record where
  request : Option Request
  resetAfter : Bool

namespace Record

def made (record : Record) : Option Request → Record
  | none => record
  | some request => ⟨some request,false⟩

def next (record : Record) : Event → Record
  | .advance _ => record
  | .fetch request => record.made request
  | .interfaceUpdated request => record.made request
  | .reset => { record with resetAfter := true }

def of (history : List Event) : Record := history.foldl next ⟨none,false⟩

/-- There is no request yet, there was a reset after the last one, or the interval has passed. -/
def Due (record : Record) (now : ℕ) : Prop :=
  ∀ request, record.request = some request → record.resetAfter = true ∨ request.endedAt+dhcpTTL ≤ now

end Record

section
variable (t : Transport)

lemma updateServers_cases (a : Attempt) : ((t.updateServers a).1 = t ∧ (t.updateServers a).2.2 = none) ∨
    ∃ r, (t.updateServers a).2 = (r.err,some r) ∧ t.clock ≤ r.endedAt ∧ (t.updateServers a).1.clock = r.endedAt ∧
      (t.updateServers a).1.updatedAt = some r.endedAt ∧ (t.updateServers a).1.lastError = r.err := by
  cases a with
  | noInterface => exact .inl ⟨rfl,rfl⟩
  | request rp d =>
    have hc : (t.fetchServers0 rp).clock = t.clock := by cases rp <;> rfl
    have hle : t.clock ≤ (t.fetchServers0 rp).clock+d := by omega
    unfold Transport.updateServers
    dsimp only
    cases rp.err with
    | some e => exact .inr ⟨⟨_,some e⟩,rfl,hle,rfl,rfl,rfl⟩
    | none =>
      split_ifs
      · exact .inr ⟨⟨_,some _⟩,rfl,hle,rfl,rfl,rfl⟩
      · exact .inr ⟨⟨_,none⟩,rfl,hle,rfl,rfl,rfl⟩

lemma isSome_request_updateServers (r : Reply) (d : ℕ) : (t.updateServers (.request r d)).2.2.isSome = true := by
  unfold Transport.updateServers
  dsimp only
  cases r.err with
  | some => rfl
  | none =>
    split_ifs <;> rfl

lemma fetch_cases (a : Attempt) : ((t.fetch a).transport = t ∧ (t.fetch a).request = none ∧
      (t.lastError ≠ none ∨ t.recent = true)) ∨ ((t.fetch a).transport = (t.updateServers a).1 ∧
      (t.fetch a).request = (t.updateServers a).2.2 ∧ t.lastError = none ∧ t.recent = false) := by
  unfold Transport.fetch
  cases hl : t.lastError with
  | some => exact .inl ⟨rfl,rfl,.inl (by simp)⟩
  | none =>
    cases hr : t.recent with
    | true => exact .inl ⟨rfl,rfl,.inr rfl⟩
    | false =>
      obtain ⟨t',e,r⟩ := t.updateServers a
      cases e with
      | none | some e => exact .inr ⟨rfl,rfl,rfl,rfl⟩

end

/-- The transport remembers the last request of the record: its error, and its end unless there was a
reset after it. -/
structure Remembers (record : Record) (t : Transport) : Prop where
  lastError : t.lastError = record.request.bind Request.err
  updatedAt : t.updatedAt = if record.resetAfter then none else record.request.map Request.endedAt
  ended : ∀ request, record.request = some request → request.endedAt ≤ t.clock

variable {rc : Record} {t : Transport}

lemma Remembers.updateServers (h : Remembers rc t) (a : Attempt) :
    Remembers (rc.made (t.updateServers a).2.2) (t.updateServers a).1 := by
  obtain ⟨hsm,hn⟩ | ⟨r,hr,_,hc,hs,he⟩ := updateServers_cases t a
  · rwa [hsm,hn]
  · rw [hr]
    refine ⟨he,hs,fun l hl => ?_⟩
    cases hl
    exact hc.ge

lemma Remembers.step (h : Remembers rc t) {e : Event} {t' : Transport} (hst : Step t e t') :
    Remembers (rc.next e) t' := by
  cases hst with
  | advance =>
    exact ⟨h.lastError,h.updatedAt,fun r hr => (h.ended r hr).trans (Nat.le_add_right _ _)⟩
  | reset => exact ⟨h.lastError,rfl,h.ended⟩
  | interfaceUpdated a => exact h.updateServers a
  | fetch a =>
    obtain ⟨hs,hn,_⟩ | ⟨hs,hr,_⟩ := fetch_cases t a
    · rw [hs,hn]
      exact h
    · rw [hs,hr]
      exact h.updateServers a

lemma remembers_of_run {c : ℕ} {history : List Event} (h : Run Step (newTransport c) history t) :
    Remembers (Record.of history) t := by
  refine h.invariant (I := fun history t => Remembers (Record.of history) t) ⟨rfl,rfl,fun _ h => by cases h⟩ ?_
  intro history s e n ih hs
  rw [Record.of,List.foldl_append]
  exact ih.step hs

lemma Remembers.recent_iff (h : Remembers rc t) : t.recent = false ↔ rc.Due t.clock := by
  unfold Transport.recent Record.Due
  rw [h.updatedAt]
  cases hr : rc.request with
  | none => simp
  | some r =>
    have he := h.ended r hr
    cases rc.resetAfter with
    | true => simp
    | false =>
      simp only [Bool.false_eq_true,↓reduceIte,Option.map_some,decide_eq_false_iff_not,not_lt,Option.some.injEq,
        false_or,forall_eq']
      omega

lemma Remembers.fetch_iff (h : Remembers rc t) (r : Reply) (d : ℕ) :
    (t.fetch (.request r d)).request.isSome = true ↔ t.lastError = none ∧ rc.Due t.clock := by
  rw [← h.recent_iff]
  obtain ⟨_,hn,hr⟩ | ⟨_,hrq,hl,hrc⟩ := fetch_cases t (.request r d)
  · rw [hn]
    constructor
    · intro hs
      cases hs
    · rintro ⟨hl,hrc⟩
      rcases hr with hr | hr
      · exact absurd hl hr
      · cases hrc.symm.trans hr
  · rw [hrq]
    exact ⟨fun _ => ⟨hl,hrc⟩,fun _ => isSome_request_updateServers t r d⟩

/-- In every state that a run leads to, the remembered error is that of the last request, and the next
fetch makes a request whenever one is due exactly if it is not due with an error remembered. -/
theorem fetch_retries_iff {clock : ℕ} {history : List Event} (h : Run Step (newTransport clock) history t)
    (reply : Reply) (duration : ℕ) : t.lastError = (Record.of history).request.bind Request.err ∧
    (((Record.of history).Due t.clock → (t.fetch (.request reply duration)).request.isSome = true) ↔
      ((Record.of history).Due t.clock → t.lastError = none)) := by
  have hr := remembers_of_run h
  refine ⟨hr.lastError,?_⟩
  rw [hr.fetch_iff]
  constructor
  · intro hm hd
    exact (hm hd).1
  · intro hn hd
    exact ⟨hn hd,hd⟩

/-- After a request that found a server, there is another one an hour later. -/
theorem fetch_retries_after_hour : ∃ t, Run Step (newTransport 0) [.fetch (some ⟨5,none⟩),.advance dhcpTTL] t ∧
      (t.fetch (.request (.failed ⟨"timeout",false,true⟩) 7)).request.isSome = true := by
  let o : Offer := ⟨[],[],[.v4 0x0a000001#32]⟩
  have hr : Run Step (newTransport 0) [.fetch (some ⟨5,none⟩),.advance dhcpTTL] _ :=
    .cons (.fetch _ (.request (.offered o none) 5)) (.cons (.advance _ _) .nil)
  exact ⟨_,hr,(fetch_retries_iff hr _ _).2.mpr (fun _ => rfl) fun request hrq => by
    cases hrq
    exact .inr (by decide)⟩

/-- After a request that failed, a fetch returns its error, though there was a reset and two hours have
passed. -/
theorem failed_request_stays : ∃ t, Run Step (newTransport 0)
        [.fetch (some ⟨5,some ⟨"timeout",false,true⟩⟩),.reset,.advance (2*dhcpTTL)] t ∧
      ∀ attempt, (t.fetch attempt).request = none ∧ (t.fetch attempt).err = some ⟨"timeout",false,true⟩ :=
  ⟨_,.cons (.fetch _ (.request (.failed ⟨"timeout",false,true⟩) 5)) (.cons (.reset _) (.cons (.advance _ _) .nil)),
    fun _ => ⟨rfl,rfl⟩⟩

end SingBox.DHCP
