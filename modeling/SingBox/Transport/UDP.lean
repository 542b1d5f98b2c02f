import SingBox.Library.Run
import SingBox.Transport.Base

/-! Queries over UDP (`dns/transport/udp.go`), with any number of `Exchange` calls and receive loops under
way. A step is a section with a lock held, or what a goroutine does between two of them. Calls are numbered
as they come, and the callback of a call has its number. `κ` stands for questions. -/
namespace SingBox.Transport
open Adapter List
open Function (update update_apply update_self)

namespace UDP

structure Message (κ : Type) where
  id : ℕ
  question : κ
  truncated : Bool
  deriving DecidableEq

/-- Where an `Exchange` is. -/
inductive Stage (κ : Type)
  | connect
  | register
  | write (queryId : ℕ)
  | await (queryId : ℕ)
  | delete (queryId : ℕ) (result : Except GoError (Message κ))
  | tcp
  | finish (result : Except GoError (Message κ))

structure Query (κ : Type) where
  caller : ℕ
  message : Message κ
  stage : Stage κ

end UDP

open UDP

/-- The transport, with the call that last registered each id, the questions of all calls, the requests on the wire with
their calls, and what the receive loops have found a callback for. -/
structure UDPTransport (κ : Type) where
  base : BaseTransport
  udpSize : ℕ
  queryId : ℕ
  callbacks : ℕ → Option ℕ
  registered : ℕ → Option ℕ
  responses : ℕ → Option (Message κ)
  asked : List κ
  queries : List (Query κ)
  sent : List (ℕ × Message κ)
  found : List (Message κ × ℕ)

namespace UDPTransport
variable {κ : Type}

def newUDP : UDPTransport κ := ⟨.newBaseTransport,2048,0,fun _ => none,fun _ => none,fun _ => none,[],[],[],[]⟩

/-- The loop of `nextAvailableQueryId`, with the id it has reached; `none` is its error. -/
def nextQueryId (callbacks : ℕ → Option ℕ) (start : ℕ) : ℕ → ℕ → Option ℕ × ℕ
  | 0, queryId => (none,queryId)
  | fuel+1, queryId =>
      let queryId := (queryId+1)%65536
      if callbacks queryId = none then (some queryId,queryId)
      else if queryId = start then (none,queryId)
      else nextQueryId callbacks start fuel queryId

/-- `nextAvailableQueryId`, which comes back to where it started after all ids. -/
def nextAvailableQueryId (t : UDPTransport κ) : Option ℕ × ℕ := nextQueryId t.callbacks t.queryId 65536 t.queryId

section
variable {cs : ℕ → Option ℕ} {s : ℕ}

/-- More rounds than there are ids left change nothing. -/
lemma nextQueryId_more (hs : s < 65536) {r m : ℕ} (hr : r+m = 65536) (hp : 0 < r) (e : ℕ) :
    nextQueryId cs s (r+e) ((s+m)%65536) = nextQueryId cs s r ((s+m)%65536) := by
  induction r generalizing m with
  | zero => omega
  | succ r ih =>
    have hn : ((s+m)%65536+1)%65536 = (s+(m+1))%65536 := by omega
    rw [Nat.succ_add,nextQueryId,nextQueryId,hn]
    split_ifs with hf hb
    · rfl
    · rfl
    · exact ih (by omega) (by omega)

/-- From `m` ids after the start, the loop finds a free id, or all the ids that are left are in use. -/
lemma nextQueryId_cases {r m : ℕ} (hr : r+m = 65536) :
    (∃ id < 65536, nextQueryId cs s r ((s+m)%65536) = (some id,id) ∧ cs id = none) ∨
    ((nextQueryId cs s r ((s+m)%65536)).1 = none ∧ ∀ k, m < k → k ≤ 65536 → cs ((s+k)%65536) ≠ none) := by
  induction r generalizing m with
  | zero => exact .inr ⟨rfl,fun k hm hk => by omega⟩
  | succ r ih =>
    have hn : ((s+m)%65536+1)%65536 = (s+(m+1))%65536 := by omega
    rw [nextQueryId,hn]
    split_ifs with hf hb
    · exact .inl ⟨_,Nat.mod_lt _ (by decide),rfl,hf⟩
    · refine .inr ⟨rfl,fun k hm hk => ?_⟩
      -- back at the start, all the ids have been tried
      have hl : k = m+1 := by omega
      rwa [hl]
    · obtain h | ⟨hn,hu⟩ := ih (by omega : r+(m+1) = 65536)
      · exact .inl h
      · refine .inr ⟨hn,fun k hm hk => ?_⟩
        obtain heq | hlt : k = m+1 ∨ m+1 < k := by omega
        · rwa [heq]
        · exact hu k hlt hk

end

/-- The search ends within one turn, finds an id that is not in use, and fails exactly where all of them are. -/
theorem nextAvailableQueryId_spec (t : UDPTransport κ) (h : t.queryId < 65536) :
    (∀ rounds ≥ 65536, nextQueryId t.callbacks t.queryId rounds t.queryId = t.nextAvailableQueryId) ∧
    (∀ id, t.nextAvailableQueryId.1 = some id → id < 65536 ∧ t.callbacks id = none) ∧
    (t.nextAvailableQueryId.1 = none ↔ ∀ id < 65536, t.callbacks id ≠ none) := by
  have hm := @nextQueryId_more t.callbacks _ h 65536 0 rfl (by decide)
  have hc := @nextQueryId_cases t.callbacks t.queryId 65536 0 rfl
  rw [Nat.add_zero,Nat.mod_eq_of_lt h] at hm hc
  unfold nextAvailableQueryId
  refine ⟨fun rounds hr => ?_,?_⟩
  · obtain ⟨e,rfl⟩ := Nat.exists_eq_add_of_le hr
    exact hm e
  obtain ⟨id,hlt,heq,hf⟩ | ⟨hn,hu⟩ := hc
  · rw [heq]
    refine ⟨fun id' h => ?_,iff_of_false (by simp) fun ha => ha id hlt hf⟩
    cases h
    exact ⟨hlt,hf⟩
  · rw [hn]
    refine ⟨by simp,iff_of_true rfl fun id hid => ?_⟩
    obtain ⟨k,hp,hle,rfl⟩ : ∃ k, 0 < k ∧ k ≤ 65536 ∧ (t.queryId+k)%65536 = id := by
      obtain hlt | hge := Nat.lt_or_ge t.queryId id
      · exact ⟨id-t.queryId,by omega,by omega,by omega⟩
      · exact ⟨id+65536-t.queryId,by omega,by omega,by omega⟩
    exact hu k hp hle

/-- The ids around the end of the counter are in use. -/
theorem nextAvailableQueryId_around_end :
    let t : UDPTransport Unit := { newUDP with
      queryId := 65534, callbacks := fun id => if id = 65535 ∨ id = 0 then some id else none }
    t.nextAvailableQueryId = (some 1,1) ∧ t.callbacks 1 = none := by
  intro t
  have hn : t.nextAvailableQueryId = (some 1,1) := by decide +kernel
  exact ⟨hn,((nextAvailableQueryId_spec t (by decide)).2.1 1 (congrArg Prod.fst hn)).2⟩

def goTo (t : UDPTransport κ) (i : ℕ) (query : Query κ) (stage : Stage κ) : UDPTransport κ :=
  { t with queries := t.queries.set i { query with stage := stage } }

/-- `Exchange` begins; a larger buffer size than before is kept. -/
def exchange (t : UDPTransport κ) (message : Message κ) (udpSize : ℕ) : UDPTransport κ :=
  { t with
    base := t.base.beginQuery.1
    udpSize := max t.udpSize udpSize
    asked := t.asked++[message.question]
    queries := t.queries++[⟨t.asked.length,message,.connect⟩] }

def register (t : UDPTransport κ) (i : ℕ) (query : Query κ) : UDPTransport κ :=
  match t.nextAvailableQueryId with
  | (none,queryId) =>
      { t with queryId := queryId }.goTo i query (.finish (.error ⟨"no available query ID",false,false⟩))
  | (some id,queryId) =>
      { t with
        queryId := queryId
        callbacks := Function.update t.callbacks id (some query.caller)
        registered := Function.update t.registered id (some query.caller) }.goTo i query (.write id)

def write (t : UDPTransport κ) (i : ℕ) (query : Query κ) (queryId : ℕ) : Option GoError → UDPTransport κ
  | some err => t.goTo i query (.delete queryId (.error err))
  | none =>
      { t with sent := t.sent++[(query.caller,{ query.message with id := queryId })] }.goTo i query (.await queryId)

def receive (t : UDPTransport κ) (datagram : Message κ) : UDPTransport κ :=
  match t.callbacks datagram.id with
  | none => t
  | some caller => { t with found := t.found++[(datagram,caller)] }

/-- A receive loop completes the callback that it has found, unless it is done. -/
def complete (t : UDPTransport κ) (j : ℕ) (datagram : Message κ) (caller : ℕ) : UDPTransport κ :=
  { t with
    found := t.found.eraseIdx j
    responses := match t.responses caller with
      | some _ => t.responses
      | none => Function.update t.responses caller (some datagram) }

/-- `exchange` returns, and its callback is deleted; a truncated response leads to another query over TCP. -/
def delete (t : UDPTransport κ) (i : ℕ) (query : Query κ) (queryId : ℕ) (result : Except GoError (Message κ)) :
    UDPTransport κ :=
  let t := { t with callbacks := Function.update t.callbacks queryId none }
  match result with
  | .error err => t.goTo i query (.finish (.error err))
  | .ok response => if response.truncated then t.goTo i query .tcp else t.goTo i query (.finish (.ok response))

def finish (t : UDPTransport κ) (i : ℕ) : UDPTransport κ :=
  { t with base := t.base.endQuery, queries := t.queries.eraseIdx i }

end UDPTransport

namespace UDP
variable {κ : Type}

inductive Event (κ : Type)
  | start
  | exchange
  | progress
  | receive (caller : ℕ) (datagram : Message κ)
  | returned (question : κ) (result : Except GoError (Message κ))
  | shutdown

/-- The server answers what it was asked: a datagram has the id and the question of the request of a call, and what it
sends over a connection of a query's own has the question of the query. -/
inductive Step : UDPTransport κ → Event κ → UDPTransport κ → Prop
  | start (t : UDPTransport κ) : Step t .start { t with base := t.base.setStarted.1 }
  | refused (t : UDPTransport κ) (message : Message κ) (h : t.base.beginQuery.2 = false) :
      Step t (.returned message.question (.error errTransportClosed)) t
  | exchange (t : UDPTransport κ) (message : Message κ) (udpSize : ℕ) (h : t.base.beginQuery.2 = true) :
      Step t .exchange (t.exchange message udpSize)
  | connected (t : UDPTransport κ) (i : ℕ) (query : Query κ) (hi : t.queries[i]? = some query)
      (hstage : query.stage = .connect) : Step t .progress (t.goTo i query .register)
  | notConnected (t : UDPTransport κ) (i : ℕ) (query : Query κ) (hi : t.queries[i]? = some query)
      (hstage : query.stage = .connect) (err : GoError) : Step t .progress (t.goTo i query (.finish (.error err)))
  | register (t : UDPTransport κ) (i : ℕ) (query : Query κ) (hi : t.queries[i]? = some query)
      (hstage : query.stage = .register) : Step t .progress (t.register i query)
  | write (t : UDPTransport κ) (i : ℕ) (query : Query κ) (hi : t.queries[i]? = some query) (queryId : ℕ)
      (hstage : query.stage = .write queryId) (err : Option GoError) : Step t .progress (t.write i query queryId err)
  | receive (t : UDPTransport κ) (caller : ℕ) (datagram request : Message κ) (hrequest : (caller,request) ∈ t.sent)
      (hid : datagram.id = request.id) (hquestion : datagram.question = request.question) :
      Step t (.receive caller datagram) (t.receive datagram)
  | complete (t : UDPTransport κ) (j : ℕ) (datagram : Message κ) (caller : ℕ)
      (hj : t.found[j]? = some (datagram,caller)) : Step t .progress (t.complete j datagram caller)
  | answered (t : UDPTransport κ) (i : ℕ) (query : Query κ) (hi : t.queries[i]? = some query) (queryId : ℕ)
      (hstage : query.stage = .await queryId) (response : Message κ)
      (hdone : t.responses query.caller = some response) :
      Step t .progress (t.goTo i query (.delete queryId (.ok { response with id := query.message.id })))
  | givesUp (t : UDPTransport κ) (i : ℕ) (query : Query κ) (hi : t.queries[i]? = some query) (queryId : ℕ)
      (hstage : query.stage = .await queryId) (err : GoError) :
      Step t .progress (t.goTo i query (.delete queryId (.error err)))
  | delete (t : UDPTransport κ) (i : ℕ) (query : Query κ) (hi : t.queries[i]? = some query) (queryId : ℕ)
      (result : Except GoError (Message κ)) (hstage : query.stage = .delete queryId result) :
      Step t .progress (t.delete i query queryId result)
  | exchangeTCP (t : UDPTransport κ) (i : ℕ) (query : Query κ) (hi : t.queries[i]? = some query)
      (hstage : query.stage = .tcp) (result : Except GoError (Message κ))
      (hanswer : ∀ response, result = .ok response → response.question = query.message.question) :
      Step t .progress (t.goTo i query (.finish result))
  | finish (t : UDPTransport κ) (i : ℕ) (query : Query κ) (hi : t.queries[i]? = some query)
      (result : Except GoError (Message κ)) (hstage : query.stage = .finish result) :
      Step t (.returned query.message.question result) (t.finish i)
  | shutdown (t : UDPTransport κ) : Step t .shutdown { t with base := t.base.shutdown.1 }

section
variable {t : UDPTransport κ}

/-- The response that an `Exchange` has for its caller. -/
def Stage.response : Stage κ → Option (Message κ)
  | .delete _ (.ok response) => some response
  | .finish (.ok response) => some response
  | _ => none

/-- A datagram comes before its id is registered again. -/
def Event.Timely (t : UDPTransport κ) : Event κ → Prop
  | .receive caller datagram => t.registered datagram.id = some caller
  | _ => True

structure Answering (t : UDPTransport κ) : Prop where
  callbacks : ∀ id caller, t.callbacks id = some caller → t.registered id = some caller
  sent : ∀ caller request, (caller,request) ∈ t.sent → t.asked[caller]? = some request.question
  responses : ∀ caller response, t.responses caller = some response → t.asked[caller]? = some response.question
  found : ∀ datagram caller, (datagram,caller) ∈ t.found → t.asked[caller]? = some datagram.question
  queries : ∀ query ∈ t.queries, t.asked[query.caller]? = some query.message.question ∧
    ∀ response, query.stage.response = some response → response.question = query.message.question

lemma Answering.plain (h : Answering t) (b : BaseTransport) (q : ℕ) : Answering { t with base := b, queryId := q } :=
  ⟨h.callbacks,h.sent,h.responses,h.found,h.queries⟩

lemma Answering.goTo (h : Answering t) {i : ℕ} {q : Query κ} (hi : t.queries[i]? = some q) {s : Stage κ}
    (hs : ∀ rp, s.response = some rp → rp.question = q.message.question) : Answering (t.goTo i q s) := by
  refine ⟨h.callbacks,h.sent,h.responses,h.found,fun other hm => ?_⟩
  rcases mem_or_eq_of_mem_set hm with ho | rfl
  · exact h.queries other ho
  · exact ⟨(h.queries q (mem_of_getElem? hi)).1,hs⟩

lemma Answering.exchange (h : Answering t) (ms : Message κ) (us : ℕ) : Answering (t.exchange ms us) := by
  have hk : ∀ (c : ℕ) (q : κ), t.asked[c]? = some q → (t.asked++[ms.question])[c]? = some q := by
    intro c q ha
    obtain ⟨hlt,_⟩ := List.getElem?_eq_some_iff.mp ha
    rwa [List.getElem?_append_left hlt]
  refine ⟨h.callbacks,fun c r hm => hk _ _ (h.sent c r hm),fun c rp hr => hk _ _ (h.responses c rp hr),
    fun dt c hm => hk _ _ (h.found dt c hm),fun qu hm => ?_⟩
  rcases mem_append.mp hm with ho | hnw
  · exact ⟨hk _ _ (h.queries qu ho).1,(h.queries qu ho).2⟩
  · obtain rfl := mem_singleton.mp hnw
    exact ⟨List.getElem?_concat_length,by rintro _ ⟨⟩⟩

variable {d r : Message κ} {rs : Except GoError (Message κ)} {t' : UDPTransport κ}

lemma Answering.complete (h : Answering t) {j c : ℕ}
    (hj : t.found[j]? = some (d,c)) : Answering (t.complete j d c) := by
  have hm := mem_of_getElem? hj
  refine ⟨h.callbacks,h.sent,fun w r hr => ?_,fun o w hf => h.found o w (mem_of_mem_eraseIdx hf),h.queries⟩
  dsimp only [UDPTransport.complete] at hr
  cases hd : t.responses c with
  | some =>
    simp only [hd] at hr
    exact h.responses w r hr
  | none =>
    simp only [hd,update_apply] at hr
    split_ifs at hr with hs
    · cases hr
      exact hs ▸ h.found d c hm
    · exact h.responses w r hr

/-- The callback under the id of a timely datagram is the one of its own call. -/
lemma Answering.receive (h : Answering t) {w : ℕ} (ht : (Event.receive w d).Timely t) (hs : (w,r) ∈ t.sent)
    (hq : d.question = r.question) : Answering (t.receive d) := by
  unfold UDPTransport.receive
  cases hc : t.callbacks d.id with
  | none => exact h
  | some c =>
    refine ⟨h.callbacks,h.sent,h.responses,fun o v hfn => ?_,h.queries⟩
    rcases mem_append.mp hfn with ho | hnw
    · exact h.found o v ho
    · cases mem_singleton.mp hnw
      obtain rfl : c = w := Option.some.inj ((h.callbacks _ _ hc).symm.trans ht)
      rw [hq]
      exact h.sent c r hs

variable {i : ℕ} {qr : Query κ}

section
variable (h : Answering t) (hi : t.queries[i]? = some qr)
include h hi

lemma Answering.register : Answering (t.register i qr) := by
  unfold UDPTransport.register
  obtain ⟨id,q⟩ := t.nextAvailableQueryId
  cases id with
  | none => exact (h.plain t.base q).goTo hi (by rintro _ ⟨⟩)
  | some id =>
    have hr : Answering { t with
        queryId := q
        callbacks := update t.callbacks id (some qr.caller)
        registered := update t.registered id (some qr.caller) } := by
      refine ⟨fun id' c hc => ?_,h.sent,h.responses,h.found,h.queries⟩
      dsimp only at hc ⊢
      rw [update_apply] at hc ⊢
      split_ifs at hc ⊢ with hs
      · exact hc
      · exact h.callbacks id' c hc
    exact hr.goTo hi (by rintro _ ⟨⟩)

lemma Answering.write (q : ℕ) (e : Option GoError) : Answering (t.write i qr q e) := by
  cases e with
  | some => exact h.goTo hi (by rintro _ ⟨⟩)
  | none =>
    have hs : Answering { t with sent := t.sent++[(qr.caller,{ qr.message with id := q })] } := by
      refine ⟨h.callbacks,fun c r hm => ?_,h.responses,h.found,h.queries⟩
      rcases mem_append.mp hm with ho | hn
      · exact h.sent c r ho
      · cases mem_singleton.mp hn
        exact (h.queries qr (mem_of_getElem? hi)).1
    exact hs.goTo hi (by rintro _ ⟨⟩)

lemma Answering.answered (q : ℕ) (hd : t.responses qr.caller = some r) :
    Answering (t.goTo i qr (.delete q (.ok { r with id := qr.message.id }))) := by
  refine h.goTo hi fun rp' hr => ?_
  cases hr
  have ha := (h.queries qr (mem_of_getElem? hi)).1
  exact Option.some.inj ((h.responses _ _ hd).symm.trans ha)

lemma Answering.delete {q : ℕ} (hs : qr.stage = .delete q rs) : Answering (t.delete i qr q rs) := by
  have hr := (h.queries qr (mem_of_getElem? hi)).2
  rw [hs] at hr
  have hd : Answering { t with callbacks := update t.callbacks q none } := by
    refine ⟨fun id c hc => ?_,h.sent,h.responses,h.found,h.queries⟩
    dsimp only at hc
    rw [update_apply] at hc
    split_ifs at hc
    exact h.callbacks id c hc
  unfold UDPTransport.delete
  cases rs with
  | error => exact hd.goTo hi (by rintro _ ⟨⟩)
  | ok =>
    dsimp only
    split_ifs
    · exact hd.goTo hi (by rintro _ ⟨⟩)
    · exact hd.goTo hi hr

lemma Answering.exchangeTCP (ha : ∀ r, rs = .ok r → r.question = qr.message.question) :
    Answering (t.goTo i qr (.finish rs)) := by
  refine h.goTo hi fun r hr => ?_
  cases rs with
  | error => cases hr
  | ok =>
    cases hr
    exact ha _ rfl

end

lemma Answering.finish (h : Answering t) (i : ℕ) : Answering (t.finish i) :=
  ⟨h.callbacks,h.sent,h.responses,h.found,fun o hm => h.queries o (mem_of_mem_eraseIdx hm)⟩

lemma Answering.step (h : Answering t) {e : Event κ} (ht : e.Timely t) (hst : Step t e t') : Answering t' := by
  cases hst with
  | start | shutdown => exact h.plain _ t.queryId
  | refused => exact h
  | exchange ms us => exact h.exchange ms us
  | connected i qr hi _ | notConnected i qr hi _ er | givesUp i qr hi q _ er =>
    exact h.goTo hi (by rintro _ ⟨⟩)
  | register i qr hi => exact h.register hi
  | write i qr hi q _ er => exact h.write hi q er
  | receive w d r hs _ hq => exact h.receive ht hs hq
  | complete j d c hj => exact h.complete hj
  | answered i qr hi q _ r hd => exact h.answered hi q hd
  | delete i qr hi q rs hs => exact h.delete hi hs
  | exchangeTCP i qr hi _ rs ha => exact h.exchangeTCP hi ha
  | finish i => exact h.finish i

lemma Answering.returned (h : Answering t) {q : κ} (hst : Step t (.returned q (.ok r)) t') : r.question = q := by
  cases hst with
  | finish i qr hi rs hs =>
    refine (h.queries qr (mem_of_getElem? hi)).2 r ?_
    rw [hs]
    rfl

end

section

def idle (queryId : ℕ) (registered : ℕ → Option ℕ) (asked : List κ) (sent : List (ℕ × Message κ)) : UDPTransport κ :=
  ⟨⟨.started,0,false⟩,2048,queryId,fun _ => none,registered,fun _ => none,asked,[],sent,[]⟩

def asking (queryId : ℕ) (callbacks registered : ℕ → Option ℕ) (asked : List κ) (message : Message κ) (stage : Stage κ)
    (sent : List (ℕ × Message κ)) : UDPTransport κ :=
  ⟨⟨.started,1,false⟩,2048,queryId,callbacks,registered,fun _ => none,asked++[message.question],
    [⟨asked.length,message,stage⟩],sent,[]⟩

def awaiting (id : ℕ) (registered : ℕ → Option ℕ) (asked : List κ) (message : Message κ)
    (sent : List (ℕ × Message κ)) : UDPTransport κ :=
  asking id (Function.update (fun _ => none) id (some asked.length)) (Function.update registered id (some asked.length))
    asked message (.await id) (sent++[(asked.length,{ message with id := id })])

variable {t : UDPTransport κ}

lemma nextAvailableQueryId_of_free (h : t.callbacks ((t.queryId+1)%65536) = none) :
    t.nextAvailableQueryId = (some ((t.queryId+1)%65536),(t.queryId+1)%65536) := by
  change UDPTransport.nextQueryId t.callbacks t.queryId (65535+1) t.queryId = _
  rw [UDPTransport.nextQueryId,if_pos h]

variable (qi : ℕ) (rg : ℕ → Option ℕ) (a : List κ) (sn : List (ℕ × Message κ)) (m : Message κ)

lemma asks : Run Step (idle qi rg a sn) [.exchange,.progress,.progress,.progress]
    (awaiting ((qi+1)%65536) rg a m sn) := by
  have he : Step (idle qi rg a sn) .exchange (asking qi (fun _ => none) rg a m .connect sn) := .exchange _ m 0 rfl
  have hc : Step (asking qi (fun _ => none) rg a m .connect sn) .progress
      (asking qi (fun _ => none) rg a m .register sn) :=
    .connected _ 0 ⟨a.length,m,.connect⟩ rfl rfl
  have hr := Step.register (asking qi (fun _ => none) rg a m .register sn) 0 _ rfl rfl
  rw [UDPTransport.register,nextAvailableQueryId_of_free rfl] at hr
  exact .cons he (.cons hc (.cons hr (.cons (.write _ 0 _ rfl _ rfl none) .nil)))

lemma cancels (id : ℕ) (e : GoError) :
    Run Step (awaiting id rg a m sn) [.progress,.progress,.returned m.question (.error e)]
      (idle id (update rg id (some a.length)) (a++[m.question]) (sn++[(a.length,{ m with id := id })])) := by
  have hg := Step.givesUp (awaiting id rg a m sn) 0 ⟨a.length,m,.await id⟩ rfl id rfl e
  have hd := Step.delete ((awaiting id rg a m sn).goTo 0 ⟨a.length,m,.await id⟩ (.delete id (.error e))) 0 _ rfl id _ rfl
  have hc : update (update (fun _ => none) id (some a.length)) id none = fun _ => none := by
    rw [Function.update_idem]
    exact Function.update_eq_self id _
  simp only [UDPTransport.delete,UDPTransport.goTo,awaiting,asking,hc] at hd
  exact .cons hg (.cons hd (.cons (.finish _ 0 ⟨a.length,m,.finish (.error e)⟩ rfl (.error e) rfl) .nil))

lemma receives {id w : ℕ} {q : κ} {tr : Bool} (hr : (w,⟨id,q,tr⟩) ∈ sn++[(a.length,{ m with id := id })]) :
    Step (awaiting id rg a m sn) (.receive w ⟨id,q,false⟩)
      { awaiting id rg a m sn with found := [(⟨id,q,false⟩,a.length)] } := by
  have hs := Step.receive (awaiting id rg a m sn) w ⟨id,q,false⟩ _ hr rfl rfl
  have hc : (awaiting id rg a m sn).callbacks id = some a.length := by
    simp [awaiting,asking]
  rw [UDPTransport.receive,hc] at hs
  exact hs

lemma takes_answer (id : ℕ) (q : κ) : ∃ t, Run Step
      { awaiting id rg a m sn with found := [(⟨id,q,false⟩,a.length)] }
      [.progress,.progress,.progress,.returned m.question (.ok ⟨m.id,q,false⟩)] t := by
  have hc := Run.nil.snoc (Step.complete
    { awaiting id rg a m sn with found := [(⟨id,q,false⟩,a.length)] } 0 _ a.length rfl)
  have ha := hc.snoc (.answered _ 0 ⟨a.length,m,.await id⟩ rfl id rfl ⟨id,q,false⟩ (update_self a.length _ _))
  have hd := ha.snoc (.delete _ 0 _ rfl id (.ok ⟨m.id,q,false⟩) rfl)
  exact ⟨_,hd.snoc (.finish _ 0 ⟨a.length,m,.finish (.ok ⟨m.id,q,false⟩)⟩ rfl (.ok ⟨m.id,q,false⟩) rfl)⟩

lemma exists_cancelled (m : Message κ) (n : ℕ) (hlt : qi < 65536) : ∃ history rg' ak' s',
    Run Step (idle qi rg a sn) history (idle ((qi+n)%65536) rg' ak' s') ∧ ∀ r ∈ sn, r ∈ s' := by
  induction n with
  | zero =>
    refine ⟨[],rg,a,sn,?_,fun _ h => h⟩
    rw [Nat.add_zero,Nat.mod_eq_of_lt hlt]
    exact .nil
  | succ n ih =>
    obtain ⟨history,rg',ak',s',hr,hk⟩ := ih
    have hn : ((qi+n)%65536+1)%65536 = (qi+(n+1))%65536 := by omega
    have ha := asks ((qi+n)%65536) rg' ak' s' m
    rw [hn] at ha
    refine ⟨_,_,_,_,(hr.append ha).append (cancels rg' ak' s' m _ ⟨"context canceled",false,false⟩),?_⟩
    intro r hm
    exact mem_append_left _ (hk r hm)

lemma timely_of_run {s : UDPTransport κ} {history : List (Event κ)} (h : Run Step s history t)
    (hn : ∀ w dt, .receive w dt ∉ history) : Run (fun t e t' => e.Timely t ∧ Step t e t') s history t := by
  induction h with
  | nil => exact .nil
  | @snoc history st n e _ hs ih =>
    refine (ih fun w dt hm => hn w dt (mem_append_left _ hm)).snoc ⟨?_,hs⟩
    cases e with
    | receive w dt => exact absurd (mem_append_right _ (mem_singleton_self _)) (hn w dt)
    | _ => trivial

end

/-- In every interleaving, and for every duplication and order of what the server has sent: if each datagram comes
before another query registers the id of its own, then every response that is returned answers the question of its
caller. -/
theorem responses_answer_callers {t : UDPTransport κ} {history : List (Event κ)}
    (h : Run (fun t event t' => event.Timely t ∧ Step t event t') UDPTransport.newUDP history t) :
    ∀ question response, .returned question (.ok response) ∈ history → response.question = question := by
  have hn : Answering (UDPTransport.newUDP : UDPTransport κ) := by
    refine ⟨fun _ _ hc => ?_,fun _ _ hm => ?_,fun _ _ hr => ?_,fun _ _ hm => ?_,fun _ hm => ?_⟩
    · cases hc
    · cases hm
    · cases hr
    all_goals cases hm
  have hl := h.labels (P := fun event => ∀ question response, event = .returned question (.ok response) →
    response.question = question) hn ?_
  · exact fun question response hm => hl _ hm question response rfl
  · rintro s event n ha ⟨ht,hs⟩
    refine ⟨ha.step ht hs,?_⟩
    rintro question response rfl
    exact ha.returned hs

/-- A query is given up, and the next one is answered, with the late answer to the first before it. -/
theorem responses_answer_second_caller :
    ∃ t : UDPTransport Bool, Run (fun t event t' => event.Timely t ∧ Step t event t') .newUDP
        [.start,.exchange,.progress,.progress,.progress,.progress,.progress,
          .returned false (.error ⟨"context canceled",false,false⟩),.exchange,.progress,.progress,.progress,
          .receive 0 ⟨1,false,false⟩,.receive 1 ⟨2,true,false⟩,.progress,.progress,.progress,
          .returned true (.ok ⟨7,true,false⟩)] t ∧ (⟨7,true,false⟩ : Message Bool).question = true := by
  have hg : Run Step .newUDP _ _ := .cons (.start _) ((asks 0 _ [] [] (⟨0,false,false⟩ : Message Bool)).append
    (cancels _ [] [] _ 1 ⟨"context canceled",false,false⟩))
  let x := awaiting 2 (update (fun _ => none) 1 (some 0)) [false] (⟨7,true,false⟩ : Message Bool) [(0,⟨1,false,false⟩)]
  have ha : Run Step .newUDP _ x := hg.append (asks 1 _ _ _ _)
  obtain ⟨t,ht⟩ := takes_answer (update (fun _ => none) 1 (some 0)) [false] [(0,⟨1,false,false⟩)]
    (⟨7,true,false⟩ : Message Bool) 2 true
  have hl : Event.Timely x (.receive 0 ⟨1,false,false⟩) ∧ Step x (.receive 0 ⟨1,false,false⟩) x :=
    ⟨rfl,.receive _ 0 ⟨1,false,false⟩ ⟨1,false,false⟩ mem_cons_self rfl rfl⟩
  have hr : Event.Timely x (.receive 1 ⟨2,true,false⟩) ∧ Step x (.receive 1 ⟨2,true,false⟩) _ :=
    ⟨rfl,receives _ _ _ _ (mem_append_right _ (mem_singleton_self _))⟩
  have hrn := (timely_of_run ha (by simp)).append (.cons hl (.cons hr (timely_of_run ht (by simp))))
  exact ⟨t,hrn,responses_answer_callers hrn true ⟨7,true,false⟩ (by simp)⟩

/-- A query is sent and given up, and so are 65535 others; then the next query has the id of the first
one, and takes its late answer, to another question. -/
theorem late_answer_to_other_caller :
    ∃ (history : List (Event Bool)) (t : UDPTransport Bool), Run Step .newUDP history t ∧
      .returned true (.ok ⟨0,false,false⟩) ∈ history := by
  let f : Message Bool := ⟨0,false,false⟩
  let s : Message Bool := ⟨0,true,false⟩
  have hf : Run Step .newUDP _ _ := .cons (.start _) ((asks 0 _ [] [] f).append
    (cancels _ [] [] f 1 ⟨"context canceled",false,false⟩))
  obtain ⟨os,rg,ak,st,ho,hsn⟩ :=
    exists_cancelled 1 (update (fun _ => none) 1 (some 0)) [false] [(0,⟨1,false,false⟩)] s 65535
    (by decide)
  obtain ⟨t,ht⟩ := takes_answer rg ak st s 1 false
  have hr := receives rg ak st s (mem_append_left _ (hsn _ (mem_singleton_self _)))
  have hrn := ((hf.append ho).append (asks 0 rg ak st s)).append (.cons hr ht)
  exact ⟨_,t,hrn,mem_append_right _ (by simp [s])⟩

end UDP

end SingBox.Transport
