import SingBox.Library.Run
import SingBox.Library.Threads
import SingBox.Transport.Base

/-! The connection pool of the DNS-over-TLS transport (`dns/transport/tls.go`), with any number of
`Exchange` and `Close` calls under way. A step is what a call does between two points where others can
come in: a section with the lock held, or one use of the network. Connections are numbered as they are
dialed. -/
namespace SingBox.Transport
open Adapter List

namespace TLS

/-- Where an `Exchange` is; `pooled` says that its connection came from the pool. -/
inductive Stage (μ : Type)
  | pop
  | write (conn : ℕ) (pooled : Bool)
  | read (conn : ℕ) (pooled : Bool)
  | giveBack (conn : ℕ) (response : μ)
  | discard (conn : ℕ) (response : μ)
  | dial
  | finish (result : Except GoError μ)

/-- The connection that an `Exchange` uses. -/
def Stage.conn {μ : Type} : Stage μ → Option ℕ
  | .write conn _ => some conn
  | .read conn _ => some conn
  | .giveBack conn _ => some conn
  | .discard conn _ => some conn
  | _ => none

/-- Where a `Close` is. -/
inductive CloseStage
  | drain
  | shutdown
  | wait
  deriving DecidableEq

end TLS

open TLS

structure TLSTransport (μ : Type) where
  base : BaseTransport
  connections : List ℕ
  dialed : ℕ
  closed : List ℕ
  exchanges : List (Stage μ)
  closers : List CloseStage

namespace TLSTransport
variable {μ : Type}

def newTLS : TLSTransport μ := ⟨.newBaseTransport,[],0,[],[],[]⟩

def goTo (t : TLSTransport μ) (i : ℕ) (stage : Stage μ) : TLSTransport μ :=
  { t with exchanges := t.exchanges.set i stage }

def closeConn (t : TLSTransport μ) (conn : ℕ) : TLSTransport μ := { t with closed := conn::t.closed }

/-- Where an `Exchange` goes on when its connection fails. -/
def afterFailure (pooled : Bool) (err : GoError) : Stage μ := if pooled then .dial else .finish (.error err)

/-- The next step of an `Exchange`; `reply` is what comes of the dial, the write or the read, of which
only the read has a response. -/
def exchangeStep (t : TLSTransport μ) (i : ℕ) (reply : Except GoError μ) : Stage μ → TLSTransport μ
  | .pop =>
      match t.connections with
      | [] => t.goTo i .dial
      | conn :: rest => { t with connections := rest }.goTo i (.write conn true)
  | .write conn pooled =>
      match reply with
      | .error err => (t.closeConn conn).goTo i (afterFailure pooled (err.cause "write request"))
      | .ok _ => t.goTo i (.read conn pooled)
  | .read conn pooled =>
      match reply with
      | .error err => (t.closeConn conn).goTo i (afterFailure pooled (err.cause "read response"))
      | .ok response => t.goTo i (.giveBack conn response)
  | .giveBack conn response =>
      if t.base.state.isClosing then t.goTo i (.discard conn response)
      else { t with connections := t.connections++[conn] }.goTo i (.finish (.ok response))
  | .discard conn response => (t.closeConn conn).goTo i (.finish (.ok response))
  | .dial =>
      match reply with
      | .error err => t.goTo i (.finish (.error (err.cause "dial TLS connection")))
      | .ok _ => { t with dialed := t.dialed+1 }.goTo i (.write t.dialed false)
  | .finish _ => { t with base := t.base.endQuery, exchanges := t.exchanges.eraseIdx i }

/-- `Reset`, and the first section of `Close`. -/
def reset (t : TLSTransport μ) : TLSTransport μ := { t with closed := t.connections++t.closed, connections := [] }

/-- The next step of a `Close`, and whether it returns. -/
def closeStep (t : TLSTransport μ) (i : ℕ) : CloseStage → TLSTransport μ × Bool
  | .drain => ({ t.reset with closers := t.closers.set i .shutdown },false)
  | .shutdown =>
      match t.base.shutdown with
      | (base,true) => ({ t with base := base, closers := t.closers.set i .wait },false)
      | (base,false) => ({ t with base := base, closers := t.closers.eraseIdx i },true)
  | .wait => ({ t with base := t.base.shutdownWaited, closers := t.closers.eraseIdx i },true)

end TLSTransport

namespace TLS
variable {μ : Type}

inductive Event
  | start
  | exchange
  | exchangeStep (i : ℕ)
  | reset
  | close
  | closeStep (i : ℕ) (returned : Bool)

inductive Step : TLSTransport μ → Event → TLSTransport μ → Prop
  | start (t : TLSTransport μ) : Step t .start { t with base := t.base.setStarted.1 }
  | refused (t : TLSTransport μ) (h : t.base.beginQuery.2 = false) : Step t .exchange t
  | exchange (t : TLSTransport μ) (h : t.base.beginQuery.2 = true) :
      Step t .exchange { t with base := t.base.beginQuery.1, exchanges := t.exchanges++[.pop] }
  | exchangeStep (t : TLSTransport μ) (i : ℕ) (stage : Stage μ) (h : t.exchanges[i]? = some stage)
      (reply : Except GoError μ) : Step t (.exchangeStep i) (t.exchangeStep i reply stage)
  | reset (t : TLSTransport μ) : Step t .reset t.reset
  | close (t : TLSTransport μ) : Step t .close { t with closers := t.closers++[.drain] }
  | closeStep (t : TLSTransport μ) (i : ℕ) (stage : CloseStage) (h : t.closers[i]? = some stage) :
      Step t (.closeStep i (t.closeStep i stage).2) (t.closeStep i stage).1

section
variable {t : TLSTransport μ}

/-- Each connection that was dialed is closed, in the pool, or used by one `Exchange`. -/
def Conserved (t : TLSTransport μ) : Prop :=
  ↑t.closed+↑t.connections+Threads.held Stage.conn t.exchanges = Multiset.range t.dialed

variable {t' : TLSTransport μ}

/-- An `Exchange` may move its connection from one place to another. -/
lemma Conserved.move (h : Conserved t) {i : ℕ} {st st' : Stage μ}
    (hi : t.exchanges[i]? = some st) (he : t'.exchanges = t.exchanges.set i st')
    (hp : (↑t'.closed+↑t'.connections+↑st'.conn.toList : Multiset ℕ) =
      ↑t.closed+↑t.connections+↑st.conn.toList) (hd : t'.dialed = t.dialed) : Conserved t' := by
  obtain ⟨r,hh,_,hs⟩ := Threads.exists_held Stage.conn hi
  unfold Conserved at h ⊢
  rw [he,hs,hd,← add_assoc,hp,← h,hh,← add_assoc]

section
variable {i : ℕ} {s : Stage μ} (h : Conserved t) (hi : t.exchanges[i]? = some s)
include h hi

lemma Conserved.closeConn {c : ℕ} (hc : s.conn = some c) {st' : Stage μ}
    (hn : st'.conn = none) : Conserved ((t.closeConn c).goTo i st') := by
  refine h.move hi rfl ?_ rfl
  -- the connection moves from its `Exchange` to the closed ones
  simp only [hc,hn,TLSTransport.closeConn,TLSTransport.goTo,Option.toList_some,Option.toList_none,
    ← Multiset.cons_coe,← Multiset.singleton_add,Multiset.coe_nil]
  abel

lemma Conserved.exchangeStep (rp : Except GoError μ) : Conserved (t.exchangeStep i rp s) := by
  cases s with
  | pop =>
    unfold TLSTransport.exchangeStep
    cases hp : t.connections with
    | nil => exact h.move hi rfl rfl rfl
    | cons c =>
      refine h.move hi rfl ?_ rfl
      rw [hp]
      simp only [TLSTransport.goTo,Stage.conn,Option.toList_some,Option.toList_none,← Multiset.cons_coe,
        ← Multiset.singleton_add,Multiset.coe_nil]
      abel
  | write c pooled | read c pooled =>
    cases rp with
    | error => exact h.closeConn hi rfl (by cases pooled <;> rfl)
    | ok => exact h.move hi rfl rfl rfl
  | giveBack c =>
    unfold TLSTransport.exchangeStep
    split_ifs with hc
    · exact h.move hi rfl rfl rfl
    · refine h.move hi rfl ?_ rfl
      simp only [TLSTransport.goTo,Stage.conn,Option.toList_some,Option.toList_none,← Multiset.coe_add,Multiset.coe_nil]
      abel
  | discard => exact h.closeConn hi rfl rfl
  | dial =>
    cases rp with
    | error => exact h.move hi rfl rfl rfl
    | ok =>
      obtain ⟨r,hh,_,hs⟩ := Threads.exists_held Stage.conn hi
      unfold Conserved at h ⊢
      simp only [TLSTransport.exchangeStep,TLSTransport.goTo,hs,Stage.conn,Option.toList_some,Multiset.coe_singleton,
        Multiset.range_succ,← Multiset.singleton_add,← h,hh,Option.toList_none,Multiset.coe_nil]
      abel
  | finish =>
    obtain ⟨r,hh,he,_⟩ := Threads.exists_held Stage.conn hi
    unfold Conserved at h ⊢
    simp only [TLSTransport.exchangeStep,he,← h,hh,Stage.conn,Option.toList_none,Multiset.coe_nil]
    abel

end

lemma Conserved.reset (h : Conserved t) : Conserved t.reset := by
  unfold Conserved at h ⊢
  simp only [TLSTransport.reset,← h,← Multiset.coe_add,Multiset.coe_nil]
  abel

lemma Conserved.closeStep (h : Conserved t) (i : ℕ) (st : CloseStage) : Conserved (t.closeStep i st).1 := by
  cases st with
  | drain => exact h.reset
  | wait => exact h
  | shutdown =>
    unfold TLSTransport.closeStep
    obtain ⟨b,w⟩ := t.base.shutdown
    cases w <;> exact h

lemma Conserved.step (h : Conserved t) {e : Event} (hs : Step t e t') : Conserved t' := by
  cases hs with
  | start | refused _ | close => exact h
  | exchange =>
    unfold Conserved at h ⊢
    simpa [Threads.held_concat,Stage.conn] using h
  | exchangeStep i st hi r => exact h.exchangeStep hi r
  | reset => exact h.reset
  | closeStep i st => exact h.closeStep i st

lemma conserved_of_run {history : List Event} (h : Run Step (TLSTransport.newTLS : TLSTransport μ) history t) :
    Conserved t := by
  have hn : Conserved (TLSTransport.newTLS : TLSTransport μ) := by
    rfl
  refine h.invariant (I := fun _ t => Conserved t) hn ?_
  intro _ _ _ _ ih hs
  exact ih.step hs

end

variable {t : TLSTransport μ}

/-- No `Exchange` puts its connection into the pool while a `Close` stands between emptying the pool and
changing the state. -/
def Event.Settled (t : TLSTransport μ) : Event → Prop
  | .exchangeStep i => ∀ conn response, t.exchanges[i]? = some (.giveBack conn response) →
      t.base.state.isClosing = false → .shutdown ∉ t.closers
  | _ => True

/-- Once a `Close` has emptied the pool, it stays empty. -/
structure Drained (history : List Event) (t : TLSTransport μ) : Prop where
  shutdown : .shutdown ∈ t.closers → t.connections = []
  wait : .wait ∈ t.closers → t.base.state.isClosing = true
  closing : t.base.state.isClosing = true → t.connections = []
  returned : ∀ i, .closeStep i true ∈ history → t.base.state.isClosing = true

lemma exchangeStep_keeps (t : TLSTransport μ) (i : ℕ) (r : Except GoError μ) (st : Stage μ) :
    (t.exchangeStep i r st).closers = t.closers ∧ (t.exchangeStep i r st).base.state = t.base.state := by
  cases st with
  | pop =>
    unfold TLSTransport.exchangeStep
    cases t.connections <;> exact ⟨rfl,rfl⟩
  | giveBack =>
    unfold TLSTransport.exchangeStep
    split_ifs <;> exact ⟨rfl,rfl⟩
  | discard conn response | finish result => exact ⟨rfl,rfl⟩
  | _ => cases r <;> exact ⟨rfl,rfl⟩

lemma exchangeStep_empty (h : t.connections = []) (i : ℕ) (rp : Except GoError μ) {st : Stage μ}
    (hp : ∀ c r, st = .giveBack c r → t.base.state.isClosing = true) : (t.exchangeStep i rp st).connections = [] := by
  cases st with
  | pop =>
    unfold TLSTransport.exchangeStep
    rw [h]
    exact h
  | giveBack c r =>
    rw [TLSTransport.exchangeStep,if_pos (hp c r rfl)]
    exact h
  | discard c r | finish result => exact h
  | _ => cases rp <;> exact h

variable {history : List Event}

section
variable (h : Drained history t)
include h

lemma Drained.exchangeStep {i : ℕ} (hsd : (Event.exchangeStep i).Settled t)
    {st : Stage μ} (hi : t.exchanges[i]? = some st) (r : Except GoError μ) :
    Drained (history++[.exchangeStep i]) (t.exchangeStep i r st) := by
  obtain ⟨hcl,hst⟩ := exchangeStep_keeps t i r st
  refine ⟨fun hs => ?_,?_,fun hc => ?_,fun j hm => ?_⟩
  · rw [hcl] at hs
    refine exchangeStep_empty (h.shutdown hs) i r fun c rs hsg => ?_
    subst hsg
    by_contra hopen
    exact hsd c rs hi (Bool.not_eq_true _ ▸ hopen) hs
  · rw [hcl,hst]
    exact h.wait
  · rw [hst] at hc
    exact exchangeStep_empty (h.closing hc) i r fun _ _ _ => hc
  · rw [hst]
    exact h.returned j (by simpa using hm)

lemma Drained.closeStep {i : ℕ} {st : CloseStage} (hi : t.closers[i]? = some st) :
    Drained (history++[.closeStep i (t.closeStep i st).2]) (t.closeStep i st).1 := by
  cases st with
  | drain =>
    refine ⟨fun _ => rfl,fun hw => ?_,fun _ => rfl,fun j hm => h.returned j ?_⟩
    · rcases mem_or_eq_of_mem_set hw with ho | hn
      · exact h.wait ho
      · cases hn
    · simpa [TLSTransport.closeStep] using hm
  | shutdown =>
    have he : t.connections = [] := h.shutdown (mem_of_getElem? hi)
    have hc := t.base.isClosing_shutdown
    unfold TLSTransport.closeStep
    generalize t.base.shutdown = s at hc
    obtain ⟨b,w⟩ := s
    cases w <;> exact ⟨fun _ => he,fun _ => hc,fun _ => he,fun _ _ => hc⟩
  | wait =>
    have he : t.connections = [] := h.closing (h.wait (mem_of_getElem? hi))
    exact ⟨fun _ => he,fun _ => rfl,fun _ => he,fun _ _ => rfl⟩

lemma Drained.step {e : Event} (hs : e.Settled t) {t' : TLSTransport μ}
    (hst : Step t e t') : Drained (history++[e]) t' := by
  cases hst with
  | start | exchange _ => exact ⟨h.shutdown,by simpa using h.wait,by simpa using h.closing,by simpa using h.returned⟩
  | refused => exact ⟨h.shutdown,h.wait,h.closing,by simpa using h.returned⟩
  | exchangeStep i st hi r => exact h.exchangeStep hs hi r
  | reset => exact ⟨fun _ => rfl,h.wait,fun _ => rfl,by simpa [TLSTransport.reset] using h.returned⟩
  | close => exact ⟨by simpa using h.shutdown,by simpa using h.wait,h.closing,by simpa using h.returned⟩
  | closeStep i st hi => exact h.closeStep hi

end

lemma drained_of_run
    (h : Run (fun t e t' => e.Settled t ∧ Step t e t') (TLSTransport.newTLS : TLSTransport μ) history t) :
    Drained history t := by
  have hn : Drained [] (TLSTransport.newTLS : TLSTransport μ) := by
    refine ⟨fun _ => rfl,fun hw => ?_,fun _ => rfl,fun _ hm => ?_⟩
    · cases hw
    · cases hm
  refine h.invariant hn ?_
  rintro _ _ _ _ ih ⟨hs,hst⟩
  exact ih.step hs hst

/-- In every interleaving a connection is used by one `Exchange` at most; and if no `Exchange` puts its
connection back between the two sections of a `Close`, then once a `Close` has returned and there is no
`Exchange` left, every connection that was dialed is closed. -/
theorem connections_closed :
    (∀ (history : List Event) (t : TLSTransport μ), Run Step .newTLS history t → ∀ i j conn : ℕ,
      t.exchanges[i]?.bind Stage.conn = some conn → t.exchanges[j]?.bind Stage.conn = some conn → i = j) ∧
    ∀ (history : List Event) (t : TLSTransport μ),
      Run (fun t event t' => event.Settled t ∧ Step t event t') .newTLS history t →
      (∃ i, .closeStep i true ∈ history) → t.exchanges = [] → ∀ conn < t.dialed, conn ∈ t.closed := by
  constructor
  · intro history t hr i j conn hi hj
    have hc := conserved_of_run hr
    have hn : (Threads.held Stage.conn t.exchanges).Nodup := by
      refine Multiset.nodup_of_le ?_ (Multiset.nodup_range t.dialed)
      rw [← hc]
      exact Multiset.le_add_left _ _
    exact Threads.eq_of_held Stage.conn hn hi hj
  · rintro history t hr ⟨i,hrt⟩ he conn hcn
    have hem : t.connections = [] := by
      have hd := drained_of_run hr
      exact hd.closing (hd.returned i hrt)
    have hc : Conserved t := conserved_of_run (hr.mono fun _ _ _ h => h.2)
    have hm : conn ∈ Multiset.range t.dialed := Multiset.mem_range.mpr hcn
    rw [← hc,hem,he] at hm
    simpa [Threads.held] using hm

/-- An `Exchange` that fails on its connection closes it, and then the transport is closed. -/
theorem connections_closed_once :
    ∃ t : TLSTransport Unit, Run (fun t event t' => event.Settled t ∧ Step t event t') .newTLS
        [.start,.exchange,.exchangeStep 0,.exchangeStep 0,.exchangeStep 0,.exchangeStep 0,.close,.closeStep 0 false,
          .closeStep 0 true] t ∧ t.dialed = 1 ∧ 0 ∈ t.closed := by
  have hr : Run (fun (t : TLSTransport Unit) event t' => event.Settled t ∧ Step t event t') .newTLS
      [.start,.exchange,.exchangeStep 0,.exchangeStep 0,.exchangeStep 0,.exchangeStep 0,.close,.closeStep 0 false,
        .closeStep 0 true] _ :=
    .cons ⟨trivial,.start _⟩ (.cons ⟨trivial,.exchange _ rfl⟩
      (.cons ⟨fun _ _ _ _ => not_mem_nil,.exchangeStep _ 0 .pop rfl (.ok ())⟩
      (.cons ⟨fun _ _ _ _ => not_mem_nil,.exchangeStep _ 0 .dial rfl (.ok ())⟩
      (.cons ⟨fun _ _ _ _ => not_mem_nil,.exchangeStep _ 0 (.write 0 false) rfl (.error ⟨"reset",false,false⟩)⟩
      (.cons ⟨fun _ _ _ _ => not_mem_nil,.exchangeStep _ 0 (.finish _) rfl (.ok ())⟩
      (.cons ⟨trivial,.close _⟩ (.cons ⟨trivial,.closeStep _ 0 .drain rfl⟩
      (.cons ⟨trivial,.closeStep _ 0 .shutdown rfl⟩ .nil))))))))
  exact ⟨_,hr,rfl,connections_closed.2 _ _ hr ⟨0,by simp⟩ rfl 0 (by decide)⟩

/-- A connection that is put back after `Close` has emptied the pool, and before it changes the state, is
never closed. -/
theorem connection_left_open : ∃ t : TLSTransport Unit, Run Step .newTLS
        [.start,.exchange,.exchangeStep 0,.exchangeStep 0,.exchangeStep 0,.exchangeStep 0,.close,.closeStep 0 false,
          .exchangeStep 0,.exchangeStep 0,.closeStep 0 true] t ∧
      t.exchanges = [] ∧ t.closers = [] ∧ t.base.state = .closed ∧ t.dialed = 1 ∧ t.closed = [] :=
  ⟨_,.cons (.start _) (.cons (.exchange _ rfl) (.cons (.exchangeStep _ 0 .pop rfl (.ok ()))
    (.cons (.exchangeStep _ 0 .dial rfl (.ok ())) (.cons (.exchangeStep _ 0 (.write 0 false) rfl (.ok ()))
    (.cons (.exchangeStep _ 0 (.read 0 false) rfl (.ok ())) (.cons (.close _) (.cons (.closeStep _ 0 .drain rfl)
    (.cons (.exchangeStep _ 0 (.giveBack 0 ()) rfl (.ok ())) (.cons (.exchangeStep _ 0 (.finish _) rfl (.ok ()))
    (.cons (.closeStep _ 0 .shutdown rfl) .nil)))))))))),rfl,rfl,rfl,rfl,rfl⟩

end TLS

end SingBox.Transport
