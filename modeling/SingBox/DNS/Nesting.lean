import SingBox.DNS.ExchangeCases

/-! Exchanges within exchanges (`dns/client.go`): a transport that is asked may itself ask other
transports through the client, to any depth. Each call carries the context of the exchange around it, and
takes the lock of its question before it looks for a loop. -/
namespace SingBox.DNS
open List

/-- What `contextWithTransportTag` puts around a context: the tag, and the call that sets it. A background
refresh sets it outside of any call. -/
structure ContextFrame where
  transportTag : String
  call : Option ℕ

/-- The context of a call, the innermost exchange first. -/
abbrev QueryContext := List ContextFrame

def contextWithTransportTag (context : QueryContext) (transportTag : String) (call : Option ℕ) :
    QueryContext :=
  ⟨transportTag,call⟩ :: context

/-- `transportTagFromContext`: a value hides those that were set before it. -/
def transportTagFromContext (context : QueryContext) : Option String := context.head?.map ContextFrame.transportTag

def transportsAbove (context : QueryContext) : List String := context.map ContextFrame.transportTag

def callsAbove (context : QueryContext) : List ℕ := context.filterMap ContextFrame.call

/-- Where a call is. `returned` are the results that do not need the transport. -/
inductive Stage
  | waiting (holder : ℕ)
  | expired
  | upstream (flight : Flight) (holdsLock : Bool)
  | returned (result : Except ClientError Msg)
  | answered (result : Except ClientError Msg)

/-- A call of `Exchange`, with the context it was made in. -/
structure Call where
  context : QueryContext
  query : Query
  stage : Stage
  carried : query.contextTransport = transportTagFromContext context

/-- The calls in the order they were made, and the client they share. -/
structure Nesting (μ ν ρ : Type) where
  client : ClientState μ ν ρ
  calls : List Call

/-- Who makes a call: the program, a background refresh or the transport of another call. -/
inductive Origin
  | outside
  | refresh (i : ℕ)
  | within (caller : ℕ)

/-- What can happen next: a call is made, one that waits goes on or gives up when its context ends, a
transport answers, and the rest of the program changes the stores. -/
inductive NestingEvent (μ ν ρ : Type)
  | exchange (origin : Origin) (q : Query)
  | resume (i : ℕ)
  | expire (i : ℕ)
  | answer (i : ℕ) (answer : Answer)
  | client (client : ClientState μ ν ρ)

def Query.inContext (q : Query) (context : QueryContext) : Query :=
  { q with contextTransport := transportTagFromContext context }

def Flight.key (flight : Flight) : CacheKey := ⟨flight.question,flight.query.transport⟩

def Call.isUpstream (call : Call) : Bool :=
  match call.stage with
  | .upstream _ _ => true
  | _ => false

/-- The key that a call has put into `cacheLock`; it is deleted when the call returns. -/
def Call.lock (call : Call) : Option CacheKey :=
  match call.stage with
  | .upstream flight true => some flight.key
  | _ => none

def Call.withStage (call : Call) (stage : Stage) : Call := { call with stage }

section
variable {μ ν ρ : Type} (c : Client μ ν ρ)

/-- The key that `Exchange` looks up in `cacheLock`, if it gets there. -/
def lockKey (q : Query) : Option CacheKey :=
  match q.message.question with
  | [] => none
  | question :: _ =>
      if strategyRejects question q.options || disablesCache c q then none else some ⟨question,q.transport⟩

def lockHolder (calls : List Call) (q : Query) : Option ℕ :=
  (lockKey c q).bind fun key => calls.findIdx? fun call => call.lock == some key

/-- The context that calls from an origin get; only a call that waits for its transport makes calls. -/
def originContext (s : Nesting μ ν ρ) : Origin → Option QueryContext
  | .outside => some []
  | .refresh i =>
      s.client.backgroundRefresh[i]?.map fun refresh => contextWithTransportTag [] refresh.transport none
  | .within caller =>
      match s.calls[caller]? with
      | none => none
      | some call =>
          if call.isUpstream then
            some (contextWithTransportTag call.context call.query.transport (some caller))
          else none

/-- `Exchange` from the lock on, up to the call of the transport. -/
def pastLock (client : ClientState μ ν ρ) (q : Query) (holdsLock : Bool) : ClientState μ ν ρ × Stage :=
  match beginExchange c client q with
  | (client,.done result) => (client,.returned result)
  | (client,.upstream flight) => (client,.upstream flight holdsLock)

/-- `Exchange` up to the call of the transport, or to the wait for another call with the same key. -/
def enterExchange (s : Nesting μ ν ρ) (context : QueryContext) (q : Query) : Nesting μ ν ρ :=
  let q := q.inContext context
  match lockHolder c s.calls q with
  | some holder => { s with calls := s.calls++[⟨context,q,.waiting holder,rfl⟩] }
  | none =>
      let begun := pastLock c s.client q (lockKey c q).isSome
      ⟨begun.1,s.calls++[⟨context,q,begun.2,rfl⟩]⟩

/-- The call waits for one that has returned; its channel is closed. -/
def mayResume (calls : List Call) (call : Call) : Bool :=
  match call.stage with
  | .waiting holder => !(calls[holder]?.any Call.isUpstream)
  | _ => false

def resumeCall (s : Nesting μ ν ρ) (call : Call) : Option (ClientState μ ν ρ × Stage) :=
  if mayResume s.calls call then some (pastLock c s.client call.query false) else none

def expireCall (s : Nesting μ ν ρ) (call : Call) : Option (ClientState μ ν ρ × Stage) :=
  match call.stage with
  | .waiting _ => some (s.client,.expired)
  | _ => none

def answerCall (s : Nesting μ ν ρ) (answer : Answer) (call : Call) : Option (ClientState μ ν ρ × Stage) :=
  match call.stage with
  | .upstream flight _ =>
      let finished := finishExchange c s.client flight answer
      some (finished.1,.answered finished.2)
  | _ => none

def moveCall (s : Nesting μ ν ρ) (i : ℕ) (move : Call → Option (ClientState μ ν ρ × Stage)) :
    Nesting μ ν ρ :=
  match s.calls[i]? with
  | none => s
  | some call =>
      match move call with
      | none => s
      | some (client,stage) => ⟨client,s.calls.set i (call.withStage stage)⟩

def nestingStep (s : Nesting μ ν ρ) : NestingEvent μ ν ρ → Nesting μ ν ρ
  | .exchange origin q =>
      match originContext s origin with
      | none => s
      | some context => enterExchange c s context q
  | .resume i => moveCall s i (resumeCall c s)
  | .expire i => moveCall s i (expireCall s)
  | .answer i answer => moveCall s i (answerCall c s answer)
  | .client client => { s with client := client }

def initialNesting (client : ClientState μ ν ρ) : Nesting μ ν ρ := ⟨client,[]⟩

end

section

/-- The loopback error, or an answer that the client has without the transport. -/
def LoopbackResult (transport : String) : Except ClientError Msg → Prop
  | .ok _ => True
  | .error err => err = .loopback transport

/-- Where a call may be whose transport is in use above it: it does not wait for one of the calls above,
and does not go to its transport. -/
def Stage.Refused (above : List ℕ) (transport : String) : Stage → Prop
  | .waiting holder => holder ∉ above
  | .expired => True
  | .upstream _ _ => False
  | .returned result => LoopbackResult transport result
  | .answered _ => False

/-- The transport of the call is in use further up its nesting. -/
def Call.Loops (call : Call) : Prop := call.query.transport ∈ transportsAbove call.context

def Call.LoopRefused (call : Call) : Prop :=
  call.Loops → call.stage.Refused (callsAbove call.context) call.query.transport

lemma Call.LoopRefused.not_loops {ca : Call} (h : ca.LoopRefused) (hu : ca.isUpstream = true) : ¬ ca.Loops := by
  intro hl
  have hr := h hl
  unfold Call.isUpstream at hu
  split at hu
  · rename_i hs
    rwa [hs] at hr
  · cases hu

variable {μ ν ρ : Type}

def Nesting.LoopsRefused (s : Nesting μ ν ρ) : Prop := ∀ call ∈ s.calls, call.LoopRefused

lemma Nesting.loopsRefused_append {s : Nesting μ ν ρ} (h : s.LoopsRefused) (client : ClientState μ ν ρ)
    (ca : Call) : Nesting.LoopsRefused ⟨client,s.calls++[ca]⟩ ↔ ca.LoopRefused := by
  constructor
  · intro ha
    exact ha ca (by simp)
  · intro hc o hm
    rcases mem_append.mp hm with hm | hm
    · exact h o hm
    · rwa [mem_singleton.mp hm]

variable {c : Client μ ν ρ} {s : Nesting μ ν ρ} {cl : Call} {cn : ClientState μ ν ρ} {st : Stage}

lemma resumeCall_eq_some (h : resumeCall c s cl = some (cn,st)) :
    mayResume s.calls cl = true ∧ (pastLock c s.client cl.query false).2 = st := by
  unfold resumeCall at h
  split_ifs at h with hr
  exact ⟨hr,congrArg Prod.snd (Option.some.inj h)⟩

lemma expireCall_eq_some (h : expireCall s cl = some (cn,st)) : st = .expired := by
  unfold expireCall at h
  split at h
  · cases h
    rfl
  · cases h

lemma answerCall_eq_some {a : Answer} (h : answerCall c s a cl = some (cn,st)) :
    cl.isUpstream = true ∧ ∃ r, st = .answered r := by
  unfold answerCall at h
  split at h
  · rename_i hs
    cases h
    exact ⟨by simp [Call.isUpstream,hs],_,rfl⟩
  · cases h

lemma moveCall_cases (s : Nesting μ ν ρ) (i : ℕ) (mv : Call → Option (ClientState μ ν ρ × Stage)) :
    (moveCall s i mv = s ∧ ∀ cl, s.calls[i]? = some cl → mv cl = none) ∨
    ∃ cl cn st, s.calls[i]? = some cl ∧ mv cl = some (cn,st) ∧
      moveCall s i mv = ⟨cn,s.calls.set i (cl.withStage st)⟩ := by
  unfold moveCall
  cases hc : s.calls[i]? with
  | none => exact .inl ⟨rfl,fun cl h => by cases h⟩
  | some cl =>
    dsimp only
    cases hm : mv cl with
    | none => exact .inl ⟨rfl,fun o h => by cases h; exact hm⟩
    | some m => exact .inr ⟨cl,m.1,m.2,rfl,hm,rfl⟩

lemma moveCall_loopsRefused_iff (h : s.LoopsRefused) (i : ℕ) (m : Call → Option (ClientState μ ν ρ × Stage)) :
    (moveCall s i m).LoopsRefused ↔ ∀ cl cn st, s.calls[i]? = some cl →
      m cl = some (cn,st) → (cl.withStage st).LoopRefused := by
  rcases moveCall_cases s i m with ⟨hk,hn⟩ | ⟨cl,cn,st,hc,hmv,hm⟩
  · rw [hk]
    refine ⟨fun _ cl cn st hc hmv => ?_,fun _ => h⟩
    rw [hn cl hc] at hmv
    cases hmv
  · rw [hm]
    constructor
    · intro hs ca' client' sg' hc' hm'
      cases hc.symm.trans hc'
      cases hmv.symm.trans hm'
      exact hs _ (List.mem_set (List.getElem?_eq_some_iff.mp hc).1 _)
    · intro hr o hmm
      rcases List.mem_or_eq_of_mem_set hmm with hmm | rfl
      · exact h o hmm
      · exact hr cl cn st hc hmv

end

section
variable {μ ν ρ : Type} (c : Client μ ν ρ)

/-- The client answers without the transport: there is no question, or its type is not wanted, or the
cache has an answer. -/
def answersItself (client : ClientState μ ν ρ) (q : Query) : Bool :=
  match q.message.question with
  | [] => true
  | question :: _ => strategyRejects question q.options || (exchangeHit c client q).isSome

/-- Past the lock, a loop is seen where the innermost exchange is one through the same transport. -/
def Caught (client : ClientState μ ν ρ) (q : Query) : Prop :=
  answersItself c client q = true ∨ q.contextTransport = some q.transport

/-- The events that close no loop, or one that `Exchange` sees before it waits for a call above. -/
def Detected (s : Nesting μ ν ρ) : NestingEvent μ ν ρ → Prop
  | .exchange origin q =>
      ∀ context, originContext s origin = some context → q.transport ∈ transportsAbove context →
        (∀ holder, lockHolder c s.calls (q.inContext context) = some holder → holder ∉ callsAbove context) ∧
        (lockHolder c s.calls (q.inContext context) = none → Caught c s.client (q.inContext context))
  | .resume i =>
      ∀ call, s.calls[i]? = some call → mayResume s.calls call = true → call.Loops → Caught c s.client call.query
  | _ => True

variable {c}

/-- The result of the first half of `Exchange` for a call that closes a loop. -/
def Begun.Refused (transport : String) : Begun → Prop
  | .done result => LoopbackResult transport result
  | .upstream _ => False

variable (client : ClientState μ ν ρ) (q : Query)

lemma sendUpstream_refused_iff (f : Flight) : (sendUpstream c client f).Refused f.query.transport ↔
      f.query.contextTransport = some f.query.transport := by
  unfold sendUpstream
  by_cases hc : f.query.contextTransport = some f.query.transport
  · simp [hc,Begun.Refused,LoopbackResult]
  · rw [if_neg hc]
    split <;> simp [hc,Begun.Refused,LoopbackResult]

lemma answersItself_of_head {client : ClientState μ ν ρ} {q : Query} {qs : Question}
    (h : q.message.question.head? = some qs) (hs : strategyRejects qs q.options = false) :
    answersItself c client q = (exchangeHit c client q).isSome := by
  obtain ⟨r,hq⟩ := head?_eq_some_iff.mp h
  simp [answersItself,hq,hs]

lemma beginExchange_refused_iff : (beginExchange c client q).2.Refused q.transport ↔ Caught c client q := by
  have hc := beginExchange_cases c client q
  generalize beginExchange c client q = b at hc
  unfold Caught
  cases hc with
  | noQuestion hq => simp [Begun.Refused,LoopbackResult,answersItself,hq]
  | excluded qs hh hst =>
    obtain ⟨r,hq⟩ := head?_eq_some_iff.mp hh
    simp [Begun.Refused,LoopbackResult,answersItself,hq,hst]
  | uncached qs hh hst hcc =>
    have hif : answersItself c client q = false := by
      rw [answersItself_of_head hh hst,exchangeHit_of_head hh,hcc]
      simp
    have hs := sendUpstream_refused_iff (c := c) client (q.flight c qs hh)
    simpa [hif,Query.flight] using hs
  | missed qs hh client' l hst hcc hl hm =>
    have hif : answersItself c client q = false := by
      rw [answersItself_of_head hh hst,exchangeHit_of_head hh,hst,hcc,hl]
      simp [hm]
    have hs := sendUpstream_refused_iff (c := c) client' (q.flight c qs hh)
    simpa [hif,Query.flight] using hs
  | hit qs hh client' l hst hcc hl ha =>
    have hif : answersItself c client q = true := by
      rw [answersItself_of_head hh hst,exchangeHit_of_head hh,hst,hcc,hl]
      simp [Option.filter_some_pos ha]
    simp [Begun.Refused,LoopbackResult,hif]

lemma pastLock_refused_iff (ho : Bool) (a : List ℕ) :
    (pastLock c client q ho).2.Refused a q.transport ↔ Caught c client q := by
  rw [← beginExchange_refused_iff]
  unfold pastLock
  cases beginExchange c client q with
  | mk client' b =>
    cases b with
    | done result | upstream flight => rfl

lemma enterExchange_loopsRefused_iff {s : Nesting μ ν ρ} (h : s.LoopsRefused) (cn : QueryContext)
    (q : Query) : (enterExchange c s cn q).LoopsRefused ↔ (q.transport ∈ transportsAbove cn →
      (∀ holder, lockHolder c s.calls (q.inContext cn) = some holder → holder ∉ callsAbove cn) ∧
      (lockHolder c s.calls (q.inContext cn) = none → Caught c s.client (q.inContext cn))) := by
  unfold enterExchange
  dsimp only
  cases hh : lockHolder c s.calls (q.inContext cn) with
  | some =>
    rw [Nesting.loopsRefused_append h]
    simp [Call.LoopRefused,Call.Loops,Stage.Refused,Query.inContext]
  | none =>
    rw [Nesting.loopsRefused_append h]
    unfold Call.LoopRefused
    rw [pastLock_refused_iff]
    simp [Call.Loops,Query.inContext]

lemma nestingStep_loopsRefused_iff (s : Nesting μ ν ρ) (e : NestingEvent μ ν ρ) (h : s.LoopsRefused) :
    Detected c s e ↔ (nestingStep c s e).LoopsRefused := by
  cases e with
  | exchange o =>
    unfold Detected nestingStep
    dsimp only
    cases originContext s o with
    | none => simpa using h
    | some =>
      rw [enterExchange_loopsRefused_iff h]
      simp
  | resume i =>
    have hm := moveCall_loopsRefused_iff h i (resumeCall c s)
    refine Iff.trans ?_ hm.symm
    constructor
    · intro hd ca client sg hc hmv hl
      obtain ⟨hr,rfl⟩ := resumeCall_eq_some hmv
      exact (pastLock_refused_iff _ _ _ _).mpr (hd ca hc hr hl)
    · intro hrf ca hc hr hl
      have hmv := hrf ca _ _ hc (if_pos hr) hl
      exact (pastLock_refused_iff _ _ _ _).mp hmv
  | expire i =>
    refine ⟨fun _ => (moveCall_loopsRefused_iff h i (expireCall s)).mpr ?_,fun _ => trivial⟩
    intro ca client sg _ hmv _
    rw [expireCall_eq_some hmv]
    trivial
  | answer i a =>
    refine ⟨fun _ => (moveCall_loopsRefused_iff h i (answerCall c s a)).mpr ?_,fun _ => trivial⟩
    intro ca client sg hc hmv hl
    obtain ⟨hu,_⟩ := answerCall_eq_some hmv
    exact absurd hl ((h ca (mem_of_getElem? hc)).not_loops hu)
  | client => exact ⟨fun _ => h,fun _ => trivial⟩

/-- In every run of nested exchanges: wherever each event closes no loop, or one that `Exchange` sees before
it waits for a call above, a call through a transport in use further up its nesting never waits for the lock
of a call above and never goes to its transport, but gets the loopback error unless the client has an answer
by itself; and nowhere else. -/
theorem loops_refused_iff (c : Client μ ν ρ) (client : ClientState μ ν ρ) (events : List (NestingEvent μ ν ρ)) :
    Run.Along (nestingStep c) (Detected c) (initialNesting client) events ↔
      Run.Throughout (nestingStep c) Nesting.LoopsRefused (initialNesting client) events :=
  Run.along_iff_throughout nestingStep_loopsRefused_iff events fun _ hmem => absurd hmem not_mem_nil

def serverQuery (transport name : String) : Query where
  transport := transport
  message := { recursionDesired := true, question := [⟨name,typeA,classINET⟩] }
  options := {}
  responseChecker := none

def plainCalls (events : List (NestingEvent (CacheKey → Option (Msg × ℕ))
    (StoreKey → Option (List UInt8 × ℕ)) (StoreKey → Option Unit))) : List Call :=
  (events.foldl (nestingStep plainClient) (initialNesting (initialSystem plainClient 0).client)).calls

/-- A transport that asks itself another question gets the error. -/
example : (plainCalls [.exchange .outside (serverQuery "first" "a.test."),
    .exchange (.within 0) (serverQuery "first" "b.test.")])[1]?.map Call.stage =
    some (.returned (.error (.loopback "first"))) := rfl

end

/-- Two transports that each need the other to find their server: the first one is asked again within its
own exchange, and then the second one waits for its own exchange. A transport that asks itself the same
question waits as well. -/
theorem nested_exchanges_wait_for_themselves :
    let crossed := plainCalls [.exchange .outside (serverQuery "first" "a.test."),
      .exchange (.within 0) (serverQuery "second" "first.test."),
      .exchange (.within 1) (serverQuery "first" "second.test."),
      .exchange (.within 2) (serverQuery "second" "first.test.")]
    let same := plainCalls [.exchange .outside (serverQuery "first" "a.test."),
      .exchange (.within 0) (serverQuery "first" "a.test.")]
    (∃ call : Call, crossed[2]? = some call ∧ call.Loops ∧ call.isUpstream = true ∧ ¬ call.LoopRefused) ∧
    (∃ call : Call, crossed[3]? = some call ∧ call.Loops ∧ call.stage = .waiting 1 ∧
      1 ∈ callsAbove call.context ∧ ¬ call.LoopRefused) ∧
    (∃ call : Call, same[1]? = some call ∧ call.Loops ∧ call.stage = .waiting 0 ∧ 0 ∈ callsAbove call.context ∧
      ¬ call.LoopRefused) := by
  intro crossed same
  refine ⟨⟨_,rfl,.tail _ (.head _),rfl,?_⟩,⟨_,rfl,.tail _ (.head _),rfl,.tail _ (.head _),?_⟩,
    ⟨_,rfl,.head _,rfl,.head _,?_⟩⟩
  · intro hr
    exact hr.not_loops rfl (.tail _ (.head _))
  · intro hr
    exact hr (.tail _ (.head _)) (.tail _ (.head _))
  · intro hr
    exact hr (.head _) (.head _)

end SingBox.DNS
