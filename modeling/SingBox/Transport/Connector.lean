import SingBox.Library.Run
import SingBox.Transport.Base

/-! The connector that DNS transports share a connection through (`dns/transport/connector.go`), with any
number of `Get` calls under way. A step is a section with the lock held, or what a goroutine does between
two of them; whether a context has ended is open in every step. Connections are numbered as dials produce
them, and `shut` has the closed ones; both callbacks, `Close` and `Reset`, close a connection. -/
namespace SingBox.Transport
open Adapter List

namespace Connector

def errRecursiveConnectorDial : GoError := ⟨"recursive connector dial",false,false⟩

/-- A dial under its channel `connecting`, from where `Get` starts it to the end of `completeDial`;
`background` says that its `Get` has returned. -/
structure Dial where
  channel : ℕ
  background : Bool
  result : Option (Except GoError ℕ)

/-- Where a `Get` is: at the top of its loop, at the channel of another dial, or at its own dial. -/
inductive Stage
  | check
  | wait (channel : ℕ)
  | dial (channel : ℕ)

structure Getter where
  id : ℕ
  recursive : Bool
  stage : Stage

/-- What the first section of a round of `Get` leads to. -/
inductive Next
  | return (result : Except GoError ℕ)
  | go (stage : Stage)

end Connector

open Connector

structure Connector where
  connection : Option ℕ
  hasConnection : Bool
  connectionCancel : Option ℕ
  connecting : Option ℕ
  closed : Bool
  channels : ℕ
  produced : ℕ
  shut : List ℕ
  canceled : List ℕ
  dials : List Dial
  calls : ℕ
  gets : List Getter

namespace Connector

def newConnector : Connector := ⟨none,false,none,none,false,0,0,[],[],[],0,[]⟩

/-- The connection that `Get` would return. -/
def current (c : Connector) : Option ℕ := if c.hasConnection then c.connection else none

def cancelConnection (c : Connector) : Connector :=
  { c with canceled := c.connectionCancel.toList++c.canceled, connectionCancel := none }

/-- A round of `Get` where there is no live connection. -/
def getAnew (c : Connector) (recursive : Bool) (ctxErr : Option GoError) : Connector × Next :=
  let c := { c with hasConnection := false }.cancelConnection
  if recursive then (c,.return (.error errRecursiveConnectorDial))
  else
    match c.connecting with
    | some connecting => (c,.go (.wait connecting))
    | none =>
        match ctxErr with
        | some err => (c,.return (.error err))
        | none =>
            ({ c with
              connecting := some c.channels
              channels := c.channels+1
              dials := c.dials++[⟨c.channels,false,none⟩] },.go (.dial c.channels))

/-- A round of `Get` up to where it waits or returns. -/
def get (c : Connector) (recursive : Bool) (ctxErr : Option GoError) : Connector × Next :=
  if c.closed then (c,.return (.error errTransportClosed))
  else
    match c.current with
    | none => c.getAnew recursive ctxErr
    | some conn => if conn ∉ c.shut then (c,.return (.ok conn)) else c.getAnew recursive ctxErr

def discard (c : Connector) (conn : ℕ) : Connector := { c with canceled := conn::c.canceled, shut := conn::c.shut }

/-- `completeDial` for the dial in place `j`; `closeDone` says that the transport's context has ended. -/
def completeDial (c : Connector) (j : ℕ) (dial : Dial) (result : Except GoError ℕ) (closeDone : Bool)
    (ctxErr : Option GoError) : Connector × Except GoError ℕ :=
  let c := { c with
    dials := c.dials.eraseIdx j
    connecting := if c.connecting = some dial.channel then none else c.connecting }
  match result with
  | .error err => (c,.error err)
  | .ok conn =>
      if c.closed || closeDone then (c.discard conn,.error errTransportClosed)
      else
        match ctxErr with
        | some err => (c.discard conn,.error err)
        | none => ({ c with connection := some conn, hasConnection := true, connectionCancel := some conn },.ok conn)

/-- `Reset`, and `Close` after its first lines: the callback closes the connection. -/
def reset (c : Connector) : Connector :=
  let c := c.cancelConnection
  { c with shut := c.current.toList++c.shut, hasConnection := false }

def close (c : Connector) : Connector := if c.closed then c else { c with closed := true }.reset

/-- The end of `dialWithCancellation` for the dial in place `j`. -/
def dialed (c : Connector) (j : ℕ) (dial : Dial) : Option GoError → Connector
  | some err => { c with dials := c.dials.set j { dial with result := some (.error err) } }
  | none => { c with dials := c.dials.set j { dial with result := some (.ok c.produced) }, produced := c.produced+1 }

def leave (c : Connector) (i : ℕ) : Connector := { c with gets := c.gets.eraseIdx i }

def goTo (c : Connector) (i : ℕ) (getter : Getter) (stage : Stage) : Connector :=
  { c with gets := c.gets.set i { getter with stage := stage } }

inductive Event
  | get (id : ℕ)
  | progress
  | returned (id : ℕ) (result : Except GoError ℕ)
  | close
  | reset
  | lost (conn : ℕ)

/-- A `Get` in place `i` takes a round of its loop, sees the channel of another dial closed, or gives up
there; a dial ends, and its `Get` completes it, or gives it up and it is completed in the background; the
connector is closed or reset; a connection is closed by its user or its peer. -/
inductive Step : Connector → Event → Connector → Prop
  | get (c : Connector) (recursive : Bool) :
      Step c (.get c.calls) { c with calls := c.calls+1, gets := c.gets++[⟨c.calls,recursive,.check⟩] }
  | goes (c : Connector) (i : ℕ) (getter : Getter) (hi : c.gets[i]? = some getter) (hstage : getter.stage = .check)
      (ctxErr : Option GoError) (stage : Stage) (hnext : (c.get getter.recursive ctxErr).2 = .go stage) :
      Step c .progress ((c.get getter.recursive ctxErr).1.goTo i getter stage)
  | returns (c : Connector) (i : ℕ) (getter : Getter) (hi : c.gets[i]? = some getter) (hstage : getter.stage = .check)
      (ctxErr : Option GoError) (result : Except GoError ℕ)
      (hnext : (c.get getter.recursive ctxErr).2 = .return result) :
      Step c (.returned getter.id result) ((c.get getter.recursive ctxErr).1.leave i)
  | woken (c : Connector) (i : ℕ) (getter : Getter) (hi : c.gets[i]? = some getter) (channel : ℕ)
      (hstage : getter.stage = .wait channel) (hclosed : ∀ dial ∈ c.dials, dial.channel ≠ channel) :
      Step c .progress (c.goTo i getter .check)
  | givesUp (c : Connector) (i : ℕ) (getter : Getter) (hi : c.gets[i]? = some getter) (channel : ℕ)
      (hstage : getter.stage = .wait channel) (err : GoError) :
      Step c (.returned getter.id (.error err)) (c.leave i)
  | dialed (c : Connector) (j : ℕ) (dial : Dial) (hj : c.dials[j]? = some dial) (hrunning : dial.result = none)
      (err : Option GoError) : Step c .progress (c.dialed j dial err)
  | completes (c : Connector) (i : ℕ) (getter : Getter) (hi : c.gets[i]? = some getter) (j : ℕ) (dial : Dial)
      (hj : c.dials[j]? = some dial) (hstage : getter.stage = .dial dial.channel)
      (hforeground : dial.background = false)
      (result : Except GoError ℕ) (hresult : dial.result = some result) (closeDone : Bool) (ctxErr : Option GoError) :
      Step c (.returned getter.id (c.completeDial j dial result closeDone ctxErr).2)
        ((c.completeDial j dial result closeDone ctxErr).1.leave i)
  | abandons (c : Connector) (i : ℕ) (getter : Getter) (hi : c.gets[i]? = some getter) (j : ℕ) (dial : Dial)
      (hj : c.dials[j]? = some dial) (hstage : getter.stage = .dial dial.channel)
      (hforeground : dial.background = false) (err : GoError) :
      Step c (.returned getter.id (.error err))
        ({ c with dials := c.dials.set j { dial with background := true } }.leave i)
  | completed (c : Connector) (j : ℕ) (dial : Dial) (hj : c.dials[j]? = some dial)
      (hbackground : dial.background = true) (result : Except GoError ℕ) (hresult : dial.result = some result)
      (closeDone : Bool) (ctxErr : Option GoError) :
      Step c .progress (c.completeDial j dial result closeDone ctxErr).1
  | close (c : Connector) : Step c .close c.close
  | reset (c : Connector) : Step c .reset c.reset
  | lost (c : Connector) (conn : ℕ) (hconn : conn < c.produced) : Step c (.lost conn) { c with shut := conn::c.shut }

section
variable {c : Connector}

/-- There is one dial at most, and none beside a current connection; a connection that was produced is
closed, current, or with its dial; a closed connector has no current connection. -/
structure Sound (c : Connector) : Prop where
  dials : (c.dials = [] ∧ c.connecting = none) ∨
    ∃ dial, c.dials = [dial] ∧ c.connecting = some dial.channel ∧ c.hasConnection = false
  placed : ∀ conn < c.produced, conn ∈ c.shut ∨ c.current = some conn ∨
    ∃ dial ∈ c.dials, dial.result = some (.ok conn)
  closed : c.closed = true → c.hasConnection = false

lemma current_of_not {c : Connector} (h : c.hasConnection = false) : c.current = none := by
  simp [current,h]

variable {d : Dial} {j : ℕ}

lemma Sound.single (h : Sound c) (hj : c.dials[j]? = some d) :
    j = 0 ∧ c.dials = [d] ∧ c.connecting = some d.channel ∧ c.hasConnection = false := by
  obtain ⟨hnl,_⟩ | ⟨dl',hd,hc,hn⟩ := h.dials
  · simp [hnl] at hj
  · rw [hd,getElem?_singleton] at hj
    split_ifs at hj with hz
    cases hj
    exact ⟨hz,hd,hc,hn⟩

lemma get_cases (c : Connector) (r : Bool) (ce : Option GoError) :
    (c.closed = true ∧ c.get r ce = (c,.return (.error errTransportClosed))) ∨
    (c.closed = false ∧ ∃ cn, c.get r ce = (c,.return (.ok cn))) ∨
    (c.closed = false ∧ (∀ cn, c.current = some cn → cn ∈ c.shut) ∧ c.get r ce = c.getAnew r ce) := by
  unfold get
  cases hcl : c.closed with
  | true => exact .inl ⟨rfl,rfl⟩
  | false =>
    cases hc : c.current with
    | none => exact .inr (.inr ⟨rfl,by simp,rfl⟩)
    | some cn =>
      by_cases hs : cn ∈ c.shut
      · exact .inr (.inr ⟨rfl,by simpa using hs,by simp [hs]⟩)
      · exact .inr (.inl ⟨rfl,cn,by simp [hs]⟩)

lemma getAnew_cases (c : Connector) (r : Bool) (ce : Option GoError) :
    (c.getAnew r ce).1 = { c with hasConnection := false }.cancelConnection ∨
    c.connecting = none ∧ (c.getAnew r ce).1 =
      { { c with hasConnection := false }.cancelConnection with
        connecting := some c.channels
        channels := c.channels+1
        dials := c.dials++[⟨c.channels,false,none⟩] } := by
  unfold getAnew
  cases r with
  | true => exact .inl rfl
  | false =>
    cases hc : c.connecting with
    | some => exact .inl (by simp [cancelConnection])
    | none =>
      cases ce with
      | some => exact .inl (by simp [cancelConnection])
      | none => exact .inr ⟨rfl,by simp [cancelConnection]⟩

section
variable (h : Sound c)
include h

lemma Sound.withGets (cs : ℕ) (g : List Getter) : Sound { c with calls := cs, gets := g } :=
  ⟨h.dials,h.placed,h.closed⟩

lemma Sound.drop (hs : ∀ cn, c.current = some cn → cn ∈ c.shut) :
    Sound { c with hasConnection := false }.cancelConnection where
  dials := by
    obtain hn | ⟨d,hdl,hc,_⟩ := h.dials
    · exact .inl hn
    · exact .inr ⟨d,hdl,hc,rfl⟩
  placed cn hconn := by
    obtain hm | hcr | hd := h.placed cn hconn
    · exact .inl hm
    · exact .inl (hs cn hcr)
    · exact .inr (.inr hd)
  closed _ := rfl

lemma Sound.get (r : Bool) (ce : Option GoError) : Sound (c.get r ce).1 := by
  obtain ⟨_,hg⟩ | ⟨_,_,hg⟩ | ⟨_,hs,hg⟩ := get_cases c r ce
  · rwa [hg]
  · rwa [hg]
  · rw [hg]
    have hdp := h.drop hs
    obtain heq | ⟨hc,heq⟩ := getAnew_cases c r ce
    · rwa [heq]
    · rw [heq]
      have hn : c.dials = [] := by
        obtain ⟨hn,_⟩ | ⟨d,_,hsm,_⟩ := h.dials
        · exact hn
        · cases hc.symm.trans hsm
      refine ⟨.inr ⟨_,by rw [hn]; rfl,rfl,rfl⟩,fun cn hcn => ?_,fun _ => rfl⟩
      obtain hm | hcr | ⟨d,hd,_⟩ := hdp.placed cn hcn
      · exact .inl hm
      · exact .inr (.inl hcr)
      · rw [show _ = c.dials from rfl,hn] at hd
        cases hd

section
variable (hj : c.dials[j]? = some d)
include hj

/-- Beside a dial, every connection that is not its result is closed. -/
lemma Sound.placed_beside {cn : ℕ} (hcn : cn < c.produced) : cn ∈ c.shut ∨ d.result = some (.ok cn) := by
  obtain ⟨-,hdl,-,hn⟩ := h.single hj
  obtain hm | hc | ⟨dl',hd,hr⟩ := h.placed cn hcn
  · exact .inl hm
  · rw [current_of_not hn] at hc
    cases hc
  · rw [hdl,mem_singleton] at hd
    exact .inr (hd ▸ hr)

lemma Sound.dialed (hr : d.result = none) (er : Option GoError) : Sound (c.dialed j d er) := by
  have hs : ∀ cn < c.produced, cn ∈ c.shut := fun cn hcn =>
    (h.placed_beside hj hcn).resolve_right (by simp [hr])
  obtain ⟨rfl,hd,hc,hn⟩ := h.single hj
  cases er with
  | some er =>
    refine ⟨.inr ⟨{ d with result := some (.error er) },?_,hc,hn⟩, fun cn hcn => .inl (hs cn hcn),h.closed⟩
    simp [Connector.dialed,hd]
  | none =>
    have hst : (c.dialed 0 d none).dials = [{ d with result := some (.ok c.produced) }] := by
      simp [Connector.dialed,hd]
    refine ⟨.inr ⟨_,hst,hc,hn⟩,fun cn hcn => ?_,h.closed⟩
    obtain hlt | heq := Nat.lt_succ_iff_lt_or_eq.mp hcn
    · exact .inl (hs cn hlt)
    · refine .inr (.inr ⟨_,hst ▸ mem_singleton_self _,?_⟩)
      rw [heq]

lemma Sound.completeDial {r : Except GoError ℕ} (hr : d.result = some r) (cd : Bool) (ce : Option GoError) :
    Sound (c.completeDial j d r cd ce).1 := by
  have hp : ∀ cn < c.produced, cn ∈ c.shut ∨ r = .ok cn := fun cn hcn =>
    (h.placed_beside hj hcn).imp_right fun hok => Option.some.inj (hr.symm.trans hok)
  obtain ⟨rfl,hdl,hc,hn⟩ := h.single hj
  have hnl : c.dials.eraseIdx 0 = [] := by simp [hdl]
  unfold Connector.completeDial
  rw [if_pos hc,hnl]
  cases r with
  | error =>
    refine ⟨.inl ⟨rfl,rfl⟩,fun cn hcn => ?_,h.closed⟩
    obtain hm | hok := hp cn hcn
    · exact .inl hm
    · cases hok
  | ok cn =>
    have hd : Sound ({ c with dials := [], connecting := none }.discard cn) := by
      refine ⟨.inl ⟨rfl,rfl⟩,fun cn' hcn => .inl ?_,h.closed⟩
      obtain hm | hok := hp cn' hcn
      · exact mem_cons_of_mem cn hm
      · cases hok
        exact mem_cons_self
    dsimp only
    split_ifs with hcl
    · exact hd
    · cases ce with
      | some => exact hd
      | none =>
        refine ⟨.inl ⟨rfl,rfl⟩,fun cn' hcn => ?_,fun hcl' => ?_⟩
        · obtain hm | hok := hp cn' hcn
          · exact .inl hm
          · cases hok
            exact .inr (.inl rfl)
        · rw [Bool.or_eq_true,not_or] at hcl
          exact absurd hcl' hcl.1

end

lemma Sound.shuts (cs : List ℕ) : Sound { c with shut := cs++c.shut } :=
  ⟨h.dials,fun cn hc => (h.placed cn hc).imp_left (mem_append_right cs),h.closed⟩

lemma Sound.reset : Sound c.reset := by
  have hs := (h.shuts c.current.toList).drop
  refine ⟨(hs ?_).dials,(hs ?_).placed,fun _ => rfl⟩
  all_goals
    intro cn hc
    refine mem_append_left _ (Option.mem_toList.mpr hc)

lemma Sound.abandon (hj : c.dials[j]? = some d) :
    Sound { c with dials := c.dials.set j { d with background := true } } := by
  obtain ⟨rfl,hd,hc,hn⟩ := h.single hj
  have hs : c.dials.set 0 { d with background := true } = [{ d with background := true }] := by
    simp [hd]
  refine ⟨.inr ⟨_,hs,hc,hn⟩,fun cn hcn => ?_,h.closed⟩
  refine (h.placed_beside hj hcn).imp_right fun hr => .inr ⟨{ d with background := true },?_,hr⟩
  rw [hs]
  exact mem_singleton_self _

lemma Sound.step {ev : Event} {c' : Connector} (hs : Step c ev c') : Sound c' := by
  cases hs with
  | get recursive | woken | givesUp => exact h.withGets _ _
  | goes i g _ _ ce _ _ | returns i g _ _ ce _ _ =>
    exact (h.get g.recursive ce).withGets _ _
  | dialed j d hj hrn er => exact h.dialed hj hrn er
  | completes i g _ j d hj _ _ r hrs cd ce =>
    exact (h.completeDial hj hrs cd ce).withGets _ _
  | completed j d hj _ r hrs cd ce => exact h.completeDial hj hrs cd ce
  | abandons i g _ j d hj => exact (h.abandon hj).withGets _ _
  | close =>
    unfold Connector.close
    split_ifs
    · exact h
    · have hr := h.reset
      exact ⟨hr.dials,hr.placed,fun _ => rfl⟩
  | reset => exact h.reset
  | lost cn => exact h.shuts [cn]

end

lemma sound_of_run {history : List Event} (h : Run Step newConnector history c) : Sound c := by
  have hn : Sound newConnector := ⟨.inl ⟨rfl,rfl⟩,fun _ hc => absurd hc (Nat.not_lt_zero _),fun _ => rfl⟩
  refine h.invariant (I := fun _ c => Sound c) hn ?_
  intro _ _ _ _ ih hs
  exact ih.step hs

end

variable {c : Connector}

lemma get_keeps (c : Connector) (r : Bool) (ce : Option GoError) :
    (c.get r ce).1.closed = c.closed ∧ (c.get r ce).1.calls = c.calls ∧ (c.get r ce).1.gets = c.gets := by
  obtain ⟨_,hg⟩ | ⟨_,_,hg⟩ | ⟨_,_,hg⟩ := get_cases c r ce
  · rw [hg]
    exact ⟨rfl,rfl,rfl⟩
  · rw [hg]
    exact ⟨rfl,rfl,rfl⟩
  · rw [hg]
    obtain heq | ⟨_,heq⟩ := getAnew_cases c r ce <;> rw [heq] <;> exact ⟨rfl,rfl,rfl⟩

lemma completeDial_keeps (c : Connector) (j : ℕ) (dl : Dial) (r : Except GoError ℕ) (cd : Bool)
    (ce : Option GoError) : (c.completeDial j dl r cd ce).1.closed = c.closed ∧
      (c.completeDial j dl r cd ce).1.calls = c.calls ∧ (c.completeDial j dl r cd ce).1.gets = c.gets := by
  unfold completeDial
  cases r with
  | error => exact ⟨rfl,rfl,rfl⟩
  | ok =>
    dsimp only
    cases c.closed || cd with
    | true => exact ⟨rfl,rfl,rfl⟩
    | false => cases ce <;> exact ⟨rfl,rfl,rfl⟩

lemma close_keeps (c : Connector) : c.close.closed = true ∧ c.close.calls = c.calls ∧ c.close.gets = c.gets := by
  unfold close
  split_ifs with hc
  · exact ⟨hc,rfl,rfl⟩
  · exact ⟨rfl,rfl,rfl⟩

/-- What a step does to the calls: a `Get` begins at the top of its loop, moves on there or comes back to
it, or returns. -/
inductive Moves (c : Connector) (event : Event) (c' : Connector) : Prop
  | stays (hevent : ∀ id result, event ≠ .returned id result) (hcalls : c'.calls = c.calls) (hgets : c'.gets = c.gets)
  | begins (recursive : Bool) (hevent : event = .get c.calls) (hcalls : c'.calls = c.calls+1)
      (hgets : c'.gets = c.gets++[⟨c.calls,recursive,.check⟩])
  | goes (i : ℕ) (getter : Getter) (hi : c.gets[i]? = some getter) (stage : Stage)
      (hopen : c.closed = false ∨ stage = .check) (hevent : event = .progress) (hcalls : c'.calls = c.calls)
      (hgets : c'.gets = c.gets.set i { getter with stage := stage })
  | returns (i : ℕ) (getter : Getter) (hi : c.gets[i]? = some getter) (result : Except GoError ℕ)
      (hopen : c.closed = false ∨ getter.stage ≠ .check ∨ ∃ err, result = .error err)
      (hevent : event = .returned getter.id result) (hcalls : c'.calls = c.calls) (hgets : c'.gets = c.gets.eraseIdx i)

variable {c' : Connector} {e : Event} {history : List Event}

lemma moves_of_step (h : Step c e c') : Moves c e c' := by
  cases h with
  | get rc => exact .begins rc rfl rfl rfl
  | goes i g hi hs ce s hn =>
    obtain ⟨_,hc,hgt⟩ := get_keeps c g.recursive ce
    refine .goes i g hi s ?_ rfl hc (by rw [goTo,hgt])
    obtain ⟨_,hg⟩ | ⟨ho,_⟩ | ⟨ho,_⟩ := get_cases c g.recursive ce
    · rw [hg] at hn
      cases hn
    all_goals exact .inl ho
  | returns i g hi hs ce r hn =>
    obtain ⟨_,hc,hgt⟩ := get_keeps c g.recursive ce
    refine .returns i g hi r ?_ rfl hc (by rw [leave,hgt])
    obtain ⟨_,hg⟩ | ⟨ho,_⟩ | ⟨ho,_⟩ := get_cases c g.recursive ce
    · rw [hg] at hn
      cases hn
      exact .inr (.inr ⟨_,rfl⟩)
    all_goals exact .inl ho
  | woken i g hi => exact .goes i g hi .check (.inr rfl) rfl rfl rfl
  | givesUp i g hi channel _ er | abandons i g hi j dl _ _ _ er =>
    exact .returns i g hi (.error er) (.inr (.inr ⟨er,rfl⟩)) rfl rfl rfl
  | dialed j dl _ _ er => cases er <;> exact .stays (by rintro _ _ ⟨⟩) rfl rfl
  | completes i g hi j dl _ hs _ r _ cd ce =>
    obtain ⟨_,hc,hgt⟩ := completeDial_keeps c j dl r cd ce
    refine .returns i g hi _ (.inr (.inl ?_)) rfl hc (by rw [leave,hgt])
    rw [hs]
    rintro ⟨⟩
  | completed j dl _ _ r _ cd ce =>
    obtain ⟨_,hc,hgt⟩ := completeDial_keeps c j dl r cd ce
    exact .stays (by rintro _ _ ⟨⟩) hc hgt
  | close =>
    obtain ⟨_,hc,hgt⟩ := close_keeps c
    exact .stays (by rintro _ _ ⟨⟩) hc hgt
  | reset | lost conn _ => exact .stays (by rintro _ _ ⟨⟩) rfl rfl

lemma closed_of_step (h : Step c e c') (hc : c.closed = true) : c'.closed = true := by
  cases h with
  | goes i getter _ _ ctxErr _ _ | returns i getter _ _ ctxErr _ _ =>
    exact (get_keeps c getter.recursive ctxErr).1.trans hc
  | completes i getter _ j dl _ _ _ result _ closeDone ctxErr | completed j dl _ _ result _ closeDone ctxErr =>
    exact (completeDial_keeps c j dl result closeDone ctxErr).1.trans hc
  | close => exact (close_keeps c).1
  | dialed j dl _ _ er => cases er <;> exact hc
  | _ => exact hc

/-- The connector is closed, and the `Get` of the number has not come further than the top of its loop. -/
structure Barred (id : ℕ) (c : Connector) : Prop where
  closed : c.closed = true
  called : id < c.calls
  waits : ∀ getter ∈ c.gets, getter.id = id → getter.stage = .check

lemma Barred.step {id : ℕ} (h : Barred id c) (hs : Step c e c') : Barred id c' ∧ ∀ cn, e ≠ .returned id (.ok cn) := by
  have hcl := closed_of_step hs h.closed
  have hno : c.closed ≠ false := by simp [h.closed]
  cases moves_of_step hs with
  | stays hev hc hg =>
    exact ⟨⟨hcl,hc ▸ h.called,hg ▸ h.waits⟩,fun cn => hev id _⟩
  | begins r hev hc hg =>
    refine ⟨⟨hcl,by have := h.called; omega,fun g hm hid => ?_⟩,fun cn => by simp [hev]⟩
    rw [hg,mem_append,mem_singleton] at hm
    obtain hol | rfl := hm
    · exact h.waits g hol hid
    · rfl
  | goes i g hi s ho hev hc hg =>
    refine ⟨⟨hcl,hc ▸ h.called,fun o hm hid => ?_⟩,fun cn => by simp [hev]⟩
    rw [hg] at hm
    obtain hol | rfl := mem_or_eq_of_mem_set hm
    · exact h.waits o hol hid
    · exact ho.resolve_left hno
  | returns i g hi rs ho hev hc hg =>
    refine ⟨⟨hcl,hc ▸ h.called,fun o hm hid => ?_⟩,fun cn heq => ?_⟩
    · rw [hg] at hm
      exact h.waits o (mem_of_mem_eraseIdx hm) hid
    · rw [hev] at heq
      injection heq with hid hr
      obtain hst | ⟨er,he⟩ := ho.resolve_left hno
      · exact hst (h.waits g (mem_of_getElem? hi) hid)
      · cases hr.symm.trans he

lemma numbered_of_run (h : Run Step newConnector history c) : ∀ g ∈ c.gets, g.id < c.calls := by
  refine h.invariant (I := fun _ c => ∀ g ∈ c.gets, g.id < c.calls) (fun _ hm => by cases hm) ?_
  intro _ st e n ih hs g hm
  cases moves_of_step hs with
  | stays _ hc hg =>
    rw [hc]
    exact ih g (hg ▸ hm)
  | begins r _ hc hg =>
    rw [hg,mem_append,mem_singleton] at hm
    rw [hc]
    obtain ho | rfl := hm
    · exact (ih g ho).trans (Nat.lt_succ_self _)
    · exact Nat.lt_succ_self _
  | goes i o hi s _ _ hc hg =>
    rw [hg] at hm
    rw [hc]
    obtain ho | rfl := mem_or_eq_of_mem_set hm
    · exact ih g ho
    · exact ih o (mem_of_getElem? hi)
  | returns i o hi rs _ _ hc hg =>
    rw [hg] at hm
    rw [hc]
    exact ih g (mem_of_mem_eraseIdx hm)

lemma closed_of_run (h : Run Step newConnector history c) (hc : .close ∈ history) : c.closed = true := by
  revert hc
  refine h.invariant (I := fun history c => .close ∈ history → c.closed = true) (fun hm => by cases hm) ?_
  intro history s e n ih hs hm
  rw [mem_append,mem_singleton] at hm
  obtain ho | rfl := hm
  · exact closed_of_step hs (ih ho)
  · cases hs
    exact (close_keeps s).1

/-- A `Get` that begins when the connector is closed returns no connection. -/
lemma late_get {b a : List Event} {id : ℕ} (h : Run Step newConnector (b++.get id::a) c)
    (hc : .close ∈ b) (cn : ℕ) : .returned id (.ok cn) ∉ a := by
  obtain ⟨s,hb,hr⟩ := h.split
  obtain ⟨n,hg,ha⟩ := hr.uncons
  have hcl := closed_of_run hb hc
  have hbr : Barred id n := by
    cases hg with
    | get =>
      refine ⟨hcl,Nat.lt_succ_self _,fun g hm hid => ?_⟩
      rw [mem_append,mem_singleton] at hm
      obtain ho | rfl := hm
      · exact absurd hid (numbered_of_run hb g ho).ne
      · rfl
  have hl := ha.labels (P := fun e => ∀ cn, e ≠ .returned id (.ok cn)) hbr
    fun _ _ _ ih hs => ih.step hs
  exact fun hm => hl _ hm cn rfl

/-- In every interleaving there is one dial in flight at most; when there is none, every connection that
was produced is the current one or closed; a `Get` that begins after `Close` returns no connection; and
after `Close`, when no dial is in flight, every connection that was produced is closed. -/
theorem connector_owns_connections {history : List Event} (h : Run Step newConnector history c) : c.dials.length ≤ 1 ∧
    (c.dials = [] → ∀ conn < c.produced, c.current = some conn ∨ conn ∈ c.shut) ∧
    (∀ before id after, history = before++.get id::after → .close ∈ before → ∀ conn, .returned id (.ok conn) ∉ after) ∧
    (.close ∈ history → c.dials = [] → ∀ conn < c.produced, conn ∈ c.shut) := by
  have hs := sound_of_run h
  have hp : c.dials = [] → ∀ conn < c.produced, c.current = some conn ∨ conn ∈ c.shut := by
    intro hn conn hcn
    obtain hm | hcr | ⟨dl,hd,_⟩ := hs.placed conn hcn
    · exact .inr hm
    · exact .inl hcr
    · rw [hn] at hd
      cases hd
  refine ⟨?_,hp,?_,fun hc hn conn hcn => ?_⟩
  · obtain ⟨hn,_⟩ | ⟨dl,hdl,_⟩ := hs.dials
    · simp [hn]
    · simp [hdl]
  · rintro before id after rfl hc conn
    exact late_get h hc conn
  · obtain hcr | hm := hp hn conn hcn
    · rw [current_of_not (hs.closed (closed_of_run h hc))] at hcr
      cases hcr
    · exact hm

/-- A dial that ends after its `Get` was cancelled and the connector closed. -/
theorem connector_owns_late_connection : ∃ c, Run Step newConnector
        [.get 0,.progress,.returned 0 (.error ⟨"context canceled",false,false⟩),.close,.progress,.progress] c ∧
      c.produced = 1 ∧ 0 ∈ c.shut := by
  have hg : Run Step newConnector [.get 0,.progress] _ :=
    .cons (.get _ false) (.cons (.goes _ 0 _ rfl rfl none (.dial 0) rfl) .nil)
  have hc := (hg.snoc (.abandons _ 0 _ rfl 0 _ rfl rfl rfl ⟨"context canceled",false,false⟩)).snoc (.close _)
  have hr := (hc.snoc (.dialed _ 0 _ rfl rfl none)).snoc (.completed _ 0 _ rfl rfl (.ok 0) rfl true none)
  exact ⟨_,hr,rfl,(connector_owns_connections hr).2.2.2 (by simp) rfl 0 (by decide)⟩

end Connector

end SingBox.Transport
