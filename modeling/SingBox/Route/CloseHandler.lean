import SingBox.Adapter.InboundContext
import SingBox.Library.FlagRace

/-! The connection manager (`route/conn.go`) and the close handler of a connection: `NewConnection` and
`NewPacketConnection` up to the start of the two copies, and the copies, which race on the flag `done`. A stream calls
the handler when its second copy ends, a packet connection when its first one does. -/
namespace SingBox.Route
open Adapter FlagRace List

inductive Side
  | conn
  | remote
  deriving DecidableEq

/-- `copy` is the end of a copy loop. -/
inductive CopyAction
  | copy
  | closeWrite (side : Side)
  | close (side : Side)
  | onClose (err : Option GoError)
  deriving DecidableEq

def CopyAction.isOnClose : CopyAction → Bool
  | .onClose _ => true
  | _ => false

/-- `common.Close(source, destination)`. -/
def closeBoth (source destination : Side) : List CopyAction := [.close source,.close destination]

/-- `if onClose != nil { onClose(err) }`. -/
def callOnClose (handler : Bool) (err : Option GoError) : List CopyAction := if handler then [.onClose err] else []

/-- How a copy of a stream ends: the error of the copy, whether the destination can be closed for writing alone, and
the error of that. -/
structure CopyOutcome where
  copyErr : Option GoError := none
  duplex : Bool := true
  closeWriteErr : Option GoError := none

def connectionCopy (source destination : Side) (outcome : CopyOutcome) (handler : Bool) : Program CopyAction :=
  let err := match outcome.copyErr with
    | some err => some err
    | none => if outcome.duplex then outcome.closeWriteErr else none
  { todo := .copy :: match outcome.copyErr with
      | some _ => closeBoth source destination
      | none =>
          if outcome.duplex then
            .closeWrite destination :: if outcome.closeWriteErr.isSome then closeBoth source destination else []
          else [.close destination]
    ifSet := callOnClose handler err++closeBoth source destination
    ifClear := [] }

def packetConnectionCopy (source destination : Side) (err : Option GoError) (handler : Bool) : Program CopyAction :=
  { todo := [.copy]
    ifSet := closeBoth source destination
    ifClear := callOnClose handler err++closeBoth source destination }

/-- The first write to a side that has to shake hands: `needed` is `N.NeedHandshakeForWrite`, `tolerated` says that
the error is one that a write without payload may return. -/
structure HandshakeWrite where
  needed : Bool := false
  wrotePayload : Bool := false
  err : Option GoError := none
  tolerated : Bool := false

def kickWriteHandshake (source destination : Side) (write : HandshakeWrite) (done handler : Bool) :
    Option (List CopyAction) :=
  if !write.needed then none
  else match write.err with
    | none => none
    | some err =>
        if !write.wrotePayload && write.tolerated then none
        else some ((if !done then callOnClose handler (some err) else [])++closeBoth source destination)

/-- What the errors of dialing say of the destination and the outbound. -/
structure DialTarget where
  destinationAddresses : List String := []
  destination : String := ""
  outbound : Option (String × String) := none

def DialTarget.remoteString (target : DialTarget) : String :=
  if 0 < target.destinationAddresses.length then "["++",".intercalate target.destinationAddresses++"]"
  else target.destination

def DialTarget.dialerString (target : DialTarget) : String :=
  match target.outbound with
  | some (type,tag) => " using outbound/"++type++"["++tag++"]"
  | none => ""

/-- `N.CloseOnHandshakeFailure`: the connection is closed and the handler is called. -/
def closeOnHandshakeFailure (handler : Bool) (err : GoError) : List CopyAction :=
  .close .conn :: callOnClose handler (some err)

def ended (trace : List CopyAction) : System CopyAction Bool := { trace := trace, threads := fun _ => .after [] }

/-- The upload (`false`) reads from the connection, the download from the remote one. -/
def source (direction : Bool) : Side := if direction then .remote else .conn

def destination (direction : Bool) : Side := if direction then .conn else .remote

section
variable (handler : Bool) (target : DialTarget) (dialErr reportErr : Option GoError)

/-- `NewConnection` up to the start of the copies. -/
def newConnection (kick : Bool → HandshakeWrite) (outcomes : Bool → CopyOutcome) : System CopyAction Bool :=
  match dialErr with
  | some err =>
      ended (closeOnHandshakeFailure handler
        (err.cause ("open connection to "++target.remoteString++target.dialerString)))
  | none =>
      match reportErr with
      | some err => ended (.close .remote :: closeOnHandshakeFailure handler (err.cause "report handshake success"))
      | none =>
          match kickWriteHandshake .conn .remote (kick false) false handler with
          | some trace => ended trace
          | none =>
              match kickWriteHandshake .remote .conn (kick true) false handler with
              | some trace => ended trace
              | none =>
                  start [] fun direction =>
                    connectionCopy (source direction) (destination direction) (outcomes direction) handler

/-- `NewPacketConnection` up to the start of the copies. A failed report closes both sides and does not call the
handler. -/
def newPacketConnection (udpConnect : Bool) (copyErrs : Bool → Option GoError) : System CopyAction Bool :=
  match dialErr with
  | some err =>
      ended (closeOnHandshakeFailure handler (err.cause (if udpConnect then
        "open packet connection to "++target.remoteString++target.dialerString
        else "listen packet connection using "++target.dialerString)))
  | none =>
      match reportErr with
      | some _ => ended [.close .conn,.close .remote]
      | none =>
          start [] fun direction =>
            packetConnectionCopy (source direction) (destination direction) (copyErrs direction) handler

end

inductive Transfer
  | stream (kick : Bool → HandshakeWrite) (outcomes : Bool → CopyOutcome)
  | packet (udpConnect : Bool) (copyErrs : Bool → Option GoError)

/-- A connection that the manager gets, with all that happens to it. -/
structure Handed where
  handler : Bool
  target : DialTarget := {}
  dialErr : Option GoError := none
  reportErr : Option GoError := none
  transfer : Transfer

namespace Handed

def programs (h : Handed) (direction : Bool) : Program CopyAction :=
  match h.transfer with
  | .stream _ outcomes => connectionCopy (source direction) (destination direction) (outcomes direction) h.handler
  | .packet _ copyErrs =>
      packetConnectionCopy (source direction) (destination direction) (copyErrs direction) h.handler

def opened (h : Handed) : System CopyAction Bool :=
  match h.transfer with
  | .stream kick outcomes => newConnection h.handler h.target h.dialErr h.reportErr kick outcomes
  | .packet udpConnect copyErrs => newPacketConnection h.handler h.target h.dialErr h.reportErr udpConnect copyErrs

/-- The handler is not called where a packet connection cannot report its success. -/
def ForgetsHandler (h : Handed) : Prop :=
  (∃ udpConnect copyErrs, h.transfer = .packet udpConnect copyErrs) ∧ h.dialErr = none ∧ h.reportErr ≠ none ∧
    h.handler = true

/-- The copy has not ended. -/
def Copying (h : Handed) (s : System CopyAction Bool) (direction : Bool) : Prop :=
  s.threads direction = .before (h.programs direction)

/-- Nothing moves by itself: who has not ended is copying, between two open sides. -/
def AtRest (h : Handed) (s : System CopyAction Bool) : Prop :=
  ∀ direction, (s.threads direction).Finished ∨ h.Copying s direction ∧ ∀ side, .close side ∉ s.trace

/-- The copy ends without an error and closes its destination for writing only. -/
def HalfCloses (h : Handed) (direction : Bool) : Prop :=
  ∃ kick outcomes, h.transfer = .stream kick outcomes ∧ (outcomes direction).copyErr = none ∧
    (outcomes direction).duplex = true ∧ (outcomes direction).closeWriteErr = none

/-- Under every schedule the handler is called at most once, and once by the end, when the sides are closed. A
connection comes to rest before its end only while it is copied in both directions, or in one after the other one has
been half closed, and ends when the copies do. -/
structure Handled (h : Handed) : Prop where
  atMostOnce : ∀ schedule, (h.opened.run schedule).trace.countP CopyAction.isOnClose ≤ h.handler.toNat
  once : ∀ schedule, (∀ direction, ((h.opened.run schedule).threads direction).Finished) →
    (h.opened.run schedule).trace.countP CopyAction.isOnClose = h.handler.toNat ∧
    .close .conn ∈ (h.opened.run schedule).trace ∧ (h.dialErr = none → .close .remote ∈ (h.opened.run schedule).trace)
  rests : ∀ schedule, h.AtRest (h.opened.run schedule) →
    (∀ direction, ((h.opened.run schedule).threads direction).Finished) ∨
    (∀ direction, h.Copying (h.opened.run schedule) direction) ∨
    ∃ direction, h.HalfCloses direction ∧ ((h.opened.run schedule).threads direction).Finished ∧
      h.Copying (h.opened.run schedule) (!direction)
  ends : ∀ schedule, (∀ direction, (h.opened.threads direction).left ≤ schedule.count direction) →
    ∀ direction, ((h.opened.run schedule).threads direction).Finished

end Handed

lemma run_ended (t : List CopyAction) (sc : List Bool) : (ended t).run sc = ended t := by
  induction sc with
  | nil => rfl
  | cons d sc ih => exact ih

@[simp] lemma countP_callOnClose (handler : Bool) (e : Option GoError) :
    (callOnClose handler e).countP CopyAction.isOnClose = handler.toNat := by
  cases handler <;> rfl

@[simp] lemma countP_closeBoth (sr d : Side) : (closeBoth sr d).countP CopyAction.isOnClose = 0 := rfl

/-- What a manager that does not come to the copies leaves behind. -/
structure Over (h : Handed) (trace : List CopyAction) : Prop where
  calls : h.ForgetsHandler ∧ trace.countP CopyAction.isOnClose = 0 ∨
    ¬ h.ForgetsHandler ∧ trace.countP CopyAction.isOnClose = h.handler.toNat
  conn : .close .conn ∈ trace
  remote : h.dialErr = none → .close .remote ∈ trace

lemma over_closeOnHandshakeFailure {h : Handed} (hk : ¬ h.ForgetsHandler) (hd : h.dialErr ≠ none) (e : GoError) :
    Over h (closeOnHandshakeFailure h.handler e) := by
  refine ⟨.inr ⟨hk,?_⟩,mem_cons_self,fun hn => absurd hn hd⟩
  rw [closeOnHandshakeFailure,countP_cons,countP_callOnClose]
  rfl

lemma over_kickWriteHandshake {h : Handed} (hk : ¬ h.ForgetsHandler) (d : Bool) {w : HandshakeWrite}
    {t : List CopyAction} (hkc : kickWriteHandshake (source d) (destination d) w false h.handler = some t) :
    Over h t := by
  unfold kickWriteHandshake at hkc
  cases he : w.err with
  | none =>
    rw [he] at hkc
    split_ifs at hkc
  | some =>
    rw [he] at hkc
    split_ifs at hkc with _ _ hf
    · obtain rfl := Option.some.inj hkc
      refine ⟨.inr ⟨hk,?_⟩,?_,fun _ => ?_⟩
      · simp
      all_goals cases d <;> simp [closeBoth,source,destination]
    · exact absurd rfl hf

lemma opened_cases (h : Handed) : (∃ t, h.opened = ended t ∧ Over h t) ∨
    ¬ h.ForgetsHandler ∧ h.opened = start [] h.programs := by
  obtain ⟨handler,target,dialErr,reportErr,tr⟩ := h
  cases tr with
  | stream k os =>
    have hk : ¬ Handed.ForgetsHandler ⟨handler,target,dialErr,reportErr,.stream k os⟩ := by
      rintro ⟨⟨_,_,ht⟩,_⟩
      cases ht
    rw [Handed.opened]
    dsimp only
    cases dialErr with
    | some e => exact .inl ⟨_,rfl,over_closeOnHandshakeFailure hk (Option.some_ne_none e) _⟩
    | none =>
      cases reportErr with
      | some =>
        refine .inl ⟨_,rfl,.inr ⟨hk,?_⟩,?_,fun _ => mem_cons_self⟩
        · rw [closeOnHandshakeFailure,countP_cons,countP_cons,countP_callOnClose]
          rfl
        · exact mem_cons_of_mem _ mem_cons_self
      | none =>
        rw [newConnection]
        cases hu : kickWriteHandshake .conn .remote (k false) false handler with
        | some => exact .inl ⟨_,rfl,over_kickWriteHandshake hk false hu⟩
        | none =>
          cases hd : kickWriteHandshake .remote .conn (k true) false handler with
          | some => exact .inl ⟨_,rfl,over_kickWriteHandshake hk true hd⟩
          | none => exact .inr ⟨hk,rfl⟩
  | packet uc ce =>
    rw [Handed.opened]
    cases dialErr with
    | some e =>
      have hk : ¬ Handed.ForgetsHandler ⟨handler,target,some e,reportErr,.packet uc ce⟩ := by
        rintro ⟨_,hdl,_⟩
        cases hdl
      exact .inl ⟨_,rfl,over_closeOnHandshakeFailure hk (Option.some_ne_none e) _⟩
    | none =>
      cases reportErr with
      | some e =>
        refine .inl ⟨_,rfl,?_,mem_cons_self,fun _ => mem_cons_of_mem _ mem_cons_self⟩
        cases handler with
        | true => exact .inl ⟨⟨⟨_,_,rfl⟩,rfl,Option.some_ne_none e,rfl⟩,rfl⟩
        | false => exact .inr ⟨fun hf => (by cases hf.2.2.2),rfl⟩
      | none =>
        refine .inr ⟨?_,rfl⟩
        rintro ⟨_,_,hr,_⟩
        exact hr rfl

section
variable (h : Handed) {o : List Bool}

lemma order_cases (hn : o.Nodup) : o = [] ∨ ∃ first, o = [first] ∨ o = [first,!first] := by
  match o with
  | [] => exact .inl rfl
  | [first] => exact .inr ⟨first,.inl rfl⟩
  | first::second::[] =>
    refine .inr ⟨first,.inr ?_⟩
    rw [nodup_cons,mem_singleton] at hn
    rw [Bool.eq_not_of_ne (fun heq => hn.1 heq.symm)]
  | first::second::third::rest =>
    exact absurd hn.length_le_card (by simp)

lemma countP_todo (d : Bool) : (h.programs d).todo.countP CopyAction.isOnClose = 0 := by
  unfold Handed.programs
  cases h.transfer with
  | stream k os =>
    dsimp only
    unfold connectionCopy
    cases (os d).copyErr with
    | some => rfl
    | none =>
      split_ifs <;> rfl
  | packet => rfl

variable (f : Bool)

lemma countP_afterSwaps : (afterSwaps h.programs [f,!f]).countP CopyAction.isOnClose = h.handler.toNat := by
  simp only [afterSwaps,flatMap_cons,flatMap_nil,append_nil,countP_append]
  unfold Handed.programs
  cases h.transfer with
  | stream => simp [connectionCopy]
  | packet => simp [packetConnectionCopy]

lemma close_mem_afterSwaps (sd : Side) : .close sd ∈ afterSwaps h.programs [f,!f] := by
  have hb : ∀ d, CopyAction.close sd ∈ closeBoth (source d) (destination d) := by
    intro d
    cases d <;> cases sd <;> decide
  simp only [afterSwaps,flatMap_cons,flatMap_nil,append_nil,mem_append]
  refine .inr ?_
  unfold Handed.programs
  cases h.transfer with
  | stream => exact mem_append_right _ (hb (!f))
  | packet => exact hb (!f)

lemma close_mem_of_first (hc : ¬ h.HalfCloses f) : ∃ sd, .close sd ∈ (h.programs f).todo++(h.programs f).ifClear := by
  unfold Handed.programs
  cases ht : h.transfer with
  | packet =>
    exact ⟨source f,mem_append_right _ (mem_append_right _ mem_cons_self)⟩
  | stream k os =>
    refine ⟨destination f,mem_append_left _ (mem_cons_of_mem _ ?_)⟩
    cases hcp : (os f).copyErr with
    | some => exact mem_cons_of_mem _ mem_cons_self
    | none =>
      split_ifs with hd he
      · exact mem_cons_of_mem _ (mem_cons_of_mem _ mem_cons_self)
      · refine absurd ⟨k,os,ht,hcp,hd,?_⟩ hc
        simpa using he
      · exact mem_cons_self

variable {h} {s : System CopyAction Bool}

lemma countP_progress (hp : Progress h.programs [] s o) :
    s.trace.countP CopyAction.isOnClose ≤ (afterSwaps h.programs o).countP CopyAction.isOnClose := by
  have hle := Multiset.countP_le_of_le (CopyAction.isOnClose · = true) hp.trace_le
  rw [Fintype.sum_bool] at hle
  simpa [countP_todo] using hle

lemma halfCloses_of_rest (hp : Progress h.programs [] s o)
    {d : Bool} (hf : (s.threads d).Finished) (hc : h.Copying s (!d))
    (hop : ∀ sd, .close sd ∉ s.trace) : h.HalfCloses d := by
  have hov : d ∈ o := by
    by_contra hn
    obtain ⟨t,ht⟩ := hp.before d hn
    rw [hf] at ht
    cases ht
  have hn : (!d) ∉ o := by
    intro hm
    obtain ⟨t,ht⟩ := hp.after _ hm
    rw [hc] at ht
    cases ht
  obtain rfl : o = [d] := by
    obtain rfl | ⟨f,rfl | rfl⟩ := order_cases hp.nodup
    · exact absurd hov not_mem_nil
    · rw [mem_singleton.mp hov]
    · cases d <;> cases f <;> simp at hn
  have htr : (s.trace : Multiset CopyAction) = ((h.programs d).todo++(h.programs d).ifClear : List CopyAction) := by
    have hd := hp.done
    have hs : (s.threads d).todo = [] := by
      rw [hf]
      rfl
    have ho : (s.threads (!d)).todo = (h.programs (!d)).todo := by
      rw [hc]
      rfl
    simp only [Fintype.sum_bool,afterSwaps,flatMap_nil,append_nil,Multiset.coe_nil,zero_add] at hd
    rw [← Multiset.coe_add]
    cases d with
    | false =>
      simp only [Bool.not_false] at ho
      rw [hs,ho,Multiset.coe_nil,add_zero,add_comm,add_assoc] at hd
      exact add_left_cancel hd
    | true =>
      simp only [Bool.not_true] at ho
      rw [hs,ho,Multiset.coe_nil,zero_add,add_comm (_ : Multiset CopyAction) ((h.programs false).todo : Multiset CopyAction),
        add_comm ((h.programs true).todo : Multiset CopyAction),add_assoc] at hd
      exact add_left_cancel hd
  by_contra hcl
  obtain ⟨sd,hm⟩ := close_mem_of_first h d hcl
  refine hop sd (Multiset.mem_coe.mp ?_)
  rw [htr]
  exact Multiset.mem_coe.mpr hm

lemma handled_of_start (ho : h.opened = start [] h.programs) : h.Handled := by
  have hrn : ∀ sc, ∃ o, Progress h.programs [] (h.opened.run sc) o := by
    intro sc
    rw [ho]
    have hs : Progress h.programs [] (start [] h.programs) [] := progress_start
    exact hs.run sc
  refine ⟨fun sc => ?_,fun sc hf => ?_,fun sc hr => ?_,fun sc htr => ?_⟩
  · obtain ⟨o,hp⟩ := hrn sc
    refine (countP_progress hp).trans ?_
    obtain rfl | ⟨f,rfl | rfl⟩ := order_cases hp.nodup
    · exact Nat.zero_le _
    · refine le_trans ?_ (countP_afterSwaps h f).le
      simp only [afterSwaps,countP_append]
      exact Nat.add_le_add_left (Nat.zero_le _) _
    · exact (countP_afterSwaps h f).le
  · obtain ⟨o,hp⟩ := hrn sc
    obtain ⟨ha,ht⟩ := hp.finished hf
    obtain rfl | ⟨f,rfl | rfl⟩ := order_cases hp.nodup
    · exact absurd (ha true) not_mem_nil
    · have := ha (!f)
      simp at this
    · have hc := congrArg (Multiset.countP (CopyAction.isOnClose · = true)) ht
      rw [Fintype.sum_bool] at hc
      have hcl : ∀ sd, .close sd ∈ (h.opened.run sc).trace := by
        intro sd
        rw [← Multiset.mem_coe,ht]
        exact Multiset.mem_add.mpr (.inr (Multiset.mem_coe.mpr (close_mem_afterSwaps h f sd)))
      refine ⟨?_,hcl .conn,fun _ => hcl .remote⟩
      simpa [countP_todo,countP_afterSwaps] using hc
  · obtain ⟨o,hp⟩ := hrn sc
    obtain hu | ⟨hu,hop⟩ := hr false
    · obtain hd | ⟨hd,hop⟩ := hr true
      · exact .inl fun d => (by cases d; exacts [hu,hd])
      · exact .inr (.inr ⟨false,halfCloses_of_rest hp hu hd hop,hu,hd⟩)
    · obtain hd | ⟨hd,-⟩ := hr true
      · exact .inr (.inr ⟨true,halfCloses_of_rest hp hd hu hop,hd,hu⟩)
      · exact .inr (.inl fun d => (by cases d; exacts [hu,hd]))
  · exact finished_run h.opened htr

end

/-- The close handler is called once, and both sides are closed, under every schedule of every connection but a packet
connection that cannot report its success. -/
theorem handled_iff_not_forgetsHandler (h : Handed) : h.Handled ↔ ¬ h.ForgetsHandler := by
  obtain ⟨t,ho,hov⟩ | ⟨hk,ho⟩ := opened_cases h
  · have hr : ∀ sc, h.opened.run sc = ended t := by
      intro sc
      rw [ho,run_ended]
    constructor
    · intro hh hf
      have hc : t.countP CopyAction.isOnClose = 0 := by
        obtain ⟨-,hn⟩ | ⟨hk,-⟩ := hov.calls
        · exact hn
        · exact absurd hf hk
      have hon := (hh.once [] fun _ => (by rw [hr]; rfl)).1
      rw [hr,hf.2.2.2] at hon
      exact absurd (hc.symm.trans hon) (by decide)
    · intro hk
      have hc : t.countP CopyAction.isOnClose = h.handler.toNat := by
        obtain ⟨hf,-⟩ | ⟨-,hon⟩ := hov.calls
        · exact absurd hf hk
        · exact hon
      refine ⟨fun sc => ?_,fun sc _ => ?_,fun sc _ => .inl fun d => ?_,fun sc _ d => ?_⟩
      · rw [hr]
        exact hc.le
      · rw [hr]
        exact ⟨hc,hov.conn,hov.remote⟩
      all_goals
        rw [hr]
        rfl
  · exact ⟨fun _ => hk,fun _ => handled_of_start ho⟩

/-- A packet connection whose success cannot be reported is closed, and its handler never hears of it. -/
theorem unreported_packet_connection_forgets_handler : ∃ h : Handed, h.handler = true ∧
    h.reportErr = some { text := "broken pipe" } ∧ (∀ schedule, ∀ a ∈ (h.opened.run schedule).trace, a.isOnClose = false) ∧
    ∀ schedule direction, ((h.opened.run schedule).threads direction).Finished := by
  refine ⟨{ handler := true, reportErr := some { text := "broken pipe" }, transfer := .packet false fun _ => none },
    rfl,rfl,?_,?_⟩
  · intro schedule a ha
    change a ∈ ((ended [.close .conn,.close .remote]).run schedule).trace at ha
    rw [run_ended] at ha
    fin_cases ha <;> rfl
  · intro schedule direction
    change (((ended [.close .conn,.close .remote]).run schedule).threads direction).Finished
    rw [run_ended]
    rfl

end SingBox.Route
