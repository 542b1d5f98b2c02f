import SingBox.Library.Run

/-! Groups of connections that a change of the selected outbound interrupts (`common/interrupt/group.go`), and the dials
and changes that run beside each other on one group. A dial loads the selection, dials, and then registers its connection;
a change stores the new selection and then interrupts. -/
namespace SingBox.Group
open List Function

section

/-- `groupConnItem`, with the number of the dial that made the connection. -/
structure ConnItem where
  conn : ℕ
  isExternal : Bool
  deriving DecidableEq

/-- `Interrupt` closes a connection of this kind. -/
def interrupts (external isExternal : Bool) : Bool := !isExternal || external

/-- `NewConn` and `NewPacketConn`. -/
def newConn (connections : List ConnItem) (conn : ℕ) (isExternal : Bool) : List ConnItem :=
  connections++[⟨conn,isExternal⟩]

/-- `Close` of a connection of the group. -/
def removeConn (connections : List ConnItem) (conn : ℕ) : List ConnItem := connections.filter (·.conn ≠ conn)

/-- `Interrupt`, whose argument is `interruptExternalConnections`: the connections that it closes, and those that it
leaves. -/
def interrupt (external : Bool) (connections : List ConnItem) : List ℕ × List ConnItem :=
  ((connections.filter fun item => interrupts external item.isExternal).map ConnItem.conn,
    connections.filter fun item => !interrupts external item.isExternal)

variable {cs : List ConnItem}

lemma mem_interrupt {external : Bool} {c : ℕ} : c ∈ (interrupt external cs).1 ↔
      ∃ i ∈ cs, interrupts external i.isExternal = true ∧ i.conn = c := by
  simp [interrupt,and_assoc]

lemma mem_interrupt_rest {external : Bool} {i : ConnItem} :
    i ∈ (interrupt external cs).2 ↔ i ∈ cs ∧ interrupts external i.isExternal = false := by
  simp [interrupt]

end

variable {κ ω : Type}

inductive Phase
  | selecting
  | dialing
  | failed
  | returned
  deriving DecidableEq

/-- A dial with its network; `began` counts the changes before it. -/
structure Dial (κ ω : Type) where
  slot : κ
  outbound : Option ω
  isExternal : Bool
  began : ℕ
  phase : Phase

def Dial.fail (dial : Dial κ ω) : Dial κ ω :=
  { dial with phase := if dial.phase = .returned then .returned else .failed }

lemma Dial.fail_of_returned {d : Dial κ ω} (h : d.phase = .returned) : d.fail = d := by
  cases d
  cases h
  rfl

lemma Dial.phase_fail (d : Dial κ ω) : d.fail.phase = .failed ∨ d.fail.phase = .returned := by
  rw [fail]
  split_ifs
  · exact .inr rfl
  · exact .inl rfl

@[simp] lemma Dial.fail_fail (d : Dial κ ω) : d.fail.fail = d.fail := by
  by_cases hp : d.phase = .returned
  · rw [fail_of_returned hp,fail_of_returned hp]
  · simp [fail,hp]

/-- A change that has stored another outbound in place of the former one. -/
structure Change (κ ω : Type) where
  slot : κ
  former : ω
  returned : Bool

/-- The dials, the changes in the order of their stores, the group, and the connections that are open. -/
structure Calls (κ ω : Type) where
  dials : List (Dial κ ω) := []
  changes : List (Change κ ω) := []
  connections : List ConnItem := []
  isOpen : ℕ → Bool := fun _ => false

namespace Calls

/-- A dial that has loaded the selection; without one it goes on to select an outbound. -/
def begin (calls : Calls κ ω) (slot : κ) (selected : Option ω) (isExternal : Bool) : Calls κ ω :=
  { calls with dials := calls.dials++[⟨slot,selected,isExternal,calls.changes.length,
      if selected.isSome then .dialing else .selecting⟩] }

def select (calls : Calls κ ω) (d : ℕ) (outbound : Option ω) : Calls κ ω :=
  { calls with dials := calls.dials.modify d fun dial =>
      if dial.phase = .selecting then
        { dial with outbound := outbound, phase := if outbound.isSome then .dialing else .failed }
      else dial }

def connected (calls : Calls κ ω) (d : ℕ) : Calls κ ω :=
  match calls.dials[d]? with
  | some dial =>
    if dial.phase = .dialing then
      { calls with
        dials := calls.dials.set d { dial with phase := .returned }
        connections := newConn calls.connections d dial.isExternal
        isOpen := Function.update calls.isOpen d true }
    else calls
  | none => calls

def failed (calls : Calls κ ω) (d : ℕ) : Calls κ ω := { calls with dials := calls.dials.modify d Dial.fail }

def close (calls : Calls κ ω) (d : ℕ) : Calls κ ω :=
  { calls with
    connections := removeConn calls.connections d
    isOpen := Function.update calls.isOpen d false }

def replaced (calls : Calls κ ω) (slot : κ) (former : ω) : Calls κ ω :=
  { calls with changes := calls.changes++[⟨slot,former,false⟩] }

def interrupted (calls : Calls κ ω) (external : Bool) (which : ℕ → Bool) : Calls κ ω :=
  let closed := interrupt external calls.connections
  { calls with
    changes := calls.changes.mapIdx fun c change => { change with returned := change.returned || which c }
    connections := closed.2
    isOpen := fun d => calls.isOpen d && !closed.1.contains d }

inductive Moves (external : Bool) (calls : Calls κ ω) : Calls κ ω → Prop
  | same : Moves external calls calls
  | begin (slot : κ) (selected : Option ω) (isExternal : Bool) : Moves external calls (calls.begin slot selected isExternal)
  | select (d : ℕ) (outbound : Option ω) : Moves external calls (calls.select d outbound)
  | failed (d : ℕ) : Moves external calls (calls.failed d)
  | close (d : ℕ) : Moves external calls (calls.close d)
  | replaced (slot : κ) (former : ω) : Moves external calls (calls.replaced slot former)
  | interrupted (which : ℕ → Bool) : Moves external calls (calls.interrupted external which)

/-- Every open connection is one of the group. -/
def Tracked (calls : Calls κ ω) : Prop :=
  ∀ d, calls.isOpen d = true → ∃ dial, calls.dials[d]? = some dial ∧ dial.phase = .returned ∧
    ⟨d,dial.isExternal⟩ ∈ calls.connections

/-- Dials that have returned a connection stay as they are. -/
def Kept (calls calls' : Calls κ ω) : Prop :=
  ∀ (d : ℕ) (dial : Dial κ ω), calls.dials[d]? = some dial → dial.phase = .returned → calls'.dials[d]? = some dial

section
variable (cs : Calls κ ω)

lemma kept_begin (sl : κ) (s : Option ω) (ie : Bool) : Kept cs (cs.begin sl s ie) := by
  intro d dl hdl _
  obtain ⟨hd,-⟩ := List.getElem?_eq_some_iff.mp hdl
  exact (List.getElem?_append_left hd).trans hdl

lemma kept_modify {f : Dial κ ω → Dial κ ω} (hf : ∀ dl : Dial κ ω, dl.phase = .returned → f dl = dl) (i : ℕ) :
    Kept cs { cs with dials := cs.dials.modify i f } := by
  intro d dl hd hp
  rw [getElem?_modify,hd]
  by_cases hi : i = d
  · simp [hi,hf dl hp]
  · simp [hi]

lemma kept_select (d : ℕ) (o : Option ω) : Kept cs (cs.select d o) := by
  refine cs.kept_modify (fun dl hp => ?_) d
  rw [hp,if_neg (fun h => by cases h)]

lemma kept_failed (d : ℕ) : Kept cs (cs.failed d) := cs.kept_modify (fun _ hp => Dial.fail_of_returned hp) d

end

section
variable {cs cl' : Calls κ ω}

lemma Tracked.of_kept (h : cs.Tracked) (hk : Kept cs cl') (ho : ∀ d, cl'.isOpen d = true → cs.isOpen d = true)
    (hl : ∀ i ∈ cs.connections, cl'.isOpen i.conn = true → i ∈ cl'.connections) : cl'.Tracked := by
  intro d hd
  obtain ⟨dl,hdl,hp,him⟩ := h d (ho d hd)
  exact ⟨dl,hk d dl hdl hp,hp,hl _ him hd⟩

lemma isOpen_close {d e : ℕ} (h : (cs.close d).isOpen e = true) : e ≠ d ∧ cs.isOpen e = true := by
  have hne : e ≠ d := by
    rintro rfl
    simp [Calls.close] at h
  change update cs.isOpen d false e = true at h
  rw [update_of_ne hne] at h
  exact ⟨hne,h⟩

variable {ex : Bool}

lemma isOpen_interrupted {w : ℕ → Bool} {d : ℕ} (h : (cs.interrupted ex w).isOpen d = true) :
    cs.isOpen d = true ∧ ∀ i ∈ cs.connections, i.conn = d → interrupts ex i.isExternal = false := by
  obtain ⟨ho,hc⟩ := Bool.and_eq_true_iff.mp h
  refine ⟨ho,fun i him hcn => ?_⟩
  by_contra hin
  have hm := mem_interrupt.mpr ⟨i,him,Bool.eq_true_of_not_eq_false hin,hcn⟩
  rw [contains_iff_mem.mpr hm] at hc
  cases hc

lemma Tracked.of_moves (h : cs.Tracked) (hm : Moves ex cs cl') : cl'.Tracked := by
  cases hm with
  | same => exact h
  | begin sl s ie =>
    exact h.of_kept (cs.kept_begin sl s ie) (fun _ hd => hd) fun _ him _ => him
  | select d o => exact h.of_kept (cs.kept_select d o) (fun _ hd => hd) fun _ him _ => him
  | failed d => exact h.of_kept (cs.kept_failed d) (fun _ hd => hd) fun _ him _ => him
  | close =>
    refine h.of_kept (fun _ _ hdl _ => hdl) (fun e he => (isOpen_close he).2) fun i him ho => ?_
    exact mem_filter.mpr ⟨him,decide_eq_true (isOpen_close ho).1⟩
  | replaced => exact h.of_kept (fun _ _ hdl _ => hdl) (fun _ hd => hd) fun _ him _ => him
  | interrupted =>
    refine h.of_kept (fun _ _ hdl _ => hdl) (fun d hd => (isOpen_interrupted hd).1) fun i him ho => ?_
    exact mem_interrupt_rest.mpr ⟨him,(isOpen_interrupted ho).2 i him rfl⟩

lemma connected_cases (cs : Calls κ ω) (d : ℕ) :
    (∃ dl, cs.dials[d]? = some dl ∧ dl.phase = .dialing ∧ cs.connected d = { cs with
      dials := cs.dials.set d { dl with phase := .returned }
      connections := newConn cs.connections d dl.isExternal
      isOpen := update cs.isOpen d true }) ∨
    (∀ dl, cs.dials[d]? = some dl → dl.phase ≠ .dialing) ∧ cs.connected d = cs := by
  unfold connected
  cases hd : cs.dials[d]? with
  | none =>
    refine .inr ⟨fun dl hd => ?_,rfl⟩
    cases hd
  | some dl =>
    by_cases hp : dl.phase = .dialing
    · exact .inl ⟨dl,rfl,hp,if_pos hp⟩
    · refine .inr ⟨fun o ho => ?_,if_neg hp⟩
      cases ho
      exact hp

lemma Tracked.connected (h : cs.Tracked) (d : ℕ) : (cs.connected d).Tracked := by
  obtain ⟨dl,hdl,hp,hc⟩ | ⟨-,hc⟩ := cs.connected_cases d
  · rw [hc]
    obtain ⟨hd,-⟩ := List.getElem?_eq_some_iff.mp hdl
    intro e he
    by_cases heq : e = d
    · subst heq
      exact ⟨_,List.getElem?_set_self hd,rfl,mem_append_right _ mem_cons_self⟩
    · change Function.update cs.isOpen d true e = true at he
      rw [Function.update_of_ne heq] at he
      obtain ⟨o,ho,hp,him⟩ := h e he
      exact ⟨o,(List.getElem?_set_ne (Ne.symm heq)).trans ho,hp,mem_append_left _ him⟩
  · rw [hc]
    exact h

end

variable (external : Bool)

/-- The dial began before the change, goes through the outbound that was replaced, and its connection is one to be
interrupted. -/
def Affected (dial : Dial κ ω) (c : ℕ) (change : Change κ ω) : Prop :=
  dial.began ≤ c ∧ dial.slot = change.slot ∧ dial.outbound = some change.former ∧
    interrupts external dial.isExternal = true

/-- Once a change has returned and every dial that began before it is over, no connection through the former outbound is
open. -/
def FormerClosed (calls : Calls κ ω) : Prop :=
  ∀ c change, calls.changes[c]? = some change → change.returned = true →
    (∀ (d : ℕ) (dial : Dial κ ω), calls.dials[d]? = some dial → dial.began ≤ c →
      dial.phase = .failed ∨ dial.phase = .returned) →
    ∀ d dial, calls.dials[d]? = some dial → Affected external dial c change → calls.isOpen d = false

/-- So it is now, and when some of the dials in flight have failed. -/
def Law (calls : Calls κ ω) : Prop := ∀ failing : List ℕ, FormerClosed external (failing.foldl failed calls)

/-- The same for each dial by itself. -/
def ReturnedClosed (calls : Calls κ ω) : Prop :=
  ∀ c change, calls.changes[c]? = some change → change.returned = true →
    ∀ d dial, calls.dials[d]? = some dial → Affected external dial c change → calls.isOpen d = false

/-- No change that has returned had to close the connection that the dial registers now. -/
def InTime (calls : Calls κ ω) (d : ℕ) : Prop :=
  ∀ dial, calls.dials[d]? = some dial → dial.phase = .dialing →
    ∀ c change, calls.changes[c]? = some change → change.returned = true → ¬ Affected external dial c change

variable {external} {cl ca' : Calls κ ω}

section
variable (h : ReturnedClosed external cl)
include h

lemma ReturnedClosed.of_kept (ht : cl.Tracked) (hk : Kept cl ca') (ho : ∀ d, ca'.isOpen d = true → cl.isOpen d = true)
    (hc : ∀ (c : ℕ) (change : Change κ ω), ca'.changes[c]? = some change → change.returned = true →
      cl.changes[c]? = some change) : ReturnedClosed external ca' := by
  intro c change hch hr d dl hdl ha
  by_contra hd
  have hb := ho d (Bool.eq_true_of_not_eq_false hd)
  obtain ⟨o,hol,hp,-⟩ := ht d hb
  cases (hk d o hol hp).symm.trans hdl
  rw [h c change (hc c change hch hr) hr d dl hol ha] at hb
  cases hb

lemma ReturnedClosed.of_moves (ht : cl.Tracked) (hm : Moves external cl ca') : ReturnedClosed external ca' := by
  cases hm with
  | same => exact h
  | begin sl s ie =>
    exact h.of_kept ht (cl.kept_begin sl s ie) (fun _ hd => hd) fun _ _ hch _ => hch
  | select d o =>
    exact h.of_kept ht (cl.kept_select d o) (fun _ hd => hd) fun _ _ hch _ => hch
  | failed d => exact h.of_kept ht (cl.kept_failed d) (fun _ hd => hd) fun _ _ hch _ => hch
  | close =>
    exact h.of_kept ht (fun _ _ hdl _ => hdl) (fun _ he => (isOpen_close he).2) fun _ _ hch _ => hch
  | replaced =>
    refine h.of_kept ht (fun _ _ hdl _ => hdl) (fun _ hd => hd) fun c change hch hr => ?_
    rw [Calls.replaced,getElem?_append] at hch
    split_ifs at hch with hc
    · exact hch
    · obtain rfl := mem_singleton.mp (mem_of_getElem? hch)
      cases hr
  | interrupted =>
    -- after an interrupt nothing that it closes is open
    intro c change _ _ d dl hdl ha
    by_contra hd
    obtain ⟨ho,hs⟩ := isOpen_interrupted (Bool.eq_true_of_not_eq_false hd)
    obtain ⟨ol,hol,-,him⟩ := ht d ho
    cases hol.symm.trans hdl
    cases ha.2.2.2.symm.trans (hs _ him rfl)

lemma inTime_iff (d : ℕ) : InTime external cl d ↔ ReturnedClosed external (cl.connected d) := by
  obtain ⟨dl,hdl,hp,hc⟩ | ⟨hn,hc⟩ := cl.connected_cases d
  · rw [hc]
    obtain ⟨hd,-⟩ := List.getElem?_eq_some_iff.mp hdl
    constructor
    · intro ht c change hch hr e o ho ha
      by_cases heq : e = d
      · subst heq
        cases (List.getElem?_set_self hd).symm.trans ho
        exact absurd ha (ht dl hdl hp c change hch hr)
      · change Function.update cl.isOpen d true e = false
        rw [Function.update_of_ne heq]
        exact h c change hch hr e o ((List.getElem?_set_ne (Ne.symm heq)).symm.trans ho) ha
    · intro hcl o ho _ c change hch hr ha
      cases hdl.symm.trans ho
      have hop := hcl c change hch hr d _ (List.getElem?_set_self hd) ha
      change Function.update cl.isOpen d true d = false at hop
      rw [Function.update_self] at hop
      cases hop
  · rw [hc]
    exact iff_of_true (fun dl hdl hp => absurd hp (hn dl hdl)) h

end

lemma dials_foldl_failed (cl : Calls κ ω) (f : List ℕ) (d : ℕ) :
    (f.foldl failed cl).dials[d]? = cl.dials[d]?.map fun dl => if d ∈ f then dl.fail else dl := by
  induction f generalizing cl with
  | nil => simp
  | cons e f ih =>
    rw [foldl_cons,ih,Calls.failed,getElem?_modify]
    by_cases he : e = d
    · subst he
      by_cases hm : e ∈ f <;> simp [hm,comp_def]
    · simp [he,Ne.symm he]

lemma foldl_failed (cl : Calls κ ω) (f : List ℕ) :
    (f.foldl failed cl).changes = cl.changes ∧ (f.foldl failed cl).isOpen = cl.isOpen := by
  induction f generalizing cl with
  | nil => exact ⟨rfl,rfl⟩
  | cons d f ih => exact ih (cl.failed d)

lemma law_iff (ht : cl.Tracked) : Law external cl ↔ ReturnedClosed external cl := by
  constructor
  · intro hl c change hc hr d dl hd ha
    have hal := hl (range cl.dials.length)
    obtain ⟨hch,hop⟩ := foldl_failed cl (range cl.dials.length)
    have hf : ∀ {e : ℕ} {o : Dial κ ω}, cl.dials[e]? = some o →
        ((range cl.dials.length).foldl Calls.failed cl).dials[e]? = some o.fail := by
      intro e o ho
      obtain ⟨he,-⟩ := List.getElem?_eq_some_iff.mp ho
      rw [dials_foldl_failed,ho,Option.map_some,if_pos (mem_range.mpr he)]
    rw [← hop]
    refine hal c change (hch ▸ hc) hr (fun e o ho _ => ?_) d dl.fail (hf hd) ha
    rw [dials_foldl_failed] at ho
    obtain ⟨ol,hol,rfl⟩ := Option.map_eq_some_iff.mp ho
    obtain ⟨he,-⟩ := List.getElem?_eq_some_iff.mp hol
    rw [if_pos (mem_range.mpr he)]
    exact ol.phase_fail
  · intro h f c change hc hr _
    have hcl : ∀ (f : List ℕ) (cl : Calls κ ω), cl.Tracked → ReturnedClosed external cl →
          ReturnedClosed external (f.foldl Calls.failed cl) := by
      intro f
      induction f with
      | nil => exact fun _ _ h => h
      | cons d f ih =>
        intro cl ht h
        have hm : Moves external cl (cl.failed d) := .failed d
        exact ih _ (ht.of_moves hm) (h.of_moves ht hm)
    exact hcl f cl ht h c change hc hr

lemma inTime_iff_law {σ ε : Type} {n : σ → ε → σ} {cl : σ → Calls κ ω} {cs : ε → Option ℕ}
    (hc : ∀ s e d, cs e = some d → cl (n s e) = (cl s).connected d)
    (hm : ∀ s e, cs e = none → Moves external (cl s) (cl (n s e))) (es : List ε) {st : σ} (hst : cl st = {}) :
    Run.Along n (fun s e => ∀ d, cs e = some d → InTime external (cl s) d) st es ↔
      Run.Throughout n (fun s => Law external (cl s)) st es := by
  have ht : ∀ s e, (cl s).Tracked → (cl (n s e)).Tracked := by
    intro s e h
    cases he : cs e with
    | none => exact h.of_moves (hm s e he)
    | some d =>
      rw [hc s e d he]
      exact h.connected d
  have hin : (cl st).Tracked := by simp [hst,Tracked]
  rw [Run.throughout_congr_of_invariant ht (fun s h => law_iff h) es hin]
  refine Run.along_iff_throughout_of_invariant ht (fun s e hs h => ?_) es hin ?_
  · cases he : cs e with
    | none => exact iff_of_true (by simp) (h.of_moves hs (hm s e he))
    | some d =>
      rw [hc s e d he,← inTime_iff h d]
      simp
  · simp [hst,ReturnedClosed]

end Calls

end SingBox.Group
