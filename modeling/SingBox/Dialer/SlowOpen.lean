import SingBox.Library.Run

/-! Connections that are dialed by their first write: `slowOpenConn` of `common/dialer` for TCP fast open, and
`EarlyWebsocketConn` of `transport/v2raywebsocket`. The dial runs under the lock of the connection, and `Close` looks only
at the connection that has been published. -/
namespace SingBox.SlowOpen

inductive Kind
  | tfo
  | websocket (maxEarlyData : ℕ)

/-- The steps of the write that holds the lock. -/
inductive Stage
  | dialing
  | upgrading
  | late
  | storing
  | finishing (ok : Bool)

structure Request where
  content : List UInt8
  handed : List UInt8
  stage : Stage

/-- `Close` closes `done` and then looks for the connection, which it finds or not. -/
inductive Closing
  | opened
  | done
  | looked (found : Bool)
  deriving DecidableEq

structure State where
  conn : Bool := false
  created : Bool := false
  failed : Bool := false
  closing : Closing := .opened
  request : Option Request := none
  dialed : Bool := false
  isOpen : Bool := false
  /-- What each write that reported success was given and has handed to the dialed connection. -/
  written : List (List UInt8 × List UInt8) := []

/-- A write that finds the connection is one step, and so are the look of `Close` and the call that it leads to: what comes
between changes neither. `enter` is a write that found no connection and gets the lock. -/
inductive Event
  | read
  | write (content : List UInt8) (ok : Bool)
  | enter (content : List UInt8)
  | dial (ok : Bool)
  | upgrade (ok : Bool)
  | late (ok : Bool)
  | store
  | create
  | close
  | look

namespace State

def put (s : State) (r : Request) (handed : List UInt8) (stage : Stage) : State :=
  { s with request := some { r with handed := r.handed++handed, stage := stage } }

def lookForConn (s : State) : State := { s with closing := .looked s.conn, isOpen := s.isOpen && !s.conn }

/-- A step of the write `r` in the lock. -/
def advance (k : Kind) (s : State) (r : Request) : Stage → Event → State
  | .dialing, .dial ok =>
    if ok then
      let s := { s with dialed := true, isOpen := true }
      match k with
      | .tfo => s.put r r.content .storing
      | .websocket _ => s.put r [] .upgrading
    else s.put r [] (.finishing false)
  | .upgrading, .upgrade ok => match k with
    | .tfo => s
    | .websocket maxEarlyData =>
      if ok then s.put r (r.content.take maxEarlyData) (if r.content.length > maxEarlyData then .late else .storing)
      else s.put r [] (.finishing false)
  | .late, .late ok => match k with
    | .tfo => s
    | .websocket maxEarlyData =>
      if ok then s.put r (r.content.drop maxEarlyData) .storing else s.put r [] (.finishing false)
  | .storing, .store => { s.put r [] (.finishing true) with conn := true }
  | .finishing ok, .create =>
    { s with
      created := true
      failed := !ok
      request := none
      written := if ok then (r.content,r.handed) :: s.written else s.written }
  | _, _ => s

/-- An event that cannot happen leaves the state as it is. -/
def step (k : Kind) (s : State) : Event → State
  | .read => s
  | .write content ok => if s.conn && ok then { s with written := (content,content) :: s.written } else s
  | .enter content =>
    let refused := match k with
      | .tfo => s.created || s.closing ≠ .opened
      | .websocket _ => s.failed || s.conn
    if s.request.isSome || refused then s else { s with request := some ⟨content,[],.dialing⟩ }
  | .close => match k with
    | .tfo => if s.closing = .opened then { s with closing := .done } else s
    | .websocket _ => s
  | .look => match k with
    | .tfo => if s.closing = .done then s.lookForConn else s
    | .websocket _ => s.lookForConn
  | event => match s.request with
    | none => s
    | some r => s.advance k r r.stage event

/-- `Close` and all writes have returned. -/
def Settled (s : State) : Prop := s.request = none ∧ ∃ found, s.closing = .looked found

def Right (s : State) : Prop := (∀ w ∈ s.written, w.2 = w.1) ∧ (s.Settled → s.isOpen = false)

/-- What the write in the lock has come to. -/
def Underway (k : Kind) (s : State) : Option Request → Prop
  | none => s.dialed = true → s.created = true ∧ (s.failed = true ∨ s.conn = true)
  | some r => match r.stage with
    | .dialing => s.dialed = false ∧ r.handed = []
    | .upgrading => s.dialed = true ∧ s.conn = false ∧ r.handed = []
    | .late => s.dialed = true ∧ s.conn = false ∧
      ∀ maxEarlyData, k = .websocket maxEarlyData → r.handed = r.content.take maxEarlyData
    | .storing => s.dialed = true ∧ s.conn = false ∧ r.handed = r.content
    | .finishing ok => ok = true → s.conn = true ∧ r.handed = r.content

structure Valid (k : Kind) (s : State) : Prop where
  underway : Underway k s s.request
  isOpen : s.isOpen = (s.dialed && s.closing ≠ .looked true)
  dialed : s.conn = true → s.dialed = true
  found : s.closing = .looked true → s.conn = true
  written : ∀ w ∈ s.written, w.2 = w.1

variable {k : Kind} {s : State}

lemma Valid.lookForConn (h : s.Valid k) : s.lookForConn.Valid k := by
  have hu := h.underway
  obtain hc | hc := Bool.eq_false_or_eq_true s.conn
  · refine ⟨?_,by simp [State.lookForConn,hc],h.dialed,fun _ => hc,h.written⟩
    exact hu
  · have hf : s.closing ≠ .looked true := fun hf => by cases hc.symm.trans (h.found hf)
    refine ⟨hu,?_,h.dialed,by simp [State.lookForConn,hc],h.written⟩
    simpa [State.lookForConn,hc,hf] using h.isOpen

lemma Valid.put {r : Request} {d : List UInt8} {g : Stage} (h : s.Valid k)
    (hu : Underway k s (some ⟨r.content,r.handed++d,g⟩)) : (s.put r d g).Valid k :=
  ⟨hu,h.isOpen,h.dialed,h.found,h.written⟩

lemma Valid.advance {r : Request} (h : s.Valid k) (hu : Underway k s (some r)) (e : Event) :
    (s.advance k r r.stage e).Valid k := by
  obtain ⟨c,handed,st⟩ := r
  cases st with
  | dialing =>
    obtain ⟨hd,rfl⟩ := hu
    have hc : s.conn = false := by
      by_contra hc
      cases hd.symm.trans (h.dialed (by simpa using hc))
    have hf : s.closing ≠ .looked true := fun hf => by cases hc.symm.trans (h.found hf)
    cases e with
    | dial ok =>
      cases ok with
      | false => exact h.put fun hf => by cases hf
      | true =>
        cases k with
        | tfo | websocket => exact ⟨⟨rfl,hc,rfl⟩,by simpa [State.advance,State.put] using hf,fun _ => rfl,h.found,h.written⟩
    | _ => exact h
  | upgrading =>
    obtain ⟨hd,hc,rfl⟩ := hu
    cases e with
    | upgrade ok =>
      cases k with
      | tfo => exact h
      | websocket =>
        cases ok with
        | false => exact h.put fun hf => by cases hf
        | true =>
          refine h.put ?_
          split_ifs with hl
          · exact ⟨hd,hc,fun _ hk => by cases hk; rfl⟩
          · exact ⟨hd,hc,List.take_of_length_le (Nat.not_lt.mp hl)⟩
    | _ => exact h
  | late =>
    obtain ⟨hd,hc,he⟩ := hu
    cases e with
    | late ok =>
      cases k with
      | tfo => exact h
      | websocket m =>
        cases ok with
        | false => exact h.put fun hf => by cases hf
        | true => exact h.put ⟨hd,hc,(congrArg (· ++ _) (he m rfl)).trans (List.take_append_drop m c)⟩
    | _ => exact h
  | storing =>
    obtain ⟨hd,-,he⟩ := hu
    cases e with
    | store => exact ⟨fun _ => ⟨rfl,by simpa using he⟩,h.isOpen,fun _ => hd,fun _ => rfl,h.written⟩
    | _ => exact h
  | finishing ok =>
    cases e with
    | create =>
      cases ok with
      | false => exact ⟨fun _ => ⟨rfl,.inl rfl⟩,h.isOpen,h.dialed,h.found,h.written⟩
      | true =>
        obtain ⟨hc,he⟩ := hu rfl
        exact ⟨fun _ => ⟨rfl,.inr hc⟩,h.isOpen,h.dialed,h.found,List.forall_mem_cons.mpr ⟨he,h.written⟩⟩
    | _ => exact h

lemma Valid.enter (h : s.Valid k) (c : List UInt8) : (s.step k (.enter c)).Valid k := by
  simp only [State.step]
  split_ifs with hg
  · exact h
  · simp only [Bool.or_eq_true,not_or,Bool.not_eq_true,Option.isSome_eq_false_iff,Option.isNone_iff_eq_none] at hg
    have hu := h.underway
    rw [hg.1] at hu
    have hd : s.dialed = false := by
      by_contra hd
      obtain ⟨hc,hf⟩ := hu (by simpa using hd)
      cases k with
      | tfo => simp [hc] at hg
      | websocket => obtain hf | hf := hf <;> simp [hf] at hg
    exact ⟨⟨hd,rfl⟩,h.isOpen,h.dialed,h.found,h.written⟩

lemma Valid.step (h : s.Valid k) (e : Event) : (s.step k e).Valid k := by
  have hu := h.underway
  cases e with
  | read => exact h
  | write =>
    simp only [State.step]
    split_ifs
    · exact ⟨hu,h.isOpen,h.dialed,h.found,List.forall_mem_cons.mpr ⟨rfl,h.written⟩⟩
    · exact h
  | enter c => exact h.enter c
  | close =>
    cases k with
    | tfo =>
      simp only [State.step]
      split_ifs with ho
      · exact ⟨hu,by simpa [ho] using h.isOpen,h.dialed,(fun hf => by cases hf),h.written⟩
      · exact h
    | websocket => exact h
  | look =>
    cases k with
    | tfo =>
      simp only [State.step]
      split_ifs
      · exact h.lookForConn
      · exact h
    | websocket => exact h.lookForConn
  | dial | upgrade | late | store | create =>
    simp only [State.step]
    cases hr : s.request with
    | none => exact h
    | some => exact h.advance (hr ▸ hu) _

/-- A dial succeeds. -/
def Dials (s : State) (e : Event) : Prop := e = .dial true ∧ ∃ r, s.request = some r ∧ r.stage = .dialing

/-- `Close` looks for the connection after it was stored. -/
def Finds (k : Kind) (s : State) (e : Event) : Prop := e = .look ∧ s.conn = true ∧ (k = .tfo → s.closing = .done)

lemma closing_advance (r : Request) (g : Stage) (e : Event) : (s.advance k r g e).closing = s.closing := by
  fun_cases State.advance k s r g e <;> rfl

lemma dialed_advance (r : Request) (e : Event) :
    (s.advance k r r.stage e).dialed = true ↔ s.dialed = true ∨ e = .dial true ∧ r.stage = .dialing := by
  cases hg : r.stage <;> cases e <;> cases k <;> simp [State.advance,State.put] <;> split_ifs <;> simp_all

lemma dialed_step (e : Event) : (s.step k e).dialed = true ↔ s.dialed = true ∨ s.Dials e := by
  fun_cases State.step k s e <;> simp_all [Dials,State.lookForConn,dialed_advance]

lemma closing_step (h : s.Valid k) (e : Event) :
    (s.step k e).closing = .looked true ↔ s.closing = .looked true ∨ s.Finds k e := by
  have hf := h.found
  fun_cases State.step k s e <;> simp_all [Finds,State.lookForConn,closing_advance]

/-- Writes that report success have handed over all their bytes, and no connection is left open exactly where no dial has
succeeded or a `Close` has looked for the connection after it was stored. -/
theorem right_iff_found (k : Kind) (es : List Event) :
    (es.foldl (step k) {}).Right ↔ ((es.foldl (step k) {}).Settled →
      Run.Happens (step k) Dials {} es → Run.Happens (step k) (Finds k) {} es) := by
  have h0 : Valid k {} := ⟨by simp [Underway],rfl,by simp,by simp,by simp⟩
  have hk : ∀ s e, Valid k s → Valid k (s.step k e) := fun _ e h => h.step e
  have h : (es.foldl (step k) {}).Valid k := List.foldlRecOn es (step k) h0 fun s h e _ => hk s e h
  have hd := Run.foldl_iff_happens (P := fun s => s.dialed = true) hk (fun _ e _ => dialed_step e) es h0
  have hf := Run.foldl_iff_happens (P := fun s => s.closing = .looked true) hk (fun _ e h => closing_step h e) es h0
  simp only [Bool.false_eq_true,false_or,reduceCtorEq] at hd hf
  rw [← hd,← hf]
  generalize es.foldl (step k) {} = s at *
  refine (and_iff_right h.written).trans (imp_congr_right fun _ => ?_)
  rw [h.isOpen]
  simp

/-- `Close` comes while the first write dials. -/
theorem closed_while_dialing :
    ¬ (([.enter [1,2],.close,.look,.dial true,.store,.create] : List Event).foldl (step .tfo) {}).Right ∧
    ¬ (([.enter [1,2],.look,.dial true,.upgrade true,.late true,.store,.create] : List Event).foldl
      (step (.websocket 1)) {}).Right := by
  constructor
  · intro h
    cases h.2 ⟨rfl,_,rfl⟩
  · intro h
    cases h.2 ⟨rfl,_,rfl⟩

end State

end SingBox.SlowOpen
