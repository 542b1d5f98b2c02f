import SingBox.Transport.Connector

/-! Dials of connectors inside one another: a dial may call `Get` on other connectors with its own context. -/
namespace SingBox.Transport.Connector
open Adapter

variable {ι : Type} [DecidableEq ι]

/-- `isRecursiveConnectorDial` under a nesting of dials, the innermost first: each dial puts its connector into the
context in the place of the one before. -/
def isRecursiveConnectorDial (nesting : List ι) (id : ι) : Bool := nesting.head? == some id

/-- Connectors with a nesting of dials. A `Get` out of the innermost dial starts another one, other goroutines take
steps under which the nested dials stay in progress, and the innermost dial ends. -/
inductive Nested : (ι → Connector) → List ι → Prop
  | outside (connectors : ι → Connector) (h : ∀ id, ∃ history, Run Step newConnector history (connectors id)) :
      Nested connectors []
  | dials {connectors : ι → Connector} {nesting : List ι} (h : Nested connectors nesting) (id : ι) (i : ℕ)
      (getter : Getter) (hi : (connectors id).gets[i]? = some getter) (hstage : getter.stage = .check)
      (hrecursive : getter.recursive = isRecursiveConnectorDial nesting id) (channel : ℕ)
      (hnext : ((connectors id).get getter.recursive none).2 = .go (.dial channel)) :
      Nested (Function.update connectors id (((connectors id).get getter.recursive none).1.goTo i getter (.dial channel)))
        (id::nesting)
  | others {connectors : ι → Connector} {nesting : List ι} (h : Nested connectors nesting) (id : ι) {event : Event}
      {c : Connector} (hstep : Step (connectors id) event c) (hdials : id ∈ nesting → c.dials ≠ []) :
      Nested (Function.update connectors id c) nesting
  | ends {connectors : ι → Connector} {id : ι} {nesting : List ι} (h : Nested connectors (id::nesting)) :
      Nested connectors nesting

section
variable {cs : ι → Connector} {n : List ι} {id : ι}

lemma dials_of_go {c : Connector} {r : Bool} {ch : ℕ}
    (h : (c.get r none).2 = .go (.dial ch)) : (c.get r none).1.dials ≠ [] := by
  obtain ⟨_,hg⟩ | ⟨_,_,hg⟩ | ⟨_,_,hg⟩ := get_cases c r none
  · simp [hg] at h
  · simp [hg] at h
  · rw [hg] at h ⊢
    unfold getAnew at h ⊢
    cases r with
    | true => cases h
    | false => cases hc : c.connecting <;> simp_all [cancelConnection]

lemma Nested.inProgress (h : Nested cs n) (id : ι) : Sound (cs id) ∧ (id ∈ n → (cs id).dials ≠ []) := by
  induction h with
  | outside cs h =>
    obtain ⟨history,hr⟩ := h id
    exact ⟨sound_of_run hr,by simp⟩
  | @dials cs n _ id' i g hi hs _ c hn ih =>
    by_cases hid : id = id'
    · subst hid
      rw [Function.update_self]
      exact ⟨ih.1.step (.goes _ i g hi hs none _ hn),fun _ => dials_of_go hn⟩
    · simpa [Function.update_of_ne hid,hid] using ih
  | others _ id' hst hd ih =>
    by_cases hid : id = id'
    · subst hid
      rw [Function.update_self]
      exact ⟨ih.1.step hst,hd⟩
    · simpa [Function.update_of_ne hid] using ih
  | ends _ ih => exact ⟨ih.1,fun hm => ih.2 (List.mem_cons_of_mem _ hm)⟩

end

/-- A `Get` on a connector whose dial is in progress further up the nesting returns the error of a recursive dial if
and only if that dial is the innermost one; behind others it waits, unless the connector is closed. -/
theorem get_in_nesting {connectors : ι → Connector} {nesting : List ι} {id : ι} (h : Nested connectors nesting)
    (hid : id ∈ nesting) (ctxErr : Option GoError) :
    let next := ((connectors id).get (isRecursiveConnectorDial nesting id) ctxErr).2
    (next = .return (.error errRecursiveConnectorDial) ↔ (connectors id).closed = false ∧ nesting.head? = some id) ∧
    ((∃ channel, next = .go (.wait channel)) ↔ (connectors id).closed = false ∧ nesting.head? ≠ some id) := by
  obtain ⟨hs,hd⟩ := h.inProgress id
  obtain ⟨hnl,_⟩ | ⟨d,_,hc,hn⟩ := hs.dials
  · exact absurd hnl (hd hid)
  cases hcl : (connectors id).closed with
  | true => simp [get,hcl,errTransportClosed,errRecursiveConnectorDial]
  | false =>
    by_cases hh : nesting.head? = some id <;>
      simp [get,hcl,current_of_not hn,getAnew,isRecursiveConnectorDial,hh,cancelConnection,hc]

/-- The dial of one connector, and inside it that of another. -/
lemma nested_two : Nested (fun _ : Bool => { newConnector with
      connecting := some 0, channels := 1, dials := [⟨0,false,none⟩], calls := 1, gets := [⟨0,false,.dial 0⟩] })
    [true,false] := by
  have hb : Nested (fun _ : Bool => newConnector) [] := .outside _ fun _ => ⟨[],.nil⟩
  have ho := (hb.others false (.get _ false) (by simp)).dials false 0 ⟨0,false,.check⟩ rfl rfl rfl 0 rfl
  have hin := (ho.others true (.get _ false) (by simp)).dials true 0 ⟨0,false,.check⟩ rfl rfl rfl 0 rfl
  convert hin using 1
  funext id
  cases id <;> rfl

/-- The innermost dial is refused. -/
theorem get_in_nesting_innermost : ∃ connectors : Bool → Connector, Nested connectors [true,false] ∧
    ((connectors true).get (isRecursiveConnectorDial [true,false] true) none).2 =
      .return (.error errRecursiveConnectorDial) :=
  ⟨_,nested_two,(get_in_nesting nested_two (by decide) none).1.mpr ⟨rfl,rfl⟩⟩

/-- A dial waits for the outer one, which waits for it. -/
theorem get_waits_for_its_own_dial : ∃ connectors : Bool → Connector, Nested connectors [true,false] ∧
    ((connectors false).get (isRecursiveConnectorDial [true,false] false) none).2 = .go (.wait 0) :=
  ⟨_,nested_two,rfl⟩

end SingBox.Transport.Connector
