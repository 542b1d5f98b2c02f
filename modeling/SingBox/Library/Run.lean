import Mathlib.Tactic

/-! Runs of a labelled transition system, with the history of their labels. -/

/-- A run from `start` with its labels in order. -/
inductive Run {σ ε : Type} (step : σ → ε → σ → Prop) (start : σ) : List ε → σ → Prop
  | nil : Run step start [] start
  | snoc {history : List ε} {state next : σ} {label : ε} : Run step start history state →
      step state label next → Run step start (history++[label]) next

namespace Run
open List
variable {σ ε : Type} {st : σ → ε → σ → Prop} {sr : σ} {hi : List ε} {state : σ} {I : σ → Prop} {label : ε}
  {l : σ} {allowed : σ → ε → Prop} {next : σ → ε → σ} {P : σ → Prop}

section
variable {I : List ε → σ → Prop} (hst : I [] sr)
include hst

lemma invariant (hsp : ∀ hi state label next, I hi state → st state label next →
      I (hi++[label]) next) (h : Run st sr hi state) : I hi state := by
  induction h with
  | nil => exact hst
  | snoc _ hs ih => exact hsp _ _ _ _ ih hs

lemma invariant_along (hsp : ∀ hi state label next, Run st sr hi state → I hi state →
      st state label next → I (hi++[label]) next) (h : Run st sr hi state) : I hi state := by
  induction h with
  | nil => exact hst
  | snoc hr hs ih => exact hsp _ _ _ _ hr ih hs

end

lemma labels {P : ε → Prop} (hsr : I sr) (hsp : ∀ state label next, I state → st state label next → I next ∧ P label)
    (h : Run st sr hi state) : ∀ label ∈ hi, P label := by
  have hr : I state ∧ ∀ label ∈ hi, P label := by
    refine h.invariant (I := fun hi state => I state ∧ ∀ label ∈ hi, P label) ⟨hsr,by simp⟩ ?_
    rintro hi state label next ⟨hI,hP⟩ hs
    obtain ⟨hI',hl⟩ := hsp state label next hI hs
    refine ⟨hI',fun o hm => ?_⟩
    rcases mem_append.mp hm with ho | hn
    · exact hP o ho
    · rwa [mem_singleton.mp hn]
  exact hr.2

lemma mono {sp' : σ → ε → σ → Prop} (h : Run st sr hi state)
    (hle : ∀ s label s', st s label s' → sp' s label s') : Run sp' sr hi state := by
  induction h with
  | nil => exact .nil
  | snoc _ hs ih => exact .snoc ih (hle _ _ _ hs)

variable {labels : List ε}

lemma cons {next : σ} (hsp : st state label next) (h : Run st next labels l) : Run st state (label::labels) l := by
  induction h with
  | nil => exact .snoc .nil hsp
  | snoc _ hs ih => exact .snoc ih hs

lemma append {f : List ε} {m : σ} (h : Run st sr f m) {s : List ε} (h' : Run st m s l) : Run st sr (f++s) l := by
  induction h' with
  | nil => rwa [append_nil]
  | snoc _ hs ih =>
    rw [← append_assoc]
    exact .snoc ih hs

lemma split {f s : List ε} (h : Run st sr (f++s) l) : ∃ m, Run st sr f m ∧ Run st m s l := by
  generalize hh : f++s = hi at h
  induction h generalizing s with
  | nil =>
    obtain ⟨rfl,rfl⟩ := append_eq_nil_iff.mp hh
    exact ⟨sr,.nil,.nil⟩
  | @snoc hi state next label hrn hs ih =>
    rcases eq_nil_or_concat s with rfl | ⟨r,x,rfl⟩
    · rw [append_nil] at hh
      subst hh
      exact ⟨next,.snoc hrn hs,.nil⟩
    · rw [concat_eq_append,← append_assoc] at hh
      obtain ⟨hf,hls⟩ := append_inj' hh rfl
      cases hls
      obtain ⟨m,hl,hr⟩ := ih hf
      rw [concat_eq_append]
      exact ⟨m,hl,.snoc hr hs⟩

lemma eq_of_nil (h : Run st sr [] state) : state = sr := by
  generalize he : ([] : List ε) = hi at h
  cases h with
  | nil => rfl
  | snoc => exact absurd he (by simp)

lemma uncons (h : Run st sr (label::labels) l) : ∃ next, st sr label next ∧ Run st next labels l := by
  have ha : Run st sr ([label]++labels) l := h
  obtain ⟨next,hf,hr⟩ := ha.split
  generalize hh : [label] = hi at hf
  cases hf with
  | nil => cases hh
  | @snoc hi state next l hrn hs =>
    have hsp : []++[label] = hi++[l] := hh
    obtain ⟨rfl,hl⟩ := append_inj' hsp rfl
    cases hl
    obtain rfl := hrn.eq_of_nil
    exact ⟨next,hs,hr⟩

lemma exists_step (h : Run st sr hi state) {b a : List ε} (heq : hi = b++label::a) :
    ∃ s s', Run st sr b s ∧ st s label s' := by
  subst heq
  obtain ⟨s,hb,ha⟩ := h.split
  obtain ⟨s',hs,-⟩ := ha.uncons
  exact ⟨s,s',hb,hs⟩

/-- Each of the labels is allowed where it comes. -/
def Along (next : σ → ε → σ) (allowed : σ → ε → Prop) : σ → List ε → Prop
  | _, [] => True
  | state, label :: labels => allowed state label ∧ Along next allowed (next state label) labels

lemma of_along (h : Along next allowed state labels) :
    Run (fun s label s' => allowed s label ∧ s' = next s label) state labels (labels.foldl next state) := by
  induction labels generalizing state with
  | nil => exact .nil
  | cons label labels ih => exact .cons ⟨h.1,rfl⟩ (ih h.2)

/-- The property holds in every state that the labels lead to, the first one included. -/
def Throughout (next : σ → ε → σ) (P : σ → Prop) : σ → List ε → Prop
  | state, [] => P state
  | state, label :: labels => P state ∧ Throughout next P (next state label) labels

lemma Throughout.head (h : Throughout next P state labels) : P state := by
  cases labels with
  | nil => exact h
  | cons => exact h.1

/-- Under an invariant that every step keeps, a property that a step keeps exactly where it is allowed holds
throughout exactly where every step is allowed. -/
theorem along_iff_throughout_of_invariant (hI : ∀ state label, I state → I (next state label))
    (hsp : ∀ state label, I state → P state → (allowed state label ↔ P (next state label))) (labels : List ε)
    (hin : I state) (hs : P state) : Along next allowed state labels ↔ Throughout next P state labels := by
  induction labels generalizing state with
  | nil => exact ⟨fun _ => hs,fun _ => trivial⟩
  | cons label labels ih =>
    have hin' := hI state label hin
    constructor
    · rintro ⟨ha,hr⟩
      exact ⟨hs,(ih hin' ((hsp state label hin hs).mp ha)).mp hr⟩
    · rintro ⟨_,hr⟩
      have hn := hr.head
      exact ⟨(hsp state label hin hs).mpr hn,(ih hin' hn).mpr hr⟩

lemma along_iff_throughout (hsp : ∀ state label, P state → (allowed state label ↔ P (next state label)))
    (labels : List ε) (hs : P state) : Along next allowed state labels ↔ Throughout next P state labels :=
  along_iff_throughout_of_invariant (I := fun _ => True) (fun _ _ _ => trivial)
    (fun state label _ => hsp state label) labels trivial hs

lemma along_congr_of_invariant {allowed' : σ → ε → Prop}
    (hI : ∀ state label, I state → allowed state label → I (next state label))
    (hs : ∀ state label, I state → (allowed state label ↔ allowed' state label)) (labels : List ε) (hin : I state) :
    Along next allowed state labels ↔ Along next allowed' state labels := by
  induction labels generalizing state with
  | nil => exact Iff.rfl
  | cons label labels ih =>
    rw [Along,Along,← hs state label hin]
    exact and_congr_right fun ha => ih (hI state label hin ha)

/-- One of the labels comes where `Q` holds of it. -/
def Happens (next : σ → ε → σ) (Q : σ → ε → Prop) : σ → List ε → Prop
  | _, [] => False
  | state, label :: labels => Q state label ∨ Happens next Q (next state label) labels

section
variable (hI : ∀ state label, I state → I (next state label))
include hI

/-- A property that a step leaves exactly where it held or `Q` holds of the label. -/
lemma foldl_iff_happens {Q : σ → ε → Prop} (hQ : ∀ state label, I state → (P (next state label) ↔ P state ∨ Q state label))
    (labels : List ε) (hin : I state) : P (labels.foldl next state) ↔ P state ∨ Happens next Q state labels := by
  induction labels generalizing state with
  | nil => exact (or_iff_left id).symm
  | cons label labels ih => rw [foldl_cons,ih (hI state label hin),hQ state label hin,Happens,or_assoc]

lemma throughout_of_invariant (hP : ∀ state, I state → P state) (labels : List ε) (hin : I state) :
    Throughout next P state labels := by
  induction labels generalizing state with
  | nil => exact hP state hin
  | cons label labels ih => exact ⟨hP state hin,ih (hI state label hin)⟩

lemma throughout_congr_of_invariant {Q : σ → Prop} (hPQ : ∀ state, I state → (P state ↔ Q state)) (labels : List ε)
    (hin : I state) : Throughout next P state labels ↔ Throughout next Q state labels := by
  induction labels generalizing state with
  | nil => exact hPQ state hin
  | cons label labels ih => exact and_congr (hPQ state hin) (ih (hI state label hin))

end

variable (hst : ∀ state label, I state → allowed state label → I (next state label))
include hst

lemma foldl_of_along {labels : List ε}
    (hs : I state) (h : Along next allowed state labels) : I (labels.foldl next state) := by
  induction labels generalizing state with
  | nil => exact hs
  | cons label labels ih => exact ih (hst state label hs h.1) h.2

lemma throughout_of_along (hP : ∀ state, I state → P state)
    {labels : List ε} (hs : I state) (h : Along next allowed state labels) : Throughout next P state labels := by
  induction labels generalizing state with
  | nil => exact hP state hs
  | cons label labels ih => exact ⟨hP state hs,ih (hst state label hs h.1) h.2⟩

end Run
