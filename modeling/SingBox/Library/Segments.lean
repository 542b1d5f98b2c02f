import SingBox.Library.ByteProgram
import SingBox.Library.Incremental

/-! A connection whose bytes come in segments, byte programs on it, and runs of reads of a layer that gives back a
payload piece by piece. -/
namespace Segments
open List
variable {ε α σ : Type} {segments : List (List UInt8)}

/-- One `Read` into a buffer of `size` bytes; it fails where nothing is left. -/
def read (size : ℕ) (segments : List (List UInt8)) : Option (List UInt8 × List (List UInt8)) :=
  if 0 < size ∧ segments.flatten = [] then none else some (Parts.read size segments)

def next (segments : List (List UInt8)) : Option UInt8 × List (List UInt8) :=
  ((Parts.read 1 segments).1.head?,(Parts.read 1 segments).2)

/-- A program that takes its bytes from the connection. -/
def run (limit : ℕ) (p : ByteProgram ε α) (segments : List (List UInt8)) : Option (α × List (List UInt8)) :=
  match p.runOn limit next segments with
  | (.ok value,rest) => some (value,rest)
  | _ => none

/-- A read that does not go beyond `f`. -/
lemma read_append (s : ℕ) {f bc : List UInt8} (h : segments.flatten = f++bc)
    (hs : bc ≠ [] → s ≤ f.length) (hne : 0 < s → f ≠ []) :
    ∃ d lf r, read s segments = some (d,r) ∧ f = d++lf ∧ r.flatten = lf++bc ∧ d.length ≤ s ∧ (0 < s → d ≠ []) := by
  have ha := Parts.read_append s segments
  rw [h] at ha
  have hf : (Parts.read s segments).1 <+: f := by
    by_cases hb : bc = []
    · rw [hb,append_nil] at ha
      exact ⟨_,ha⟩
    · exact prefix_of_prefix_length_le ⟨_,ha⟩ (prefix_append f bc)
        ((Parts.length_read_le s segments).trans (hs hb))
  obtain ⟨lf,rfl⟩ := hf
  have hfl : 0 < s → segments.flatten ≠ [] := fun hps hn => hne hps (append_eq_nil_iff.mp (h.symm.trans hn)).1
  rw [append_assoc] at ha
  exact ⟨_,lf,_,if_neg fun he => hfl he.1 he.2,rfl,append_cancel_left ha,
    Parts.length_read_le s segments,fun hps => Parts.read_ne_nil hps (hfl hps)⟩

lemma shows_next : ByteProgram.Shows next List.flatten fun _ => True := by
  have hs : ∀ segments, (next segments).1 = segments.flatten.head? ∧ (next segments).2.flatten = segments.flatten.tail := by
    intro segments
    induction segments with
    | nil => exact ⟨rfl,rfl⟩
    | cons pr ps ih =>
      cases pr with
      | nil => exact ih
      | cons => simp [next,Parts.read]
  exact ⟨fun _ _ => trivial,fun segments _ => (hs segments).1,fun segments _ => (hs segments).2⟩

variable {p : ByteProgram ε α} {bs b : List UInt8}

lemma runOn_append {l : ℕ} {v : α} (hp : p.Parses l bs v) (h : segments.flatten = bs++b) :
    ∃ r, p.runOn l next segments = (.ok v,r) ∧ r.flatten = b := by
  obtain ⟨he,-,hr⟩ := ByteProgram.runOn_eq shows_next p trivial
  have hrn := hp b
  rw [← h] at hrn
  rw [hrn] at he
  exact ⟨_,Prod.ext he rfl,hr v b hrn⟩

variable (step : ℕ → σ → List (List UInt8) → Option (List UInt8 × σ × List (List UInt8)))

/-- Reads into buffers of these sizes, up to one that fails. -/
def reads : List ℕ → σ → List (List UInt8) → List UInt8 × σ × List (List UInt8)
  | [], state, segments => ([],state,segments)
  | size::sizes, state, segments =>
    match step size state segments with
    | none => ([],state,segments)
    | some (data,state,segments) => (data++(reads sizes state segments).1,(reads sizes state segments).2)

/-- A read gives the next piece of the payload that is left. It fails at the end only, and it moves on: `ahead` bounds
the reads that give nothing. -/
def GivesBack (I : ℕ → List UInt8 → σ → List (List UInt8) → Prop) : Prop :=
  ∀ size ahead payload state segments, I ahead payload state segments →
    (step size state segments = none ∧ ahead = 0 ∧ payload = []) ∨
    ∃ ahead' data left state' segments', step size state segments = some (data,state',segments') ∧
      payload = data++left ∧ I ahead' left state' segments' ∧
      (0 < size → ahead'+left.length < ahead+payload.length)

lemma reads_of_givesBack {I : ℕ → List UInt8 → σ → List (List UInt8) → Prop} (h : GivesBack step I) (ss : List ℕ)
    {a : ℕ} {pl : List UInt8} {s : σ} (hI : I a pl s segments) : ∃ a' lf, pl = (reads step ss s segments).1++lf ∧
      I a' lf (reads step ss s segments).2.1 (reads step ss s segments).2.2 ∧
      ((∀ sz ∈ ss, 0 < sz) → a+pl.length ≤ ss.length → a' = 0 ∧ lf = []) := by
  induction ss generalizing a pl s segments with
  | nil =>
    refine ⟨a,pl,rfl,hI,fun _ hle => ?_⟩
    simpa using hle
  | cons sz ss ih =>
    rw [reads]
    obtain ⟨hs,rfl,rfl⟩ | ⟨a',d,lf,s',segments',hs,rfl,hI',hm⟩ := h sz a pl s segments hI
    · rw [hs]
      exact ⟨0,[],rfl,hI,fun _ _ => ⟨rfl,rfl⟩⟩
    · obtain ⟨ls,lf',rfl,hl,he⟩ := ih hI'
      rw [hs]
      refine ⟨ls,lf',by rw [append_assoc],hl,fun hps hle => he (fun o hmm => hps o (by simp [hmm])) ?_⟩
      have := hm (hps sz (by simp))
      rw [length_cons] at hle
      omega

end Segments
