import Mathlib.Tactic

/-! A write-behind cell: a value is queued in front of the place where it is kept, and writers bring it
there. A writer takes the queued entry, stores it, and drops it unless it has been replaced meanwhile. -/
namespace WriteBehind
open List

/-- A queued value; `sequence` tells it from the values it replaced, `writing` says that a writer was
started for it. -/
structure Entry (ν : Type) where
  value : ν
  sequence : ℕ
  writing : Bool

inductive Stage (ν : Type)
  | start
  | taken (hand : Entry ν)
  | stored (hand : Entry ν)

def Stage.hand? {ν : Type} : Stage ν → Option (Entry ν)
  | .start => none
  | .taken hand => some hand
  | .stored hand => some hand

structure Cell (ν γ : Type) where
  queued : Option (Entry ν)
  writers : List (Stage ν)
  content : Option γ

variable {ν γ : Type}

namespace Cell

def queue (cell : Cell ν γ) (value : ν) : Cell ν γ :=
  { cell with
    queued := some ⟨value,(cell.queued.map Entry.sequence).getD 0+1,true⟩
    writers := if (cell.queued.map Entry.writing).getD false then cell.writers else cell.writers++[.start] }

/-- One step of the writer between `before` and `after`. -/
def advance (encode : ν → γ) (cell : Cell ν γ) (before : List (Stage ν)) (stage : Stage ν)
    (after : List (Stage ν)) : Cell ν γ :=
  match stage with
  | .start =>
      match cell.queued with
      | none => { cell with writers := before++after }
      | some entry => { cell with writers := before++.taken entry::after }
  | .taken hand => { cell with writers := before++.stored hand::after, content := some (encode hand.value) }
  | .stored hand =>
      match cell.queued with
      | none => { cell with writers := before++after }
      | some entry =>
          if entry.sequence ≠ hand.sequence then { cell with writers := before++.start::after }
          else { cell with queued := none, writers := before++after }

def forget (cell : Cell ν γ) : Cell ν γ := { cell with queued := none }

def wipe (cell : Cell ν γ) : Cell ν γ := { cell with content := none }

def work (cell : Cell ν γ) : ℕ :=
  match cell.queued, cell.writers with
  | some _, [.start] => 3
  | some entry, [.taken hand] => if entry.sequence = hand.sequence then 2 else 5
  | some entry, [.stored hand] => if entry.sequence = hand.sequence then 1 else 4
  | _, _ => 0

end Cell

/-- What the writer has in hand is the queued entry or an earlier one. -/
def Stage.Follows (stage : Stage ν) (entry : Entry ν) : Prop :=
  ∀ hand, stage.hand? = some hand →
    hand.sequence ≤ entry.sequence ∧ (hand.sequence = entry.sequence → hand.value = entry.value)

inductive Sound : Cell ν γ → Prop
  | idle {writers : List (Stage ν)} {content : Option γ} (h : writers.length ≤ 1) :
      Sound ⟨none,writers,content⟩
  | live {entry : Entry ν} {stage : Stage ν} {content : Option γ} (writing : entry.writing = true)
      (follows : stage.Follows entry) : Sound ⟨some entry,[stage],content⟩

/-- The cell will keep `value`: it is queued with a writer, or stored with none left. -/
inductive Holds (encode : ν → γ) (value : ν) : Cell ν γ → Prop
  | queued {entry : Entry ν} {stage : Stage ν} {content : Option γ} (same : entry.value = value)
      (writing : entry.writing = true) (follows : stage.Follows entry)
      (stored : ∀ hand, stage = .stored hand → hand.sequence = entry.sequence →
        content = some (encode value)) : Holds encode value ⟨some entry,[stage],content⟩
  | stored : Holds encode value ⟨none,[],some (encode value)⟩

/-- Only a writer with nothing queued may have a value outside of `P` in hand. -/
structure Purged (P : ν → Prop) (cell : Cell ν γ) : Prop where
  queued : ∀ entry, cell.queued = some entry → P entry.value
  writers : ∀ stage ∈ cell.writers, ∀ hand, stage.hand? = some hand → P hand.value ∨ cell.queued = none

/-- The stored value is one of `P`. -/
def Only (encode : ν → γ) (P : ν → Prop) (cell : Cell ν γ) : Prop :=
  ∀ content, cell.content = some content → ∃ value, P value ∧ content = encode value

section
variable {en : ν → γ} {v : ν} {cl : Cell ν γ} {b a : List (Stage ν)} {st : Stage ν}

lemma eq_of_singleton {o : Stage ν} (h : [o] = b++st::a) : b = [] ∧ o = st ∧ a = [] := by
  cases b with
  | nil =>
    obtain ⟨rfl,rfl⟩ := cons.inj h
    exact ⟨rfl,rfl,rfl⟩
  | cons =>
    have hn := (cons.inj h).2
    exact absurd hn.symm (by simp)

lemma Stage.Follows.start (e : Entry ν) : Stage.Follows .start e := by
  intro ha h
  cases h

lemma Stage.Follows.taken (e : Entry ν) : Stage.Follows (.taken e) e := by
  intro ha h
  cases h
  exact ⟨le_rfl,fun _ => rfl⟩

lemma Holds.sound (h : Holds en v cl) : Sound cl := by
  cases h with
  | queued _ w fl => exact .live w fl
  | stored => exact .idle (by simp)

lemma Sound.length_writers (h : Sound cl) : cl.writers.length ≤ 1 := by
  cases h with
  | idle h => exact h
  | live => exact le_rfl

lemma Sound.queue (en : ν → γ) (h : Sound cl) (hn : cl.queued = none → cl.writers = [])
    (v : ν) : Holds en v (cl.queue v) := by
  cases h with
  | @idle writers =>
    obtain rfl : writers = [] := hn rfl
    exact .queued rfl rfl (Stage.Follows.start _) fun ha heq => by cases heq
  | @live e st c w fl =>
    have hw : Cell.queue ⟨some e,[st],c⟩ v = ⟨some ⟨v,e.sequence+1,true⟩,[st],c⟩ := by
      simp [Cell.queue,w]
    rw [hw]
    have hl : ∀ ha, st.hand? = some ha → ha.sequence < e.sequence+1 := fun ha heq =>
      Nat.lt_succ_of_le (fl ha heq).1
    refine .queued rfl rfl (fun ha heq => ⟨(hl ha heq).le,fun hs => ?_⟩) fun ha heq hs => ?_
    · exact absurd hs (hl ha heq).ne
    · subst heq
      exact absurd hs (hl ha rfl).ne

lemma Sound.advance (h : Sound cl) (hw : cl.writers = b++st::a) : Sound (cl.advance en b st a) := by
  cases h with
  | @idle =>
    have hr : (b++a).length ≤ 1 := by
      have hl := congrArg length hw
      simp only [length_append,length_cons] at hl ⊢
      omega
    have hs : ∀ o : Stage ν, (b++o::a).length ≤ 1 := by
      intro o
      have hl := congrArg length hw
      simp only [length_append,length_cons] at hl ⊢
      omega
    cases st with
    | start | stored ha => exact .idle hr
    | taken => exact .idle (hs _)
  | @live e sg' c w fl =>
    obtain ⟨rfl,rfl,rfl⟩ := eq_of_singleton hw
    cases sg' with
    | start => exact .live w (Stage.Follows.taken e)
    | taken => exact .live w fun ha' heq => fl ha' heq
    | stored =>
      simp only [Cell.advance]
      split_ifs
      · exact .live w (Stage.Follows.start e)
      · exact .idle (by simp)

lemma Sound.forget (h : Sound cl) : Sound cl.forget := .idle h.length_writers

lemma Sound.wipe (h : Sound cl) : Sound cl.wipe := by
  cases h with
  | idle h => exact .idle h
  | live w fl => exact .live w fl

variable (h : Holds en v cl)
include h

lemma Holds.advance (hw : cl.writers = b++st::a) : Holds en v (cl.advance en b st a) := by
  cases h with
  | stored => exact absurd hw (by simp)
  | @queued e sg' c sm w fl s =>
    obtain ⟨rfl,rfl,rfl⟩ := eq_of_singleton hw
    cases sg' with
    | start => exact .queued sm w (Stage.Follows.taken e) fun ha heq => by cases heq
    | taken ha =>
      refine .queued sm w (fun ha' heq => fl ha' heq) fun ha' heq hs => ?_
      cases heq
      rw [(fl ha rfl).2 hs,sm]
    | stored ha =>
      simp only [Cell.advance]
      split_ifs with hs
      · exact .queued sm w (Stage.Follows.start e) fun ha' heq => by cases heq
      · rw [s ha rfl (not_not.mp hs).symm]
        exact .stored

lemma Holds.eq_of_writers_nil (hw : cl.writers = []) : cl = ⟨none,[],some (en v)⟩ := by
  cases h with
  | queued => cases hw
  | stored => rfl

lemma Holds.value_of_queued {e : Entry ν} (hq : cl.queued = some e) : e.value = v := by
  cases h with
  | queued s =>
    cases hq
    exact s
  | stored => cases hq

lemma Holds.writers_nil_iff : cl.writers = [] ↔ cl.queued = none := by
  cases h with
  | queued _ _ _ _ | stored => simp

end

section
variable {en : ν → γ} {v : ν} {c : Cell ν γ} {b a : List (Stage ν)} {s : Stage ν}

lemma Cell.work_le (c : Cell ν γ) : c.work ≤ 5 := by
  unfold work
  split
  · omega
  · split_ifs <;> omega
  · split_ifs <;> omega
  · omega

lemma Holds.work_advance (h : Holds en v c) (hw : c.writers = b++s::a) : (c.advance en b s a).work+1 = c.work := by
  cases h with
  | stored => exact absurd hw (by simp)
  | @queued e sg' =>
    obtain ⟨rfl,rfl,rfl⟩ := eq_of_singleton hw
    cases sg' with
    | start => simp [Cell.advance,Cell.work]
    | taken =>
      simp only [Cell.advance,Cell.work,nil_append]
      split_ifs <;> rfl
    | stored =>
      simp only [Cell.advance]
      split_ifs with hs
      · simp [Cell.work,hs]
      · simp [Cell.work,not_not.mp hs]

lemma Holds.writers_of_work (h : Holds en v c) (hw : c.work = 0) : c.writers = [] := by
  cases h with
  | stored => rfl
  | @queued entry s content same writing follows stored =>
    cases s with
    | start => cases hw
    | taken ha | stored ha =>
      simp only [Cell.work] at hw
      split_ifs at hw

end

variable {en : ν → γ} {P Q : ν → Prop} {v : ν} {cl : Cell ν γ} {b af : List (Stage ν)} {s : Stage ν}

lemma Purged.mono (h : Purged P cl) (hPQ : ∀ v, P v → Q v) : Purged Q cl where
  queued entry he := hPQ _ (h.queued entry he)
  writers s hm hand hh := (h.writers s hm hand hh).imp_left (hPQ _)

lemma Only.mono (h : Only en P cl) (hPQ : ∀ v, P v → Q v) : Only en Q cl := by
  intro c hc
  obtain ⟨v,hv,rfl⟩ := h c hc
  exact ⟨v,hPQ _ hv,rfl⟩

lemma Purged.of_queued_none (h : cl.queued = none) : Purged P cl where
  queued entry he := by
    rw [h] at he
    cases he
  writers _ _ _ _ := Or.inr h

lemma Purged.wipe (h : Purged P cl) : Purged P cl.wipe := ⟨h.queued,h.writers⟩

lemma Only.wipe (cl : Cell ν γ) : Only en P cl.wipe := by
  intro c hc
  cases hc

lemma Purged.queue (h : Purged P cl) (hn : cl.queued = none → cl.writers = []) (hv : P v) : Purged P (cl.queue v) where
  queued entry he := by
    cases he
    exact hv
  writers s hm hand hh := by
    have ho : s ∈ cl.writers := by
      simp only [Cell.queue] at hm
      split_ifs at hm
      · exact hm
      · rcases mem_append.mp hm with hm | hm
        · exact hm
        · rw [mem_singleton.mp hm] at hh
          cases hh
    refine Or.inl ((h.writers s ho hand hh).resolve_right fun hq => ?_)
    rw [hn hq] at ho
    cases ho

section
variable (h : Purged P cl) (hws : cl.writers = b++s::af)
include h hws

/-- A writer that may store has a value of `P` in hand. -/
lemma Purged.hand (hq : cl.queued ≠ none) : ∀ ha, s.hand? = some ha → P ha.value := by
  intro ha hh
  have hm : s ∈ cl.writers := by simp [hws]
  exact (h.writers s hm ha hh).resolve_right hq

lemma Purged.set {sg' : Stage ν}
    (hh : ∀ hand, sg'.hand? = some hand → P hand.value ∨ cl.queued = none) {c : Option γ} :
    Purged P { cl with writers := b++sg'::af, content := c } where
  queued := h.queued
  writers other hm hand ho := by
    rcases mem_append.mp hm with hm | hm
    · exact h.writers other (by simp [hws,hm]) hand ho
    · rcases mem_cons.mp hm with rfl | hm
      · exact hh hand ho
      · exact h.writers other (by simp [hws,hm]) hand ho

lemma Purged.erase : Purged P { cl with writers := b++af } where
  queued := h.queued
  writers other hm hand ho := by
    refine h.writers other ?_ hand ho
    rcases mem_append.mp hm with hm | hm <;> simp [hws,hm]

lemma Purged.advance : Purged P (cl.advance en b s af) := by
  have hs : ∀ ha, s.hand? = some ha → P ha.value ∨ cl.queued = none := h.writers s (by simp [hws])
  cases s with
  | start =>
    simp only [Cell.advance]
    split
    · exact h.erase hws
    · rename_i e he
      refine h.set hws fun ha heq => Or.inl ?_
      cases heq
      exact h.queued e he
  | taken ha =>
    refine h.set hws fun ha' heq => ?_
    cases heq
    exact hs ha rfl
  | stored ha =>
    simp only [Cell.advance]
    split
    · exact h.erase hws
    · split_ifs
      · exact h.set hws fun ha heq => by cases heq
      · exact .of_queued_none rfl

end

/-- A writer that stores with an entry queued stores a value of `P`. -/
lemma Only.advance (h : Only en P cl) (hp : Purged P cl) (hw : cl.writers = b++s::af)
    (hq : ∀ ha, s = .taken ha → cl.queued ≠ none) : Only en P (cl.advance en b s af) := by
  intro c hc
  cases s with
  | start =>
    simp only [Cell.advance] at hc
    split at hc <;> exact h c hc
  | taken ha =>
    cases hc
    exact ⟨ha.value,hp.hand hw (hq ha rfl) ha rfl,rfl⟩
  | stored =>
    simp only [Cell.advance] at hc
    split at hc
    · exact h c hc
    · split_ifs at hc <;> exact h c hc

lemma Cell.isSome_content_advance (cl : Cell ν γ) (h : cl.content.isSome) : (cl.advance en b s af).content.isSome := by
  unfold Cell.advance
  split
  · split <;> exact h
  · rfl
  · split
    · exact h
    · split_ifs <;> exact h

end WriteBehind
