import SingBox.Library.Outcome

/-! Computations over buffers that give a value or an error, or never come back: an index out of range or a bad
argument stops the program, and a loop may go on forever. -/

inductive Crash
  | outOfBounds
  | invalidArgument
  | endless
  deriving DecidableEq

inductive Stop (ε : Type)
  | failed (err : ε)
  | crashed (reason : Crash)
  deriving DecidableEq

abbrev Checked (ε α : Type) := Except (Stop ε) α

namespace Checked
open List
variable {ε α β : Type}

def fail (err : ε) : Checked ε α := .error (.failed err)

def crash (reason : Crash) : Checked ε α := .error (.crashed reason)

def ofExcept : Except ε α → Checked ε α
  | .ok value => .ok value
  | .error err => fail err

def reject (c : Prop) [Decidable c] (err : ε) : Checked ε Unit := if c then fail err else pure ()

def get (buffer : List α) (i : ℕ) : Checked ε α :=
  match buffer[i]? with
  | some value => pure value
  | none => crash .outOfBounds

def slice (buffer : List α) (low high : ℕ) : Checked ε (List α) :=
  if low ≤ high ∧ high ≤ buffer.length then pure ((buffer.take high).drop low) else crash .outOfBounds

def sliceFrom (buffer : List α) (low : ℕ) : Checked ε (List α) :=
  if low ≤ buffer.length then pure (buffer.drop low) else crash .outOfBounds

/-- The computation comes back. -/
def Returns (x : Checked ε α) : Prop := ∀ reason, x ≠ crash reason

/-- The computation comes back, and its value has the property. -/
def Meets (x : Checked ε α) (P : α → Prop) : Prop := Returns x ∧ ∀ value, x = .ok value → P value

section
variable {x : Checked ε α} {f : α → Checked ε β}

lemma ok_bind (v : α) (f : α → Checked ε β) : (.ok v : Checked ε α) >>= f = f v := rfl

variable {c : Prop}

lemma reject_eq_ok [Decidable c] {e : ε} {u : Unit} : reject c e = .ok u ↔ ¬ c := by
  rw [reject]
  split_ifs with hc
  · exact ⟨fun h => (by cases h),fun h => absurd hc h⟩
  · exact ⟨fun _ => hc,fun _ => rfl⟩

lemma reject_bind [Decidable c] (hc : ¬ c) (e : ε) (f : Unit → Checked ε β) : reject c e >>= f = f () := by
  rw [reject,if_neg hc]
  rfl

lemma reject_bind_of [Decidable c] (hc : c) (e : ε) (f : Unit → Checked ε β) : reject c e >>= f = fail e := by
  rw [reject,if_pos hc]
  rfl

lemma ofExcept_eq_ok {r : Except ε α} {v : α} : ofExcept r = .ok v ↔ r = .ok v := by
  cases r with
  | error => exact ⟨fun h => (by cases h),fun h => (by cases h)⟩
  | ok => exact ⟨fun h => (by cases h; rfl),fun h => (by cases h; rfl)⟩

lemma get_eq_ok {bf : List α} {i : ℕ} {v : α} : (get bf i : Checked ε α) = .ok v ↔ bf[i]? = some v := by
  rw [get]
  cases bf[i]? with
  | none => exact ⟨fun h => (by cases h),fun h => (by cases h)⟩
  | some =>
    constructor
    all_goals
      intro h
      cases h
      rfl

lemma get_ne_fail (bf : List α) (i : ℕ) (e : ε) : get bf i ≠ fail e := by
  rw [get]
  cases bf[i]? with
  | none | some value => exact nofun

variable {b p : List α}

lemma ite_eq_ok {condition : Prop} [Decidable condition] {value value' : α} {reason : Crash} :
    (if condition then pure value else crash reason : Checked ε α) = .ok value' ↔ condition ∧ value' = value := by
  split_ifs with h
  · constructor
    · intro heq
      cases heq
      exact ⟨h,rfl⟩
    · rintro ⟨-,rfl⟩
      rfl
  · exact ⟨fun heq => (by cases heq),fun heq => absurd heq.1 h⟩

lemma slice_eq_ok {low high : ℕ} : (slice b low high : Checked ε (List α)) = .ok p ↔
      (low ≤ high ∧ high ≤ b.length) ∧ p = (b.take high).drop low := ite_eq_ok

lemma sliceFrom_eq_ok {low : ℕ} :
    (sliceFrom b low : Checked ε (List α)) = .ok p ↔ low ≤ b.length ∧ p = b.drop low := ite_eq_ok

lemma bind_eq_crash {r : Crash} : x >>= f = crash r ↔ x = crash r ∨ ∃ v, x = .ok v ∧ f v = crash r := by
  cases x with
  | error =>
    constructor
    · intro h
      cases h
      exact .inl rfl
    · rintro (h | ⟨v,h,-⟩)
      · cases h
        rfl
      · cases h
  | ok v =>
    constructor
    · exact fun h => .inr ⟨v,rfl,h⟩
    · rintro (h | ⟨v',h,hf⟩)
      · cases h
      · cases h
        exact hf

lemma slice_ne_endless (b : List α) (low high : ℕ) : (slice b low high : Checked ε (List α)) ≠ crash .endless := by
  rw [slice]
  split_ifs <;> exact nofun

end

section
variable {x : Checked ε α} {f : α → Checked ε β}

lemma returns_ok (v : α) : Returns (.ok v : Checked ε α) := fun _ h => by cases h

lemma returns_pure (v : α) : Returns (pure v : Checked ε α) := returns_ok v

lemma returns_fail (err : ε) : Returns (fail err : Checked ε α) := fun _ h => by cases h

lemma not_returns_crash (reason : Crash) : ¬ Returns (crash reason : Checked ε α) := fun h => h reason rfl

lemma returns_ofExcept (r : Except ε α) : Returns (ofExcept r) := by
  cases r with
  | error e => exact returns_fail e
  | ok v => exact returns_ok v

lemma returns_reject (c : Prop) [Decidable c] (e : ε) : Returns (reject c e) := by
  rw [reject]
  split_ifs
  · exact returns_fail e
  · exact returns_pure ()

variable {b : List α}

lemma returns_get_iff {i : ℕ} : Returns (get b i : Checked ε α) ↔ i < b.length := by
  rw [get]
  by_cases h : i < b.length
  · rw [getElem?_eq_getElem h]
    exact ⟨fun _ => h,fun _ => returns_pure _⟩
  · rw [getElem?_eq_none (not_lt.mp h)]
    exact ⟨fun hr => absurd hr (not_returns_crash _),fun hlt => absurd hlt h⟩

lemma returns_slice_iff {low high : ℕ} :
    Returns (slice b low high : Checked ε (List α)) ↔ low ≤ high ∧ high ≤ b.length := by
  rw [slice]
  split_ifs with h
  · exact ⟨fun _ => h,fun _ => returns_pure _⟩
  · exact ⟨fun hr => absurd hr (not_returns_crash _),fun hle => absurd hle h⟩

lemma returns_sliceFrom {low : ℕ} (h : low ≤ b.length) : Returns (sliceFrom b low : Checked ε (List α)) := by
  rw [sliceFrom,if_pos h]
  exact returns_pure _

lemma returns_bind_iff : Returns (x >>= f) ↔ Returns x ∧ ∀ v, x = .ok v → Returns (f v) := by
  cases x with
  | error =>
    constructor
    · intro h
      exact ⟨fun r heq => h r (by rw [heq]; rfl),fun v heq => by cases heq⟩
    · rintro ⟨h,-⟩ r heq
      refine h r ?_
      cases heq
      rfl
  | ok v =>
    constructor
    · intro h
      exact ⟨returns_ok v,fun v' heq => by cases heq; exact h⟩
    · rintro ⟨-,h⟩
      exact h v rfl

lemma Returns.bind (hx : Returns x) (hf : ∀ v, x = .ok v → Returns (f v)) : Returns (x >>= f) :=
  returns_bind_iff.mpr ⟨hx,hf⟩

lemma Returns.of_reject {c : Prop} [Decidable c] {e : ε} {f : Unit → Checked ε β} (h : ¬ c → Returns (f ())) :
    Returns (reject c e >>= f) :=
  (returns_reject c e).bind fun () hok => h (reject_eq_ok.mp hok)

lemma returns_bind_of_eq {v : α} (h : x = .ok v) : Returns (x >>= f) ↔ Returns (f v) := by
  rw [h]
  rfl

lemma returns_mapM_iff {f : α → Checked ε β} {xs : List α} (hf : ∀ x ∈ xs, ∀ e, f x ≠ fail e) :
    Returns (xs.mapM f) ↔ ∀ x ∈ xs, Returns (f x) := by
  induction xs with
  | nil => exact ⟨fun _ x hx => absurd hx not_mem_nil,fun _ => returns_pure []⟩
  | cons x xs ih =>
    have hrs := ih fun y hy => hf y (mem_cons_of_mem x hy)
    rw [mapM_cons,returns_bind_iff,forall_mem_cons]
    refine and_congr_right fun hx => ?_
    cases hr : f x with
    | error s =>
      cases s with
      | failed e => exact absurd hr (hf x mem_cons_self e)
      | crashed r => exact absurd hr (hx r)
    | ok v =>
      constructor
      · intro h
        exact hrs.mp (returns_bind_iff.mp (h v rfl)).1
      · intro h v' _
        exact (hrs.mpr h).bind fun vs _ => returns_pure _

end

variable {x : Checked ε α} {f : α → Checked ε β} {P : β → Prop}

lemma meets_pure {v : β} (h : P v) : Meets (pure v : Checked ε β) P :=
  ⟨returns_pure v,fun v' heq => by cases heq; exact h⟩

lemma meets_fail (err : ε) : Meets (fail err : Checked ε β) P := ⟨returns_fail err,fun v heq => by cases heq⟩

lemma Meets.of_bind (hx : Returns x) (hf : ∀ v, x = .ok v → Meets (f v) P) : Meets (x >>= f) P := by
  refine ⟨hx.bind fun v hv => (hf v hv).1,fun r hrs => ?_⟩
  obtain ⟨v,hv,hr⟩ := Outcome.bind_eq_ok.mp hrs
  exact (hf v hv).2 r hr

lemma Meets.of_get {b : List α} {i : ℕ} (hi : i < b.length) (hf : ∀ v, Meets (f v) P) : Meets (get b i >>= f) P :=
  Meets.of_bind (returns_get_iff.mpr hi) fun v _ => hf v

lemma Meets.bind {Q : α → Prop} (hx : Meets x Q) (hf : ∀ v, Q v → Meets (f v) P) : Meets (x >>= f) P :=
  Meets.of_bind hx.1 fun v hv => hf v (hx.2 v hv)

lemma Meets.returns_bind {Q : α → Prop} (hx : Meets x Q) (hf : ∀ v, Q v → Returns (f v)) : Returns (x >>= f) :=
  hx.1.bind fun v hv => hf v (hx.2 v hv)

lemma Meets.mono {P' : β → Prop} {y : Checked ε β} (hy : Meets y P) (h : ∀ v, P v → P' v) : Meets y P' :=
  ⟨hy.1,fun v hv => h v (hy.2 v hv)⟩

lemma Meets.of_reject {c : Prop} [Decidable c] {e : ε} {f : Unit → Checked ε β} (h : ¬ c → Meets (f ()) P) :
    Meets (reject c e >>= f) P :=
  Meets.of_bind (returns_reject c e) fun () hok => h (reject_eq_ok.mp hok)

lemma slice_meets {buffer : List α} {low high : ℕ} (hle : low ≤ high) (hh : high ≤ buffer.length) :
    Meets (slice buffer low high : Checked ε (List α)) fun part => part.length = high-low := by
  refine ⟨returns_slice_iff.mpr ⟨hle,hh⟩,fun part hp => ?_⟩
  obtain ⟨-,rfl⟩ := slice_eq_ok.mp hp
  simp only [length_drop,length_take,min_eq_left hh]

lemma sliceFrom_meets {buffer : List α} {low : ℕ} (hl : low ≤ buffer.length) :
    Meets (sliceFrom buffer low : Checked ε (List α)) fun part => part.length = buffer.length-low := by
  refine ⟨returns_sliceFrom hl,fun part hp => ?_⟩
  obtain ⟨-,rfl⟩ := sliceFrom_eq_ok.mp hp
  exact length_drop

lemma meets_foldlM {I : β → Prop} {f : β → α → Checked ε β} {xs : List α}
    (hf : ∀ s, ∀ x ∈ xs, I s → Meets (f s x) I) {s : β} (hs : I s) : Meets (xs.foldlM f s) I := by
  induction xs generalizing s with
  | nil => exact meets_pure hs
  | cons x xs ih =>
    rw [foldlM_cons]
    refine (hf s x mem_cons_self hs).bind fun n hn => ?_
    exact ih (fun s y hy => hf s y (mem_cons_of_mem x hy)) hn

end Checked
