import Mathlib.Tactic

/-! Programs that read bytes one after another, ask for memory and return a value: a decoder as a value, with
its runs on a list of bytes and on any source of bytes, and the law that a program reads a piece of input back. -/

/-- The errors of reading: nothing left, something left but not enough, and a number that is too large. -/
class ReadErrors (ε : Type) where
  eof : ε
  unexpectedEOF : ε
  overflow : ε

/-- `make` asks for a slice of `length` elements of `size` bytes. -/
inductive ByteProgram (ε α : Type)
  | done (value : α)
  | fail (err : ε)
  | crash (reason : String)
  | byte (atEnd : ε) (next : UInt8 → ByteProgram ε α)
  | make (length size : ℕ) (next : ByteProgram ε α)

namespace ByteProgram
variable {ε α β : Type}

protected def bind : ByteProgram ε α → (α → ByteProgram ε β) → ByteProgram ε β
  | done value, f => f value
  | fail err, _ => fail err
  | crash reason, _ => crash reason
  | byte atEnd next, f => byte atEnd fun b => (next b).bind f
  | make length size next, f => make length size (next.bind f)

instance : Monad (ByteProgram ε) where
  pure := done
  bind := ByteProgram.bind

def mapError (f : ε → ε) : ByteProgram ε α → ByteProgram ε α
  | done value => done value
  | fail err => fail (f err)
  | crash reason => crash reason
  | byte atEnd next => byte (f atEnd) fun b => (next b).mapError f
  | make length size next => make length size (next.mapError f)

section
variable [ReadErrors ε]

def readByte : ByteProgram ε UInt8 := byte ReadErrors.eof done

def readRest : ℕ → ByteProgram ε (List UInt8)
  | 0 => done []
  | n+1 => byte ReadErrors.unexpectedEOF fun b => (b :: ·) <$> readRest n

/-- `io.ReadFull`. -/
def readFull : ℕ → ByteProgram ε (List UInt8)
  | 0 => done []
  | n+1 => byte ReadErrors.eof fun b => (b :: ·) <$> readRest n

end

/-- A loop that runs the body for each position, `n` times from `i` on. -/
def times (body : ℕ → ByteProgram ε α) : ℕ → ℕ → ByteProgram ε (List α)
  | 0, _ => done []
  | n+1, i => do
    let x ← body i
    let xs ← times body n (i+1)
    pure (x::xs)

inductive Result (ε α : Type)
  | ok (value : α) (rest : List UInt8)
  | failed (err : ε)
  | crashed (reason : String)
  deriving DecidableEq

protected def Result.bind : Result ε α → (α → List UInt8 → Result ε β) → Result ε β
  | .ok value rest, f => f value rest
  | .failed err, _ => .failed err
  | .crashed reason, _ => .crashed reason

lemma Result.bind_eq_ok {x : Result ε α} {f : α → List UInt8 → Result ε β} {b : β} {r : List UInt8} :
    x.bind f = .ok b r ↔ ∃ a m, x = .ok a m ∧ f a m = .ok b r := by
  cases x <;> simp [Result.bind]

/-- A run on a list of bytes, where a slice of more than `limit` bytes cannot be made. -/
def run (limit : ℕ) : ByteProgram ε α → List UInt8 → Result ε α
  | done value, rest => .ok value rest
  | fail err, _ => .failed err
  | crash reason, _ => .crashed reason
  | byte atEnd _, [] => .failed atEnd
  | byte _ next, b :: rest => run limit (next b) rest
  | make length size next, rest =>
    if limit < length*size then .crashed "makeslice: len out of range" else run limit next rest

/-- The program reads `bytes` as `value`, whatever follows, and nothing more. -/
def Parses (limit : ℕ) (p : ByteProgram ε α) (bytes : List UInt8) (value : α) : Prop :=
  ∀ rest, p.run limit (bytes++rest) = .ok value rest

variable {l : ℕ}

lemma run_bind (p : ByteProgram ε α) (f : α → ByteProgram ε β) (bt : List UInt8) :
    (p >>= f).run l bt = match p.run l bt with
      | .ok vl rs => (f vl).run l rs
      | .failed e => .failed e
      | .crashed r => .crashed r := by
  change (p.bind f).run l bt = _
  induction p generalizing bt with
  | done vl | fail e | crash r => rfl
  | byte ae nx ih =>
    cases bt with
    | nil => rfl
    | cons b bt => exact ih b bt
  | make ln s nx ih =>
    rw [ByteProgram.bind,run,run]
    split_ifs
    · rfl
    · exact ih bt

lemma run_mapError (f : ε → ε) (p : ByteProgram ε α) (bt : List UInt8) :
    (p.mapError f).run l bt = match p.run l bt with
      | .ok vl rs => .ok vl rs
      | .failed e => .failed (f e)
      | .crashed r => .crashed r := by
  induction p generalizing bt with
  | done vl | fail e | crash r => rfl
  | byte ae nx ih =>
    cases bt with
    | nil => rfl
    | cons b bt => exact ih b bt
  | make ln s nx ih =>
    rw [mapError,run,run]
    split_ifs
    · rfl
    · exact ih bt

section
variable {bs r : List UInt8}

lemma run_bind_eq_ok {p : ByteProgram ε α} {f : α → ByteProgram ε β} {b : β} :
    (p >>= f).run l bs = .ok b r ↔ ∃ a m, p.run l bs = .ok a m ∧ (f a).run l m = .ok b r := by
  rw [run_bind]
  cases p.run l bs <;> simp

lemma run_map_eq_ok {p : ByteProgram ε α} {f : α → β} {b : β} :
    (f <$> p).run l bs = .ok b r ↔ ∃ a, p.run l bs = .ok a r ∧ b = f a := by
  change (p >>= fun a => done (f a)).run l bs = _ ↔ _
  rw [run_bind_eq_ok]
  constructor
  · rintro ⟨a,m,hp,⟨⟩⟩
    exact ⟨a,hp,rfl⟩
  · rintro ⟨a,hp,rfl⟩
    exact ⟨a,r,hp,rfl⟩

variable [ReadErrors ε] {n : ℕ} {d : List UInt8}

lemma run_readRest_eq_ok :
    (readRest n : ByteProgram ε (List UInt8)).run l bs = .ok d r ↔ bs = d++r ∧ d.length = n := by
  induction n generalizing bs d with
  | zero => cases d <;> simp [readRest,run,eq_comm]
  | succ n ih =>
    cases bs with
    | nil => cases d <;> simp [readRest,run]
    | cons b bs =>
      change ((b::·) <$> readRest n : ByteProgram ε (List UInt8)).run l bs = _ ↔ _
      simp only [run_map_eq_ok,ih]
      cases d <;> simp
      grind

lemma run_readFull_eq_ok :
    (readFull n : ByteProgram ε (List UInt8)).run l bs = .ok d r ↔ bs = d++r ∧ d.length = n := by
  rw [← run_readRest_eq_ok (ε := ε) (l := l)]
  cases n with
  | zero => rfl
  | succ => cases bs <;> simp [readFull,readRest,run]

end

/-- A program that reads all of its input fails on every shorter piece of it. -/
lemma run_take_of_ok {p : ByteProgram ε α} {bs : List UInt8} {v : α} (h : p.run l bs = .ok v []) {n : ℕ}
    (hn : n < bs.length) : ∃ e, p.run l (bs.take n) = .failed e := by
  induction p generalizing bs n with
  | done =>
    cases h
    simp at hn
  | fail | crash => cases h
  | byte ae nx ih =>
    cases bs with
    | nil => cases h
    | cons b bs =>
      cases n with
      | zero => exact ⟨ae,rfl⟩
      | succ n => exact ih b h (Nat.lt_of_succ_lt_succ hn)
  | make ln s nx ih =>
    rw [run] at h ⊢
    split_ifs at h ⊢
    exact ih h hn

namespace Parses
variable {p : ByteProgram ε α} {bs : List UInt8} {v : α}

protected lemma done (v : α) : Parses l (done v : ByteProgram ε α) [] v := fun _ => rfl

protected lemma pure (v : α) : Parses l (pure v : ByteProgram ε α) [] v := fun _ => rfl

protected lemma bind (hp : Parses l p bs v) {f : α → ByteProgram ε β} {b : List UInt8} {x : β}
    (hf : Parses l (f v) b x) : Parses l (p >>= f) (bs++b) x := by
  intro rs
  rw [run_bind,List.append_assoc,hp (b++rs)]
  exact hf rs

protected lemma map (hp : Parses l p bs v) (f : α → β) : Parses l (f <$> p) bs (f v) := by
  intro rs
  change (p >>= fun x => done (f x)).run l (bs++rs) = _
  rw [run_bind,hp rs]
  rfl

protected lemma mapError (hp : Parses l p bs v) (f : ε → ε) : Parses l (p.mapError f) bs v := by
  intro rs
  rw [run_mapError,hp rs]

protected lemma make (hp : Parses l p bs v) {ln s : ℕ} (hf : ln*s ≤ l) : Parses l (make ln s p) bs v := by
  intro rs
  rw [run,if_neg (not_lt.mpr hf)]
  exact hp rs

protected lemma byte (atEnd : ε) {next : UInt8 → ByteProgram ε α} {b : UInt8}
    (h : Parses l (next b) bs v) : Parses l (byte atEnd next) (b::bs) v := h

variable [ReadErrors ε]

protected lemma readByte (b : UInt8) : Parses l (readByte : ByteProgram ε UInt8) [b] b := fun _ => rfl

protected lemma readRest (bs : List UInt8) : Parses l (readRest bs.length : ByteProgram ε (List UInt8)) bs bs := by
  induction bs with
  | nil => exact .done []
  | cons b bs ih => exact .byte _ (ih.map (b :: ·))

protected lemma readFull (bs : List UInt8) : Parses l (readFull bs.length : ByteProgram ε (List UInt8)) bs bs := by
  cases bs with
  | nil => exact .done []
  | cons b bs => exact .byte _ ((Parses.readRest bs).map (b :: ·))

omit [ReadErrors ε]

protected lemma times_cons {b : ℕ → ByteProgram ε α} {i n : ℕ} {vs : List α} {bt' : List UInt8}
    (hf : Parses l (b i) bs v) (hr : Parses l (times b n (i+1)) bt' vs) :
    Parses l (times b (n+1) i) (bs++bt') (v::vs) := by
  rw [← List.append_nil bt']
  exact hf.bind (hr.bind (.pure _))

protected lemma times {δ : Type} (b : ℕ → ByteProgram ε α) (e : δ → List UInt8) (d : δ → α) (xs : List δ)
    (h : ∀ x ∈ xs, ∀ i, Parses l (b i) (e x) (d x)) (i : ℕ) :
    Parses l (times b xs.length i) (xs.flatMap e) (xs.map d) := by
  induction xs generalizing i with
  | nil => exact .done []
  | cons x xs ih =>
    rw [List.flatMap_cons,List.map_cons]
    exact (h x List.mem_cons_self i).times_cons (ih (fun y hy => h y (List.mem_cons_of_mem x hy)) (i+1))

end Parses

inductive Ended (ε α : Type)
  | ok (value : α)
  | failed (err : ε)
  | crashed (reason : String)
  deriving DecidableEq

def Result.ended : Result ε α → Ended ε α
  | .ok value _ => .ok value
  | .failed err => .failed err
  | .crashed reason => .crashed reason

def runOn {σ : Type} (limit : ℕ) (next : σ → Option UInt8 × σ) : ByteProgram ε α → σ → Ended ε α × σ
  | done value, s => (.ok value,s)
  | fail err, s => (.failed err,s)
  | crash reason, s => (.crashed reason,s)
  | byte atEnd body, s =>
    match next s with
    | (none,s) => (.failed atEnd,s)
    | (some b,s) => runOn limit next (body b) s
  | make length size body, s =>
    if limit < length*size then (.crashed "makeslice: len out of range",s) else runOn limit next body s

/-- A source that has the bytes that `view` shows. -/
structure Shows {σ : Type} (next : σ → Option UInt8 × σ) (view : σ → List UInt8) (I : σ → Prop) : Prop where
  keeps : ∀ s, I s → I (next s).2
  head : ∀ s, I s → (next s).1 = (view s).head?
  tail : ∀ s, I s → view (next s).2 = (view s).tail

lemma runOn_eq {σ : Type} {nx : σ → Option UInt8 × σ} {v : σ → List UInt8} {I : σ → Prop}
    (h : Shows nx v I) (p : ByteProgram ε α) {s : σ} (hs : I s) :
    (p.runOn l nx s).1 = (p.run l (v s)).ended ∧ I (p.runOn l nx s).2 ∧
      ∀ vl rs, p.run l (v s) = .ok vl rs → v (p.runOn l nx s).2 = rs := by
  induction p generalizing s with
  | done =>
    refine ⟨rfl,hs,?_⟩
    rintro vl' rs ⟨⟩
    rfl
  | fail err | crash reason => exact ⟨rfl,hs,by rintro vl rs ⟨⟩⟩
  | byte ae bd ih =>
    have hk := h.keeps s hs
    have hh := h.head s hs
    have ht := h.tail s hs
    rw [runOn]
    generalize nx s = g at hk hh ht
    obtain ⟨b,s'⟩ := g
    cases hv : v s with
    | nil =>
      rw [hv] at hh
      cases hh
      exact ⟨rfl,hk,by rintro vl rs ⟨⟩⟩
    | cons b' =>
      rw [hv] at hh ht
      cases hh
      obtain ⟨he,hI,hr⟩ := ih b' hk
      rw [ht] at he hr
      exact ⟨he,hI,hr⟩
  | make ln sz bd ih =>
    rw [runOn,run]
    split_ifs
    · exact ⟨rfl,hs,by rintro vl rs ⟨⟩⟩
    · exact ih hs

end ByteProgram
