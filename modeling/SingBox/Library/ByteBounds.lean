import SingBox.Library.ByteProgram

/-! What a program that reads bytes allocates on the way. -/
namespace ByteProgram
variable {ε α β : Type}

/-- The slices that a run asks for, each with the number of the bytes that are still unread. -/
def allocations (limit : ℕ) : ByteProgram ε α → List UInt8 → List (ℕ × ℕ)
  | done _, _ => []
  | fail _, _ => []
  | crash _, _ => []
  | byte _ _, [] => []
  | byte _ next, b :: rest => (next b).allocations limit rest
  | make length size next, rest =>
    (length,rest.length)::if limit < length*size then [] else next.allocations limit rest

variable {limit : ℕ}

lemma allocations_bind (p : ByteProgram ε α) (f : α → ByteProgram ε β) (bytes : List UInt8) :
    (p >>= f).allocations limit bytes = p.allocations limit bytes++match p.run limit bytes with
      | .ok v r => (f v).allocations limit r
      | .failed _ => []
      | .crashed _ => [] := by
  change (p.bind f).allocations limit bytes = _
  induction p generalizing bytes with
  | done v | fail err | crash reason => rfl
  | byte ae nx ih =>
    cases bytes with
    | nil => rfl
    | cons b bytes => exact ih b bytes
  | make l s nx ih =>
    rw [ByteProgram.bind,allocations,allocations,run]
    split_ifs
    · rfl
    · rw [ih bytes,List.cons_append]

lemma allocations_mapError (f : ε → ε) (p : ByteProgram ε α) (bytes : List UInt8) :
    (p.mapError f).allocations limit bytes = p.allocations limit bytes := by
  induction p generalizing bytes with
  | done value | fail err | crash reason => rfl
  | byte ae nx ih =>
    cases bytes with
    | nil => rfl
    | cons b bytes => exact ih b bytes
  | make l s nx ih =>
    rw [mapError,allocations,allocations]
    split_ifs
    · rfl
    · rw [ih bytes]

/-- The run does not crash, and asks for no slice of more than `total` elements. -/
def Safe (limit total : ℕ) (p : ByteProgram ε α) (bytes : List UInt8) : Prop :=
  (∀ reason, p.run limit bytes ≠ .crashed reason) ∧ ∀ a ∈ p.allocations limit bytes, a.1 ≤ total

variable {total : ℕ} {bytes : List UInt8}

lemma safe_pure (v : α) : Safe limit total (pure v : ByteProgram ε α) bytes := ⟨nofun,nofun⟩

lemma safe_byte {e : ε} {f : UInt8 → ByteProgram ε α} :
    Safe limit total (byte e f) bytes ↔ ∀ b rest, bytes = b::rest → Safe limit total (f b) rest := by
  cases bytes with
  | nil => exact ⟨nofun,fun _ => ⟨nofun,nofun⟩⟩
  | cons b rest =>
    constructor
    · rintro h _ _ ⟨⟩
      exact h
    · exact fun h => h b rest rfl

lemma safe_make {length : ℕ} {p : ByteProgram ε α} : Safe limit total (make length 1 p) bytes ↔
    (length ≤ total ∧ length ≤ limit) ∧ Safe limit total p bytes := by
  rw [Safe,run,allocations,Safe,List.forall_mem_cons,mul_one]
  split_ifs with hl
  · refine iff_of_false (fun h => h.1 _ rfl) fun h => ?_
    omega
  · rw [not_lt] at hl
    tauto

lemma safe_bind {p : ByteProgram ε α} {f : α → ByteProgram ε β} : Safe limit total (p >>= f) bytes ↔
    Safe limit total p bytes ∧ ∀ v rest, p.run limit bytes = .ok v rest → Safe limit total (f v) rest := by
  rw [Safe,run_bind,allocations_bind,List.forall_mem_append,Safe]
  cases hr : p.run limit bytes with
  | ok v r => simp [Safe]; tauto
  | failed | crashed => simp

lemma safe_map {p : ByteProgram ε α} (f : α → β) : Safe limit total (f <$> p) bytes ↔ Safe limit total p bytes :=
  safe_bind.trans (and_iff_left fun _ _ _ => safe_pure _)

lemma bind_bind (p : ByteProgram ε α) {γ : Type} (f : α → ByteProgram ε β) (g : β → ByteProgram ε γ) :
    (p >>= f) >>= g = p >>= fun v => f v >>= g := by
  change (p.bind f).bind g = p.bind _
  induction p with
  | done v | fail err | crash reason => rfl
  | byte ae nx ih => exact congrArg (byte ae) (funext ih)
  | make l s nx ih => exact congrArg (make l s) ih

lemma safe_mapError {p : ByteProgram ε α} (f : ε → ε) :
    Safe limit total (p.mapError f) bytes ↔ Safe limit total p bytes := by
  rw [Safe,run_mapError,allocations_mapError,Safe]
  cases p.run limit bytes <;> simp

lemma safe_times {body : ℕ → ByteProgram ε α} (h : ∀ i bytes, Safe limit total (body i) bytes) (n i : ℕ)
    (bytes : List UInt8) : Safe limit total (times body n i) bytes := by
  induction n generalizing i bytes with
  | zero => exact safe_pure []
  | succ n ih => exact safe_bind.mpr ⟨h i bytes,fun _ _ _ => (safe_map _).mpr (ih (i+1) _)⟩

variable [ReadErrors ε]

lemma safe_readRest (n : ℕ) (bytes : List UInt8) :
    Safe limit total (readRest n : ByteProgram ε (List UInt8)) bytes := by
  induction n generalizing bytes with
  | zero => exact safe_pure []
  | succ n ih => exact safe_byte.mpr fun _ rest _ => (safe_map _).mpr (ih rest)

lemma safe_readFull (n : ℕ) (bytes : List UInt8) :
    Safe limit total (readFull n : ByteProgram ε (List UInt8)) bytes := by
  cases n with
  | zero => exact safe_pure []
  | succ n => exact safe_byte.mpr fun _ rest _ => (safe_map _).mpr (safe_readRest n rest)

end ByteProgram
