import Mathlib.Tactic

/-! Readers of an input that lies in parts, of which more may come: a reader either accepts, refuses for good, or
asks for more. A reader is incremental if what it accepts it goes on accepting when the input grows, and if it asks
for more on every shorter input that it does not accept yet. -/

namespace Parts
open List

variable {τ : Type}

/-- One read of at most `n` elements: it does not go beyond the first part that is not empty. -/
def read (n : ℕ) : List (List τ) → List τ × List (List τ)
  | [] => ([],[])
  | [] :: parts => read n parts
  | (x :: part) :: parts => ((x :: part).take n,(x :: part).drop n :: parts)

/-- Reads until there are `n` elements or nothing is left. -/
def readFull (n : ℕ) : List (List τ) → List τ × List (List τ)
  | [] => ([],[])
  | part :: parts =>
      if n ≤ part.length then (part.take n,part.drop n :: parts)
      else (part++(readFull (n-part.length) parts).1,(readFull (n-part.length) parts).2)

variable (n : ℕ) (ps : List (List τ))

lemma read_append : (read n ps).1++(read n ps).2.flatten = ps.flatten := by
  fun_induction read n ps with
  | case1 => rfl
  | case2 ps ih => exact ih
  | case3 => rw [flatten_cons,flatten_cons,← append_assoc,take_append_drop]

lemma length_read_le : (read n ps).1.length ≤ n := by
  fun_induction read n ps with
  | case1 => exact n.zero_le
  | case2 ps ih => exact ih
  | case3 => exact length_take_le _ _

variable {n ps} in
lemma read_ne_nil (hn : 0 < n) (h : ps.flatten ≠ []) : (read n ps).1 ≠ [] := by
  fun_induction read n ps with
  | case1 => exact absurd rfl h
  | case2 ps ih => exact ih h
  | case3 => simp [Nat.pos_iff_ne_zero.mp hn]

lemma readFull_fst : (readFull n ps).1 = ps.flatten.take n := by
  fun_induction readFull n ps with
  | case1 => rw [flatten_nil,take_nil]
  | case2 n p ps hle => rw [flatten_cons,take_append_of_le_length hle]
  | case3 n p ps hlt ih =>
    rw [flatten_cons,take_append,take_of_length_le (by omega),ih]

lemma readFull_snd : (readFull n ps).2.flatten = ps.flatten.drop n := by
  fun_induction readFull n ps with
  | case1 => rw [flatten_nil,drop_nil]
  | case2 n p ps hle => rw [flatten_cons,flatten_cons,drop_append_of_le_length hle]
  | case3 n p ps hlt ih =>
    rw [flatten_cons,drop_append,drop_of_length_le (by omega),ih,nil_append]

end Parts

/-- What a reader does with the parts that are there, with those that it leaves. -/
abbrev PartReader (τ ε α : Type) := StateT (List (List τ)) (Except ε) α

namespace PartReader
variable {τ ε α β : Type}

def reject (condition : Bool) (err : ε) : PartReader τ ε Unit := fun parts =>
  if condition then .error err else .ok ((),parts)

def ofExcept (x : Except ε α) : PartReader τ ε α := fun parts => x.map (·,parts)

def peek (r : PartReader τ ε α) : PartReader τ ε α := fun parts => (r parts).map fun read => (read.1,parts)

/-- Read `n` elements. Those that are there are judged first, also if they are too few. -/
def window (n : ℕ) (refuse : List τ → Option ε) (short : List τ → ε) : PartReader τ ε (List τ) := fun parts =>
  match refuse (Parts.readFull n parts).1 with
  | some err => .error err
  | none =>
      if (Parts.readFull n parts).1.length < n then .error (short (Parts.readFull n parts).1)
      else .ok (Parts.readFull n parts)

section
variable {r : PartReader τ ε α} {k : α → PartReader τ ε β} {ps : List (List τ)}

lemma bind_of_ok {a : α} {rs : List (List τ)} (h : r ps = .ok (a,rs)) : (r >>= k) ps = k a rs := by
  change (r ps >>= fun rd => k rd.1 rd.2) = _
  rw [h]
  rfl

lemma bind_of_error {e : ε} (h : r ps = .error e) : (r >>= k) ps = .error e := by
  change (r ps >>= fun rd => k rd.1 rd.2) = _
  rw [h]
  rfl

lemma exists_of_bind_eq_ok {b : β × List (List τ)} (h : (r >>= k) ps = .ok b) :
    ∃ a rs, r ps = .ok (a,rs) ∧ k a rs = .ok b := by
  cases hr : r ps with
  | error => rw [bind_of_error hr] at h; cases h
  | ok rd =>
    rw [bind_of_ok hr] at h
    exact ⟨rd.1,rd.2,rfl,h⟩

end

def Accepts (r : PartReader τ ε α) (parts : List (List τ)) : Prop := ∃ read, r parts = .ok read

variable (more : ε → Prop)

def AsksForMore (r : PartReader τ ε α) (parts : List (List τ)) : Prop := ∃ err, more err ∧ r parts = .error err

/-- The value read stays the same on every longer input, and on every shorter one the reader has it already or
asks for more. -/
structure Incremental (r : PartReader τ ε α) : Prop where
  extend : ∀ {parts parts' a rest}, r parts = .ok (a,rest) → parts.flatten <+: parts'.flatten →
    ∃ rest', r parts' = .ok (a,rest') ∧ rest.flatten <+: rest'.flatten
  cut : ∀ {parts parts' a rest}, r parts = .ok (a,rest) → parts'.flatten <+: parts.flatten →
    (∃ rest', r parts' = .ok (a,rest') ∧ rest'.flatten <+: rest.flatten) ∨ AsksForMore more r parts'

structure Steady (r : PartReader τ ε α) : Prop where
  extend : ∀ {parts parts'}, Accepts r parts → parts.flatten <+: parts'.flatten → Accepts r parts'
  cut : ∀ {parts parts'}, Accepts r parts → parts'.flatten <+: parts.flatten →
    Accepts r parts' ∨ AsksForMore more r parts'

variable {more}

variable {k : α → PartReader τ ε β} {r : PartReader τ ε α}

section
variable (hr : Incremental more r)
include hr

lemma Incremental.bind_accepting (hk : ∀ a pr, Accepts (k a) pr) : Steady more (r >>= k) where
  extend := by
    rintro pr pr' ⟨rd,hrd⟩ hle
    obtain ⟨a,rs,ha,-⟩ := exists_of_bind_eq_ok hrd
    obtain ⟨rs',ha',-⟩ := hr.extend ha hle
    obtain ⟨rd',hr'⟩ := hk a rs'
    exact ⟨rd',(bind_of_ok ha').trans hr'⟩
  cut := by
    rintro pr pr' ⟨rd,hrd⟩ hle
    obtain ⟨a,rs,ha,-⟩ := exists_of_bind_eq_ok hrd
    obtain ⟨rs',ha',-⟩ | ⟨e,he,hak⟩ := hr.cut ha hle
    · obtain ⟨rd',hr'⟩ := hk a rs'
      exact Or.inl ⟨rd',(bind_of_ok ha').trans hr'⟩
    · exact Or.inr ⟨e,he,bind_of_error hak⟩

lemma Incremental.steady : Steady more r where
  extend := by
    rintro pr pr' ⟨rd,hrd⟩ hle
    obtain ⟨rs',hr',-⟩ := hr.extend hrd hle
    exact ⟨_,hr'⟩
  cut := by
    rintro pr pr' ⟨rd,hrd⟩ hle
    obtain ⟨rs',hr',-⟩ | ha := hr.cut hrd hle
    · exact Or.inl ⟨_,hr'⟩
    · exact Or.inr ha

lemma Incremental.bind (hk : ∀ a, Incremental more (k a)) : Incremental more (r >>= k) where
  extend := by
    intro pr pr' b rs hb hle
    obtain ⟨a,m,ha,hka⟩ := exists_of_bind_eq_ok hb
    obtain ⟨m',ha',hm⟩ := hr.extend ha hle
    rw [bind_of_ok ha']
    exact (hk a).extend hka hm
  cut := by
    intro pr pr' b rs hb hle
    obtain ⟨a,m,ha,hka⟩ := exists_of_bind_eq_ok hb
    obtain ⟨m',ha',hm⟩ | ⟨e,he,hak⟩ := hr.cut ha hle
    · rw [AsksForMore,bind_of_ok ha']
      exact (hk a).cut hka hm
    · exact Or.inr ⟨e,he,bind_of_error hak⟩

end

lemma incremental_ofExcept (x : Except ε α) : Incremental more (ofExcept (τ := τ) x) := by
  cases x with
  | error => exact ⟨nofun,nofun⟩
  | ok =>
    constructor
    · intro pr pr' b rs hb hle
      cases hb
      exact ⟨pr',rfl,hle⟩
    · intro pr pr' b rs hb hle
      cases hb
      exact Or.inl ⟨pr',rfl,hle⟩

lemma incremental_pure (a : α) : Incremental more (pure a : PartReader τ ε α) := incremental_ofExcept (.ok a)

lemma incremental_reject (c : Bool) (e : ε) : Incremental more (reject (τ := τ) c e) := by
  cases c with
  | false => exact incremental_ofExcept (.ok ())
  | true => exact incremental_ofExcept (.error e)

lemma Incremental.peek (hr : Incremental more r) : Incremental more (peek r) := by
  have hok : ∀ {pr a rs}, PartReader.peek r pr = .ok (a,rs) → rs = pr ∧ ∃ m, r pr = .ok (a,m) := by
    intro pr a rs h
    unfold PartReader.peek at h
    cases hrd : r pr with
    | error => rw [hrd] at h; cases h
    | ok rd => rw [hrd] at h; cases h; exact ⟨rfl,rd.2,rfl⟩
  constructor
  · intro pr pr' a rs h hle
    obtain ⟨rfl,m,hrd⟩ := hok h
    obtain ⟨m',hr',-⟩ := hr.extend hrd hle
    refine ⟨pr',?_,hle⟩
    rw [PartReader.peek,hr']
    rfl
  · intro pr pr' a rs h hle
    obtain ⟨rfl,m,hrd⟩ := hok h
    obtain ⟨m',hr',-⟩ | ⟨e,he,ha⟩ := hr.cut hrd hle
    · refine Or.inl ⟨pr',?_,hle⟩
      rw [PartReader.peek,hr']
      rfl
    · refine Or.inr ⟨e,he,?_⟩
      rw [PartReader.peek,ha]
      rfl

variable {n : ℕ} {rf : List τ → Option ε} {s : List τ → ε} {ps : List (List τ)}

lemma window_of_le (hrf : rf (ps.flatten.take n) = none)
    (hle : n ≤ ps.flatten.length) : window n rf s ps = .ok (Parts.readFull n ps) := by
  have hl : ¬ (ps.flatten.take n).length < n := by rw [List.length_take]; omega
  rw [window,Parts.readFull_fst,hrf]
  exact if_neg hl

lemma window_of_lt (hrf : rf (ps.flatten.take n) = none) (hlt : ps.flatten.length < n) :
    window n rf s ps = .error (s (ps.flatten.take n)) := by
  have hl : (ps.flatten.take n).length < n := by rw [List.length_take]; omega
  rw [window,Parts.readFull_fst,hrf]
  exact if_pos hl

lemma window_eq_ok {rd : List τ × List (List τ)} (h : window n rf s ps = .ok rd) :
    rf (ps.flatten.take n) = none ∧ n ≤ ps.flatten.length ∧ rd = Parts.readFull n ps := by
  cases hrf : rf (ps.flatten.take n) with
  | some => rw [window,Parts.readFull_fst,hrf] at h; cases h
  | none =>
    obtain hle | hlt := le_or_gt n ps.flatten.length
    · rw [window_of_le hrf hle] at h
      exact ⟨rfl,hle,(Except.ok.inj h).symm⟩
    · rw [window_of_lt hrf hlt] at h
      cases h

lemma incremental_window (hrf : ∀ xs ys, xs <+: ys → rf ys = none → rf xs = none)
    (hs : ∀ xs, more (s xs)) : Incremental more (window n rf s) := by
  have hsm : ∀ {ps pr' : List (List τ)}, ps.flatten <+: pr'.flatten → n ≤ ps.flatten.length →
      (Parts.readFull n ps).1 = (Parts.readFull n pr').1 ∧
        (Parts.readFull n ps).2.flatten <+: (Parts.readFull n pr').2.flatten := by
    rintro ps pr' ⟨l,hl⟩ hle
    rw [Parts.readFull_fst,Parts.readFull_fst,Parts.readFull_snd,Parts.readFull_snd,← hl,
      List.take_append_of_le_length hle,List.drop_append_of_le_length hle]
    exact ⟨rfl,List.prefix_append _ _⟩
  constructor
  · intro ps pr' a rs h hle
    obtain ⟨hp,hln,hrd⟩ := window_eq_ok h
    obtain ⟨hf,hsn⟩ := hsm hle hln
    rw [← hrd] at hf hsn
    rw [← Parts.readFull_fst,← hrd,hf,Parts.readFull_fst] at hp
    refine ⟨(Parts.readFull n pr').2,?_,hsn⟩
    change a = _ at hf
    rw [window_of_le hp (hln.trans hle.length_le),hf]
  · intro ps pr' a rs h hle
    obtain ⟨hp,hln,hrd⟩ := window_eq_ok h
    have hp' := hrf _ _ (hle.take n) hp
    obtain hle' | hlt := le_or_gt n pr'.flatten.length
    · obtain ⟨hf,hsn⟩ := hsm hle hle'
      rw [← hrd] at hf hsn
      refine Or.inl ⟨(Parts.readFull n pr').2,?_,hsn⟩
      change _ = a at hf
      rw [window_of_le hp' hle',← hf]
    · exact Or.inr ⟨_,hs _,window_of_lt hp' hlt⟩

end PartReader
