import Mathlib.Data.List.Basic

/-! Cutting lists at what they contain: an affix, the first occurrence of a separator, every separator. -/
namespace SingBox.Cut
open List

variable {α : Type} [DecidableEq α]

def cutPrefix (affix s : List α) : List α × Bool :=
  if affix <+: s then (s.drop affix.length,true) else (s,false)

def cutSuffix (affix s : List α) : List α × Bool :=
  if affix <:+ s then (s.take (s.length-affix.length),true) else (s,false)

/-- The byte `.`. -/
def dot : UInt8 := 0x2e

def newline : UInt8 := 0x0a

def dropCR (line : List UInt8) : List UInt8 := (cutSuffix [0x0d] line).1

/-- The lines of a text; behind the last end there is an empty one. -/
def textLines (text : List UInt8) : List (List UInt8) := text.splitOn newline

/-- What stands before and behind the first occurrence of `sep`. -/
def cut (sep : List α) : List α → Option (List α × List α)
  | [] => if sep = [] then some ([],[]) else none
  | x::xs =>
    if sep <+: x::xs then some ([],(x::xs).drop sep.length)
    else (cut sep xs).map fun parts => (x::parts.1,parts.2)

/-- What stands before `sep`, or everything without one. -/
def before (sep s : List α) : List α :=
  match cut sep s with
  | some parts => parts.1
  | none => s

section
variable (a s : List α)

lemma cutPrefix_append : cutPrefix a (a++s) = (s,true) := by
  rw [cutPrefix,if_pos (prefix_append a s),drop_left]

lemma cutSuffix_append : cutSuffix a (s++a) = (s,true) := by
  rw [cutSuffix,if_pos (suffix_append s a),length_append,Nat.add_sub_cancel,take_left]

lemma cutPrefix_restored : (if (cutPrefix a s).2 then a else [])++(cutPrefix a s).1 = s := by
  by_cases h : a <+: s
  · obtain ⟨r,rfl⟩ := h
    rw [cutPrefix_append]
    rfl
  · rw [cutPrefix,if_neg h]
    rfl

lemma cutSuffix_restored : (cutSuffix a s).1++(if (cutSuffix a s).2 then a else []) = s := by
  by_cases h : a <:+ s
  · obtain ⟨r,rfl⟩ := h
    rw [cutSuffix_append]
    rfl
  · rw [cutSuffix,if_neg h]
    exact append_nil s

variable {a s}

lemma cutPrefix_of_not (h : ¬ a <+: s) : cutPrefix a s = (s,false) := if_neg h

lemma cutSuffix_of_not (h : ¬ a <:+ s) : cutSuffix a s = (s,false) := if_neg h

variable {ys : List α} {x y : α}

omit [DecidableEq α] in
lemma not_isPrefix_cons {xs : List α} (h : x ≠ y) : ¬ x::xs <+: y::ys :=
  fun hp => h (cons_prefix_cons.mp hp).1

omit [DecidableEq α] in
lemma not_isPrefix_of_head (hx : a.head? = some x) (h : x ≠ y) : ¬ a <+: y::ys := by
  obtain ⟨r,rfl⟩ := head?_eq_some_iff.mp hx
  exact not_isPrefix_cons h

omit [DecidableEq α] in
lemma not_isSuffix_of_last (hx : a.getLast? = some x) (h : x ≠ y) : ¬ a <:+ ys++[y] := by
  intro hs
  obtain ⟨f,rfl⟩ := getLast?_eq_some_iff.mp hx
  have hl := reverse_prefix.mpr hs
  rw [reverse_append,reverse_append] at hl
  exact not_isPrefix_cons h hl

end

lemma dropCR_eq (l : List UInt8) : dropCR l = if l.getLast? = some 0x0d then l.dropLast else l := by
  split_ifs with h
  · obtain ⟨f,rfl⟩ := getLast?_eq_some_iff.mp h
    rw [dropCR,cutSuffix_append,dropLast_concat]
  · rw [dropCR,cutSuffix_of_not]
    rintro ⟨f,rfl⟩
    exact h getLast?_concat

section
variable {sep s : List α} {ps : List α × List α} {x : α}

lemma before_of_cut (h : cut sep s = some ps) : before sep s = ps.1 := by
  rw [before,h]

lemma before_of_cut_eq_none (h : cut sep s = none) : before sep s = s := by
  rw [before,h]

lemma eq_append_of_cut (h : cut sep s = some ps) : s = ps.1++(sep++ps.2) := by
  induction s generalizing ps with
  | nil =>
    rw [cut] at h
    split_ifs at h with hs
    obtain rfl := Option.some.inj h
    rw [hs]
    rfl
  | cons x xs ih =>
    rw [cut] at h
    split_ifs at h with hp
    · obtain rfl := Option.some.inj h
      obtain ⟨r,hr⟩ := hp
      rw [← hr,drop_left]
      rfl
    · obtain ⟨i,hin,rfl⟩ := Option.map_eq_some_iff.mp h
      exact congrArg (x :: ·) (ih hin)

lemma before_cons {y : α} (h : x ≠ y) : before (x::sep) (y::s) = y::before (x::sep) s := by
  rw [before,cut,if_neg (not_isPrefix_cons h),before]
  cases cut (x::sep) s <;> rfl

lemma cut_eq_none_of_not_mem (h : x ∉ s) : cut (x::sep) s = none := by
  induction s with
  | nil => rfl
  | cons y ys ih =>
    have hne : x ≠ y := fun heq => h (heq ▸ mem_cons_self)
    rw [cut,if_neg (not_isPrefix_cons hne),ih (fun hm => h (mem_cons_of_mem y hm))]
    rfl

lemma cut_append_of_not_mem {f : List α} (h : x ∉ f) (r : List α) : cut [x] (f++(x::r)) = some (f,r) := by
  induction f with
  | nil => exact if_pos (prefix_append [x] r)
  | cons y ys ih =>
    have hne : x ≠ y := fun heq => h (heq ▸ mem_cons_self)
    rw [cons_append,cut,if_neg (not_isPrefix_cons hne),ih (fun hm => h (mem_cons_of_mem y hm))]
    rfl

lemma not_mem_of_cut (h : cut [x] s = some ps) : x ∉ ps.1 := by
  induction s generalizing ps with
  | nil => cases h
  | cons y ys ih =>
    rw [cut] at h
    split_ifs at h with hp
    · obtain rfl := Option.some.inj h
      exact not_mem_nil
    · obtain ⟨i,hin,rfl⟩ := Option.map_eq_some_iff.mp h
      have hne : x ≠ y := fun heq => hp (heq ▸ prefix_append [x] ys)
      exact not_mem_cons_of_ne_of_not_mem hne (ih hin)

lemma not_mem_of_cut_eq_none (h : cut [x] s = none) : x ∉ s := by
  intro hm
  obtain ⟨f,r,rfl,hf⟩ := eq_append_cons_of_mem hm
  rw [cut_append_of_not_mem hf] at h
  cases h

lemma cut_append (h : cut sep s = some ps) (m : List α) : cut sep (s++m) = some (ps.1,ps.2++m) := by
  induction s generalizing ps with
  | nil =>
    rw [cut] at h
    split_ifs at h with hs
    obtain rfl := Option.some.inj h
    subst hs
    cases m with
    | nil | cons x m => rfl
  | cons x xs ih =>
    rw [cut] at h
    rw [cons_append,cut,← cons_append]
    split_ifs at h with hs
    · obtain rfl := Option.some.inj h
      rw [if_pos (hs.trans (prefix_append (x::xs) m)),drop_append_of_le_length hs.length_le]
    · obtain ⟨i,hin,rfl⟩ := Option.map_eq_some_iff.mp h
      -- an occurrence at the front would end before what follows
      have hl : sep.length ≤ (x::xs).length := by
        rw [eq_append_of_cut hin]
        simp only [length_cons,length_append]
        omega
      have hn : ¬ sep <+: x::xs++m := fun hp =>
        hs (prefix_of_prefix_length_le hp (prefix_append (x::xs) m) hl)
      rw [if_neg hn,ih hin]
      rfl

lemma cut_concat_eq_none {y : α} (hne : x ≠ y) (h : cut (sep++[x]) s = none) : cut (sep++[x]) (s++[y]) = none := by
  have hs : ∀ r : List α, sep++[x] <+: r++[y] → sep++[x] <+: r := by
    intro r hp
    obtain heq | hr := prefix_concat_iff.mp hp
    · exact absurd (append_inj_right' heq rfl) (by simpa using hne)
    · exact hr
  induction s with
  | nil =>
    have hn := fun hp => hs [] hp
    rw [nil_append,cut,if_neg (fun hp => ?_)]
    · rw [h]
      rfl
    · have := (hn hp).length_le
      simp at this
  | cons z zs ih =>
    rw [cut] at h
    split_ifs at h with hsp
    rw [cons_append,cut,← cons_append,if_neg (fun hp => hsp (hs (z::zs) hp)), ih (Option.map_eq_none_iff.mp h)]
    rfl

end

lemma sublist_of_mem_splitOn {sep : α} {s p : List α} (h : p ∈ s.splitOn sep) : p.Sublist s ∧ sep ∉ p := by
  induction s generalizing p with
  | nil =>
    rw [splitOn_nil,mem_singleton] at h
    subst h
    exact ⟨List.Sublist.refl [],not_mem_nil⟩
  | cons x xs ih =>
    rw [splitOn,splitOnP_cons_eq_if_modifyHead] at h
    split_ifs at h with hx
    · cases h with
      | head => exact ⟨nil_sublist _,not_mem_nil⟩
      | tail _ h => exact ⟨(ih h).1.cons x,(ih h).2⟩
    · have hne : sep ≠ x := fun heq => hx (beq_iff_eq.mpr heq.symm)
      cases hp : xs.splitOn sep with
      | nil => exact absurd hp (splitOnP_ne_nil _ xs)
      | cons f r =>
        rw [hp] at ih
        rw [splitOn] at hp
        rw [hp] at h
        have hm : p ∈ (x::f)::r := h
        cases hm with
        | head =>
          have hf := ih mem_cons_self
          exact ⟨hf.1.cons_cons x,not_mem_cons_of_ne_of_not_mem hne hf.2⟩
        | tail _ hr =>
          have hpr := ih (mem_cons_of_mem f hr)
          exact ⟨hpr.1.cons x,hpr.2⟩

lemma length_splitOn (sep : α) (s : List α) : (s.splitOn sep).length = s.count sep+1 := by
  induction s with
  | nil => rfl
  | cons x xs ih =>
    rw [splitOn_cons_eq_if_modifyHead,count_cons]
    split_ifs with hx
    · rw [length_cons,ih]
    · rw [length_modifyHead,ih]

lemma splitOn_lines {sep : α} {ls : List (List α)} (h : ∀ l ∈ ls, sep ∉ l) :
    (ls.flatMap fun l => l++[sep]).splitOn sep = ls++[[]] := by
  induction ls with
  | nil => exact splitOn_nil sep
  | cons l ls ih =>
    have hl : ∀ x ∈ l, (x == sep) = false := fun x hx =>
      beq_false_of_ne fun heq => h l mem_cons_self (heq ▸ hx)
    have hr := ih fun o ho => h o (mem_cons_of_mem l ho)
    rw [flatMap_cons,append_assoc]
    refine (splitOnP_append_cons_of_forall_mem hl sep (beq_self_eq_true sep) _).trans ?_
    exact congrArg (l :: ·) hr

end SingBox.Cut
