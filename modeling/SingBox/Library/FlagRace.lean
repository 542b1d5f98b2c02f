import SingBox.Library.Threads

/-! Threads that race on one atomic flag. Each has a program with a single swap of the flag: what it does before,
and what it does after a swap that found the flag set or clear. -/
namespace FlagRace
open List Function
variable {α ι : Type}

structure Program (α : Type) where
  todo : List α
  ifSet : List α
  ifClear : List α

inductive Thread (α : Type)
  | before (program : Program α)
  | after (todo : List α)

def Thread.todo : Thread α → List α
  | .before program => program.todo
  | .after todo => todo

def Thread.left : Thread α → ℕ
  | .before program => program.todo.length+1+max program.ifSet.length program.ifClear.length
  | .after todo => todo.length

def Thread.Finished (thread : Thread α) : Prop := thread = .after []

lemma Thread.finished_of_left {t : Thread α} (h : t.left = 0) : t.Finished := by
  cases t with
  | before =>
    simp only [Thread.left] at h
    omega
  | after =>
    rw [eq_nil_of_length_eq_zero h]
    rfl

structure System (α ι : Type) where
  flag : Bool := false
  trace : List α := []
  threads : ι → Thread α

variable [DecidableEq ι]

namespace System

def step (s : System α ι) (i : ι) : System α ι :=
  match s.threads i with
  | .before program =>
      match program.todo with
      | a::todo =>
          { s with trace := s.trace++[a], threads := Function.update s.threads i (.before { program with todo := todo }) }
      | [] =>
          { s with
            flag := true
            threads := Function.update s.threads i (.after (if s.flag then program.ifSet else program.ifClear)) }
  | .after (a::todo) => { s with trace := s.trace++[a], threads := Function.update s.threads i (.after todo) }
  | .after [] => s

def run (s : System α ι) (schedule : List ι) : System α ι := schedule.foldl step s

end System

def start (trace : List α) (programs : ι → Program α) : System α ι :=
  { trace := trace, threads := fun i => .before (programs i) }

section

variable (s : System α ι)

lemma left_step_of_ne {i j : ι} (h : j ≠ i) : (s.step i).threads j = s.threads j := by
  unfold System.step
  split
  · split
    all_goals exact update_of_ne h ..
  · exact update_of_ne h ..
  · rfl

lemma left_step_self (i : ι) : ((s.step i).threads i).left ≤ (s.threads i).left-1 := by
  unfold System.step
  cases ht : s.threads i with
  | before p =>
    dsimp only
    cases htd : p.todo with
    | cons =>
      dsimp only
      rw [update_self]
      simp only [Thread.left,htd,length_cons]
      omega
    | nil =>
      dsimp only
      rw [update_self]
      simp only [Thread.left,htd,length_nil]
      split_ifs <;> omega
  | after t =>
    cases t with
    | cons =>
      dsimp only
      rw [update_self]
      simp [Thread.left]
    | nil => simp [ht,Thread.left]

lemma left_run (sc : List ι) (i : ι) : ((s.run sc).threads i).left ≤ (s.threads i).left-sc.count i := by
  induction sc generalizing s with
  | nil => exact le_rfl
  | cons j sc ih =>
    have hr := ih (s.step j)
    change (((s.step j).run sc).threads i).left ≤ _
    by_cases hij : i = j
    · subst hij
      have ht := left_step_self s i
      rw [count_cons_self]
      omega
    · rw [left_step_of_ne s hij] at hr
      rw [count_cons_of_ne (fun heq => hij heq.symm)]
      exact hr

lemma finished_run {sc : List ι} (h : ∀ i, (s.threads i).left ≤ sc.count i) (i : ι) :
    ((s.run sc).threads i).Finished := by
  have hl := left_run s sc i
  exact Thread.finished_of_left (by have := h i; omega)

end

variable (programs : ι → Program α)

/-- What the threads do after their swaps, in the order of the swaps: the first one finds the flag clear. -/
def afterSwaps : List ι → List α
  | [] => []
  | first::later => (programs first).ifClear++later.flatMap fun i => (programs i).ifSet

variable [Fintype ι]

/-- The threads in `order` have swapped, one after the other, and what was done is what is not left to do. -/
structure Progress (trace : List α) (s : System α ι) (order : List ι) : Prop where
  nodup : order.Nodup
  flag : s.flag = true ↔ order ≠ []
  before : ∀ i ∉ order, ∃ todo, s.threads i = .before { programs i with todo := todo }
  after : ∀ i ∈ order, ∃ todo, s.threads i = .after todo
  done : (s.trace : Multiset α)+∑ i, ((s.threads i).todo : Multiset α) =
    (trace : Multiset α)+∑ i, ((programs i).todo : Multiset α)+(afterSwaps programs order : Multiset α)

variable {programs} {trace : List α}

omit [DecidableEq ι] in
lemma progress_start : Progress programs trace (start trace programs) [] where
  nodup := nodup_nil
  flag := ⟨fun h => (by cases h),fun h => absurd rfl h⟩
  before := fun i _ => ⟨(programs i).todo,rfl⟩
  after := fun i hi => absurd hi not_mem_nil
  done := (add_zero _).symm

lemma done_action (s : System α ι) {i : ι} {a : α} {td : List α} {th : Thread α}
    (ho : (s.threads i).todo = a::td) (hn : th.todo = td) :
    ((s.trace++[a] : List α) : Multiset α)+∑ j, ((update s.threads i th j).todo : Multiset α) =
      (s.trace : Multiset α)+∑ j, ((s.threads j).todo : Multiset α) := by
  have hs := Threads.sum_update_add s.threads (fun t => (t.todo : Multiset α)) i th
  rw [ho,hn,← Multiset.cons_coe,← Multiset.singleton_add] at hs
  rw [← Multiset.coe_add]
  have hc : ∑ j, ((update s.threads i th j).todo : Multiset α)+{a} = ∑ j, ((s.threads j).todo : Multiset α) := by
    refine add_right_cancel (b := (td : Multiset α)) ?_
    rw [← hs]
    abel
  rw [← hc,Multiset.coe_singleton]
  abel

omit [DecidableEq ι] [Fintype ι] in
lemma afterSwaps_concat (od : List ι) (i : ι) : afterSwaps programs (od++[i]) =
    afterSwaps programs od++if od = [] then (programs i).ifClear else (programs i).ifSet := by
  cases od with
  | nil | cons first later => simp [afterSwaps]

variable {o : List ι} {s : System α ι}

section
variable (h : Progress programs trace s o)
include h

lemma Progress.action {i : ι} {a : α} {td : List α} {t : Thread α} (ho : (s.threads i).todo = a::td) (hn : t.todo = td)
    (hb : i ∉ o → ∃ td, t = .before { programs i with todo := td }) (ha : i ∈ o → ∃ td, t = .after td) :
    Progress programs trace { s with trace := s.trace++[a], threads := update s.threads i t } o where
  nodup := h.nodup
  flag := h.flag
  before := (forall_update_iff s.threads fun j t => j ∉ o → ∃ td, t = .before { programs j with todo := td }).mpr
    ⟨hb,fun j _ => h.before j⟩
  after := (forall_update_iff s.threads fun j t => j ∈ o → ∃ td, t = .after td).mpr
    ⟨ha,fun j _ => h.after j⟩
  done := (done_action s ho hn).trans h.done

lemma Progress.swap {i : ι} (hi : i ∉ o)
    (ht : s.threads i = .before { programs i with todo := [] }) :
    Progress programs trace
      { s with
        flag := true
        threads := update s.threads i (.after (if s.flag then (programs i).ifSet else (programs i).ifClear)) }
      (o++[i]) := by
  have hf : s.flag = !decide (o = []) := by
    rw [Bool.eq_iff_iff,h.flag]
    simp
  refine ⟨?_,?_,?_,?_,?_⟩
  · rw [← concat_eq_append]
    exact h.nodup.concat hi
  · simp
  · refine (forall_update_iff s.threads
      fun j thread => j ∉ o++[i] → ∃ todo, thread = .before { programs j with todo := todo }).mpr ⟨fun hm => ?_,?_⟩
    · exact absurd (mem_append_right o mem_cons_self) hm
    · exact fun j _ hj => h.before j fun hm => hj (mem_append_left _ hm)
  · refine (forall_update_iff s.threads
      fun j thread => j ∈ o++[i] → ∃ todo, thread = .after todo).mpr ⟨fun _ => ⟨_,rfl⟩,fun j hne hj => ?_⟩
    exact h.after j ((mem_append.mp hj).resolve_right fun hl => hne (mem_singleton.mp hl))
  · have hs := Threads.sum_update_add s.threads (fun t => (t.todo : Multiset α)) i
      (.after (if s.flag then (programs i).ifSet else (programs i).ifClear))
    rw [ht] at hs
    simp only [Thread.todo,Multiset.coe_nil,add_zero] at hs
    have hd := h.done
    simp only [Thread.todo] at hs hd ⊢
    rw [hs,← add_assoc,hd,afterSwaps_concat,← Multiset.coe_add,
      add_assoc _ (afterSwaps programs o : Multiset α),hf]
    by_cases he : o = [] <;> simp [he]

lemma Progress.step (i : ι) : ∃ m, Progress programs trace (s.step i) (o++m) := by
  unfold System.step
  by_cases hi : i ∈ o
  · obtain ⟨t,ht⟩ := h.after i hi
    refine ⟨[],?_⟩
    rw [append_nil,ht]
    cases t with
    | nil => exact h
    | cons a t =>
      exact h.action (by rw [ht]; rfl) rfl (fun hn => absurd hi hn) fun _ => ⟨t,rfl⟩
  · obtain ⟨t,ht⟩ := h.before i hi
    rw [ht]
    cases t with
    | cons a t =>
      refine ⟨[],?_⟩
      rw [append_nil]
      exact h.action (by rw [ht]; rfl) rfl (fun _ => ⟨t,rfl⟩) fun hm => absurd hm hi
    | nil => exact ⟨[i],h.swap hi ht⟩

lemma Progress.run (sc : List ι) : ∃ m, Progress programs trace (s.run sc) (o++m) := by
  induction sc generalizing s o with
  | nil => exact ⟨[],by rwa [append_nil]⟩
  | cons i sc ih =>
    obtain ⟨m,hs⟩ := h.step i
    obtain ⟨r,hr⟩ := ih hs
    exact ⟨m++r,by rwa [← append_assoc]⟩

end

omit [DecidableEq ι] in
lemma Progress.trace_le (h : Progress programs trace s o) : (s.trace : Multiset α) ≤
      (trace : Multiset α)+∑ i, ((programs i).todo : Multiset α)+(afterSwaps programs o : Multiset α) := by
  rw [← h.done]
  exact Multiset.le_add_right _ _

lemma Progress.finished (h : Progress programs trace s o)
    (hf : ∀ i, (s.threads i).Finished) : (∀ i, i ∈ o) ∧ (s.trace : Multiset α) =
      (trace : Multiset α)+∑ i, ((programs i).todo : Multiset α)+(afterSwaps programs o : Multiset α) := by
  constructor
  · intro i
    by_contra hi
    obtain ⟨t,ht⟩ := h.before i hi
    have he := hf i
    rw [ht] at he
    cases he
  · rw [← h.done,Finset.sum_eq_zero fun i _ => ?_,add_zero]
    rw [hf i]
    rfl

end FlagRace
