import SingBox.Library.Run
import SingBox.Library.Threads

/-! A race of dials with a delayed second group. The racers of the first group dial at once, those of the second one
when a timer is received from. Each offers its result to the collector, which takes the first success or all failures;
once the collector has returned, whoever still offers leaves and drops what it has. -/
namespace Race
open List Function
variable {ι κ ε : Type}

inductive Racer
  | waiting
  | dialing
  | offering
  | delivered
  | left
  deriving DecidableEq

/-- `expired` has not been received from, `idle` has. -/
inductive Timer
  | absent
  | armed
  | expired
  | idle
  deriving DecidableEq

structure State (ι κ ε : Type) where
  racers : ι → Racer
  timer : Timer
  errors : List (ι × ε) := []
  result : Option (Except (List (ι × ε)) (ι × κ)) := none

inductive Label (ι : Type)
  | dialed (i : ι)
  | deliver (i : ι)
  | expire
  | fire
  | leave (i : ι)

def Label.isFire : Label ι → Bool
  | .fire => true
  | _ => false

/-- Stopping the timer and, if that worked, setting it off at once: an armed timer is armed again; one that has expired
stays so, or is drained and armed again; nothing happens to a timer that was received from. -/
def Timer.Hastened (timer timer' : Timer) : Prop := timer' = timer ∨ timer = .expired ∧ timer' = .armed

lemma Timer.Hastened.kind {tm tm' : Timer} (h : tm.Hastened tm') :
    (tm' = .armed ∨ tm' = .expired → tm = .armed ∨ tm = .expired) ∧
    (tm' = .idle ∨ tm' = .absent → tm = tm') ∧ (tm' = .idle ↔ tm = .idle) := by
  obtain rfl | ⟨rfl,rfl⟩ := h
  · exact ⟨id,fun _ => rfl,Iff.rfl⟩
  · simp

def start (first : ι → Bool) (timer : Timer) : State ι κ ε :=
  { racers := fun i => if first i then .dialing else .waiting, timer := timer }

variable [DecidableEq ι] [Fintype ι] (first : ι → Bool) (outcome : ι → Except ε κ)

inductive Step : State ι κ ε → Label ι → State ι κ ε → Prop
  | dialed {s : State ι κ ε} {i : ι} (hracer : s.racers i = .dialing) :
      Step s (.dialed i) { s with racers := Function.update s.racers i .offering }
  | success {s : State ι κ ε} {i : ι} {conn : κ} (hopen : s.result = none) (hracer : s.racers i = .offering)
      (houtcome : outcome i = .ok conn) :
      Step s (.deliver i) { s with racers := Function.update s.racers i .delivered, result := some (.ok (i,conn)) }
  | lastFailure {s : State ι κ ε} {i : ι} {err : ε} (hopen : s.result = none) (hracer : s.racers i = .offering)
      (houtcome : outcome i = .error err) (hlast : (s.errors++[(i,err)]).length = Fintype.card ι) :
      Step s (.deliver i) { s with
        racers := Function.update s.racers i .delivered
        errors := s.errors++[(i,err)]
        result := some (.error (s.errors++[(i,err)])) }
  | failure {s : State ι κ ε} {i : ι} {err : ε} {timer : Timer} (hopen : s.result = none)
      (hracer : s.racers i = .offering) (houtcome : outcome i = .error err)
      (hlast : (s.errors++[(i,err)]).length ≠ Fintype.card ι)
      (htimer : if first i then s.timer.Hastened timer else timer = s.timer) :
      Step s (.deliver i) { s with
        racers := Function.update s.racers i .delivered
        errors := s.errors++[(i,err)]
        timer := timer }
  | expire {s : State ι κ ε} (htimer : s.timer = .armed) : Step s .expire { s with timer := .expired }
  | fire {s : State ι κ ε} (hopen : s.result = none) (htimer : s.timer = .expired) :
      Step s .fire { s with racers := fun i => if first i then s.racers i else .dialing, timer := .idle }
  | leave {s : State ι κ ε} {i : ι} (hreturned : s.result ≠ none) (hracer : s.racers i = .offering) :
      Step s (.leave i) { s with racers := Function.update s.racers i .left }

/-- Nobody can move. -/
def Stuck (s : State ι κ ε) : Prop := ∀ label s', ¬ Step first outcome s label s'

/-- What a race of `outcome` comes to. A connection that is returned was dialed; an error is returned when everybody has
failed; the second group is started at most once; the race ends, with a connection exactly where somebody who was started
has one, and all other connections are closed. -/
structure Settles (s₀ : State ι κ ε) : Prop where
  returned : ∀ history s, Run (Step first outcome) s₀ history s → ∀ i conn, s.result = some (.ok (i,conn)) →
    s.racers i = .delivered ∧ outcome i = .ok conn
  gaveUp : ∀ history s, Run (Step first outcome) s₀ history s → ∀ errors, s.result = some (.error errors) →
    (∀ i, s.racers i = .delivered ∧ ∃ err, outcome i = .error err ∧ (i,err) ∈ errors) ∧
    ∀ i err, (i,err) ∈ errors → outcome i = .error err
  fired : ∀ history s, Run (Step first outcome) s₀ history s → history.countP Label.isFire ≤ 1
  ends : ∀ history s, Run (Step first outcome) s₀ history s → history.length ≤ 5*Fintype.card ι+2
  succeeds : ∀ history s, Run (Step first outcome) s₀ history s → Stuck first outcome s → ∃ result,
    s.result = some result ∧
    ((∃ i conn, result = .ok (i,conn)) ↔ ∃ i conn, s.racers i ≠ .waiting ∧ outcome i = .ok conn) ∧
    ∀ i conn, s.racers i ≠ .waiting → outcome i = .ok conn → result = .ok (i,conn) ∨ s.racers i = .left

/-- What holds along a race. Errors come from different racers, which have delivered them; the second group waits as long
as the timer was not received from. -/
structure Inv (history : List (Label ι)) (s : State ι κ ε) : Prop where
  nodup : (s.errors.map Prod.fst).Nodup
  failed : ∀ i err, (i,err) ∈ s.errors → s.racers i = .delivered ∧ outcome i = .error err
  collecting : s.result = none → s.errors.length < Fintype.card ι ∧
    ∀ i, s.racers i ≠ .left ∧ (s.racers i = .delivered → i ∈ s.errors.map Prod.fst)
  returned : ∀ i conn, s.result = some (.ok (i,conn)) → s.racers i = .delivered ∧ outcome i = .ok conn ∧
    ∀ j, s.racers j = .delivered → j = i ∨ j ∈ s.errors.map Prod.fst
  gaveUp : ∀ errors, s.result = some (.error errors) → errors = s.errors ∧ ∀ i, i ∈ s.errors.map Prod.fst
  dials : ∀ i, first i = true → s.racers i ≠ .waiting
  waits : s.timer = .armed ∨ s.timer = .expired → ∀ i, first i = false → s.racers i = .waiting
  released : s.timer = .idle ∨ s.timer = .absent → ∀ i, s.racers i ≠ .waiting
  fired : history.countP Label.isFire = if s.timer = .idle then 1 else 0

variable {first outcome}

variable {t : Timer} {his : List (Label ι)} {s : State ι κ ε} (rs : ι → Racer) {l : Label ι}
  {s' : State ι κ ε}

omit [DecidableEq ι] in
lemma inv_start (hc : 0 < Fintype.card ι) (hil : t ≠ .idle) (ha : t = .absent → ∀ i, first i = true) :
    Inv first outcome [] (start first t : State ι κ ε) where
  nodup := nodup_nil
  failed := fun _ _ h => absurd h not_mem_nil
  collecting := by
    refine fun _ => ⟨hc,fun i => ?_⟩
    simp only [start]
    split_ifs <;> simp
  returned := fun _ _ h => (by cases h)
  gaveUp := fun _ h => (by cases h)
  dials := by
    intro i hi
    simp [start,hi]
  waits := by
    intro _ i hi
    simp [start,hi]
  released := by
    rintro (h | h) i
    · exact absurd h hil
    · simp [start,ha h i]
  fired := by
    change 0 = if t = .idle then 1 else 0
    rw [if_neg hil]

omit [DecidableEq ι] in
lemma Inv.not_mem (h : Inv first outcome his s) {i : ι} (hr : s.racers i = .offering) : i ∉ s.errors.map Prod.fst := by
  intro hm
  obtain ⟨⟨j,e⟩,hp,rfl⟩ := mem_map.mp hm
  have hd := (h.failed j e hp).1
  rw [hr] at hd
  cases hd

omit [Fintype ι] in
lemma update_eq_iff (i : ι) (r st : Racer) (ho : rs i ≠ st) (hn : r ≠ st)
    (j : ι) : update rs i r j = st ↔ rs j = st := by
  by_cases hj : j = i
  · subst hj
    rw [update_self]
    exact iff_of_false hn ho
  · rw [update_of_ne hj]

omit [Fintype ι] in
lemma update_delivered_iff (i j : ι) : update rs i .delivered j = .delivered ↔ j = i ∨ rs j = .delivered := by
  by_cases hj : j = i
  · subst hj
    rw [update_self]
    exact iff_of_true rfl (.inl rfl)
  · rw [update_of_ne hj]
    exact ⟨.inr,fun h => h.resolve_left hj⟩

lemma Inv.groups (h : Inv first outcome his s) (i : ι) (r : Racer)
    (hr : s.racers i ≠ .waiting) (hn : r ≠ .waiting) : (∀ j, first j = true → update s.racers i r j ≠ .waiting) ∧
    (s.timer = .armed ∨ s.timer = .expired → ∀ j, first j = false → update s.racers i r j = .waiting) ∧
    (s.timer = .idle ∨ s.timer = .absent → ∀ j, update s.racers i r j ≠ .waiting) := by
  have hw := update_eq_iff s.racers i r .waiting hr hn
  refine ⟨fun j hj => ?_,fun ht j hj => ?_,fun ht j => ?_⟩
  · exact mt (hw j).mp (h.dials j hj)
  · exact (hw j).mpr (h.waits ht j hj)
  · exact mt (hw j).mp (h.released ht j)

omit [DecidableEq ι] in
/-- Moves to and from other stages than `delivered` keep what is said of those who have delivered. -/
lemma Inv.delivered (h : Inv first outcome his s) {rs : ι → Racer}
    (hd : ∀ j, rs j = .delivered ↔ s.racers j = .delivered) :
    (∀ j e, (j,e) ∈ s.errors → rs j = .delivered ∧ outcome j = .error e) ∧
    (s.result = none → ∀ j, rs j = .delivered → j ∈ s.errors.map Prod.fst) ∧
    ∀ j c, s.result = some (.ok (j,c)) → rs j = .delivered ∧ outcome j = .ok c ∧
      ∀ j', rs j' = .delivered → j' = j ∨ j' ∈ s.errors.map Prod.fst := by
  refine ⟨fun j e hj => ?_,fun hop j hj => ?_,fun j c hj => ?_⟩
  · obtain ⟨hr,hot⟩ := h.failed j e hj
    exact ⟨(hd j).mpr hr,hot⟩
  · exact ((h.collecting hop).2 j).2 ((hd j).mp hj)
  · obtain ⟨hr,hot,ho⟩ := h.returned j c hj
    exact ⟨(hd j).mpr hr,hot,fun j' hj' => ho j' ((hd j').mp hj')⟩

lemma Inv.failed_concat (h : Inv first outcome his s) {i : ι} {e : ε}
    (hr : s.racers i = .offering) (ho : outcome i = .error e) :
    ((s.errors++[(i,e)]).map Prod.fst).Nodup ∧ ∀ j e', (j,e') ∈ s.errors++[(i,e)] →
      update s.racers i .delivered j = .delivered ∧ outcome j = .error e' := by
  constructor
  · rw [map_append,map_singleton,← concat_eq_append]
    exact h.nodup.concat (h.not_mem hr)
  · intro j e' hm
    rcases mem_append.mp hm with hol | hn
    · obtain ⟨hd,hj⟩ := h.failed j e' hol
      exact ⟨(update_delivered_iff s.racers i j).mpr (.inr hd),hj⟩
    · cases mem_singleton.mp hn
      exact ⟨(update_delivered_iff s.racers i i).mpr (.inl rfl),ho⟩

omit [DecidableEq ι] [Fintype ι] in
lemma countP_concat (hl : l.isFire = false) : (his++[l]).countP Label.isFire = his.countP Label.isFire := by
  rw [countP_append,countP_singleton,hl]
  rfl

lemma Inv.step (h : Inv first outcome his s) (hst : Step first outcome s l s') : Inv first outcome (his++[l]) s' := by
  cases hst with
  | @dialed i hrc =>
    obtain ⟨hf,hcl,hrt⟩ := h.delivered (update_eq_iff s.racers i .offering .delivered (by simp [hrc]) (by simp))
    have hl := update_eq_iff s.racers i .offering .left (by simp [hrc]) (by simp)
    obtain ⟨hds,hw,hr⟩ := h.groups i .offering (by simp [hrc]) (by simp)
    refine ⟨h.nodup,hf,fun ho => ⟨(h.collecting ho).1,fun j => ⟨?_,hcl ho j⟩⟩,hrt,h.gaveUp, hds,hw,hr,?_⟩
    · exact mt (hl j).mp ((h.collecting ho).2 j).1
    · rw [countP_concat rfl]
      exact h.fired
  | @success i c ho hrc hot =>
    have hd := update_delivered_iff s.racers i
    obtain ⟨hds,hw,hr⟩ := h.groups i .delivered (by simp [hrc]) (by simp)
    obtain ⟨-,hc⟩ := h.collecting ho
    refine ⟨h.nodup,fun j e hj => ?_,fun ho => (by cases ho),fun j c' hj => ?_,fun es he => (by cases he),
      hds,hw,hr,?_⟩
    · exact ⟨(hd j).mpr (.inr (h.failed j e hj).1),(h.failed j e hj).2⟩
    · cases hj
      refine ⟨(hd i).mpr (.inl rfl),hot,fun j hj => ?_⟩
      obtain rfl | hj := (hd j).mp hj
      · exact .inl rfl
      · exact .inr ((hc j).2 hj)
    · rw [countP_concat rfl]
      exact h.fired
  | @lastFailure i e ho hrc hot hls =>
    obtain ⟨hn,hf⟩ := h.failed_concat hrc hot
    obtain ⟨hds,hw,hr⟩ := h.groups i .delivered (by simp [hrc]) (by simp)
    refine ⟨hn,hf,fun ho => (by cases ho),fun j c hj => (by cases hj),fun es he => ?_, hds,hw,hr,?_⟩
    · cases he
      refine ⟨rfl,fun j => ?_⟩
      have hu := (Finset.card_eq_iff_eq_univ _).mp ((toFinset_card_of_nodup hn).trans ((length_map _).trans hls))
      rw [← mem_toFinset,hu]
      exact Finset.mem_univ j
    · rw [countP_concat rfl]
      exact h.fired
  | @failure i e t ho hrc hot hls htm =>
    have hd := update_delivered_iff s.racers i
    obtain ⟨hn,hf⟩ := h.failed_concat hrc hot
    obtain ⟨hds,hw,hr⟩ := h.groups i .delivered (by simp [hrc]) (by simp)
    obtain ⟨hlt,hc⟩ := h.collecting ho
    have hk : (t = .armed ∨ t = .expired → s.timer = .armed ∨ s.timer = .expired) ∧
        (t = .idle ∨ t = .absent → s.timer = t) ∧ (t = .idle ↔ s.timer = .idle) := by
      split_ifs at htm
      · exact htm.kind
      · exact Timer.Hastened.kind (.inl htm)
    refine ⟨hn,hf,fun _ => ⟨?_,fun j => ⟨?_,fun hj => ?_⟩⟩,fun j c hj => ?_,fun es he => ?_,hds,
      fun ht => hw (hk.1 ht),fun ht => hr (hk.2.1 ht ▸ ht),?_⟩
    · rw [length_append,length_singleton] at hls ⊢
      omega
    · exact mt (update_eq_iff s.racers i .delivered .left (by simp [hrc]) (by simp) j).mp (hc j).1
    · rw [map_append,mem_append,map_singleton,mem_singleton]
      obtain rfl | hj := (hd j).mp hj
      · exact .inr rfl
      · exact .inl ((hc j).2 hj)
    · cases ho.symm.trans hj
    · cases ho.symm.trans he
    · rw [countP_concat rfl,h.fired]
      simp only [hk.2.2]
  | expire htm =>
    refine ⟨h.nodup,h.failed,h.collecting,h.returned,h.gaveUp,h.dials,fun _ => h.waits (.inl htm),fun ht => ?_,?_⟩
    · simp at ht
    · rw [countP_concat rfl,h.fired,htm]
      simp
  | fire ho htm =>
    have hw := h.waits (.inr htm)
    have hs : ∀ st, st ≠ .dialing → st ≠ .waiting → ∀ j,
        ((if first j then s.racers j else .dialing) = st ↔ s.racers j = st) := by
      intro st hdl hwt j
      cases hj : first j with
      | true => simp
      | false =>
        rw [hw j hj]
        exact iff_of_false (fun heq => hdl heq.symm) fun heq => hwt heq.symm
    obtain ⟨hlt,hc⟩ := h.collecting ho
    obtain ⟨hf,hcl,hrt⟩ := h.delivered (hs .delivered (by simp) (by simp))
    refine ⟨h.nodup,hf,fun _ => ⟨hlt,fun j => ⟨?_,hcl ho j⟩⟩,hrt,h.gaveUp,fun j hj => ?_,fun ht => ?_,
      fun _ j => ?_,?_⟩
    · exact mt (hs .left (by simp) (by simp) j).mp (hc j).1
    · simpa [hj] using h.dials j hj
    · simp at ht
    · cases hj : first j with
      | true => simpa [hj] using h.dials j hj
      | false => simp [hj]
    · have hfr := h.fired
      rw [htm] at hfr
      simp [hfr,Label.isFire]
  | @leave i hrt hrc =>
    obtain ⟨hf,-,hrt'⟩ := h.delivered (update_eq_iff s.racers i .left .delivered (by simp [hrc]) (by simp))
    obtain ⟨hds,hw,hr⟩ := h.groups i .left (by simp [hrc]) (by simp)
    refine ⟨h.nodup,hf,fun ho => absurd ho hrt,hrt',h.gaveUp,hds,hw,hr,?_⟩
    rw [countP_concat rfl]
    exact h.fired

lemma Inv.run (hc : 0 < Fintype.card ι) (hil : t ≠ .idle) (ha : t = .absent → ∀ i, first i = true)
    (h : Run (Step first outcome) (start first t) his s) : Inv first outcome his s :=
  h.invariant (inv_start hc hil ha) fun _ _ _ _ hin hs => hin.step hs

lemma Inv.result_of_stuck (h : Inv first outcome his s) (hs : Stuck first outcome s) : s.result ≠ none ∧
      ∀ i, s.racers i = .waiting ∨ s.racers i = .delivered ∨ s.racers i = .left := by
  have hd : ∀ i, s.racers i ≠ .dialing := fun i hi => hs _ _ (.dialed hi)
  have ha : s.timer ≠ .armed := fun ht => hs _ _ (.expire ht)
  have hr : s.result ≠ none := by
    intro hop
    have he : s.timer ≠ .expired := fun ht => hs _ _ (.fire hop ht)
    have ho : ∀ i, s.racers i ≠ .offering := by
      intro i hi
      cases hot : outcome i with
      | ok => exact hs _ _ (.success hop hi hot)
      | error e =>
        by_cases hl : (s.errors++[(i,e)]).length = Fintype.card ι
        · exact hs _ _ (.lastFailure hop hi hot hl)
        · have htm : if first i then s.timer.Hastened s.timer else s.timer = s.timer := by
            split_ifs
            · exact .inl rfl
            · rfl
          exact hs _ _ (.failure hop hi hot hl htm)
    -- everybody has delivered an error, so there are as many errors as racers
    obtain ⟨hlt,hc⟩ := h.collecting hop
    have htm : s.timer = .idle ∨ s.timer = .absent := by
      cases ht : s.timer with
      | absent => exact .inr rfl
      | armed => exact absurd ht ha
      | expired => exact absurd ht he
      | idle => exact .inl rfl
    have hal : ∀ i, i ∈ s.errors.map Prod.fst := by
      intro i
      refine (hc i).2 ?_
      cases hi : s.racers i with
      | waiting => exact absurd hi (h.released htm i)
      | dialing => exact absurd hi (hd i)
      | offering => exact absurd hi (ho i)
      | delivered => rfl
      | left => exact absurd hi (hc i).1
    have hcr : Fintype.card ι ≤ (s.errors.map Prod.fst).length := by
      rw [← toFinset_card_of_nodup h.nodup,← Finset.card_univ]
      exact Finset.card_le_card fun i _ => mem_toFinset.mpr (hal i)
    rw [length_map] at hcr
    omega
  refine ⟨hr,fun i => ?_⟩
  cases hi : s.racers i with
  | waiting => exact .inl rfl
  | dialing => exact absurd hi (hd i)
  | offering => exact absurd (Step.leave hr hi) (hs _ _)
  | delivered => exact .inr (.inl rfl)
  | left => exact .inr (.inr rfl)

def Racer.weight : Racer → ℕ
  | .waiting => 5
  | .dialing => 4
  | .offering => 3
  | .delivered => 0
  | .left => 0

def Timer.weight : Timer → ℕ
  | .armed => 2
  | .expired => 1
  | _ => 0

def State.weight (s : State ι κ ε) : ℕ := ∑ i, (s.racers i).weight+s.timer.weight

lemma Inv.weight_lt (h : Inv first outcome his s) (hst : Step first outcome s l s') : s'.weight < s.weight := by
  have hm : ∀ i r, ∑ j, (update s.racers i r j).weight+(s.racers i).weight =
      ∑ j, (s.racers j).weight+r.weight := fun i r => Threads.sum_update_add s.racers Racer.weight i r
  unfold State.weight
  cases hst with
  | @dialed i hr =>
    have hs := hm i .offering
    simp only [hr,Racer.weight] at hs ⊢
    omega
  | @success i _ _ hr _ | @lastFailure i _ _ hr _ _ =>
    have hs := hm i .delivered
    simp only [hr,Racer.weight] at hs ⊢
    omega
  | @failure i e t ho hr hot hl ht =>
    have hs := hm i .delivered
    have hw : t.weight ≤ s.timer.weight+1 := by
      split_ifs at ht
      · obtain rfl | ⟨he,rfl⟩ := ht
        · exact Nat.le_succ _
        · rw [he]
          exact le_rfl
      · rw [ht]
        exact Nat.le_succ _
    simp only [hr,Racer.weight] at hs ⊢
    omega
  | expire ht =>
    rw [ht]
    exact Nat.lt_succ_self _
  | fire ho ht =>
    have hle : ∑ j, (if first j then s.racers j else .dialing).weight ≤ ∑ j, (s.racers j).weight := by
      refine Finset.sum_le_sum fun j _ => ?_
      cases hj : first j with
      | true => exact le_rfl
      | false =>
        rw [h.waits (.inr ht) j hj]
        exact Nat.le_succ 4
    rw [ht]
    exact Nat.lt_succ_of_le hle
  | @leave i hrt hr =>
    have hs := hm i .left
    simp only [hr,Racer.weight] at hs ⊢
    omega

lemma settles_start (hc : 0 < Fintype.card ι) (hil : t ≠ .idle)
    (ha : t = .absent → ∀ i, first i = true) : Settles first outcome (start first t) := by
  have hin : ∀ his s, Run (Step first outcome) (start first t) his s → Inv first outcome his s :=
    fun _ _ hrn => Inv.run hc hil ha hrn
  refine ⟨fun his s hrn i conn hrs => ?_,fun his s hrn errors hrs => ?_,fun his s hrn => ?_,
    fun his s hrn => ?_,fun his s hrn hst => ?_⟩
  · obtain ⟨hd,hot,-⟩ := (hin his s hrn).returned i conn hrs
    exact ⟨hd,hot⟩
  · obtain ⟨rfl,hal⟩ := (hin his s hrn).gaveUp errors hrs
    refine ⟨fun i => ?_,fun i err hm => ((hin his s hrn).failed i err hm).2⟩
    obtain ⟨⟨j,err⟩,hm,rfl⟩ := mem_map.mp (hal i)
    obtain ⟨hd,hot⟩ := (hin his s hrn).failed j err hm
    exact ⟨hd,err,hot,hm⟩
  · rw [(hin his s hrn).fired]
    split_ifs
    · exact le_rfl
    · exact Nat.zero_le 1
  · have hb : his.length+s.weight ≤ (start first t : State ι κ ε).weight := by
      refine hrn.invariant_along (I := fun his s => his.length+s.weight ≤ (start first t : State ι κ ε).weight)
        (Nat.zero_add _).le fun his s l s' hrn hle hsp => ?_
      have hlt := (hin his s hrn).weight_lt hsp
      rw [length_append,length_singleton]
      omega
    have hsta : (start first t : State ι κ ε).weight ≤ 5*Fintype.card ι+2 := by
      have hr : ∑ i, (if first i then Racer.dialing else .waiting).weight ≤ ∑ _i : ι, 5 := by
        refine Finset.sum_le_sum fun i _ => ?_
        split_ifs <;> decide
      have ht : t.weight ≤ 2 := by cases t <;> decide
      rw [Finset.sum_const,Finset.card_univ,smul_eq_mul,mul_comm] at hr
      exact Nat.add_le_add hr ht
    omega
  · have h := hin his s hrn
    obtain ⟨hrs,hov⟩ := h.result_of_stuck hst
    obtain ⟨result,hrs⟩ := Option.ne_none_iff_exists'.mp hrs
    have hsc : ∀ i conn, s.racers i ≠ .waiting → outcome i = .ok conn → result = .ok (i,conn) ∨
        s.racers i = .left ∧ ∃ j conn, result = .ok (j,conn) := by
      intro i conn hs hot
      have hn : i ∉ s.errors.map Prod.fst := by
        intro hm
        obtain ⟨⟨j,err⟩,hp,rfl⟩ := mem_map.mp hm
        cases hot.symm.trans (h.failed j err hp).2
      cases result with
      | error errors => exact absurd ((h.gaveUp errors hrs).2 i) hn
      | ok winner =>
        obtain ⟨j,conn'⟩ := winner
        obtain ⟨hj,hot',ho⟩ := h.returned j conn' hrs
        obtain hw | hd | hl := hov i
        · exact absurd hw hs
        · obtain rfl | hm := ho i hd
          · cases hot.symm.trans hot'
            exact .inl rfl
          · exact absurd hm hn
        · exact .inr ⟨hl,j,conn',rfl⟩
    refine ⟨result,hrs,⟨?_,?_⟩,fun i conn hs hot => ?_⟩
    · rintro ⟨i,conn,rfl⟩
      obtain ⟨hd,hot,-⟩ := h.returned i conn hrs
      exact ⟨i,conn,by simp [hd],hot⟩
    · rintro ⟨i,conn,hs,hot⟩
      obtain hwn | ⟨-,hwn⟩ := hsc i conn hs hot
      · exact ⟨i,conn,hwn⟩
      · exact hwn
    · exact (hsc i conn hs hot).imp_right And.left

end Race
