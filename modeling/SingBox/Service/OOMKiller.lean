import SingBox.Common.Binary
import SingBox.Library.Run

/-! The adaptive timer of the OOM killer (`service/oomkiller`): pressure states with a hysteresis, and the trigger on the
growth of the memory. Times are in nanoseconds. -/
namespace SingBox.OOMKiller

inductive PressureState
  | normal
  | armed
  | triggered
  deriving DecidableEq

inductive PolicyMode
  | none
  | memoryLimit
  | available
  | networkExtension

structure MemorySample where
  usage : ℕ
  available : ℕ := 0
  availableKnown : Bool := false

structure PressureThresholds where
  trigger : ℕ
  armed : ℕ
  resume : ℕ

structure TimerConfig where
  memoryLimit : ℕ
  safetyMargin : ℕ
  hasSafetyMargin : Bool
  minInterval : ℕ
  maxInterval : ℕ
  policyMode : PolicyMode
  minInterval_lt : minInterval < 2^63

def computeLimitThresholds (memoryLimit safetyMargin : ℕ) : PressureThresholds :=
  let triggerMargin := min safetyMargin memoryLimit
  ⟨memoryLimit-triggerMargin,memoryLimit-min (triggerMargin*2%2^64) memoryLimit,
    memoryLimit-min (triggerMargin*4%2^64) memoryLimit⟩

def nextPressureState (current : PressureState) (shouldTrigger shouldArm shouldStayTriggered : Bool) : PressureState :=
  if current = .triggered then if shouldStayTriggered then .triggered else .normal
  else if shouldTrigger then .triggered
  else if shouldArm then .armed
  else .normal

namespace TimerConfig
variable (c : TimerConfig)

def availableThresholds (sample : MemorySample) : PressureThresholds :=
  let triggerMargin :=
    if c.hasSafetyMargin then c.safetyMargin
    else if sample.usage = 0 then 32*1024*1024
    else max (32*1024*1024) (min (sample.usage/4) (128*1024*1024))
  ⟨triggerMargin,triggerMargin*2%2^64,triggerMargin*4%2^64⟩

def nextState (current : PressureState) (sample : MemorySample) : PressureState :=
  match c.policyMode with
  | .memoryLimit | .networkExtension =>
    let thresholds := computeLimitThresholds c.memoryLimit c.safetyMargin
    nextPressureState current (thresholds.trigger ≤ sample.usage) (thresholds.armed ≤ sample.usage)
      (thresholds.resume ≤ sample.usage)
  | .available =>
    if !sample.availableKnown then .normal
    else
      let thresholds := c.availableThresholds sample
      nextPressureState current (sample.available ≤ thresholds.trigger) (sample.available ≤ thresholds.armed)
        (sample.available ≤ thresholds.resume)
  | .none => .normal

end TimerConfig

/-- What a poll reads and leaves of the timer; a baseline comes with its time. -/
structure AdaptiveTimer where
  state : PressureState := .normal
  pressureBaseline : Option (MemorySample × ℕ) := none
  acted : Bool := false

/-- A poll, with whether `notifyPressure` asked for a baseline before it and its three looks at the clock: for the
baseline, for the age of the baseline, and for the rate. -/
structure Poll where
  sample : MemorySample
  start : ℕ
  checked : ℕ
  now : ℕ
  pendingPressureBaseline : Bool

/-- What has grown since the baseline, and what is left up to the limit. -/
structure Measure where
  headroom : ℕ
  growth : ℕ
  elapsed : ℕ

/-- `timeToLimit`, with the whole seconds that `time.Duration` takes from the quotient; `beyond` is what the machine makes
of a quotient out of range. -/
def timeToLimit (beyond : ℕ → ℕ) (m : Measure) : ℤ :=
  let seconds := m.headroom*m.elapsed/(m.growth*10^9)
  toInt ((if seconds < 2^63 then seconds else beyond seconds)*10^9%2^64)

variable (beyond : ℕ → ℕ) (c : TimerConfig) (t : AdaptiveTimer) (p : Poll)

def baseline : Option (MemorySample × ℕ) :=
  let pressureBaseline := if p.pendingPressureBaseline then some (p.sample,p.start) else t.pressureBaseline
  if c.nextState t.state p.sample = .normal then pressureBaseline.filter fun b => p.checked-b.2 ≤ c.maxInterval
  else pressureBaseline

/-- The state is entered by the thresholds. -/
def entered : Bool := t.state ≠ .triggered ∧ c.nextState t.state p.sample = .triggered

def grown : Option Measure :=
  match baseline c t p with
  | none => none
  | some (base,since) =>
    if 0 < c.memoryLimit ∧ base.usage < p.sample.usage then
      some ⟨c.memoryLimit-p.sample.usage,p.sample.usage-base.usage,p.now-since⟩
    else none

/-- The code looks at the growth. -/
def asked (m : Measure) : Bool :=
  entered c t p = false ∧ p.sample.usage < c.memoryLimit ∧ c.minInterval/2 ≤ m.elapsed

def rateTriggered : Bool := (grown c t p).any fun m => asked c t p m ∧ timeToLimit beyond m < c.minInterval

def poll : AdaptiveTimer where
  state := if rateTriggered beyond c t p then .triggered else c.nextState t.state p.sample
  pressureBaseline := baseline c t p
  acted := entered c t p || rateTriggered beyond c t p

/-- The state was triggered before the poll, and the usage has not fallen below the resume threshold. -/
def Lasts : Prop := t.state = .triggered ∧ c.nextState t.state p.sample = .triggered

/-- The growth trigger fires exactly where the time that is left at the rate since the baseline is below the minimum,
and the action is taken exactly where the triggered state is entered. -/
def Right : Prop :=
  (rateTriggered beyond c t p = true ↔
    ∃ m, grown c t p = some m ∧ (m.headroom : ℚ)/(m.growth/m.elapsed) < c.minInterval) ∧
  ((poll beyond c t p).acted = true ↔ (poll beyond c t p).state = .triggered ∧ ¬ Lasts c t p)

/-- The time that is left is below `d`. -/
def Measure.Critical (m : Measure) (d : ℕ) : Prop := m.headroom*m.elapsed < d*m.growth

/-- The time that is left is not below `d` rounded up to whole seconds, and where it exceeds an `int64` its whole seconds
do not wrap around to less than `d`. -/
def Measure.Ample (beyond : ℕ → ℕ) (m : Measure) (d : ℕ) : Prop :=
  if m.headroom*m.elapsed < 9223372037*(m.growth*10^9) then
    (d+(10^9-1))/10^9*(m.growth*10^9) ≤ m.headroom*m.elapsed
  else
    let seconds := m.headroom*m.elapsed/(m.growth*10^9)
    let wrapped := (if seconds < 2^63 then seconds else beyond seconds)*10^9%2^64
    d ≤ wrapped ∧ wrapped < 2^63

/-- Where the code looks at a growth, it is critical in a state that was not triggered before or leaves ample time; and
where the code does not look, no growth is critical. -/
def Steady : Prop :=
  ∀ m, grown c t p = some m → if asked c t p m then
    (m.Critical c.minInterval → ¬ Lasts c t p) ∧ (¬ m.Critical c.minInterval → m.Ample beyond c.minInterval)
  else ¬ m.Critical c.minInterval

variable {beyond c t p} {m : Measure}

lemma growth_pos (h : grown c t p = some m) : 0 < m.growth := by
  unfold grown at h
  split at h
  · cases h
  · split_ifs at h with hm
    cases h
    exact Nat.sub_pos_of_lt hm.2

lemma timeLeft_lt_iff {d : ℕ} (hg : 0 < m.growth) :
    (m.headroom : ℚ)/(m.growth/m.elapsed) < d ↔ m.Critical d := by
  have hq : (0 : ℚ) < m.growth := by exact_mod_cast hg
  rw [div_div_eq_mul_div,div_lt_iff₀ hq,Measure.Critical]
  exact_mod_cast Iff.rfl

lemma ample_iff {d : ℕ} (hd : d < 2^63) (hg : 0 < m.growth) : m.Ample beyond d ↔ ¬ timeToLimit beyond m < d := by
  have hg' : 0 < m.growth*10^9 := by omega
  unfold Measure.Ample timeToLimit toInt
  simp only [← Nat.div_lt_iff_lt_mul hg',← Nat.le_div_iff_mul_le hg']
  generalize m.headroom*m.elapsed/(m.growth*10^9) = seconds
  by_cases hs : seconds < 9223372037
  · rw [if_pos hs,if_pos (show seconds < 2^63 by omega)]
    split_ifs <;> omega
  · rw [if_neg hs]
    have hw := Nat.mod_lt ((if seconds < 2^63 then seconds else beyond seconds)*10^9) (show 0 < 2^64 by decide)
    generalize (if seconds < 2^63 then seconds else beyond seconds)*10^9%2^64 = wrapped at hw ⊢
    split_ifs <;> omega

/-- Rounding only makes the time shorter. -/
lemma Measure.Critical.timeToLimit_lt {d : ℕ} (h : m.Critical d) (hd : d < 2^63) : timeToLimit beyond m < d := by
  have hq : m.headroom*m.elapsed/(m.growth*10^9)*10^9 < d := by
    have := Nat.div_mul_le_self (m.headroom*m.elapsed) (m.growth*10^9)
    unfold Measure.Critical at h
    nlinarith
  unfold timeToLimit toInt
  dsimp only
  rw [if_pos (show m.headroom*m.elapsed/(m.growth*10^9) < 2^63 by omega)]
  split_ifs <;> omega

lemma right_iff_steady : Right beyond c t p ↔ Steady beyond c t p := by
  have hq : rateTriggered beyond c t p = false →
      ((poll beyond c t p).acted = true ↔ (poll beyond c t p).state = .triggered ∧ ¬ Lasts c t p) := by
    intro h
    simp only [poll,h,entered,Lasts,Bool.or_false,decide_eq_true_eq,Bool.false_eq_true,if_false]
    tauto
  unfold Right Steady
  cases hm : grown c t p with
  | none =>
    have hr : rateTriggered beyond c t p = false := by rw [rateTriggered,hm,Option.any_none]
    refine iff_of_true ⟨?_,hq hr⟩ fun _ h => by cases h
    simp only [hr,reduceCtorEq,false_and,exists_false,Bool.false_eq_true]
  | some m =>
    have hg := growth_pos hm
    have hs : m.Critical c.minInterval → timeToLimit beyond m < c.minInterval := (·.timeToLimit_lt c.minInterval_lt)
    have hr : rateTriggered beyond c t p = true ↔ asked c t p m = true ∧ timeToLimit beyond m < c.minInterval := by
      rw [rateTriggered,hm,Option.any_some,decide_eq_true_eq]
    simp only [Option.some.injEq,exists_eq_left',forall_eq',timeLeft_lt_iff hg,ample_iff c.minInterval_lt hg,hr]
    by_cases hf : asked c t p m = true ∧ timeToLimit beyond m < c.minInterval
    · have ht := hr.mpr hf
      simp only [poll,ht,hf,Bool.or_true,if_true,true_iff,true_and,not_true,imp_false,not_not]
      exact ⟨fun h => ⟨fun _ => h.2,h.1⟩,fun h => ⟨h.2,h.1 h.2⟩⟩
    · have ht := hq (by simpa using mt hr.mp hf)
      simp only [ht,hf,and_true,false_iff]
      split_ifs with ha
      · have hl : ¬ timeToLimit beyond m < c.minInterval := fun hl => hf ⟨ha,hl⟩
        exact iff_of_true (mt hs hl) ⟨fun h => absurd (hs h) hl,fun _ => hl⟩
      · rfl

/-- In every sequence of polls the growth trigger and the action are right exactly as long as each growth is steady. -/
theorem polls_right_iff (beyond : ℕ → ℕ) (c : TimerConfig) (t : AdaptiveTimer) (polls : List Poll) :
    Run.Along (poll beyond c) (Right beyond c) t polls ↔ Run.Along (poll beyond c) (Steady beyond c) t polls :=
  Run.along_congr_of_invariant (I := fun _ => True) (fun _ _ _ _ => trivial) (fun _ _ _ => right_iff_steady) polls trivial

/-- A limit of 1000, of which 200 are used after a growth of 100 in a tenth of a second: 0.8 seconds are left. -/
theorem slow_growth_triggers : ¬ Run.Along (poll id ⟨1000,100,true,10^8,10^10,.memoryLimit,by decide⟩)
      (Right id ⟨1000,100,true,10^8,10^10,.memoryLimit,by decide⟩) {}
      [⟨{ usage := 100 },0,0,0,true⟩,⟨{ usage := 200 },10^8,10^8,10^8,false⟩] := by
  rintro ⟨-,⟨hr,-⟩,-⟩
  obtain ⟨m,hm,hl⟩ := hr.mp (by decide)
  cases hm
  norm_num at hl

end SingBox.OOMKiller
