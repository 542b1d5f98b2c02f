import Mathlib.Tactic
import Mathlib.Data.Rat.Floor

/-! The costs of the CCM service (`service/ccm/service_usage.go`): what is recorded for each model, context window and
week, and what it costs. Prices and rounding are exact; the counters have 64 bits. -/
namespace SingBox.CCM

structure ModelPricing where
  inputPrice : ℚ
  outputPrice : ℚ
  cacheReadPrice : ℚ
  cacheWritePrice5Minute : ℚ
  cacheWritePrice1Hour : ℚ

structure ModelFamily where
  pattern : String
  standardPricing : ModelPricing
  premiumPricing : Option ModelPricing

def opus46StandardPricing : ModelPricing := ⟨5,25,0.5,6.25,10⟩
def opus46PremiumPricing : ModelPricing := ⟨10,37.5,1,12.5,20⟩
def opus45Pricing : ModelPricing := ⟨5,25,0.5,6.25,10⟩
def opus4Pricing : ModelPricing := ⟨15,75,1.5,18.75,30⟩
def sonnet46StandardPricing : ModelPricing := ⟨3,15,0.3,3.75,6⟩
def sonnet46PremiumPricing : ModelPricing := ⟨6,22.5,0.6,7.5,12⟩
def sonnet45StandardPricing : ModelPricing := ⟨3,15,0.3,3.75,6⟩
def sonnet45PremiumPricing : ModelPricing := ⟨6,22.5,0.6,7.5,12⟩
def sonnet4StandardPricing : ModelPricing := ⟨3,15,0.3,3.75,6⟩
def sonnet4PremiumPricing : ModelPricing := ⟨6,22.5,0.6,7.5,12⟩
def sonnet37Pricing : ModelPricing := ⟨3,15,0.3,3.75,6⟩
def sonnet35Pricing : ModelPricing := ⟨3,15,0.3,3.75,6⟩
def haiku45Pricing : ModelPricing := ⟨1,5,0.1,1.25,2⟩
def haiku4Pricing : ModelPricing := ⟨1,5,0.1,1.25,2⟩
def haiku35Pricing : ModelPricing := ⟨0.8,4,0.08,1,1.6⟩
def haiku3Pricing : ModelPricing := ⟨0.25,1.25,0.03,0.3,0.5⟩
def opus3Pricing : ModelPricing := ⟨15,75,1.5,18.75,30⟩

def modelFamilies : List ModelFamily :=
  [⟨"^claude-opus-4-6(?:-|$)",opus46StandardPricing,some opus46PremiumPricing⟩,
    ⟨"^claude-opus-4-5(?:-|$)",opus45Pricing,none⟩,
    ⟨"^claude-(?:opus-4(?:-|$)|4-opus-)",opus4Pricing,none⟩,
    ⟨"^claude-(?:opus-3(?:-|$)|3-opus-)",opus3Pricing,none⟩,
    ⟨"^claude-(?:sonnet-4-6(?:-|$)|4-6-sonnet-)",sonnet46StandardPricing,some sonnet46PremiumPricing⟩,
    ⟨"^claude-(?:sonnet-4-5(?:-|$)|4-5-sonnet-)",sonnet45StandardPricing,some sonnet45PremiumPricing⟩,
    ⟨"^claude-(?:sonnet-4(?:-|$)|4-sonnet-)",sonnet4StandardPricing,some sonnet4PremiumPricing⟩,
    ⟨"^claude-3-7-sonnet(?:-|$)",sonnet37Pricing,none⟩,
    ⟨"^claude-3-5-sonnet(?:-|$)",sonnet35Pricing,none⟩,
    ⟨"^claude-(?:haiku-4-5(?:-|$)|4-5-haiku-)",haiku45Pricing,none⟩,
    ⟨"^claude-haiku-4(?:-|$)",haiku4Pricing,none⟩,
    ⟨"^claude-3-5-haiku(?:-|$)",haiku35Pricing,none⟩,
    ⟨"^claude-3-haiku(?:-|$)",haiku3Pricing,none⟩]

/-- `getPricing`, where `matchString` is that of the regular expressions. -/
def getPricing (matchString : String → String → Bool) (model : String) (contextWindow : ℤ) : ModelPricing :=
  match modelFamilies.find? fun family => matchString family.pattern model with
  | some family => if 1000000 ≤ contextWindow then family.premiumPricing.getD family.standardPricing
    else family.standardPricing
  | none => sonnet4StandardPricing

/-- Numbers of tokens, of a request or of all that were recorded. -/
structure Tokens where
  input : ℤ := 0
  output : ℤ := 0
  cacheRead : ℤ := 0
  cacheCreation : ℤ := 0
  cacheCreation5Minute : ℤ := 0
  cacheCreation1Hour : ℤ := 0

structure UsageStats extends Tokens where
  requestCount : ℤ := 0
  messagesCount : ℤ := 0

/-- What the entries are told apart by. -/
structure Key where
  model : String
  contextWindow : ℤ
  weekStartUnix : ℤ
  deriving DecidableEq

structure CostCombination where
  key : Key
  total : UsageStats := {}
  byUser : String → Option UsageStats := fun _ => none

/-- The arguments of `addUsageToCombinations`. -/
structure Request extends Tokens where
  key : Key
  messagesCount : ℤ := 0
  user : String := ""

def int64 (n : ℤ) : ℤ := n.bmod (2^64)

def Tokens.creation (t : Tokens) : ℤ :=
  if t.cacheCreation = 0 then int64 (t.cacheCreation5Minute+t.cacheCreation1Hour) else t.cacheCreation

def UsageStats.add (s : UsageStats) (r : Request) : UsageStats where
  requestCount := int64 (s.requestCount+1)
  messagesCount := int64 (s.messagesCount+r.messagesCount)
  input := int64 (s.input+r.input)
  output := int64 (s.output+r.output)
  cacheRead := int64 (s.cacheRead+r.cacheRead)
  cacheCreation := int64 (s.cacheCreation+r.creation)
  cacheCreation5Minute := int64 (s.cacheCreation5Minute+r.cacheCreation5Minute)
  cacheCreation1Hour := int64 (s.cacheCreation1Hour+r.cacheCreation1Hour)

def CostCombination.add (c : CostCombination) (r : Request) : CostCombination where
  key := c.key
  total := c.total.add r
  byUser := if r.user = "" then c.byUser
    else Function.update c.byUser r.user (some (((c.byUser r.user).getD {}).add r))

def addUsageToCombinations (r : Request) : List CostCombination → List CostCombination
  | [] => [CostCombination.add { key := r.key } r]
  | c::combinations => if c.key = r.key then c.add r::combinations else c::addUsageToCombinations r combinations

/-- The entry that a request with the key is added to. -/
def matchedCombination (combinations : List CostCombination) (key : Key) : Option CostCombination :=
  combinations.find? fun c => c.key = key

/-- `math.Round`, which rounds halves away from zero. -/
def mathRound (x : ℚ) : ℤ := if x < 0 then -⌊-x+1/2⌋ else ⌊x+1/2⌋

/-- Some of the cache tokens are counted by their lifetimes. -/
def Tokens.Split (t : Tokens) : Prop := 0 < t.cacheCreation5Minute ∨ 0 < t.cacheCreation1Hour

instance (t : Tokens) : Decidable t.Split := inferInstanceAs (Decidable (_ ∨ _))

def ModelPricing.cacheCreationCost (p : ModelPricing) (t : Tokens) : ℚ :=
  if t.Split then t.cacheCreation5Minute*p.cacheWritePrice5Minute+t.cacheCreation1Hour*p.cacheWritePrice1Hour
  else t.cacheCreation*p.cacheWritePrice5Minute

/-- The cost in millionths of a dollar. -/
def ModelPricing.sum (p : ModelPricing) (t : Tokens) : ℚ :=
  t.input*p.inputPrice+t.output*p.outputPrice+t.cacheRead*p.cacheReadPrice+p.cacheCreationCost t

variable (matchString : String → String → Bool)

def calculateCost (stats : UsageStats) (key : Key) : ℚ :=
  mathRound ((getPricing matchString key.model key.contextWindow).sum stats.toTokens/1000000*100)/100

/-- No count is negative. -/
def Tokens.Counts (t : Tokens) : Prop :=
  ∀ n ∈ [t.input,t.output,t.cacheRead,t.cacheCreation,t.cacheCreation5Minute,t.cacheCreation1Hour], 0 ≤ n ∧ n < 2^63

/-- No counter that is priced after the request overflows. -/
def Fits (s : UsageStats) (r : Request) : Prop :=
  s.input+r.input < 2^63 ∧ s.output+r.output < 2^63 ∧ s.cacheRead+r.cacheRead < 2^63 ∧
  s.cacheCreation5Minute+r.cacheCreation5Minute < 2^63 ∧ s.cacheCreation1Hour+r.cacheCreation1Hour < 2^63 ∧
  (s.Split ∨ r.Split ∨ s.cacheCreation+r.cacheCreation < 2^63)

/-- The request takes no cost of the entry down. -/
def Kept (r : Request) (c after : CostCombination) : Prop :=
  (Fits c.total r → calculateCost matchString c.total c.key ≤ calculateCost matchString after.total c.key) ∧
  ∀ user s, c.byUser user = some s → ∃ s', after.byUser user = some s' ∧
    (Fits s r → calculateCost matchString s c.key ≤ calculateCost matchString s' c.key)

/-- The cache tokens without a lifetime cost no more, as rounded, than the first that has one. -/
def Steady (key : Key) (s : UsageStats) : Prop :=
  s.Split ∨ calculateCost matchString s key ≤ calculateCost matchString { s with cacheCreation5Minute := 1 } key

variable {matchString} {s : UsageStats} {r : Request} {p : ModelPricing}

lemma mathRound_mono {x y : ℚ} (h : x ≤ y) : mathRound x ≤ mathRound y := by
  have hf : ∀ {a b : ℚ}, a ≤ b → ⌊a+1/2⌋ ≤ ⌊b+1/2⌋ := fun hab => Int.floor_mono (by linarith)
  have hn : ∀ {a : ℚ}, 0 ≤ a → 0 ≤ ⌊a+1/2⌋ := fun ha => Int.floor_nonneg.mpr (by linarith)
  unfold mathRound
  split_ifs with hx hy hy
  · exact neg_le_neg (hf (neg_le_neg h))
  · exact (neg_nonpos.mpr (hn (by linarith))).trans (hn (not_lt.mp hy))
  · linarith
  · exact hf h

/-- Prices are not negative, and an hour costs at least as much as five minutes. -/
def ModelPricing.Sane (p : ModelPricing) : Prop :=
  0 ≤ p.inputPrice ∧ 0 ≤ p.outputPrice ∧ 0 ≤ p.cacheReadPrice ∧ 0 ≤ p.cacheWritePrice5Minute ∧
    p.cacheWritePrice5Minute ≤ p.cacheWritePrice1Hour

instance : DecidablePred ModelPricing.Sane := fun _ => inferInstanceAs (Decidable (_ ∧ _))

lemma getPricing_sane (matchString : String → String → Bool) (m : String) (w : ℤ) :
    (getPricing matchString m w).Sane := by
  have hs : ∀ f ∈ modelFamilies, f.standardPricing.Sane ∧ (f.premiumPricing.getD f.standardPricing).Sane := by
    decide +kernel
  unfold getPricing
  split
  next f hf =>
    have hm := hs f (List.mem_of_find?_eq_some hf)
    split_ifs
    · exact hm.2
    · exact hm.1
  next => decide +kernel

lemma int64_of_nonneg {n : ℤ} (h0 : 0 ≤ n) (h : n < 2^63) : int64 n = n := Int.bmod_eq_of_le (by omega) (by omega)

lemma calculateCost_mono {key : Key} {t u : UsageStats} (hi : t.input ≤ u.input) (ho : t.output ≤ u.output)
    (hc : t.cacheRead ≤ u.cacheRead)
    (hw : ∀ p : ModelPricing, p.Sane → p.cacheCreationCost t.toTokens ≤ p.cacheCreationCost u.toTokens) :
    calculateCost matchString t key ≤ calculateCost matchString u key := by
  have hp := getPricing_sane matchString key.model key.contextWindow
  unfold calculateCost
  generalize getPricing matchString key.model key.contextWindow = p at hp
  have hs : p.sum t.toTokens ≤ p.sum u.toTokens := by
    have h1 := mul_le_mul_of_nonneg_right (Int.cast_le (R := ℚ).mpr hi) hp.1
    have h2 := mul_le_mul_of_nonneg_right (Int.cast_le (R := ℚ).mpr ho) hp.2.1
    have h3 := mul_le_mul_of_nonneg_right (Int.cast_le (R := ℚ).mpr hc) hp.2.2.1
    exact add_le_add (add_le_add (add_le_add h1 h2) h3) (hw p hp)
  have hr := mathRound_mono (show p.sum t.toTokens/1000000*100 ≤ p.sum u.toTokens/1000000*100 by linarith)
  exact div_le_div_of_nonneg_right (Int.cast_le.mpr hr) (by norm_num)

section
variable (hs : s.Counts) (hr : r.Counts)
include hs hr

lemma add_tokens (hf : Fits s r) : (s.add r).input = s.input+r.input ∧ (s.add r).output = s.output+r.output ∧
    (s.add r).cacheRead = s.cacheRead+r.cacheRead ∧
    (s.add r).cacheCreation5Minute = s.cacheCreation5Minute+r.cacheCreation5Minute ∧
    (s.add r).cacheCreation1Hour = s.cacheCreation1Hour+r.cacheCreation1Hour := by
  simp only [Tokens.Counts,List.forall_mem_cons] at hs hr
  obtain ⟨hi,ho,hc,h5,h1,-⟩ := hf
  exact ⟨int64_of_nonneg (by omega) hi,int64_of_nonneg (by omega) ho,int64_of_nonneg (by omega) hc,
    int64_of_nonneg (by omega) h5,int64_of_nonneg (by omega) h1⟩

/-- A request takes no steady cost down. -/
lemma Steady.add {key : Key} (h : Steady matchString key s) (hf : Fits s r) :
    calculateCost matchString s key ≤ calculateCost matchString (s.add r) key := by
  obtain ⟨hi,ho,hc,h5,h1⟩ := add_tokens hs hr hf
  simp only [Tokens.Counts,List.forall_mem_cons] at hs hr
  have hr5 : (0 : ℚ) ≤ r.cacheCreation5Minute := Int.cast_nonneg (by omega)
  have hr1 : (0 : ℚ) ≤ r.cacheCreation1Hour := Int.cast_nonneg (by omega)
  have gi : s.input ≤ (s.add r).input := by omega
  have go : s.output ≤ (s.add r).output := by omega
  have gc : s.cacheRead ≤ (s.add r).cacheRead := by omega
  by_cases hrs : s.Split ∨ r.Split
  · have hs' : (s.add r).Split := by
      rw [Tokens.Split,h5,h1]
      unfold Tokens.Split at hrs
      omega
    by_cases hss : s.Split
    · refine calculateCost_mono gi go gc fun p hp => ?_
      rw [ModelPricing.cacheCreationCost,ModelPricing.cacheCreationCost,if_pos hss,if_pos hs',h5,h1,Int.cast_add,
        Int.cast_add]
      have := mul_nonneg hr5 hp.2.2.2.1
      have := mul_nonneg hr1 (hp.2.2.2.1.trans hp.2.2.2.2)
      linarith
    · -- the request is the first whose cache tokens have lifetimes
      refine (h.resolve_left hss).trans (calculateCost_mono gi go gc fun p hp => ?_)
      have hr := hrs.resolve_left hss
      unfold Tokens.Split at hss hr
      rw [ModelPricing.cacheCreationCost,ModelPricing.cacheCreationCost,if_pos (.inl one_pos),if_pos hs',h5,h1]
      rw [show s.cacheCreation5Minute = 0 by omega,show s.cacheCreation1Hour = 0 by omega,zero_add,zero_add]
      have hn : (1 : ℚ) ≤ r.cacheCreation5Minute+r.cacheCreation1Hour := by
        exact_mod_cast (show 1 ≤ r.cacheCreation5Minute+r.cacheCreation1Hour by omega)
      have := mul_le_mul_of_nonneg_right hn hp.2.2.2.1
      have := mul_le_mul_of_nonneg_left hp.2.2.2.2 hr1
      push_cast
      linarith
  · have hu : ¬ (s.add r).Split := by
      rw [Tokens.Split,h5,h1]
      unfold Tokens.Split at hrs
      omega
    have hns : ¬ s.Split := fun h => hrs (.inl h)
    unfold Tokens.Split at hrs
    have hcr : r.creation = r.cacheCreation := by
      rw [Tokens.creation,show r.cacheCreation5Minute+r.cacheCreation1Hour = 0 by omega]
      split_ifs with h0
      · exact h0.symm
      · rfl
    have hw : (s.add r).cacheCreation = s.cacheCreation+r.cacheCreation := by
      rw [← hcr]
      exact int64_of_nonneg (by omega) (by have := hf.2.2.2.2.2; unfold Tokens.Split at this; omega)
    refine calculateCost_mono gi go gc fun p hp => ?_
    rw [ModelPricing.cacheCreationCost,ModelPricing.cacheCreationCost,if_neg hns,if_neg hu,hw]
    exact mul_le_mul_of_nonneg_right (Int.cast_le.mpr (by omega)) hp.2.2.2.1

omit hr in
/-- The cheapest request whose cache tokens have lifetimes shows whether a cost is steady. -/
lemma Steady.of_add {key : Key} {user : String} (h : let r : Request := { key, user, cacheCreation5Minute := 1 }
      Fits s r → calculateCost matchString s key ≤ calculateCost matchString (s.add r) key) :
    Steady matchString key s := by
  by_cases hss : s.Split
  · exact .inl hss
  have hr : Tokens.Counts { cacheCreation5Minute := 1 } := by
    simp [Tokens.Counts]
  have hc := hs
  simp only [Tokens.Counts,List.forall_mem_cons] at hc
  unfold Tokens.Split at hss
  have hf : Fits s { key, user, cacheCreation5Minute := 1 } := by
    refine ⟨?_,?_,?_,?_,?_,.inr (.inl (.inl one_pos))⟩ <;> dsimp only <;> omega
  obtain ⟨hi,ho,hcr,h5,h1⟩ := add_tokens hs hr hf
  dsimp only at hi ho hcr h5 h1
  rw [add_zero] at hi ho hcr
  refine .inr ((h hf).trans (calculateCost_mono hi.le ho.le hcr.le fun p hp => ?_))
  rw [ModelPricing.cacheCreationCost,ModelPricing.cacheCreationCost,if_pos (.inl (by omega)),if_pos (.inl one_pos),h5,h1]
  rw [show s.cacheCreation5Minute = 0 by omega,add_zero,zero_add]

end

section
variable {cs : List CostCombination} {c : CostCombination} {key : Key}

lemma matched_add (h : matchedCombination cs key = some c) : matchedCombination (addUsageToCombinations r cs) key =
    some (if key = r.key then c.add r else c) := by
  induction cs with
  | nil => cases h
  | cons d cs ih =>
    rw [addUsageToCombinations]
    rw [matchedCombination,List.find?_cons] at h
    by_cases hd : d.key = key
    · simp only [hd,decide_true] at h
      cases h
      split_ifs with h1 h2 h2 <;> simp_all [matchedCombination,CostCombination.add]
    · simp only [hd,decide_false] at h
      split_ifs with h1 h2 h2 <;> simp_all [matchedCombination,CostCombination.add]

lemma byUser_add {u : String} (h : c.byUser u = some s) :
    (c.add r).byUser u = some (if u ≠ "" ∧ u = r.user then s.add r else s) := by
  unfold CostCombination.add
  by_cases hn : r.user = ""
  · have hu : ¬ (u ≠ "" ∧ u = r.user) := fun hu => hu.1 (hu.2.trans hn)
    simp only [if_pos hn,if_neg hu,h]
  by_cases he : u = r.user
  · subst he
    simp [hn,h]
  · simp [hn,he,h]

end

/-- No request takes a cost down exactly where the entries that it can be added to, and their users, are steady. -/
theorem costs_kept_iff (matchString : String → String → Bool) {combinations : List CostCombination}
    (h : ∀ c ∈ combinations, c.total.Counts ∧ ∀ user s, c.byUser user = some s → s.Counts) :
    (∀ r : Request, r.Counts → ∀ key c, matchedCombination combinations key = some c →
      ∃ after, matchedCombination (addUsageToCombinations r combinations) key = some after ∧ Kept matchString r c after) ↔
    ∀ key c, matchedCombination combinations key = some c → Steady matchString key c.total ∧
      ∀ user s, user ≠ "" → c.byUser user = some s → Steady matchString key s := by
  have hke : ∀ {key c}, matchedCombination combinations key = some c → c.key = key := fun hc => by
    simpa using List.find?_some hc
  constructor
  · intro hk key c hc
    obtain rfl := hke hc
    obtain ⟨ht,hu⟩ := h c (List.mem_of_find?_eq_some hc)
    have had : ∀ user, Kept matchString { key := c.key, user, cacheCreation5Minute := 1 } c (c.add _) := fun user => by
      obtain ⟨after,ha,hk⟩ := hk { key := c.key, user, cacheCreation5Minute := 1 } (by simp [Tokens.Counts]) c.key c hc
      rw [matched_add hc,if_pos rfl] at ha
      cases ha
      exact hk
    refine ⟨.of_add ht (had "").1,fun user s hn hs => ?_⟩
    obtain ⟨s',hs',hle⟩ := (had user).2 user s hs
    rw [byUser_add hs,if_pos ⟨hn,rfl⟩] at hs'
    cases hs'
    exact .of_add (hu user s hs) hle
  · intro hst r hr key c hc
    refine ⟨_,matched_add hc,?_⟩
    split_ifs with hk
    · obtain rfl := hke hc
      obtain ⟨ht,hu⟩ := h c (List.mem_of_find?_eq_some hc)
      obtain ⟨hst,hsu⟩ := hst _ c hc
      refine ⟨hst.add ht hr,fun user s hs => ⟨_,byUser_add hs,?_⟩⟩
      split_ifs with hn
      · exact (hsu user s hn.1 hs).add (hu user s hs) hr
      · exact fun _ => le_rfl
    · exact ⟨fun _ => le_rfl,fun user s hs => ⟨s,hs,fun _ => le_rfl⟩⟩

theorem costs_kept_split : let key : Key := ⟨"claude-2",200000,0⟩
    let stats : UsageStats := { input := 5, cacheCreation := 3, cacheCreation5Minute := 3 }
    let request : Request := { key, user := "a", output := 7, cacheCreation1Hour := 2 }
    let before : CostCombination := { key, total := stats, byUser := fun user => if user = "a" then some stats else none }
    ∃ after, matchedCombination (addUsageToCombinations request [before]) key = some after ∧
      Kept (fun _ _ => false) request before after := by
  intro key stats request before
  have hs : ∀ user s, before.byUser user = some s → s = stats := fun user s h => by
    simp only [before] at h
    split_ifs at h
    exact (Option.some.inj h).symm
  refine (costs_kept_iff (fun _ _ => false) ?_).mpr ?_ request (by simp [request,Tokens.Counts]) _ _ rfl
  · simp only [List.mem_singleton,forall_eq]
    refine ⟨by simp [before,stats,Tokens.Counts],fun user s h => ?_⟩
    rw [hs user s h]
    simp [stats,Tokens.Counts]
  · intro key c hc
    obtain rfl : c = before := List.mem_singleton.mp (List.mem_of_find?_eq_some hc)
    exact ⟨.inl (.inl (by decide)),fun user s _ h => .inl (.inl (by rw [hs user s h]; decide))⟩

/-- A million cache tokens of an older file, and the first request with a token for five minutes. -/
theorem first_lifetime_takes_cost_down : let key : Key := ⟨"claude-2",200000,0⟩
    calculateCost (fun _ _ => false) { cacheCreation := 1000000 } key = 3.75 ∧
      (addUsageToCombinations { key, cacheCreation5Minute := 1 } [{ key, total := { cacheCreation := 1000000 } }]).map
        (fun c => calculateCost (fun _ _ => false) c.total c.key) = [0] := by
  decide +kernel

end SingBox.CCM
