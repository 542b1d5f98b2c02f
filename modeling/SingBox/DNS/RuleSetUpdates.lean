import SingBox.DNS.LegacyMode
import SingBox.Library.Run

/-! Updates of rule-sets while the DNS router runs: each one is validated and committed later
(`rule_set_local.go`, `rule_set_remote.go`, `dns/router.go`), and others may commit in between. -/
namespace SingBox.DNS
open Rule Function

/-- An update after its validation, with the rule-sets it was validated against. -/
structure PendingUpdate where
  tag : String
  metadata : RuleSetMetadata
  seen : String → Option RuleSetMetadata

structure UpdateState where
  ruleSet : String → Option RuleSetMetadata
  pending : List PendingUpdate := []

inductive UpdateEvent
  | validate (tag : String) (metadata : RuleSetMetadata)
  | commit (i : ℕ)

/-- The DNS router after `Start`, which resolved the mode against the rule-sets of that time. -/
structure StartedRouter where
  rawRules : List DNSOptions
  ruleSet : String → Option RuleSetMetadata
  legacyDNSMode : Bool
  flags : DNSRuleModeFlags
  resolved : resolveLegacyDNSMode ruleSet rawRules = .ok (legacyDNSMode,flags)

namespace StartedRouter
variable (r : StartedRouter)

def router : ModeRouter := ⟨r.rawRules,true,false,r.legacyDNSMode⟩

/-- The two critical sections of `reloadRules` and `loadBytes`. -/
def updateStep (s : UpdateState) : UpdateEvent → UpdateState
  | .validate tag metadata =>
      match r.router.validateRuleSetMetadataUpdate s.ruleSet tag metadata with
      | some _ => s
      | none => { s with pending := s.pending ++ [⟨tag,metadata,s.ruleSet⟩] }
  | .commit i =>
      match s.pending[i]? with
      | none => s
      | some update =>
          ⟨Function.update s.ruleSet update.tag (some update.metadata),s.pending.eraseIdx i⟩

structure ModeFits (s : UpdateState) : Prop where
  nonLegacy : r.legacyDNSMode = false → ∀ flags, resolveLegacyDNSMode s.ruleSet r.rawRules ≠ .ok (true,flags)
  legacy : r.legacyDNSMode = true → ∀ flags, dnsRuleModeRequirements s.ruleSet r.rawRules = .ok flags →
    flags.disabled = false

/-- The DNS rules refer to the rule-set. -/
def Refers (tag : String) : Prop := ∃ matchSource, .ruleSet tag matchSource ∈ collectAll r.rawRules

/-- At its commit an update finds the other rule-sets as they were at its validation. A router in legacy
mode does not need this. -/
def CommitsUnchanged (s : UpdateState) : UpdateEvent → Prop
  | .validate _ _ => True
  | .commit i => r.legacyDNSMode = true ∨ ∀ update, s.pending[i]? = some update →
      ∀ tag, r.Refers tag → tag ≠ update.tag → s.ruleSet tag = update.seen tag

/-- Runs of updates whose steps meet a condition. -/
def UpdateHistory (allowed : UpdateState → UpdateEvent → Prop) : List UpdateEvent → UpdateState → Prop :=
  Run (fun s event s' => allowed s event ∧ s' = r.updateStep s event) ⟨r.ruleSet,[]⟩

/-- Nothing in the rules forbids the legacy mode. -/
def NothingDisables (ruleSet : String → Option RuleSetMetadata) : Prop :=
  ∀ requirement ∈ collectAll r.rawRules, ∀ f, requirement.flags ruleSet = some f → f.disabled = false

structure Validated (update : PendingUpdate) : Prop where
  nonLegacy : r.legacyDNSMode = false → ∀ flags,
    resolveLegacyDNSMode (Function.update update.seen update.tag (some update.metadata)) r.rawRules ≠ .ok (true,flags)
  legacy : r.legacyDNSMode = true → r.NothingDisables (Function.update update.seen update.tag (some update.metadata))

structure UpdateInvariant (s : UpdateState) : Prop where
  nonLegacy : r.legacyDNSMode = false → ∀ flags, resolveLegacyDNSMode s.ruleSet r.rawRules ≠ .ok (true,flags)
  legacy : r.legacyDNSMode = true → r.NothingDisables s.ruleSet
  pending : ∀ update ∈ s.pending, r.Validated update

variable {r}

variable {fl : DNSRuleModeFlags} {ruleSet : String → Option RuleSetMetadata} {m : RuleSetMetadata}
  {s : UpdateState} {tag : String} {sn : String → Option RuleSetMetadata}

lemma nothingDisables_of_merge (h : mergeAll ruleSet (collectAll r.rawRules) {} = some fl) (hd : fl.disabled = false) :
    r.NothingDisables ruleSet := by
  intro rq hm f hf
  by_contra hs
  have hds : fl.disabled = true :=
    (mergeAll_flag DNSRuleModeFlags.disabled (fun _ _ => rfl) h).mpr (.inr ⟨rq,hm,f,hf,by simpa using hs⟩)
  simp [hd] at hds

lemma validated_of_validate (h : r.router.validateRuleSetMetadataUpdate s.ruleSet tag m = none) :
    r.Validated ⟨tag,m,s.ruleSet⟩ := by
  unfold ModeRouter.validateRuleSetMetadataUpdate at h
  by_cases he : r.rawRules = []
  · constructor
    · intro _ fl ht
      rw [resolveLegacyDNSMode_true_iff,he] at ht
      obtain ⟨hm,-,hn⟩ := ht
      cases hm
      cases hn
    · intro _ rq hmm
      rw [he] at hmm
      cases hmm
  · cases hr : resolveLegacyDNSMode (update s.ruleSet tag (some m)) r.rawRules with
    | error => simp [router,he,hr] at h
    | ok rs =>
      obtain ⟨c,f⟩ := rs
      obtain ⟨hm,hc,-⟩ := resolveLegacyDNSMode_ok hr
      constructor
      · intro hmd fl ht
        rw [hr] at ht
        cases ht
        simp [router,he,hr,hmd] at h
      · intro hmd
        apply nothingDisables_of_merge hm
        by_contra hs
        have hd : f.disabled = true := by simpa using hs
        simp [router,he,hr,hmd,hc,hd] at h

lemma flags_update_congr (h : ∀ o, r.Refers o → o ≠ tag → ruleSet o = sn o) :
    ∀ rq ∈ collectAll r.rawRules, rq.flags (update ruleSet tag (some m)) = rq.flags (update sn tag (some m)) := by
  intro rq hm
  cases rq with
  | own => rfl
  | ruleSet o ms =>
    by_cases ho : o = tag
    · subst ho
      simp [Requirement.flags]
    · simp [Requirement.flags,ho,h o ⟨ms,hm⟩ ho]

lemma NothingDisables.update (h : r.NothingDisables ruleSet) (hs : r.NothingDisables (update sn tag (some m))) :
    r.NothingDisables (update ruleSet tag (some m)) := by
  intro rq hm f hf
  cases rq with
  | own => exact h _ hm f hf
  | ruleSet o =>
    by_cases ho : o = tag
    · subst ho
      apply hs _ hm f
      simpa [Requirement.flags] using hf
    · apply h _ hm f
      simpa [Requirement.flags,ho] using hf

lemma UpdateInvariant.start : r.UpdateInvariant ⟨r.ruleSet,[]⟩ := by
  obtain ⟨hm,hmd,-⟩ := resolveLegacyDNSMode_ok r.resolved
  refine ⟨?_,?_,by simp⟩
  · intro hl fl ht
    rw [r.resolved,hl] at ht
    cases ht
  · intro hl
    apply nothingDisables_of_merge hm
    rw [hl] at hmd
    by_contra hs
    simp [show r.flags.disabled = true by simpa using hs] at hmd

lemma UpdateInvariant.step {e : UpdateEvent} (h : r.UpdateInvariant s)
    (ha : r.CommitsUnchanged s e) : r.UpdateInvariant (r.updateStep s e) := by
  cases e with
  | validate tag m =>
    simp only [updateStep]
    cases hv : r.router.validateRuleSetMetadataUpdate s.ruleSet tag m with
    | some => exact h
    | none =>
      refine ⟨h.nonLegacy,h.legacy,?_⟩
      intro u hmm
      rw [List.mem_append,List.mem_singleton] at hmm
      obtain hmm | rfl := hmm
      · exact h.pending u hmm
      · exact validated_of_validate hv
  | commit i =>
    simp only [updateStep]
    cases hu : s.pending[i]? with
    | none => exact h
    | some u =>
      have hvl := h.pending u (List.mem_of_getElem? hu)
      refine ⟨?_,?_,?_⟩
      · intro hm fl ht
        obtain hl | hs := ha
        · simp [hm] at hl
        · apply hvl.nonLegacy hm fl
          rw [resolveLegacyDNSMode_true_iff] at ht ⊢
          rwa [← mergeAll_congr (flags_update_congr (hs u hu))]
      · intro hm
        exact (h.legacy hm).update (hvl.legacy hm)
      · intro l hmm
        exact h.pending l (List.mem_of_mem_eraseIdx hmm)

lemma UpdateInvariant.modeFits (h : r.UpdateInvariant s) : r.ModeFits s := by
  refine ⟨h.nonLegacy,?_⟩
  intro hm fl hfl
  by_contra hs
  obtain he | ⟨rq,hmm,f,hf,hd⟩ := (mergeAll_flag DNSRuleModeFlags.disabled (fun _ _ => rfl)
    (requirements_ok_iff.mp hfl)).mp (by simpa using hs)
  · cases he
  · simp [h.legacy hm rq hmm f hf] at hd

end StartedRouter

/-- In every run in which each commit of a router outside the legacy mode finds the other rule-sets as
its validation saw them, the mode of the router fits the rule-sets in every state. -/
theorem updates_keep_mode (r : StartedRouter) {history : List UpdateEvent} {s : UpdateState}
    (h : r.UpdateHistory r.CommitsUnchanged history s) : r.ModeFits s := by
  have hin : r.UpdateInvariant s := by
    refine Run.invariant (I := fun _ s => r.UpdateInvariant s) .start ?_ h
    rintro _ s e _ hi ⟨ha,rfl⟩
    exact hi.step ha
  exact hin.modeFits

/-- One rule that refers to two rule-sets. The first one matches query types, which rules the legacy
mode out. -/
def twoSetsRouter : StartedRouter where
  rawRules := [.default { ruleSet := ["a","b"], action := .route "local" {} }]
  ruleSet tag := if tag = "a" then some { containsDNSQueryTypeRule := true } else some {}
  legacyDNSMode := false
  flags := { disabled := true }
  resolved := rfl

/-- One update after the other. -/
theorem updates_keep_mode_sequential :
    let events : List UpdateEvent := [.validate "a" {},.commit 0]
    let s := events.foldl twoSetsRouter.updateStep ⟨twoSetsRouter.ruleSet,[]⟩
    s.ruleSet "a" = some {} ∧ twoSetsRouter.UpdateHistory twoSetsRouter.CommitsUnchanged events s ∧
      twoSetsRouter.ModeFits s := by
  have ha : Run.Along twoSetsRouter.updateStep twoSetsRouter.CommitsUnchanged
      ⟨twoSetsRouter.ruleSet,[]⟩ [.validate "a" {},.commit 0] := by
    refine ⟨trivial,.inr ?_,trivial⟩
    intro u hu tag _ _
    cases hu
    rfl
  exact ⟨rfl,Run.of_along ha,updates_keep_mode twoSetsRouter (Run.of_along ha)⟩

/-- Two updates that are both validated first: each one alone keeps the mode, together they need the
legacy mode. -/
theorem interleaved_updates_need_legacy_mode :
    let events : List UpdateEvent :=
      [.validate "a" {},.validate "b" { containsIPCIDRRule := true },.commit 0,.commit 0]
    let s := events.foldl twoSetsRouter.updateStep ⟨twoSetsRouter.ruleSet,[]⟩
    twoSetsRouter.UpdateHistory (fun _ _ => True) events s ∧ twoSetsRouter.legacyDNSMode = false ∧
      resolveLegacyDNSMode s.ruleSet twoSetsRouter.rawRules = .ok (true,{ needed := true }) := by
  refine ⟨?_,rfl,rfl⟩
  exact Run.of_along ⟨trivial,trivial,trivial,trivial,trivial⟩

end SingBox.DNS
