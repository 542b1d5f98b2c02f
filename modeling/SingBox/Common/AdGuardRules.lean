import SingBox.Common.AdGuardLines
import SingBox.Common.SRSRules
import SingBox.Rule.Boolean

/-! What the rule of an AdGuard filter matches. -/
namespace SingBox.AdGuard
open Adapter Rule Cut List

section
variable (names : Names)

def Parsed.line? : Parsed → Option RuleLine
  | .kept line => some line
  | _ => none

lemma line?_eq_some {pr : Parsed} {ln : RuleLine} (h : pr.line? = some ln) : pr = .kept ln := by
  cases pr with
  | kept => exact congrArg Parsed.kept (Option.some.inj h)
  | skipped | panicked => cases h

def keptLines (lines : List Bytes) : List RuleLine := lines.filterMap fun line => (parseLine names line).line?

lemma keptLines_of_parseLines {ls : List Bytes} {rs : List RuleLine}
    (h : parseLines names ls = some rs) : keptLines names ls = rs := by
  induction ls generalizing rs with
  | nil => exact Option.some.inj h
  | cons ln ls ih =>
    rw [keptLines,filterMap_cons]
    rw [parseLines] at h
    cases hl : parseLine names ln with
    | skipped =>
      rw [hl] at h
      exact ih h
    | panicked =>
      rw [hl] at h
      cases h
    | kept rl =>
      rw [hl] at h
      obtain ⟨r,hr,rfl⟩ := Option.map_eq_some_iff.mp h
      exact congrArg (rl :: ·) (ih hr)

def wholeLines (text : Bytes) : List Bytes := (textLines text).map dropCR

end

section
variable (c : ItemCompiler) (v : SRS.Reading)

/-- An expression that does not compile matches nothing. -/
def matchesRegexp (expression : Bytes) (host : String) : Bool :=
  match c.compileRegexp (v.text expression) with
  | .ok matcher => matcher host
  | .error _ => false

def RuleLine.test (plain : Bool) (line : RuleLine) (host : String) : Bool :=
  if plain then c.newMatcher [v.text line.ruleLine] [] host
  else if line.isRegexp then matchesRegexp c v (mapDomain line) host
  else c.newAdGuardMatcher [v.text (mapDomain line)] host

def RuleLine.matchDomain (p : Platform) (plain : Bool) (metadata : InboundContext) (line : RuleLine) : Bool :=
  matchDomainHost p metadata (line.test c v plain)

def anyOf (isImportant isExclude : Bool) (ruleLines : List RuleLine) (test : RuleLine → Bool) : Bool :=
  ruleLines.any fun line => line.isImportant == isImportant && line.isExclude == isExclude && test line

/-- What a filter is for: important exceptions come first, then important blocks, exceptions and blocks. -/
def verdict (ruleLines : List RuleLine) (test : RuleLine → Bool) : Bool :=
  !anyOf true true ruleLines test &&
    (anyOf true false ruleLines test || (!anyOf false true ruleLines test && anyOf false false ruleLines test))

/-- What the rule of the lines decides: without a block that is not important, all that is left is blocked. -/
def ruleVerdict (ruleLines : List RuleLine) (test : RuleLine → Bool) : Bool :=
  if isPlain ruleLines then ruleLines.any test
  else !anyOf true true ruleLines test && (anyOf true false ruleLines test || (!anyOf false true ruleLines test &&
    ((!anyOf false false ruleLines fun _ => true) || anyOf false false ruleLines test)))

section
variable (names : Names) (p : Platform) (lines : List Bytes) (metadata : InboundContext)

def lineVerdict : Bool :=
  verdict (keptLines names lines) (RuleLine.matchDomain c v p (isPlain (keptLines names lines)) metadata)

/-- The lines are plain names, or there is a block that is not important, or one of them matches. -/
def Settled : Prop :=
  isPlain (keptLines names lines) = true ∨ anyOf false false (keptLines names lines) (fun _ => true) = true ∨
    (keptLines names lines).any (RuleLine.matchDomain c v p (isPlain (keptLines names lines)) metadata) = true

def textVerdict (text : Bytes) : Bool := lineVerdict c v names p (wholeLines text) metadata

end

structure Unions (c : ItemCompiler) : Prop where
  newMatcher : ∀ domains host, c.newMatcher domains [] host = domains.any fun domain => c.newMatcher [domain] [] host
  newAdGuardMatcher : ∀ lines host, c.newAdGuardMatcher lines host = lines.any fun line => c.newAdGuardMatcher [line] host

/-- The expressions of a filter compile; the names of a plain list are not empty as strings. -/
def Compiles (ruleLines : List RuleLine) : Prop :=
  if isPlain ruleLines then ∀ line ∈ ruleLines, v.text line.ruleLine ≠ ""
  else ∀ line ∈ ruleLines, line.isRegexp = true → ∃ matcher, c.compileRegexp (v.text (mapDomain line)) = .ok matcher

end

section
variable {c : ItemCompiler} {v : SRS.Reading} {ms : List (String → Bool)}

lemma compileAll_ok_iff {ex : List String} : compileAll c ex = .ok ms ↔
      List.Forall₂ (fun e m => c.compileRegexp e = .ok m) ex ms := by
  rw [compileAll]
  generalize 0 = i
  induction ex generalizing ms i with
  | nil =>
    rw [zipIdx_nil,mapM_nil,forall₂_nil_left_iff]
    exact ⟨fun h => (Except.ok.inj h).symm,fun h => congrArg Except.ok h.symm⟩
  | cons e ex ih =>
    rw [zipIdx_cons,mapM_cons,forall₂_cons_left_iff]
    constructor
    · intro h
      obtain ⟨m,hm,h⟩ := Outcome.bind_eq_ok.mp h
      obtain ⟨r,hr,h⟩ := Outcome.bind_eq_ok.mp h
      cases hc : c.compileRegexp e with
      | error =>
        rw [hc] at hm
        cases hm
      | ok cm =>
        rw [hc] at hm
        obtain rfl := Except.ok.inj hm
        exact ⟨cm,r,rfl,(ih (i+1)).mp hr,(Except.ok.inj h).symm⟩
    · rintro ⟨m,r,hc,hr,rfl⟩
      rw [hc]
      exact Outcome.bind_eq_ok.mpr ⟨m,rfl,Outcome.bind_eq_ok.mpr ⟨r,(ih (i+1)).mpr hr,rfl⟩⟩

variable {es : List Bytes}

lemma exists_compileAll_iff : (∃ ms, compileAll c (es.map v.text) = .ok ms) ↔
      ∀ e ∈ es, ∃ m, c.compileRegexp (v.text e) = .ok m := by
  simp only [compileAll_ok_iff]
  induction es with
  | nil => exact ⟨fun _ _ hmm => absurd hmm not_mem_nil,fun _ => ⟨[],List.Forall₂.nil⟩⟩
  | cons e es ih =>
    rw [forall_mem_cons,← ih]
    constructor
    · rintro ⟨ms,h⟩
      obtain ⟨m,r,hm,hr,rfl⟩ := forall₂_cons_left_iff.mp h
      exact ⟨⟨m,hm⟩,r,hr⟩
    · rintro ⟨⟨m,hm⟩,r,hr⟩
      exact ⟨m::r,.cons hm hr⟩

lemma any_compileAll (h : compileAll c (es.map v.text) = .ok ms) (host : String) :
    (ms.any fun m => m host) = es.any fun e => matchesRegexp c v e host := by
  rw [compileAll_ok_iff,forall₂_map_left_iff] at h
  induction h with
  | nil => rfl
  | cons hm _ ih =>
    rw [any_cons,any_cons,ih,matchesRegexp,hm]

end

section
variable {M A : Type} {c : ItemCompiler} {v : SRS.Reading} (lib : SRS.Library M A)

def builtLists (c : ItemCompiler) (v : SRS.Reading) (invert : Bool) (domain : List Bytes)
    (matchers : List (String → Bool)) : AbstractDefaultRule HeadlessRule where
  allItems := (if matchers = [] then [] else [.domainRegex matchers])++
    (if domain = [] then [] else [.adGuardDomain (c.newAdGuardMatcher (domain.map v.text))])
  ruleSetItem := none
  invert := invert

lemma new_lists (invert : Bool) (domain domainRegex : List Bytes) :
    newHeadlessRule c ((lists invert domain domainRegex : SRS.HeadlessRule M A).options lib v) =
      match compileAll c (domainRegex.map v.text) with
      | .ok matchers => .ok (.default (builtLists c v invert domain matchers))
      | .error err => .error (.cause err "domain_regex") := by
  have hv : ((lists invert domain domainRegex : SRS.HeadlessRule M A).options lib v).isValid = true := rfl
  rw [lists,SRS.HeadlessRule.options] at hv ⊢
  rw [newHeadlessRule,if_neg (by rw [hv]; decide)]
  -- all other blocks add nothing, with or without a network manager
  have hb : headlessBlocks c (SRS.DefaultHeadlessRule.options lib v
      { domainRegex := some domainRegex, invert := invert, adGuardDomain := some domain }) =
      replicate 4 (.ok [])++([tryAppendIf (!(domainRegex.map v.text).isEmpty) "domain_regex"
        (RuleItem.domainRegex <$> compileAll c (domainRegex.map v.text))]++(replicate 18 (.ok [])++
          [.ok (if domain = [] then [] else [.adGuardDomain (c.newAdGuardMatcher (domain.map v.text))])])) := by
    cases domain <;>
      simp [headlessBlocks,SRS.DefaultHeadlessRule.options,appendIf,tryAppendIf,nonEmpty,elems,replicate]
  rw [newDefaultHeadlessRule,hb]
  cases hc : compileAll c (domainRegex.map v.text) with
  | error =>
    cases domainRegex with
    | nil => cases hc
    | cons => rfl
  | ok matchers =>
    cases domainRegex with
    | nil =>
      cases hc
      cases domain <;> rfl
    | cons =>
      cases matchers with
      | nil => cases compileAll_ok_iff.mp hc
      | cons => cases domain <;> rfl

lemma new_layer {mode : String} {type : LogicalType} (hm : newLogicalMode mode = .ok type) (invert : Bool)
    {domain domainRegex : List Bytes} (h : domain.length > 0 ∨ domainRegex.length > 0)
    {current : SRS.HeadlessRule M A} (hv : (current.options lib v).isValid = true) (built : HeadlessRule) :
    newHeadlessRule c ((layer mode invert domain domainRegex current).options lib v) = .ok built ↔
      ∃ first second, newHeadlessRule c ((lists invert domain domainRegex : SRS.HeadlessRule M A).options lib v) =
          .ok first ∧
        newHeadlessRule c (current.options lib v) = .ok second ∧ built = .logical ⟨[first,second],type,false⟩ := by
  have hl : ((lists invert domain domainRegex : SRS.HeadlessRule M A).options lib v).isValid = true := rfl
  rw [layer,if_pos h,SRS.HeadlessRule.options,SRS.allOptions,SRS.allOptions,SRS.allOptions]
  rw [newHeadlessRule,if_neg (by simp [HeadlessOptions.isValid,allValid,hl,hv]),hm]
  simp only [newSubRules]
  cases newHeadlessRule c ((lists invert domain domainRegex : SRS.HeadlessRule M A).options lib v) with
  | error =>
    constructor
    · intro h
      cases h
    · rintro ⟨_,_,hf,_⟩
      cases hf
  | ok first =>
    cases newHeadlessRule c (current.options lib v) with
    | error =>
      constructor
      · intro h
        cases h
      · rintro ⟨_,_,_,hs,_⟩
        cases hs
    | ok second =>
      constructor
      · intro h
        exact ⟨first,second,rfl,rfl,(Except.ok.inj h).symm⟩
      · rintro ⟨_,_,hf,hs,rfl⟩
        obtain rfl := Except.ok.inj hf
        obtain rfl := Except.ok.inj hs
        rfl

end

section
variable {M A : Type} {c : ItemCompiler} {v : SRS.Reading} {lib : SRS.Library M A} (p : Platform)

def listsMatch (c : ItemCompiler) (v : SRS.Reading) (p : Platform) (domain domainRegex : List Bytes)
    (metadata : InboundContext) : Bool :=
  matchDomainHost p metadata fun host => (domain.any fun line => c.newAdGuardMatcher [v.text line] host) ||
    domainRegex.any fun expression => matchesRegexp c v expression host

variable (rl : List RuleLine) (ii ie : Bool) (metadata md : InboundContext)

lemma matchDomainHost_or (f g : String → Bool) : matchDomainHost p md (fun host => f host || g host) =
      (matchDomainHost p md f || matchDomainHost p md g) := by
  unfold matchDomainHost
  split_ifs <;> rfl

section
variable {d dr : List Bytes} (us : Unions c)
include us

lemma any_builtLists (i : Bool) {mt : List (String → Bool)} (h : compileAll c (dr.map v.text) = .ok mt)
    (md : InboundContext) : ((builtLists c v i d mt).allItems.any fun it => (itemMatcher p).run it md) =
      listsMatch c v p d dr md := by
  have hf : matchDomainHost p md (fun _ => false) = false := by
    unfold matchDomainHost
    split_ifs <;> rfl
  have hr : ((if mt = [] then [] else [RuleItem.domainRegex mt]).any fun it => (itemMatcher p).run it md) =
      matchDomainHost p md fun host => dr.any fun e => matchesRegexp c v e host := by
    simp only [← any_compileAll h]
    cases mt with
    | nil => exact hf.symm
    | cons => exact Bool.or_false _
  have hd : ((if d = [] then [] else [RuleItem.adGuardDomain (c.newAdGuardMatcher (d.map v.text))]).any
      fun it => (itemMatcher p).run it md) =
      matchDomainHost p md fun host => d.any fun ln => c.newAdGuardMatcher [v.text ln] host := by
    cases d with
    | nil => exact hf.symm
    | cons ln ls =>
      have hu : c.newAdGuardMatcher ((ln::ls).map v.text) =
          fun host => (ln::ls).any fun ln => c.newAdGuardMatcher [v.text ln] host := by
        funext host
        rw [us.newAdGuardMatcher,any_map]
        rfl
      rw [if_neg (cons_ne_nil _ _),hu]
      exact Bool.or_false _
  rw [builtLists,any_append,hr,hd,Bool.or_comm,listsMatch,matchDomainHost_or]

lemma match_lists {invert : Bool} {built : HeadlessRule}
    (h : newHeadlessRule c ((lists invert d dr : SRS.HeadlessRule M A).options lib v) = .ok built)
    (md : InboundContext) : built.match (itemMatcher p) md =
      (d.isEmpty && dr.isEmpty || (invert ^^ listsMatch c v p d dr md)) := by
  rw [new_lists] at h
  cases hc : compileAll c (dr.map v.text) with
  | error =>
    rw [hc] at h
    cases h
  | ok matchers =>
    rw [hc] at h
    obtain rfl := Except.ok.inj h
    have hg : ∀ item ∈ (builtLists c v invert d matchers).allItems, item.group = .destinationAddress := by
      intro item him
      obtain him | him := mem_append.mp him
      all_goals
        split_ifs at him
        · cases him
        · rw [mem_singleton.mp him]
          rfl
    have he : (builtLists c v invert d matchers).allItems.isEmpty = (d.isEmpty && dr.isEmpty) := by
      have hl : matchers.length = dr.length := by
        rw [← (compileAll_ok_iff.mp hc).length_eq,length_map]
      cases d <;> cases dr <;> cases matchers <;> first | rfl | cases hl
    rw [match_destinationAddress _ _ rfl hg,any_builtLists p us invert hc,he]
    rfl

end

/-- A rule builds under a condition and then decides as `f`. -/
structure Decides (c : ItemCompiler) (v : SRS.Reading) (lib : SRS.Library M A) (p : Platform)
    (rule : SRS.HeadlessRule M A) (compiles : Prop) (f : InboundContext → Bool) : Prop where
  valid : (rule.options lib v).isValid = true
  reset : ∀ metadata, f metadata.resetRuleCache = f metadata
  builds : (∃ built, newHeadlessRule c (rule.options lib v) = .ok built) ↔ compiles
  answers : ∀ built, newHeadlessRule c (rule.options lib v) = .ok built → ∀ metadata,
    built.match (itemMatcher p) metadata = f metadata

/-- The expressions of a list compile. -/
def AllCompile (c : ItemCompiler) (v : SRS.Reading) (expressions : List Bytes) : Prop :=
  ∀ expression ∈ expressions, ∃ matcher, c.compileRegexp (v.text expression) = .ok matcher

lemma decides_lists (un : Unions c) (i : Bool) (dn dm : List Bytes) :
    Decides c v lib p (lists i dn dm) (AllCompile c v dm) fun md =>
      dn.isEmpty && dm.isEmpty || (i ^^ listsMatch c v p dn dm md) where
  valid := rfl
  reset md := rfl
  builds := by
    rw [AllCompile,← exists_compileAll_iff,new_lists]
    cases compileAll c (dm.map v.text) with
    | error =>
      constructor
      · rintro ⟨_,hb⟩
        cases hb
      · rintro ⟨_,hm⟩
        cases hm
    | ok mt => exact ⟨fun _ => ⟨mt,rfl⟩,fun _ => ⟨_,rfl⟩⟩
  answers built h := match_lists p un h

lemma decides_layer (unions : Unions c) {mode : String} {type : LogicalType} (hm : newLogicalMode mode = .ok type)
    {invert : Bool} (hn : ∀ b, type.holds id [invert,b] = b) (domain domainRegex : List Bytes)
    {current : SRS.HeadlessRule M A} {compiles : Prop} {f : InboundContext → Bool}
    (h : Decides c v lib p current compiles f) :
    Decides c v lib p (layer mode invert domain domainRegex current) (AllCompile c v domainRegex ∧ compiles)
      fun md => type.holds id [invert ^^ listsMatch c v p domain domainRegex md,f md] := by
  have hls : Decides c v lib p (lists invert domain domainRegex) _ _ :=
    decides_lists p unions invert domain domainRegex
  by_cases hl : domain.length > 0 ∨ domainRegex.length > 0
  · have hnw := fun built => new_layer (c := c) lib hm invert hl h.valid built
    have he : (domain.isEmpty && domainRegex.isEmpty) = false := by
      cases domain with
      | cons => rfl
      | nil =>
        cases domainRegex with
        | cons => rfl
        | nil => cases hl <;> contradiction
    refine ⟨?_,?_,?_,?_⟩
    · rw [layer,if_pos hl,SRS.HeadlessRule.options,SRS.allOptions,SRS.allOptions,SRS.allOptions]
      simp [HeadlessOptions.isValid,allValid,hls.valid,h.valid]
    · intro md
      rw [h.reset]
      rfl
    · rw [← hls.builds,← h.builds]
      constructor
      · rintro ⟨built,hb⟩
        obtain ⟨first,second,hf,hs,_⟩ := (hnw built).mp hb
        exact ⟨⟨first,hf⟩,second,hs⟩
      · rintro ⟨⟨first,hf⟩,second,hs⟩
        exact ⟨_,(hnw _).mpr ⟨first,second,hf,hs,rfl⟩⟩
    · intro built hb md
      obtain ⟨first,second,hf,hs,rfl⟩ := (hnw built).mp hb
      have ho := hls.answers first hf md.resetRuleCache
      have ht := h.answers second hs md.resetRuleCache
      rw [hls.reset md,he,Bool.false_or] at ho
      rw [h.reset] at ht
      rw [match_logical]
      cases type <;> simp [LogicalType.holds,ho,ht]
  · have hd : domain = [] := length_eq_zero_iff.mp (by omega)
    have hr : domainRegex = [] := length_eq_zero_iff.mp (by omega)
    subst hd hr
    have hnn : ∀ md, listsMatch c v p [] [] md = false := by
      intro md
      unfold listsMatch matchDomainHost
      split_ifs <;> rfl
    rw [layer,if_neg hl]
    refine ⟨h.valid,?_,?_,?_⟩
    · intro md
      rw [h.reset]
      rfl
    · rw [h.builds]
      exact ⟨fun hc => ⟨fun _ hmm => absurd hmm not_mem_nil,hc⟩,And.right⟩
    · intro built hb md
      rw [hnn,Bool.xor_false,hn,h.answers built hb]

lemma decides_currentRule (un : Unions c) (r : Roles) : Decides c v lib p (currentRule r)
      (AllCompile c v (r importantExcludeDomainRegex) ∧ AllCompile c v (r importantDomainRegex) ∧
        AllCompile c v (r excludeDomainRegex) ∧ AllCompile c v (r domainRegex))
      fun md => !listsMatch c v p (r importantExcludeDomain) (r importantExcludeDomainRegex) md &&
        (listsMatch c v p (r importantDomain) (r importantDomainRegex) md ||
          (!listsMatch c v p (r excludeDomain) (r excludeDomainRegex) md &&
            ((r domain).isEmpty && (r domainRegex).isEmpty ||
              listsMatch c v p (r domain) (r domainRegex) md))) := by
  have han : ∀ b, LogicalType.and.holds id [true,b] = b := by decide
  have hor : ∀ b, LogicalType.or.holds id [false,b] = b := by decide
  have hm : newLogicalMode "and" = .ok .and := rfl
  have hm' : newLogicalMode "or" = .ok .or := rfl
  have hl : Decides c v lib p _ _ _ := decides_lists p un false (r domain) (r domainRegex)
  have he := decides_layer p un hm han (r excludeDomain) (r excludeDomainRegex) hl
  have him := decides_layer p un hm' hor (r importantDomain) (r importantDomainRegex) he
  have ha := decides_layer p un hm han (r importantExcludeDomain) (r importantExcludeDomainRegex) him
  simpa [LogicalType.holds,currentRule] using ha

lemma any_roles (k : Kind) (f : Bytes → Bool) :
    (roles rl k).any f = rl.any fun ln => decide (ln.kind = k) && f (mapDomain ln) := by
  rw [roles,any_map,any_filter]
  rfl

lemma any_or_any {α : Type} (l : List α) (f g : α → Bool) : (l.any f || l.any g) = l.any fun x => f x || g x := by
  induction l with
  | nil => rfl
  | cons x l ih =>
    rw [any_cons,any_cons,any_cons,← ih]
    ac_rfl

lemma listsMatch_roles : listsMatch c v p (roles rl ⟨ii,false,ie⟩) (roles rl ⟨ii,true,ie⟩)
      md = anyOf ii ie rl (RuleLine.matchDomain c v p false md) := by
  have hl : ∀ (ln : RuleLine) (host : String),
      (decide (ln.kind = ⟨ii,false,ie⟩) && c.newAdGuardMatcher [v.text (mapDomain ln)] host ||
        decide (ln.kind = ⟨ii,true,ie⟩) && matchesRegexp c v (mapDomain ln) host) =
      (ln.isImportant == ii && ln.isExclude == ie && ln.test c v false host) := by
    intro ln host
    cases hr : ln.isRegexp <;>
      simp [RuleLine.kind,RuleLine.test,hr,Bool.and_assoc,Bool.beq_eq_decide_eq]
  unfold listsMatch RuleLine.matchDomain matchDomainHost
  split_ifs
  · simp [anyOf]
  · dsimp only
    rw [any_roles,any_roles,any_or_any,anyOf]
    exact congrArg rl.any (funext fun ln => hl ln _)

lemma isEmpty_roles : ((roles rl ⟨ii,false,ie⟩).isEmpty && (roles rl ⟨ii,true,ie⟩).isEmpty) =
      !anyOf ii ie rl fun _ => true := by
  have ha : ∀ k, (roles rl k).isEmpty = !rl.any fun ln => decide (ln.kind = k) := by
    intro k
    have h := any_roles rl k fun _ => true
    simp only [Bool.and_true] at h
    rw [← h]
    cases roles rl k <;> rfl
  rw [ha,ha,← Bool.not_or,any_or_any,anyOf]
  refine congrArg (fun f => !rl.any f) (funext fun ln => ?_)
  cases hr : ln.isRegexp <;> simp [RuleLine.kind,hr,Bool.beq_eq_decide_eq]

lemma allCompile_roles : (AllCompile c v (roles rl importantExcludeDomainRegex) ∧
      AllCompile c v (roles rl importantDomainRegex) ∧ AllCompile c v (roles rl excludeDomainRegex) ∧
      AllCompile c v (roles rl domainRegex)) ↔
      ∀ ln ∈ rl, ln.isRegexp = true → ∃ m, c.compileRegexp (v.text (mapDomain ln)) = .ok m := by
  have hrl : ∀ k : Kind, AllCompile c v (roles rl k) ↔
      ∀ ln ∈ rl, ln.kind = k → ∃ m, c.compileRegexp (v.text (mapDomain ln)) = .ok m := by
    intro k
    simp only [AllCompile,roles,forall_mem_map,mem_filter,decide_eq_true_eq,and_imp]
  rw [hrl,hrl,hrl,hrl]
  constructor
  · rintro ⟨hb,him,hex,hd⟩ ln hl hr
    cases hi : ln.isImportant <;> cases he : ln.isExclude
    · exact hd ln hl (by simp [RuleLine.kind,domainRegex,hi,he,hr])
    · exact hex ln hl (by simp [RuleLine.kind,excludeDomainRegex,hi,he,hr])
    · exact him ln hl (by simp [RuleLine.kind,importantDomainRegex,hi,he,hr])
    · exact hb ln hl (by simp [RuleLine.kind,importantExcludeDomainRegex,hi,he,hr])
  · intro h
    have hk : ∀ k : Kind, k.isRegexp = true → ∀ ln ∈ rl, ln.kind = k →
        ∃ m, c.compileRegexp (v.text (mapDomain ln)) = .ok m :=
      fun k hr ln hl heq => h ln hl (by rw [← heq] at hr; exact hr)
    exact ⟨hk _ rfl,hk _ rfl,hk _ rfl,hk _ rfl⟩

lemma new_plain (lib : SRS.Library M A) (ds : List Bytes) (h : ds ≠ []) :
    newHeadlessRule c ((.default { domain := some ds } : SRS.HeadlessRule M A).options lib v) =
      if (ds.map v.text).contains "" then .error (.new "domain: empty item is not allowed")
      else .ok (.default ⟨[.domain (c.newMatcher (ds.map v.text) [])],none,false⟩) := by
  have hv : ((.default { domain := some ds } : SRS.HeadlessRule M A).options lib v).isValid = true := rfl
  rw [SRS.HeadlessRule.options] at hv ⊢
  rw [newHeadlessRule,if_neg (by rw [hv]; decide)]
  have hb : headlessBlocks c (SRS.DefaultHeadlessRule.options lib v { domain := some ds }) =
      replicate 2 (.ok [])++([tryAppendIf true "" (newDomainItem c (ds.map v.text) [])]++
        replicate 21 (.ok [])) := by
    cases ds with
    | nil => exact absurd rfl h
    | cons =>
      simp [headlessBlocks,SRS.DefaultHeadlessRule.options,appendIf,tryAppendIf,nonEmpty,elems,replicate]
  rw [newDefaultHeadlessRule,hb,newDomainItem]
  split_ifs with he hs
  · rfl
  · cases hs
  · rfl

lemma decides_plain (un : Unions c) {rl : List RuleLine} (hl : rl ≠ []) :
    Decides c v lib p (.default { domain := some (rl.map fun it => it.ruleLine) })
      (∀ ln ∈ rl, v.text ln.ruleLine ≠ "") fun md => rl.any (RuleLine.matchDomain c v p true md) := by
  have hn := new_plain (c := c) (v := v) lib (rl.map fun it => it.ruleLine) (mt map_eq_nil_iff.mp hl)
  have hc : ((rl.map fun it => it.ruleLine).map v.text).contains "" = true ↔
      ¬ ∀ ln ∈ rl, v.text ln.ruleLine ≠ "" := by
    simp
  refine ⟨rfl,fun _ => rfl,?_,?_⟩
  · rw [hn]
    split_ifs with he
    · constructor
      · rintro ⟨_,hb⟩
        cases hb
      · intro ha
        exact absurd ha (hc.mp he)
    · exact ⟨fun _ => not_not.mp (mt hc.mpr he),fun _ => ⟨_,rfl⟩⟩
  · intro b hb md
    rw [hn] at hb
    split_ifs at hb
    obtain rfl := Except.ok.inj hb
    have hu : c.newMatcher ((rl.map fun it => it.ruleLine).map v.text) [] =
        fun host => rl.any fun ln => ln.test c v true host := by
      funext host
      rw [un.newMatcher,map_map,any_map]
      rfl
    rw [match_destinationAddress _ _ rfl (by simp [RuleItem.group]),hu]
    simp only [isEmpty_cons,any_cons,any_nil,Bool.or_false,Bool.false_or,Bool.false_xor]
    change matchDomainHost p md (fun host => rl.any fun ln => ln.test c v true host) = _
    unfold RuleLine.matchDomain matchDomainHost
    split_ifs <;> simp

end

section
variable {M A : Type} {c : ItemCompiler} {v : SRS.Reading} {lib : SRS.Library M A} {names : Names}
  {rules : List (SRS.HeadlessRule M A)} {ruleLines rs : List RuleLine}

lemma fromLines_ok (h : fromLines rs = .ok rules) : rs ≠ [] ∧
      (isPlain rs = true ∧ rules = [.default { domain := some (rs.map fun it => it.ruleLine) }] ∨
        isPlain rs = false ∧ rules = [currentRule (roles rs)]) := by
  unfold fromLines at h
  split_ifs at h with hl hp
  · exact ⟨mt length_eq_zero_iff.mpr hl,.inl ⟨hp,(Except.ok.inj h).symm⟩⟩
  · exact ⟨mt length_eq_zero_iff.mpr hl,.inr ⟨Bool.eq_false_iff.mpr hp,(Except.ok.inj h).symm⟩⟩

lemma toOptions_ok {t : Bytes} (h : toOptions names t = .ok rules) :
    fromLines (keptLines names (scan t)) = .ok rules := by
  rw [toOptions] at h
  split at h
  · cases h
  · next hl => rwa [keptLines_of_parseLines names hl]

lemma decides_toOptions (lib : SRS.Library M A) (p : Platform) (un : Unions c) {t : Bytes}
    (h : toOptions names t = .ok rules) :
    ∃ r, rules = [r] ∧ Decides c v lib p r (Compiles c v (keptLines names (scan t))) fun md =>
      ruleVerdict (keptLines names (scan t)) (RuleLine.matchDomain c v p (isPlain (keptLines names (scan t))) md) := by
  obtain ⟨hne,⟨hp,rfl⟩ | ⟨hp,rfl⟩⟩ := fromLines_ok (toOptions_ok h)
  · refine ⟨_,rfl,?_⟩
    simp only [Compiles,ruleVerdict,hp,if_true]
    exact decides_plain p un hne
  · refine ⟨_,rfl,?_⟩
    simp only [Compiles,ruleVerdict,hp,Bool.false_eq_true,if_false]
    have hd : Decides c v lib p _ _ _ := decides_currentRule p un (roles (keptLines names (scan t)))
    rw [allCompile_roles] at hd
    simp only [importantExcludeDomain,importantExcludeDomainRegex,importantDomain,importantDomainRegex,excludeDomain,
      excludeDomainRegex,domain,domainRegex,listsMatch_roles,isEmpty_roles] at hd
    exact hd

lemma any_eq_anyOf (rs : List RuleLine) (t : RuleLine → Bool) :
    rs.any t = (anyOf true true rs t || anyOf true false rs t ||
      (anyOf false true rs t || anyOf false false rs t)) := by
  simp only [anyOf,any_or_any]
  refine congrArg rs.any (funext fun ln => ?_)
  cases ln.isImportant <;> cases ln.isExclude <;> simp

lemma verdict_of_isPlain {ls : List Bytes} (hp : isPlain (keptLines names ls) = true)
    (t : RuleLine → Bool) : verdict (keptLines names ls) t = (keptLines names ls).any t := by
  have hkn : ∀ line ∈ keptLines names ls, line.isImportant = false ∧ line.isExclude = false := by
    intro line hl
    obtain ⟨rl,_,hk⟩ := mem_filterMap.mp hl
    have hrw := kind_of_isRawDomain (line?_eq_some hk) (all_eq_true.mp hp line hl)
    exact ⟨congrArg Kind.isImportant hrw,congrArg Kind.isExclude hrw⟩
  have hn : ∀ isImportant isExclude, (isImportant || isExclude) = true →
      anyOf isImportant isExclude (keptLines names ls) t = false := by
    intro isImportant isExclude hr
    refine any_eq_false.mpr fun line hl => ?_
    obtain ⟨him,he⟩ := hkn line hl
    rw [him,he]
    cases isImportant <;> cases isExclude <;> simp_all
  rw [any_eq_anyOf,verdict,hn true true rfl,hn true false rfl,hn false true rfl]
  rfl

/-- Without a block that is not important, whatever no line matches is blocked. -/
lemma ruleVerdict_eq_iff (p : Platform) (ls : List Bytes) (md : InboundContext) (w : Bool) :
    ruleVerdict (keptLines names ls) (RuleLine.matchDomain c v p (isPlain (keptLines names ls)) md) = w ↔
      (Settled c v names p ls md ↔ lineVerdict c v names p ls md = w) := by
  unfold Settled lineVerdict ruleVerdict
  generalize ht : RuleLine.matchDomain c v p (isPlain (keptLines names ls)) md = t
  by_cases hp : isPlain (keptLines names ls) = true
  · rw [if_pos hp,verdict_of_isPlain hp t]
    simp only [hp,true_or,true_iff]
  · have hbl : anyOf false false (keptLines names ls) t = true →
        anyOf false false (keptLines names ls) (fun _ => true) = true := by
      intro h
      obtain ⟨ln,hl,ht⟩ := any_eq_true.mp h
      refine any_eq_true.mpr ⟨ln,hl,?_⟩
      rw [Bool.and_eq_true] at ht ⊢
      exact ⟨ht.1,rfl⟩
    rw [if_neg hp,any_eq_anyOf,verdict]
    generalize anyOf true true _ t = ie
    generalize anyOf true false _ t = i
    generalize anyOf false true _ t = e
    generalize anyOf false false _ t = b at *
    generalize (anyOf false false _ fun _ => true) = hasBlock at *
    cases ie <;> cases i <;> cases e <;> cases b <;> cases hasBlock <;> cases w <;> simp_all

/-- A rule decides as the lines of its text exactly when those that the scanner gives, up to a line that is too long,
decide like all and are settled, or neither. The rule builds when the expressions compile. -/
theorem filter_decides_iff (lib : SRS.Library M A) (p : Platform) (unions : Unions c) {text : Bytes}
    {rules : List (SRS.HeadlessRule M A)} (h : toOptions names text = .ok rules) :
    ∃ rule, rules = [rule] ∧
      ((∃ built, newHeadlessRule c (rule.options lib v) = .ok built) ↔ Compiles c v (keptLines names (scan text))) ∧
      ∀ built, newHeadlessRule c (rule.options lib v) = .ok built → ∀ metadata,
        built.match (itemMatcher p) metadata = textVerdict c v names p metadata text ↔
          (Settled c v names p (scan text) metadata ↔
            lineVerdict c v names p (scan text) metadata = textVerdict c v names p metadata text) := by
  obtain ⟨rule,rfl,hd⟩ := decides_toOptions lib p unions h
  refine ⟨rule,rfl,hd.builds,fun built hb metadata => ?_⟩
  rw [hd.answers built hb metadata]
  exact ruleVerdict_eq_iff p (scan text) metadata _

end

def stringCompiler : ItemCompiler where
  newMatcher domains _ host := domains.any fun domain => domain == host
  newAdGuardMatcher lines host := lines.any fun line => line == host || line == "||"++host++"^"
  compileRegexp expression := .ok fun host => host == expression
  parsePrefix _ := .error (.new "no prefix")
  parseAddr _ := .error (.new "no address")
  ipSet _ := .error (.new "no set")
  hasNetworkManager := false

lemma stringCompiler_unions : Unions stringCompiler where
  newMatcher domains host := by simp [stringCompiler]
  newAdGuardMatcher lines host := by simp [stringCompiler]

def around (line : Bytes) : Bytes := [ascii "||a.org^",line,ascii "||b.org^"].flatMap fun line => line++[10]

section
variable {l : Bytes}

lemma textLines_around (h : 10 ∉ l) : textLines (around l) = [ascii "||a.org^",l,ascii "||b.org^",[]] := by
  refine splitOn_lines fun o ho => ?_
  simp only [mem_cons,not_mem_nil,or_false] at ho
  obtain rfl | rfl | rfl := ho
  · decide
  · exact h
  · decide

lemma scan_around (h : 10 ∉ l) (hln : maxScanTokenSize ≤ l.length) : scan (around l) = scan (ascii "||a.org^") := by
  have hl : ¬ (fun l : Bytes => decide (l.length < maxScanTokenSize)) l = true := by
    rw [decide_eq_true_eq]
    omega
  rw [scan,textLines_around h,takeWhile_cons_of_pos (by decide),takeWhile_cons,if_neg hl]
  rfl

end

lemma stringCompiler_builds (t : Bytes) {rules : List (SRS.HeadlessRule (List Bytes × List Bytes) (List Bytes))}
    (h : toOptions simpleNames t = .ok rules) (hp : isPlain (keptLines simpleNames (scan t)) = false) :
    ∃ r b, toOptions simpleNames t = .ok [r] ∧
      newHeadlessRule stringCompiler (r.options SRS.listLibrary SRS.asciiReading) = .ok b ∧
      ∀ md, b.match (itemMatcher bareHost) md = ruleVerdict (keptLines simpleNames (scan t))
        (RuleLine.matchDomain stringCompiler SRS.asciiReading bareHost false md) := by
  obtain ⟨r,rfl,hd⟩ := decides_toOptions SRS.listLibrary bareHost stringCompiler_unions h
  rw [hp,Compiles,hp,if_neg Bool.false_ne_true] at hd
  obtain ⟨b,hb⟩ := hd.builds.mpr fun ln _ _ => ⟨_,rfl⟩
  exact ⟨r,b,h,hb,hd.answers b hb⟩

lemma around_diverges {ln : Bytes} (h : 10 ∉ ln) (hl : maxScanTokenSize ≤ ln.length)
    (hs : parseLine simpleNames (dropCR ln) = .skipped) : ∃ r b, toOptions simpleNames (around ln) = .ok [r] ∧
      newHeadlessRule stringCompiler (r.options SRS.listLibrary SRS.asciiReading) = .ok b ∧
      b.match (itemMatcher bareHost) { domain := "b.org" } = false ∧
      textVerdict stringCompiler SRS.asciiReading simpleNames bareHost { domain := "b.org" } (around ln) = true := by
  have hsc := scan_around h hl
  have ht : toOptions (M := List Bytes × List Bytes) (A := List Bytes) simpleNames (around ln) =
      toOptions simpleNames (ascii "||a.org^") := by
    rw [toOptions,hsc]
    rfl
  obtain ⟨r,b,hr,hb,hm⟩ := stringCompiler_builds (around ln) ht (by rw [hsc]; rfl)
  rw [hsc] at hm
  rw [textVerdict,lineVerdict,wholeLines,textLines_around h,keptLines,map_cons,map_cons,filterMap_cons,filterMap_cons,hs]
  exact ⟨r,b,hr,hb,(hm _).trans rfl,rfl⟩

/-- A filter of exceptions alone matches the names that they do not match, and what stands behind a line that
is too long does not count. -/
theorem exceptions_match_all_else_and_long_lines_end_filters :
    (∃ rule built, toOptions simpleNames (ascii "@@||example.org^\n") = .ok [rule] ∧
      newHeadlessRule stringCompiler (rule.options SRS.listLibrary SRS.asciiReading) = .ok built ∧
      built.match (itemMatcher bareHost) { domain := "other.net" } = true ∧
      textVerdict stringCompiler SRS.asciiReading simpleNames bareHost { domain := "other.net" }
        (ascii "@@||example.org^\n") = false) ∧
    ∃ line rule built, toOptions simpleNames (around line) = .ok [rule] ∧
      newHeadlessRule stringCompiler (rule.options SRS.listLibrary SRS.asciiReading) = .ok built ∧
      built.match (itemMatcher bareHost) { domain := "b.org" } = false ∧
      textVerdict stringCompiler SRS.asciiReading simpleNames bareHost { domain := "b.org" } (around line) = true := by
  constructor
  · obtain ⟨rule,built,h,hb,hm⟩ := stringCompiler_builds (ascii "@@||example.org^\n") rfl rfl
    exact ⟨rule,built,h,hb,(hm _).trans rfl,rfl⟩
  · refine ⟨33::(replicate maxScanTokenSize 120++[120]),around_diverges ?_ ?_ ?_⟩
    · simp
    · rw [length_cons,length_append,length_replicate]
      omega
    · rw [dropCR,← cons_append,cutSuffix_of_not (not_isSuffix_of_last rfl (by decide))]
      exact (if_neg (cons_ne_nil _ _)).trans (if_pos (.inl (prefix_append (ascii "!") _)))

def fourKinds : Bytes := ascii "||a.org^\n||b.org^\n@@||b.org^\n"++ascii "||c.org^$important\n@@||c.org^\n"++
  ascii "@@||d.org^$important\n"

/-- A filter with lines of all four kinds decides as they do. -/
theorem four_kinds_decide_as_lines :
    ∃ rule built, toOptions simpleNames fourKinds = .ok [rule] ∧
      newHeadlessRule stringCompiler (rule.options SRS.listLibrary SRS.asciiReading) = .ok built ∧
      (∀ metadata, built.match (itemMatcher bareHost) metadata =
        textVerdict stringCompiler SRS.asciiReading simpleNames bareHost metadata fourKinds) ∧
      ["a.org","b.org","c.org","d.org"].map (fun domain => built.match (itemMatcher bareHost) { domain }) =
        [true,false,true,false] := by
  obtain ⟨rule,hr,hbl,hm⟩ := filter_decides_iff SRS.listLibrary bareHost
    stringCompiler_unions (show toOptions simpleNames fourKinds = .ok _ from rfl)
  obtain ⟨built,hb⟩ := hbl.mpr fun ln _ _ => ⟨_,rfl⟩
  have ha : ∀ metadata, built.match (itemMatcher bareHost) metadata =
      textVerdict stringCompiler SRS.asciiReading simpleNames bareHost metadata fourKinds := by
    refine fun metadata => (hm built hb metadata).mpr (iff_of_true (.inr (.inl ?_)) ?_)
    · rfl
    · rfl
  refine ⟨rule,built,congrArg Except.ok hr,hb,ha,?_⟩
  simp only [ha]
  rfl

end SingBox.AdGuard
