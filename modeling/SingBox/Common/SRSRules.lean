import SingBox.Common.SRSTrees
import SingBox.Rule.Headless
import SingBox.Rule.Matcher

/-! The rules that are built from a rule-set in source form and from the same rule-set in binary form. -/
namespace SingBox.SRS
open Adapter Rule

variable {M A : Type}

/-- What the strings and the numbers of the options mean to the rules. -/
structure Reading where
  text : Bytes → String
  network : Bytes → Network
  interfaceType : UInt8 → InterfaceType

section
variable (lib : Library M A) (v : Reading)

def DefaultHeadlessRule.options (rule : DefaultHeadlessRule M A) : DefaultHeadlessOptions where
  queryType := rule.queryType.map (List.map UInt16.toNat)
  network := rule.network.map (List.map v.network)
  domain := rule.domain.map (List.map v.text)
  domainSuffix := rule.domainSuffix.map (List.map v.text)
  domainKeyword := rule.domainKeyword.map (List.map v.text)
  domainRegex := rule.domainRegex.map (List.map v.text)
  sourceIPCIDR := rule.sourceIPCIDR.map (List.map v.text)
  ipCIDR := rule.ipCIDR.map (List.map v.text)
  sourcePort := rule.sourcePort.map (List.map UInt16.toNat)
  sourcePortRange := rule.sourcePortRange.map (List.map v.text)
  port := rule.port.map (List.map UInt16.toNat)
  portRange := rule.portRange.map (List.map v.text)
  processName := rule.processName.map (List.map v.text)
  processPath := rule.processPath.map (List.map v.text)
  processPathRegex := rule.processPathRegex.map (List.map v.text)
  packageName := rule.packageName.map (List.map v.text)
  packageNameRegex := rule.packageNameRegex.map (List.map v.text)
  networkType := rule.networkType.map (List.map v.interfaceType)
  networkIsExpensive := rule.networkIsExpensive
  networkIsConstrained := rule.networkIsConstrained
  wifiSSID := rule.wifiSSID.map (List.map v.text)
  wifiBSSID := rule.wifiBSSID.map (List.map v.text)
  networkInterfaceAddress := rule.networkInterfaceAddress.map
    (List.map fun entry => (v.interfaceType entry.1,entry.2.map build))
  defaultInterfaceAddress := rule.defaultInterfaceAddress.map (List.map build)
  invert := rule.invert
  domainMatcher := rule.domainMatcher.map lib.matchDomain
  sourceIPSet := rule.sourceIPSet.map lib.contains
  ipSet := rule.ipSet.map lib.contains
  adGuardDomain := rule.adGuardDomain.map (List.map v.text)
  adGuardDomainMatcher := rule.adGuardDomainMatcher.map lib.matchAdGuard

mutual

/-- A rule of another type does not build, and neither does a rule without conditions. -/
def HeadlessRule.options : HeadlessRule M A → HeadlessOptions
  | .default rule => .default true (rule.options lib v)
  | .logical mode rules invert => .logical mode (allOptions rules) invert
  | .other _ => .default false {}

def allOptions : List (HeadlessRule M A) → List HeadlessOptions
  | [] => []
  | rule::rules => rule.options::allOptions rules

end

end

/-- The compilers of the rules and the library of the rule-set parse alike, and their matchers decide the
sets of the same lists. -/
structure Agrees (c : ItemCompiler) (lib : Library M A) (v : Reading)
    (domainSet : List Bytes → List Bytes → String → Bool) (adGuardSet : List Bytes → String → Bool) : Prop where
  newMatcher : ∀ domains suffixes, c.newMatcher (domains.map v.text) (suffixes.map v.text) = domainSet domains suffixes
  newAdGuardMatcher : ∀ lines, c.newAdGuardMatcher (lines.map v.text) = adGuardSet lines
  parsePrefix : ∀ string pfx, lib.parsePrefix string = .ok pfx → c.parsePrefix (v.text string) = .ok pfx
  parsePrefix_error : ∀ string err, lib.parsePrefix string = .error err →
    ∃ err', c.parsePrefix (v.text string) = .error err'
  parseAddr : ∀ string addr, lib.parseAddr string = .ok addr → c.parseAddr (v.text string) = .ok addr
  ipSet : ∀ entries set, lib.buildIPSet entries = .ok set → c.ipSet entries = .ok (lib.contains set)

/-- A rule in source form has lists and nothing that is compiled. -/
def DefaultHeadlessRule.IsSource (rule : DefaultHeadlessRule M A) : Prop :=
  rule.domainMatcher = none ∧ rule.sourceIPSet = none ∧ rule.ipSet = none ∧ rule.adGuardDomainMatcher = none

def DefaultHeadlessRule.hasConditions (rule : DefaultHeadlessRule M A) : Bool :=
  nonEmpty rule.queryType || nonEmpty rule.network || nonEmpty rule.domainKeyword || nonEmpty rule.domainRegex ||
    nonEmpty rule.sourcePort || nonEmpty rule.sourcePortRange || nonEmpty rule.port || nonEmpty rule.portRange ||
    nonEmpty rule.processName || nonEmpty rule.processPath || nonEmpty rule.processPathRegex ||
    nonEmpty rule.packageName || nonEmpty rule.packageNameRegex || nonEmpty rule.networkType ||
    rule.networkIsExpensive || rule.networkIsConstrained || nonEmpty rule.wifiSSID || nonEmpty rule.wifiBSSID ||
    nonEmpty rule.networkInterfaceAddress || nonEmpty rule.defaultInterfaceAddress ||
    (nonEmpty rule.domain || nonEmpty rule.domainSuffix) || nonEmpty rule.sourceIPCIDR || nonEmpty rule.ipCIDR ||
    nonEmpty rule.adGuardDomain

mutual

def HeadlessRule.IsSource : HeadlessRule M A → Prop
  | .default rule => rule.IsSource
  | .logical _ rules _ => AllSource rules
  | .other _ => True

def AllSource : List (HeadlessRule M A) → Prop
  | [] => True
  | rule::rules => rule.IsSource ∧ AllSource rules

end

mutual

def HeadlessRule.hasConditions : HeadlessRule M A → Bool
  | .default rule => rule.hasConditions
  | .logical _ rules _ => !rules.isEmpty && allConditions rules
  | .other _ => false

def allConditions : List (HeadlessRule M A) → Bool
  | [] => true
  | rule::rules => rule.hasConditions && allConditions rules

end

section

/-- Where the one block is built, the other gives the same items. -/
def Grants (block block' : Except BuildError (List RuleItem)) : Prop := ∀ items, block = .ok items → block' = .ok items

lemma Grants.refl (b : Except BuildError (List RuleItem)) : Grants b b := fun _ h => h

lemma mapM_of_grants {bs bs' : List (Except BuildError (List RuleItem))} {it : List (List RuleItem)}
    (h : List.Forall₂ Grants bs bs') (his : bs.mapM id = .ok it) : bs'.mapM id = .ok it := by
  induction h generalizing it with
  | nil => exact his
  | cons hb _ ih =>
    rw [List.mapM_cons] at his ⊢
    obtain ⟨fr,hf,his⟩ := Outcome.bind_eq_ok.mp his
    obtain ⟨r,hr,his⟩ := Outcome.bind_eq_ok.mp his
    exact Outcome.bind_eq_ok.mpr ⟨fr,hb fr hf,Outcome.bind_eq_ok.mpr ⟨r,ih hr,his⟩⟩

section
variable {α β : Type} (s : Option (List α)) (f : α → β)
include s f

lemma elems_options : Rule.elems (s.map (List.map f)) = (elems s).map f := elems_map s List.map_nil

lemma nonEmpty_options : Rule.nonEmpty (s.map (List.map f)) = nonEmpty s := nonEmpty_map s f

end

variable {c : ItemCompiler} {lib : Library M A} {v : Reading} {ds : List Bytes → List Bytes → String → Bool}
  {ag : List Bytes → String → Bool}

lemma nonEmpty_built (sl : Option (List (Option Prefix))) : nonEmpty (sl.map built) = nonEmpty sl := nonEmpty_map sl _

lemma nonEmpty_builtEntries (sl : Option (List (UInt8 × List (Option Prefix)))) :
    nonEmpty (sl.map builtEntries) = nonEmpty sl := nonEmpty_map sl _

lemma map_built (va : List (Option Prefix)) : (built va).map build = va.map build := List.map_map

lemma map_builtEntries (it : UInt8 → InterfaceType) (es : List (UInt8 × List (Option Prefix))) :
    (builtEntries es).map (fun e => (it e.1,e.2.map build)) = es.map fun e => (it e.1,e.2.map build) := by
  simp [builtEntries,map_built]

lemma isSome_kept {α : Type} (sl : Option (List α)) : (kept sl).isSome = nonEmpty sl := by
  rw [kept]
  split_ifs with h
  · exact h.symm
  · exact (Bool.eq_false_of_not_eq_true h).symm

lemma isSome_of_ite {α : Type} {b : Bool} {x : Option α} {P : α → Prop} {Q : Prop}
    (h : if b = true then (∃ m, x = some m ∧ P m) ∧ Q else x = none ∧ Q) : x.isSome = b ∧ Q := by
  split_ifs at h with hl
  · obtain ⟨⟨m,rfl,-⟩,hn⟩ := h
    exact ⟨hl.symm,hn⟩
  · obtain ⟨rfl,hn⟩ := h
    exact ⟨(Bool.eq_false_of_not_eq_true hl).symm,hn⟩

variable {d sf dm' sx' : Option (List Bytes)} {mt : Option M}

lemma DomainRestored.isSome (h : DomainRestored lib ds false d sf mt dm' sx') :
    mt.isSome = (nonEmpty d || nonEmpty sf) ∧ dm' = none ∧ sx' = none := by
  simp only [DomainRestored,Bool.false_eq_true,if_false] at h
  exact isSome_of_ite h

variable {cd cr' : Option (List Bytes)} {set : Option IPSet}

lemma CIDRRestored.isSome (h : CIDRRestored lib false cd set cr') : set.isSome = nonEmpty cd ∧ cr' = none := by
  simp only [CIDRRestored,Bool.false_eq_true,if_false] at h
  split_ifs at h with hl
  · obtain ⟨s,-,rfl,hn⟩ := h
    exact ⟨hl.symm,hn⟩
  · obtain ⟨rfl,hn⟩ := h
    exact ⟨(Bool.eq_false_of_not_eq_true hl).symm,hn⟩

variable {ls ln' : Option (List Bytes)}

lemma AdGuardRestored.isSome {mt : Option A} (h : AdGuardRestored lib ag false ls mt ln') :
    mt.isSome = nonEmpty ls ∧ ln' = none := by
  simp only [AdGuardRestored,Bool.false_eq_true,if_false] at h
  exact isSome_of_ite h

variable (ar : Agrees c lib v ds ag)
include ar

variable {vl : List Bytes}

lemma mapM_parse {es : List (Prefix ⊕ Addr)} {i : ℕ} (h : parseCIDRs lib vl i = .ok es) :
    (((vl.map v.text).zipIdx i).mapM fun e => match c.parsePrefix e.1, c.parseAddr e.1 with
      | .ok p, _ => .ok (Sum.inl p) | .error _, .ok a => .ok (Sum.inr a)
      | .error er, .error _ => .error (BuildError.cause er ("parse ["++toString e.2++"]")) :
        Except BuildError (List (Prefix ⊕ Addr))) = .ok es := by
  induction vl generalizing i es with
  | nil =>
    obtain rfl := Except.ok.inj h
    rfl
  | cons s vl ih =>
    rw [List.map_cons,List.zipIdx_cons,List.mapM_cons]
    rw [parseCIDRs] at h
    cases hp : lib.parsePrefix s with
    | ok p =>
      rw [hp] at h
      obtain ⟨r,hr,rfl⟩ := Outcome.map_eq_ok.mp h
      rw [ar.parsePrefix s p hp,ih hr]
      rfl
    | error er =>
      obtain ⟨er',he⟩ := ar.parsePrefix_error s er hp
      cases ha : lib.parseAddr s with
      | ok a =>
        rw [hp,ha] at h
        obtain ⟨r,hr,rfl⟩ := Outcome.map_eq_ok.mp h
        rw [he,ar.parseAddr s a ha,ih hr]
        rfl
      | error =>
        rw [hp,ha] at h
        cases h

lemma newIPCIDRItem_eq {set : IPSet} (h : newIPSet lib vl = .ok set) (i : Bool) :
    newIPCIDRItem c i (vl.map v.text) = .ok (.ipCIDR i (lib.contains set)) := by
  obtain ⟨es,he,hs⟩ := Outcome.bind_eq_ok.mp h
  have hl := mapM_parse ar he
  rw [newIPCIDRItem]
  exact Outcome.bind_eq_ok.mpr ⟨es,hl,Outcome.bind_eq_ok.mpr ⟨_,ar.ipSet es set hs,rfl⟩⟩

lemma DomainRestored.grants (h : DomainRestored lib ds false d sf mt dm' sx') : Grants
      (if nonEmpty d || nonEmpty sf then
        tryAppendIf true "" (newDomainItem c ((elems d).map v.text) ((elems sf).map v.text)) else .ok [])
      (appendIf (mt.map lib.matchDomain).isSome (.domain ((mt.map lib.matchDomain).getD fun _ => false))) := by
  intro it his
  simp only [DomainRestored,Bool.false_eq_true,if_false] at h
  split_ifs at h his
  · obtain ⟨⟨m,rfl,hm⟩,-⟩ := h
    rw [newDomainItem] at his
    split_ifs at his
    · cases his
    · cases his
    · obtain rfl := Except.ok.inj his
      rw [ar.newMatcher,← hm]
      rfl
  · obtain ⟨rfl,-⟩ := h
    exact his

lemma CIDRRestored.grants (h : CIDRRestored lib false cd set cr') (fl : String) (i : Bool) : Grants
      (if nonEmpty cd then tryAppendIf true fl (newIPCIDRItem c i ((elems cd).map v.text)) else .ok [])
      (appendIf (set.map lib.contains).isSome (.ipCIDR i ((set.map lib.contains).getD fun _ => false))) := by
  intro it his
  simp only [CIDRRestored,Bool.false_eq_true,if_false] at h
  split_ifs at h his
  · obtain ⟨s,hs,rfl,-⟩ := h
    rwa [newIPCIDRItem_eq ar hs i] at his
  · obtain ⟨rfl,-⟩ := h
    exact his

lemma AdGuardRestored.grants {mt : Option A} (h : AdGuardRestored lib ag false ls mt ln') : Grants
      (if nonEmpty ls then appendIf true (.adGuardDomain (c.newAdGuardMatcher ((elems ls).map v.text))) else .ok [])
      (appendIf (mt.map lib.matchAdGuard).isSome
        (.adGuardDomain ((mt.map lib.matchAdGuard).getD fun _ => false))) := by
  intro it his
  simp only [AdGuardRestored,Bool.false_eq_true,if_false] at h
  split_ifs at h his
  · obtain ⟨⟨m,rfl,hm⟩,-⟩ := h
    rwa [ar.newAdGuardMatcher,← hm] at his
  · obtain ⟨rfl,-⟩ := h
    exact his

variable {r rl' : DefaultHeadlessRule M A} (hsr : r.IsSource) (h : Restored lib ds ag false r rl')
include hsr h

lemma Restored.grants :
    List.Forall₂ Grants (headlessBlocks c (r.options lib v)) (headlessBlocks c (rl'.options lib v)) := by
  obtain ⟨hm,hst,hs',ha⟩ := hsr
  obtain ⟨-,hd,hs⟩ := h.domain.isSome
  have hn : Rule.nonEmpty (none : Option (List String)) = false := rfl
  have hb := fun slice : Option (List (Option Prefix)) => elems_map slice (f := built) rfl
  have he := fun slice : Option (List (UInt8 × List (Option Prefix))) => elems_map slice (f := builtEntries) rfl
  rw [h.plain]
  unfold headlessBlocks
  simp only [DefaultHeadlessRule.options,DefaultHeadlessRule.plain,elems_options,nonEmpty_options,elems_kept,nonEmpty_kept,
    hb,he,nonEmpty_built,nonEmpty_builtEntries,map_built,map_builtEntries,hm,hst,hs',ha,
    hd,hs,h.source.isSome.2,h.destination.isSome.2,h.adGuard.isSome.2,Option.map_none,hn]
  refine .cons (.refl _) (.cons (.refl _) (.cons (h.domain.grants ar) ?_))
  refine .cons (.refl _) (.cons (.refl _) (.cons (h.source.grants ar _ _) (.cons (h.destination.grants ar _ _) ?_)))
  iterate 16 refine .cons (.refl _) ?_
  exact .cons (h.adGuard.grants ar) .nil

lemma newDefaultHeadlessRule_of_restored {b : AbstractDefaultRule Rule.HeadlessRule}
    (hb : newDefaultHeadlessRule c (r.options lib v) = .ok b) :
    newDefaultHeadlessRule c (rl'.options lib v) = .ok b := by
  have hin : (rl'.options lib v).invert = (r.options lib v).invert := congrArg (·.invert) h.plain
  rw [newDefaultHeadlessRule] at hb ⊢
  obtain ⟨it,his,hb⟩ := Outcome.bind_eq_ok.mp hb
  rw [hin]
  exact Outcome.bind_eq_ok.mpr ⟨it,mapM_of_grants (h.grants ar hsr) his,hb⟩

end

section
variable {c : ItemCompiler} {lib : Library M A} {v : Reading} {ds : List Bytes → List Bytes → String → Bool}
  {ag : List Bytes → String → Bool}

lemma Restored.isValid {ru ru' : DefaultHeadlessRule M A} (h : Restored lib ds ag false ru ru') :
    (ru'.options lib v).isValid = ru.hasConditions := by
  obtain ⟨hm,hd,hs⟩ := h.domain.isSome
  obtain ⟨hst,hc⟩ := h.source.isSome
  obtain ⟨hs',hc'⟩ := h.destination.isSome
  obtain ⟨hag,hl⟩ := h.adGuard.isSome
  rw [h.plain]
  simp only [DefaultHeadlessOptions.isValid,DefaultHeadlessRule.options,DefaultHeadlessRule.plain,Option.isSome_map,
    isSome_kept,hm,hd,hs,hst,hc,hs',hc',hag,hl,nonEmpty_built,nonEmpty_builtEntries,
    Option.isSome_none,Bool.or_false,DefaultHeadlessRule.hasConditions]

mutual

lemma isValid_options : ∀ ru ru' : HeadlessRule M A,
    TreeRel (Restored lib ds ag false) ru ru' → (ru'.options lib v).isValid = ru.hasConditions
  | .default _, _, ⟨_,ht,hr⟩ => by
    subst ht
    rw [HeadlessRule.options,HeadlessOptions.isValid,HeadlessRule.hasConditions]
    exact hr.isValid
  | .logical mode rules invert, _, ⟨rules',ht,hrl⟩ => by
    subst ht
    obtain ⟨he,ha⟩ := allValid_allOptions rules rules' hrl
    rw [HeadlessRule.options,HeadlessOptions.isValid,HeadlessRule.hasConditions,he,ha]
  | .other type, _, ht => by
    subst ht
    rfl

lemma allValid_allOptions : ∀ rs rs' : List (HeadlessRule M A), TreesRel (Restored lib ds ag false) rs rs' →
      (allOptions lib v rs').isEmpty = rs.isEmpty ∧ allValid (allOptions lib v rs') = allConditions rs
  | [], _, ht => by
    subst ht
    exact ⟨rfl,rfl⟩
  | rule::rs, _, ⟨tree,trees,ht,hrl,hr⟩ => by
    subst ht
    refine ⟨rfl,?_⟩
    rw [allOptions,allValid,allConditions,isValid_options rule tree hrl,(allValid_allOptions rs trees hr).2]

end

mutual

lemma newHeadlessRule_of_restored (a : Agrees c lib v ds ag) : ∀ (ru ru' : HeadlessRule M A) (b : Rule.HeadlessRule),
      TreeRel (Restored lib ds ag false) ru ru' → ru.IsSource → ru.hasConditions = true →
        newHeadlessRule c (ru.options lib v) = .ok b → newHeadlessRule c (ru'.options lib v) = .ok b
  | .default ru, tree, b, hre, hsource, hc, hb => by
    have hv := isValid_options (v := v) _ _ hre
    obtain ⟨ru',ht,hr⟩ := hre
    subst ht
    rw [HeadlessRule.options] at hb hv ⊢
    rw [newHeadlessRule] at hb ⊢
    rw [hv,hc]
    split_ifs at hb
    obtain ⟨i,hin,rfl⟩ := Outcome.map_eq_ok.mp hb
    exact Outcome.map_eq_ok.mpr ⟨i,newDefaultHeadlessRule_of_restored a hsource hr hin,rfl⟩
  | .logical m rs invert, tree, b, hre, hsource, hc, hb => by
    have hv := isValid_options (v := v) _ _ hre
    obtain ⟨rs',ht,hrl⟩ := hre
    subst ht
    rw [HeadlessRule.options] at hb hv ⊢
    rw [newHeadlessRule] at hb ⊢
    rw [hv,hc]
    split_ifs at hb
    rw [HeadlessRule.hasConditions,Bool.and_eq_true] at hc
    obtain ⟨m',hm,hb⟩ := Outcome.bind_eq_ok.mp hb
    obtain ⟨sr,hs,hb⟩ := Outcome.bind_eq_ok.mp hb
    exact Outcome.bind_eq_ok.mpr ⟨m',hm,Outcome.bind_eq_ok.mpr
      ⟨sr,newSubRules_of_restored a rs rs' 0 sr hrl hsource hc.2 hs,hb⟩⟩
  | .other _, _, _, _, _, hc, _ => by cases hc

lemma newSubRules_of_restored (a : Agrees c lib v ds ag) :
    ∀ (rs rs' : List (HeadlessRule M A)) (i : ℕ) (b : List Rule.HeadlessRule),
      TreesRel (Restored lib ds ag false) rs rs' → AllSource rs → allConditions rs = true →
        newSubRules c (allOptions lib v rs) i = .ok b → newSubRules c (allOptions lib v rs') i = .ok b
  | [], _, _, _, ht, _, _, hb => by
    subst ht
    exact hb
  | rule::rs, _, i, b, ⟨tree,trees,ht,hrl,hr⟩, hsource, hc, hb => by
    subst ht
    rw [allConditions,Bool.and_eq_true] at hc
    rw [allOptions,newSubRules] at hb ⊢
    cases hf : newHeadlessRule c (rule.options lib v) with
    | error =>
      rw [hf] at hb
      cases hb
    | ok fr =>
      rw [hf] at hb
      obtain ⟨r,hrs,rfl⟩ := Outcome.map_eq_ok.mp hb
      rw [newHeadlessRule_of_restored a rule tree fr hrl hsource.1 hc.1 hf]
      exact Outcome.map_eq_ok.mpr
        ⟨r,newSubRules_of_restored a rs trees (i+1) r hr hsource.2 hc.2 hrs,rfl⟩

end

lemma newHeadlessRule_of_not_isValid {o : HeadlessOptions} (h : o.isValid = false) :
    newHeadlessRule c o = .error (.new "missing conditions") := by
  cases o with
  | default typed options | logical mode rules invert => rw [newHeadlessRule,h]; rfl

lemma buildAll_of_restored (a : Agrees c lib v ds ag) (p : ℕ → String)
    {rs rs' : List (HeadlessRule M A)} {i : ℕ} {b : List Rule.HeadlessRule}
    (hre : TreesRel (Restored lib ds ag false) rs rs') (hs : AllSource rs)
    (hb : buildAll (newHeadlessRule c) p (allOptions lib v rs) i = .ok b)
    (b' : List Rule.HeadlessRule) : buildAll (newHeadlessRule c) p (allOptions lib v rs') i = .ok b' ↔
      allConditions rs = true ∧ b' = b := by
  induction rs generalizing rs' i b b' with
  | nil =>
    subst hre
    constructor
    · intro h
      exact ⟨rfl,Except.ok.inj (h.symm.trans hb)⟩
    · rintro ⟨-,rfl⟩
      exact hb
  | cons ru rs ih =>
    obtain ⟨t,ts,rfl,hrl,hr⟩ := hre
    rw [allOptions,buildAll] at hb ⊢
    cases hf : newHeadlessRule c (ru.options lib v) with
    | error =>
      rw [hf] at hb
      cases hb
    | ok fr =>
      rw [hf] at hb
      obtain ⟨r,hrs,rfl⟩ := Outcome.map_eq_ok.mp hb
      rw [allConditions]
      cases hc : ru.hasConditions with
      | false =>
        have hv := isValid_options (v := v) ru t hrl
        rw [newHeadlessRule_of_not_isValid (hv.trans hc)]
        simp
      | true =>
        rw [newHeadlessRule_of_restored a ru t fr hrl hs.1 hc hf,Bool.true_and]
        constructor
        · intro h
          obtain ⟨r',hr',rfl⟩ := Outcome.map_eq_ok.mp h
          obtain ⟨ha,rfl⟩ := (ih hr hs.2 hrs r').mp hr'
          exact ⟨ha,rfl⟩
        · rintro ⟨ha,rfl⟩
          exact Outcome.map_eq_ok.mpr ⟨r,(ih hr hs.2 hrs r).mpr ⟨ha,rfl⟩,rfl⟩

end

lemma matchRuleSets_metadata (m : ItemMatcher) (t : String) (rs : List Rule.HeadlessRule)
    (sm sm' : RuleSetMetadata) (b a : List (RuleSet Rule.HeadlessRule))
    (ms ae : Bool) (mt : InboundContext) (bs : RuleMatchState) (ss : RuleMatchStateSet) :
    matchRuleSets m (b++⟨t,rs,sm⟩::a) ms ae mt bs ss = matchRuleSets m (b++⟨t,rs,sm'⟩::a) ms ae mt bs ss := by
  induction b generalizing ss with
  | nil => rfl
  | cons set b ih =>
    rw [List.cons_append,List.cons_append,matchRuleSets,matchRuleSets]
    exact ih _

def asciiText (bytes : Bytes) : String := String.ofList (bytes.map fun b => Char.ofNat b.toNat)

lemma ascii_asciiText (bs : Bytes) : ascii (asciiText bs) = bs := by
  have hb : ∀ b : UInt8, UInt8.ofNat (Char.ofNat b.toNat).toNat = b := by
    intro b
    have hv : b.toNat.isValidChar := .inl (b.toNat_lt.trans (by decide))
    have hc : (Char.ofNat b.toNat).toNat = b.toNat := by
      rw [Char.ofNat,dif_pos hv]
      rfl
    rw [hc,UInt8.ofNat_toNat]
  rw [ascii,asciiText,String.toList_ofList,List.map_map]
  exact (List.map_congr_left fun b _ => hb b).trans (List.map_id bs)

def asciiReading : Reading := ⟨asciiText,fun _ => .unset,fun _ => .other⟩

def listCompiler : ItemCompiler where
  newMatcher domains suffixes := listedDomain (domains.map ascii) (suffixes.map ascii)
  newAdGuardMatcher lines := listedLine (lines.map ascii)
  compileRegexp _ := .error (.new "no expression")
  parsePrefix _ := .error (.new "no prefix")
  parseAddr string := match listLibrary.parseAddr (ascii string) with
    | .ok addr => .ok addr
    | .error _ => .error (.new "no address")
  ipSet entries := match rangesOf entries with
    | .ok set => .ok (listLibrary.contains set)
    | .error _ => .error (.new "no address")
  hasNetworkManager := true

lemma map_ascii (l : List Bytes) : (l.map asciiText).map ascii = l := by
  rw [List.map_map]
  exact (List.map_congr_left fun b _ => ascii_asciiText b).trans (List.map_id l)

lemma listCompiler_agrees : Agrees listCompiler listLibrary asciiReading listedDomain listedLine where
  newMatcher domains suffixes := by
    change listedDomain ((domains.map asciiText).map ascii) ((suffixes.map asciiText).map ascii) = _
    rw [map_ascii,map_ascii]
  newAdGuardMatcher lines := by
    change listedLine ((lines.map asciiText).map ascii) = _
    rw [map_ascii]
  parsePrefix string pfx h := by cases h
  parsePrefix_error string err h := ⟨_,rfl⟩
  parseAddr string a h := by
    change (match listLibrary.parseAddr (ascii (asciiText string)) with
      | .ok a => Except.ok a
      | .error _ => .error (BuildError.new "no address")) = _
    rw [ascii_asciiText,h]
  ipSet entries set h := by
    change (match rangesOf entries with
      | .ok set => Except.ok (listLibrary.contains set)
      | .error _ => .error (BuildError.new "no address")) = _
    have hs : rangesOf entries = .ok set := h
    rw [hs]

lemma nestedRules_source : AllSource nestedRules := ⟨⟨⟨rfl,rfl,rfl,rfl⟩,⟨rfl,rfl,rfl,rfl⟩,trivial⟩,trivial⟩

end SingBox.SRS
