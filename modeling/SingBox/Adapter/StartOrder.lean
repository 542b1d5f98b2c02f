import SingBox.Adapter.InboundContext
import SingBox.Library.Dependency

/-! Starting the members of a registry in the order of their dependencies: the loop that
`Manager.startOutbounds` (`adapter/outbound/manager.go`) and `TransportManager.startTransports`
(`dns/transport_manager.go`) share, with the search for the error to report. -/
namespace SingBox.Adapter
open List

inductive StartStage
  | stateInitialize
  | stateStart
  | statePostStart
  | stateStarted
  deriving DecidableEq

namespace StartStage

def toNat : StartStage → ℕ
  | stateInitialize => 0
  | stateStart => 1
  | statePostStart => 2
  | stateStarted => 3

def toString : StartStage → String
  | stateInitialize => "initialize"
  | stateStart => "start"
  | statePostStart => "post-start"
  | stateStarted => "finish-start"

end StartStage

def listStartStages : List StartStage := [.stateInitialize,.stateStart,.statePostStart,.stateStarted]

/-- The ways an instance is started: it is a `Lifecycle`, or it has some of the three old methods. The
values are what the calls return. -/
inductive Starter
  | lifecycle (start : StartStage → Option GoError)
  | legacy (preStart start postStart : Option (Option GoError))

def legacyStart : Starter → StartStage → Option GoError
  | .lifecycle start, stage => start stage
  | .legacy preStart _ _, .stateInitialize => preStart.join
  | .legacy _ start _, .stateStart => start.join
  | .legacy _ _ postStart, .stateStarted => postStart.join
  | .legacy _ _ _, .statePostStart => none

/-- An outbound, an endpoint or a DNS transport. Instances are compared by `id`, as pointers are. -/
structure Member where
  id : ℕ
  tag : String
  type : String := ""
  dependencies : List String := []
  starter : Starter := .legacy none none none

inductive CallResult
  | ok
  | failed (err : GoError)
  | panicked (message : String)
  deriving DecidableEq

/-- What differs between the managers: the start of a member, its name and the word for it in errors. -/
structure MemberKind where
  start : Member → Option GoError
  name : Member → String
  noun : String

/-- `started[tag]`. -/
def isStarted (started : List Member) (tag : String) : Bool := decide (tag ∈ started.map Member.tag)

/-- One pass over the members: who has started, in order, whether one was started in this pass, and the
error that ended it. -/
def startPass (kind : MemberKind) : List Member → List Member → Bool → List Member × Bool × Option GoError
  | [], started, canContinue => (started,canContinue,none)
  | m :: rest, started, canContinue =>
    if isStarted started m.tag then startPass kind rest started canContinue
    else if m.dependencies.all (isStarted started) then
      match kind.start m with
      | none => startPass kind rest (started++[m]) true
      | some err => (started++[m],true,some (err.cause ("start "++kind.name m)))
    else startPass kind rest started canContinue

def lintMember (kind : MemberKind) (byTag : String → Option Member) (started : List Member) :
    ℕ → List String → Member → Option GoError
  | 0, _, _ => none
  | fuel+1, oTree, oCurrent =>
    let problemTag := (oCurrent.dependencies.find? fun it => !isStarted started it).getD ""
    if oTree.contains problemTag then
      some ⟨"circular "++kind.noun++" dependency: "++" -> ".intercalate oTree++" -> "++problemTag,false,false⟩
    else match byTag problemTag with
      | none =>
        some ⟨"dependency["++problemTag++"] not found for "++kind.noun++"["++oCurrent.tag++"]",false,false⟩
      | some problem => lintMember kind byTag started fuel (oTree++[problemTag]) problem

def lintFirst (kind : MemberKind) (byTag : String → Option Member) (members started : List Member) (fuel : ℕ) :
    Option CallResult :=
  match members.find? fun it => !isStarted started it.tag with
  | none => some (.panicked "invalid memory address or nil pointer dereference")
  | some current => (lintMember kind byTag started fuel [current.tag] current).map .failed

def startPasses (kind : MemberKind) (byTag : String → Option Member) (members : List Member) (lintFuel : ℕ) :
    ℕ → List Member → Option (List Member × CallResult)
  | 0, _ => none
  | fuel+1, started =>
    match startPass kind members started false with
    | (started,_,some err) => some (started,.failed err)
    | (started,canContinue,none) =>
      if started.length = members.length then some (started,.ok)
      else if canContinue then startPasses kind byTag members lintFuel fuel started
      else (lintFirst kind byTag members started lintFuel).map fun result => (started,result)

def startMembers (kind : MemberKind) (byTag : String → Option Member) (members : List Member) (fuel : ℕ) :
    Option (List Member × CallResult) :=
  startPasses kind byTag members fuel fuel []

open Dependency

/-- The members whose start has been called so far: each one once, and after all it depends on. -/
structure Progress (members started : List Member) : Prop where
  subset : started ⊆ members
  nodup : (started.map Member.tag).Nodup
  ordered : Ordered Member.tag Member.dependencies started

structure StartsInOrder (kind : MemberKind) (members started : List Member) (result : CallResult) : Prop
    extends Progress members started where
  succeeds_iff : result = .ok ↔ Closed Member.tag Member.dependencies members ∧
    Acyclic Member.tag Member.dependencies members ∧ ∀ m ∈ members, kind.start m = none
  all_started : result = .ok → started.Perm members
  before_succeeded : ∀ before m after, started = before++m::after → ∀ n ∈ before, kind.start n = none

variable {kind : MemberKind} {bt : String → Option Member} {members started : List Member}

lemma isStarted_iff {tag : String} : isStarted started tag = true ↔ tag ∈ started.map Member.tag := by
  simp only [isStarted,decide_eq_true_eq]

lemma Progress.nil (members : List Member) : Progress members [] := ⟨nil_subset members,nodup_nil,.nil⟩

variable {m : Member} {canContinue' : Bool} {rest started' : List Member} {fl : ℕ}

section
variable (h : Progress members started)
include h

lemma Progress.snoc (hm : m ∈ members)
    (hn : isStarted started m.tag = false) (hr : m.dependencies.all (isStarted started) = true) :
    Progress members (started++[m]) where
  subset := append_subset.mpr ⟨h.subset,by simpa using hm⟩
  nodup := by
    rw [map_append,map_singleton,← concat_eq_append]
    exact h.nodup.concat (of_decide_eq_false hn)
  ordered := h.ordered.snoc fun d hd => isStarted_iff.mp (all_eq_true.mp hr d hd)

lemma Progress.length_le : started.length ≤ members.length :=
  (subperm_of_subset (h.nodup.of_map _) h.subset).length_le

lemma Progress.perm (hl : started.length = members.length) : started.Perm members :=
  (subperm_of_subset (h.nodup.of_map _) h.subset).perm_of_length_le hl.ge

end

/-- A pass that ends without an error: all starts so far went well, and if nobody was started in it, then
everyone who is left waits for somebody. -/
structure PassEnd (kind : MemberKind) (members rest started started' : List Member)
    (canContinue canContinue' : Bool) : Prop where
  progress : Progress members started'
  succeeded : ∀ m ∈ started', kind.start m = none
  length_le : started.length ≤ started'.length
  grows : canContinue' = true → canContinue = true ∨ started.length < started'.length
  stuck : canContinue' = false → started' = started ∧
    ∀ m ∈ rest, isStarted started m.tag = true ∨ ∃ d ∈ m.dependencies, isStarted started d = false

/-- A pass that ends with the error of the member it started last. -/
structure PassFailure (kind : MemberKind) (members started' : List Member) : Prop where
  progress : Progress members started'
  last : ∃ before m, started' = before++[m] ∧ m ∈ members ∧ kind.start m ≠ none ∧ ∀ n ∈ before, kind.start n = none

variable {cc : Bool}

lemma PassEnd.skip (h : PassEnd kind members rest started started' cc canContinue')
    (hm : isStarted started m.tag = true ∨ ∃ d ∈ m.dependencies, isStarted started d = false) :
    PassEnd kind members (m::rest) started started' cc canContinue' := by
  refine ⟨h.progress,h.succeeded,h.length_le,h.grows,fun hs => ⟨(h.stuck hs).1,?_⟩⟩
  intro n hn
  rcases mem_cons.mp hn with rfl | hn
  · exact hm
  · exact (h.stuck hs).2 n hn

lemma PassEnd.start
    (h : PassEnd kind members rest (started++[m]) started' true canContinue') (ht : canContinue' = true) :
    PassEnd kind members (m::rest) started started' cc canContinue' := by
  have hl := h.length_le
  rw [length_append,length_singleton] at hl
  refine ⟨h.progress,h.succeeded,by omega,fun _ => .inr (by omega),fun hf => ?_⟩
  exact absurd (ht.symm.trans hf) (by decide)

lemma startPass_canContinue (kind : MemberKind) (rest started : List Member) :
    (startPass kind rest started true).2.1 = true := by
  induction rest generalizing started with
  | nil => rfl
  | cons m rest ih =>
    rw [startPass]
    split_ifs
    · exact ih started
    · cases kind.start m with
      | none => exact ih (started++[m])
      | some => rfl
    · exact ih started

lemma startPass_spec (hrs : rest ⊆ members) (h : Progress members started)
    (hs : ∀ m ∈ started, kind.start m = none) (cc : Bool) :
    match startPass kind rest started cc with
    | (started',canContinue',none) => PassEnd kind members rest started started' cc canContinue'
    | (started',_,some _) => PassFailure kind members started' := by
  induction rest generalizing started cc with
  | nil =>
    exact ⟨h,hs,le_rfl,fun hc => .inl hc,fun _ => ⟨rfl,by simp⟩⟩
  | cons m rest ih =>
    obtain ⟨hm,hrs⟩ := cons_subset.mp hrs
    rw [startPass]
    split_ifs with hst hr
    · have hps := ih hrs h hs cc
      revert hps
      rcases startPass kind rest started cc with ⟨started',canContinue',_ | e⟩
      · exact fun hps => hps.skip (.inl hst)
      · exact id
    · have hnw : isStarted started m.tag = false := by simpa using hst
      have hp := h.snoc hm hnw hr
      cases hsta : kind.start m with
      | none =>
        have hs' : ∀ n ∈ started++[m], kind.start n = none := by
          intro n hn
          rcases mem_append.mp hn with hn | hn
          · exact hs n hn
          · rw [mem_singleton.mp hn,hsta]
        have hps := ih hrs hp hs' true
        have ht := startPass_canContinue kind rest (started++[m])
        revert hps ht
        rcases startPass kind rest (started++[m]) true with ⟨started',canContinue',_ | e⟩
        · exact fun hps ht => hps.start ht
        · exact fun hps _ => hps
      | some =>
        exact ⟨hp,started,m,rfl,hm,by simp [hsta],hs⟩
    · have hw : ∃ d ∈ m.dependencies, isStarted started d = false := by simpa using hr
      have hps := ih hrs h hs cc
      revert hps
      rcases startPass kind rest started cc with ⟨started',canContinue',_ | e⟩
      · exact fun hps => hps.skip (.inr hw)
      · exact id

/-- Everyone who is left waits for somebody who is left or unknown. -/
def Stuck (members started : List Member) : Prop :=
  ∀ m ∈ members, isStarted started m.tag = true ∨ ∃ d ∈ m.dependencies, isStarted started d = false

/-- The dependency that the search for the error goes on with. -/
lemma Stuck.exists_problem (h : Stuck members started) (hm : m ∈ members) (hl : isStarted started m.tag = false) :
    ∃ problemTag ∈ m.dependencies, m.dependencies.find? (fun it => !isStarted started it) = some problemTag ∧
      isStarted started problemTag = false := by
  obtain ⟨problemTag,hp⟩ : ∃ problemTag,
      m.dependencies.find? (fun it => !isStarted started it) = some problemTag := by
    rw [← Option.isSome_iff_exists,find?_isSome]
    simpa [hl] using h m hm
  exact ⟨problemTag,mem_of_find?_eq_some hp,hp,by simpa using find?_some hp⟩

lemma exists_current (h : ∃ m ∈ members, isStarted started m.tag = false) :
    ∃ c ∈ members, members.find? (fun it => !isStarted started it.tag) = some c ∧ isStarted started c.tag = false := by
  obtain ⟨c,hf⟩ : ∃ c, members.find? (fun it => !isStarted started it.tag) = some c := by
    rw [← Option.isSome_iff_exists,find?_isSome]
    simpa using h
  exact ⟨c,mem_of_find?_eq_some hf,hf,by simpa using find?_some hf⟩

lemma lintMember_ends (kind : MemberKind) (hb : ∀ t m, bt t = some m → m ∈ members ∧ m.tag = t)
    (hs : Stuck members started) {ot : List String} {oc : Member}
    (hcr : oc ∈ members) (hlf : isStarted started oc.tag = false) (hn : ot.Nodup)
    (ht : ot ⊆ members.map Member.tag) (hfl : members.length < fl+ot.length) :
    ∃ e, lintMember kind bt started fl ot oc = some e := by
  induction fl generalizing ot oc with
  | zero =>
    have hl := (subperm_of_subset hn ht).length_le
    rw [length_map] at hl
    omega
  | succ fl ih =>
    obtain ⟨pt,_,hp,hpl⟩ := hs.exists_problem hcr hlf
    rw [lintMember,hp,Option.getD_some]
    split_ifs with hc
    · exact ⟨_,rfl⟩
    · cases hf : bt pt with
      | none => exact ⟨_,rfl⟩
      | some p =>
        obtain ⟨hm,htg⟩ := hb pt p hf
        have hnw : pt ∉ ot := by simpa using hc
        have hmm : pt ∈ members.map Member.tag := htg ▸ mem_map_of_mem hm
        refine ih hm (htg ▸ hpl) ?_ (append_subset.mpr ⟨ht,by simpa using hmm⟩) ?_
        · rw [← concat_eq_append]
          exact hn.concat hnw
        · rw [length_append,length_singleton]
          omega

lemma Progress.exists_left (h : Progress members started) (hds : (members.map Member.tag).Nodup)
    (hl : started.length ≠ members.length) : ∃ m ∈ members, isStarted started m.tag = false := by
  by_contra hn
  push Not at hn
  have hs : members.map Member.tag ⊆ started.map Member.tag := by
    intro t ht
    obtain ⟨m,hm,rfl⟩ := mem_map.mp ht
    exact isStarted_iff.mp (by simpa using hn m hm)
  have hle := (subperm_of_subset hds hs).length_le
  rw [length_map,length_map] at hle
  have := h.length_le
  omega

lemma StartsInOrder.of_ok (h : Progress members started) (hs : ∀ m ∈ started, kind.start m = none)
    (hl : started.length = members.length) : StartsInOrder kind members started .ok := by
  have hp := h.perm hl
  have ha : members ⊆ started := hp.symm.subset
  refine ⟨h,⟨fun _ => ⟨?_,?_,?_⟩,fun _ => rfl⟩,fun _ => hp,?_⟩
  · intro m hm d hd
    exact map_subset _ h.subset (h.ordered.closed m (ha hm) d hd)
  · exact (h.ordered.acyclic h.nodup).of_subset ha
  · exact fun m hm => hs m (ha hm)
  · rintro b m a rfl n hn
    exact hs n (mem_append_left _ hn)

lemma StartsInOrder.of_failed (h : Progress members started) {e : GoError}
    (hb : ∀ b m a, started = b++m::a → ∀ n ∈ b, kind.start n = none)
    (hc : ¬(Closed Member.tag Member.dependencies members ∧
      Acyclic Member.tag Member.dependencies members ∧ ∀ m ∈ members, kind.start m = none)) :
    StartsInOrder kind members started (.failed e) where
  toProgress := h
  succeeds_iff := ⟨(nomatch ·),fun hcn => absurd hcn hc⟩
  all_started := (nomatch ·)
  before_succeeded := hb

lemma PassFailure.startsInOrder (h : PassFailure kind members started') (e : GoError) :
    StartsInOrder kind members started' (.failed e) := by
  obtain ⟨f,l,rfl,hl,hfl,hf⟩ := h.last
  refine .of_failed h.progress ?_ fun hc => hfl (hc.2.2 l hl)
  intro b m a hs n hn
  rcases eq_nil_or_concat a with rfl | ⟨rest,x,rfl⟩
  · obtain ⟨rfl,-⟩ := append_inj' hs rfl
    exact hf n hn
  · rw [concat_eq_append,← cons_append,← append_assoc] at hs
    obtain ⟨rfl,-⟩ := append_inj' hs rfl
    exact hf n (mem_append_left _ hn)

lemma Stuck.startsInOrder (hsk : Stuck members started) (h : Progress members started)
    (hs : ∀ m ∈ started, kind.start m = none) (hl : ∃ m ∈ members, isStarted started m.tag = false) (e : GoError) :
    StartsInOrder kind members started (.failed e) := by
  refine .of_failed h ?_ ?_
  · rintro b m a rfl n hn
    exact hs n (mem_append_left _ hn)
  · rintro ⟨hc,ha,-⟩
    have hl' : ∃ m ∈ members, ¬isStarted started m.tag = true := by simpa using hl
    obtain ⟨m,hm,hnw,hr⟩ := exists_ready (fun t => isStarted started t = true) hc ha hl'
    rcases hsk m hm with hst | ⟨d,hd,hw⟩
    · exact hnw hst
    · exact absurd ((hr d hd).symm.trans hw) (by decide)

variable (hd : (members.map Member.tag).Nodup) (hbt : ∀ t m, bt t = some m → m ∈ members ∧ m.tag = t)
include hd hbt

lemma startPasses_spec {lf : ℕ} (hln : members.length < lf) (h : Progress members started)
    (hs : ∀ m ∈ started, kind.start m = none) (hfl : members.length < fl+started.length) :
    ∃ started' r, startPasses kind bt members lf fl started = some (started',r) ∧
      StartsInOrder kind members started' r := by
  induction fl generalizing started with
  | zero =>
    have := h.length_le
    omega
  | succ fl ih =>
    rw [startPasses]
    have hp := startPass_spec (List.Subset.refl members) h hs false
    revert hp
    rcases startPass kind members started false with ⟨started',cc,_ | e⟩
    · intro hp
      dsimp only at hp ⊢
      split_ifs with hl hc
      · exact ⟨started',.ok,rfl,.of_ok hp.progress hp.succeeded hl⟩
      · have hg := (hp.grows hc).resolve_left (by decide)
        exact ih hp.progress hp.succeeded (by omega)
      · obtain ⟨rfl,hst⟩ := hp.stuck (by simpa using hc)
        have hlf := hp.progress.exists_left hd hl
        obtain ⟨c,hcr,hfn,hcl⟩ := exists_current hlf
        obtain ⟨e,he⟩ := lintMember_ends kind hbt hst hcr hcl
          (nodup_singleton c.tag) (by simpa using mem_map_of_mem hcr)
          (by rw [length_singleton]; exact Nat.lt_succ_of_lt hln)
        rw [lintFirst,hfn]
        dsimp only
        rw [he,Option.map_some,Option.map_some]
        exact ⟨started',.failed e,rfl,Stuck.startsInOrder hst hp.progress hp.succeeded hlf e⟩
    · intro hf
      exact ⟨started',.failed e,rfl,hf.startsInOrder e⟩

lemma startMembers_spec (hf : members.length < fl) :
    ∃ started r, startMembers kind bt members fl = some (started,r) ∧ StartsInOrder kind members started r :=
  startPasses_spec hd hbt hf (.nil members) (by simp) hf

end SingBox.Adapter
