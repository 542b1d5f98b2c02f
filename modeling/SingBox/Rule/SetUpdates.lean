import SingBox.Common.Binary
import SingBox.Library.Outcome
import SingBox.Library.Run
import SingBox.Rule.Headless

/-! Reloads of local and remote rule-sets (`rule_set_local.go`, `rule_set_remote.go`), and the ETag with which a remote
set asks for its content. -/
namespace SingBox.Rule

section

/-- A set with its listeners, and the calls that were made to them. -/
structure SetState where
  set : RuleSet HeadlessRule
  callbacks : List ℕ := []
  calls : List (ℕ × RuleSet HeadlessRule) := []
  refs : ℕ := 0

structure PlainRuleSetCompat where
  version : ℕ
  rules : List HeadlessOptions

def PlainRuleSetCompat.upgrade (r : PlainRuleSetCompat) : Except BuildError (List HeadlessOptions) :=
  if 1 ≤ r.version ∧ r.version ≤ 5 then .ok r.rules
  else .error (.new ("unknown rule-set version: "++toString r.version))

structure Decoders where
  unmarshal : Bytes → Except BuildError PlainRuleSetCompat
  srsRead : Bytes → Except BuildError PlainRuleSetCompat

variable (c : ItemCompiler) (d : Decoders) (format : String)

/-- A validator may answer otherwise at every reload. -/
abbrev Validator := String → RuleSetMetadata → Option BuildError

/-- `reloadRules` of a local set, and the second half of `loadBytes`: what is built is committed at once, and the
listeners are called. -/
def SetState.commitRules (s : SetState) (validate : Validator) (headlessRules : List HeadlessOptions) :
    SetState × Option BuildError :=
  match reloadRules c validate s.set headlessRules with
  | .error err => (s,some err)
  | .ok set => ({ s with set := set, calls := s.calls++s.callbacks.map fun callback => (callback,set) },none)

def decodeFile (read : Except BuildError Bytes) : Except BuildError (List HeadlessOptions) :=
  if format = "source" ∨ format = "" then do (← d.unmarshal (← read)).upgrade
  else if format = "binary" then do (← d.srsRead (← read)).upgrade
  else .error (.new ("unknown rule-set format: "++format))

def decodeBytes (content : Bytes) : Except BuildError (List HeadlessOptions) :=
  if format = "source" then do (← d.unmarshal content).upgrade
  else if format = "binary" then do (← d.srsRead content).upgrade
  else .error (.new ("unknown rule-set format: "++format))

def SetState.reload (s : SetState) (validate : Validator) (decoded : Except BuildError (List HeadlessOptions)) :
    SetState × Option BuildError :=
  match decoded with
  | .error err => (s,some err)
  | .ok headlessRules => s.commitRules c validate headlessRules

def SetState.reloadFile (s : SetState) (validate : Validator) (read : Except BuildError Bytes) :
    SetState × Option BuildError :=
  s.reload c validate (decodeFile d format read)

def SetState.loadBytes (s : SetState) (validate : Validator) (content : Bytes) : SetState × Option BuildError :=
  s.reload c validate (decodeBytes d format content)

inductive SetEvent
  | reloadRules (validate : Validator) (headlessRules : List HeadlessOptions)
  | reloadFile (validate : Validator) (read : Except BuildError Bytes)
  | loadBytes (validate : Validator) (content : Bytes)
  | registerCallback (callback : ℕ)
  | unregisterCallback (callback : ℕ)
  | incRef
  | decRef
  | cleanup

def SetState.call (s : SetState) : SetEvent → SetState × Option BuildError
  | .reloadRules validate headlessRules => s.reload c validate (.ok headlessRules)
  | .reloadFile validate read => s.reloadFile c d format validate read
  | .loadBytes validate content => s.loadBytes c d format validate content
  | .registerCallback callback => ({ s with callbacks := s.callbacks++[callback] },none)
  | .unregisterCallback callback => ({ s with callbacks := s.callbacks.erase callback },none)
  | .incRef => ({ s with refs := s.refs+1 },none)
  | .decRef => ({ s with refs := s.refs-1 },none)
  | .cleanup => (if s.refs = 0 then { s with set := { s.set with rules := [] } } else s,none)

def SetEvent.decoded : SetEvent → Option (Except BuildError (List HeadlessOptions))
  | .reloadRules _ headlessRules => some (.ok headlessRules)
  | .reloadFile _ read => some (decodeFile d format read)
  | .loadBytes _ content => some (decodeBytes d format content)
  | _ => none

def SetEvent.validate : SetEvent → Validator
  | .reloadRules validate _ => validate
  | .reloadFile validate _ => validate
  | .loadBytes validate _ => validate
  | _ => fun _ _ => none

/-- A reload that fails leaves the state; after any other the rules are those that were decoded, the metadata is computed
from the same, and each listener was called once with both. What is decoded, built and accepted does not fail. -/
structure ReloadRight (s : SetState) (event : SetEvent) (decoded : Except BuildError (List HeadlessOptions)) : Prop where
  failed : (s.call c d format event).2 ≠ none → (s.call c d format event).1 = s
  decodes : ∀ err, decoded = .error err → (s.call c d format event).2 = some err
  succeeded : (s.call c d format event).2 = none → ∃ headlessRules set,
    decoded = .ok headlessRules ∧ newSetRules c (headlessRules.map HeadlessOptions.unmarshal) = .ok set.rules ∧
      set.metadata = buildRuleSetMetadata (headlessRules.map HeadlessOptions.unmarshal) ∧ set.tag = s.set.tag ∧
      (s.call c d format event).1 =
        { s with set := set, calls := s.calls++s.callbacks.map fun callback => (callback,set) }
  succeeds : ∀ headlessRules rules, decoded = .ok headlessRules →
    newSetRules c (headlessRules.map HeadlessOptions.unmarshal) = .ok rules →
    event.validate s.set.tag (buildRuleSetMetadata (headlessRules.map HeadlessOptions.unmarshal)) = none →
      (s.call c d format event).2 = none

variable {c d format}

lemma reload_cases (s : SetState) (v : Validator) (dc : Except BuildError (List HeadlessOptions)) :
    (∃ e, s.reload c v dc = (s,some e) ∧ ∀ e', dc = .error e' → e = e') ∨ ∃ he st, dc = .ok he ∧ st.tag = s.set.tag ∧
      newSetRules c (he.map HeadlessOptions.unmarshal) = .ok st.rules ∧
      st.metadata = buildRuleSetMetadata (he.map HeadlessOptions.unmarshal) ∧ s.reload c v dc =
        ({ s with set := st, calls := s.calls++s.callbacks.map fun cl => (cl,st) },none) := by
  cases dc with
  | error e => exact .inl ⟨e,rfl,by simp⟩
  | ok he =>
    simp only [SetState.reload,SetState.commitRules]
    cases hs : reloadRules c v s.set he with
    | error e => exact .inl ⟨e,rfl,by simp⟩
    | ok st =>
      refine .inr ⟨he,st,rfl,?_⟩
      obtain ⟨rs,hr,hs⟩ := Outcome.bind_eq_ok.mp hs
      dsimp only at hs
      split at hs
      · cases hs
      · cases hs
        exact ⟨rfl,hr,rfl,rfl⟩

end

def emptyCompiler : ItemCompiler :=
  ⟨fun _ _ _ => false,fun _ _ => false,fun _ => .error (.new ""),fun _ => .error (.new ""),fun _ => .error (.new ""),
    fun _ => .error (.new ""),false⟩

section

/-- `adapter.SavedBinary`; the zero time is 0. -/
structure SavedBinary where
  content : Bytes
  lastUpdated : ℕ
  lastEtag : String

/-- A remote set in memory, with the content that its rules were loaded from. -/
structure RemoteRuleSet where
  state : SetState
  content : Option Bytes := none
  lastUpdated : ℕ := 0
  lastEtag : String := ""

/-- The running process with its cache file, if any, what the file holds, and the contents that the server has answered
with, each with its ETag. -/
structure Remote where
  ruleSet : RemoteRuleSet
  cacheFile : Bool := false
  saved : Option SavedBinary := none
  answered : List (Bytes × String) := []

inductive Answer
  | failed (err : BuildError)
  | ok (body : Except BuildError Bytes) (etag : String)
  | notModified
  | unexpected (status : String)

/-- One fetch, with the answer and with whether `SaveRuleSet` works. -/
structure Fetch where
  now : ℕ
  answer : Answer
  validate : Validator
  saves : Bool

variable (c : ItemCompiler) (d : Decoders) (format : String)

/-- Content that was loaded. Without an ETag in the answer the former one is kept. -/
def Remote.loaded (r : Remote) (f : Fetch) (state : SetState) (content : Bytes) (etag : String) : Remote :=
  let lastEtag := if etag ≠ "" then etag else r.ruleSet.lastEtag
  { r with
    ruleSet := ⟨state,some content,f.now,lastEtag⟩
    saved := if r.cacheFile && f.saves then some ⟨content,f.now,lastEtag⟩ else r.saved }

def Remote.fetch (r : Remote) (f : Fetch) : Remote × Option BuildError :=
  match f.answer with
  | .failed err => (r,some err)
  | .unexpected status => (r,some (.new ("unexpected status: "++status)))
  | .notModified =>
    ({ r with
      ruleSet := { r.ruleSet with lastUpdated := f.now }
      saved := if r.cacheFile && f.saves then r.saved.map ({ · with lastUpdated := f.now }) else r.saved },none)
  | .ok (.error err) _ => (r,some err)
  | .ok (.ok content) etag =>
    let r := { r with answered := (content,etag) :: r.answered }
    match r.ruleSet.state.loadBytes c d format f.validate content with
    | (_,some err) => (r,some err)
    | (state,none) => (r.loaded f state content etag,none)

/-- `StartContext` of a new process up to its fetch: the set as the cache file has it. -/
def Remote.restore (r : Remote) (tag : String) (cacheFile : Bool) (validate : Validator) : Remote × Option BuildError :=
  let r := { r with ruleSet := ⟨⟨⟨tag,[],{}⟩,[],[],0⟩,none,0,""⟩, cacheFile := cacheFile }
  match (if cacheFile then r.saved else none) with
  | none => (r,none)
  | some saved =>
    match r.ruleSet.state.loadBytes c d format validate saved.content with
    | (_,some err) => (r,some (.cause err "restore cached rule-set"))
    | (state,none) => ({ r with ruleSet := ⟨state,some saved.content,saved.lastUpdated,saved.lastEtag⟩ },none)

inductive RemoteEvent
  | start (tag : String) (cacheFile : Bool) (f : Fetch)
  | fetch (f : Fetch)

def Remote.next (r : Remote) : RemoteEvent → Remote
  | .fetch f => (r.fetch c d format f).1
  | .start tag cacheFile f =>
    let restored := r.restore c d format tag cacheFile f.validate
    if restored.2 = none ∧ restored.1.ruleSet.lastUpdated = 0 then (restored.1.fetch c d format f).1 else restored.1

/-- An ETag that is sent was answered with the content. -/
def Belongs (answered : List (Bytes × String)) (etag : String) (content : Option Bytes) : Prop :=
  etag = "" ∨ ∃ x, content = some x ∧ (x,etag) ∈ answered

/-- The ETag in memory belongs to the content in use, the saved one to the saved content. -/
def Remote.EtagsRight (r : Remote) : Prop :=
  Belongs r.answered r.ruleSet.lastEtag r.ruleSet.content ∧
    ∀ saved, r.saved = some saved → Belongs r.answered saved.lastEtag (some saved.content)

/-- Where content without an ETag is loaded, there is no former ETag, or it belongs to this content as well. -/
def Remote.KeepsEtag (r : Remote) (f : Fetch) : Prop :=
  ∀ content, f.answer = .ok (.ok content) "" →
    (r.ruleSet.state.loadBytes c d format f.validate content).2 = none →
      Belongs ((content,"") :: r.answered) r.ruleSet.lastEtag (some content)

def Remote.Keeps (r : Remote) : RemoteEvent → Prop
  | .fetch f => r.KeepsEtag c d format f
  | .start tag cacheFile f =>
    let restored := r.restore c d format tag cacheFile f.validate
    restored.2 = none → restored.1.ruleSet.lastUpdated = 0 → restored.1.KeepsEtag c d format f

variable {c d format}

lemma Belongs.cons {a : List (Bytes × String)} {e : String} {cn : Option Bytes}
    (h : Belongs a e cn) (an : Bytes × String) : Belongs (an :: a) e cn :=
  h.imp_right fun ⟨x,hx,hm⟩ => ⟨x,hx,List.mem_cons_of_mem an hm⟩

variable {r : Remote} (h : r.EtagsRight)
include h

lemma Remote.EtagsRight.cons (a : Bytes × String) : EtagsRight { r with answered := a :: r.answered } :=
  ⟨h.1.cons a,fun s hs => (h.2 s hs).cons a⟩

lemma Remote.etagsRight_loaded_iff (f : Fetch) (st : SetState) (cn : Bytes)
    (e : String) : (r.loaded f st cn e).EtagsRight ↔
      Belongs r.answered (if e ≠ "" then e else r.ruleSet.lastEtag) (some cn) := by
  refine ⟨And.left,fun hb => ⟨hb,fun s hs => ?_⟩⟩
  unfold loaded at hs
  dsimp only at hs
  split at hs
  · cases hs
    exact hb
  · exact h.2 s hs

lemma Remote.keepsEtag_iff (f : Fetch) : r.KeepsEtag c d format f ↔ (r.fetch c d format f).1.EtagsRight := by
  unfold KeepsEtag fetch
  cases ha : f.answer with
  | failed er | unexpected status => exact iff_of_true (by simp) h
  | notModified =>
    refine iff_of_true (by simp) ⟨h.1,fun s hs => ?_⟩
    split_ifs at hs
    · obtain ⟨o,ho,rfl⟩ := Option.map_eq_some_iff.mp hs
      exact h.2 o ho
    · exact h.2 s hs
  | ok b e =>
    cases b with
    | error => exact iff_of_true (by simp) h
    | ok cn =>
      dsimp only
      cases hl : r.ruleSet.state.loadBytes c d format f.validate cn with
      | mk st er =>
        cases er with
        | some => exact iff_of_true (by simp [hl]) (h.cons _)
        | none =>
          rw [etagsRight_loaded_iff (h.cons _)]
          by_cases he : e = ""
          · simp [he,hl]
          · simp [he,Belongs]

lemma Remote.EtagsRight.restore (t : String) (cf : Bool) (v : Validator) :
    (r.restore c d format t cf v).1.EtagsRight := by
  unfold Remote.restore
  have hf : EtagsRight { r with ruleSet := ⟨⟨⟨t,[],{}⟩,[],[],0⟩,none,0,""⟩, cacheFile := cf } := ⟨.inl rfl,h.2⟩
  dsimp only
  split
  · exact hf
  · rename_i s hs
    split
    · exact hf
    · refine ⟨?_,h.2⟩
      split_ifs at hs
      exact h.2 s hs

end

/-- The ETags belong to the contents throughout exactly where content without an ETag is never loaded after content with
one that was not answered with it too. -/
theorem etags_right_iff (c : ItemCompiler) (d : Decoders) (format : String) (ruleSet : SetState)
    (events : List RemoteEvent) :
    Run.Along (Remote.next c d format) (Remote.Keeps c d format) ⟨⟨ruleSet,none,0,""⟩,false,none,[]⟩ events ↔
      Run.Throughout (Remote.next c d format) Remote.EtagsRight ⟨⟨ruleSet,none,0,""⟩,false,none,[]⟩ events := by
  refine Run.along_iff_throughout (fun r e h => ?_) events ⟨.inl rfl,fun _ hs => by cases hs⟩
  cases e with
  | fetch f => exact Remote.keepsEtag_iff h f
  | start t cf f =>
    have hr : (r.restore c d format t cf f.validate).1.EtagsRight := h.restore t cf f.validate
    simp only [Remote.Keeps,Remote.next]
    split_ifs with hf
    · simpa [hf.1,hf.2] using Remote.keepsEtag_iff hr f
    · refine iff_of_true (fun hn hz => absurd ⟨hn,hz⟩ hf) hr

def emptyDecoders : Decoders := ⟨fun _ => .ok ⟨1,[]⟩,fun _ => .ok ⟨1,[]⟩⟩

/-- The second content comes without an ETag: that of the first one is sent and saved with it, and an answer that confirms
the first content leaves the second one in use. -/
theorem etag_of_other_content : ∃ r, r = [RemoteEvent.start "set" true ⟨1,.ok (.ok [1]) "one",fun _ _ => none,true⟩,
        .fetch ⟨2,.ok (.ok [2]) "",fun _ _ => none,true⟩,.fetch ⟨3,.notModified,fun _ _ => none,true⟩].foldl
        (Remote.next emptyCompiler emptyDecoders "source") ⟨⟨⟨⟨"set",[],{}⟩,[],[],0⟩,none,0,""⟩,false,none,[]⟩ ∧
      r.ruleSet.content = some [2] ∧ r.ruleSet.lastEtag = "one" ∧ r.saved = some ⟨[2],3,"one"⟩ ∧
      r.answered = [([2],""),([1],"one")] :=
  ⟨_,rfl,rfl,rfl,rfl,rfl⟩

end SingBox.Rule
