import Mathlib.Data.List.TakeWhile
import SingBox.Common.AdGuardRules
import SingBox.Common.AdGuardWritten

/-! Filters that are written back by `FromOptions` and read again: which texts keep their rules, and on which
rules the loop does not end. -/
namespace SingBox.AdGuard
open Adapter Rule Cut List Function

variable {M A : Type}

section
variable {rule next : SRS.HeadlessRule M A} {found : Roles} {result : Except Failure Roles}

/-- The loop ends with a result, after some number of rounds. -/
def Ends (rule : SRS.HeadlessRule M A) (found : Roles) (result : Except Failure Roles) : Prop :=
  ∃ fuel, parse fuel rule found = some result

lemma parse_mono {f : ℕ} (h : parse f rule found = some result) (m : ℕ) : parse (f+m) rule found = some result := by
  induction f generalizing rule found with
  | zero => cases h
  | succ f ih =>
    rw [Nat.succ_add,parse]
    rw [parse] at h
    cases hrn : round rule found with
    | again =>
      rw [hrn] at h
      exact ih h
    | done found' | invalid =>
      rw [hrn] at h
      exact h

lemma Ends.unique {o : Except Failure Roles} (h : Ends rule found result) (ho : Ends rule found o) : result = o := by
  obtain ⟨f,h⟩ := h
  obtain ⟨f',ho⟩ := ho
  have hb := parse_mono ho f
  rw [Nat.add_comm,parse_mono h f'] at hb
  exact Option.some.inj hb

variable {fn' : Roles} {options : SRS.DefaultHeadlessRule M A}

lemma ends_of_again (h : round rule found = .again next fn') : Ends rule found result ↔ Ends next fn' result := by
  constructor
  · rintro ⟨f,he⟩
    cases f with
    | zero => cases he
    | succ f =>
      rw [parse,h] at he
      exact ⟨f,he⟩
  · rintro ⟨f,he⟩
    refine ⟨f+1,?_⟩
    rw [parse,h]
    exact he

lemma ends_of_done (h : round rule found = .done fn') : Ends rule found (.ok fn') := ⟨1,by rw [parse,h]⟩

lemma ends_of_invalid (h : round rule found = .invalid) : Ends rule found (.error errInvalid) := ⟨1,by rw [parse,h]⟩

/-- A layer that the loop takes off. -/
def Accepted (mode : String) (options : SRS.DefaultHeadlessRule M A) : Prop :=
  (mode = "and" ∧ options.invert = true ∨ mode = "or" ∧ options.invert = false) ∧
    (SRS.elems options.adGuardDomain).length+(SRS.elems options.domainRegex).length ≠ 0

lemma elim_take_of_ne (domain domainRegex : Kind)
    (h : (SRS.elems options.adGuardDomain).length+(SRS.elems options.domainRegex).length ≠ 0) :
    (take found domain domainRegex options).elim Round.invalid (Round.again next) = .again next
      (update (update found domain (SRS.elems options.adGuardDomain)) domainRegex
        (SRS.elems options.domainRegex)) := by
  rw [take,if_neg h]
  rfl

/-- The roles of the lists of a layer, after what was found. -/
def layerKinds (found : Roles) (mode : String) : Kind × Kind :=
  if mode = "and" then
    if found importantExcludeDomain = [] ∧ found importantExcludeDomainRegex = [] then
      (importantExcludeDomain,importantExcludeDomainRegex)
    else (excludeDomain,excludeDomainRegex)
  else (importantDomain,importantDomainRegex)

lemma round_layer (m : String) (options : SRS.DefaultHeadlessRule M A) (next : SRS.HeadlessRule M A) (i : Bool)
    (found : Roles) : round (.logical m [.default options,next] i) found =
      if m = "and" ∧ options.invert = true ∨ m = "or" ∧ options.invert = false then
        (take found (layerKinds found m).1 (layerKinds found m).2 options).elim .invalid (.again next)
      else .invalid := by
  rw [round,layerKinds]
  by_cases ha : m = "and"
  · subst ha
    split_ifs <;> simp_all
  · simp [ha]

lemma round_again (h : round rule found = .again next fn') : (∃ tp, rule = .other tp) ∨
      ∃ m options i, rule = .logical m [.default options,next] i ∧ Accepted m options := by
  unfold round at h
  split at h
  · next m options rs i =>
    change round (.logical m [.default options,rs] i) found = _ at h
    rw [round_layer,take] at h
    split_ifs at h with hm he
    · cases h
    · obtain ⟨rfl,-⟩ := Round.again.inj h
      exact .inr ⟨m,options,i,rfl,hm,he⟩
  · cases h
  · next options =>
    cases ht : take found domain domainRegex options <;> rw [ht] at h <;> cases h
  · next tp => exact .inl ⟨tp,rfl⟩

lemma round_of_accepted {mode : String} (h : Accepted mode options)
    (next : SRS.HeadlessRule M A) (invert : Bool) (found : Roles) :
    ∃ fn', round (.logical mode [.default options,next] invert) found = .again next fn' := by
  rw [round_layer,if_pos h.1]
  exact ⟨_,elim_take_of_ne _ _ h.2⟩

inductive Spins : SRS.HeadlessRule M A → Prop
  | other (type : String) : Spins (.other type)
  | layer {mode : String} {options : SRS.DefaultHeadlessRule M A} {next : SRS.HeadlessRule M A} {invert : Bool}
      (accepted : Accepted mode options) (h : Spins next) : Spins (.logical mode [.default options,next] invert)

lemma Spins.not_ends (h : Spins rule) : ¬ Ends rule found result := by
  induction h generalizing found with
  | other =>
    rintro ⟨f,he⟩
    induction f with
    | zero => cases he
    | succ f ih => exact ih he
  | layer a _ ih =>
    obtain ⟨fn',hrn⟩ := round_of_accepted a _ _ found
    rw [ends_of_again hrn]
    exact ih

lemma exists_ends (h : ¬ Spins rule) (found : Roles) : ∃ result, Ends rule found result := by
  induction hs : sizeOf rule using Nat.strong_induction_on generalizing rule found with
  | h s ih =>
    cases hrn : round rule found with
    | done => exact ⟨_,ends_of_done hrn⟩
    | invalid => exact ⟨_,ends_of_invalid hrn⟩
    | again next fn' =>
      obtain ⟨tp,rfl⟩ | ⟨m,options,i,rfl,a⟩ := round_again hrn
      · exact absurd (Spins.other tp) h
      · simp only [ends_of_again hrn]
        refine ih (sizeOf next) ?_ (fun hn => h (.layer a hn)) fn' rfl
        rw [← hs]
        simp
        omega

/-- `FromOptions` ends unless it is given one rule on which the loop spins. -/
lemma exists_fromOptions (rl : List (SRS.HeadlessRule M A)) :
    (∃ f, fromOptions f rl ≠ none) ↔ ¬ ∃ rule, rl = [rule] ∧ Spins rule := by
  have hm : (∀ rule, rl ≠ [rule]) → fromOptions 0 rl = some (.error errInvalid) →
      ((∃ f, fromOptions f rl ≠ none) ↔ ¬ ∃ rule, rl = [rule] ∧ Spins rule) := by
    intro hrl hin
    constructor
    · rintro _ ⟨rule,hru,_⟩
      exact hrl rule hru
    · intro _
      exact ⟨0,by rw [hin]; exact Option.some_ne_none _⟩
  match rl with
  | [] => exact hm (fun _ hru => by cases hru) rfl
  | _::_::_ => exact hm (fun _ hru => by cases hru) rfl
  | [rule] =>
    constructor
    · rintro ⟨f,hf⟩ ⟨_,hrl,hs⟩
      obtain rfl := singleton_inj.mp hrl
      obtain ⟨result,hrt⟩ := Option.ne_none_iff_exists'.mp (fun hn => hf (Option.map_eq_none_iff.mpr hn))
      exact hs.not_ends ⟨f,hrt⟩
    · intro h
      obtain ⟨result,f,hrt⟩ := exists_ends (fun hs => h ⟨rule,rfl,hs⟩) fun _ => []
      refine ⟨f,?_⟩
      rw [fromOptions,hrt]
      exact Option.some_ne_none _

end

section
variable {f : Roles} {rs : Except Failure Roles} {c : SRS.HeadlessRule M A}

/-- The roles as `FromOptions` takes them: without important exceptions, the exceptions are taken for such. -/
def taken (r : Roles) : Roles := fun kind =>
  if r importantExcludeDomain = [] ∧ r importantExcludeDomainRegex = [] ∧ kind.isExclude then
    if kind.isImportant then r { kind with isImportant := false } else []
  else r kind

lemma ends_layer {m : String} {i : Bool} {l lr : List Bytes} {k kr : Kind}
    (hm : m = "and" ∧ i = true ∨ m = "or" ∧ i = false) (hk : layerKinds f m = (k,kr)) (he : f k = [] ∧ f kr = [])
    (h : Ends c (update (update f k l) kr lr) rs) : Ends (layer m i l lr c) f rs := by
  by_cases hl : l.length > 0 ∨ lr.length > 0
  · rw [layer,if_pos hl]
    refine (ends_of_again ?_).mpr h
    rw [lists,round_layer,if_pos hm,hk]
    refine elim_take_of_ne k kr ?_
    change l.length+lr.length ≠ 0
    omega
  · rw [layer,if_neg hl]
    obtain rfl : l = [] := length_eq_zero_iff.mp (by omega)
    obtain rfl : lr = [] := length_eq_zero_iff.mp (by omega)
    have hs : update (update f k []) kr [] = f := by
      rw [show update f k [] = f from update_eq_self_iff.mpr he.1.symm]
      exact update_eq_self_iff.mpr he.2.symm
    rw [hs] at h
    exact h

lemma ends_lists (list listRegex : List Bytes) (f : Roles) :
    Ends (lists false list listRegex : SRS.HeadlessRule M A) f (if list = [] ∧ listRegex = [] then .error errInvalid
      else .ok (update (update f domain list) domainRegex listRegex)) := by
  split_ifs with he
  · refine ends_of_invalid ?_
    rw [he.1,he.2]
    rfl
  · refine ends_of_done ?_
    have hl : ¬ list.length+listRegex.length = 0 := by
      rw [Nat.add_eq_zero_iff,length_eq_zero_iff,length_eq_zero_iff]
      exact he
    change (take f domain domainRegex _).elim Round.invalid Round.done = _
    rw [take]
    exact congrArg (Option.elim · Round.invalid Round.done) (if_neg hl)

lemma ends_currentRule (r : Roles) : Ends (currentRule r : SRS.HeadlessRule M A) (fun _ => [])
      (if r domain = [] ∧ r domainRegex = [] then .error errInvalid else .ok (taken r)) := by
  refine ends_layer (.inl ⟨rfl,rfl⟩) rfl ⟨rfl,rfl⟩ ?_
  refine ends_layer (.inr ⟨rfl,rfl⟩) rfl ⟨rfl,rfl⟩ ?_
  by_cases hn : r importantExcludeDomain = [] ∧ r importantExcludeDomainRegex = []
  · -- the second layer of exceptions comes as the first one
    refine ends_layer (.inl ⟨rfl,rfl⟩) (if_pos hn) hn ?_
    convert ends_lists (r domain) (r domainRegex) _ using 4
    funext kind
    obtain ⟨ii,ir,ie⟩ := kind
    cases ii <;> cases ir <;> cases ie <;> simp [taken,hn] <;> rfl
  · refine ends_layer (.inl ⟨rfl,rfl⟩) (if_neg hn) ⟨rfl,rfl⟩ ?_
    convert ends_lists (r domain) (r domainRegex) _ using 4
    funext kind
    obtain ⟨ii,ir,ie⟩ := kind
    cases ii <;> cases ir <;> cases ie <;> simp [taken,hn] <;> rfl

end

section
variable {ns : Names}

lemma parseLines_of_no_panic {ls : List Bytes} (h : ∀ l ∈ ls, parseLine ns l ≠ .panicked) :
    parseLines ns ls = some (keptLines ns ls) := by
  induction ls with
  | nil => rfl
  | cons l ls ih =>
    have hrs := ih fun o ho => h o (mem_cons_of_mem l ho)
    rw [parseLines,keptLines,filterMap_cons]
    cases hl : parseLine ns l with
    | skipped => exact hrs
    | panicked => exact absurd hl (h l mem_cons_self)
    | kept =>
      rw [hrs]
      rfl

def writeEntries (entries : List (Kind × Bytes)) : List Bytes := entries.map fun entry => entry.1.write entry.2

def entries (r : Roles) : List (Kind × Bytes) := kinds.flatMap fun kind => (r kind).map fun s => (kind,s)

lemma writeEntries_entries (r : Roles) : writeEntries (entries r) = written r := by
  rw [writeEntries,entries,map_flatMap,written]
  refine congrArg (flatMap · kinds) (funext fun k => ?_)
  rw [map_map]
  rfl

lemma line?_write (ls : NameLaws ns) {k : Kind} {s : Bytes} (h : Entry ns k s) :
    parseLine ns (k.write s) ≠ .panicked ∧ (k = importantDomainRegex ∧ (parseLine ns (k.write s)).line? = none ∨
        k ≠ importantDomainRegex ∧ ∃ l, (parseLine ns (k.write s)).line? = some l ∧ l.kind = k ∧
          mapDomain l = s ∧ l.isRawDomain = (decide (k = domain) && ns.isDomainName s)) := by
  by_cases hk : k = importantDomainRegex
  · subst hk
    rw [parseLine_write_importantDomainRegex ls h]
    exact ⟨fun hp => (by cases hp),.inl ⟨rfl,rfl⟩⟩
  · obtain ⟨l,hkp,hl⟩ := parseLine_write ls h hk
    rw [hkp]
    exact ⟨fun hp => (by cases hp),.inr ⟨hk,l,rfl,hl⟩⟩

lemma roles_cons (l : RuleLine) (ruleLines : List RuleLine) (k : Kind) :
    roles (l::ruleLines) k = if l.kind = k then mapDomain l::roles ruleLines k else roles ruleLines k := by
  rw [roles,filter_cons]
  by_cases hk : l.kind = k
  · rw [if_pos (decide_eq_true hk),if_pos hk]
    rfl
  · rw [if_neg (mt of_decide_eq_true hk),if_neg hk]
    rfl

variable {es : List (Kind × Bytes)} {t : Roles}

section
variable (lw : NameLaws ns) (h : ∀ entry ∈ es, Entry ns entry.1 entry.2)
include lw h

lemma roles_keptLines (k : Kind) : roles (keptLines ns (writeEntries es)) k =
      if k = importantDomainRegex then [] else (es.filter fun entry => entry.1 = k).map Prod.snd := by
  induction es with
  | nil => split_ifs <;> rfl
  | cons entry es ih =>
    have hrs := ih fun o ho => h o (mem_cons_of_mem entry ho)
    rw [writeEntries,map_cons,keptLines,filterMap_cons,filter_cons]
    obtain ⟨_,⟨hk,hn⟩ | ⟨hk,l,hs,hl,ht,_⟩⟩ := line?_write lw (h entry mem_cons_self)
    · rw [hn]
      refine hrs.trans ?_
      split_ifs with him he
      · rfl
      · exact absurd ((of_decide_eq_true he).symm.trans hk) him
      · rfl
    · rw [hs]
      refine (roles_cons l _ k).trans ?_
      rw [hl,ht]
      by_cases he : entry.1 = k
      · rw [if_pos he,if_neg (he ▸ hk),if_pos (decide_eq_true he),map_cons]
        rw [if_neg (he ▸ hk)] at hrs
        exact congrArg (entry.2 :: ·) hrs
      · rw [if_neg he,if_neg (mt of_decide_eq_true he)]
        exact hrs

lemma isPlain_keptLines : isPlain (keptLines ns (writeEntries es)) = true ↔ ∀ entry ∈ es,
      entry.1 = importantDomainRegex ∨ entry.1 = domain ∧ ns.isDomainName entry.2 = true := by
  induction es with
  | nil => exact ⟨fun _ _ hm => absurd hm not_mem_nil,fun _ => rfl⟩
  | cons entry es ih =>
    have hrs := ih fun o ho => h o (mem_cons_of_mem entry ho)
    rw [forall_mem_cons,← hrs,writeEntries,map_cons,keptLines,filterMap_cons]
    obtain ⟨_,⟨hk,hn⟩ | ⟨hk,l,hs,_,_,hrw⟩⟩ := line?_write lw (h entry mem_cons_self)
    · rw [hn]
      exact ⟨fun hp => ⟨.inl hk,hp⟩,And.right⟩
    · rw [hs]
      change (l.isRawDomain && isPlain (keptLines ns (writeEntries es))) = true ↔ _
      rw [Bool.and_eq_true,hrw,Bool.and_eq_true,decide_eq_true_eq,or_iff_right hk]

end

lemma mem_kinds (k : Kind) : k ∈ kinds := by
  obtain ⟨ii,ir,ie⟩ := k
  cases ii <;> cases ir <;> cases ie <;> decide

lemma mem_entries {r : Roles} {entry : Kind × Bytes} : entry ∈ entries r ↔ entry.2 ∈ r entry.1 := by
  rw [entries,mem_flatMap]
  constructor
  · rintro ⟨k,_,hm⟩
    obtain ⟨s,hs,rfl⟩ := mem_map.mp hm
    exact hs
  · intro h
    exact ⟨entry.1,mem_kinds entry.1,mem_map.mpr ⟨entry.2,h,rfl⟩⟩

lemma filter_entries (r : Roles) (k : Kind) : ((entries r).filter fun entry => entry.1 = k).map Prod.snd = r k := by
  have hp : ∀ o, (((r o).map fun s => (o,s)).filter fun entry => entry.1 = k).map Prod.snd =
      if o = k then r o else [] := by
    intro o
    rw [filter_map,map_map]
    split_ifs with hk
    · have ha : (r o).filter ((fun entry => decide (entry.1 = k)) ∘ fun s => (o,s)) = r o :=
        filter_eq_self.mpr fun _ _ => decide_eq_true hk
      rw [ha]
      exact map_id _
    · have hn : (r o).filter ((fun entry => decide (entry.1 = k)) ∘ fun s => (o,s)) = [] :=
        filter_eq_nil_iff.mpr fun _ _ => mt of_decide_eq_true hk
      rw [hn]
      rfl
  rw [entries,filter_flatMap,map_flatMap]
  simp only [hp]
  obtain ⟨ii,ir,ie⟩ := k
  cases ii <;> cases ir <;> cases ie <;>
    simp [kinds,importantDomain,importantDomainRegex,importantExcludeDomain,importantExcludeDomainRegex,domain,
      domainRegex,excludeDomain,excludeDomainRegex]

def fits (entry : Kind × Bytes) : Bool := decide ((entry.1.write entry.2).length < maxScanTokenSize)

lemma scan_output (h : ∀ entry ∈ entries t, Entry ns entry.1 entry.2) :
    ∃ rs, (rs = [] ∨ rs = [[]]) ∧ scan (output t) = writeEntries ((entries t).takeWhile fits)++rs := by
  have hl : textLines (output t) = writeEntries (entries t)++[[]] := by
    rw [writeEntries_entries]
    refine splitOn_lines fun l hln => ?_
    rw [← writeEntries_entries] at hln
    obtain ⟨entry,he,rfl⟩ := mem_map.mp hln
    exact not_newline_mem_write (h entry he)
  have hs : (writeEntries (entries t)).takeWhile (fun l => l.length < maxScanTokenSize) =
      writeEntries ((entries t).takeWhile fits) := takeWhile_map
  have hcr : (writeEntries ((entries t).takeWhile fits)).map dropCR = writeEntries ((entries t).takeWhile fits) := by
    refine (map_congr_left fun l hln => ?_).trans (map_id _)
    obtain ⟨entry,he,rfl⟩ := mem_map.mp hln
    obtain ⟨f,b,hls,_,hcr⟩ := last_write (h entry ((takeWhile_sublist fits).subset he))
    rw [dropCR,hls,cutSuffix_of_not (not_isSuffix_of_last rfl hcr.symm)]
    rfl
  rw [scan,hl,takeWhile_append]
  split_ifs with ha
  · refine ⟨[[]],.inr rfl,?_⟩
    have hw : writeEntries (entries t) = writeEntries ((entries t).takeWhile fits) :=
      ((takeWhile_sublist _).eq_of_length ha).symm.trans hs
    rw [hw,map_append,hcr]
    rfl
  · refine ⟨[],.inl rfl,?_⟩
    rw [hs,hcr,append_nil]

lemma parseLines_scan_output (laws : NameLaws ns) (h : ∀ entry ∈ entries t, Entry ns entry.1 entry.2) :
    parseLines ns (scan (output t)) = some (keptLines ns (writeEntries ((entries t).takeWhile fits))) := by
  obtain ⟨rest,hrs,hs⟩ := scan_output h
  have he : ∀ line ∈ rest, line = [] := by
    obtain rfl | rfl := hrs
    · exact fun _ hl => absurd hl not_mem_nil
    · exact fun _ hl => mem_singleton.mp hl
  have hk : keptLines ns rest = [] := by
    refine filterMap_eq_nil_iff.mpr fun line hl => ?_
    rw [he line hl]
    rfl
  rw [hs,parseLines_of_no_panic,keptLines,filterMap_append]
  · exact congrArg some ((congrArg _ hk).trans (append_nil _))
  · intro line hl
    obtain hl | hl := mem_append.mp hl
    · obtain ⟨entry,hen,rfl⟩ := mem_map.mp hl
      exact (line?_write laws (h entry ((takeWhile_sublist fits).subset hen))).1
    · rw [he line hl]
      exact fun hp => (by cases hp)

lemma isImportant_of_not_fits (ho : ∀ entry ∈ entries t, entry.1.isImportant = false → fits entry = true)
    (hl : ¬ ∀ entry ∈ entries t, fits entry = true) :
    ∀ entry ∈ (entries t).takeWhile fits, entry.1.isImportant = true := by
  have hk : kinds = [importantDomain,importantDomainRegex,importantExcludeDomain,importantExcludeDomainRegex]++
    [domain,domainRegex,excludeDomain,excludeDomainRegex] := rfl
  have hp : ∀ (p : List Kind) (ii : Bool), (∀ k ∈ p, k.isImportant = ii) →
      ∀ entry ∈ p.flatMap (fun k => (t k).map fun s => (k,s)), entry.1.isImportant = ii := by
    intro p ii hp entry he
    obtain ⟨k,hkn,hm⟩ := mem_flatMap.mp he
    obtain ⟨s,_,rfl⟩ := mem_map.mp hm
    exact hp k hkn
  obtain ⟨f,sc,hen,hf,hs⟩ : ∃ f sc, entries t = f++sc ∧
      (∀ entry ∈ f, entry.1.isImportant = true) ∧ ∀ entry ∈ sc, entry.1.isImportant = false := by
    rw [entries,hk,flatMap_append]
    exact ⟨_,_,rfl,hp _ true (by decide),hp _ false (by decide)⟩
  rw [hen,takeWhile_append]
  split_ifs with ha
  · refine absurd (fun entry he => ?_) hl
    rw [hen] at he
    obtain he | he := mem_append.mp he
    · rw [← (takeWhile_sublist fits).eq_of_length ha] at he
      exact mem_takeWhile_imp he
    · exact ho entry (by rw [hen]; exact mem_append_right _ he) (hs entry he)
  · exact fun entry he => hf entry ((takeWhile_sublist fits).subset he)

end

section
variable {names : Names} {text : Bytes} {rs : List (SRS.HeadlessRule M A)}

lemma entry_of_mem_roles (laws : NameLaws names) {kind : Kind} {s : Bytes}
    (h : s ∈ roles (keptLines names (scan text)) kind) : Entry names kind s ∧ fits (kind,s) = true := by
  obtain ⟨l,hf,rfl⟩ := mem_map.mp h
  obtain ⟨hl,hkn⟩ := mem_filter.mp hf
  obtain ⟨line,hli,hk⟩ := mem_filterMap.mp hl
  obtain rfl := of_decide_eq_true hkn
  obtain ⟨w,hw,rfl⟩ := mem_map.mp hli
  have hft := mem_takeWhile_imp hw
  have hs : w.length < maxScanTokenSize := of_decide_eq_true hft
  have hn : 10 ∉ w := (sublist_of_mem_splitOn ((takeWhile_sublist _).subset hw)).2
  have hcr : dropCR w++_ = w := cutSuffix_restored (ascii "\r") w
  have hln : (dropCR w).length ≤ w.length := by
    conv_rhs => rw [← hcr,length_append]
    exact Nat.le_add_right _ _
  obtain ⟨he,hwr⟩ := entry_of_parseLine laws
    (fun hm => hn (by rw [← hcr]; exact mem_append_left _ hm)) (line?_eq_some hk)
  exact ⟨he,decide_eq_true (hwr.trans_lt (hln.trans_lt hs))⟩

lemma Entry.important {ir : Bool} {s : Bytes} (h : Entry names ⟨false,ir,true⟩ s) : Entry names ⟨true,ir,true⟩ s := by
  cases ir with
  | true | false => exact h

variable {e : Kind × Bytes} {r : Roles} {ruleLines : List RuleLine} {rule : SRS.HeadlessRule M A}

lemma entry_taken (h : ∀ k, ∀ s ∈ r k, Entry names k s) (he : e ∈ entries (taken r)) : Entry names e.1 e.2 := by
  have hmm := mem_entries.mp he
  rw [taken] at hmm
  split_ifs at hmm with hm him
  · obtain ⟨⟨ii,ir,ie⟩,s⟩ := e
    obtain rfl : ii = true := him
    obtain rfl : ie = true := hm.2.2
    exact Entry.important (h _ s hmm)
  · cases hmm
  · exact h _ _ hmm

lemma fits_taken (h : ∀ k, ∀ s ∈ r k, fits (k,s) = true)
    (he : e ∈ entries (taken r)) (ho : e.1.isImportant = false) : fits e = true := by
  have hmm := mem_entries.mp he
  rw [taken] at hmm
  split_ifs at hmm with hm him
  · rw [ho] at him
    cases him
  · cases hmm
  · exact h _ _ hmm

lemma fromLines_of_not_plain (h : isPlain ruleLines = false) :
    fromLines ruleLines = .ok [(currentRule (roles ruleLines) : SRS.HeadlessRule M A)] := by
  have hl : ruleLines.length ≠ 0 := by
    intro he
    rw [length_eq_zero_iff.mp he] at h
    cases h
  rw [fromLines,if_neg hl,h,if_neg Bool.false_ne_true]

lemma exists_rule (h : toOptions names text = .ok rs) : ∃ rule, rs = [rule] := by
  obtain ⟨_,hrl⟩ | ⟨_,hrl⟩ := (fromLines_ok (toOptions_ok h)).2 <;> exact ⟨_,hrl⟩

lemma exists_fromOptions_ok {text : Bytes} : (∃ f, fromOptions f [rule] = some (.ok text)) ↔
      ∃ found, Ends rule (fun _ => []) (.ok found) ∧ output found = text := by
  constructor
  · rintro ⟨f,h⟩
    obtain ⟨result,hrl,hm⟩ := Option.map_eq_some_iff.mp h
    obtain ⟨found,rfl,rfl⟩ := Outcome.map_eq_ok.mp hm
    exact ⟨found,⟨f,hrl⟩,rfl⟩
  · rintro ⟨found,⟨f,h⟩,rfl⟩
    exact ⟨f,by rw [fromOptions,h]; rfl⟩

lemma ends_plain (ds : List Bytes) :
    Ends (.default { domain := some ds } : SRS.HeadlessRule M A) (fun _ => []) (.error errInvalid) :=
  ends_of_invalid rfl

lemma exists_fromOptions_iff (h : fromLines ruleLines = .ok rs) {text' : Bytes} :
    (∃ f, fromOptions f rs = some (.ok text')) ↔ isPlain ruleLines = false ∧
      ¬ (roles ruleLines domain = [] ∧ roles ruleLines domainRegex = []) ∧ text' = output (taken (roles ruleLines)) := by
  obtain ⟨hp,rfl⟩ | ⟨hp,rfl⟩ := (fromLines_ok h).2
  · rw [exists_fromOptions_ok,hp]
    refine iff_of_false ?_ (by simp)
    rintro ⟨found,he,_⟩
    cases he.unique (ends_plain _)
  · have he := ends_currentRule (M := M) (A := A) (roles ruleLines)
    rw [exists_fromOptions_ok]
    split_ifs at he with hb
    · refine iff_of_false ?_ fun hn => hn.2.1 hb
      rintro ⟨found,hf,_⟩
      cases hf.unique he
    · constructor
      · rintro ⟨found,hf,rfl⟩
        obtain rfl := Except.ok.inj (hf.unique he)
        exact ⟨hp,hb,rfl⟩
      · rintro ⟨_,_,rfl⟩
        exact ⟨_,he,rfl⟩

def reread (names : Names) (t : Roles) : List RuleLine := keptLines names (writeEntries ((entries t).takeWhile fits))

section
variable {t : Roles} (l : NameLaws names) (h : ∀ e ∈ entries t, Entry names e.1 e.2)
include l h

lemma keptLines_scan_output : keptLines names (scan (output t)) = reread names t :=
  keptLines_of_parseLines names (parseLines_scan_output l h)

lemma roles_reread (hft : ∀ e ∈ entries t, fits e = true) (k : Kind) :
    roles (reread names t) k = if k = importantDomainRegex then [] else t k := by
  rw [reread,takeWhile_eq_self_iff.mpr hft,roles_keptLines l h,filter_entries]

lemma roles_reread_of_not_fits (ho : ∀ e ∈ entries t, e.1.isImportant = false → fits e = true)
    (hl : ¬ ∀ e ∈ entries t, fits e = true) {k : Kind} (hk : k.isImportant = false) :
    roles (reread names t) k = [] := by
  rw [reread,roles_keptLines l fun e he => h e ((takeWhile_sublist fits).subset he)]
  split_ifs
  · rfl
  · refine map_eq_nil_iff.mpr (filter_eq_nil_iff.mpr fun e he hrl => ?_)
    have him := isImportant_of_not_fits ho hl e he
    rw [of_decide_eq_true hrl,hk] at him
    cases him

variable (hf : ∀ e ∈ entries t, fits e = true) (hr : t importantDomainRegex = [])
include hf hr

lemma isPlain_reread : isPlain (reread names t) = true ↔
      (∀ k, k ≠ domain → t k = []) ∧ ∀ s ∈ t domain, names.isDomainName s = true := by
  rw [reread,takeWhile_eq_self_iff.mpr hf,isPlain_keptLines l h]
  constructor
  · intro ha
    refine ⟨fun k hk => ?_,fun s hs => ?_⟩
    · refine eq_nil_iff_forall_not_mem.mpr fun s hs => ?_
      obtain hrl | hrl := ha (k,s) (mem_entries.mpr hs)
      · obtain rfl : k = importantDomainRegex := hrl
        rw [hr] at hs
        cases hs
      · exact hk hrl.1
    · obtain hrl | hrl := ha (domain,s) (mem_entries.mpr hs)
      · cases hrl
      · exact hrl.2
  · rintro ⟨he,hn⟩ ⟨k,s⟩ hen
    have hs := mem_entries.mp hen
    by_cases hk : k = domain
    · subst hk
      exact .inr ⟨rfl,hn s hs⟩
    · rw [he k hk] at hs
      cases hs

lemma read_output (hp : ¬ ((∀ k, k ≠ domain → t k = []) ∧ ∀ s ∈ t domain, names.isDomainName s = true)) :
    toOptions names (output t) = .ok [(currentRule t : SRS.HeadlessRule M A)] ∧
      roles (keptLines names (scan (output t))) = t := by
  have hrl : roles (reread names t) = t := by
    funext k
    rw [roles_reread l h hf]
    split_ifs with hk
    · rw [hk,hr]
    · rfl
  have hpl : isPlain (reread names t) = false := by
    rw [← isPlain_reread l h hf hr,Bool.not_eq_true] at hp
    exact hp
  rw [toOptions,parseLines_scan_output l h,keptLines_scan_output l h]
  exact ⟨(fromLines_of_not_plain hpl).trans (by rw [hrl]),hrl⟩

end

/-- Two rules match the same, whatever the matchers and the expressions mean. -/
def MatchAlike (lib : SRS.Library M A) (rule rule' : SRS.HeadlessRule M A) : Prop :=
  ∀ c v p built built', newHeadlessRule c (rule.options lib v) = .ok built →
    newHeadlessRule c (rule'.options lib v) = .ok built' → ∀ metadata,
      built.match (itemMatcher p) metadata = built'.match (itemMatcher p) metadata

variable (lib : SRS.Library M A)

lemma MatchAlike.refl (rule : SRS.HeadlessRule M A) : MatchAlike lib rule rule := by
  intro c v p b b' hb hb' m
  obtain rfl := Except.ok.inj (hb.symm.trans hb')
  rfl

def namesOnly : ItemCompiler where
  newMatcher domains _ _ := domains.any fun _ => true
  newAdGuardMatcher _ _ := false
  compileRegexp _ := .ok fun _ => false
  parsePrefix _ := .error (.new "no prefix")
  parseAddr _ := .error (.new "no address")
  ipSet _ := .error (.new "no set")
  hasNetworkManager := false

lemma namesOnly_unions : Unions namesOnly where
  newMatcher domains _ := by simp [namesOnly]
  newAdGuardMatcher lines _ := by simp [namesOnly]

lemma namesOnly_pattern (v : SRS.Reading) (p : Platform) (m : InboundContext) (l : RuleLine) :
    RuleLine.matchDomain namesOnly v p false m l = false := by
  unfold RuleLine.matchDomain matchDomainHost RuleLine.test
  simp only [Bool.false_eq_true,if_false]
  split_ifs <;> rfl

lemma not_matchAlike {text' : Bytes} {rule' : SRS.HeadlessRule M A}
    (h : toOptions names text = .ok [rule]) (hp : isPlain (keptLines names (scan text)) = false)
    (hbl : ¬ (roles (keptLines names (scan text)) domain = [] ∧ roles (keptLines names (scan text)) domainRegex = []))
    (h' : toOptions names text' = .ok [rule']) (hp' : isPlain (keptLines names (scan text')) = true) :
    ¬ MatchAlike lib rule rule' := by
  intro ha
  set v : SRS.Reading := { SRS.asciiReading with text := fun _ => "a" }
  set m : InboundContext := { domain := "a" }
  obtain ⟨_,hrl,hd⟩ := decides_toOptions (v := v) lib bareHost namesOnly_unions h
  obtain ⟨_,hr',hd'⟩ := decides_toOptions (v := v) lib bareHost namesOnly_unions h'
  obtain rfl := List.singleton_inj.mp hrl
  obtain rfl := List.singleton_inj.mp hr'
  rw [Compiles,hp,if_neg Bool.false_ne_true] at hd
  rw [Compiles,hp',if_pos rfl] at hd'
  obtain ⟨b,hb⟩ := hd.builds.mpr fun _ _ _ => ⟨_,rfl⟩
  have htx : "a" ≠ "" := by decide
  obtain ⟨b',hb'⟩ := hd'.builds.mpr fun _ _ => htx
  have hm := hd.answers b hb m
  have hm' := hd'.answers b' hb' m
  rw [ruleVerdict,hp,if_neg Bool.false_ne_true] at hm
  rw [ruleVerdict,hp',if_pos rfl] at hm'
  have hn : ∀ ii ie, anyOf ii ie (keptLines names (scan text))
      (RuleLine.matchDomain namesOnly v bareHost false m) = false := by
    intro ii ie
    refine List.any_eq_false.mpr fun l _ ht => ?_
    rw [namesOnly_pattern,Bool.and_false] at ht
    cases ht
  have hbk : (anyOf false false (keptLines names (scan text)) fun _ => true) = true := by
    by_contra han
    rw [Bool.not_eq_true] at han
    have he := isEmpty_roles (keptLines names (scan text)) false false
    rw [han,Bool.not_false,Bool.and_eq_true,List.isEmpty_iff,List.isEmpty_iff] at he
    exact hbl he
  have hsm : (keptLines names (scan text')).any (RuleLine.matchDomain namesOnly v bareHost true m) = true := by
    cases hk : keptLines names (scan text') with
    | nil =>
      have hl := toOptions_ok h'
      rw [hk] at hl
      cases hl
    | cons => rfl
  rw [hn,hn,hn,hn,hbk] at hm
  rw [hsm] at hm'
  have hs := ha namesOnly v bareHost b b' hb hb' m
  rw [hm,hm'] at hs
  cases hs

/-- What a filter must be for its lists to come back: it is no plain list, has a block that is not important and
no important expression that blocks, and does not only block names. -/
structure Restorable (names : Names) (ruleLines : List RuleLine) : Prop where
  notPlain : isPlain ruleLines = false
  blocks : ¬ (roles ruleLines domain = [] ∧ roles ruleLines domainRegex = [])
  expressions : roles ruleLines importantDomainRegex = []
  patterns : ¬ ((∀ kind, kind ≠ domain → roles ruleLines kind = []) ∧
    ∀ s ∈ roles ruleLines domain, names.isDomainName s = true)

/-- Exceptions stand beside important ones. -/
def KeepsExceptions (r : Roles) : Prop :=
  r excludeDomain = [] ∧ r excludeDomainRegex = [] ∨
    ¬ (r importantExcludeDomain = [] ∧ r importantExcludeDomainRegex = [])

/-- No block is important, and the exceptions could be. -/
def OnlyExceptions (r : Roles) : Prop :=
  r importantDomain = [] ∧ ∀ isRegexp, ∀ s ∈ r ⟨false,isRegexp,true⟩, fits (⟨true,isRegexp,true⟩,s) = true

lemma taken_of_keepsExceptions (h : KeepsExceptions r) : taken r = r := by
  funext ⟨isImportant,isRegexp,isExclude⟩
  by_cases hm : r importantExcludeDomain = [] ∧ r importantExcludeDomainRegex = [] ∧ isExclude = true
  · obtain ⟨him,hir,rfl⟩ := hm
    obtain ⟨hn,hnr⟩ := h.resolve_right (not_not.mpr ⟨him,hir⟩)
    rw [taken,if_pos ⟨him,hir,rfl⟩]
    cases isImportant with
    | true =>
      cases isRegexp with
      | true => exact hnr.trans hir.symm
      | false => exact hn.trans him.symm
    | false =>
      cases isRegexp with
      | true => exact hnr.symm
      | false => exact hn.symm
  · exact if_neg hm

lemma taken_of_not_isExclude (r : Roles) {k : Kind} (h : k.isExclude = false) : taken r k = r k := by
  rw [taken,if_neg]
  rintro ⟨_,_,he⟩
  rw [h] at he
  cases he

lemma taken_eq_nil (h : ¬ KeepsExceptions r) (ir : Bool) :
    taken r ⟨true,ir,true⟩ = r ⟨false,ir,true⟩ ∧ taken r ⟨false,ir,true⟩ = [] := by
  rw [KeepsExceptions,not_or,not_not] at h
  have hm : r importantExcludeDomain = [] ∧ r importantExcludeDomainRegex = [] ∧ true = true := ⟨h.2.1,h.2.2,rfl⟩
  constructor
  · rw [taken,if_pos hm,if_pos rfl]
  · rw [taken,if_pos hm,if_neg Bool.false_ne_true]

lemma currentRule_taken (hk : ¬ KeepsExceptions r) (h : r importantDomain = [])
    (hrg : r importantDomainRegex = []) : (currentRule (taken r) : SRS.HeadlessRule M A) = currentRule r := by
  have hl : ∀ (m : String) (i : Bool) (cr : SRS.HeadlessRule M A), layer m i [] [] cr = cr := fun _ _ _ => rfl
  have hp := taken_eq_nil hk false
  have he := taken_eq_nil hk true
  have hb : ∀ k : Kind, k.isExclude = false → taken r k = r k := fun k hkn =>
    taken_of_not_isExclude r hkn
  rw [KeepsExceptions,not_or,not_not] at hk
  have hn := hk.2
  rw [currentRule,currentRule,hb importantDomain rfl,hb importantDomainRegex rfl,hb domain rfl,
    hb domainRegex rfl,h,hrg,hl "or",hl "or",hn.1,hn.2,hl "and"]
  rw [show taken r importantExcludeDomain = r excludeDomain from hp.1, show taken r excludeDomain = [] from hp.2,
    show taken r importantExcludeDomainRegex = r excludeDomainRegex from he.1,
    show taken r excludeDomainRegex = [] from he.2,hl "and"]

lemma layer_of_ne {m : String} {i : Bool} {l lr : List Bytes} (h : ¬ (l = [] ∧ lr = [])) (cr : SRS.HeadlessRule M A) :
    layer m i l lr cr = .logical m [lists i l lr,cr] false := by
  rw [layer,if_pos]
  by_contra hl
  exact h ⟨length_eq_zero_iff.mp (by omega),length_eq_zero_iff.mp (by omega)⟩

lemma currentRule_ne {r' : Roles} (hn : r importantExcludeDomain = [] ∧ r importantExcludeDomainRegex = [])
    (him : r importantDomain ≠ []) (h : ¬ (r' importantExcludeDomain = [] ∧ r' importantExcludeDomainRegex = [])) :
    (currentRule r : SRS.HeadlessRule M A) ≠ currentRule r' := by
  intro hs
  rw [currentRule,currentRule,layer_of_ne h,hn.1,hn.2] at hs
  have hm := (layer_of_ne (fun he => him he.1) _).symm.trans hs
  exact absurd (SRS.HeadlessRule.logical.inj hm).1 (by decide)

variable (l : NameLaws names) {r : Roles} (hr : roles (keptLines names (scan text)) = r)
include l hr

lemma written_entries : (∀ e ∈ entries (taken r), Entry names e.1 e.2) ∧
    (∀ e ∈ entries (taken r), e.1.isImportant = false → fits e = true) ∧ ∀ e ∈ entries r, fits e = true := by
  have he : ∀ k, ∀ s ∈ r k, Entry names k s ∧ fits (k,s) = true := by
    subst hr
    exact fun k s hs => entry_of_mem_roles l hs
  exact ⟨fun e hm => entry_taken (fun k s hs => (he k s hs).1) hm,
    fun e hm => fits_taken (fun k s hs => (he k s hs).2) hm,
    fun e hm => (he e.1 e.2 (mem_entries.mp hm)).2⟩

variable (h : toOptions names text = .ok rs)
include h

section
variable (hrs : Restorable names (keptLines names (scan text)))
include hrs

/-- What is taken is written, and read back where all of it fits. -/
lemma written_taken (ha : ∀ e ∈ entries (taken r), fits e = true)
    (hp : ¬ ((∀ k, k ≠ domain → taken r k = []) ∧ ∀ s ∈ taken r domain, names.isDomainName s = true)) :
    rs = [currentRule r] ∧ ∃ f text', fromOptions f rs = some (.ok text') ∧
      toOptions names text' = .ok [(currentRule (taken r) : SRS.HeadlessRule M A)] ∧
      roles (keptLines names (scan text')) = taken r := by
  obtain ⟨f,hw⟩ := (exists_fromOptions_iff (toOptions_ok h)).mpr ⟨hrs.notPlain,hrs.blocks,rfl⟩
  obtain ⟨hpl,_⟩ | ⟨_,hrl⟩ := (fromLines_ok (toOptions_ok h)).2
  · simp [hrs.notPlain] at hpl
  · have hrg := hrs.expressions
    rw [hr] at hw hrl hrg
    exact ⟨hrl,f,_,hw,read_output l (written_entries l hr).1 ha ((taken_of_not_isExclude r rfl).trans hrg) hp⟩

lemma written_of_keepsExceptions (hk : KeepsExceptions r) :
    ∃ f text', fromOptions f rs = some (.ok text') ∧ toOptions names text' = .ok rs ∧
      roles (keptLines names (scan text')) = r := by
  have hp := hrs.patterns
  have hw := written_taken l hr h hrs
  rw [hr] at hp
  rw [taken_of_keepsExceptions hk] at hw
  obtain ⟨hrl,hrd⟩ := hw (written_entries l hr).2.2 hp
  rwa [← hrl] at hrd

lemma written_of_onlyExceptions (hk : ¬ KeepsExceptions r) (hon : OnlyExceptions r) :
    ∃ f text', fromOptions f rs = some (.ok text') ∧ toOptions names text' = .ok rs := by
  obtain ⟨_,ho,hft⟩ := written_entries l hr
  have ha : ∀ e ∈ entries (taken r), fits e = true := by
    rintro ⟨⟨ii,ir,ie⟩,s⟩ hm
    have hs := mem_entries.mp hm
    match ii, ie with
    | false, _ => exact ho _ hm rfl
    | true, true =>
      rw [(taken_eq_nil hk ir).1] at hs
      exact hon.2 ir s hs
    | true, false =>
      rw [taken_of_not_isExclude r rfl] at hs
      exact hft _ (mem_entries.mpr hs)
  obtain ⟨hrl,f,text',hw,hrd,_⟩ := written_taken l hr h hrs ha fun hn =>
    hk (.inl ⟨(taken_eq_nil hk false).1.symm.trans (hn.1 importantExcludeDomain (by decide)),
      (taken_eq_nil hk true).1.symm.trans (hn.1 importantExcludeDomainRegex (by decide))⟩)
  rw [currentRule_taken hk hon.1 (hr ▸ hrs.expressions),← hrl] at hrd
  exact ⟨f,text',hw,hrd⟩

end

lemma restored_roles_iff (lib : SRS.Library M A) :
    (∃ f text' rl', fromOptions f rs = some (.ok text') ∧ toOptions names text' = .ok rl' ∧
        Forall₂ (MatchAlike lib) rs rl' ∧ roles (keptLines names (scan text')) = r) ↔
      Restorable names (keptLines names (scan text)) ∧ KeepsExceptions r := by
  obtain ⟨he,ho,hft⟩ := written_entries l hr
  constructor
  · rintro ⟨f,text',rl',hw,hrd,ha,hrl⟩
    obtain ⟨hp,hb,rfl⟩ := (exists_fromOptions_iff (toOptions_ok h)).mp ⟨f,hw⟩
    rw [hr] at hrd hrl
    rw [keptLines_scan_output l he] at hrl
    have hal : ∀ e ∈ entries (taken r), fits e = true := by
      by_contra hln
      have hem : ∀ k : Kind, k.isImportant = false → r k = [] := fun k hkn => by
        rw [← hrl,roles_reread_of_not_fits l he ho hln hkn]
      exact hb (by rw [hr]; exact ⟨hem domain rfl,hem domainRegex rfl⟩)
    have hs : ∀ k, r k = if k = importantDomainRegex then [] else taken r k := fun k => by
      rw [← roles_reread l he hal,hrl]
    have hk : KeepsExceptions r := by
      by_contra hk
      exact hk (.inl ⟨(hs excludeDomain).trans (taken_eq_nil hk false).2,
        (hs excludeDomainRegex).trans (taken_eq_nil hk true).2⟩)
    have hrg : r importantDomainRegex = [] := (hs importantDomainRegex).trans (if_pos rfl)
    refine ⟨⟨hp,hb,hr ▸ hrg,fun hn => ?_⟩,hk⟩
    -- names alone are read as a plain list, which matches otherwise
    have ht := taken_of_keepsExceptions hk
    have hl : isPlain (keptLines names (scan (output (taken r)))) = true := by
      rw [keptLines_scan_output l he,isPlain_reread l he hal (by rwa [ht]),ht,← hr]
      exact hn
    obtain ⟨rule,rfl⟩ := exists_rule h
    obtain ⟨rule',rfl⟩ := exists_rule hrd
    exact not_matchAlike lib h hp hb hrd hl (forall₂_cons.mp ha).1
  · rintro ⟨hrt,hk⟩
    obtain ⟨f,text',hw,hrd,hrl⟩ := written_of_keepsExceptions l hr h hrt hk
    obtain ⟨rule,rfl⟩ := exists_rule h
    exact ⟨f,text',_,hw,hrd,.cons (MatchAlike.refl lib _) .nil,hrl⟩

/-- A text comes back with the same rules also where all its exceptions are taken for important ones, without an
important block that they would then hide. -/
lemma restored_rules_iff : (∃ f text', fromOptions f rs = some (.ok text') ∧ toOptions names text' = .ok rs) ↔
      Restorable names (keptLines names (scan text)) ∧ (KeepsExceptions r ∨ OnlyExceptions r) := by
  obtain ⟨hen,ho,hft⟩ := written_entries l hr
  constructor
  · rintro ⟨f,text',hw,hrd⟩
    obtain ⟨hpl,hb,rfl⟩ := (exists_fromOptions_iff (toOptions_ok h)).mp ⟨f,hw⟩
    obtain ⟨hls,_⟩ | ⟨_,rfl⟩ := (fromLines_ok (toOptions_ok h)).2
    · simp [hpl] at hls
    have hl := toOptions_ok hrd
    rw [hr] at hl
    rw [keptLines_scan_output l hen] at hl
    have hes := ends_currentRule (M := M) (A := A) r
    rw [if_neg (hr ▸ hb)] at hes
    -- the rule that is read is not a plain list, of which nothing would be written
    obtain ⟨_,hru⟩ | ⟨hp',hru⟩ := (fromLines_ok hl).2
    · rw [singleton_inj.mp hru] at hes
      cases hes.unique (ends_plain _)
    have hru := singleton_inj.mp hru
    have he' := ends_currentRule (M := M) (A := A) (roles (reread names (taken r)))
    rw [← hru] at he'
    split_ifs at he' with hb'
    · cases hes.unique he'
    have hsm := Except.ok.inj (hes.unique he')
    have ha : ∀ e ∈ entries (taken r), fits e = true := by
      by_contra hln
      exact hb' ⟨roles_reread_of_not_fits l hen ho hln rfl, roles_reread_of_not_fits l hen ho hln rfl⟩
    have hrl : ∀ k, _ = _ := roles_reread l hen ha
    have hrg : taken r importantDomainRegex = [] := by
      rw [hsm,taken_of_not_isExclude _ rfl,hrl,if_pos rfl]
    have hp : ¬ ((∀ k, k ≠ domain → r k = []) ∧ ∀ s ∈ r domain, names.isDomainName s = true) := by
      intro hn
      have ht : taken r = r :=
        taken_of_keepsExceptions (.inl ⟨hn.1 excludeDomain (by decide),hn.1 excludeDomainRegex (by decide)⟩)
      have hls := (isPlain_reread l hen ha hrg).mpr (by rwa [ht])
      simp [hp'] at hls
    have he : ¬ KeepsExceptions r → OnlyExceptions r := by
      intro hk
      have hnn : r importantExcludeDomain = [] ∧ r importantExcludeDomainRegex = [] := by
        rw [KeepsExceptions,not_or,not_not] at hk
        exact hk.2
      refine ⟨?_,fun ir s hs => ?_⟩
      · by_contra him
        refine currentRule_ne hnn him (fun hem => hk (.inl ?_)) hru
        rw [hrl,hrl,if_neg (by decide),if_neg (by decide)] at hem
        exact ⟨(taken_eq_nil hk false).1.symm.trans hem.1,(taken_eq_nil hk true).1.symm.trans hem.2⟩
      · refine ha _ (mem_entries.mpr ?_)
        rwa [(taken_eq_nil hk ir).1]
    have hex : r importantDomainRegex = [] := (taken_of_not_isExclude r rfl).symm.trans hrg
    subst hr
    exact ⟨⟨hpl,hb,hex,hp⟩,Classical.or_iff_not_imp_left.mpr he⟩
  · rintro ⟨hrt,he⟩
    by_cases hk : KeepsExceptions r
    · obtain ⟨f,text',hw,hrd,_⟩ := written_of_keepsExceptions l hr h hrt hk
      exact ⟨f,text',hw,hrd⟩
    · exact written_of_onlyExceptions l hr h hrt hk (he.resolve_left hk)

end

/-- A filter is written and read back in the same roles and with rules that match the same exactly when it is no
plain list, has a block that is not important and no important expression that blocks, has exceptions only beside
important ones, and does not only block names. The rules are the same also where exceptions are taken for
important ones without an important block beside them. The loop of `FromOptions` ends unless a rule of another type
stands behind its layers. -/
theorem restored_iff {names : Names} (laws : NameLaws names) (lib : SRS.Library M A) {text : Bytes}
    {rules : List (SRS.HeadlessRule M A)} (h : toOptions names text = .ok rules) :
    let ruleLines := keptLines names (scan text)
    ((∃ fuel text' rules', fromOptions fuel rules = some (.ok text') ∧ toOptions names text' = .ok rules' ∧
        List.Forall₂ (MatchAlike lib) rules rules' ∧ roles (keptLines names (scan text')) = roles ruleLines) ↔
      Restorable names ruleLines ∧ KeepsExceptions (roles ruleLines)) ∧
    ((∃ fuel text', fromOptions fuel rules = some (.ok text') ∧ toOptions names text' = .ok rules) ↔
      Restorable names ruleLines ∧ (KeepsExceptions (roles ruleLines) ∨ OnlyExceptions (roles ruleLines))) ∧
    ∀ given : List (SRS.HeadlessRule M A), (∃ fuel, fromOptions fuel given ≠ none) ↔
      ¬ ∃ rule, given = [rule] ∧ Spins rule :=
  ⟨restored_roles_iff laws rfl h lib,restored_rules_iff laws rfl h,exists_fromOptions⟩

lemma simpleNames_laws : NameLaws simpleNames where
  isNameByte s h := all_eq_true.mp (Bool.and_eq_true_iff.mp h).2
  domainCheck s h := by
    obtain ⟨hne,ha⟩ := Bool.and_eq_true_iff.mp h
    have hbt := all_eq_true.mp ha
    have hd : ∀ b ∈ s, isNameByte (if b = 42 then 120 else b) = true := by
      intro b hb
      split_ifs
      · rfl
      · exact hbt b hb
    refine Bool.and_eq_true_iff.mpr ⟨?_,all_eq_true.mpr ?_⟩
    · cases s with
      | nil => cases hne
      | cons =>
        unfold domainCheck
        split_ifs <;> rfl
    · intro b hb
      obtain ⟨b',hb',rfl⟩ := mem_map.mp hb
      split_ifs at hb' with hf
      · obtain hr | hs := mem_append.mp hb'
        · rw [mem_singleton.mp hr]
          rfl
        · exact hd b' hs
      · exact hd b' hb'
  parseAddr s h := by
    by_cases hs : s = ascii "0.0.0.0"
    · exact ⟨48,_,hs,by decide,by decide⟩
    · rw [show simpleNames.parseAddr s = none from if_neg hs] at h
      cases h

def fullFilter : Bytes := ascii "||a.org^$important\n@@||b.org^$important\n@@/c/\n||d.org^\n/e$/\n@@f.org\n"

theorem fullFilter_restored : ∃ rules : List (SRS.HeadlessRule (List Bytes × List Bytes) (List Bytes)),
    toOptions simpleNames fullFilter = .ok rules ∧
      ∃ fuel text' rules', fromOptions fuel rules = some (.ok text') ∧ toOptions simpleNames text' = .ok rules' ∧
        List.Forall₂ (MatchAlike SRS.listLibrary) rules rules' ∧
        roles (keptLines simpleNames (scan text')) = roles (keptLines simpleNames (scan fullFilter)) := by
  refine ⟨_,rfl,(restored_iff simpleNames_laws SRS.listLibrary rfl).1.mpr ⟨⟨rfl,?_,rfl,?_⟩,.inr ?_⟩⟩
  · decide
  · intro hn
    exact absurd (hn.1 excludeDomain (by decide)) (by decide)
  · decide

/-- Plain lists are not written, exceptions become important ones, important expressions are lost, and a rule
without a type keeps the loop going. -/
theorem plain_lists_fail_and_roles_change : (∃ rules : List (SRS.HeadlessRule (List Bytes × List Bytes) (List Bytes)),
      toOptions simpleNames (ascii "example.com\n") = .ok rules ∧
        ∀ fuel text', fromOptions fuel rules ≠ some (.ok text')) ∧
    (∃ rules : List (SRS.HeadlessRule (List Bytes × List Bytes) (List Bytes)),
      toOptions simpleNames (ascii "@@||a.org^\n||b.a.org^$important\n||c.org^\n") = .ok rules ∧
        fromOptions 3 rules = some (.ok (ascii "||b.a.org^$important\n@@||a.org^$important\n||c.org^\n"))) ∧
    (∃ rules : List (SRS.HeadlessRule (List Bytes × List Bytes) (List Bytes)),
      toOptions simpleNames (ascii "||/ads/$important\n||c.org^\n") = .ok rules ∧
        fromOptions 2 rules = some (.ok (ascii "/||ads/$important\n||c.org^\n")) ∧
        parseLine simpleNames (ascii "/||ads/$important") = .skipped) ∧
    ∀ fuel, fromOptions fuel [(.other "" : SRS.HeadlessRule (List Bytes × List Bytes) (List Bytes))] = none := by
  refine ⟨⟨_,rfl,fun fuel text' hw => ?_⟩,⟨_,rfl,rfl⟩,⟨_,rfl,rfl,by decide⟩,fun fuel => ?_⟩
  · obtain ⟨found,he,_⟩ := exists_fromOptions_ok.mp ⟨fuel,hw⟩
    cases he.unique (ends_plain _)
  · by_contra hf
    exact (exists_fromOptions _).mp ⟨fuel,hf⟩ ⟨_,rfl,.other ""⟩

end SingBox.AdGuard
