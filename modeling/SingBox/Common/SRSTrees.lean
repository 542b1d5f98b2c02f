import SingBox.Common.SRSRoundTrip

/-! Rule-sets read back: nested rules and whole files, with the lists recovered from the matchers. -/
namespace SingBox.SRS
open ByteProgram Adapter

variable {M A : Type}

mutual

/-- Trees of one shape whose default rules are related. -/
def TreeRel (R : DefaultHeadlessRule M A → DefaultHeadlessRule M A → Prop) : HeadlessRule M A → HeadlessRule M A → Prop
  | .default options, tree => ∃ options', tree = .default options' ∧ R options options'
  | .logical mode rules invert, tree => ∃ rules', tree = .logical mode rules' invert ∧ TreesRel R rules rules'
  | .other type, tree => tree = .other type

def TreesRel (R : DefaultHeadlessRule M A → DefaultHeadlessRule M A → Prop) :
    List (HeadlessRule M A) → List (HeadlessRule M A) → Prop
  | [], trees => trees = []
  | rule::rules, trees => ∃ tree trees', trees = tree::trees' ∧ TreeRel R rule tree ∧ TreesRel R rules trees'

end

mutual

/-- How many calls of `readRule` are nested for a rule. -/
def HeadlessRule.depth : HeadlessRule M A → ℕ
  | .default _ => 1
  | .logical _ rules _ => depths rules+1
  | .other _ => 1

def depths : List (HeadlessRule M A) → ℕ
  | [] => 0
  | rule::rules => max rule.depth (depths rules)

end

mutual

/-- A tree that the runtime can hold. -/
def HeadlessRule.Held : HeadlessRule M A → Prop
  | .default options => options.Held
  | .logical _ rules _ => rules.length*648 ≤ maxAlloc ∧ AllHeld rules
  | .other _ => True

def AllHeld : List (HeadlessRule M A) → Prop
  | [] => True
  | rule::rules => rule.Held ∧ AllHeld rules

end

mutual

variable {R S : DefaultHeadlessRule M A → DefaultHeadlessRule M A → Prop} {rs : List (HeadlessRule M A)}

lemma TreeRel.mono (h : ∀ r r', R r r' → S r r') : ∀ r r' : HeadlessRule M A, TreeRel R r r' → TreeRel S r r'
  | .default options, _, ⟨options',ht,ho⟩ => ⟨options',ht,h options options' ho⟩
  | .logical _ rs _, _, ⟨rules',ht,hr⟩ => ⟨rules',ht,TreesRel.mono h rs rules' hr⟩
  | .other _, _, ht => ht

lemma TreesRel.mono (h : ∀ rule rule', R rule rule' → S rule rule') :
    ∀ rs rules' : List (HeadlessRule M A), TreesRel R rs rules' → TreesRel S rs rules'
  | [], _, ht => ht
  | rule::rs, _, ⟨tree,trees',ht,hrl,hr⟩ =>
    ⟨tree,trees',ht,TreeRel.mono h rule tree hrl,TreesRel.mono h rs trees' hr⟩

end

section
variable {lib : Library M A} {ds : List Bytes → List Bytes → String → Bool} {ag : List Bytes → String → Bool}
  {rc : Bool} {gv : UInt8} {bs : Bytes} {rl ru' : List (HeadlessRule M A)} {sr : Decoder (HeadlessRule M A)}

lemma parses_writeMode {m : String} (h : writeMode m = .ok bs) : Parses maxAlloc readMode bs m := by
  rw [writeMode] at h
  split_ifs at h with ha hor
  · obtain rfl := Except.ok.inj h
    rw [ha]
    exact fun _ => rfl
  · obtain rfl := Except.ok.inj h
    rw [hor]
    exact fun _ => rfl

lemma parses_ruleList {p : ℕ → String} (hf : rl.length*648 ≤ maxAlloc)
    (h : Parses maxAlloc (times (fun i => sr.mapError (.cause · (p i))) rl.length 0) bs ru') :
    Parses maxAlloc (readRuleList sr p) (Uvarint.put rl.length++bs) ru' := by
  have hlt := lt_of_le_maxAlloc hf
  exact (Uvarint.parses_put (by omega)).bind (h.make hf)

mutual

lemma parses_writeRule (lw : Laws lib ds ag) (rc : Bool) :
    ∀ (r : HeadlessRule M A) (bs : Bytes), r.Held → writeRule lib gv r = .ok bs →
      ∃ r', TreeRel (Restored lib ds ag rc) r r' ∧ ∀ fl s, bs.length ≤ fl → r.depth ≤ s →
          Parses maxAlloc (readRule lib rc fl s) bs r'
  | .default os, bs, held, h => by
    obtain ⟨rs,os',rfl,hr,hp⟩ := parses_writeDefaultRule lw rc held h
    refine ⟨.default os',⟨os',rfl,hr⟩,fun fl s hf hs => ?_⟩
    obtain ⟨s,rfl⟩ : ∃ n, s = n+1 := ⟨s-1,by rw [HeadlessRule.depth] at hs; omega⟩
    rw [List.length_append] at hf
    exact (Parses.readByte 0).bind ((hp fl (by omega)).map HeadlessRule.default)
  | .logical mode rl invert, bs, held, h => by
    rw [writeRule] at h
    obtain ⟨mb,hm,h⟩ := Outcome.bind_eq_ok.mp h
    obtain ⟨w,hw,h⟩ := Outcome.bind_eq_ok.mp h
    obtain rfl := Except.ok.inj h
    obtain ⟨ru',hrl,hp⟩ := parses_writeRules lw rc rl w held.2 hw
    refine ⟨.logical mode ru' invert,⟨ru',rfl,hrl⟩,fun fl s hf hs => ?_⟩
    rw [HeadlessRule.depth] at hs
    obtain ⟨s,rfl⟩ : ∃ n, s = n+1 := ⟨s-1,by omega⟩
    simp only [List.length_append] at hf
    have hfl := (Parses.readByte (ε := ReadError) (l := maxAlloc) (if invert then 1 else 0)).map
      fun b : UInt8 => HeadlessRule.logical mode ru' (b != 0)
    rw [flag_ne_zero] at hfl
    have hl := (parses_ruleList held.1 (hp fl s (fun i => "read logical rule ["++toString i++"]") 0
      (by omega) (by omega))).bind (f := fun rl => (fun b => HeadlessRule.logical mode rl (b != 0)) <$> readByte) hfl
    rw [List.append_assoc] at hl
    exact (Parses.readByte 1).bind ((parses_writeMode hm).bind hl)
  | .other _, _, _, h => by cases h

lemma parses_writeRules (laws : Laws lib ds ag) (rc : Bool) :
    ∀ (rl : List (HeadlessRule M A)) (bs : Bytes), AllHeld rl → writeRules lib gv rl = .ok bs →
      ∃ ru', TreesRel (Restored lib ds ag rc) rl ru' ∧ ∀ fuel s (p : ℕ → String) i, bs.length ≤ fuel → depths rl ≤ s →
          Parses maxAlloc (times (fun i => (readRule lib rc fuel s).mapError (.cause · (p i))) rl.length i) bs ru'
  | [], bs, _, h => by
    rw [writeRules] at h
    obtain rfl := Except.ok.inj h
    exact ⟨[],rfl,fun _ _ _ _ _ _ => .done []⟩
  | rule::rl, bs, held, h => by
    rw [writeRules] at h
    obtain ⟨f,hf,h⟩ := Outcome.bind_eq_ok.mp h
    obtain ⟨rest,hrs,h⟩ := Outcome.bind_eq_ok.mp h
    obtain rfl := Except.ok.inj h
    obtain ⟨rule',hrl,hp⟩ := parses_writeRule laws rc rule f held.1 hf
    obtain ⟨ru',hr,hl⟩ := parses_writeRules laws rc rl rest held.2 hrs
    refine ⟨rule'::ru',⟨rule',ru',rfl,hrl,hr⟩,fun fuel s p i hfl hs => ?_⟩
    rw [depths] at hs
    rw [List.length_append] at hfl
    exact ((hp fuel s (by omega) (by omega)).mapError _).times_cons
      (hl fuel s p (i+1) (by omega) (by omega))

end

lemma decode_writeBody (l : Laws lib ds ag) (rc : Bool)
    {b : Bytes} (hf : rl.length*648 ≤ maxAlloc) (held : AllHeld rl) (h : writeBody lib gv rl = .ok b) :
    ∃ ru', TreesRel (Restored lib ds ag rc) rl ru' ∧ ∀ s, depths rl ≤ s → ∀ u, decode lib rc s (b++u) = .ok ru' u := by
  rw [writeBody] at h
  obtain ⟨w,hw,h⟩ := Outcome.bind_eq_ok.mp h
  obtain rfl := Except.ok.inj h
  obtain ⟨ru',hr,hp⟩ := parses_writeRules l rc rl w held hw
  refine ⟨ru',hr,fun s hs u => ?_⟩
  refine parses_ruleList hf (hp _ s _ 0 ?_ hs) u
  simp only [List.length_append]
  omega

lemma parses_header {version : UInt8} (h : version ≤ ruleSetVersionCurrent) :
    Parses maxAlloc readHeader (magicBytes++[version]) version := by
  refine (Parses.readFull magicBytes).bind ?_
  rw [if_neg (not_not.mpr rfl)]
  have hv : Parses maxAlloc (if ruleSetVersionCurrent < version then
      .fail (.new (ascii ("unsupported version: "++toString version.toNat))) else pure version : Decoder UInt8) []
      version := by
    rw [if_neg (UInt8.not_lt.mpr h)]
    exact .pure version
  exact (Parses.readByte version).bind hv

lemma read_write (l : Laws lib ds ag) {b : Bytes} {s : ℕ}
    (hv : gv ≤ ruleSetVersionCurrent) (h : decode lib rc s b = .ok rl []) :
    read lib rc s (magicBytes++(gv::lib.compress b)) = .ok (gv,rl) [] := by
  have hh := parses_header hv (lib.compress b)
  rw [List.append_assoc,List.singleton_append] at hh
  rw [read,hh]
  dsimp only
  rw [l.decompress]
  dsimp only
  rw [h]

end

section
variable (lib : Library M A) (domainSet : List Bytes → List Bytes → String → Bool)
  (adGuardSet : List Bytes → String → Bool)

/-- Two lists of prefixes and addresses of one set, or none in either. -/
def SameCIDR (cidr cidr' : Option (List Bytes)) : Prop :=
  (elems cidr = [] ∧ elems cidr' = []) ∨ ∃ set set', newIPSet lib (elems cidr) = .ok set ∧
    newIPSet lib (elems cidr') = .ok set' ∧ lib.contains set' = lib.contains set

/-- Rules that agree in every item, where the lists of domains, of prefixes and of AdGuard lines may be others
of the same set. -/
structure Same (rule rule' : DefaultHeadlessRule M A) : Prop where
  plain : rule'.plain = rule.plain
  domain : domainSet (elems rule'.domain) (elems rule'.domainSuffix) =
    domainSet (elems rule.domain) (elems rule.domainSuffix)
  source : SameCIDR lib rule.sourceIPCIDR rule'.sourceIPCIDR
  destination : SameCIDR lib rule.ipCIDR rule'.ipCIDR
  adGuard : adGuardSet (elems rule'.adGuardDomain) = adGuardSet (elems rule.adGuardDomain)

variable {lib domainSet adGuardSet}

lemma elems_of_nonEmpty_eq_false {α : Type} {s : Option (List α)} (h : nonEmpty s = false) : elems s = [] := by
  rw [nonEmpty,Bool.not_eq_false'] at h
  exact List.isEmpty_iff.mp h

lemma kept_map_kept {α : Type} (s : Option (List α)) {f : α → α} (hf : ∀ x, f (f x) = f x) :
    kept ((kept (s.map (List.map f))).map (List.map f)) = kept (s.map (List.map f)) := by
  have ht : ∀ xs : List α, (xs.map f).map f = xs.map f := by
    intro xs
    rw [List.map_map]
    exact List.map_congr_left fun x _ => hf x
  rw [kept_map,nonEmpty_kept,elems_kept,elems_map s List.map_nil,ht]
  rw [kept,elems_map s List.map_nil]

lemma DefaultHeadlessRule.plain_plain (r : DefaultHeadlessRule M A) : r.plain.plain = r.plain := by
  have he := kept_map_kept r.networkInterfaceAddress (f := fun e => (e.1,built e.2))
    (fun e => by rw [built_built])
  have hp := kept_map_kept r.defaultInterfaceAddress (f := fun rp => some (build rp))
    (fun _ => rfl)
  unfold plain
  simp only [kept_kept]
  congr 1

lemma CIDRRestored.same {c c' : Option (List Bytes)} {st : Option IPSet}
    (h : CIDRRestored lib true c st c') : SameCIDR lib c c' := by
  simp only [CIDRRestored,↓reduceIte] at h
  split_ifs at h with hc
  · obtain ⟨s,hst,-,s',hs',hs⟩ := h
    exact .inr ⟨s,s',hst,hs',hs⟩
  · obtain ⟨-,rfl⟩ := h
    exact .inl ⟨elems_of_nonEmpty_eq_false (Bool.eq_false_of_not_eq_true hc),rfl⟩

lemma Restored.same {r r' : DefaultHeadlessRule M A} (h : Restored lib domainSet adGuardSet true r r') :
    Same lib domainSet adGuardSet r r' where
  plain := by
    rw [h.plain]
    exact r.plain_plain
  domain := by
    have hd := h.domain
    simp only [DomainRestored,↓reduceIte] at hd
    split_ifs at hd with hl
    · exact hd.2
    · obtain ⟨-,hd,hs⟩ := hd
      rw [Bool.not_eq_true,Bool.or_eq_false_iff] at hl
      rw [hd,hs,elems_of_nonEmpty_eq_false hl.1,elems_of_nonEmpty_eq_false hl.2]
      rfl
  source := h.source.same
  destination := h.destination.same
  adGuard := by
    have hag := h.adGuard
    simp only [AdGuardRestored,↓reduceIte] at hag
    split_ifs at hag with hln
    · exact hag.2
    · rw [hag.2,elems_of_nonEmpty_eq_false (Bool.eq_false_of_not_eq_true hln)]
      rfl

end

/-- A rule-set of a version that the reader knows is read back with its version and its tree, and all of the
bytes that were written are read and nothing behind them. -/
theorem written_rules_read_back {lib : Library M A} {domainSet : List Bytes → List Bytes → String → Bool}
    {adGuardSet : List Bytes → String → Bool} (laws : Laws lib domainSet adGuardSet) {version : UInt8}
    (hversion : version ≤ ruleSetVersionCurrent) {rules : List (HeadlessRule M A)}
    (hfits : rules.length*648 ≤ maxAlloc) (held : AllHeld rules) {file : Bytes}
    (h : write lib version rules = .ok file) {stack : ℕ} (hstack : depths rules ≤ stack) :
    ∃ rules', TreesRel (Same lib domainSet adGuardSet) rules rules' ∧
      read lib true stack file = .ok (version,rules') [] ∧ ∀ body, writeBody lib version rules = .ok body → ∀ unread,
        decode lib true stack (body++unread) = .ok rules' unread := by
  rw [write] at h
  obtain ⟨b,hb,h⟩ := Outcome.bind_eq_ok.mp h
  obtain rfl := Except.ok.inj h
  obtain ⟨rules',hr,hd⟩ := decode_writeBody laws true hfits held hb
  refine ⟨rules',TreesRel.mono (fun _ _ h => h.same) rules rules' hr,?_,fun b' hb' => ?_⟩
  · refine read_write laws hversion ?_
    have ha := hd stack hstack []
    rwa [List.append_nil] at ha
  · obtain rfl := Except.ok.inj (hb.symm.trans hb')
    exact hd stack hstack

instance (value : List Bytes) : Decidable (StringsFit value) := inferInstanceAs (Decidable (_ ∧ _))

def writeStrings (value : List Bytes) : Bytes := Uvarint.put value.length++value.flatMap writeString

def listedDomain (domains suffixes : List Bytes) (name : String) : Bool :=
  domains.contains (ascii name) || suffixes.any (·.isSuffixOf (ascii name))

def listedLine (lines : List Bytes) (name : String) : Bool := lines.contains (ascii name)

def singleRange : Prefix ⊕ Addr → Option IPRange
  | .inr (.v4 bits) => some ⟨.v4 bits,.v4 bits⟩
  | _ => none

def rangesOf (entries : List (Prefix ⊕ Addr)) : Except ReadError IPSet :=
  match entries.mapM singleRange with
  | some set => if set.length*48 ≤ maxAlloc then .ok set else .error (.new (ascii "too many ranges"))
  | none => .error (.new (ascii "no address"))

def decimal (n : ℕ) : Bytes := (Nat.toDigits 10 n).map fun c => UInt8.ofNat c.toNat

/-- `Addr.String` of the bytes of an IPv4 address. -/
def dotted (bytes : Bytes) : Bytes := [46].intercalate (bytes.map fun b => decimal b.toNat)

def parseDecimal (part : Bytes) : Option UInt8 :=
  let n := part.foldl (fun n digit => 10*n+(digit.toNat-48)) 0
  if n < 256 ∧ part = decimal n then some (UInt8.ofNat n) else none

def parseDotted (text : Bytes) : Except ReadError Addr :=
  match (text.splitOn 46).mapM parseDecimal with
  | some [a,b,c,d] => .ok (addrFromIP [a,b,c,d])
  | _ => .error (.new (ascii "no address"))

lemma decimal_byte (b : UInt8) : parseDecimal (decimal b.toNat) = some b ∧ 46 ∉ decimal b.toNat := by
  have ha : ∀ n < 256, parseDecimal (decimal n) = some (UInt8.ofNat n) ∧ 46 ∉ decimal n := by
    decide +kernel
  have hb := ha b.toNat b.toNat_lt
  rwa [UInt8.ofNat_toNat] at hb

lemma parseDotted_dotted (b : BitVec 32) : parseDotted (dotted (Addr.v4 b).asSlice) = .ok (.v4 b) := by
  have ha := addrFromIP_asSlice (a := .v4 b) nofun
  obtain ⟨w,x,y,z,hs⟩ : ∃ w x y z, (Addr.v4 b).asSlice = [w,x,y,z] := ⟨_,_,_,_,rfl⟩
  rw [hs] at ha ⊢
  have hp : (dotted [w,x,y,z]).splitOn 46 = [w,x,y,z].map fun b => decimal b.toNat :=
    List.splitOn_intercalate 46 (by simp [decimal_byte]) (by simp)
  rw [parseDotted,hp]
  simp [decimal_byte,ha]

/-- A library that keeps lists: matchers of domains are their lists, matchers of AdGuard lines are the lines
sorted and without repetitions, and an address set has single IPv4 addresses. -/
def listLibrary : Library (List Bytes × List Bytes) (List Bytes) where
  newMatcher domains suffixes _ := if StringsFit domains ∧ StringsFit suffixes then some (domains,suffixes) else none
  writeMatcher matcher := writeStrings matcher.1++writeStrings matcher.2
  readMatcher := do
    let domains ← readRuleItemString
    let suffixes ← readRuleItemString
    pure (domains,suffixes)
  dumpMatcher matcher := .ok (some matcher.1,some matcher.2)
  matchDomain matcher := listedDomain matcher.1 matcher.2
  newAdGuardMatcher lines := if StringsFit lines then some (lines.dedup.insertionSort (· ≤ ·)) else none
  writeAdGuardMatcher := writeStrings
  readAdGuardMatcher := readRuleItemString
  dumpAdGuardMatcher lines := .ok (some lines)
  matchAdGuard := listedLine
  parsePrefix _ := .error (.new (ascii "no prefix"))
  parseAddr := parseDotted
  buildIPSet := rangesOf
  contains set addr := set.any (·.fromAddr == addr)
  prefixes set := .ok (set.map fun range => ⟨range.fromAddr,32⟩)
  prefixString pfx := dotted pfx.addr.asSlice
  compress body := body
  decompress body := .ok body

lemma mem_of_mapM {es : List (Prefix ⊕ Addr)} {s : IPSet} (h : es.mapM singleRange = some s) :
    ∀ r ∈ s, ∃ b, r = ⟨.v4 b,.v4 b⟩ := by
  intro r hr
  obtain ⟨e,-,he⟩ := Outcome.exists_of_mem_mapM_option h r hr
  unfold singleRange at he
  split at he
  · exact ⟨_,(Option.some.inj he).symm⟩
  · cases he

lemma parseCIDRs_prefixes {s : IPSet} (h : ∀ r ∈ s, ∃ b, r = ⟨.v4 b,.v4 b⟩) (i : ℕ) :
    ∃ es, parseCIDRs listLibrary (s.map fun r => dotted r.fromAddr.asSlice) i = .ok es ∧
      es.mapM singleRange = some s := by
  induction s generalizing i with
  | nil => exact ⟨[],rfl,rfl⟩
  | cons r s ih =>
    obtain ⟨b,rfl⟩ := h r List.mem_cons_self
    obtain ⟨es,he,hm⟩ := ih (fun r hr => h r (List.mem_cons_of_mem _ hr)) (i+1)
    have ha : listLibrary.parseAddr (dotted (Addr.v4 b).asSlice) = .ok (.v4 b) := parseDotted_dotted b
    refine ⟨.inr (.v4 b)::es,?_,?_⟩
    · rw [List.map_cons,parseCIDRs]
      rw [ha,he]
      rfl
    · rw [List.mapM_cons,hm]
      rfl

lemma stringsFit_sorted {ls : List Bytes} (h : StringsFit ls) : StringsFit (ls.dedup.insertionSort (· ≤ ·)) := by
  have hl : (ls.dedup.insertionSort (· ≤ ·)).length ≤ ls.length := by
    rw [List.length_insertionSort]
    exact (List.dedup_sublist ls).length_le
  refine ⟨le_trans (Nat.mul_le_mul_right 16 hl) h.1,fun l hln => h.2 l ?_⟩
  exact List.mem_dedup.mp ((List.mem_insertionSort _).mp hln)

lemma listedLine_sorted (ls : List Bytes) : listedLine (ls.dedup.insertionSort (· ≤ ·)) = listedLine ls := by
  funext name
  rw [listedLine,listedLine,Bool.eq_iff_iff,List.contains_iff_mem,List.contains_iff_mem,List.mem_insertionSort,
    List.mem_dedup]

lemma listLibrary_laws : Laws listLibrary listedDomain listedLine where
  matcher domains suffixes legacy m h := by
    obtain ⟨hft,h⟩ := Option.ite_none_right_eq_some.mp h
    obtain rfl := Option.some.inj h
    exact ⟨(domains,suffixes),(some domains,some suffixes),(parses_strings hft.1).bind
      ((parses_strings hft.2).map (Prod.mk domains)),rfl,rfl,rfl⟩
  adGuardMatcher lines m h := by
    obtain ⟨hft,h⟩ := Option.ite_none_right_eq_some.mp h
    obtain rfl := Option.some.inj h
    exact ⟨_,some (lines.dedup.insertionSort (· ≤ ·)),parses_strings (stringsFit_sorted hft),listedLine_sorted lines,rfl,
      listedLine_sorted lines⟩
  ipSet es s h := by
    change rangesOf es = .ok s at h
    rw [rangesOf] at h
    split at h
    · rename_i s' hm
      split_ifs at h with hf
      obtain rfl := Except.ok.inj h
      have hs := mem_of_mapM hm
      have hh : IPSet.Held s' := by
        refine ⟨hf,fun r hr => ?_⟩
        obtain ⟨b,rfl⟩ := hs r hr
        exact ⟨trivial,trivial⟩
      obtain ⟨es',hp,he⟩ := parseCIDRs_prefixes hs 0
      refine ⟨hh,_,s',rfl,?_,rfl⟩
      rw [List.map_map]
      refine Outcome.bind_eq_ok.mpr ⟨es',hp,?_⟩
      change rangesOf es' = .ok s'
      simp only [rangesOf,he,if_pos hf]
    · cases h
  decompress body := rfl

/-- The reader refuses a version that the writer accepts, and AdGuard lines come back in another order from a
library that keeps the set of them only. -/
theorem later_version_refused_and_lines_reordered : (∃ file, write listLibrary 6 [] = .ok file ∧
      read listLibrary true 1 file = .failed (.new (ascii "unsupported version: 6"))) ∧
    Laws listLibrary listedDomain listedLine ∧
    ∃ file options, write listLibrary 2 [.default { adGuardDomain := some [ascii "b",ascii "a"] }] = .ok file ∧
      read listLibrary true 1 file = .ok (2,[.default options]) [] ∧
      options.adGuardDomain = some [ascii "a",ascii "b"] :=
  ⟨⟨_,rfl,rfl⟩,listLibrary_laws,_,_,rfl,rfl,rfl⟩

def nestedRules : List (HeadlessRule (List Bytes × List Bytes) (List Bytes)) :=
  [.logical "or" [.default { domain := some [ascii "a.com"], port := some [443,80] },
    .default { ipCIDR := some [ascii "192.0.2.1"], networkIsExpensive := true, invert := true }] false]

lemma nestedRules_held : AllHeld nestedRules := by
  refine ⟨⟨by decide,?_,?_,trivial⟩,trivial⟩
  all_goals
    exact ⟨by decide,by decide,by decide,⟨by decide,by decide,by rintro e ⟨⟩⟩,⟨by decide,by rintro rp ⟨⟩⟩⟩

theorem nestedRules_read_back : ∃ file rules', write listLibrary 5 nestedRules = .ok file ∧
    TreesRel (Same listLibrary listedDomain listedLine) nestedRules rules' ∧
      read listLibrary true 2 file = .ok (5,rules') [] := by
  obtain ⟨rules',hrl,hr,-⟩ := written_rules_read_back listLibrary_laws (show 5 ≤ ruleSetVersionCurrent by decide)
    (by decide) nestedRules_held rfl (show depths nestedRules ≤ 2 by decide)
  exact ⟨_,rules',rfl,hrl,hr⟩

end SingBox.SRS
