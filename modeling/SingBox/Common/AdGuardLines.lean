import SingBox.Common.AdGuard

/-! What a line of an AdGuard filter must have been for the convertor to keep it: each step of the parser is
inverted, and the marks of the kept line restore its input. -/
namespace SingBox.AdGuard
open Cut List

def isNameByte (b : UInt8) : Bool :=
  decide (97 ≤ b ∧ b ≤ 122) || decide (65 ≤ b ∧ b ≤ 90) || decide (48 ≤ b ∧ b ≤ 57) || b == 95 || b == 45 || b == 46

def simpleNames : Names where
  isDomainName s := !s.isEmpty && s.all isNameByte
  parseAddr s := if s = ascii "0.0.0.0" then some (.v4 0#32) else none
  metadataParseAddr s := if s = ascii "0.0.0.0" then .v4 0#32 else .invalid

variable {names : Names} {l : RuleLine}

/-- A pattern that is kept is a name once its wildcards are filled in; a scheme in front of it is dropped. -/
structure KeptDomain (names : Names) (line l : RuleLine) : Prop where
  eq : l = { line with ruleLine := l.ruleLine, isSuffix := l.isSuffix }
  scheme : (l.ruleLine = line.ruleLine ∧ l.isSuffix = line.isSuffix) ∨
    (l.isSuffix = true ∧ ∃ front, line.ruleLine = front++(ascii "://"++l.ruleLine))
  supported : ∀ b ∈ l.ruleLine, b ∉ unsupported
  nonempty : l.ruleLine ≠ []
  isDomainName : names.isDomainName (domainCheck l.ruleLine) = true

variable {line : RuleLine} {im : Bool} {ruleLine : Bytes}

lemma KeptDomain.marks (h : KeptDomain names line l) : l.isExclude = line.isExclude ∧
    l.hasStart = line.hasStart ∧ l.hasEnd = line.hasEnd ∧ l.isRegexp = line.isRegexp ∧ l.isImportant = line.isImportant :=
  ⟨(congrArg RuleLine.isExclude h.eq).trans rfl,(congrArg RuleLine.hasStart h.eq).trans rfl,
    (congrArg RuleLine.hasEnd h.eq).trans rfl,(congrArg RuleLine.isRegexp h.eq).trans rfl,
    (congrArg RuleLine.isImportant h.eq).trans rfl⟩

lemma parseDomain_kept (h : parseDomain names line = .kept l) : KeptDomain names line l := by
  unfold parseDomain at h
  dsimp only at h
  split_ifs at h with hu he hn
  obtain rfl := Parsed.kept.inj h
  have hs := fun b hb => any_eq_false.mp (Bool.eq_false_of_not_eq_true hu) b hb
  refine ⟨?_,?_,fun b hb hm => hs b hb (contains_iff_mem.mpr hm),he,?_⟩
  · cases cut (ascii "://") line.ruleLine <;> rfl
  · cases hc : cut (ascii "://") line.ruleLine with
    | none => exact .inl ⟨rfl,rfl⟩
    | some ps => exact .inr ⟨rfl,ps.1,eq_append_of_cut hc⟩
  · simpa using hn

lemma parseBody_kept (h : parseBody names line = .kept l) :
    (∃ ruleLine, line.ruleLine = ascii "/"++(ruleLine++ascii "/") ∧ ignoreIPCIDRRegexp ruleLine = false ∧
      l = { line with ruleLine := ruleLine, isRegexp := true }) ∨ KeptDomain names line l := by
  unfold parseBody at h
  split_ifs at h with hsl hs
  · refine .inl ⟨(line.ruleLine.drop 1).take (line.ruleLine.length-2),?_,?_⟩
    · obtain ⟨⟨f,hf⟩,he⟩ := hsl
      have hc : line.ruleLine = 47::f := hf.symm
      rw [hc] at he hs ⊢
      have hl : 1 ≤ f.length := by
        rw [length_cons] at hs
        omega
      obtain ⟨b,hb⟩ := he
      obtain ⟨i,rfl⟩ : ∃ i, f = i++[47] := by
        cases b with
        | nil =>
          rw [nil_append] at hb
          have hn : f = [] := (cons.inj hb).2.symm
          rw [hn] at hl
          exact absurd hl (by decide)
        | cons x xs => exact ⟨xs,(cons.inj hb).2.symm⟩
      rw [drop_succ_cons,drop_zero,length_cons,length_append]
      change 47::(i++[47]) = 47::((i++[47]).take (i.length+1+1-2)++[47])
      rw [show i.length+1+1-2 = i.length by omega,take_left]
    · dsimp only at h
      split_ifs at h with hig
      exact ⟨Bool.eq_false_of_not_eq_true hig,(Parsed.kept.inj h).symm⟩
  · exact .inr (parseDomain_kept h)

lemma parseMarks_kept (h : parseMarks names ruleLine im = .kept l) :
    ∃ line b, parseBody names line = .kept l ∧ line.isRawDomain = false ∧ line.isRegexp = false ∧
      line.isImportant = im ∧ ruleLine = (if line.isExclude then ascii "@@" else [])++(mapDomain line++b) := by
  unfold parseMarks at h
  refine ⟨_,if (cutSuffix (ascii "|") (cutPrefix (ascii "@@") ruleLine).1).2 then ascii "|" else [],h,rfl,rfl,rfl,?_⟩
  dsimp only [mapDomain]
  have he := cutPrefix_restored (ascii "@@") ruleLine
  have hb := cutSuffix_restored (ascii "|") (cutPrefix (ascii "@@") ruleLine).1
  generalize cutPrefix (ascii "@@") ruleLine = e at *
  generalize cutSuffix (ascii "|") e.1 = b at *
  have hs := cutPrefix_restored (ascii "||") b.1
  generalize cutPrefix (ascii "||") b.1 = sf at *
  have hst := cutPrefix_restored (ascii "|") sf.1
  cases hsf : sf.2 with
  | true =>
    rw [hsf] at hs
    have hsp := cutSuffix_restored (ascii "^") sf.1
    simp only [if_true] at hs ⊢
    rw [hsp,hs,hb,he]
  | false =>
    rw [hsf] at hs
    have hsp := cutSuffix_restored (ascii "^") (cutPrefix (ascii "|") sf.1).1
    simp only [Bool.false_eq_true,if_false,nil_append] at hs ⊢
    rw [hsp,hst,hs,hb,he]

lemma parseModifiers_kept (h : parseModifiers names ruleLine = .kept l) :
    (parseMarks names ruleLine false = .kept l ∧ (ascii "/" <+: ruleLine ∨ 36 ∉ ruleLine)) ∨
      ∃ f pr im, ruleLine = f++(36::pr) ∧ 36 ∉ f ∧
        readParams names (pr.splitOn 44) false = some im ∧ parseMarks names f im = .kept l := by
  unfold parseModifiers at h
  split_ifs at h with hs
  · exact .inl ⟨h,.inl hs⟩
  cases hc : cut (ascii "$") ruleLine with
  | none =>
    rw [hc] at h
    exact .inl ⟨h,.inr (not_mem_of_cut_eq_none hc)⟩
  | some ps =>
    rw [hc] at h
    dsimp only at h
    cases hp : readParams names (ps.2.splitOn 44) false with
    | none =>
      rw [hp] at h
      cases h
    | some im =>
      rw [hp] at h
      exact .inr ⟨ps.1,ps.2,im,eq_append_of_cut hc,not_mem_of_cut hc,hp,h⟩

lemma parseLine_kept (h : parseLine names ruleLine = .kept l) :
    (names.isDomainName ruleLine = true ∧ l = { ruleLine := ruleLine, isRawDomain := true }) ∨
      (∃ ho, parseAdGuardHostLine names ruleLine = some ho ∧ ho ≠ [] ∧
        l = { ruleLine := ho, isRawDomain := true, hasStart := true, hasEnd := true }) ∨
      parseModifiers names (cutSuffix (ascii "|") ruleLine).1 = .kept l := by
  unfold parseLine at h
  split_ifs at h with he hc hn
  · exact .inl ⟨hn,(Parsed.kept.inj h).symm⟩
  cases hh : parseAdGuardHostLine names ruleLine with
  | none =>
    rw [hh] at h
    exact .inr (.inr h)
  | some ho =>
    rw [hh] at h
    dsimp only at h
    split_ifs at h with hhl
    exact .inr (.inl ⟨ho,rfl,hhl,(Parsed.kept.inj h).symm⟩)

lemma parseAdGuardHostLine_some {hos : Bytes} (h : parseAdGuardHostLine names ruleLine = some hos)
    (hne : hos ≠ []) : ∃ a, ruleLine = a++(32::hos) ∧ (names.parseAddr a).isSome = true ∧
      names.isDomainName hos = true := by
  unfold parseAdGuardHostLine at h
  cases hc : cut (ascii " ") ruleLine with
  | none =>
    rw [hc] at h
    cases h
  | some ps =>
    rw [hc] at h
    dsimp only at h
    cases ha : names.parseAddr ps.1 with
    | none =>
      rw [ha] at h
      cases h
    | some =>
      rw [ha] at h
      dsimp only at h
      split_ifs at h with ho hn
      · exact absurd (Option.some.inj h).symm hne
      · obtain rfl := Option.some.inj h
        exact ⟨ps.1,eq_append_of_cut hc,by rw [ha]; rfl,by simpa using hn⟩

section
variable (h : parseMarks names ruleLine im = .kept l)
include h

lemma isExclude_of_parseMarks (he : l.isExclude = true) : ascii "@@" <+: ruleLine := by
  obtain ⟨line,b,hb,_,_,_,rfl⟩ := parseMarks_kept h
  have hl : line.isExclude = true := by
    obtain ⟨i,_,_,rfl⟩ | hk := parseBody_kept hb
    · exact he
    · rw [← hk.marks.1]
      exact he
  rw [hl,if_pos rfl]
  exact prefix_append _ _

lemma isRawDomain_of_parseMarks : l.isRawDomain = false ∧ l.isImportant = im := by
  obtain ⟨line,_,hb,hr,_,him,_⟩ := parseMarks_kept h
  obtain ⟨i,_,_,rfl⟩ | hk := parseBody_kept hb
  · exact ⟨hr,him⟩
  · rw [hk.eq]
    exact ⟨hr,him⟩

end

lemma kind_of_isRawDomain (h : parseLine names ruleLine = .kept l) (hr : l.isRawDomain = true) : l.kind = domain := by
  obtain ⟨_,rfl⟩ | ⟨_,_,_,rfl⟩ | h := parseLine_kept h
  · rfl
  · rfl
  · obtain ⟨h,_⟩ | ⟨_,_,_,_,_,_,h⟩ := parseModifiers_kept h
    all_goals
      rw [(isRawDomain_of_parseMarks h).1] at hr
      cases hr

section

variable {s : Bytes}

lemma parsesUint8_of_mem {b : UInt8} (hb : b ∈ s) (hd : decide (48 ≤ b ∧ b ≤ 57) = false) : parsesUint8 s = false := by
  have ha : (s.all fun b => decide (48 ≤ b ∧ b ≤ 57)) = false := by
    by_contra h
    rw [Bool.not_eq_false,all_eq_true] at h
    exact Bool.false_ne_true (hd.symm.trans (h b hb))
  rw [parsesUint8,ha,Bool.and_false,Bool.false_and]

lemma ignoreIPCIDRRegexp_bar (s : Bytes) : ignoreIPCIDRRegexp (124::s) = false := by
  have hs : cutScheme (124::s) = 124::s := by
    rw [cutScheme,if_neg (not_isPrefix_of_head rfl (by decide)),if_neg (not_isPrefix_of_head rfl (by decide)),
      cutPrefix_of_not (not_isPrefix_of_head rfl (by decide))]
  have hb : ∀ x sp, x ≠ 124 → parsesUint8 (before (x::sp) (124::s)) = false := by
    intro x sp hne
    rw [before_cons hne]
    exact parsesUint8_of_mem mem_cons_self (by decide)
  rw [ignoreIPCIDRRegexp,hs]
  exact Bool.or_eq_false_iff.mpr ⟨hb 92 [46] (by decide),hb 46 [] (by decide)⟩

lemma before_caret (sp : Bytes) (h : parsesUint8 (before (sp++[46]) s) = false) :
    parsesUint8 (before (sp++[46]) (s++[94])) = false := by
  cases hc : cut (sp++[46]) s with
  | none =>
    rw [before_of_cut_eq_none (cut_concat_eq_none (by decide) hc)]
    exact parsesUint8_of_mem (mem_append_right s mem_cons_self) (by decide)
  | some =>
    rw [before_of_cut hc] at h
    rw [before_of_cut (cut_append hc [94])]
    exact h

lemma cutScheme_caret (h : s ≠ []) : cutScheme (s++[94]) = cutScheme s++[94] := by
  have hpr : ∀ sp : Bytes, sp++[41] <+: s++[94] ↔ sp++[41] <+: s := by
    intro sp
    constructor
    · intro hp
      obtain heq | hr := prefix_concat_iff.mp hp
      · exact absurd (append_inj_right' heq rfl) (by decide)
      · exact hr
    · exact fun hp => hp.trans (prefix_append s [94])
  have hht : ascii "(http?:\\/\\/)" <+: s++[94] ↔ ascii "(http?:\\/\\/)" <+: s := hpr (ascii "(http?:\\/\\/")
  have hh : ascii "(https?:\\/\\/)" <+: s++[94] ↔ ascii "(https?:\\/\\/)" <+: s := hpr (ascii "(https?:\\/\\/")
  have ha : (cutPrefix (ascii "^") (s++[94])).1 = (cutPrefix (ascii "^") s).1++[94] := by
    obtain ⟨x,xs,rfl⟩ := exists_cons_of_ne_nil h
    by_cases hx : x = 94
    · subst hx
      rfl
    · have hn : ∀ ys : Bytes, ¬ ascii "^" <+: x::ys := fun ys => not_isPrefix_of_head rfl (Ne.symm hx)
      rw [cons_append,cutPrefix_of_not (hn _),cutPrefix_of_not (hn _)]
      rfl
  simp only [cutScheme,hht,hh]
  split_ifs with hht hh
  · exact drop_append_of_le_length hht.length_le
  · exact drop_append_of_le_length hh.length_le
  · exact ha

lemma ignoreIPCIDRRegexp_caret (h : ignoreIPCIDRRegexp s = false) : ignoreIPCIDRRegexp (s++[94]) = false := by
  by_cases he : s = []
  · subst he
    decide
  · rw [ignoreIPCIDRRegexp,Bool.or_eq_false_iff] at h ⊢
    rw [cutScheme_caret he]
    exact ⟨before_caret [92] h.1,before_caret [] h.2⟩

end

/-- What the library's names and addresses look like: names are made of letters, digits, dashes, dots and
underscores, a letter in front of a leading dot or dash leaves a name, and an address begins with neither a slash
nor an at sign. -/
structure NameLaws (names : Names) : Prop where
  isNameByte : ∀ s, names.isDomainName s = true → ∀ b ∈ s, isNameByte b = true
  domainCheck : ∀ s, names.isDomainName s = true → names.isDomainName (domainCheck s) = true
  parseAddr : ∀ s, (names.parseAddr s).isSome = true → ∃ b rest, s = b::rest ∧ b ≠ 47 ∧ b ≠ 64

/-- The name of a line that is not an expression, wildcards included. -/
structure Pattern (names : Names) (line : RuleLine) : Prop where
  nonempty : line.ruleLine ≠ []
  bytes : ∀ b ∈ line.ruleLine, isNameByte b = true ∨ b = 42
  isDomainName : names.isDomainName (domainCheck line.ruleLine) = true

/-- What can stand in a list of a role. -/
def Entry (names : Names) (kind : Kind) (s : Bytes) : Prop :=
  if kind.isRegexp then
    ignoreIPCIDRRegexp s = false ∧ 10 ∉ s ∧ ((kind.isExclude || kind.isImportant) = true → 36 ∉ s)
  else ∃ line, Pattern names line ∧ mapDomain line = s

lemma entry_iff_of_isRegexp {k : Kind} {s : Bytes} (h : k.isRegexp = true) : Entry names k s ↔
    ignoreIPCIDRRegexp s = false ∧ 10 ∉ s ∧ ((k.isExclude || k.isImportant) = true → 36 ∉ s) := by
  rw [Entry,if_pos h]

lemma entry_iff_of_pattern {k : Kind} {s : Bytes} (h : k.isRegexp = false) : Entry names k s ↔
    ∃ line, Pattern names line ∧ mapDomain line = s := by
  rw [Entry,h,if_neg Bool.false_ne_true]

lemma length_write (k : Kind) (s : Bytes) : (k.write s).length =
    2*k.isExclude.toNat+(s.length+2*k.isRegexp.toNat)+10*k.isImportant.toNat := by
  have hat : (ascii "@@").length = 2 := rfl
  have hs : (ascii "/").length = 1 := rfl
  have him : (ascii "$important").length = 10 := rfl
  unfold Kind.write
  cases k.isExclude <;> cases k.isRegexp <;> cases k.isImportant <;>
    simp only [length_append,length_nil,hat,hs,him,if_true,if_false,Bool.false_eq_true,
      Bool.toNat_true,Bool.toNat_false] <;> omega

variable {ln : RuleLine}

lemma pattern_of_isDomainName (lw : NameLaws names) (hl : ln.ruleLine ≠ [])
    (h : names.isDomainName ln.ruleLine = true) : Pattern names ln :=
  ⟨hl,fun b hb => .inl (lw.isNameByte _ h b hb),lw.domainCheck _ h⟩

lemma pattern_of_keptDomain (lw : NameLaws names) (h : KeptDomain names ln l) : Pattern names l := by
  refine ⟨h.nonempty,fun b hb => ?_,h.isDomainName⟩
  by_cases hs : b = 42
  · exact .inr hs
  · refine .inl (lw.isNameByte _ h.isDomainName b ?_)
    rw [domainCheck,mem_map]
    refine ⟨b,?_,if_neg hs⟩
    split_ifs
    · exact mem_append_right _ hb
    · exact hb

lemma ignoreIPCIDRRegexp_mapDomain (h : ignoreIPCIDRRegexp ln.ruleLine = false) :
    ignoreIPCIDRRegexp (mapDomain ln) = false := by
  unfold mapDomain
  split_ifs
  · exact ignoreIPCIDRRegexp_bar _
  · exact ignoreIPCIDRRegexp_bar _
  · exact ignoreIPCIDRRegexp_bar _
  · exact ignoreIPCIDRRegexp_bar _
  · exact ignoreIPCIDRRegexp_caret h
  · rw [append_nil]
    exact h

lemma length_mapDomain_le (h : KeptDomain names ln l) : (mapDomain l).length ≤ (mapDomain ln).length := by
  obtain ⟨_,hst,he,_⟩ := h.marks
  obtain ⟨hl,hs⟩ | ⟨hs,f,hl⟩ := h.scheme
  · rw [mapDomain,mapDomain,hl,hs,hst,he]
  · have hb : (ascii "||").length = 2 := rfl
    have hsc : (ascii "://").length = 3 := rfl
    rw [mapDomain,mapDomain,hl,hs,he,if_pos rfl]
    simp only [length_append,hb,hsc]
    omega

variable {ii : Bool}

lemma entry_of_parseMarks (lw : NameLaws names) {ruleLine : Bytes}
    (h : parseMarks names ruleLine ii = .kept l) (hln : 10 ∉ ruleLine)
    (hd : (l.isExclude || ii) = true → 36 ∉ ruleLine) : Entry names l.kind (mapDomain l) ∧
      (l.kind.write (mapDomain l)).length ≤ ruleLine.length+10*ii.toNat := by
  obtain ⟨ln,br,hbd,_,hr,rfl,rfl⟩ := parseMarks_kept h
  have hl : ((if ln.isExclude then ascii "@@" else [])++(mapDomain ln++br)).length =
      2*ln.isExclude.toNat+((mapDomain ln).length+br.length) := by
    rw [length_append,length_append]
    cases ln.isExclude <;> rfl
  rw [length_write,hl]
  obtain ⟨i,hin,hig,rfl⟩ | hk := parseBody_kept hbd
  · -- the marks are those of the line, around the expression without its slashes
    have hs : ∀ b ∈ mapDomain { ln with ruleLine := i, isRegexp := true },
        b ∈ (if ln.isExclude then ascii "@@" else [])++(mapDomain ln++br) := by
      intro b hb
      refine mem_append_right _ (mem_append_left _ ?_)
      rw [mapDomain,mem_append,mem_append] at hb ⊢
      obtain hb | hb | hb := hb
      · exact .inl hb
      · rw [hin]
        exact .inr (.inl (mem_append_right _ (mem_append_left _ hb)))
      · exact .inr (.inr hb)
    refine ⟨?_,?_⟩
    · refine (entry_iff_of_isRegexp rfl).mpr
        ⟨ignoreIPCIDRRegexp_mapDomain hig,fun hm => hln (hs _ hm),fun hrl hm => ?_⟩
      exact hd hrl (hs _ hm)
    · have hss : (mapDomain ln).length = (mapDomain { ln with ruleLine := i, isRegexp := true }).length+2 := by
        have hsl : (ascii "/").length = 1 := rfl
        rw [mapDomain,mapDomain,hin]
        simp only [length_append,hsl]
        omega
      simp only [RuleLine.kind,Bool.toNat_true]
      omega
  · obtain ⟨he,_,_,hkr,hki⟩ := hk.marks
    rw [hr] at hkr
    refine ⟨?_,?_⟩
    · exact (entry_iff_of_pattern hkr).mpr ⟨l,pattern_of_keptDomain lw hk,rfl⟩
    · have hsh := length_mapDomain_le hk
      simp only [RuleLine.kind,hkr,he,hki,Bool.toNat_false]
      omega

lemma length_of_readParams {ps : List Bytes} (h : readParams names ps ii = some true) :
    ii = true ∨ ∃ p ∈ ps, 9 ≤ p.length := by
  induction ps generalizing ii with
  | nil => exact .inl (Option.some.inj h)
  | cons p ps ih =>
    have hn : ∀ n, n ∈ p.splitOn 61 → n = ascii "important" → 9 ≤ p.length := by
      rintro n hm rfl
      exact (sublist_of_mem_splitOn hm).1.length_le
    have hrs : ∀ f, readParams names ps f = some true → f = true ∨ ∃ o ∈ p::ps, 9 ≤ o.length := by
      intro f hf
      obtain hs | ⟨o,ho,hl⟩ := ih hf
      · exact .inl hs
      · exact .inr ⟨o,mem_cons_of_mem p ho,hl⟩
    rw [readParams] at h
    split at h
    · next n hp =>
      split_ifs at h with him
      exact .inr ⟨p,mem_cons_self,hn n (by rw [hp]; exact mem_cons_self) him⟩
    · next n v hp =>
      split_ifs at h with him hr
      · exact .inr ⟨p,mem_cons_self,hn n (by rw [hp]; exact mem_cons_self) him⟩
      · exact hrs ii h
    · cases h

lemma entry_of_parseLine (lw : NameLaws names) {ln : Bytes} (hln : 10 ∉ ln) (h : parseLine names ln = .kept l) :
    Entry names l.kind (mapDomain l) ∧ (l.kind.write (mapDomain l)).length ≤ ln.length := by
  obtain ⟨hn,rfl⟩ | ⟨ho,hh,hne,rfl⟩ | hmd := parseLine_kept h
  · have hne : ln ≠ [] := by
      rintro rfl
      cases h
    refine ⟨(entry_iff_of_pattern rfl).mpr ⟨_,pattern_of_isDomainName lw hne hn,rfl⟩,?_⟩
    rw [length_write]
    simp [mapDomain,RuleLine.kind]
  · obtain ⟨a,rfl,ha,hn⟩ := parseAdGuardHostLine_some hh hne
    refine ⟨(entry_iff_of_pattern rfl).mpr ⟨_,pattern_of_isDomainName lw hne hn,rfl⟩,?_⟩
    obtain ⟨b,r,rfl,_,_⟩ := lw.parseAddr a ha
    have hbr : (ascii "|").length = 1 := rfl
    have hc : (ascii "^").length = 1 := rfl
    rw [length_write]
    simp only [mapDomain,RuleLine.kind,length_append,length_cons,hbr,hc,if_true,if_false,
      Bool.false_eq_true,Bool.toNat_false]
    omega
  · have hbr := cutSuffix_restored (ascii "|") ln
    have hl : (cutSuffix (ascii "|") ln).1.length ≤ ln.length := by
      conv_rhs => rw [← hbr,length_append]
      exact Nat.le_add_right _ _
    have hmm : ∀ b ∈ (cutSuffix (ascii "|") ln).1, b ∈ ln := by
      intro b hb
      rw [← hbr]
      exact mem_append_left _ hb
    generalize (cutSuffix (ascii "|") ln).1 = ruleLine at *
    obtain ⟨hm,hd⟩ | ⟨f,ps,ii,rfl,hf,hp,hm⟩ := parseModifiers_kept hmd
    · -- an exception does not begin with a slash, so its modifiers were looked for
      obtain ⟨he,hs⟩ := entry_of_parseMarks lw hm (fun hb => hln (hmm _ hb)) fun hr => by
        rw [Bool.or_false] at hr
        obtain ⟨r,rfl⟩ := isExclude_of_parseMarks hm hr
        exact hd.resolve_left (not_isPrefix_of_head rfl (by decide))
      refine ⟨he,?_⟩
      rw [Bool.toNat_false] at hs
      omega
    · obtain ⟨he,hs⟩ := entry_of_parseMarks lw hm
        (fun hb => hln (hmm _ (mem_append_left _ hb))) fun _ => hf
      refine ⟨he,hs.trans ?_⟩
      rw [length_append,length_cons] at hl
      cases ii with
      | false =>
        rw [Bool.toNat_false]
        omega
      | true =>
        obtain hst | ⟨p,hpr,hlg⟩ := length_of_readParams hp
        · cases hst
        · have hpt := (sublist_of_mem_splitOn hpr).1.length_le
          rw [Bool.toNat_true]
          omega

end SingBox.AdGuard
