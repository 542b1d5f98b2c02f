import SingBox.Common.AdGuardLines

/-! Reading what `FromOptions` writes: each line comes back with its role and its text, but for an important
expression, which is not read as one. -/
namespace SingBox.AdGuard
open Cut List

variable {ns : Names}

section

structure Marked (line : RuleLine) : Prop where
  isRawDomain : line.isRawDomain = false
  isRegexp : line.isRegexp = false
  hasStart : line.isSuffix = true → line.hasStart = false
  first : ∃ b rest, line.ruleLine = b::rest ∧ b ≠ 64 ∧ b ≠ 124
  last : ∃ front b, line.ruleLine = front++[b] ∧ b ≠ 124 ∧ b ≠ 94

variable {l : RuleLine} (h : Marked l)
include h

lemma Marked.first_mapDomain : ∃ b r, mapDomain l = b::r ∧ b ≠ 64 := by
  obtain ⟨b,r,hl,hat,_⟩ := h.first
  unfold mapDomain
  split_ifs
  all_goals first | exact ⟨124,_,rfl,by decide⟩ | exact ⟨b,_,by rw [hl]; rfl,hat⟩

lemma Marked.last_mapDomain : ∃ f b, mapDomain l = f++[b] ∧ b ≠ 124 := by
  obtain ⟨f,b,hl,hb,_⟩ := h.last
  unfold mapDomain
  cases l.hasEnd with
  | true => exact ⟨_,94,by rw [if_pos rfl,← append_assoc]; rfl,by decide⟩
  | false => exact ⟨_,b,by rw [if_neg Bool.false_ne_true,append_nil,hl,← append_assoc],hb⟩

lemma Marked.eta :
    { ruleLine := l.ruleLine, isExclude := l.isExclude, isSuffix := l.isSuffix, hasStart := l.hasStart,
      hasEnd := l.hasEnd, isImportant := l.isImportant } = l := by
  obtain ⟨_,_,_,_,_,_,_,_⟩ := l
  obtain rfl := h.isRawDomain
  obtain rfl := h.isRegexp
  rfl

lemma parseMarks_of_marked : parseMarks ns ((if l.isExclude then ascii "@@" else [])++mapDomain l) l.isImportant =
      parseBody ns l := by
  have he : cutPrefix (ascii "@@") ((if l.isExclude then ascii "@@" else [])++mapDomain l) =
      (mapDomain l,l.isExclude) := by
    cases l.isExclude with
    | true => exact cutPrefix_append _ _
    | false =>
      obtain ⟨b,r,hf,hat⟩ := h.first_mapDomain
      refine cutPrefix_of_not ?_
      rw [if_neg Bool.false_ne_true,nil_append,hf]
      exact not_isPrefix_of_head rfl hat.symm
  have hbr : cutSuffix (ascii "|") (mapDomain l) = (mapDomain l,false) := by
    obtain ⟨f,b,hl,hne⟩ := h.last_mapDomain
    rw [hl]
    exact cutSuffix_of_not (not_isSuffix_of_last rfl hne.symm)
  have hsp : cutSuffix (ascii "^") (l.ruleLine++if l.hasEnd then ascii "^" else []) =
      (l.ruleLine,l.hasEnd) := by
    cases l.hasEnd with
    | true => exact cutSuffix_append _ _
    | false =>
      obtain ⟨f,b,hl,_,hne⟩ := h.last
      rw [if_neg Bool.false_ne_true,append_nil,hl]
      exact cutSuffix_of_not (not_isSuffix_of_last rfl hne.symm)
  obtain ⟨b,r,hf,_,hne⟩ := h.first
  have hn : ∀ a : Bytes, a.head? = some 124 →
      ¬ a <+: l.ruleLine++if l.hasEnd then ascii "^" else [] := by
    intro a ha
    rw [hf]
    exact not_isPrefix_of_head ha hne.symm
  unfold parseMarks
  rw [he]
  dsimp only
  rw [hbr]
  refine Eq.trans ?_ (congrArg (parseBody ns) h.eta)
  rw [mapDomain]
  cases hs : l.isSuffix with
  | true =>
    rw [if_pos rfl,cutPrefix_append]
    rw [if_pos rfl]
    rw [hsp,h.hasStart hs]
  | false =>
    rw [if_neg Bool.false_ne_true]
    cases hst : l.hasStart with
    | true =>
      have hb : ¬ ascii "||" <+: (if true then ascii "|" else [])++
          (l.ruleLine++if l.hasEnd then ascii "^" else []) :=
        fun hp => hn (ascii "|") rfl (cons_prefix_cons.mp hp).2
      rw [cutPrefix_of_not hb]
      rw [if_neg Bool.false_ne_true,if_pos rfl,cutPrefix_append]
      rw [hsp]
    | false =>
      rw [if_neg Bool.false_ne_true,nil_append,cutPrefix_of_not (hn _ rfl)]
      rw [if_neg Bool.false_ne_true,cutPrefix_of_not (hn _ rfl)]
      rw [hsp]

end

lemma Pattern.not_mem {ln : RuleLine} (h : Pattern ns ln) {b : UInt8} (hb : (isNameByte b || b == 42) = false) :
    b ∉ ln.ruleLine := by
  intro hm
  rw [Bool.or_eq_false_iff,beq_eq_false_iff_ne] at hb
  obtain hn | hs := h.bytes b hm
  · exact Bool.false_ne_true (hb.1.symm.trans hn)
  · exact hb.2 hs

lemma parseBody_pattern {ln : RuleLine} (h : Pattern ns ln) : parseBody ns ln = .kept ln := by
  have hsh : ¬ (ascii "/" <+: ln.ruleLine ∧ ascii "/" <:+ ln.ruleLine) := fun hsl =>
    h.not_mem (by decide) (hsl.1.mem mem_cons_self)
  have hsc : cut (ascii "://") ln.ruleLine = none := cut_eq_none_of_not_mem (h.not_mem (by decide))
  have hs : (ln.ruleLine.any fun b => unsupported.contains b) = false := by
    have hf : (unsupported.all fun b => !(isNameByte b || b == 42)) = true := by decide
    refine any_eq_false.mpr fun b hb hc => ?_
    have hbt := all_eq_true.mp hf b (contains_iff_mem.mp hc)
    exact h.not_mem ((Bool.not_eq_true' _).mp hbt) hb
  rw [parseBody,if_neg hsh,parseDomain,hsc]
  rw [hs,if_neg Bool.false_ne_true,if_neg h.nonempty,h.isDomainName]
  rfl

lemma parseBody_regexp {ln : RuleLine} {s : Bytes} (hln : ln.ruleLine = ascii "/"++(s++ascii "/"))
    (hig : ignoreIPCIDRRegexp s = false) : parseBody ns ln = .kept { ln with ruleLine := s, isRegexp := true } := by
  have hs : ascii "/" <+: ln.ruleLine ∧ ascii "/" <:+ ln.ruleLine := by
    rw [hln]
    refine ⟨prefix_append _ _,?_⟩
    rw [← append_assoc]
    exact suffix_append _ _
  have hl : ln.ruleLine.length = s.length+2 := by
    rw [hln]
    simp [ascii]
  have hin : (ln.ruleLine.drop 1).take (ln.ruleLine.length-2) = s := by
    rw [hl,hln,Nat.add_sub_cancel]
    exact take_left
  rw [parseBody,if_pos hs,if_neg (by omega)]
  dsimp only
  rw [hin,hig,if_neg Bool.false_ne_true]

def Kind.line (kind : Kind) (line : RuleLine) : RuleLine where
  ruleLine := line.ruleLine
  isExclude := kind.isExclude
  isSuffix := line.isSuffix
  hasStart := !line.isSuffix && line.hasStart
  hasEnd := line.hasEnd
  isImportant := kind.isImportant

lemma mapDomain_line (kn : Kind) (ln : RuleLine) : mapDomain (kn.line ln) = mapDomain ln := by
  unfold mapDomain Kind.line
  cases ln.isSuffix <;> rfl

lemma marked_pattern (kn : Kind) {ln : RuleLine} (h : Pattern ns ln) : Marked (kn.line ln) where
  isRawDomain := rfl
  isRegexp := rfl
  hasStart hs := by
    change (!ln.isSuffix && ln.hasStart) = false
    rw [show ln.isSuffix = true from hs]
    rfl
  first := by
    obtain ⟨b,r,hl⟩ := exists_cons_of_ne_nil h.nonempty
    have hne : ∀ x, (isNameByte x || x == 42) = false → b ≠ x := fun x hx heq =>
      h.not_mem hx (by rw [hl,heq]; exact mem_cons_self)
    exact ⟨b,r,hl,hne 64 (by decide),hne 124 (by decide)⟩
  last := by
    obtain ⟨f,b,hl⟩ := (eq_nil_or_concat' ln.ruleLine).resolve_left h.nonempty
    have hne : ∀ x, (isNameByte x || x == 42) = false → b ≠ x := fun x hx heq =>
      h.not_mem hx (by rw [hl,heq]; simp)
    exact ⟨f,b,hl,hne 124 (by decide),hne 94 (by decide)⟩

lemma parseMarks_write {kn : Kind} {s : Bytes} (h : Entry ns kn s) :
    ∃ l, parseMarks ns ((if kn.isExclude then ascii "@@" else [])++
        if kn.isRegexp then ascii "/"++(s++ascii "/") else s) kn.isImportant = .kept l ∧
      l.kind = kn ∧ mapDomain l = s ∧ l.isRawDomain = false := by
  cases hr : kn.isRegexp with
  | true =>
    have hmr : Marked { ruleLine := ascii "/"++(s++ascii "/"), isExclude := kn.isExclude,
                            isImportant := kn.isImportant } :=
      ⟨rfl,rfl,fun hs => absurd hs Bool.false_ne_true,⟨47,_,rfl,by decide,by decide⟩,
        ⟨ascii "/"++s,47,by rw [append_assoc]; rfl,by decide,by decide⟩⟩
    have hm : parseMarks ns _ _ = _ := parseMarks_of_marked hmr
    rw [parseBody_regexp rfl ((entry_iff_of_isRegexp hr).mp h).1,mapDomain] at hm
    simp only [Bool.false_eq_true,if_false,nil_append,append_nil] at hm
    refine ⟨_,hm,?_,?_,rfl⟩
    · obtain ⟨_,_,_⟩ := kn
      obtain rfl := hr
      rfl
    · exact append_nil s
  | false =>
    obtain ⟨ln,hp,rfl⟩ := (entry_iff_of_pattern hr).mp h
    have hrd : Pattern ns (kn.line ln) := ⟨hp.nonempty,hp.bytes,hp.isDomainName⟩
    have hm : parseMarks ns _ _ = _ := parseMarks_of_marked (marked_pattern kn hp)
    rw [mapDomain_line,parseBody_pattern hrd] at hm
    refine ⟨kn.line ln,hm,?_,mapDomain_line kn ln,rfl⟩
    obtain ⟨_,_,_⟩ := kn
    obtain rfl := hr
    rfl

variable {b : UInt8} {k : Kind} {s : Bytes}

lemma Pattern.not_mem_mapDomain {ln : RuleLine} (h : Pattern ns ln)
    (hb : (isNameByte b || b == 42 || (b == 124 || b == 94)) = false) : b ∉ mapDomain ln := by
  rw [Bool.or_eq_false_iff,Bool.or_eq_false_iff (x := b == 124),beq_eq_false_iff_ne,beq_eq_false_iff_ne] at hb
  obtain ⟨hp,hbr,hc⟩ := hb
  have hm : ∀ m : Bytes, (m.all fun x => x == 124 || x == 94) = true → b ∉ m := by
    intro m ha hmm
    have hbt := all_eq_true.mp ha b hmm
    rw [Bool.or_eq_true,beq_iff_eq,beq_iff_eq] at hbt
    exact hbt.elim hbr hc
  unfold mapDomain
  rw [mem_append,mem_append]
  rintro (hmm | hmm | hmm)
  · refine hm _ ?_ hmm
    split_ifs <;> decide
  · exact h.not_mem hp hmm
  · refine hm _ ?_ hmm
    split_ifs <;> decide

/-- The first byte of a written line: exceptions and expressions begin with their marks, patterns with none of
the bytes that have a meaning there. -/
lemma first_write (h : Entry ns k s) : ∃ b r, k.write s = b::r ∧
    b ≠ 33 ∧ b ≠ 35 ∧ ((k.isExclude || k.isRegexp) = true → b = 47 ∨ b = 64) ∧
      ((k.isExclude || !k.isRegexp) = true → b ≠ 47) := by
  unfold Kind.write
  cases he : k.isExclude with
  | true => exact ⟨64,_,rfl,by decide,by decide,fun _ => .inr rfl,fun _ => by decide⟩
  | false =>
    cases hr : k.isRegexp with
    | true => exact ⟨47,_,rfl,by decide,by decide,fun _ => .inl rfl,fun hn => absurd hn Bool.false_ne_true⟩
    | false =>
      obtain ⟨ln,hp,rfl⟩ := (entry_iff_of_pattern hr).mp h
      obtain ⟨b,r,hf,_⟩ := (marked_pattern k hp).first_mapDomain
      rw [mapDomain_line] at hf
      have hne : ∀ x, (isNameByte x || x == 42 || (x == 124 || x == 94)) = false → b ≠ x := fun x hx heq =>
        hp.not_mem_mapDomain hx (by rw [hf,heq]; exact mem_cons_self)
      refine ⟨b,_,by rw [hf]; rfl,hne 33 (by decide),hne 35 (by decide),fun hm => ?_,fun _ => hne 47 (by decide)⟩
      cases hm

lemma last_write (h : Entry ns k s) : ∃ f b, k.write s = f++[b] ∧ b ≠ 124 ∧ b ≠ 13 := by
  unfold Kind.write
  generalize (if k.isExclude then ascii "@@" else []) = m
  cases k.isImportant with
  | true =>
    generalize (if k.isRegexp then ascii "/"++(s++ascii "/") else s) = bd
    refine ⟨m++(bd++ascii "$importan"),116,?_,by decide,by decide⟩
    rw [append_assoc,append_assoc]
    rfl
  | false =>
    rw [if_neg Bool.false_ne_true,append_nil]
    cases hr : k.isRegexp with
    | true =>
      refine ⟨m++(ascii "/"++s),47,?_,by decide,by decide⟩
      rw [append_assoc,append_assoc]
      rfl
    | false =>
      obtain ⟨ln,hp,rfl⟩ := (entry_iff_of_pattern hr).mp h
      obtain ⟨f,b,hl,hb⟩ := (marked_pattern k hp).last_mapDomain
      rw [mapDomain_line] at hl
      refine ⟨m++f,b,?_,hb,fun heq => ?_⟩
      · rw [if_neg Bool.false_ne_true,hl,append_assoc]
      · refine hp.not_mem_mapDomain (b := 13) (by decide) ?_
        rw [hl,heq]
        exact mem_append_right _ mem_cons_self

lemma not_mem_write (k : Kind) (hs : b ∉ s) (hm : b ∉ ascii "@@/$important") : b ∉ k.write s := by
  have hmr : ∀ m : Bytes, (m.all fun x => (ascii "@@/$important").contains x) = true → b ∉ m :=
    fun m ha hmm => hm (contains_iff_mem.mp (all_eq_true.mp ha b hmm))
  have hsl : b ∉ ascii "/" := hmr _ (by decide)
  unfold Kind.write
  rw [mem_append,mem_append]
  rintro (hmm | hmm | hmm)
  · refine hmr _ ?_ hmm
    split_ifs <;> decide
  · split_ifs at hmm
    · rw [mem_append,mem_append] at hmm
      exact hmm.elim hsl fun hmm => hmm.elim hs hsl
    · exact hs hmm
  · refine hmr _ ?_ hmm
    split_ifs <;> decide

lemma not_newline_mem_write (h : Entry ns k s) : 10 ∉ k.write s := by
  refine not_mem_write k ?_ (by decide)
  cases hr : k.isRegexp with
  | true => exact ((entry_iff_of_isRegexp hr).mp h).2.1
  | false =>
    obtain ⟨ln,hp,rfl⟩ := (entry_iff_of_pattern hr).mp h
    exact hp.not_mem_mapDomain (by decide)

lemma parseAdGuardHostLine_write (l : NameLaws ns) (h : Entry ns k s) :
    parseAdGuardHostLine ns (k.write s) = none := by
  unfold parseAdGuardHostLine
  cases hc : cut (ascii " ") (k.write s) with
  | none => rfl
  | some ps =>
    dsimp only
    cases ha : ns.parseAddr ps.1 with
    | none => rfl
    | some =>
      -- an address at the front, or no space in a pattern
      exfalso
      obtain ⟨x,r,hx,hs,hat⟩ := l.parseAddr ps.1 (by rw [ha]; rfl)
      have hw := eq_append_of_cut hc
      obtain ⟨b,_,hf,_,_,hm,_⟩ := first_write h
      cases hr : k.isExclude || k.isRegexp with
      | true =>
        rw [hf,hx] at hw
        obtain rfl := (cons.inj hw).1
        exact (hm hr).elim hs hat
      | false =>
        obtain ⟨ln,hp,rfl⟩ := (entry_iff_of_pattern (Bool.or_eq_false_iff.mp hr).2).mp h
        refine not_mem_write k (hp.not_mem_mapDomain (b := 32) (by decide)) (by decide) ?_
        rw [hw]
        exact mem_append_right _ (mem_append_left _ mem_cons_self)

lemma isDomainName_of_mem (l : NameLaws ns) (hb : isNameByte b = false) (hm : b ∈ s) : ns.isDomainName s = false := by
  by_contra hn
  rw [Bool.not_eq_false] at hn
  exact Bool.false_ne_true (hb.symm.trans (l.isNameByte s hn b hm))

lemma isDomainName_write (l : NameLaws ns) (s : Bytes) (h : k ≠ domain) : ns.isDomainName (k.write s) = false := by
  cases he : k.isExclude with
  | true =>
    refine isDomainName_of_mem l (b := 64) (by decide) ?_
    rw [Kind.write,he]
    exact mem_append_left _ mem_cons_self
  | false =>
    cases hr : k.isRegexp with
    | true =>
      refine isDomainName_of_mem l (b := 47) (by decide) ?_
      rw [Kind.write,hr]
      exact mem_append_right _ (mem_append_left _ (mem_append_left _ mem_cons_self))
    | false =>
      cases him : k.isImportant with
      | true =>
        refine isDomainName_of_mem l (b := 36) (by decide) ?_
        rw [Kind.write,him]
        exact mem_append_right _ (mem_append_right _ mem_cons_self)
      | false =>
        refine absurd ?_ h
        obtain ⟨_,_,_⟩ := k
        obtain rfl := he
        obtain rfl := hr
        obtain rfl := him
        rfl

lemma parseLine_start (h : Entry ns k s) : k.write s ≠ [] ∧ ¬ (ascii "!" <+: k.write s ∨ ascii "#" <+: k.write s) := by
  obtain ⟨b,r,hf,hb,hh,_,_⟩ := first_write h
  rw [hf]
  refine ⟨cons_ne_nil b r,?_⟩
  rintro (hp | hp)
  · exact not_isPrefix_of_head rfl hb.symm hp
  · exact not_isPrefix_of_head rfl hh.symm hp

lemma parseLine_of_entry (l : NameLaws ns) (h : Entry ns k s) (hn : ns.isDomainName (k.write s) = false) :
    parseLine ns (k.write s) = parseModifiers ns (k.write s) := by
  obtain ⟨hne,hc⟩ := parseLine_start h
  obtain ⟨f,x,hl,hb,_⟩ := last_write h
  have he : cutSuffix (ascii "|") (k.write s) = (k.write s,false) := by
    rw [hl]
    exact cutSuffix_of_not (not_isSuffix_of_last rfl hb.symm)
  rw [parseLine,if_neg hne,if_neg hc,hn,if_neg Bool.false_ne_true,parseAdGuardHostLine_write l h]
  rw [he]

lemma Entry.dollar_not_mem (h : Entry ns k s)
    (hk : (k.isExclude || k.isImportant || !k.isRegexp) = true) : 36 ∉ s := by
  cases hr : k.isRegexp with
  | true =>
    rw [hr,Bool.not_true,Bool.or_false] at hk
    exact ((entry_iff_of_isRegexp hr).mp h).2.2 hk
  | false =>
    obtain ⟨ln,hp,rfl⟩ := (entry_iff_of_pattern hr).mp h
    exact hp.not_mem_mapDomain (by decide)

lemma parseModifiers_write (h : Entry ns k s) (hk : k ≠ importantDomainRegex) :
    parseModifiers ns (k.write s) = parseMarks ns ((if k.isExclude then ascii "@@" else [])++
      if k.isRegexp then ascii "/"++(s++ascii "/") else s) k.isImportant := by
  obtain ⟨b,r,hf,_,_,_,hs⟩ := first_write h
  cases hr : k.isExclude || !k.isRegexp with
  | true =>
    have hn : ¬ ascii "/" <+: k.write s := by
      rw [hf]
      exact not_isPrefix_of_head rfl (hs hr).symm
    have hd : 36 ∉ s := h.dollar_not_mem (by rw [Bool.or_right_comm,hr,Bool.true_or])
    have hb : 36 ∉ (if k.isExclude then ascii "@@" else [])++
        if k.isRegexp then ascii "/"++(s++ascii "/") else s := by
      rw [mem_append]
      rintro (hm | hm)
      · revert hm
        split_ifs <;> decide
      · split_ifs at hm
        · rw [mem_append,mem_append] at hm
          exact hm.elim (by decide) fun hm => hm.elim hd (by decide)
        · exact hd hm
    rw [parseModifiers,if_neg hn,Kind.write,← append_assoc]
    generalize (if k.isExclude then ascii "@@" else [])++
      (if k.isRegexp then ascii "/"++(s++ascii "/") else s) = body at *
    cases k.isImportant with
    | true =>
      have hc : cut (ascii "$") (body++ascii "$important") = some (body,ascii "important") :=
        cut_append_of_not_mem hb (ascii "important")
      have hp : readParams ns ((ascii "important").splitOn 44) false = some true := rfl
      rw [if_pos rfl,hc]
      dsimp only
      rw [hp]
    | false =>
      have hc : cut (ascii "$") body = none := cut_eq_none_of_not_mem hb
      rw [if_neg Bool.false_ne_true,append_nil,hc]
  | false =>
    -- an expression that blocks: not an important one, so it has no modifier
    obtain ⟨ii,ir,ie⟩ := k
    rw [Bool.or_eq_false_iff,Bool.not_eq_false'] at hr
    obtain ⟨rfl,rfl⟩ := hr
    cases ii with
    | true => exact absurd rfl hk
    | false =>
      rw [parseModifiers,Kind.write]
      simp only [if_true,Bool.false_eq_true,if_false,nil_append,append_nil]
      exact if_pos (prefix_append _ _)

lemma parseLine_write (laws : NameLaws ns) (h : Entry ns k s)
    (hk : k ≠ importantDomainRegex) : ∃ l, parseLine ns (k.write s) = .kept l ∧ l.kind = k ∧
      mapDomain l = s ∧ l.isRawDomain = (decide (k = domain) && ns.isDomainName s) := by
  have hd : domain.write s = s := append_nil s
  cases hn : ns.isDomainName (k.write s) with
  | true =>
    obtain rfl : k = domain := by
      by_contra hne
      exact Bool.false_ne_true ((isDomainName_write laws s hne).symm.trans hn)
    obtain ⟨hne,hc⟩ := parseLine_start h
    rw [hd] at hn hne hc ⊢
    refine ⟨{ ruleLine := s, isRawDomain := true },?_,rfl,append_nil s,by rw [hn]; rfl⟩
    rw [parseLine,if_neg hne,if_neg hc,if_pos hn]
  | false =>
    obtain ⟨l,hm,hr,ht,hrw⟩ := parseMarks_write h
    refine ⟨l,?_,hr,ht,?_⟩
    · rw [parseLine_of_entry laws h hn,parseModifiers_write h hk,hm]
    · rw [hrw]
      by_cases hb : k = domain
      · subst hb
        rw [hd] at hn
        rw [hn,Bool.and_false]
      · rw [decide_eq_false hb,Bool.false_and]

lemma parseLine_write_importantDomainRegex (l : NameLaws ns) (h : Entry ns importantDomainRegex s) :
    parseLine ns (importantDomainRegex.write s) = .skipped := by
  have hn : ns.isDomainName (importantDomainRegex.write s) = false := isDomainName_write l s (by decide)
  have hs : ascii "/" <+: importantDomainRegex.write s := prefix_append _ _
  have hw : importantDomainRegex.write s = (ascii "/"++(s++ascii "/"))++ascii "$important" := rfl
  rw [parseLine_of_entry l h hn,parseModifiers,if_pos hs]
  generalize importantDomainRegex.write s = rl at *
  have hl : rl = ((ascii "/"++(s++ascii "/"))++ascii "$importan")++[116] := by
    rw [hw,append_assoc _ _ [116]]
    rfl
  have hmr : Marked { ruleLine := rl } :=
    ⟨rfl,rfl,fun hsf => absurd hsf Bool.false_ne_true,by rw [hw]; exact ⟨47,_,rfl,by decide,by decide⟩,
      ⟨_,116,hl,by decide,by decide⟩⟩
  have hm : parseMarks ns _ _ = _ := parseMarks_of_marked hmr
  rw [mapDomain] at hm
  simp only [Bool.false_eq_true,if_false,nil_append,append_nil] at hm
  have hb : ¬ (ascii "/" <+: rl ∧ ascii "/" <:+ rl) := by
    rw [hl]
    exact fun hsl => not_isSuffix_of_last rfl (by decide) hsl.2
  rw [hm,parseBody,if_neg hb,parseDomain]
  cases hc : cut (ascii "://") rl with
  | none =>
    have ha : (rl.any fun b => unsupported.contains b) = true := any_eq_true.mpr ⟨47,hs.mem mem_cons_self,by decide⟩
    rw [if_pos ha]
  | some ps =>
    -- what follows a scheme still has the dollar sign
    have hd : (36 : UInt8) ∈ ps.2 := by
      have hsc : ascii "://"++ps.2 <:+ rl := ⟨ps.1,(eq_append_of_cut hc).symm⟩
      have him : ascii "$important" <:+ rl := by
        rw [hw]
        exact suffix_append _ _
      obtain hp | hp := suffix_or_suffix_of_suffix him hsc
      · exact (mem_append.mp (hp.mem mem_cons_self)).resolve_left (by decide)
      · exact absurd (hp.mem mem_cons_self) (by decide)
    have hnt : ns.isDomainName (domainCheck ps.2) = false := by
      refine isDomainName_of_mem l (by decide) (mem_map.mpr ⟨36,?_,rfl⟩)
      split_ifs
      · exact mem_append_right _ hd
      · exact hd
    rw [hnt,Bool.not_false,if_pos rfl]
    split_ifs <;> rfl

end SingBox.AdGuard
