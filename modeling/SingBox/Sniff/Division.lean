import SingBox.Sniff.Recognised

/-! What a stream sniffer says of the bytes that have come, as they are divided between the buffers of earlier rules
and the one that is read into. -/

namespace PartReader
variable {τ ε α β : Type} {r : PartReader τ ε α} {k : α → PartReader τ ε β}

/-- The result without the division of what is left. -/
def joined (x : Except ε (α × List (List τ))) : Except ε (α × List τ) := x.map fun read => (read.1,read.2.flatten)

/-- The reader does not tell one division of its input from another. -/
def Indifferent (r : PartReader τ ε α) : Prop :=
  ∀ ⦃parts parts'⦄, parts.flatten = parts'.flatten → joined (r parts) = joined (r parts')

lemma joined_bind {pt pt' : List (List τ)} (hr : joined (r pt) = joined (r pt'))
    (hk : ∀ a rs rs', r pt = .ok (a,rs) → r pt' = .ok (a,rs') → rs.flatten = rs'.flatten →
      joined (k a rs) = joined (k a rs')) : joined ((r >>= k) pt) = joined ((r >>= k) pt') := by
  cases hrd : r pt with
  | error =>
    cases hr' : r pt' with
    | error => simpa [bind_of_error hrd,bind_of_error hr',hrd,hr',joined,Except.map] using hr
    | ok => simp [hrd,hr',joined,Except.map] at hr
  | ok rd =>
    cases hr' : r pt' with
    | error => simp [hrd,hr',joined,Except.map] at hr
    | ok rd' =>
      obtain ⟨a,rs⟩ := rd
      obtain ⟨a',rs'⟩ := rd'
      simp only [hrd,hr',joined,Except.map,Except.ok.injEq,Prod.mk.injEq] at hr
      obtain ⟨rfl,hrs⟩ := hr
      rw [bind_of_ok hrd,bind_of_ok hr']
      exact hk a rs rs' hrd hr' hrs

lemma Indifferent.bind (hr : Indifferent r) (hk : ∀ a, Indifferent (k a)) : Indifferent (r >>= k) :=
  fun _ _ h => joined_bind (hr h) fun a _ _ _ _ hrs => hk a hrs

lemma indifferent_ofExcept (x : Except ε α) : Indifferent (ofExcept (τ := τ) x) := by
  intro pt pt' h
  cases x with
  | error => rfl
  | ok => simp [ofExcept,joined,Except.map,h]

lemma indifferent_pure (a : α) : Indifferent (pure a : PartReader τ ε α) := indifferent_ofExcept (.ok a)

lemma indifferent_reject (c : Bool) (e : ε) : Indifferent (reject (τ := τ) c e) := by
  cases c with
  | false => exact indifferent_ofExcept (.ok ())
  | true => exact indifferent_ofExcept (.error e)

lemma indifferent_window (n : ℕ) (rf : List τ → Option ε) (s : List τ → ε) : Indifferent (window n rf s) := by
  intro pt pt' h
  simp only [window,Parts.readFull_fst,h]
  split
  · rfl
  · split_ifs
    · rfl
    · simp [joined,Except.map,Parts.readFull_fst,Parts.readFull_snd,h]

lemma Indifferent.peek (hr : Indifferent r) : Indifferent (peek r) := by
  intro pt pt' h
  have hs := hr h
  unfold PartReader.peek
  cases hrd : r pt <;> cases hr' : r pt' <;> simp_all [joined,Except.map]

end PartReader

namespace SingBox.Sniff
open Adapter Route PartReader

section

lemma indifferent_binaryRead (n : ℕ) : Indifferent (binaryRead n) :=
  (indifferent_window _ _ _).bind fun _ => indifferent_pure _

lemma indifferent_expect (n e : ℕ) : Indifferent (expect n e) :=
  (indifferent_binaryRead n).bind fun _ => indifferent_reject _ _

lemma indifferent_rdp : Indifferent rdp := by
  iterate 5 refine (indifferent_expect _ _).bind fun _ => ?_
  refine (indifferent_window _ _ _).bind fun _ => (indifferent_expect _ _).bind fun _ => ?_
  exact (indifferent_binaryRead 1).bind fun _ => (indifferent_expect _ _).bind fun _ => indifferent_pure _

lemma indifferent_ssh : Indifferent ssh := by
  refine (indifferent_window _ _ _).peek.bind fun _ => Indifferent.bind ?_ fun _ => indifferent_pure _
  exact fun pt pt' h => by simp only [h]

lemma indifferent_streamDomainNameQuery (u : Bytes → Except GoError DNS.Msg) : Indifferent (streamDomainNameQuery u) :=
  (indifferent_binaryRead 2).bind fun _ => (indifferent_reject _ _).bind fun _ =>
    (indifferent_window _ _ _).bind fun _ => indifferent_ofExcept _

/-- What the one `Read` behind the first byte gets. -/
def headerRead (parts : List Bytes) : Bytes := (Parts.read 19 (Parts.readFull 1 parts).2).1

/-- Behind a first byte of 19 both reads begin the header or neither does, and both are all of it or neither is. -/
def AlikeReads (parts parts' : List Bytes) : Prop :=
  parts.flatten.head? = some 19 →
    (headerRead parts <+: bitTorrentHeader ↔ headerRead parts' <+: bitTorrentHeader) ∧
    (headerRead parts = bitTorrentHeader ↔ headerRead parts' = bitTorrentHeader)

variable {ps pr' : List Bytes}

lemma toSniffer_congr {r : StreamReader (InboundContext → InboundContext)} (h : joined (r ps) = joined (r pr'))
    (m : InboundContext) : toSniffer r m ps = toSniffer r m pr' := by
  rw [toSniffer,toSniffer]
  cases hr : r ps <;> cases hr' : r pr' <;> simp_all [joined,Except.map]

lemma headerRead_eq_nil_iff {rs : Bytes} (h : ps.flatten = 19::rs) : headerRead ps = [] ↔ rs = [] := by
  have hrs : (Parts.readFull 1 ps).2.flatten = rs := by rw [Parts.readFull_snd,h,List.drop_one,List.tail_cons]
  rw [headerRead]
  refine ⟨fun hn => by_contra fun hne => Parts.read_ne_nil (by decide) (hrs ▸ hne) hn,?_⟩
  rintro rfl
  have ha := Parts.read_append 19 (Parts.readFull 1 ps).2
  rw [hrs] at ha
  exact (List.append_eq_nil_iff.mp ha).1

lemma toSniffer_bitTorrent {rs : Bytes} (h : ps.flatten = 19::rs) (m : InboundContext) :
    toSniffer bitTorrent m ps = if headerRead ps <+: bitTorrentHeader then
      if rs = [] then (m,some (needMoreData errEOF.text))
      else if headerRead ps = bitTorrentHeader then ({ m with protocol := "bittorrent" },none)
      else (m,some errNeedMoreData)
    else (m,some errInvalid) := by
  have he : expect 1 19 ps = .ok ((),(Parts.readFull 1 ps).2) := expect_of_cons h
  have hr : readProtocol (Parts.readFull 1 ps).2 =
      if headerRead ps ≠ bitTorrentHeader.take (headerRead ps).length then .error errInvalid
      else if headerRead ps = [] then .error (needMoreData errEOF.text)
      else if (headerRead ps).length < 19 then .error errNeedMoreData
      else .ok ((),(Parts.read 19 (Parts.readFull 1 ps).2).2) := rfl
  simp only [Ne,← List.prefix_iff_eq_take,headerRead_eq_nil_iff h] at hr
  rw [toSniffer,bitTorrent,bind_of_ok he]
  by_cases hp : headerRead ps <+: bitTorrentHeader
  · rw [if_neg (not_not.mpr hp)] at hr
    rw [if_pos hp]
    split_ifs at hr ⊢ with hn heq hlt hlt
    · rw [bind_of_error hr]
    · rw [heq] at hlt
      exact absurd hlt (by decide)
    · rw [bind_of_ok hr]
      rfl
    · rw [bind_of_error hr]
    · exact absurd (hp.eq_of_length_le (not_lt.mp hlt)) heq
  · rw [if_pos hp] at hr
    rw [if_neg hp,bind_of_error hr]

lemma toSniffer_bitTorrent_iff (h : ps.flatten = pr'.flatten) :
    (∀ m, toSniffer bitTorrent m ps = toSniffer bitTorrent m pr') ↔ AlikeReads ps pr' := by
  unfold AlikeReads
  by_cases hh : ps.flatten.head? = some 19
  · obtain ⟨rs,hrs⟩ : ∃ rs, ps.flatten = 19::rs := List.head?_eq_some_iff.mp hh
    have hrs' := h.symm.trans hrs
    simp only [toSniffer_bitTorrent hrs,toSniffer_bitTorrent hrs',hh,true_implies]
    by_cases hn : rs = []
    · simp [hn,(headerRead_eq_nil_iff hrs).mpr hn,(headerRead_eq_nil_iff hrs').mpr hn]
    · have hp : ∀ ps, ¬ headerRead ps <+: bitTorrentHeader → headerRead ps ≠ bitTorrentHeader :=
        fun ps hps heq => hps (heq ▸ List.prefix_rfl)
      have hne : errNeedMoreData ≠ errInvalid := fun heq => absurd (congrArg GoError.needMoreData heq) (by decide)
      simp only [if_neg hn]
      constructor
      · intro hs
        have := hs {}
        split_ifs at this <;> simp_all
      · rintro ⟨hpr,hhd⟩ m
        simp only [hpr,hhd]
  · refine iff_of_true (fun m => toSniffer_congr (joined_bind (indifferent_expect 1 19 h) ?_) m) fun h19 => absurd h19 hh
    intro _ rs rs' hf
    obtain ⟨hl,hv,-⟩ := expect_eq_ok hf
    cases hfl : ps.flatten with
    | nil => simp [hfl] at hl
    | cons b =>
      rw [hfl] at hv hh
      have hb : b = 19 := UInt8.toNat_inj.mp (by simpa [BigEndian.read] using hv)
      exact absurd (congrArg some hb) hh

lemma sniffStream_congr {e : ErrorOps} {ss : List StreamSniffer}
    (h : ∀ s ∈ ss, ∀ m, s m ps = s m pr') (m : InboundContext)
    (er : Option GoError) : sniffStream e ps ss m er = sniffStream e pr' ss m er := by
  induction ss generalizing m er with
  | nil => rfl
  | cons s ss ih =>
    rw [sniffStream,sniffStream,h s List.mem_cons_self]
    split
    · rfl
    · exact ih (fun o hm => h o (List.mem_cons_of_mem s hm)) _ _

end

/-- `tls.Server` and `http.ReadRequest` read their bytes from the connection as a stream. -/
structure StreamLibrary extends Library where
  handshake_eq : ∀ parts, handshake parts = handshake [parts.flatten]
  readRequest_eq : ∀ parts, readRequest parts = readRequest [parts.flatten]

/-- A round of `PeekStream` gives the same result for both divisions, whatever the metadata. -/
def StreamLibrary.SameVerdict (lib : StreamLibrary) (e : ErrorOps) (kinds : List BuiltInStream)
    (parts parts' : List Bytes) : Prop :=
  ∀ metadata, sniffStream e parts (kinds.map lib.stream) metadata none =
    sniffStream e parts' (kinds.map lib.stream) metadata none

lemma StreamLibrary.stream_congr (l : StreamLibrary) {kn : BuiltInStream} {pt pt' : List Bytes}
    (h : pt.flatten = pt'.flatten) (hk : kn = .read .bitTorrent → AlikeReads pt pt') (m : InboundContext) :
    l.stream kn m pt = l.stream kn m pt' := by
  cases kn with
  | tls => simp only [Library.stream,Library.tlsClientHello,l.handshake_eq pt,l.handshake_eq pt',h]
  | http => simp only [Library.stream,Library.httpHost,l.readRequest_eq pt,l.readRequest_eq pt',h]
  | read p =>
    cases p with
    | bitTorrent => exact (toSniffer_bitTorrent_iff h).mpr (hk rfl) m
    | rdp => exact toSniffer_congr (indifferent_rdp h) m
    | ssh => exact toSniffer_congr (indifferent_ssh h) m
    | dns => exact toSniffer_congr (indifferent_streamDomainNameQuery _ h) m

end SingBox.Sniff
