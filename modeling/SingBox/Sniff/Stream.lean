import SingBox.Library.Incremental
import SingBox.Route.Script
import SingBox.Sniff.QUIC

/-! The stream sniffers of `bittorrent.go`, `rdp.go`, `ssh.go` and `dns.go` in `common/sniff`, and `PeekStream` on a
stream that one of them recognises. A sniffer is shown the parts in which the stream was read. How package `dns`
unpacks a message is left open. -/
namespace SingBox.Sniff
open Adapter Route PartReader List

/-- A sniffer reads the stream and says how the metadata changes. -/
abbrev StreamReader := PartReader UInt8 GoError

def errNeedMoreData : GoError := { text := "need more data", needMoreData := true }

def NeedsMore (err : GoError) : Prop := err.needMoreData = true

/-- What `io.ReadFull` reports when it got no more than `bytes`, as a cause of `ErrNeedMoreData`. -/
def shortRead (bytes : Bytes) : GoError := needMoreData (if bytes = [] then errEOF.text else errUnexpectedEOF.text)

/-- `binary.Read` of an unsigned number of `n` bytes. -/
def binaryRead (n : ℕ) : StreamReader ℕ := do
  let bytes ← window n (fun _ => none) shortRead
  pure (BigEndian.read bytes)

/-- `rw.SkipN`. -/
def skipN (n : ℕ) : StreamReader Bytes := window n (fun _ => none) fun _ => needMoreData errEOF.text

def expect (n expected : ℕ) : StreamReader Unit := do
  let value ← binaryRead n
  reject (value != expected) errInvalid

def bitTorrentHeader : Bytes := ascii "BitTorrent protocol"

/-- The text after the first byte is read by one `Read`, so it has to lie in one part. -/
def readProtocol : StreamReader Unit := fun parts =>
  let read := Parts.read 19 parts
  if read.1 ≠ bitTorrentHeader.take read.1.length then .error errInvalid
  else if read.1 = [] then .error (needMoreData errEOF.text)
  else if read.1.length < 19 then .error errNeedMoreData
  else .ok ((),read.2)

def bitTorrent : StreamReader (InboundContext → InboundContext) := do
  expect 1 19
  readProtocol
  pure fun metadata => { metadata with protocol := "bittorrent" }

def rdp : StreamReader (InboundContext → InboundContext) := do
  expect 1 0x03 -- tpktVersion
  expect 1 0x00 -- tpktReserved
  expect 2 19 -- tpktLength
  expect 1 14 -- cotpLength
  expect 1 0xE0 -- cotpTpduType
  let _ ← skipN 5
  expect 1 0x01 -- rdpType
  let _ ← binaryRead 1 -- rdpFlags
  expect 1 8 -- rdpLength
  pure fun metadata => { metadata with protocol := "rdp" }

def sshPrefix : Bytes := ascii "SSH-2.0-"

def refusePrefix (start : Bytes) : Option GoError :=
  if start ≠ sshPrefix.take start.length then some errInvalid else none

def dropReturn (line : Bytes) : Bytes := if line.getLast? = some 0x0d then line.dropLast else line

/-- `bufio.Reader.ReadLine` with a buffer of `size` bytes: the line, and what is left. A line that fills the buffer
is cut there. It fails on an empty input only. -/
def readLine (size : ℕ) (data : Bytes) : Bytes × Bytes :=
  let line := (data.take size).takeWhile (· != 0x0a)
  if line.length < (data.take size).length then (dropReturn line,data.drop (line.length+1))
  else if size ≤ data.length then (dropReturn line,data.drop (dropReturn line).length)
  else (line,[])

def ssh : StreamReader (InboundContext → InboundContext) := do
  let _ ← peek (window 8 refusePrefix fun _ => needMoreData errEOF.text)
  let firstLine ← (fun parts => .ok ((readLine 4096 parts.flatten).1,[(readLine 4096 parts.flatten).2]))
  pure fun metadata => { metadata with protocol := "ssh", client := textOf (firstLine.drop 8) }

section
variable (unpack : Bytes → Except GoError DNS.Msg)

/-- A message that has something in it but one query sets no protocol, and is no error either. -/
def domainNameQuery (packet : Bytes) : Except GoError (InboundContext → InboundContext) :=
  match unpack packet with
  | .error err => .error err
  | .ok msg =>
      if msg.response || msg.question.length == 0 || msg.answer.length > 0 || msg.ns.length > 0 then .ok id
      else .ok fun metadata => { metadata with protocol := "dns" }

/-- The checks of the message header, as far as it is there: QR, QDCOUNT, ANCOUNT and NSCOUNT. -/
def refuseHeader (packet : Bytes) : Option GoError :=
  if packet[2]?.any (fun flags => flags &&& 0x80 != 0) then some errInvalid
  else if packet[4]? == some 0 && packet[5]? == some 0 then some errInvalid
  else if [6,7,8,9].any fun i : ℕ => packet[i]?.any (· != 0) then some errInvalid
  else none

def streamDomainNameQuery : StreamReader (InboundContext → InboundContext) := do
  let length ← binaryRead 2
  reject (decide (length < 12)) errInvalid
  let packet ← window length refuseHeader shortRead
  PartReader.ofExcept (domainNameQuery unpack packet)

end

/-- A reader as a sniffer of `PeekStream`. -/
def toSniffer (r : StreamReader (InboundContext → InboundContext)) : StreamSniffer := fun metadata parts =>
  match r parts with
  | .ok (update,_) => (update metadata,none)
  | .error err => (metadata,some err)

inductive StreamProtocol
  | bitTorrent | rdp | ssh | dns
  deriving DecidableEq

def StreamProtocol.reader (unpack : Bytes → Except GoError DNS.Msg) :
    StreamProtocol → StreamReader (InboundContext → InboundContext)
  | .bitTorrent => Sniff.bitTorrent
  | .rdp => Sniff.rdp
  | .ssh => Sniff.ssh
  | .dns => streamDomainNameQuery unpack

def StreamProtocol.sniffer (unpack : Bytes → Except GoError DNS.Msg) (protocol : StreamProtocol) : StreamSniffer :=
  toSniffer (protocol.reader unpack)

/-! ### What the readers accept, on longer and on shorter inputs -/

lemma needsMore_needMoreData (c : String) : NeedsMore (needMoreData c) := rfl

lemma incremental_binaryRead (n : ℕ) : Incremental NeedsMore (binaryRead n) :=
  (incremental_window (fun _ _ _ _ => rfl) fun _ => needsMore_needMoreData _).bind fun _ => incremental_pure _

lemma incremental_skipN (n : ℕ) : Incremental NeedsMore (skipN n) :=
  incremental_window (fun _ _ _ _ => rfl) fun _ => needsMore_needMoreData _

lemma incremental_expect (n ex : ℕ) : Incremental NeedsMore (expect n ex) :=
  (incremental_binaryRead n).bind fun _ => incremental_reject _ _

lemma incremental_rdp : Incremental NeedsMore rdp := by
  refine (incremental_expect 1 0x03).bind fun _ => ?_
  refine (incremental_expect 1 0x00).bind fun _ => ?_
  refine (incremental_expect 2 19).bind fun _ => ?_
  refine (incremental_expect 1 14).bind fun _ => ?_
  refine (incremental_expect 1 0xE0).bind fun _ => ?_
  refine (incremental_skipN 5).bind fun _ => ?_
  refine (incremental_expect 1 0x01).bind fun _ => ?_
  refine (incremental_binaryRead 1).bind fun _ => ?_
  refine (incremental_expect 1 8).bind fun _ => ?_
  exact incremental_pure _

lemma refusePrefix_of_prefix (xs ys : Bytes) (hle : xs <+: ys) (h : refusePrefix ys = none) :
    refusePrefix xs = none := by
  have hys : ys = sshPrefix.take ys.length := by simpa [refusePrefix] using h
  have hxs : xs <+: sshPrefix := by
    rw [hys] at hle
    exact hle.trans <| take_prefix _ _
  have heq : xs = sshPrefix.take xs.length := prefix_iff_eq_take.mp hxs
  rw [refusePrefix,if_neg (not_not.mpr heq)]

lemma steady_ssh : Steady NeedsMore ssh :=
  (incremental_window refusePrefix_of_prefix fun _ => needsMore_needMoreData _).peek.bind_accepting
    fun _ _ => ⟨_,rfl⟩

lemma refuseHeader_of_prefix (xs ys : Bytes) (hle : xs <+: ys) (h : refuseHeader ys = none) :
    refuseHeader xs = none := by
  have hg : ∀ {i : ℕ} {b : UInt8}, xs[i]? = some b → ys[i]? = some b := by
    intro i b hb
    obtain ⟨rs,rfl⟩ := hle
    rw [List.getElem?_append_left (List.getElem?_eq_some_iff.mp hb).1]
    exact hb
  have ha : ∀ {i : ℕ} {p : UInt8 → Bool}, xs[i]?.any p = true → ys[i]?.any p = true := by
    intro i p hp
    cases hx : xs[i]? with
    | none =>
      rw [hx] at hp
      cases hp
    | some =>
      rw [hx] at hp
      rw [hg hx]
      exact hp
  unfold refuseHeader at h ⊢
  split_ifs at h with hf hq hc
  rw [if_neg fun hx => hf (ha hx),if_neg,if_neg]
  · intro hx
    obtain ⟨i,hi,hx⟩ := List.any_eq_true.mp hx
    exact hc (List.any_eq_true.mpr ⟨i,hi,ha hx⟩)
  · intro hx
    simp only [Bool.and_eq_true,beq_iff_eq] at hx hq
    exact hq ⟨hg hx.1,hg hx.2⟩

lemma incremental_streamDomainNameQuery (unpack : Bytes → Except GoError DNS.Msg) :
    Incremental NeedsMore (streamDomainNameQuery unpack) := by
  refine (incremental_binaryRead 2).bind fun _ => ?_
  refine (incremental_reject _ _).bind fun _ => ?_
  refine (incremental_window refuseHeader_of_prefix fun _ => needsMore_needMoreData _).bind fun _ => ?_
  exact incremental_ofExcept _

section
variable {parts : List Bytes}

/-- One `Read` behind the first byte gets the whole header. -/
def HeaderTogether (parts : List Bytes) : Prop := 19 ≤ (Parts.read 19 (Parts.readFull 1 parts).2).1.length

lemma expect_of_cons {b : UInt8} {rs : Bytes} (h : parts.flatten = b :: rs) :
    expect 1 b.toNat parts = .ok ((),(Parts.readFull 1 parts).2) := by
  have hr : Parts.readFull 1 parts = ([b],(Parts.readFull 1 parts).2) :=
    Prod.ext (by rw [Parts.readFull_fst,h]; rfl) rfl
  have hw : window 1 (fun _ => none) shortRead parts = .ok ([b],(Parts.readFull 1 parts).2) := by
    rw [window_of_le rfl (by rw [h]; exact Nat.le_add_left _ _)]
    exact congrArg Except.ok hr
  have hb : binaryRead 1 parts = .ok (b.toNat,(Parts.readFull 1 parts).2) := by
    have hv : BigEndian.read [b] = b.toNat := by simp [BigEndian.read]
    rw [binaryRead,bind_of_ok hw,hv]
    rfl
  rw [expect,bind_of_ok hb,bne_self_eq_false]
  rfl

lemma readProtocol_of_prefix (h : (Parts.read 19 parts).1 <+: bitTorrentHeader) :
    (19 ≤ (Parts.read 19 parts).1.length → Accepts readProtocol parts) ∧
      ((Parts.read 19 parts).1.length < 19 → AsksForMore NeedsMore readProtocol parts) := by
  have heq : ¬ (Parts.read 19 parts).1 ≠ bitTorrentHeader.take (Parts.read 19 parts).1.length :=
    not_not.mpr (prefix_iff_eq_take.mp h)
  by_cases hn : (Parts.read 19 parts).1 = []
  · refine ⟨fun hle => ?_,fun _ => ⟨_,needsMore_needMoreData errEOF.text,?_⟩⟩
    · rw [hn] at hle
      cases hle
    · simp only [readProtocol,if_neg heq,if_pos hn]
  · refine ⟨fun hle => ⟨((),(Parts.read 19 parts).2),?_⟩,fun hlt => ⟨errNeedMoreData,rfl,?_⟩⟩
    · simp only [readProtocol,if_neg heq,if_neg hn,if_neg (Nat.not_lt.mpr hle)]
    · simp only [readProtocol,if_neg heq,if_neg hn,if_pos hlt]

lemma bitTorrent_on_stream {s : Bytes} (hh : 19 :: bitTorrentHeader <+: s)
    (hp : parts.flatten <+: s) : (HeaderTogether parts → Accepts bitTorrent parts) ∧
      (¬ HeaderTogether parts → AsksForMore NeedsMore bitTorrent parts) := by
  obtain ⟨t,rfl⟩ := hh
  have ha := Parts.read_append 19 (Parts.readFull 1 parts).2
  rw [Parts.readFull_snd] at ha
  cases hfl : parts.flatten with
  | nil =>
    have hs : window 1 (fun _ => none) shortRead parts = .error (needMoreData errEOF.text) := by
      rw [window_of_lt rfl (by rw [hfl]; exact Nat.one_pos),hfl]
      rfl
    have hak : bitTorrent parts = .error (needMoreData errEOF.text) :=
      bind_of_error (bind_of_error (bind_of_error hs))
    refine ⟨fun ht => ?_,fun _ => ⟨_,needsMore_needMoreData _,hak⟩⟩
    rw [hfl,drop_nil,append_eq_nil_iff] at ha
    rw [HeaderTogether,ha.1] at ht
    cases ht
  | cons b rs =>
    rw [hfl,cons_append,cons_prefix_cons] at hp
    obtain ⟨rfl,hrs⟩ := hp
    rw [hfl] at ha
    have hf := expect_of_cons hfl
    have hr : (Parts.read 19 (Parts.readFull 1 parts).2).1 <+: rs := ⟨_,ha⟩
    have hle : (Parts.read 19 (Parts.readFull 1 parts).2).1 <+: bitTorrentHeader :=
      prefix_of_prefix_length_le (hr.trans hrs) (prefix_append _ _) (Parts.length_read_le _ _)
    obtain ⟨hap,hak⟩ := readProtocol_of_prefix hle
    refine ⟨fun ht => ?_,fun hsp => ?_⟩
    · obtain ⟨rd,hr⟩ := hap ht
      exact ⟨_,(bind_of_ok hf).trans (bind_of_ok hr)⟩
    · obtain ⟨er,her,hr⟩ := hak (Nat.not_le.mp hsp)
      exact ⟨er,her,(bind_of_ok hf).trans (bind_of_error hr)⟩

lemma expect_eq_ok {n ex : ℕ} {rd : Unit × List Bytes} (h : expect n ex parts = .ok rd) :
    n ≤ parts.flatten.length ∧ BigEndian.read (parts.flatten.take n) = ex ∧ rd.2 = (Parts.readFull n parts).2 := by
  obtain ⟨v,md,hv,hr⟩ := exists_of_bind_eq_ok h
  obtain ⟨bs,md',hb,hp⟩ := exists_of_bind_eq_ok hv
  obtain ⟨-,hle,hrd⟩ := window_eq_ok hb
  cases hp
  unfold reject at hr
  split_ifs at hr with hne
  cases hr
  rw [← Parts.readFull_fst,← hrd]
  exact ⟨hle,by simpa using hne,rfl⟩

lemma header_prefix_of_accepts (h : Accepts bitTorrent parts) : 19 :: bitTorrentHeader <+: parts.flatten := by
  obtain ⟨rd,hr⟩ := h
  obtain ⟨_,md,hf,hrs⟩ := exists_of_bind_eq_ok hr
  obtain ⟨_,rs,hp,-⟩ := exists_of_bind_eq_ok hrs
  obtain ⟨hl,hv,rfl⟩ := expect_eq_ok hf
  have ha := Parts.read_append 19 (Parts.readFull 1 parts).2
  rw [Parts.readFull_snd] at ha
  have hh : (Parts.read 19 (Parts.readFull 1 parts).2).1 = bitTorrentHeader := by
    simp only [readProtocol] at hp
    split_ifs at hp with hne hn hlt
    rw [not_not.mp hne,take_of_length_le (Nat.not_lt.mp hlt)]
  cases hfl : parts.flatten with
  | nil =>
    rw [hfl] at hl
    cases hl
  | cons b =>
    rw [hfl] at hv ha
    have hb : b = 19 := UInt8.toNat_inj.mp (by simpa [BigEndian.read] using hv)
    rw [hh] at ha
    rw [hb,cons_prefix_cons]
    exact ⟨rfl,⟨_,ha⟩⟩

end

/-! ### `PeekStream` on a stream that a sniffer recognises -/

section

/-- Whatever the metadata is. -/
def Recognises (sniffer : StreamSniffer) (parts : List Bytes) : Prop := ∀ metadata, (sniffer metadata parts).2 = none

def WantsMore (sniffer : StreamSniffer) (parts : List Bytes) : Prop :=
  ∀ metadata, isNeedMoreData (sniffer metadata parts).2 = true

/-- `E.Errors` does not lose that an error asks for more data. -/
def KeepsNeedMoreData (e : ErrorOps) : Prop :=
  ∀ errs, ∀ err ∈ errs, NeedsMore err → isNeedMoreData (e.errors errs) = true

/-- How `PeekStream` ends, other than by giving up: a sniffer accepted, or a call on the connection failed. When that
is a later read, the error still asks for more data, and the sniffer did not recognise what it was shown last. -/
inductive PeekEnd {σ : Type} (e : ErrorOps) (conns : StreamConn σ) (sniffer : StreamSniffer) (buffers : List Bytes)
    (buffer : Bytes) (result : PeekResult σ) : Prop
  | accepted (h : result.err = none)
  | waiting {conn : σ} {shown : Bytes} {err : GoError} (failed : (conns.readOnceFrom conn shown).2.2 = some err)
      (unrecognised : ¬ Recognises sniffer (buffers++[shown])) (asks : isNeedMoreData result.err = true)
  | unread {conn : σ} {err : GoError} (failed : (conns.readOnceFrom conn buffer).2.2 = some err)
      (h : result.err = some (e.cause err "read payload"))
  | undated {conn : σ} {deadline : ℤ} {err : GoError}
      (failed : (conns.setReadDeadline conn (some deadline)).2 = some err)
      (h : result.err = some (e.cause err "set read deadline"))

variable {e : ErrorOps} (he : KeepsNeedMoreData e) {m : InboundContext} {ps : List Bytes}
  {se : Option GoError} {sn : StreamSniffer} {ss : List StreamSniffer}

lemma sniffStream_cons (hr : (sniffStream e ps (sn :: ss) m se).2.1 = false) : ∃ mt' er, sn m ps = (mt',some er) ∧
      sniffStream e ps (sn :: ss) m se = sniffStream e ps ss mt' (e.errors (se.toList++[er])) := by
  cases hs : sn m ps with
  | mk mt' a =>
    cases a with
    | none =>
      rw [sniffStream,hs] at hr
      cases hr
    | some er =>
      refine ⟨mt',er,rfl,?_⟩
      rw [sniffStream,hs]

include he in
lemma isNeedMoreData_sniffStream (h : isNeedMoreData se = true) (hr : (sniffStream e ps ss m se).2.1 = false) :
    isNeedMoreData (sniffStream e ps ss m se).2.2 = true := by
  induction ss generalizing m se with
  | nil => exact h
  | cons sn ss ih =>
    obtain ⟨mt',err,-,hs⟩ := sniffStream_cons hr
    rw [hs] at hr ⊢
    refine ih ?_ hr
    cases se with
    | none => cases h
    | some er => exact he _ er (by simp) h

include he in
lemma sniffStream_of_mem (hsn : Recognises sn ps ∨ WantsMore sn ps) (hm : sn ∈ ss)
    (hr : (sniffStream e ps ss m se).2.1 = false) :
    ¬ Recognises sn ps ∧ isNeedMoreData (sniffStream e ps ss m se).2.2 = true := by
  induction ss generalizing m se with
  | nil => cases hm
  | cons f ss ih =>
    obtain ⟨mt',er,hs,hst⟩ := sniffStream_cons hr
    rw [hst] at hr ⊢
    obtain rfl | hm := mem_cons.mp hm
    · have hnt : ¬ Recognises sn ps := by
        intro hrc
        have hn := hrc m
        rw [hs] at hn
        cases hn
      have ha := hsn.resolve_left hnt m
      rw [hs] at ha
      exact ⟨hnt,isNeedMoreData_sniffStream he (he _ er (by simp) ha) hr⟩
    · exact ih hm hr

include he in
/-- The loop does not stop at an answer of the sniffers while one of them would recognise the stream. The stream is
what the client sends in all; the sniffer is shown a part of it that grows with every read. -/
lemma peekLoop_end {σ : Type} {cs : StreamConn σ} {bs : List Bytes}
    {st sr : Bytes} (hmm : sn ∈ ss) (hsn : ∀ s, bs.flatten++s <+: st →
      Recognises sn (bs++[s]) ∨ WantsMore sn (bs++[s]))
    (d : ℤ) (i : ℕ) (c : σ) (b : Bytes) (m : InboundContext) (se : Option GoError)
    (hst : bs.flatten++(b++cs.pending c) = st) (hfr : i = 0 → b = sr)
    (hl : 0 < i → ¬ Recognises sn (bs++[b]) ∧ isNeedMoreData se = true) : PeekEnd e cs sn bs sr
      (peekLoop e cs bs ss d i c b m se) := by
  fun_induction peekLoop e cs bs ss d i c b m se with
  | case1 i c b m se conn₁ err hse =>
    exact .undated (congrArg Prod.snd hse) rfl
  | case2 i c b m se conn₁ hse conn₂ b' err hrd =>
    have hf : (cs.readOnceFrom conn₁ b).2.2 = some err := by rw [hrd]
    obtain rfl | hps := i.eq_zero_or_pos
    · rw [hfr rfl] at hf
      exact .unread hf rfl
    · obtain ⟨hn,ha⟩ := hl hps
      exact .waiting hf hn ((congrArg isNeedMoreData (if_pos hps)).trans ha)
  | case3 => exact .accepted rfl
  | case4 i c b m se conn₁ hse conn₂ b' hrd conn₃ metadata' err hs hm hlt ih =>
    have hp := (congrArg (bs.flatten++·) (pending_readRound cs hse hrd)).trans hst
    have hr := sniffStream_of_mem he (hsn b' ⟨_,(append_assoc _ _ _).trans hp⟩) hmm
      (congrArg (fun rn => rn.2.1) hs)
    rw [hs] at hr
    exact ih hp (fun h => absurd h (Nat.succ_ne_zero i)) fun _ => hr
  | case5 i c b m se conn₁ hse conn₂ b' hrd conn₃ metadata' err hs hm =>
    have hp := (congrArg (bs.flatten++·) (pending_readRound cs hse hrd)).trans hst
    have hr := sniffStream_of_mem he (hsn b' ⟨_,(append_assoc _ _ _).trans hp⟩) hmm
      (congrArg (fun rn => rn.2.1) hs)
    rw [hs] at hr
    exact absurd hr.2 hm

end

/-! ### The four sniffers -/

section
variable {r : StreamReader (InboundContext → InboundContext)} {ps : List Bytes}

lemma accepts_of_toSniffer {mt : InboundContext} (h : (toSniffer r mt ps).2 = none) : Accepts r ps := by
  unfold toSniffer at h
  cases hr : r ps with
  | error =>
    rw [hr] at h
    cases h
  | ok rd => exact ⟨rd,hr⟩

lemma recognises_of_accepts (h : Accepts r ps) : Recognises (toSniffer r) ps := by
  obtain ⟨rd,hr⟩ := h
  intro mt
  rw [toSniffer,hr]

lemma wantsMore_of_asksForMore (h : AsksForMore NeedsMore r ps) : WantsMore (toSniffer r) ps := by
  obtain ⟨er,her,hr⟩ := h
  intro mt
  rw [toSniffer,hr]
  exact her

lemma StreamProtocol.steady_reader (unpack : Bytes → Except GoError DNS.Msg) {p : StreamProtocol}
    (h : p ≠ .bitTorrent) : Steady NeedsMore (p.reader unpack) := by
  cases p with
  | bitTorrent => exact absurd rfl h
  | rdp => exact incremental_rdp.steady
  | ssh => exact steady_ssh
  | dns => exact (incremental_streamDomainNameQuery unpack).steady

variable {u : Bytes → Except GoError DNS.Msg} {pr : StreamProtocol} {d : Bytes}
  (hac : Accepts (pr.reader u) [d])

include hac in
/-- A sniffer that accepts a string answers every stream that agrees with it, in whatever parts, by accepting or by
asking for more. -/
lemma reader_answers (ha : ps.flatten <+: d ∨ d <+: ps.flatten) :
    Accepts (pr.reader u) ps ∨ AsksForMore NeedsMore (pr.reader u) ps := by
  have hd : [d].flatten = d := append_nil d
  by_cases hp : pr = .bitTorrent
  · subst hp
    have hh := header_prefix_of_accepts hac
    rw [hd] at hh
    -- the header and the parts start the same stream
    obtain ⟨stream,hst,hpr⟩ : ∃ stream, 19 :: bitTorrentHeader <+: stream ∧ ps.flatten <+: stream := by
      obtain hle | hle := ha
      · exact ⟨d,hh,hle⟩
      · exact ⟨ps.flatten,hh.trans hle,prefix_refl _⟩
    obtain ⟨ht,hsp⟩ := bitTorrent_on_stream hst hpr
    by_cases h : HeaderTogether ps
    · exact Or.inl (ht h)
    · exact Or.inr (hsp h)
  · have hs := pr.steady_reader u hp
    obtain hle | hle := ha
    · exact hs.cut hac (hd.symm ▸ hle)
    · exact Or.inl (hs.extend hac (hd.symm ▸ hle))

include hac in
/-- Once all of the string is there, it is accepted, in whatever parts. Only the header of BitTorrent has to lie in
one of them. -/
lemma reader_accepts_whole (hle : d <+: ps.flatten) (ht : ps.length = 1 ∨ pr ≠ .bitTorrent ∨ HeaderTogether ps) :
    Accepts (pr.reader u) ps := by
  have hd : [d].flatten = d := append_nil d
  by_cases hp : pr = .bitTorrent
  · subst hp
    have hh := (header_prefix_of_accepts hac).trans (hd.symm ▸ hle)
    refine (bitTorrent_on_stream hh (prefix_refl _)).1 ?_
    obtain ho | hne | ht := ht
    · obtain ⟨p,rfl⟩ := length_eq_one_iff.mp ho
      rw [flatten_singleton] at hh
      obtain ⟨rs,rfl⟩ := hh
      exact le_refl 19
    · exact absurd rfl hne
    · exact ht
  · exact (pr.steady_reader u hp).extend hac (hd.symm ▸ hle)

end

lemma keepsNeedMoreData_script : KeepsNeedMoreData (scriptRouter []).e := by
  intro er err hm her
  have ha : er.any GoError.needMoreData = true := any_eq_true.mpr ⟨err,hm,her⟩
  cases er with
  | nil => cases hm
  | cons => exact ha

def rdpRequest : Bytes := [0x03,0x00,0x00,0x13,0x0e,0xe0,0x00,0x00,0x00,0x00,0x00,0x01,0x00,0x08]

/-- A header that is cut after seven bytes is not recognised: the one `Read` ends where the first part ends. -/
example : (toSniffer bitTorrent {} [19 :: ascii "BitTor",ascii "rent protocol"]).2 = some errNeedMoreData := by
  decide

end SingBox.Sniff
