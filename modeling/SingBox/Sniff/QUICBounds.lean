import SingBox.Sniff.QUICLoops

/-! The QUIC sniffer comes back from every call, and reads within its buffers, exactly where the CRYPTO frames end
in the packet, no empty one stands where the reassembly comes to, and the lists of the message fit. -/
namespace SingBox.Sniff
open Adapter Checked List

lemma readHeader_meets (p : Bytes) : Meets (readHeader p) fun header =>
    header.hdrLen+20 ≤ p.length ∧ header.hdrLen+header.packetLen ≤ p.length := by
  refine (readByte_meets p).bind ?_
  rintro ⟨tb,rest₀⟩ hln
  refine Meets.of_reject fun _ => (readFull_meets 4 rest₀).bind ?_
  rintro ⟨vb,rest₁⟩ hlg
  refine Meets.of_reject fun _ => Meets.of_reject fun _ => (readByte_meets rest₁).bind ?_
  rintro ⟨dc,rest₂⟩ hlt
  refine Meets.of_reject fun _ => (readFull_meets dc.toNat rest₂).bind ?_
  rintro ⟨dci,rest₃⟩ hle
  refine (readByte_meets rest₃).bind ?_
  rintro ⟨sc,rest₄⟩ hlen
  refine (discard_meets sc.toNat rest₄).bind fun rest₅ hlength₅ => ?_
  refine (readUvarint_meets rest₅).bind ?_
  rintro ⟨tl,rest₆⟩ hlength₆
  refine (discard_meets tl rest₆).bind fun rest₇ hlength₇ => ?_
  refine (readUvarint_meets rest₇).bind ?_
  rintro ⟨pl,rest₈⟩ hlength₈
  refine Meets.of_reject fun hf => (discard_meets 4 rest₈).bind fun rest₉ hlength₉ => ?_
  refine (readFull_meets 16 rest₉).bind ?_
  rintro ⟨pb,rest₁₀⟩ hl
  refine meets_pure ⟨?_,not_lt.mp hf⟩
  simp only at hln hlg hlt hle hlen hlength₆ hlength₈ hl ⊢
  omega

lemma xorAt_meets {b : Bytes} {i : ℕ} (x : UInt8) (hi : i < b.length) :
    Meets (xorAt b i x) fun c => c.length = b.length :=
  Meets.of_bind (returns_get_iff.mpr hi) fun _ _ => meets_pure (length_set ..)

lemma unmask_meets {p ms : Bytes} {hd : ℕ} (hms : ms.length = 16) (hl : hd+4 ≤ p.length) :
    Meets (unmask p ms hd) fun np => np.length = p.length := by
  refine Meets.of_get (by omega) fun f => ?_
  refine (xorAt_meets (f &&& 0xf) (show 0 < p.length by omega)).bind fun np hn => ?_
  refine (slice_meets (by omega) (by omega)).bind fun m hm => ?_
  refine meets_foldlM (fun s i hi hs => ?_) hn
  have hlt := mem_range.mp hi
  refine Meets.of_get (by omega) fun x => ?_
  exact (xorAt_meets x (show hd+i < s.length by omega)).mono fun c hsm => hsm.trans hs

lemma returns_readPacketNumber {np : Bytes} {hd pn : ℕ} (h : hd+pn ≤ np.length) :
    Returns (readPacketNumber np hd pn) := by
  unfold readPacketNumber
  split
  iterate 4 exact (returns_slice_iff.mpr ⟨by omega,h⟩).bind fun n _ => returns_pure _
  exact returns_fail _

lemma restore_meets {p np : Bytes} {l high : ℕ} (hle : l ≤ high) (hl : high ≤ np.length)
    (hsm : np.length = p.length) : Meets (restore p np l high) fun r => r.length = p.length := by
  refine (slice_meets hle hl).bind fun t ht => ?_
  refine (sliceFrom_meets (by omega)).bind fun s hs => meets_pure ?_
  simp only [length_append,length_take,length_drop]
  omega

lemma returns_openInitial (protection : PacketProtection) (p : Bytes) : Returns (openInitial protection p) := by
  refine (readHeader_meets p).returns_bind ?_
  rintro header ⟨hs,hp⟩
  refine (returns_ofExcept _).bind fun m hm => ?_
  have hu := unmask_meets (protection.length_mask (ofExcept_eq_ok.mp hm))
    (show header.hdrLen+4 ≤ p.length by omega)
  refine hu.returns_bind fun np hnl => ?_
  refine (returns_get_iff.mpr (by omega)).bind fun f _ => Returns.of_reject fun hn => ?_
  have hb : (f &&& 0x3).toNat < 4 := by
    rw [UInt8.toNat_and]
    exact Nat.and_lt_two_pow f.toNat (show (3 : UInt8).toNat < 2^2 by decide)
  refine (returns_readPacketNumber (by omega)).bind fun pn _ => ?_
  have hr := restore_meets
    (show header.hdrLen+((f &&& 0x3).toNat+1) ≤ header.hdrLen+4 by omega) (by omega) hnl
  refine hr.returns_bind fun r hrl => ?_
  refine (returns_slice_iff.mpr ⟨by omega,by omega⟩).bind fun d _ => ?_
  refine (returns_slice_iff.mpr ⟨by omega,by omega⟩).bind fun ad _ => ?_
  exact (returns_ofExcept _).bind fun dc _ => returns_pure _

section
variable {d s rt : Bytes}

lemma frameTypeList_ne_nil {rs : ℕ} {frames r : Frames}
    (h : frameLoop d s rs rt frames = .ok r) (hne : rt ≠ [] ∨ frames.frameTypeList ≠ []) : r.frameTypeList ≠ [] := by
  induction rs generalizing rt frames with
  | zero =>
    cases rt with
    | nil =>
      cases h
      exact hne.resolve_left fun hn => hn rfl
    | cons => cases h
  | succ rs ih =>
    cases rt with
    | nil =>
      cases h
      exact hne.resolve_left fun hn => hn rfl
    | cons =>
      obtain ⟨⟨c,l⟩,-,h⟩ := Outcome.bind_eq_ok.mp h
      cases c with
      | none => exact ih h (.inr (concat_ne_nil _ _))
      | some =>
        obtain ⟨p,-,h⟩ := Outcome.bind_eq_ok.mp h
        exact ih h (.inr (concat_ne_nil _ _))

lemma readFrames_of_types_eq_nil {frames : Frames} (h : readFrames d s = .ok frames)
    (ht : frames.frameTypeList = []) : frames = {} := by
  cases d with
  | nil =>
    cases h
    rfl
  | cons => exact absurd ht (frameTypeList_ne_nil h (.inl (cons_ne_nil _ _)))

lemma returns_clientOf {ft : List UInt8} (hne : ft ≠ []) (f : JA3.ClientHello) : Returns (clientOf ft f) := by
  have hp := length_pos_iff.mpr hne
  rw [clientOf]
  by_cases ho : ft.length = 1
  · rw [if_pos ho]
    exact returns_pure _
  · rw [if_neg ho]
    refine (returns_get_iff.mpr hp).bind fun fr _ => ?_
    split
    · exact returns_pure _
    · refine (returns_get_iff.mpr (by omega)).bind fun l _ => ?_
      split
      · exact returns_pure _
      · split
        all_goals exact returns_pure _

end

/-- The fragments alone make a record that the parser refuses. -/
def Unparsed (fragments : List QCryptoFragment) : Prop :=
  ∃ record err, clientHelloRecord fragments = some record ∧ JA3.compute record = fail err

lemma unparsed_nil : Unparsed [] := ⟨[0x16,0x03,0x03,0x00,0x00],.lengthErr 3,by decide,by decide⟩

lemma clientHelloRecord_isSome_iff (fr : List QCryptoFragment) :
    (clientHelloRecord fr).isSome ↔ Walk.Advances QCryptoFragment.offset fragmentEnd fr 0 := by
  rw [clientHelloRecord,Option.isSome_map]
  exact Walk.walk_length_isSome_iff fun f _ => offset_le_fragmentEnd f

variable {metadata : InboundContext} {frames : Frames}

lemma recognize_sniffContext (metadata : InboundContext) (ft : List UInt8) (f : JA3.ClientHello) :
    (recognize metadata ft f).1.sniffContext = metadata.sniffContext := by
  rw [recognize]
  split_ifs
  · cases clientOf ft f with
    | error stop | ok client => rfl
  · rfl

lemma returns_recognize {ft : List UInt8} (hne : ft ≠ []) (metadata : InboundContext)
    (f : JA3.ClientHello) : Returns (recognize metadata ft f).2 := by
  have hc := returns_clientOf hne f
  rw [recognize]
  split_ifs
  · cases hr : clientOf ft f with
    | error =>
      rw [hr] at hc
      exact fun r h => hc r (congrArg Except.error (Except.error.inj h))
    | ok => exact returns_pure ()
  · exact returns_pure ()

lemma unparsed_of_sniffFrames {held : List QCryptoFragment} (h : (sniffFrames metadata frames).1.sniffContext = some held) :
    Unparsed held := by
  rw [sniffFrames] at h
  cases hr : clientHelloRecord (heldFragments metadata.sniffContext frames) with
  | none =>
    rw [hr] at h
    cases h
  | some r =>
    rw [hr] at h
    replace h : (parseRecord (asQUIC metadata) frames.frameTypeList (heldFragments metadata.sniffContext frames)
      r).1.sniffContext = some held := h
    rw [parseRecord] at h
    cases hc : JA3.compute r with
    | error s =>
      rw [hc] at h
      cases s with
      | failed e =>
        cases h
        exact ⟨r,e,hr,hc⟩
      | crashed => cases h
    | ok f =>
      rw [hc] at h
      replace h := (recognize_sniffContext _ frames.frameTypeList f).symm.trans h
      cases h

/-- Behind the frame loop the sniffer comes back exactly where the reassembly does and the message is parsed within
its bounds. Without any frame it comes to what it has refused before. -/
lemma returns_sniffFrames_iff
    (ht : frames.frameTypeList = [] → Unparsed (heldFragments metadata.sniffContext frames)) :
    Returns (sniffFrames metadata frames).2 ↔
      Walk.Advances QCryptoFragment.offset fragmentEnd (heldFragments metadata.sniffContext frames) 0 ∧
        ∀ r, clientHelloRecord (heldFragments metadata.sniffContext frames) = some r → JA3.ListsFit r := by
  rw [← clientHelloRecord_isSome_iff,sniffFrames]
  cases hrc : clientHelloRecord (heldFragments metadata.sniffContext frames) with
  | none => exact iff_of_false (not_returns_crash _) fun h => absurd h.1 (by decide)
  | some r =>
    have hl : (∀ o, some r = some o → JA3.ListsFit o) ↔ Returns (JA3.compute r) := by
      rw [JA3.returns_compute_iff]
      exact ⟨fun h => h r rfl,fun h o heq => Option.some.inj heq ▸ h⟩
    rw [hl,Option.isSome_some,and_iff_right rfl]
    change Returns (parseRecord (asQUIC metadata) frames.frameTypeList (heldFragments metadata.sniffContext frames)
      r).2 ↔ _
    rw [parseRecord]
    cases hc : JA3.compute r with
    | error s =>
      cases s with
      | failed => exact iff_of_true (returns_fail _) (returns_fail _)
      | crashed => exact iff_of_false (not_returns_crash _) (not_returns_crash _)
    | ok f =>
      have hne : frames.frameTypeList ≠ [] := by
        intro hn
        obtain ⟨o,e,ho,hr⟩ := ht hn
        rw [hrc] at ho
        cases ho
        rw [hc] at hr
        cases hr
      exact iff_of_true (returns_recognize hne _ f) (returns_ok _)

structure Datagram where
  metadata : InboundContext := {}
  packet : Bytes

variable (protection : PacketProtection)

def sniffDatagram (context : Option (List QCryptoFragment)) (datagram : Datagram) : InboundContext × Checked GoError Unit :=
  quicClientHello protection { datagram.metadata with sniffContext := context } datagram.packet

/-- The call returns a result or an error. -/
def ComesBack (context : Option (List QCryptoFragment)) (datagram : Datagram) : Prop :=
  Returns (sniffDatagram protection context datagram).2

def nextFragments (context : Option (List QCryptoFragment)) (datagram : Datagram) : Option (List QCryptoFragment) :=
  (sniffDatagram protection context datagram).1.sniffContext

/-- The lengths of a payload fit: its CRYPTO frames end within the buffer, no empty fragment is first where the
reassembly comes to, and the lists in the extensions of the message are no longer than those. -/
def PayloadFits (context : Option (List QCryptoFragment)) (decrypted spare : Bytes) : Prop :=
  (∀ crypto ∈ cryptoFrames decrypted.length decrypted.length decrypted,
    crypto.1+crypto.2 ≤ decrypted.length+spare.length) ∧
  ∀ frames, readFrames decrypted spare = .ok frames →
    Walk.Advances QCryptoFragment.offset fragmentEnd (heldFragments context frames) 0 ∧
      ∀ record, clientHelloRecord (heldFragments context frames) = some record → JA3.ListsFit record

/-- The lengths of a packet fit, where it can be decrypted. -/
def LengthsFit (context : Option (List QCryptoFragment)) (datagram : Datagram) : Prop :=
  ∀ decrypted spare, openInitial protection datagram.packet = .ok (decrypted,spare) →
    PayloadFits context decrypted spare

variable {protection} {context : Option (List QCryptoFragment)}

/-- The parser has refused what the flow holds. -/
def Refused (context : Option (List QCryptoFragment)) : Prop := ∀ held, context = some held → Unparsed held

lemma refused_next (h : Refused context) (d : Datagram) : Refused (nextFragments protection context d) := by
  intro held hh
  rw [nextFragments,sniffDatagram,quicClientHello] at hh
  cases hi : initialFrames protection d.packet with
  | error =>
    rw [hi] at hh
    exact h held hh
  | ok =>
    rw [hi] at hh
    exact unparsed_of_sniffFrames hh

lemma returns_error_iff {α β : Type} {s : Stop GoError} :
    Returns (.error s : Checked GoError α) ↔ Returns (.error s : Checked GoError β) :=
  ⟨fun h r heq => h r (congrArg Except.error (Except.error.inj heq)),
    fun h r heq => h r (congrArg Except.error (Except.error.inj heq))⟩

lemma returns_sniffPayload_iff (h : Refused metadata.sniffContext) (dc sp : Bytes) :
    Returns (sniffPayload metadata dc sp).2 ↔ PayloadFits metadata.sniffContext dc sp := by
  rw [PayloadFits,← returns_frameLoop_iff le_rfl {},sniffPayload]
  change _ ↔ Returns (readFrames dc sp) ∧ _
  cases hf : readFrames dc sp with
  | error =>
    refine returns_error_iff.trans (and_iff_left ?_).symm
    exact fun frames heq => by cases heq
  | ok frames =>
    have ht : frames.frameTypeList = [] → Unparsed (heldFragments metadata.sniffContext frames) := by
      intro hn
      rw [readFrames_of_types_eq_nil hf hn]
      cases hc : metadata.sniffContext with
      | none => exact unparsed_nil
      | some held => exact h held hc
    refine (returns_sniffFrames_iff ht).trans ?_
    rw [and_iff_right (returns_ok frames)]
    exact ⟨fun hl o heq => by cases heq; exact hl,fun hl => hl frames rfl⟩

lemma comesBack_iff (h : Refused context) (d : Datagram) :
    ComesBack protection context d ↔ LengthsFit protection context d := by
  have hr := returns_openInitial protection d.packet
  rw [ComesBack,sniffDatagram,quicClientHello,initialFrames,LengthsFit]
  cases ho : openInitial protection d.packet with
  | error =>
    refine iff_of_true (returns_error_iff.mp (ho ▸ hr)) fun dc sp heq => ?_
    cases heq
  | ok o =>
    obtain ⟨dc,sp⟩ := o
    refine Iff.trans (returns_sniffPayload_iff h dc sp) ⟨fun hf dc' sp' heq => ?_,fun hf => ?_⟩
    · cases heq
      exact hf
    · exact hf dc sp rfl

/-- In every flow the sniffer comes back from every call, within its buffers, exactly where the lengths of every
packet fit. -/
theorem sniffer_comes_back_iff (protection : PacketProtection) (datagrams : List Datagram) :
    Run.Along (nextFragments protection) (ComesBack protection) none datagrams ↔
      Run.Along (nextFragments protection) (LengthsFit protection) none datagrams :=
  Run.along_congr_of_invariant (I := Refused) (fun _ datagram h _ => refused_next h datagram)
    (fun _ datagram h => comesBack_iff h datagram) datagrams fun _ h => by cases h

def plainProtection : PacketProtection where
  mask _ _ _ := .ok (List.replicate 16 0)
  decrypt _ _ _ data _ := if data.length < 16 then .error errInvalid else .ok (data.take (data.length-16))
  length_mask := by
    intro version destConnID sample bytes h
    cases h
    rfl
  length_decrypt := by
    intro version destConnID packetNumber data additionalData plain h
    split_ifs at h with hshort
    cases h
    rw [List.length_take]
    omega

/-- An Initial packet of the first version, with a payload of at most 238 bytes before its tag. -/
def initialPacket (payload : Bytes) : Bytes :=
  [0xc0,0x00,0x00,0x00,0x01,0x01,0x00,0x00,0x00,0x40,UInt8.ofNat (payload.length+17),0x00]++payload++List.replicate 16 0

/-- A message without cipher suites whose list of versions is announced with two bytes and has none. -/
def cutVersionsHello : Bytes :=
  [0x01,0x00,0x00,0x2d,0x03,0x03]++List.replicate 32 0++[0x00,0x00,0x00,0x00,0x00,0x05,0x00,0x2b,0x00,0x01,0x02]

/-- A CRYPTO frame that is longer than the rest of the packet is read past the end of the buffer, and so is a list
of versions that is longer than its extension. -/
theorem sniffer_reads_out_of_bounds :
    (sniffDatagram plainProtection none { packet := initialPacket [0x06,0x00,0x3f] }).2 = crash .outOfBounds ∧
      (sniffDatagram plainProtection none { packet := initialPacket ([0x06,0x00,0x31]++cutVersionsHello) }).2 =
        crash .outOfBounds := by
  constructor <;> decide

end SingBox.Sniff
