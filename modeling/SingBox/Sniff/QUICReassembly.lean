import SingBox.Sniff.QUICBounds

/-! A `ClientHello` that is cut into CRYPTO frames is put together from them in whatever order they arrive, and until
all of them have arrived the sniffer asks for more data. -/
namespace SingBox.Sniff
open Adapter Checked List

section

/-- A number in one of its encodings: of 1, 2, 4 or 8 bytes, with the binary logarithm of the length in the first
two bits. -/
structure Uvarint where
  log : ℕ
  value : ℕ
  log_lt : log < 4
  value_lt : value < 64*256^(2^log-1)

def Uvarint.bytes (n : Uvarint) : Bytes := BigEndian.put (2^n.log) (n.log*(64*256^(2^n.log-1))+n.value)

lemma first_byte (l high : ℕ) (hl : l < 4) (hh : high < 64) :
    ((UInt8.ofNat (l*64+high) &&& 0xc0) >>> 6).toNat = l ∧ (UInt8.ofNat (l*64+high) &&& 0x3f).toNat = high := by
  have ht : ∀ l : Fin 4, ∀ high : Fin 64, ((UInt8.ofNat (l.val*64+high.val) &&& 0xc0) >>> 6).toNat = l.val ∧
        (UInt8.ofNat (l.val*64+high.val) &&& 0x3f).toNat = high.val := by
    decide
  exact ht ⟨l,hl⟩ ⟨high,hh⟩

lemma readUvarint_append (n : Uvarint) (rs : Bytes) : readUvarint (n.bytes++rs) = .ok (n.value,rs) := by
  obtain ⟨l,v,hlg,hv⟩ := n
  obtain ⟨m,hm⟩ : ∃ m, 2^l = m+1 := ⟨2^l-1,by have := Nat.two_pow_pos l; omega⟩
  simp only [Uvarint.bytes,hm,Nat.add_sub_cancel] at hv ⊢
  have hp : 0 < 256^m := Nat.pow_pos (by decide)
  have hh : v/256^m < 64 := Nat.div_lt_of_lt_mul (by rwa [Nat.mul_comm] at hv)
  have hs : (l*(64*256^m)+v)/256^m = l*64+v/256^m := by
    rw [← Nat.mul_assoc,Nat.add_comm,Nat.add_mul_div_right _ _ hp,Nat.add_comm]
  have hlw : (l*(64*256^m)+v)%256^m = v%256^m := by
    rw [← Nat.mul_assoc,Nat.add_comm,Nat.add_mul_mod_self_right]
  obtain ⟨hb,hf⟩ := first_byte l (v/256^m) hlg hh
  have hbt : (l*64+v/256^m)%256 = l*64+v/256^m := Nat.mod_eq_of_lt (by omega)
  rw [BigEndian.put_succ,hs,hbt,cons_append,readUvarint,hb,hm,Nat.add_sub_cancel]
  have hl := BigEndian.length_put m (l*(64*256^m)+v)
  rw [if_neg (by rw [length_append,hl]; omega),take_left' hl,drop_left' hl,
    BigEndian.read_cons,hl,BigEndian.read_put,hlw,hf,Nat.div_add_mod']
  rfl

lemma skipUvarints_cons (n : ℕ) (nm : Uvarint) (rs : Bytes) :
    skipUvarints (n+1) (nm.bytes++rs) = skipUvarints n rs := by
  rw [skipUvarints,readUvarint_append]
  rfl

lemma skipUvarints_append (ns : List Uvarint) (rs : Bytes) :
    skipUvarints ns.length (ns.flatMap Uvarint.bytes++rs) = .ok rs := by
  induction ns with
  | nil => rfl
  | cons n ns ih =>
    rw [length_cons,flatMap_cons,append_assoc,skipUvarints_cons]
    exact ih

/-- The type of a frame, the bytes behind it and the fragment that it carries. -/
inductive FrameBytes : UInt8 → Bytes → List QCryptoFragment → Prop
  | padding : FrameBytes 0x00 [] []
  | ping : FrameBytes 0x01 [] []
  | ack (largest delay count first : Uvarint) (ranges : List Uvarint) : ranges.length = 2*count.value →
      FrameBytes 0x02 (largest.bytes++(delay.bytes++(count.bytes++(first.bytes++ranges.flatMap Uvarint.bytes)))) []
  | ackECN (largest delay count first : Uvarint) (ranges : List Uvarint) (ect0 ect1 ecnCE : Uvarint) :
      ranges.length = 2*count.value →
      FrameBytes 0x03 (largest.bytes++(delay.bytes++(count.bytes++(first.bytes++(ranges.flatMap Uvarint.bytes++
        (ect0.bytes++(ect1.bytes++ecnCE.bytes))))))) []
  | crypto (offset length : Uvarint) (data : Bytes) : data.length = length.value →
      FrameBytes 0x06 (offset.bytes++(length.bytes++data)) [⟨offset.value,data.length,data⟩]
  | connectionClose (code frameType length : Uvarint) (reason : Bytes) : reason.length = length.value →
      FrameBytes 0x1c (code.bytes++(frameType.bytes++(length.bytes++reason))) []

/-- A payload of whole frames, and the fragments of its CRYPTO frames in their order. -/
inductive PayloadBytes : Bytes → List QCryptoFragment → Prop
  | nil : PayloadBytes [] []
  | cons {frameType : UInt8} {body rest : Bytes} {fragments more : List QCryptoFragment} :
      FrameBytes frameType body fragments → PayloadBytes rest more →
      PayloadBytes (frameType::(body++rest)) (fragments++more)

lemma readAck_append (l d c f : Uvarint) {rs : List Uvarint} (h : rs.length = 2*c.value) (rt : Bytes) :
    readAck (l.bytes++(d.bytes++(c.bytes++(f.bytes++(rs.flatMap Uvarint.bytes++rt))))) = .ok rt := by
  have hr := skipUvarints_append rs rt
  rw [h] at hr
  rw [readAck,skipUvarints_cons,skipUvarints_cons]
  change (readUvarint _ >>= _) = _
  rw [readUvarint_append]
  change (skipUvarints 1 _ >>= skipUvarints _) = _
  rw [skipUvarints_cons]
  exact hr

variable {fragments : List QCryptoFragment}

lemma readFrame_append {ft : UInt8} {b : Bytes} (h : FrameBytes ft b fragments) (rt : Bytes) :
    (fragments = [] ∧ readFrame ft (b++rt) = .ok (none,rt)) ∨
      ∃ o head dt, fragments = [⟨o,dt.length,dt⟩] ∧ b = head++dt ∧
        readFrame ft (b++rt) = .ok (some (o,dt.length),dt++rt) := by
  cases h with
  | padding | ping => exact .inl ⟨rfl,rfl⟩
  | ack l d c f rs hr =>
    refine .inl ⟨rfl,?_⟩
    have ha := readAck_append l d c f hr rt
    simp only [append_assoc]
    change (readAck _ >>= fun rt => pure (none,rt)) = _
    rw [ha]
    rfl
  | ackECN l d c f rs e et ec hr =>
    refine .inl ⟨rfl,?_⟩
    have ha := readAck_append l d c f hr (e.bytes++(et.bytes++(ec.bytes++rt)))
    simp only [append_assoc]
    change (readAck _ >>= fun rt => skipUvarints 3 rt >>= fun rt => pure (none,rt)) = _
    rw [ha]
    change (skipUvarints 3 _ >>= fun rt => pure (none,rt)) = _
    rw [skipUvarints_cons,skipUvarints_cons,skipUvarints_cons]
    rfl
  | crypto o length dt hd =>
    refine .inr ⟨o.value,o.bytes++length.bytes,dt,rfl,(append_assoc _ _ _).symm,?_⟩
    rw [append_assoc,append_assoc]
    change (readUvarint _ >>= fun o => readUvarint o.2 >>= fun length => pure (some (o.1,length.1),length.2)) = _
    rw [readUvarint_append]
    change (readUvarint _ >>= fun length => pure (some (o.value,length.1),length.2)) = _
    rw [readUvarint_append,hd]
    rfl
  | connectionClose cd t length r hrs =>
    refine .inl ⟨rfl,?_⟩
    simp only [append_assoc]
    change (skipUvarints 2 _ >>= fun rt => readUvarint rt >>= fun length => pure (none,length.2.drop length.1)) = _
    rw [skipUvarints_cons,skipUvarints_cons]
    change (readUvarint _ >>= fun length => pure (none,length.2.drop length.1)) = _
    rw [readUvarint_append,← hrs]
    exact congrArg (fun lf => Except.ok (none,lf)) (drop_left)

lemma frameLoop_of_payload {d f rt : Bytes} {rs : ℕ}
    (h : PayloadBytes rt fragments) (hd : d = f++rt) (hr : rt.length ≤ rs)
    (s : Bytes) (fr : Frames) : ∃ ts, frameLoop d s rs rt fr =
      .ok { frameTypeList := fr.frameTypeList++ts, fragments := fr.fragments++fragments } := by
  induction h generalizing f rs fr with
  | nil =>
    refine ⟨[],?_⟩
    cases rs with
    | zero | succ rs => rw [frameLoop,append_nil,append_nil]; rfl
  | @cons ft b rt fragments m hfr hp ih =>
    obtain ⟨rs,rfl⟩ : ∃ fw, rs = fw+1 := ⟨rs-1,by rw [length_cons] at hr; omega⟩
    rw [length_cons,length_append] at hr
    have hf : d = (f++ft::b)++rt := by
      rw [hd,append_assoc,cons_append]
    obtain ⟨rfl,hrd⟩ | ⟨o,head,dt,rfl,rfl,hrd⟩ := readFrame_append hfr rt
    · obtain ⟨ts,hl⟩ := ih hf (show rt.length ≤ rs by omega)
        { fr with frameTypeList := fr.frameTypeList++[ft] }
      refine ⟨ft::ts,?_⟩
      rw [frameLoop,hrd]
      refine hl.trans ?_
      rw [append_assoc,nil_append]
      rfl
    · rw [length_append] at hr
      have hs : (slice (d++s) (d.length-(dt++rt).length)
          (d.length-(dt++rt).length+dt.length) : Checked GoError Bytes) = .ok dt := by
        have hin : d.length-(dt++rt).length = (f++ft::head).length := by
          rw [hd]
          simp only [length_append,length_cons]
          omega
        have hb : d++s = (f++ft::head)++(dt++(rt++s)) := by
          rw [hd]
          simp only [append_assoc,cons_append]
        rw [hin,hb]
        refine slice_eq_ok.mpr ⟨⟨by omega,by simp only [length_append]; omega⟩,?_⟩
        rw [drop_take,Nat.add_sub_cancel_left,drop_left,take_left]
      obtain ⟨ts,hl⟩ := ih hf (show rt.length ≤ rs by omega)
        { frameTypeList := fr.frameTypeList++[ft], fragments := fr.fragments++[⟨o,dt.length,dt⟩] }
      refine ⟨ft::ts,?_⟩
      rw [frameLoop,hrd]
      change (slice (d++s) (d.length-(dt++rt).length)
          (d.length-(dt++rt).length+dt.length) >>= fun p =>
        frameLoop d s rs ((dt++rt).drop dt.length)
          { frameTypeList := fr.frameTypeList++[ft],
            fragments := fr.fragments++[⟨o,dt.length,p⟩] }) = _
      rw [hs,drop_left]
      refine hl.trans ?_
      rw [append_assoc,append_assoc]
      rfl

end

section

def place : ℕ → List Bytes → List QCryptoFragment
  | _, [] => []
  | offset, piece :: pieces => ⟨offset,piece.length,piece⟩::place (offset+piece.length) pieces

variable {os : ℕ} {pieces : List Bytes} {fr : QCryptoFragment}

lemma place_append (os : ℕ) (f b : List Bytes) : place os (f++b) = place os f++place (os+f.flatten.length) b := by
  induction f generalizing os with
  | nil => rfl
  | cons piece f ih =>
    rw [cons_append,place,ih,place,cons_append,flatten_cons,length_append,Nat.add_assoc]

lemma payloads_place (os : ℕ) (pieces : List Bytes) :
    (place os pieces).flatMap QCryptoFragment.payload = pieces.flatten := by
  induction pieces generalizing os with
  | nil => rfl
  | cons piece pieces ih => rw [place,flatMap_cons,ih,flatten_cons]

lemma lengths_place (os : ℕ) (pieces : List Bytes) :
    ((place os pieces).map QCryptoFragment.length).sum = pieces.flatten.length := by
  induction pieces generalizing os with
  | nil => rfl
  | cons piece pieces ih =>
    rw [place,map_cons,sum_cons,ih,flatten_cons,length_append]

lemma tiles_place (os : ℕ) (pieces : List Bytes) :
    Walk.Tiles QCryptoFragment.offset fragmentEnd os (place os pieces) (os+pieces.flatten.length) := by
  induction pieces generalizing os with
  | nil => rfl
  | cons piece pieces ih =>
    refine ⟨rfl,?_⟩
    rw [flatten_cons,length_append,← Nat.add_assoc]
    exact ih (os+piece.length)

section
variable (hps : ∀ piece ∈ pieces, piece ≠ [])
include hps

lemma mem_place (h : fr ∈ place os pieces) :
    os ≤ fr.offset ∧ 0 < fr.length ∧ fragmentEnd fr ≤ os+pieces.flatten.length := by
  induction pieces generalizing os with
  | nil => cases h
  | cons piece pieces ih =>
    rw [flatten_cons,length_append]
    have hp := length_pos_iff.mpr (hps piece mem_cons_self)
    cases h with
    | head => exact ⟨le_rfl,hp,show os+piece.length ≤ _ by omega⟩
    | tail _ h =>
      obtain ⟨hof,hl,he⟩ := ih (fun o ho => hps o (mem_cons_of_mem piece ho)) h
      exact ⟨by omega,hl,by omega⟩

lemma pairwise_place : (place os pieces).Pairwise fun a b => a.offset < b.offset := by
  induction pieces generalizing os with
  | nil => exact .nil
  | cons piece pieces ih =>
    have hr : ∀ o ∈ pieces, o ≠ [] := fun o ho => hps o (mem_cons_of_mem piece ho)
    have hp := length_pos_iff.mpr (hps piece mem_cons_self)
    refine pairwise_cons.mpr ⟨fun o ho => ?_,ih hr⟩
    have hof := (mem_place hr ho).1
    exact Nat.lt_of_lt_of_le (Nat.lt_add_of_pos_right hp) hof

lemma nodup_offsets : ((place os pieces).map QCryptoFragment.offset).Nodup :=
  (pairwise_map.mpr (pairwise_place hps)).imp ne_of_lt

end

lemma exists_front (os : ℕ) (pieces : List Bytes) (held : List QCryptoFragment) :
    ∃ f b, pieces = f++b ∧ (∀ fr ∈ place os f, fr ∈ held) ∧
      ∀ piece rs, b = piece::rs → (⟨os+f.flatten.length,piece.length,piece⟩ : QCryptoFragment) ∉ held := by
  induction pieces generalizing os with
  | nil => exact ⟨[],[],rfl,forall_mem_nil _,nofun⟩
  | cons piece pieces ih =>
    by_cases hh : (⟨os,piece.length,piece⟩ : QCryptoFragment) ∈ held
    · obtain ⟨f,b,rfl,hf,hb⟩ := ih (os+piece.length)
      refine ⟨piece::f,b,rfl,?_,fun n rs h => ?_⟩
      · rw [place]
        exact forall_mem_cons.mpr ⟨hh,hf⟩
      · rw [flatten_cons,length_append,← Nat.add_assoc]
        exact hb n rs h
    · refine ⟨[],piece::pieces,rfl,forall_mem_nil _,fun n rs h => ?_⟩
      cases h
      exact hh

lemma findFragments_of_subset {held : List QCryptoFragment} {f bc : List Bytes}
    (hpc : ∀ piece ∈ f++bc, piece ≠ []) (hh : ∀ fr ∈ held, fr ∈ place 0 (f++bc)) (hfr : ∀ fr ∈ place 0 f, fr ∈ held)
    (hbc : ∀ piece rs, bc = piece::rs → (⟨f.flatten.length,piece.length,piece⟩ : QCryptoFragment) ∉ held) :
    findFragments held = some (place 0 f) := by
  have hfp : ∀ piece ∈ f, piece ≠ [] := fun piece hp => hpc piece (mem_append_left _ hp)
  have hu : ∀ a ∈ held, ∀ b ∈ held, a.offset = b.offset → a = b := fun a ha b hb heq =>
    inj_on_of_nodup_map (nodup_offsets hpc) (hh a ha) (hh b hb) heq
  have ht := tiles_place 0 f
  rw [Nat.zero_add] at ht
  refine Walk.walk_of_tiles hu hfr ht (fun fr hf ho => ?_) ?_
  · -- a fragment behind the front is the next one of the cut
    have hm := hh fr hf
    cases bc with
    | nil =>
      rw [append_nil] at hm
      obtain ⟨-,hl,he⟩ := mem_place hfp hm
      rw [fragmentEnd] at he
      omega
    | cons piece rs =>
      have hnx : (⟨f.flatten.length,piece.length,piece⟩ : QCryptoFragment) ∈ place 0 (f++piece::rs) := by
        rw [place_append,Nat.zero_add]
        exact mem_append_right _ mem_cons_self
      have heq := inj_on_of_nodup_map (nodup_offsets hpc) hm hnx ho
      exact hbc piece rs rfl (heq ▸ hf)
  · have hn : (place 0 f).Nodup := (nodup_offsets hfp).of_map _
    exact (hn.subperm hfr).length_le

lemma lengths_le_of_subperm {f s : List QCryptoFragment} (h : f.Subperm s) :
    (f.map QCryptoFragment.length).sum ≤ (s.map QCryptoFragment.length).sum := by
  obtain ⟨m,hp,hs⟩ := h
  rw [← (hp.map QCryptoFragment.length).sum_eq]
  exact (hs.map QCryptoFragment.length).sum_le_sum (fun n _ => Nat.zero_le n)

/-- The header of a record with a handshake message of `size` bytes. -/
def recordHeader (size : ℕ) : Bytes := [0x16,0x03,0x03]++BigEndian.put 2 size

/-- A `ClientHello` message that a record can hold, cut into pieces that are not empty. -/
structure HelloCut where
  body : Bytes
  pieces : List Bytes
  pieces_ne_nil : ∀ piece ∈ pieces, piece ≠ []
  flatten_pieces : pieces.flatten = 0x01::(BigEndian.put 3 body.length++body)
  length_body : body.length+4 ≤ 65535

def HelloCut.message (cut : HelloCut) : Bytes := 0x01::(BigEndian.put 3 cut.body.length++cut.body)

def HelloCut.fragments (cut : HelloCut) : List QCryptoFragment := place 0 cut.pieces

lemma HelloCut.length_message (cut : HelloCut) : cut.message.length = cut.body.length+4 := by
  rw [message,length_cons,length_append,BigEndian.length_put]
  omega

lemma handshakeOf_record {s : ℕ} (hsz : s < 2^16) (wr : Bytes) : JA3.handshakeOf (recordHeader s++wr) =
      if wr.length < s then fail (.lengthErr 2) else .ok (wr.take s) := by
  obtain ⟨high,l,hp⟩ : ∃ high l, BigEndian.put 2 s = [high,l] := ⟨_,_,rfl⟩
  have hvl : high.toNat*256+l.toNat = s := by
    have hrd := BigEndian.read_put 2 s
    rw [hp,Nat.mod_eq_of_lt (by omega)] at hrd
    simpa [BigEndian.read] using hrd
  have hr : recordHeader s++wr = 0x16::0x03::0x03::high::l::wr := by
    rw [recordHeader,hp]
    rfl
  have ht : (get (0x16::0x03::0x03::high::l::wr) 0 : Checked JA3.ParseError UInt8) = .ok 0x16 := rfl
  have hv : (JA3.uint16At (0x16::0x03::0x03::high::l::wr) 1 : Checked JA3.ParseError ℕ) = .ok 0x0303 :=
    JA3.uint16At_eq_ok.mpr ⟨0x03,0x03,rfl,rfl,by decide⟩
  have hl : (JA3.uint16At (0x16::0x03::0x03::high::l::wr) 3 : Checked JA3.ParseError ℕ) = .ok s :=
    JA3.uint16At_eq_ok.mpr ⟨high,l,rfl,rfl,hvl⟩
  rw [hr,JA3.handshakeOf,reject_bind (by simp),ht,ok_bind,reject_bind (by decide),hv,ok_bind,
    reject_bind (by decide),hl,ok_bind]
  split_ifs with hs
  · exact reject_bind_of (by simpa using hs) _ _
  · rw [reject_bind (by simpa using hs)]
    refine slice_eq_ok.mpr ⟨⟨by omega,by simp only [length_cons]; omega⟩,?_⟩
    rw [drop_take,Nat.add_sub_cancel_left]
    rfl

variable {bd w r : Bytes}

section
variable (hb : bd.length+4 ≤ 65535) (hms : 0x01::(BigEndian.put 3 bd.length++bd) = w++r) (hrs : r ≠ [])
include hb hms hrs

lemma versionField_of_cut_off : ∃ e, JA3.versionField w = fail e := by
  rw [JA3.versionField]
  by_cases hs : w.length < 39
  · exact ⟨_,reject_bind_of hs _ _⟩
  · obtain ⟨f,s,t,hp⟩ : ∃ f s t, BigEndian.put 3 bd.length = [f,s,t] :=
      ⟨_,_,_,rfl⟩
    have hv : f.toNat*65536+s.toNat*256+t.toNat = bd.length := by
      have hr := BigEndian.read_put 3 bd.length
      rw [hp,Nat.mod_eq_of_lt (by omega)] at hr
      rw [← hr]
      simp only [BigEndian.read,foldl_cons,foldl_nil]
      ring
    rw [hp] at hms
    rcases w with _ | ⟨tp,_ | ⟨a,_ | ⟨b,_ | ⟨c,tl⟩⟩⟩⟩
    iterate 4 exact absurd (by simp) hs
    simp only [cons_append,nil_append,cons.injEq] at hms
    obtain ⟨rfl,rfl,rfl,rfl,rfl⟩ := hms
    have hps := length_pos_iff.mpr hrs
    rw [length_append] at hv
    refine ⟨.lengthErr 4,?_⟩
    have hg : ∀ i v, (0x01::f::s::t::tl : Bytes)[i]? = some v →
        (get (0x01::f::s::t::tl) i : Checked JA3.ParseError UInt8) = .ok v :=
      fun i v h => get_eq_ok.mpr h
    rw [reject_bind hs,hg 0 0x01 rfl,ok_bind,reject_bind (by decide),hg 1 f rfl,ok_bind,
      hg 2 s rfl,ok_bind,hg 3 t rfl,ok_bind]
    refine reject_bind_of ?_ _ _
    simp only [length_cons]
    omega

lemma compute_of_cut_off {s : ℕ} (hsz : s < 2^16) : ∃ e, JA3.compute (recordHeader s++w) = fail e := by
  have hh := handshakeOf_record hsz w
  rw [JA3.compute,JA3.parseSegment,hh]
  split_ifs with hs
  · exact ⟨_,rfl⟩
  · have hm' : 0x01::(BigEndian.put 3 bd.length++bd) = w.take s++(w.drop s++r) := by
      rw [← append_assoc,take_append_drop]
      exact hms
    have hr' : w.drop s++r ≠ [] := fun hn => hrs (append_eq_nil_iff.mp hn).2
    obtain ⟨e,he⟩ := versionField_of_cut_off hb hm' hr'
    refine ⟨e,?_⟩
    change JA3.parseHandshake _ = _
    rw [JA3.parseHandshake,JA3.handshakeFields,he]
    rfl

end

variable {cut : HelloCut} {hel : List QCryptoFragment}

lemma exists_record (h : hel.Subperm cut.fragments) : ∃ f b, cut.pieces = f++b ∧ (∀ fr ∈ place 0 f, fr ∈ hel) ∧
      (b ≠ [] → ∃ fr ∈ cut.fragments, fr ∉ hel) ∧
      clientHelloRecord hel = some (recordHeader (hel.map QCryptoFragment.length).sum++f.flatten) := by
  obtain ⟨f,b,hpc,hf,hb⟩ := exists_front 0 cut.pieces hel
  rw [Nat.zero_add] at hb
  have hne := cut.pieces_ne_nil
  have hs : ∀ fr ∈ hel, fr ∈ place 0 (f++b) := hpc ▸ h.subset
  rw [hpc] at hne
  refine ⟨f,b,hpc,hf,fun hnl => ?_,?_⟩
  · obtain ⟨piece,r,rfl⟩ := exists_cons_of_ne_nil hnl
    refine ⟨_,?_,hb piece r rfl⟩
    rw [HelloCut.fragments,hpc,place_append,Nat.zero_add]
    exact mem_append_right _ mem_cons_self
  · have hn : (place 0 f).Nodup :=
      (nodup_offsets fun piece hp => hne piece (mem_append_left _ hp)).of_map _
    have hle := lengths_le_of_subperm (hn.subperm hf)
    rw [lengths_place] at hle
    rw [clientHelloRecord,findFragments_of_subset hne hs hf hb,Option.map_some,payloads_place,recordHeader]
    refine congrArg some (take_of_length_le ?_)
    rw [length_append,length_append,BigEndian.length_put]
    exact Nat.add_le_add_left hle 5

lemma clientHelloRecord_of_perm (h : hel.Perm cut.fragments) :
    clientHelloRecord hel = some (recordHeader cut.message.length++cut.message) := by
  obtain ⟨f,b,hp,-,hb,hr⟩ := exists_record h.subperm
  have hn : b = [] := by
    by_contra hne
    obtain ⟨fr,hm,hnt⟩ := hb hne
    exact hnt (h.symm.subset hm)
  rw [hn,append_nil] at hp
  have hs : (hel.map QCryptoFragment.length).sum = cut.pieces.flatten.length := by
    rw [(h.map QCryptoFragment.length).sum_eq,HelloCut.fragments,lengths_place]
  rw [hr,hs,← hp,cut.flatten_pieces]
  rfl

lemma unparsed_of_missing (h : hel.Subperm cut.fragments) (hm : ¬ hel.Perm cut.fragments) : Unparsed hel := by
  obtain ⟨f,b,hp,hf,-,hr⟩ := exists_record h
  have hne := cut.pieces_ne_nil
  have hbc : b ≠ [] := by
    rintro rfl
    rw [append_nil] at hp
    have hn : cut.fragments.Nodup := (nodup_offsets hne).of_map _
    have ha : ∀ fr ∈ cut.fragments, fr ∈ hel := by
      rw [HelloCut.fragments,hp]
      exact hf
    exact hm (h.antisymm (hn.subperm ha))
  have hrt : b.flatten ≠ [] := by
    obtain ⟨piece,r,rfl⟩ := exists_cons_of_ne_nil hbc
    rw [hp] at hne
    rw [flatten_cons]
    exact fun hnl => hne piece (by simp) (append_eq_nil_iff.mp hnl).1
  have hmg := cut.flatten_pieces
  have hl := cut.length_message
  have hb := cut.length_body
  rw [HelloCut.message,← hmg] at hl
  rw [hp,flatten_append] at hmg
  have hs := lengths_le_of_subperm h
  rw [HelloCut.fragments,lengths_place] at hs
  obtain ⟨e,he⟩ := compute_of_cut_off hb hmg.symm hrt
    (show (hel.map QCryptoFragment.length).sum < 2^16 by omega)
  exact ⟨_,e,hr,he⟩

end

variable {protection : PacketProtection} {context : Option (List QCryptoFragment)} {datagram : Datagram}
  {fragments : List QCryptoFragment}

/-- A packet that can be decrypted, with the fragments of its frames. -/
def Carries (protection : PacketProtection) (datagram : Datagram) (fragments : List QCryptoFragment) : Prop :=
  ∃ decrypted spare, openInitial protection datagram.packet = .ok (decrypted,spare) ∧ PayloadBytes decrypted fragments

def handedRecord (protection : PacketProtection) (context : Option (List QCryptoFragment)) (datagram : Datagram) :
    Option Bytes :=
  match initialFrames protection datagram.packet with
  | .error _ => none
  | .ok frames => clientHelloRecord (heldFragments context frames)

lemma sniffDatagram_of_carries (h : Carries protection datagram fragments) (context : Option (List QCryptoFragment)) :
    ∃ ts, sniffDatagram protection context datagram =
        sniffFrames { datagram.metadata with sniffContext := context } { frameTypeList := ts, fragments } ∧
      handedRecord protection context datagram = clientHelloRecord (fragments++context.getD []) := by
  obtain ⟨d,s,ho,hp⟩ := h
  obtain ⟨ts,hf⟩ := frameLoop_of_payload hp (nil_append _).symm le_rfl s {}
  have hi : initialFrames protection datagram.packet = .ok { frameTypeList := ts, fragments } := by
    rw [initialFrames,ho]
    exact hf
  refine ⟨ts,?_,?_⟩
  · rw [sniffDatagram,quicClientHello,hi]
  · rw [handedRecord,hi]
    rfl

lemma sniffFrames_of_refused (m : InboundContext) (fr : Frames) {r : Bytes} {e : JA3.ParseError}
    (hr : clientHelloRecord (heldFragments m.sniffContext fr) = some r)
    (hc : JA3.compute r = fail e) : (sniffFrames m fr).2 = fail (needMoreData e.error) ∧
      (sniffFrames m fr).1.sniffContext = some (heldFragments m.sniffContext fr) := by
  have hs : sniffFrames m fr = parseRecord (asQUIC m) fr.frameTypeList
      (heldFragments m.sniffContext fr) r := by
    rw [sniffFrames,hr]
  rw [hs,parseRecord,hc]
  exact ⟨rfl,rfl⟩

lemma sniffDatagram_of_unparsed (h : Carries protection datagram fragments)
    (hu : Unparsed (fragments++context.getD [])) :
    ∃ r e, handedRecord protection context datagram = some r ∧ JA3.compute r = fail e ∧
      (sniffDatagram protection context datagram).2 = fail (needMoreData e.error) ∧
      nextFragments protection context datagram = some (fragments++context.getD []) := by
  obtain ⟨ts,hs,hh⟩ := sniffDatagram_of_carries h context
  obtain ⟨r,e,hr,hc⟩ := hu
  obtain ⟨hrl,hcn⟩ := sniffFrames_of_refused { datagram.metadata with sniffContext := context }
    { frameTypeList := ts, fragments } hr hc
  refine ⟨r,e,hh.trans hr,hc,?_,?_⟩
  · rw [hs]
    exact hrl
  · rw [nextFragments,hs]
    exact hcn

variable {cut : HelloCut}

lemma held_of_arrived {a : List (Datagram × List QCryptoFragment)} (hc : ∀ ar ∈ a, Carries protection ar.1 ar.2)
    (hs : (a.flatMap Prod.snd).Subperm cut.fragments) (hm : ¬ (a.flatMap Prod.snd).Perm cut.fragments) :
    (((a.map Prod.fst).foldl (nextFragments protection) none).getD []).Perm (a.flatMap Prod.snd) := by
  induction a using reverseRecOn with
  | nil => exact .refl []
  | append_singleton a l ih =>
    rw [flatMap_append,flatMap_singleton] at hs hm ⊢
    have hb : (a.flatMap Prod.snd).Subperm cut.fragments := (sublist_append_left _ _).subperm.trans hs
    have hmb : ¬ (a.flatMap Prod.snd).Perm cut.fragments := by
      intro hp
      -- then the last packet brought nothing
      have hl := hs.length_le
      rw [length_append,← hp.length_eq] at hl
      have hn : l.2 = [] := length_eq_zero_iff.mp (by omega)
      rw [hn,append_nil] at hm
      exact hm hp
    have hh := ih (fun ar h => hc ar (mem_append_left _ h)) hb hmb
    rw [map_append,foldl_append]
    have hp : (l.2++((a.map Prod.fst).foldl (nextFragments protection) none).getD []).Perm
        (a.flatMap Prod.snd++l.2) :=
      (hh.append_left l.2).trans perm_append_comm
    have hu := unparsed_of_missing (hp.subperm.trans hs) fun ha => hm (hp.symm.trans ha)
    obtain ⟨r,e,-,-,-,hnx⟩ := sniffDatagram_of_unparsed
      (hc l (mem_append_right _ mem_cons_self)) hu
    change ((nextFragments protection _ l.1).getD []).Perm _
    rw [hnx]
    exact hp

/-- The frames of a `ClientHello` may come in any order and in any number of packets. With the packet that brings
the last fragment the parser is handed the record of the message; with any packet before it the parser refuses what
it is handed, and the sniffer asks for more data and keeps all that has arrived. -/
theorem hello_reassembled_in_any_order (protection : PacketProtection) (cut : HelloCut)
    (arrived : List (Datagram × List QCryptoFragment)) (last : Datagram × List QCryptoFragment)
    (hcarries : ∀ arrival ∈ arrived++[last], Carries protection arrival.1 arrival.2)
    (hsub : (arrived.flatMap Prod.snd++last.2).Subperm cut.fragments)
    (hmissing : ¬ (arrived.flatMap Prod.snd).Perm cut.fragments) :
    ((arrived.flatMap Prod.snd++last.2).Perm cut.fragments →
      handedRecord protection ((arrived.map Prod.fst).foldl (nextFragments protection) none) last.1 =
        some (recordHeader cut.message.length++cut.message)) ∧
    (¬ (arrived.flatMap Prod.snd++last.2).Perm cut.fragments → ∃ record err held,
        handedRecord protection ((arrived.map Prod.fst).foldl (nextFragments protection) none) last.1 = some record ∧
        JA3.compute record = fail err ∧
        (sniffDatagram protection ((arrived.map Prod.fst).foldl (nextFragments protection) none) last.1).2 =
          fail (needMoreData err.error) ∧
        nextFragments protection ((arrived.map Prod.fst).foldl (nextFragments protection) none) last.1 = some held ∧
        held.Perm (arrived.flatMap Prod.snd++last.2)) := by
  have hhl := held_of_arrived (fun arrival h => hcarries arrival (mem_append_left _ h))
    ((sublist_append_left _ _).subperm.trans hsub) hmissing
  have hl := hcarries last (mem_append_right _ mem_cons_self)
  have hp : (last.2++((arrived.map Prod.fst).foldl (nextFragments protection) none).getD []).Perm
      (arrived.flatMap Prod.snd++last.2) :=
    (hhl.append_left last.2).trans perm_append_comm
  constructor
  · intro ha
    obtain ⟨ts,-,hh⟩ := sniffDatagram_of_carries hl
      ((arrived.map Prod.fst).foldl (nextFragments protection) none)
    rw [hh]
    exact clientHelloRecord_of_perm (hp.trans ha)
  · intro hn
    have hu := unparsed_of_missing (hp.subperm.trans hsub) fun ha => hn (hp.symm.trans ha)
    obtain ⟨record,err,hh,hc,hr,hnx⟩ := sniffDatagram_of_unparsed hl hu
    exact ⟨record,err,_,hh,hc,hr,hnx,hp⟩

def shortCut : HelloCut where
  body := []
  pieces := [[0x01],[0x00,0x00,0x00]]
  pieces_ne_nil := by decide
  flatten_pieces := by decide
  length_body := by decide

/-- The second piece comes first. -/
theorem short_hello_reassembled : handedRecord plainProtection
        ([{ packet := initialPacket [0x06,0x01,0x03,0x00,0x00,0x00] }].foldl (nextFragments plainProtection) none)
        { packet := initialPacket [0x06,0x00,0x01,0x01] } =
      some (recordHeader shortCut.message.length++shortCut.message) := by
  have hs : PayloadBytes [0x06,0x01,0x03,0x00,0x00,0x00] [⟨1,3,[0x00,0x00,0x00]⟩] :=
    .cons (.crypto ⟨0,1,by decide,by decide⟩ ⟨0,3,by decide,by decide⟩ [0x00,0x00,0x00] rfl) .nil
  have hf : PayloadBytes [0x06,0x00,0x01,0x01] [⟨0,1,[0x01]⟩] :=
    .cons (.crypto ⟨0,0,by decide,by decide⟩ ⟨0,1,by decide,by decide⟩ [0x01] rfl) .nil
  refine (hello_reassembled_in_any_order plainProtection shortCut
    [({ packet := initialPacket [0x06,0x01,0x03,0x00,0x00,0x00] },[⟨1,3,[0x00,0x00,0x00]⟩])]
    ({ packet := initialPacket [0x06,0x00,0x01,0x01] },[⟨0,1,[0x01]⟩]) ?_ ?_ ?_).1 ?_
  · refine forall_mem_cons.mpr ⟨⟨_,replicate 16 0,by decide,hs⟩,?_⟩
    exact forall_mem_singleton.mpr ⟨_,replicate 16 0,by decide,hf⟩
  · exact (List.Perm.swap _ _ []).subperm
  · exact fun h => absurd h.length_eq (by decide)
  · exact List.Perm.swap _ _ []

end SingBox.Sniff
