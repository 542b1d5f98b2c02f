import SingBox.Common.Binary

/-! The frames that the writer of v2raywebsocket makes in front of a buffer, and the grammar of frames. -/
namespace SingBox.WebSocket
open List ByteProgram

/-- `buf.Buffer`: the free bytes in front, and the data. -/
structure Buffer where
  front : Bytes
  data : Bytes

/-- `ws.Cipher` at offset zero. -/
def cipher (key data : Bytes) : Bytes := data.mapIdx fun i b => b ^^^ key.getD (i%4) 0

/-- A slice in which `bytes` are written from position `i` on. -/
def putAt (slice : Bytes) (i : ℕ) (bytes : Bytes) : Bytes := slice.take i++bytes++slice.drop (i+bytes.length)

def payloadBitLength (dataLen : ℕ) : ℕ := if dataLen < 126 then 1 else if dataLen < 65536 then 3 else 9

def headerLen (isServer : Bool) (dataLen : ℕ) : ℕ := 1+payloadBitLength dataLen+if isServer then 0 else 4

def frontHeadroom : ℕ := 14

/-- What `WriteBuffer` makes of the bytes that `ExtendHeader` exposes. -/
def writeHeader (isServer : Bool) (maskKey dataLen : ℕ) (header : Bytes) : Bytes :=
  let header := (header.set 0 (0x02 ||| 0x80)).set 1 (if isServer then 0 else (1 : UInt8) <<< 7)
  let header :=
    if dataLen < 126 then header.modify 1 (· ||| UInt8.ofNat dataLen)
    else if dataLen < 65536 then putAt (header.modify 1 (· ||| 126)) 2 (BigEndian.put 2 dataLen)
    else putAt (header.modify 1 (· ||| 127)) 2 (BigEndian.put 8 dataLen)
  if isServer then header else putAt header (1+payloadBitLength dataLen) (BigEndian.put 4 maskKey)

/-- What `WriteBuffer` hands to the writer below; without the room in front it panics. -/
def writeBuffer (isServer : Bool) (maskKey : ℕ) (buffer : Buffer) : Option Bytes :=
  let dataLen := buffer.data.length
  if buffer.front.length < headerLen isServer dataLen then none
  else
    let header := writeHeader isServer maskKey dataLen (buffer.front.drop (buffer.front.length-headerLen isServer dataLen))
    some (header++if isServer then buffer.data else cipher ((header.drop (1+payloadBitLength dataLen)).take 4) buffer.data)

/-- A frame with its payload unmasked. -/
structure Frame where
  fin : Bool
  rsv : ℕ
  opcode : ℕ
  maskingKey : Option Bytes
  payload : Bytes

/-- The length that goes with the seven bits, in its shortest form. -/
def readLength (bits : ℕ) : Decoder ℕ :=
  if bits < 126 then pure bits
  else do
    let n ← BigEndian.read <$> readFull (if bits = 126 then 2 else 8)
    if (bits = 126 ∧ 126 ≤ n) ∨ (bits = 127 ∧ 65536 ≤ n ∧ n < 2^63) then pure n else .fail (.new [])

def readMaskingKey (masked : Bool) : Decoder (Option Bytes) := if masked then some <$> readFull 4 else pure none

/-- The grammar of a frame. -/
def readFrame : Decoder Frame := do
  let first ← readByte
  let second ← readByte
  let n ← readLength (second.toNat%128)
  let maskingKey ← readMaskingKey (128 ≤ second.toNat)
  let payload ← readFull n
  pure ⟨128 ≤ first.toNat,first.toNat/16%8,first.toNat%16,maskingKey,maskingKey.elim payload (cipher · payload)⟩

lemma cipher_cipher (k d : Bytes) : cipher k (cipher k d) = d := by
  refine ext_getElem (by simp [cipher]) fun i _ _ => ?_
  simp only [cipher,getElem_mapIdx]
  rw [UInt8.xor_assoc,UInt8.xor_self,UInt8.xor_zero]

lemma putAt_append (f bs b : Bytes) {o : Bytes} {i : ℕ} (hi : f.length = i)
    (h : o.length = bs.length) : putAt (f++(o++b)) i bs = f++(bs++b) := by
  subst hi
  simp [putAt,← h]

/-- The seven bits and the bytes after them that stand for a length. -/
def lengthBits (n : ℕ) : ℕ := if n < 126 then n else if n < 65536 then 126 else 127

def lengthBytes (n : ℕ) : Bytes := BigEndian.put (payloadBitLength n-1) n

lemma payloadBitLength_eq (n : ℕ) : payloadBitLength n = (lengthBytes n).length+1 := by
  rw [lengthBytes,BigEndian.length_put,payloadBitLength]
  split_ifs <;> rfl

lemma parses_readLength {n : ℕ} (hn : n < 2^63) : (readLength (lengthBits n)).Parses maxAlloc (lengthBytes n) n := by
  have hb : ∀ w, n < 256^w → Parses maxAlloc (BigEndian.read <$> readFull w : Decoder ℕ)
      (BigEndian.put w n) n := by
    intro w hw
    have hr := (Parses.readFull (ε := ReadError) (l := maxAlloc) (BigEndian.put w n)).map BigEndian.read
    rwa [BigEndian.length_put,BigEndian.read_put,Nat.mod_eq_of_lt hw] at hr
  unfold readLength lengthBits lengthBytes payloadBitLength
  by_cases hsm : n < 126
  · simp only [if_pos hsm]
    exact .pure n
  · simp only [if_neg hsm]
    by_cases hs : n < 65536
    · simp only [if_pos hs]
      rw [← append_nil (BigEndian.put _ n)]
      refine (hb 2 (by omega)).bind ?_
      rw [if_pos (.inl ⟨trivial,by omega⟩)]
      exact .pure n
    · simp only [if_neg hs]
      rw [← append_nil (BigEndian.put _ n)]
      refine (hb 8 (by omega)).bind ?_
      rw [if_pos (.inr ⟨trivial,by omega,hn⟩)]
      exact .pure n

/-- The header as the list of its bytes, whatever lay in front of the data. -/
lemma writeHeader_eq (isServer : Bool) (maskKey : ℕ) {dataLen : ℕ} {header : Bytes}
    (h : header.length = headerLen isServer dataLen) : writeHeader isServer maskKey dataLen header =
      0x82::((if isServer then 0 else 0x80) ||| UInt8.ofNat (lengthBits dataLen))::(lengthBytes dataLen++
        if isServer then [] else BigEndian.put 4 maskKey) := by
  rw [headerLen,payloadBitLength_eq] at h
  obtain ⟨a,b,l,m,rfl,hl⟩ : ∃ a b l m, header = a::b::(l++m) ∧ l.length = (lengthBytes dataLen).length := by
    obtain _ | ⟨a,_ | ⟨b,r⟩⟩ := header
    · simp at h
      omega
    · simp at h
      omega
    · rw [length_cons,length_cons] at h
      exact ⟨a,b,_,_,by rw [take_append_drop (lengthBytes dataLen).length],length_take_of_le (by omega)⟩
  have hm : m.length = if isServer then 0 else 4 := by
    simp only [length_cons,length_append] at h
    omega
  have hp : ∀ (c : UInt8) (bs : Bytes), l.length = bs.length →
      putAt (0x82::c::(l++m)) 2 bs = 0x82::c::(bs++m) := fun c bs h => putAt_append [0x82,c] bs m rfl h
  have hb : ∀ bit : UInt8, (if dataLen < 126 then (0x82::bit::(l++m)).modify 1 (· ||| UInt8.ofNat dataLen)
      else if dataLen < 65536 then putAt ((0x82::bit::(l++m)).modify 1 (· ||| 126)) 2 (BigEndian.put 2 dataLen)
      else putAt ((0x82::bit::(l++m)).modify 1 (· ||| 127)) 2 (BigEndian.put 8 dataLen)) =
      0x82::(bit ||| UInt8.ofNat (lengthBits dataLen))::(lengthBytes dataLen++m) := by
    intro bit
    unfold lengthBits lengthBytes payloadBitLength at *
    split_ifs at hl ⊢
    · rw [length_eq_zero_iff.mp hl]
      rfl
    · exact hp _ _ hl
    · exact hp _ _ hl
  cases isServer with
  | true =>
    obtain rfl : m = [] := length_eq_zero_iff.mp hm
    exact hb 0
  | false =>
    have hk := putAt_append (0x82::(0x80 ||| UInt8.ofNat (lengthBits dataLen))::lengthBytes dataLen)
      (BigEndian.put 4 maskKey) [] (i := 1+payloadBitLength dataLen)
      (by simp [payloadBitLength_eq]; omega) (show m.length = _ by simpa using hm)
    rw [append_nil,append_nil] at hk
    exact (congrArg (putAt · _ _) (hb 0x80)).trans hk

lemma toNat_second (i : Bool) {n : ℕ} (hn : n < 128) :
    ((if i then 0 else 0x80) ||| UInt8.ofNat n).toNat = n+if i then 0 else 128 := by
  revert n
  cases i <;> decide

/-- Every buffer with the room in front becomes one final binary frame with its data, masked in the role of the client. -/
theorem readFrame_writeBuffer (isServer : Bool) (maskKey : ℕ) (buffer : Buffer)
    (hr : frontHeadroom ≤ buffer.front.length) (hint : buffer.data.length < 2^63) :
    ∃ bytes, writeBuffer isServer maskKey buffer = some bytes ∧ readFrame.Parses maxAlloc bytes
      ⟨true,0,2,if isServer then none else some (BigEndian.put 4 maskKey),buffer.data⟩ := by
  obtain ⟨front,data⟩ := buffer
  have hl : headerLen isServer data.length ≤ front.length := by
    refine le_trans ?_ hr
    unfold headerLen payloadBitLength
    split_ifs <;> decide
  have hb : lengthBits data.length < 128 := by
    unfold lengthBits
    split_ifs <;> omega
  have hs := toNat_second isServer hb
  have hp : ∀ b : Bytes, b.length = data.length →
      Parses maxAlloc (readFull data.length : Decoder Bytes) b b := fun b h => h ▸ .readFull b
  refine ⟨_,if_neg (not_lt.mpr hl),?_⟩
  rw [writeHeader_eq isServer maskKey (by rw [length_drop]; exact Nat.sub_sub_self hl),cons_append,cons_append,append_assoc]
  refine .byte _ (.byte _ ?_)
  change Parses maxAlloc (readLength (UInt8.toNat _%128) >>= _) _ _
  have hmd : (lengthBits data.length+if isServer then 0 else 128)%128 = lengthBits data.length := by
    split_ifs <;> omega
  have hm : decide (128 ≤ lengthBits data.length+if isServer then 0 else 128) = !isServer := by
    cases isServer <;> simp
    omega
  rw [hs,hmd,hm]
  refine (parses_readLength hint).bind ?_
  cases isServer with
  | true => exact (hp data rfl).map (Frame.mk true 0 2 none)
  | false =>
    have hdp : ((0x82::(0x80 ||| UInt8.ofNat (lengthBits data.length))::(lengthBytes data.length++
        BigEndian.put 4 maskKey)).drop (1+payloadBitLength data.length)).take 4 = BigEndian.put 4 maskKey := by
      rw [payloadBitLength_eq,add_comm,drop_succ_cons,drop_succ_cons,drop_left]
      exact take_of_length_le (by simp)
    have hk := (Parses.readFull (ε := ReadError) (l := maxAlloc) (BigEndian.put 4 maskKey)).map some
    have hd := (hp (cipher (BigEndian.put 4 maskKey) data) (by simp [cipher])).map fun p =>
      Frame.mk true 0 2 (some (BigEndian.put 4 maskKey)) (cipher (BigEndian.put 4 maskKey) p)
    rw [cipher_cipher] at hd
    rw [BigEndian.length_put] at hk
    simp only [Bool.false_eq_true,if_false,hdp]
    exact hk.bind hd

/-- 126 bytes of a client, whose length takes two bytes more, behind a buffer of fourteen. -/
theorem masked_bytes_framed :
    ∃ bytes, writeBuffer false 0x37fa213d ⟨replicate 14 0,replicate 126 0x61⟩ = some bytes ∧
      readFrame.Parses maxAlloc bytes ⟨true,0,2,some (BigEndian.put 4 0x37fa213d),replicate 126 0x61⟩ :=
  readFrame_writeBuffer false 0x37fa213d ⟨replicate 14 0,replicate 126 0x61⟩ (by simp [frontHeadroom]) (by simp)

end SingBox.WebSocket
