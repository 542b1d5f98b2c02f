import SingBox.Adapter.InboundContext
import SingBox.Common.JA3
import SingBox.Library.Walk

/-! The QUIC sniffer (`common/sniff/quic.go`): the header of an Initial packet, its frames after decryption, and
the `ClientHello` that is put together from the CRYPTO frames of a flow. The primitives of packet protection are
left open. -/
namespace SingBox.Sniff
open Adapter Checked

def errEOF : GoError := { text := "EOF" }

def errUnexpectedEOF : GoError := { text := "unexpected EOF" }

/-- `E.Cause1` of `ErrNeedMoreData` and a cause. -/
def needMoreData (cause : String) : GoError := { text := "need more data: "++cause, needMoreData := true }

def textOf (bytes : Bytes) : String := String.ofList (bytes.map fun b => Char.ofNat b.toNat)

section

def readByte : Bytes → Checked GoError (UInt8 × Bytes)
  | [] => fail errEOF
  | b :: rest => pure (b,rest)

/-- `io.ReadFull` into a buffer of `n` bytes. -/
def readFull (n : ℕ) (rest : Bytes) : Checked GoError (Bytes × Bytes) :=
  if n ≤ rest.length then pure (rest.take n,rest.drop n)
  else if rest = [] then fail errEOF
  else fail errUnexpectedEOF

/-- `io.CopyN` to `io.Discard`. -/
def discard (n : ℕ) (rest : Bytes) : Checked GoError Bytes :=
  if n ≤ rest.length then pure (rest.drop n) else fail errEOF

/-- `qtls.ReadUvarint`: the first two bits of the first byte are the binary logarithm of the length. -/
def readUvarint : Bytes → Checked GoError (ℕ × Bytes)
  | [] => fail errEOF
  | firstByte :: rest =>
    let more := 2^((firstByte &&& 0xc0) >>> 6).toNat-1
    if rest.length < more then fail errEOF
    else pure (BigEndian.read ((firstByte &&& 0x3f)::rest.take more),rest.drop more)

def skipUvarints : ℕ → Bytes → Checked GoError Bytes
  | 0, rest => pure rest
  | n+1, rest => do
    let number ← readUvarint rest
    skipUvarints n number.2

variable (n : ℕ) (rs : Bytes)

lemma readByte_meets : Meets (readByte rs) fun r => r.2.length+1 = rs.length := by
  cases rs with
  | nil => exact meets_fail errEOF
  | cons => exact meets_pure rfl

lemma readFull_meets : Meets (readFull n rs) fun r => r.2.length+n = rs.length := by
  rw [readFull]
  split_ifs with hn hnl
  · refine meets_pure ?_
    rw [List.length_drop]
    omega
  · exact meets_fail errEOF
  · exact meets_fail errUnexpectedEOF

lemma discard_meets : Meets (discard n rs) fun l => l.length+n = rs.length := by
  rw [discard]
  split_ifs with hn
  · refine meets_pure ?_
    rw [List.length_drop]
    omega
  · exact meets_fail errEOF

lemma readUvarint_meets : Meets (readUvarint rs) fun nm => nm.2.length < rs.length := by
  cases rs with
  | nil => exact meets_fail errEOF
  | cons =>
    rw [readUvarint]
    split_ifs with hs
    · exact meets_fail errEOF
    · refine meets_pure ?_
      rw [List.length_drop,List.length_cons]
      omega

lemma skipUvarints_meets : Meets (skipUvarints n rs) fun l => l.length ≤ rs.length := by
  induction n generalizing rs with
  | zero => exact meets_pure le_rfl
  | succ n ih =>
    refine (readUvarint_meets rs).bind fun nm hn => ?_
    exact (ih nm.2).mono fun l hl => hl.trans hn.le

end

def versionDraft29 : ℕ := 0xff00001d
def version1 : ℕ := 0x1
def version2 : ℕ := 0x6b3343cf

/-- What the header of an Initial packet says; `hdrLen` is the place of the packet number, `pnBytes` the sample
for the mask. -/
structure InitialHeader where
  versionNumber : ℕ
  destConnID : Bytes
  hdrLen : ℕ
  packetLen : ℕ
  pnBytes : Bytes

def readHeader (packet : Bytes) : Checked GoError InitialHeader := do
  let (typeByte,rest) ← readByte packet
  reject (typeByte &&& 0x40 = 0) { text := "bad type byte" }
  let (versionBytes,rest) ← readFull 4 rest
  let versionNumber := BigEndian.read versionBytes
  reject (versionNumber ≠ versionDraft29 ∧ versionNumber ≠ version1 ∧ versionNumber ≠ version2)
    { text := "bad version" }
  let packetType := (typeByte &&& 0x30) >>> 4
  reject (packetType = 0 ∧ versionNumber = version2 ∨ packetType = 2 ∧ versionNumber ≠ version2 ∨ packetType > 2)
    { text := "bad packet type" }
  let (destConnIDLen,rest) ← readByte rest
  reject (destConnIDLen = 0 ∨ destConnIDLen > 20) { text := "bad destination connection id length" }
  let (destConnID,rest) ← readFull destConnIDLen.toNat rest
  let (srcConnIDLen,rest) ← readByte rest
  let rest ← discard srcConnIDLen.toNat rest
  let (tokenLen,rest) ← readUvarint rest
  let rest ← discard tokenLen rest
  let (packetLen,rest) ← readUvarint rest
  let hdrLen := packet.length-rest.length
  reject (hdrLen+packetLen > packet.length) errInvalid
  let rest ← discard 4 rest
  let (pnBytes,_) ← readFull 16 rest
  pure { versionNumber, destConnID, hdrLen, packetLen, pnBytes }

/-- The primitives behind packet protection: the mask for the header, made of the keys of a version and a
connection and of a sample, and the decryption of a packet, with their lengths. -/
structure PacketProtection where
  mask : ℕ → Bytes → Bytes → Except GoError Bytes
  decrypt : ℕ → Bytes → ℕ → Bytes → Bytes → Except GoError Bytes
  length_mask : ∀ {version destConnID sample bytes}, mask version destConnID sample = .ok bytes → bytes.length = 16
  length_decrypt : ∀ {version destConnID packetNumber data additionalData plain},
    decrypt version destConnID packetNumber data additionalData = .ok plain → plain.length+16 = data.length

def xorAt (b : Bytes) (i : ℕ) (x : UInt8) : Checked GoError Bytes := do
  let value ← get b i
  pure (b.set i (value ^^^ x))

/-- The mask is taken off the first byte and off the four bytes where the packet number may be. -/
def unmask (packet mask : Bytes) (hdrLen : ℕ) : Checked GoError Bytes := do
  let first ← get mask 0
  let newPacket ← xorAt packet 0 (first &&& 0xf)
  let masked ← slice newPacket hdrLen (hdrLen+4)
  (List.range masked.length).foldlM (fun newPacket i => do
    let x ← get mask (i+1)
    xorAt newPacket (hdrLen+i) x) newPacket

def readPacketNumber (newPacket : Bytes) (hdrLen packetNumberLength : ℕ) : Checked GoError ℕ :=
  match packetNumberLength with
  | 1 | 2 | 3 | 4 => do
    let number ← slice newPacket hdrLen (hdrLen+packetNumberLength)
    pure (BigEndian.read number)
  | _ => fail { text := "bad packet number length" }

/-- The bytes behind the packet number are as they came: the mask was on the packet number only. -/
def restore (packet newPacket : Bytes) (low high : ℕ) : Checked GoError Bytes := do
  let target ← slice newPacket low high
  let source ← sliceFrom packet low
  let n := min target.length source.length
  pure (newPacket.take low++source.take n++newPacket.drop (low+n))

/-- The packet up to its decryption. Besides the decrypted payload it gives the bytes of the buffer behind it: they
are within the capacity of the slice. -/
def openInitial (protection : PacketProtection) (packet : Bytes) : Checked GoError (Bytes × Bytes) := do
  let header ← readHeader packet
  let mask ← ofExcept (protection.mask header.versionNumber header.destConnID header.pnBytes)
  let newPacket ← unmask packet mask header.hdrLen
  let first ← get newPacket 0
  let packetNumberLength := (first &&& 0x3).toNat+1
  reject (header.hdrLen+packetNumberLength > header.packetLen+header.hdrLen) errInvalid
  let packetNumber ← readPacketNumber newPacket header.hdrLen packetNumberLength
  let extHdrLen := header.hdrLen+packetNumberLength
  let newPacket ← restore packet newPacket extHdrLen (header.hdrLen+4)
  let data ← slice newPacket extHdrLen (header.packetLen+header.hdrLen)
  let additionalData ← slice newPacket 0 extHdrLen
  let decrypted ← ofExcept
    (protection.decrypt header.versionNumber header.destConnID packetNumber data additionalData)
  pure (decrypted,newPacket.drop (extHdrLen+decrypted.length))

def readAck (rest : Bytes) : Checked GoError Bytes := do
  let rest ← skipUvarints 2 rest
  let ackRangeCount ← readUvarint rest
  let rest ← skipUvarints 1 ackRangeCount.2
  skipUvarints (2*ackRangeCount.1) rest

/-- The fields of a frame behind its type, and what follows them. A CRYPTO frame gives its offset and its length,
and its data follows. -/
def readFrame (frameType : UInt8) (rest : Bytes) : Checked GoError (Option (ℕ × ℕ) × Bytes) :=
  match frameType.toNat with
  | 0x00 => pure (none,rest)
  | 0x01 => pure (none,rest)
  | 0x02 => do
    let rest ← readAck rest
    pure (none,rest)
  | 0x03 => do
    let rest ← readAck rest
    let rest ← skipUvarints 3 rest
    pure (none,rest)
  | 0x06 => do
    let offset ← readUvarint rest
    let length ← readUvarint offset.2
    pure (some (offset.1,length.1),length.2)
  | 0x1c => do
    let rest ← skipUvarints 2 rest
    let length ← readUvarint rest
    pure (none,length.2.drop length.1)
  | _ => fail errInvalid

structure Frames where
  frameTypeList : List UInt8 := []
  fragments : List QCryptoFragment := []
  deriving DecidableEq

/-- The frame loop, with a bound on its rounds. The data of a CRYPTO frame is a slice of the payload, which may
reach as far as the buffer. -/
def frameLoop (decrypted spare : Bytes) : ℕ → Bytes → Frames → Checked GoError Frames
  | _, [], frames => pure frames
  | 0, _ :: _, _ => crash .endless
  | rounds+1, frameType :: rest, frames => do
    let frame ← readFrame frameType rest
    let frameTypeList := frames.frameTypeList++[frameType]
    match frame.1 with
    | none => frameLoop decrypted spare rounds frame.2 { frames with frameTypeList }
    | some (offset,length) => do
      let index := decrypted.length-frame.2.length
      let payload ← slice (decrypted++spare) index (index+length)
      frameLoop decrypted spare rounds (frame.2.drop length)
        { frameTypeList, fragments := frames.fragments++[{ offset, length, payload }] }

def readFrames (decrypted spare : Bytes) : Checked GoError Frames :=
  frameLoop decrypted spare decrypted.length decrypted {}

def isZero (slices : List UInt8) : Bool := slices.all (· == 0)

/-- `ja3.GreaseBitmask`: one of the values that clients add at random. -/
def isGrease (value : ℕ) : Bool := value &&& 0x0F0F == 0x0A0A

/-- The curve of quic-go, or its extension `renegotiation_info`. -/
def isQUICGo (fingerprint : JA3.ClientHello) : Bool :=
  fingerprint.ellipticCurves.any (· == 0x11EC) || fingerprint.extensions.any (· == 0xFF01)

def isSafari (fingerprint : JA3.ClientHello) : Bool :=
  (fingerprint.versions.length == 2 && fingerprint.versions.head?.any isGrease &&
    fingerprint.ellipticCurves.length == 5 && fingerprint.ellipticCurves.head?.any isGrease) ||
  (fingerprint.cipherSuites == [0x1302] && fingerprint.ellipticCurves == [29] &&
    fingerprint.signatureAlgorithms == [0x0403])

/-- The client, by the types of the frames of the last packet and by the fields of its message. -/
def clientOf (frameTypeList : List UInt8) (fingerprint : JA3.ClientHello) : Checked GoError String :=
  if frameTypeList.length = 1 then pure "firefox"
  else do
    let first ← get frameTypeList 0
    if first = 0x06 ∧ isZero frameTypeList.tail ∧ isSafari fingerprint then pure "safari"
    else do
      let last ← get frameTypeList (frameTypeList.length-1)
      if last = 0x06 ∧ isZero frameTypeList.dropLast then pure "quic-go"
      else if frameTypeList.count 0x06 > 1 ∨ frameTypeList.count 0x01 > 0 then
        pure (if isQUICGo fingerprint then "quic-go" else "chromium")
      else pure "unknown"

def fragmentEnd (fragment : QCryptoFragment) : ℕ := fragment.offset+fragment.length

/-- The fragments that the loop `find` writes, in their order, where it ends in as many rounds as there are
fragments. -/
def findFragments (fragments : List QCryptoFragment) : Option (List QCryptoFragment) :=
  Walk.walk QCryptoFragment.offset fragmentEnd fragments fragments.length 0

/-- The record that is handed to the parser: as many bytes as the fragments have are said in its header and fit in
its buffer. The lengths are those of slices in memory, so that their sum does not overflow. -/
def clientHelloRecord (fragments : List QCryptoFragment) : Option Bytes :=
  let frameLen := (fragments.map QCryptoFragment.length).sum
  (findFragments fragments).map fun found =>
    (([0x16,0x03,0x03]++BigEndian.put 2 frameLen)++found.flatMap QCryptoFragment.payload).take (5+frameLen)

/-- The fragments that are put together for a packet: those of its own frames, then those of the flow. -/
def heldFragments (context : Option (List QCryptoFragment)) (frames : Frames) : List QCryptoFragment :=
  frames.fragments++context.getD []

def recognize (metadata : InboundContext) (frameTypeList : List UInt8) (fingerprint : JA3.ClientHello) :
    InboundContext × Checked GoError Unit :=
  if metadata.client = "" then
    match clientOf frameTypeList fingerprint with
    | .error stop => (metadata,.error stop)
    | .ok client => ({ metadata with client },pure ())
  else (metadata,pure ())

def parseRecord (metadata : InboundContext) (frameTypeList : List UInt8) (fragments : List QCryptoFragment)
    (record : Bytes) : InboundContext × Checked GoError Unit :=
  match JA3.compute record with
  | .error (.crashed reason) => (metadata,crash reason)
  | .error (.failed err) => ({ metadata with sniffContext := some fragments },fail (needMoreData err.error))
  | .ok fingerprint => recognize { metadata with domain := textOf fingerprint.serverName } frameTypeList fingerprint

def asQUIC (metadata : InboundContext) : InboundContext := { metadata with sniffContext := none, protocol := "quic" }

def sniffFrames (metadata : InboundContext) (frames : Frames) : InboundContext × Checked GoError Unit :=
  let fragments := heldFragments metadata.sniffContext frames
  match clientHelloRecord fragments with
  | none => (asQUIC metadata,crash .endless)
  | some record => parseRecord (asQUIC metadata) frames.frameTypeList fragments record

def sniffPayload (metadata : InboundContext) (decrypted spare : Bytes) : InboundContext × Checked GoError Unit :=
  match readFrames decrypted spare with
  | .error stop => (metadata,.error stop)
  | .ok frames => sniffFrames metadata frames

def initialFrames (protection : PacketProtection) (packet : Bytes) : Checked GoError Frames := do
  let (decrypted,spare) ← openInitial protection packet
  readFrames decrypted spare

def quicClientHello (protection : PacketProtection) (metadata : InboundContext) (packet : Bytes) :
    InboundContext × Checked GoError Unit :=
  match initialFrames protection packet with
  | .error stop => (metadata,.error stop)
  | .ok frames => sniffFrames metadata frames

end SingBox.Sniff
