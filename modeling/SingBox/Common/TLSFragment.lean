import SingBox.Adapter.InboundContext
import SingBox.Common.JA3
import SingBox.Library.Cut
import Mathlib.Logic.Relation

/-! TLS fragmentation (`common/tlsfragment`): the first write is searched for a server name and cut in its labels,
into packets, into records or into both. -/
namespace SingBox.TF
open Adapter Checked Cut List Relation

structure MyServerName where
  index : ℕ
  length : ℕ
  serverName : Bytes
  deriving DecidableEq

/-- The loop over the extensions, with a bound on its rounds. The functions of this section fail where the source
returns nil. -/
def extensionLoop : ℕ → ℕ → Bytes → Checked Unit MyServerName
  | 0, _, exs => if exs.length = 0 then fail () else crash .endless
  | rounds+1, currentIndex, exs =>
    if exs.length = 0 then fail ()
    else do
      reject (exs.length < 4) ()
      let exType ← JA3.uint16At exs 0
      let exLen ← JA3.uint16At exs 2
      reject (exs.length < 4+exLen) ()
      let sex ← slice exs 4 (4+exLen)
      if exType = 0 then do
        reject (sex.length < 5) ()
        let sniType ← get sex 2
        reject (sniType ≠ 0) ()
        let sniLen ← JA3.uint16At sex 3
        let sex ← sliceFrom sex 5
        pure { index := currentIndex+4+5, length := sniLen, serverName := sex }
      else do
        let exs ← sliceFrom exs ((4+exLen)%2^16)
        extensionLoop rounds (currentIndex+(4+exLen)) exs

/-- What an iteration of the loop goes on with: the slice is cut by a number of 16 bits, and the index is not. -/
def iteration : ℕ × Bytes → Option (ℕ × Bytes)
  | (currentIndex,typeHigh::typeLow::lenHigh::lenLow::rest) =>
    let exLen := lenHigh.toNat*256+lenLow.toNat
    if typeHigh.toNat*256+typeLow.toNat ≠ 0 ∧ exLen ≤ rest.length then
      some (currentIndex+(4+exLen),(typeHigh::typeLow::lenHigh::lenLow::rest).drop ((4+exLen)%2^16))
    else none
  | _ => none

/-- The length of the extension in front. -/
def exLen : Bytes → ℕ
  | _::_::lenHigh::lenLow::_ => lenHigh.toNat*256+lenLow.toNat
  | _ => 0

/-- The states of the loop behind the header of the extensions. -/
def Reached (exs : Bytes) : ℕ × Bytes → Prop := ReflTransGen (fun s next => iteration s = some next) (2,exs)

/-- What stands behind the header of the extensions in a hello that passes the checks before the loop. -/
def extensionsOf (handshake : Bytes) : Bytes :=
  let byteAt := fun i => (handshake.getD i 0).toNat
  let suites := 39+byteAt 38
  let methods := 2+(byteAt suites*256+byteAt (suites+1))
  let exs := handshake.drop (suites+(methods+1+byteAt (suites+methods)))
  if byteAt 0 = 1 ∧ handshake.length-4 = byteAt 1*65536+byteAt 2*256+byteAt 3 ∧
      JA3.supportedVersion (byteAt 4*256+byteAt 5) ∧ exLen (0::0::exs) ≤ (exs.drop 2).length then exs.drop 2
  else []

/-- The payload holds the record of a handshake. -/
def HoldsRecord (payload : Bytes) : Prop := payload.head? = some 22 ∧ 5+exLen (payload.drop 1) ≤ payload.length

/-- No extension that the loop passes fills 16 bits with its header. -/
def ExtensionsFit (exs : Bytes) : Prop := ∀ s next, Reached exs s → iteration s = some next → 4+exLen s.2 < 2^16

def indexTLSServerNameFromExtensions (exs : Bytes) : Checked Unit MyServerName := do
  reject (exs.length = 0) ()
  reject (exs.length < 2) ()
  let exsLen ← JA3.uint16At exs 0
  let exs ← sliceFrom exs 2
  reject (exs.length < exsLen) ()
  extensionLoop exs.length 2 exs

def indexTLSServerNameFromHandshake (handshake : Bytes) : Checked Unit MyServerName := do
  reject (handshake.length < 39) ()
  let type ← get handshake 0
  reject (type ≠ 1) ()
  let first ← get handshake 1
  let second ← get handshake 2
  let third ← get handshake 3
  reject (handshake.length-4 ≠ first.toNat*65536+second.toNat*256+third.toNat) ()
  let tlsVersion ← JA3.uint16At handshake 4
  reject (¬ JA3.supportedVersion tlsVersion) ()
  let sessionIDLen ← get handshake 38
  let currentIndex := 39+sessionIDLen.toNat
  reject (handshake.length < currentIndex) ()
  let cipherSuites ← sliceFrom handshake currentIndex
  reject (cipherSuites.length < 2) ()
  let csLen ← JA3.uint16At cipherSuites 0
  reject (cipherSuites.length < 2+csLen+1) ()
  let compressMethodLen ← get cipherSuites (2+csLen)
  let currentIndex := currentIndex+(2+csLen+1+compressMethodLen.toNat)
  reject (handshake.length < currentIndex) ()
  let exs ← sliceFrom handshake currentIndex
  let name ← indexTLSServerNameFromExtensions exs
  pure { name with index := name.index+currentIndex }

def indexTLSServerName (payload : Bytes) : Checked Unit MyServerName := do
  reject (payload.length < 5) ()
  let type ← get payload 0
  reject (type ≠ 22) ()
  let segmentLen ← JA3.uint16At payload 3
  reject (payload.length < 5+segmentLen) ()
  let handshake ← sliceFrom payload 5
  let name ← indexTLSServerNameFromHandshake handshake
  pure { name with index := name.index+5 }

/-- `publicsuffix.List`: no rule has an empty label, so that a name which ends in a dot has an empty suffix, and any
other one at least its last label. -/
structure PublicSuffixList where
  publicSuffix : Bytes → Bytes
  publicSuffix_concat_dot : ∀ name, publicSuffix (name++[dot]) = []
  publicSuffix_ne_nil : ∀ name last, last ≠ dot → publicSuffix (name++[last]) ≠ []

/-- A connection that cuts its first packet; `tcpConn` tells whether there is a TCP connection beneath it. -/
structure Conn where
  tcpConn : Bool
  firstPacketWritten : Bool := false
  splitPacket : Bool
  splitRecord : Bool
  deriving DecidableEq

inductive Action
  | setNoDelay (noDelay : Bool)
  | write (payload : Bytes)
  | writeAndWaitAck (payload : Bytes)
  | sleep
  deriving DecidableEq

def Action.payload : Action → Option Bytes
  | setNoDelay _ => none
  | write payload => some payload
  | writeAndWaitAck payload => some payload
  | sleep => none

/-- `rand.Intn`, with any number for the random one. -/
def intn (random n : ℕ) : Checked GoError ℕ := if n = 0 then crash .invalidArgument else pure (random%n)

def splitsOf (publicSuffix : Bytes → Bytes) (serverName : Bytes) : Checked GoError (List Bytes) :=
  let splits := serverName.splitOn dot
  if publicSuffix serverName ≠ [] then slice splits 0 (splits.length-serverName.count dot) else pure splits

def skipDots (currentIndex : ℕ) (splits : List Bytes) : ℕ × List Bytes :=
  if splits.length > 1 ∧ splits.head? = some [dot,dot,dot] then (currentIndex+4,splits.tail) else (currentIndex,splits)

def splitIndexesOf (random : ℕ → ℕ) : ℕ → ℕ → List Bytes → Checked GoError (List ℕ)
  | _, _, [] => pure []
  | i, currentIndex, split :: splits => do
    let splitAt ← intn (random i) split.length
    let splitIndexes ← splitIndexesOf random (i+1) (currentIndex+split.length+if splits = [] then 0 else 1) splits
    pure ((currentIndex+splitAt)::splitIndexes)

/-- The bytes between two places, without the header of the record where records are written. -/
def payloadAt (splitRecord : Bool) (b : Bytes) (splitIndexes : List ℕ) (i : ℕ) : Checked GoError Bytes :=
  if i = 0 then do
    let high ← get splitIndexes 0
    let payload ← slice b 0 high
    if splitRecord then sliceFrom payload 5 else pure payload
  else if i = splitIndexes.length then do
    let low ← get splitIndexes (i-1)
    sliceFrom b low
  else do
    let low ← get splitIndexes (i-1)
    let high ← get splitIndexes i
    slice b low high

def send (c : Conn) (last : Bool) (payload : Bytes) : List Action :=
  if c.splitPacket then
    if c.tcpConn ∧ ¬ last then [.writeAndWaitAck payload] else .write payload::if last then [] else [.sleep]
  else []

def recordOf (header payload : Bytes) : Bytes := header++BigEndian.put 2 payload.length++payload

/-- What a write has done so far: its calls, what they wrote and the error at which it stops. -/
structure Progress where
  calls : ℕ := 0
  written : List Bytes := []
  err : Option GoError := none
  deriving DecidableEq

def act (outcome : ℕ → Option GoError) (p : Progress) (action : Action) : Progress :=
  match p.err, if action = .sleep then none else outcome p.calls with
  | none, none => { calls := p.calls+1, written := p.written++action.payload.toList }
  | none, some err => { p with err := some err }
  | some _, _ => p

def perform (outcome : ℕ → Option GoError) (p : Progress) (actions : List Action) : Progress :=
  actions.foldl (act outcome) p

/-- One round of the loop; the bytes of a round are cut behind the writes of the rounds before it. -/
def round (c : Conn) (b : Bytes) (splitIndexes : List ℕ) (outcome : ℕ → Option GoError) (state : Progress × Bytes)
    (i : ℕ) : Checked GoError (Progress × Bytes) :=
  if state.1.err ≠ none then pure state
  else do
    let payload ← payloadAt c.splitRecord b splitIndexes i
    let last := i = splitIndexes.length
    if c.splitRecord then do
      let header ← slice b 0 3
      let buffer := (if c.splitPacket then [] else state.2)++recordOf header payload
      pure (perform outcome state.1 (send c last buffer),buffer)
    else pure (perform outcome state.1 (send c last payload),state.2)

/-- What a write does first: it sets the connection to send at once, where packets are split. -/
def opening (c : Conn) : List Action := if c.splitPacket ∧ c.tcpConn then [.setNoDelay true] else []

def fragment (c : Conn) (publicSuffix : Bytes → Bytes) (random : ℕ → ℕ) (outcome : ℕ → Option GoError) (b : Bytes)
    (serverName : MyServerName) : Checked GoError Progress :=
  let opened := perform outcome {} (opening c)
  if opened.err ≠ none then pure opened
  else do
    let splits ← splitsOf publicSuffix serverName.serverName
    let start := skipDots serverName.index splits
    let splitIndexes ← splitIndexesOf random 0 start.1 start.2
    let state ← (List.range (splitIndexes.length+1)).foldlM (round c b splitIndexes outcome) (opened,[])
    pure (perform outcome state.1 ((if c.splitRecord ∧ ¬ c.splitPacket then [.write state.2] else [])++
      if c.tcpConn then [.setNoDelay false] else []))

structure WriteResult where
  n : ℕ
  err : Option GoError
  written : List Bytes
  deriving DecidableEq

def writeDirect (outcome : ℕ → Option GoError) (b : Bytes) : WriteResult :=
  match outcome 0 with
  | some err => { n := 0, err := some err, written := [] }
  | none => { n := b.length, err := none, written := [b] }

/-- `Conn.Write`, with the connection that it leaves. -/
def write (c : Conn) (publicSuffix : Bytes → Bytes) (random : ℕ → ℕ) (outcome : ℕ → Option GoError) (b : Bytes) :
    Checked GoError (WriteResult × Conn) :=
  if c.firstPacketWritten then pure (writeDirect outcome b,c)
  else
    match indexTLSServerName b with
    | .error (.crashed reason) => crash reason
    | .error (.failed _) => pure (writeDirect outcome b,{ c with firstPacketWritten := true })
    | .ok serverName => do
      let done ← fragment c publicSuffix random outcome b serverName
      pure ({ n := if done.err = none then b.length else 0, err := done.err, written := done.written },
        { c with firstPacketWritten := true })

section

/-- The bytes at the index are the server name. -/
def Located (whole : Bytes) (name : MyServerName) : Prop :=
  ∃ front back, whole = front++(name.serverName++back) ∧ name.index = front.length

lemma Located.of_drop {w : Bytes} {name : MyServerName} {n : ℕ} (hn : n ≤ w.length)
    (h : Located (w.drop n) name) : Located w { name with index := name.index+n } := by
  obtain ⟨f,bc,hw,hin⟩ := h
  refine ⟨w.take n++f,bc,?_,?_⟩
  · rw [append_assoc,← hw,take_append_drop]
  · rw [length_append,length_take,hin]
    simp only
    omega

variable {exs : Bytes}

lemma located_in_extension {exLen : ℕ} (hb : 4+exLen ≤ exs.length) (hnm : 5 ≤ exLen) (before : Bytes) (length : ℕ) :
    Located (before++exs) { index := before.length+4+5, length, serverName := ((exs.take (4+exLen)).drop 4).drop 5 } := by
  have hn : 9 ≤ 4+exLen := by omega
  have ht : exs.take 9++(exs.take (4+exLen)).drop 9 = exs.take (4+exLen) := by
    calc exs.take 9++(exs.take (4+exLen)).drop 9
      _ = (exs.take (4+exLen)).take 9++(exs.take (4+exLen)).drop 9 := by
        rw [take_take,Nat.min_eq_left hn]
      _ = exs.take (4+exLen) := take_append_drop 9 _
  refine ⟨before++exs.take 9,exs.drop (4+exLen),?_,?_⟩
  · rw [drop_drop,append_assoc,← append_assoc (exs.take 9),ht,take_append_drop]
  · rw [length_append,length_take,Nat.min_eq_left (hn.trans hb)]

lemma iteration_cases {s next : ℕ × Bytes} (h : iteration s = some next) :
    4+exLen s.2 ≤ s.2.length ∧ next = (s.1+(4+exLen s.2),s.2.drop ((4+exLen s.2)%2^16)) := by
  obtain ⟨i,_ | ⟨a,_ | ⟨b,_ | ⟨c,_ | ⟨d,r⟩⟩⟩⟩⟩ := s
  · cases h
  · cases h
  · cases h
  · cases h
  · simp only [iteration] at h
    split_ifs at h with hc
    cases h
    exact ⟨by simp only [exLen,length_cons]; omega,rfl⟩

lemma extensionsFit_of_length (h : exs.length < 2^16) : ExtensionsFit exs := by
  intro s next hs
  have hl : s.2.length ≤ exs.length := by
    induction hs with
    | refl => exact le_rfl
    | tail _ hn ih =>
      obtain ⟨-,rfl⟩ := iteration_cases hn
      exact (length_drop.trans_le (Nat.sub_le _ _)).trans ih
  exact fun hn => ((iteration_cases hn).1.trans hl).trans_lt h

/-- The loop returns the name of the first extension that has one, or goes on behind the extension. -/
lemma meets_extensionLoop {P : MyServerName → Prop} {r i : ℕ} (hnm : ∀ el sl, 4+el ≤ exs.length → 5 ≤ el →
      P { index := i+4+5, length := sl, serverName := ((exs.take (4+el)).drop 4).drop 5 })
    (hnx : ∀ next, iteration (i,exs) = some next → Meets (extensionLoop r next.1 next.2) P) :
    Meets (extensionLoop (r+1) i exs) P := by
  rw [extensionLoop]
  split_ifs
  · exact meets_fail ()
  refine Meets.of_reject fun hh => ?_
  obtain _ | ⟨a,_ | ⟨b,_ | ⟨c,_ | ⟨d,rest⟩⟩⟩⟩ := exs
  · simp at hh
  · simp at hh
  · simp at hh
  · simp at hh
  refine Meets.of_bind (JA3.returns_uint16At_iff.mpr (by omega)) fun et ht => ?_
  refine Meets.of_bind (JA3.returns_uint16At_iff.mpr (by omega)) fun el hl => Meets.of_reject fun hb => ?_
  cases ht
  cases hl
  refine Meets.of_bind (returns_slice_iff.mpr ⟨by omega,by omega⟩) fun sex hsx => ?_
  obtain ⟨-,hsx⟩ := slice_eq_ok.mp hsx
  split_ifs with h0
  · refine Meets.of_reject fun hsn => ?_
    refine Meets.of_get (by omega) fun st => Meets.of_reject fun _ => JA3.meets_uint16At (by omega) fun sl => ?_
    refine Meets.of_bind (returns_sliceFrom (by omega)) fun name hn => meets_pure ?_
    obtain ⟨-,rfl⟩ := sliceFrom_eq_ok.mp hn
    have hl : sex.length = c.toNat*256+d.toNat := by
      rw [hsx,length_drop,length_take]
      omega
    rw [hsx]
    exact hnm _ sl (not_lt.mp hb) (by omega)
  · have hlt := Nat.mod_le (4+(c.toNat*256+d.toNat)) (2^16)
    refine Meets.of_bind (returns_sliceFrom (by omega)) fun r hrs => ?_
    obtain ⟨-,rfl⟩ := sliceFrom_eq_ok.mp hrs
    simp only [length_cons] at hb
    exact hnx _ (by rw [iteration,if_pos ⟨h0,by omega⟩])

/-- The loop finds the name where it says, `currentIndex` being the place of the extensions that are left. -/
lemma extensionLoop_meets {rs : ℕ} {s : ℕ × Bytes} (hf : ExtensionsFit exs) (hs : Reached exs s) (hr : s.2.length ≤ rs)
    (bf : Bytes) (hb : bf.length = s.1) : Meets (extensionLoop rs s.1 s.2) fun name => Located (bf++s.2) name := by
  induction rs generalizing s bf with
  | zero =>
    rw [extensionLoop,if_pos (Nat.le_zero.mp hr)]
    exact meets_fail ()
  | succ rs ih =>
    refine meets_extensionLoop (fun el sl hl hn => hb ▸ located_in_extension hl hn bf sl) fun next hn => ?_
    have hlt := hf s next hs hn
    obtain ⟨hl,rfl⟩ := iteration_cases (s := s) hn
    rw [Nat.mod_eq_of_lt hlt] at hn ⊢
    have hnx := ih (hs.tail hn) (by simp only [length_drop]; omega) (bf++s.2.take (4+exLen s.2))
      (by simp only [length_append,length_take]; omega)
    rwa [append_assoc,take_append_drop] at hnx

lemma indexTLSServerNameFromExtensions_meets
    (hf : exLen (0::0::exs) ≤ (exs.drop 2).length → ExtensionsFit (exs.drop 2)) :
    Meets (indexTLSServerNameFromExtensions exs) fun name => Located exs name := by
  refine Meets.of_reject fun _ => Meets.of_reject fun hl => ?_
  refine Meets.of_bind (JA3.returns_uint16At_iff.mpr (by omega)) fun el he => ?_
  refine Meets.of_bind (returns_sliceFrom (by omega)) fun r hr => Meets.of_reject fun hle => ?_
  obtain ⟨-,rfl⟩ := sliceFrom_eq_ok.mp hr
  obtain ⟨high,low,hh,hw,rfl⟩ := JA3.uint16At_eq_ok.mp he
  replace hf := hf (by
    match exs, hh, hw with
    | _::_::_, rfl, rfl => exact not_lt.mp hle)
  have ht : (exs.take 2).length = 2 := by
    rw [length_take]
    omega
  have hlp := extensionLoop_meets hf .refl le_rfl (exs.take 2) ht
  rwa [take_append_drop] at hlp

lemma indexTLSServerNameFromHandshake_meets {handshake : Bytes} (hf : ExtensionsFit (extensionsOf handshake)) :
    Meets (indexTLSServerNameFromHandshake handshake) fun name => Located handshake name ∧ 39 ≤ name.index := by
  refine Meets.of_reject fun hln => ?_
  refine Meets.of_bind (returns_get_iff.mpr (by omega)) fun tp htp => Meets.of_reject fun h1 => ?_
  refine Meets.of_bind (returns_get_iff.mpr (by omega)) fun f hfs => ?_
  refine Meets.of_bind (returns_get_iff.mpr (by omega)) fun s hs => ?_
  refine Meets.of_bind (returns_get_iff.mpr (by omega)) fun t ht => Meets.of_reject fun h2 => ?_
  refine Meets.of_bind (JA3.returns_uint16At_iff.mpr (by omega)) fun tv htv => Meets.of_reject fun h3 => ?_
  refine Meets.of_bind (returns_get_iff.mpr (by omega)) fun si hsi => Meets.of_reject fun hss => ?_
  refine Meets.of_bind (returns_sliceFrom (by omega)) fun cs hcs => Meets.of_reject fun hst => ?_
  refine Meets.of_bind (JA3.returns_uint16At_iff.mpr (by omega)) fun cl hcl => Meets.of_reject fun hc => ?_
  refine Meets.of_bind (returns_get_iff.mpr (by omega)) fun cm hcm => Meets.of_reject fun he => ?_
  refine Meets.of_bind (returns_sliceFrom (by omega)) fun exs hd => ?_
  obtain ⟨-,rfl⟩ := sliceFrom_eq_ok.mp hd
  obtain ⟨-,rfl⟩ := sliceFrom_eq_ok.mp hcs
  obtain ⟨high,low,hh,hl,rfl⟩ := JA3.uint16At_eq_ok.mp hcl
  obtain ⟨vh,vl,hvh,hvl,rfl⟩ := JA3.uint16At_eq_ok.mp htv
  rw [get_eq_ok] at htp hfs hs ht hsi hcm
  rw [getElem?_drop] at hcm hh hl
  refine (indexTLSServerNameFromExtensions_meets fun hex => ?_).bind fun name hl => ?_
  · simp only [extensionsOf,getD_eq_getElem?_getD,hsi,Option.getD_some,← add_assoc,add_zero] at hf hh hl hcm hex ⊢
    simp only [hh,hl,hcm,htp,hfs,hs,ht,hvh,hvl,Option.getD_some] at hf
    rwa [if_pos ⟨by rw [not_not.mp h1]; rfl,not_not.mp h2,not_not.mp h3,hex⟩] at hf
  refine meets_pure ⟨hl.of_drop (by omega),?_⟩
  simp only
  omega

/-- The name that is found in a packet stands at its index, behind the header of the record. -/
lemma indexTLSServerName_meets {p : Bytes} (hf : HoldsRecord p → ExtensionsFit (extensionsOf (p.drop 5))) :
    Meets (indexTLSServerName p) fun name => Located p name ∧ 5 < name.index := by
  refine Meets.of_reject fun hl => ?_
  refine Meets.of_bind (returns_get_iff.mpr (by omega)) fun t ht => Meets.of_reject fun h22 => ?_
  refine Meets.of_bind (JA3.returns_uint16At_iff.mpr (by omega)) fun sl hsl => Meets.of_reject fun hle => ?_
  refine Meets.of_bind (returns_sliceFrom (by omega)) fun handshake hd => ?_
  obtain ⟨-,rfl⟩ := sliceFrom_eq_ok.mp hd
  refine (indexTLSServerNameFromHandshake_meets (hf ?_)).bind ?_
  · obtain ⟨high,low,hh,hw,rfl⟩ := JA3.uint16At_eq_ok.mp hsl
    rw [get_eq_ok] at ht
    match p, ht, hh, hw with
    | _::_::_::_::_::_, rfl, rfl, rfl => exact ⟨congrArg some (not_not.mp h22),not_lt.mp hle⟩
  rintro name ⟨hp,hin⟩
  refine meets_pure ?_
  exact ⟨hp.of_drop (by omega),show 5 < name.index+5 by omega⟩

end

/-- The labels in which a place is chosen: all of them for a name without a public suffix, else the first. -/
def cutLabels (publicSuffix : Bytes → Bytes) (serverName : Bytes) : List Bytes :=
  if publicSuffix serverName ≠ [] then (serverName.splitOn dot).take 1 else serverName.splitOn dot

section
variable {pb : Bytes → Bytes} {r : ℕ → ℕ}

lemma splitsOf_eq (sn : Bytes) : splitsOf pb sn = .ok (cutLabels pb sn) := by
  have ho : (sn.splitOn dot).length-sn.count dot = 1 := by
    rw [Cut.length_splitOn]
    omega
  rw [splitsOf,cutLabels,ho]
  split_ifs
  · exact slice_eq_ok.mpr ⟨⟨Nat.zero_le 1,by rw [Cut.length_splitOn]; omega⟩,rfl⟩
  · rfl

lemma skipDots_cutLabels (i : ℕ) (sn : Bytes) : skipDots i (cutLabels pb sn) = (i,cutLabels pb sn) := by
  refine if_neg ?_
  rw [cutLabels]
  split_ifs
  · rw [length_take]
    omega
  · exact fun h => (Cut.sublist_of_mem_splitOn (mem_of_head? h.2)).2 mem_cons_self

lemma splitIndexesOf_of_empty {ss : List Bytes} (h : [] ∈ ss) (i ci : ℕ) :
    splitIndexesOf r i ci ss = crash .invalidArgument := by
  induction ss generalizing i ci with
  | nil => cases h
  | cons split ss ih =>
    rw [splitIndexesOf,intn]
    by_cases hz : split.length = 0
    · rw [if_pos hz]
      rfl
    · have hr : [] ∈ ss := by
        cases h with
        | head => exact absurd rfl hz
        | tail _ h => exact h
      rw [if_neg hz,ih hr]
      rfl

end

section
variable {b : Bytes} {place : ℕ} (sr : Bool)

lemma payloadAt_zero (hp : 5 ≤ place) (hb : place ≤ b.length) :
    payloadAt sr b [place] 0 = .ok ((b.take place).drop (if sr then 5 else 0)) := by
  have hs : (slice b 0 place : Checked GoError Bytes) = .ok (b.take place) :=
    slice_eq_ok.mpr ⟨⟨Nat.zero_le place,hb⟩,rfl⟩
  have hl : 5 ≤ (b.take place).length := by
    rw [length_take]
    omega
  change (slice b 0 place >>= fun p => if sr then sliceFrom p 5 else pure p) = _
  rw [hs,ok_bind]
  cases sr with
  | false => rfl
  | true => exact sliceFrom_eq_ok.mpr ⟨hl,rfl⟩

lemma payloadAt_one (hb : place ≤ b.length) : payloadAt sr b [place] 1 = .ok (b.drop place) :=
  sliceFrom_eq_ok.mpr ⟨hb,rfl⟩

lemma payload_send (c : Conn) (l : Bool) (p : Bytes) :
    (send c l p).filterMap Action.payload = if c.splitPacket then [p] else [] := by
  rw [send]
  split_ifs <;> rfl

lemma perform_none (k : ℕ) (w : List Bytes) (ac : List Action) : perform (fun _ => none) ⟨k,w,none⟩ ac =
    ⟨k+ac.length,w++ac.filterMap Action.payload,none⟩ := by
  induction ac generalizing k w with
  | nil => simp [perform]
  | cons a ac ih =>
    have ha : act (fun _ => none) ⟨k,w,none⟩ a = ⟨k+1,w++a.payload.toList,none⟩ := by simp [act]
    rw [perform,foldl_cons,ha]
    refine (ih _ _).trans ?_
    cases a <;> simp [Action.payload,filterMap_cons,add_assoc,add_comm 1]

variable {si : List ℕ} {k : ℕ} {w : List Bytes} {bf : Bytes}

lemma round_packet {c : Conn} (hr : c.splitRecord = false) {i : ℕ} {p : Bytes} (hp : payloadAt false b si i = .ok p) :
    round c b si (fun _ => none) (⟨k,w,none⟩,bf) i =
      .ok (perform (fun _ => none) ⟨k,w,none⟩ (send c (i = si.length) p),bf) := by
  rw [round,if_neg (fun h => h rfl),hr,hp]
  rfl

lemma round_record {c : Conn} (hr : c.splitRecord = true) {i : ℕ} {p : Bytes} (hp : payloadAt true b si i = .ok p)
    (hb : 3 ≤ b.length) : round c b si (fun _ => none) (⟨k,w,none⟩,bf) i =
      .ok (perform (fun _ => none) ⟨k,w,none⟩
          (send c (i = si.length) ((if c.splitPacket then [] else bf)++recordOf (b.take 3) p)),
        (if c.splitPacket then [] else bf)++recordOf (b.take 3) p) := by
  have hh : (slice b 0 3 : Checked GoError Bytes) = .ok (b.take 3) := slice_eq_ok.mpr ⟨⟨Nat.zero_le 3,hb⟩,rfl⟩
  rw [round,if_neg (fun h => h rfl),hr,hp,ok_bind,if_pos rfl,hh]
  rfl

/-- What is written of a packet that is cut at one place, by the options of the connection. -/
def piecesOf (c : Conn) (b : Bytes) (place : ℕ) : List Bytes :=
  let first := recordOf (b.take 3) ((b.take place).drop 5)
  let second := recordOf (b.take 3) (b.drop place)
  if c.splitRecord then if c.splitPacket then [first,second] else [first++second]
  else if c.splitPacket then [b.take place,b.drop place]
  else []

lemma rounds_written (c : Conn) (hp : 5 ≤ place) (hb : place ≤ b.length) :
    ∃ k' w' bf', [0,1].foldlM (round c b [place] (fun _ => none)) (⟨k,w,none⟩,[]) = .ok (⟨k',w',none⟩,bf') ∧
      w'++(if c.splitRecord ∧ ¬ c.splitPacket then [bf'] else []) = w++piecesOf c b place := by
  have hf := payloadAt_zero c.splitRecord hp hb
  have hs := payloadAt_one c.splitRecord hb
  cases hr : c.splitRecord with
  | false =>
    rw [hr] at hf hs
    rw [foldlM_cons,round_packet hr hf,ok_bind,perform_none,foldlM_cons,round_packet hr hs,ok_bind,perform_none]
    refine ⟨_,_,_,rfl,?_⟩
    simp only [payload_send,piecesOf,hr]
    cases c.splitPacket <;> simp
  | true =>
    rw [hr] at hf hs
    have ht : 3 ≤ b.length := by omega
    rw [foldlM_cons,round_record hr hf ht,ok_bind,perform_none,foldlM_cons,round_record hr hs ht,ok_bind,perform_none]
    refine ⟨_,_,_,rfl,?_⟩
    simp only [payload_send,piecesOf,hr]
    cases c.splitPacket <;> simp

end

/-- Once the connection is set, the places are chosen in the labels that are cut, and the rounds follow. -/
lemma fragment_eq {c : Conn} {o : ℕ → Option GoError} (h : (perform o {} (opening c)).err = none)
    (pb : Bytes → Bytes) (r : ℕ → ℕ) (b : Bytes) (n : MyServerName) :
    fragment c pb r o b n = (do
      let splitIndexes ← splitIndexesOf r 0 n.index (cutLabels pb n.serverName)
      let state ← (List.range (splitIndexes.length+1)).foldlM (round c b splitIndexes o) (perform o {} (opening c),[])
      pure (perform o state.1 ((if c.splitRecord ∧ ¬ c.splitPacket then [.write state.2] else [])++
        if c.tcpConn then [.setNoDelay false] else []))) := by
  rw [fragment,if_neg (not_not.mpr h),splitsOf_eq,ok_bind,skipDots_cutLabels]

/-- The packet is one TLS record. -/
def IsRecord (b : Bytes) : Prop := 5 ≤ b.length ∧ b.length = 5+BigEndian.read ((b.drop 3).take 2)

lemma IsRecord.length_lt {b : Bytes} (h : IsRecord b) : b.length < 2^16+5 := by
  obtain ⟨hf,hl⟩ := h
  obtain ⟨high,l,hb⟩ : ∃ high l, (b.drop 3).take 2 = [high,l] := by
    refine length_eq_two.mp ?_
    rw [length_take,length_drop]
    omega
  have hh := high.toNat_lt
  have hlw := l.toNat_lt
  rw [hb] at hl
  simp only [BigEndian.read,foldl_cons,foldl_nil] at hl
  omega

/-- The pieces make the packet, and two of them meet in the name or at its start. -/
def SplitsPackets (b : Bytes) (name : MyServerName) (written : List Bytes) : Prop :=
  written.flatten = b ∧ ∃ front back, written = front++back ∧ name.index ≤ front.flatten.length ∧
    front.flatten.length < name.index+name.serverName.length

/-- Records with the type and the version of the packet, with lengths that are right and payloads that are not empty
and make the payload of the packet; each is written alone where packets are split, or all of them at once. -/
def SplitsRecords (b : Bytes) (splitPacket : Bool) (written : List Bytes) : Prop :=
  ∃ payloads : List Bytes, (∀ payload ∈ payloads, payload ≠ [] ∧ payload.length < 2^16) ∧
    payloads.flatten = b.drop 5 ∧
    written = if splitPacket then payloads.map (recordOf (b.take 3)) else [payloads.flatMap (recordOf (b.take 3))]

/-- The first write of a packet: the bytes at the index are the name, the write reports the length of the packet, and
what is written is the packet in pieces, as the options say. -/
def FragmentsRight (c : Conn) (suffixes : PublicSuffixList) (random : ℕ → ℕ) (b : Bytes) (name : MyServerName) : Prop :=
  (b.drop name.index).take name.serverName.length = name.serverName ∧
    ∃ written, write c suffixes.publicSuffix random (fun _ => none) b =
        .ok ({ n := b.length, err := none, written },{ c with firstPacketWritten := true }) ∧
      (c.splitRecord = false → SplitsPackets b name written) ∧
      (c.splitRecord = true → SplitsRecords b c.splitPacket written)

variable {c : Conn} {suffixes : PublicSuffixList} {random : ℕ → ℕ} {b : Bytes} {name : MyServerName} {p : ℕ}

lemma splitsPackets_of_place (hn : name.index ≤ p) (hp : p < name.index+name.serverName.length)
    (hb : p ≤ b.length) : SplitsPackets b name [b.take p,b.drop p] := by
  have hl : [b.take p].flatten.length = p := by
    rw [flatten_singleton,length_take]
    omega
  refine ⟨?_,[b.take p],[b.drop p],rfl,hl.symm ▸ hn,hl.symm ▸ hp⟩
  rw [flatten_cons,flatten_singleton,take_append_drop]

lemma splitsRecords_of_place (hfv : 5 < p) (hb : p < b.length) (hl : b.length < 2^16+5)
    (sp : Bool) : SplitsRecords b sp
      (if sp then [recordOf (b.take 3) ((b.take p).drop 5),recordOf (b.take 3) (b.drop p)]
        else [recordOf (b.take 3) ((b.take p).drop 5)++recordOf (b.take 3) (b.drop p)]) := by
  have hf : ((b.take p).drop 5).length = p-5 := by
    rw [length_drop,length_take]
    omega
  have hs : (b.drop p).length = b.length-p := length_drop
  refine ⟨[(b.take p).drop 5,b.drop p],?_,?_,?_⟩
  · refine forall_mem_cons.mpr ⟨⟨?_,by omega⟩,forall_mem_singleton.mpr ⟨?_,by omega⟩⟩
    all_goals exact ne_nil_of_length_pos (by omega)
  · rw [flatten_cons,flatten_singleton]
    calc (b.take p).drop 5++b.drop p
      _ = (b.take p++b.drop p).drop 5 := by
        rw [drop_append_of_le_length (by rw [length_take]; omega)]
      _ = b.drop 5 := by rw [take_append_drop]
  · cases sp with
    | false => simp
    | true => rfl

lemma cutLabels_of_ne_dot {sn f : Bytes} (hf : (sn.splitOn dot).head? = some f) (hne : f ≠ [])
    (hl : sn.getLast? ≠ some dot) : cutLabels suffixes.publicSuffix sn = [f] := by
  rcases eq_nil_or_concat sn with rfl | ⟨fr,l,rfl⟩
  · cases hf
    exact absurd rfl hne
  · rw [concat_eq_append] at hf hl ⊢
    rw [getLast?_concat] at hl
    obtain ⟨ls,hs⟩ := head?_eq_some_iff.mp hf
    rw [cutLabels,if_pos (suffixes.publicSuffix_ne_nil fr l fun he => hl (congrArg some he)),hs]
    rfl

lemma perform_opening (c : Conn) : ∃ k, perform (fun _ => none) {} (opening c) = ⟨k,[],none⟩ := by
  rw [opening]
  split_ifs
  · exact ⟨1,perform_none 0 [] _⟩
  · exact ⟨0,rfl⟩

lemma write_of_cutLabels (hcn : c.firstPacketWritten = false) (hix : indexTLSServerName b = .ok name) {f : Bytes}
    (hf : cutLabels suffixes.publicSuffix name.serverName = [f]) (hne : f ≠ [])
    (hfv : 5 ≤ name.index+random 0%f.length) (hb : name.index+random 0%f.length ≤ b.length) :
    write c suffixes.publicSuffix random (fun _ => none) b =
      .ok ({ n := b.length, err := none, written := piecesOf c b (name.index+random 0%f.length) },
        { c with firstPacketWritten := true }) := by
  have hps : f.length ≠ 0 := fun hz => hne (length_eq_zero_iff.mp hz)
  have hin : splitIndexesOf random 0 name.index [f] = .ok [name.index+random 0%f.length] := by
    rw [splitIndexesOf,intn,if_neg hps]
    rfl
  obtain ⟨k,ho⟩ := perform_opening c
  obtain ⟨k',w',bf',hs,hw⟩ := rounds_written (k := k) (w := []) c hfv hb
  rw [write,hcn,if_neg (by decide),hix]
  change (fragment c suffixes.publicSuffix random (fun _ => none) b name >>= _) = _
  rw [fragment_eq (by rw [ho]),hf,hin,ok_bind,ho]
  change (([0,1].foldlM (round c b [name.index+random 0%f.length] (fun _ => none)) (⟨k,[],none⟩,[]) >>= _) >>= _) = _
  have hl : ((if c.splitRecord ∧ ¬ c.splitPacket then [Action.write bf'] else [])++
      if c.tcpConn then [Action.setNoDelay false] else []).filterMap Action.payload =
      if c.splitRecord ∧ ¬ c.splitPacket then [bf'] else [] := by
    split_ifs <;> rfl
  rw [hs,ok_bind,perform_none,hl,hw]
  rfl

/-- The first write of a record with a server name is cut as the options say, whatever the random numbers are, exactly
where the name does not end in a dot. -/
theorem fragments_right_iff (c : Conn) (suffixes : PublicSuffixList) (random : ℕ → ℕ) (b : Bytes) (name : MyServerName)
    (hconn : c.firstPacketWritten = false) (hmode : c.splitPacket = true ∨ c.splitRecord = true) (hrecord : IsRecord b)
    (hindex : indexTLSServerName b = .ok name) (hlabel : (name.serverName.splitOn dot).head? ≠ some []) :
    FragmentsRight c suffixes random b name ↔ name.serverName.getLast? ≠ some dot := by
  constructor
  · rintro ⟨-,w,hw,-⟩ hls
    obtain ⟨fr,hn⟩ := getLast?_eq_some_iff.mp hls
    obtain ⟨k,ho⟩ := perform_opening c
    have he : [] ∈ cutLabels suffixes.publicSuffix name.serverName := by
      rw [hn,cutLabels,suffixes.publicSuffix_concat_dot,if_neg (fun h => h rfl),splitOn_append_cons_self]
      exact mem_append_right _ (mem_singleton.mpr rfl)
    rw [write,hconn,if_neg (by decide),hindex] at hw
    change (fragment c suffixes.publicSuffix random (fun _ => none) b name >>= _) = _ at hw
    rw [fragment_eq (by rw [ho]),splitIndexesOf_of_empty he] at hw
    cases hw
  · intro hls
    have hl := hrecord.length_lt
    have hfit : ExtensionsFit (extensionsOf (b.drop 5)) := by
      refine extensionsFit_of_length ?_
      simp only [extensionsOf]
      split_ifs
      · simp only [length_drop]
        omega
      · exact Nat.two_pow_pos 16
    obtain ⟨⟨fr,bc,hb,hfr⟩,hfv⟩ := (indexTLSServerName_meets fun _ => hfit).2 name hindex
    obtain ⟨f,ls,hlb⟩ := exists_cons_of_ne_nil (splitOn_ne_nil dot name.serverName)
    have hf : (name.serverName.splitOn dot).head? = some f := by rw [hlb,head?_cons]
    have hne : f ≠ [] := fun hnl => hlabel (hnl ▸ hf)
    have hsh : f.length ≤ name.serverName.length := (Cut.sublist_of_mem_splitOn (mem_of_head? hf)).1.length_le
    have hpl : random 0%f.length < f.length := Nat.mod_lt _ (length_pos_iff.mpr hne)
    have hin : name.index+name.serverName.length ≤ b.length := by
      rw [hb,hfr,length_append,length_append]
      omega
    refine ⟨?_,_,write_of_cutLabels hconn hindex (cutLabels_of_ne_dot hf hne hls) hne (by omega) (by omega),
      fun hp => ?_,fun hr => ?_⟩
    · rw [hb,hfr,drop_left,take_left]
    · have hs : c.splitPacket = true := hmode.resolve_right (by rw [hp]; decide)
      rw [piecesOf,hp,hs]
      exact splitsPackets_of_place (by omega) (by omega) (by omega)
    · rw [piecesOf,hr]
      exact splitsRecords_of_place (by omega) (by omega) hl c.splitPacket

def prevailingRule : PublicSuffixList where
  publicSuffix name := (name.reverse.takeWhile (· ≠ dot)).reverse
  publicSuffix_concat_dot name := by simp
  publicSuffix_ne_nil name last hlast := by simp [hlast]

def helloFor (serverName : Bytes) : Bytes :=
  let n := serverName.length
  [0x16,0x03,0x01,0x00,UInt8.ofNat (53+n),0x01,0x00,0x00,UInt8.ofNat (49+n),0x03,0x03]++List.replicate 32 0++
    [0x00,0x00,0x00,0x00,0x00,UInt8.ofNat (9+n),0x00,0x00,0x00,UInt8.ofNat (5+n),0x00,UInt8.ofNat (3+n),0x00,0x00,
      UInt8.ofNat n]++serverName

/-- The name `www.go.dev` is cut behind its second letter. -/
theorem three_labels_fragment_right :
    let name := { index := 58, length := 10, serverName := [0x77,0x77,0x77,0x2e,0x67,0x6f,0x2e,0x64,0x65,0x76] }
    FragmentsRight { tcpConn := true, splitPacket := true, splitRecord := true } prevailingRule (fun _ => 5)
      (helloFor name.serverName) name :=
  (fragments_right_iff _ prevailingRule (fun _ => 5) _ _ rfl (.inl rfl) (by unfold IsRecord; decide) (by decide)
    (by decide)).mpr (by decide)

/-- The name `a.` has an empty label at its end, in which no place can be chosen. -/
theorem trailing_dot_stops_write : IsRecord (helloFor [0x61,0x2e]) ∧
      indexTLSServerName (helloFor [0x61,0x2e]) = .ok { index := 58, length := 2, serverName := [0x61,0x2e] } ∧
      write { tcpConn := false, splitPacket := true, splitRecord := false } prevailingRule.publicSuffix (fun _ => 0)
        (fun _ => none) (helloFor [0x61,0x2e]) = crash .invalidArgument := by
  refine ⟨?_,?_,?_⟩
  · unfold IsRecord
    decide
  all_goals decide

end SingBox.TF
