import SingBox.Common.Binary
import SingBox.Library.Checked

/-! The parser of TLS `ClientHello` messages (`common/ja3`), with the bounds of every index and slice. -/
namespace SingBox.JA3
open Checked List

/-- `ParseError`; a check has its number. -/
inductive ParseError
  | lengthErr (check : ℕ)
  | contentTypeErr
  | versionErr (check : ℕ)
  | handshakeTypeErr
  | sniTypeErr
  deriving DecidableEq

def ParseError.error : ParseError → String
  | lengthErr check => "length check "++toString check++" failed"
  | contentTypeErr => "content type not matching"
  | versionErr check => "version check "++toString check++" failed"
  | handshakeTypeErr => "handshake type not matching"
  | sniTypeErr => "SNI type not supported"

structure ClientHello where
  version : ℕ := 0
  cipherSuites : List ℕ := []
  extensions : List ℕ := []
  ellipticCurves : List ℕ := []
  ellipticCurvePF : List UInt8 := []
  versions : List ℕ := []
  signatureAlgorithms : List ℕ := []
  serverName : Bytes := []
  deriving DecidableEq

def uint16At {ε : Type} (b : Bytes) (i : ℕ) : Checked ε ℕ := do
  let high ← get b i
  let low ← get b (i+1)
  pure (high.toNat*256+low.toNat)

def supportedVersion (version : ℕ) : Prop := version &&& 0xFFFC = 0x0300 ∨ version = 0x0304

instance (version : ℕ) : Decidable (supportedVersion version) := instDecidableOr

def parseExtension (j : ClientHello) (exType : ℕ) (sex : Bytes) : Checked ParseError ClientHello :=
  match exType with
  | 0 => do
    reject (sex.length < 5) (.lengthErr 13)
    let sniType ← get sex 2
    let sniLen ← uint16At sex 3
    let sex ← sliceFrom sex 5
    reject (sex.length ≠ sniLen) (.lengthErr 14)
    reject (sniType ≠ 0) .sniTypeErr
    pure { j with serverName := sex }
  | 10 => do
    reject (sex.length < 2) (.lengthErr 15)
    let ecsLen ← uint16At sex 0
    let sex ← sliceFrom sex 2
    reject (sex.length ≠ ecsLen) (.lengthErr 16)
    let ellipticCurves ← (List.range (ecsLen/2)).mapM fun i => uint16At sex (i*2)
    pure { j with ellipticCurves := ellipticCurves }
  | 11 => do
    reject (sex.length < 1) (.lengthErr 17)
    let ecpfsLen ← get sex 0
    let sex ← sliceFrom sex 1
    reject (sex.length ≠ ecpfsLen.toNat) (.lengthErr 18)
    let ellipticCurvePF ← (List.range ecpfsLen.toNat).mapM fun i => get sex i
    pure { j with ellipticCurvePF := ellipticCurvePF }
  | 43 => do
    reject (sex.length < 1) (.lengthErr 19)
    let versionsLen ← get sex 0
    -- the length is not compared with what is left of the extension, and the loop reads two bytes at a time
    let versions ← (List.range ((versionsLen.toNat+1)/2)).mapM fun i => uint16At sex (1+2*i)
    pure { j with versions := j.versions++versions }
  | 13 => do
    reject (sex.length < 2) (.lengthErr 20)
    let ssaLen ← uint16At sex 0
    let signatureAlgorithms ← (List.range ((ssaLen+1)/2)).mapM fun i => uint16At sex (2+2*i)
    pure { j with signatureAlgorithms := j.signatureAlgorithms++signatureAlgorithms }
  | _ => pure j

/-- The loop over the extensions, with a bound on its rounds. The end of an extension is a number of 16 bits. -/
def extensionLoop : ℕ → ClientHello → Bytes → Checked ParseError ClientHello
  | 0, j, exs => if exs.length = 0 then pure j else crash .endless
  | rounds+1, j, exs =>
    if exs.length = 0 then pure j
    else do
      reject (exs.length < 4) (.lengthErr 11)
      let exType ← uint16At exs 0
      let exLen ← uint16At exs 2
      reject (exs.length < 4+exLen) (.lengthErr 12)
      let sex ← slice exs 4 (4+exLen)
      let j ← parseExtension { j with extensions := j.extensions++[exType] } exType sex
      let exs ← sliceFrom exs ((4+exLen)%2^16)
      extensionLoop rounds j exs

def extensionBytes (exs : Bytes) : Checked ParseError Bytes := do
  reject (exs.length < 2) (.lengthErr 9)
  let exsLen ← uint16At exs 0
  let exs ← sliceFrom exs 2
  reject (exs.length < exsLen) (.lengthErr 10)
  pure exs

def parseExtensions (j : ClientHello) (exs : Bytes) : Checked ParseError ClientHello :=
  if exs.length = 0 then pure j
  else do
    let exs ← extensionBytes exs
    extensionLoop exs.length j exs

/-- What `parseHandshake` reads before the cipher suites: the version, and the bytes that it leaves. -/
def versionField (hs : Bytes) : Checked ParseError (ℕ × Bytes) := do
  reject (hs.length < 39) (.lengthErr 3)
  let handshType ← get hs 0
  reject (handshType ≠ 1) .handshakeTypeErr
  let first ← get hs 1
  let second ← get hs 2
  let third ← get hs 3
  reject (hs.length-4 ≠ first.toNat*65536+second.toNat*256+third.toNat) (.lengthErr 4)
  let tlsVersion ← uint16At hs 4
  reject (¬ supportedVersion tlsVersion) (.versionErr 2)
  let sessionIDLen ← get hs 38
  reject (hs.length < 39+sessionIDLen.toNat) (.lengthErr 5)
  let cs ← sliceFrom hs (39+sessionIDLen.toNat)
  pure (tlsVersion,cs)

def cipherSuiteField (cs : Bytes) : Checked ParseError (List ℕ × Bytes) := do
  reject (cs.length < 2) (.lengthErr 6)
  let csLen ← uint16At cs 0
  reject (cs.length < 2+csLen+1) (.lengthErr 7)
  let cipherSuites ← (List.range (csLen/2)).mapM fun i => uint16At cs (2+2*i)
  let compressMethodLen ← get cs (2+csLen)
  reject (cs.length < 2+csLen+1+compressMethodLen.toNat) (.lengthErr 8)
  let exs ← sliceFrom cs (2+csLen+1+compressMethodLen.toNat)
  pure (cipherSuites,exs)

/-- What `parseHandshake` reads before the extensions, and the bytes that it leaves for them. -/
def handshakeFields (hs : Bytes) : Checked ParseError (ClientHello × Bytes) := do
  let version ← versionField hs
  let cipherSuites ← cipherSuiteField version.2
  pure ({ version := version.1, cipherSuites := cipherSuites.1 },cipherSuites.2)

def parseHandshake (hs : Bytes) : Checked ParseError ClientHello := do
  let fields ← handshakeFields hs
  parseExtensions fields.1 fields.2

def handshakeOf (segment : Bytes) : Checked ParseError Bytes := do
  reject (segment.length < 5) (.lengthErr 1)
  let contType ← get segment 0
  reject (contType ≠ 22) .contentTypeErr
  let tlsRecordVersion ← uint16At segment 1
  reject (¬ supportedVersion tlsRecordVersion) (.versionErr 1)
  let segmentLen ← uint16At segment 3
  reject (segment.length-5 < segmentLen) (.lengthErr 2)
  slice segment 5 (5+segmentLen)

def parseSegment (segment : Bytes) : Checked ParseError ClientHello := do
  let hs ← handshakeOf segment
  parseHandshake hs

/-- `Compute`: the fields of the message in a record. -/
def compute (payload : Bytes) : Checked ParseError ClientHello := parseSegment payload

section
variable {ε : Type} {b : Bytes} {i : ℕ}

lemma returns_uint16At_iff : Returns (uint16At b i : Checked ε ℕ) ↔ i+1 < b.length := by
  rw [uint16At,returns_bind_iff,returns_get_iff]
  constructor
  · rintro ⟨hi,h⟩
    have hv := h _ (get_eq_ok.mpr (getElem?_eq_getElem hi))
    exact returns_get_iff.mp (returns_bind_iff.mp hv).1
  · intro hi
    exact ⟨by omega,fun high _ => (returns_get_iff.mpr hi).bind fun low _ => returns_pure _⟩

lemma meets_uint16At {β : Type} {f : ℕ → Checked ε β} {P : β → Prop} (hi : i+1 < b.length) (hf : ∀ v, Meets (f v) P) :
    Meets (uint16At b i >>= f) P :=
  Meets.of_bind (returns_uint16At_iff.mpr hi) fun v _ => hf v

lemma uint16At_ne_fail (b : Bytes) (i : ℕ) (e : ε) : uint16At b i ≠ fail e := by
  rw [uint16At,Checked.get,Checked.get]
  intro h
  cases hh : b[i]? with
  | none =>
    rw [hh] at h
    cases h
  | some =>
    cases hl : b[i+1]? with
    | none | some low =>
      rw [hh,hl] at h
      cases h

lemma uint16At_eq_ok {n : ℕ} : (uint16At b i : Checked ε ℕ) = .ok n ↔
    ∃ high low, b[i]? = some high ∧ b[i+1]? = some low ∧ high.toNat*256+low.toNat = n := by
  rw [uint16At,Outcome.bind_eq_ok]
  constructor
  · rintro ⟨high,hh,h⟩
    obtain ⟨low,hl,h⟩ := Outcome.bind_eq_ok.mp h
    cases h
    exact ⟨high,low,get_eq_ok.mp hh,get_eq_ok.mp hl,rfl⟩
  · rintro ⟨high,low,hh,hl,rfl⟩
    exact ⟨high,get_eq_ok.mpr hh,Outcome.bind_eq_ok.mpr ⟨low,get_eq_ok.mpr hl,rfl⟩⟩

lemma uint16At_lt {n : ℕ} (h : (uint16At b i : Checked ε ℕ) = .ok n) : n < 2^16 := by
  obtain ⟨high,low,-,-,rfl⟩ := uint16At_eq_ok.mp h
  have hh := high.toNat_lt
  have hl := low.toNat_lt
  omega

lemma returns_uint16s_iff {b : Bytes} {bs c : ℕ} :
    Returns ((range c).mapM fun i => (uint16At b (bs+2*i) : Checked ε ℕ)) ↔ c = 0 ∨ bs+2*c ≤ b.length := by
  rw [returns_mapM_iff fun i _ err => uint16At_ne_fail b (bs+2*i) err]
  constructor
  · intro h
    cases c with
    | zero => exact .inl rfl
    | succ c =>
      have hl := returns_uint16At_iff.mp (h c (mem_range.mpr c.lt_succ_self))
      exact .inr (by omega)
  · intro h i hi
    have hlt := mem_range.mp hi
    exact returns_uint16At_iff.mpr (by omega)

lemma returns_uint16s_pure_iff {α : Type} {b : Bytes} {bs c : ℕ} {f : List ℕ → α} :
    Returns ((range c).mapM (fun i => (uint16At b (bs+2*i) : Checked ε ℕ)) >>= fun vs => pure (f vs)) ↔
      c = 0 ∨ bs+2*c ≤ b.length := by
  rw [returns_bind_iff,returns_uint16s_iff]
  exact and_iff_left fun _ _ => returns_pure _

end

/-- The list of versions or of signature algorithms in an extension is no longer than the extension. -/
def ListFits : ℕ → Bytes → Prop
  | 43, versionsLen :: list => 2*((versionsLen.toNat+1)/2) ≤ list.length
  | 13, high :: low :: list => 2*((high.toNat*256+low.toNat+1)/2) ≤ list.length
  | _, _ => True

lemma returns_parseExtension_iff {j : ClientHello} {exType : ℕ} {sex : Bytes} :
    Returns (parseExtension j exType sex) ↔ ListFits exType sex := by
  unfold parseExtension
  split
  · refine iff_of_true (Returns.of_reject fun hl => ?_) trivial
    refine (returns_get_iff.mpr (by omega)).bind fun st _ => ?_
    refine (returns_uint16At_iff.mpr (by omega)).bind fun sl _ => ?_
    refine (returns_sliceFrom (by omega)).bind fun sex _ => ?_
    exact Returns.of_reject fun _ => Returns.of_reject fun _ => returns_pure _
  · refine iff_of_true (Returns.of_reject fun hl => ?_) trivial
    refine (returns_uint16At_iff.mpr (by omega)).bind fun e _ => ?_
    refine (returns_sliceFrom (by omega)).bind fun sex _ => ?_
    refine Returns.of_reject fun hln => ?_
    refine Returns.bind ?_ fun _ _ => returns_pure _
    refine (returns_mapM_iff fun i _ err => uint16At_ne_fail sex (i*2) err).mpr fun i hi => ?_
    have hlt := mem_range.mp hi
    exact returns_uint16At_iff.mpr (by omega)
  · refine iff_of_true (Returns.of_reject fun hl => ?_) trivial
    refine (returns_get_iff.mpr (by omega)).bind fun el _ => ?_
    refine (returns_sliceFrom (by omega)).bind fun sex _ => ?_
    refine Returns.of_reject fun hln => ?_
    refine Returns.bind ?_ fun _ _ => returns_pure _
    refine (returns_mapM_iff fun i _ err => get_ne_fail sex i err).mpr fun i hi => ?_
    have hlt := mem_range.mp hi
    exact returns_get_iff.mpr (by omega)
  · cases sex with
    | nil => exact iff_of_true (returns_fail _) trivial
    | cons =>
      rw [reject_bind (by simp),returns_bind_of_eq (get_eq_ok.mpr rfl),returns_uint16s_pure_iff,ListFits, length_cons]
      omega
  · obtain rfl | ⟨high,rfl⟩ | ⟨high,low,l,rfl⟩ : sex = [] ∨ (∃ high, sex = [high]) ∨
        ∃ high low l, sex = high::low::l := by
      rcases sex with _ | ⟨high,_ | ⟨low,l⟩⟩
      · exact .inl rfl
      · exact .inr (.inl ⟨high,rfl⟩)
      · exact .inr (.inr ⟨high,low,l,rfl⟩)
    · exact iff_of_true (returns_fail _) trivial
    · exact iff_of_true (returns_fail _) trivial
    · rw [reject_bind (by simp),returns_bind_of_eq (uint16At_eq_ok.mpr ⟨high,low,rfl,rfl,rfl⟩),
        returns_uint16s_pure_iff,ListFits,length_cons,length_cons]
      omega
  · rename_i hsn hec he hv hs
    refine iff_of_true (returns_pure j) ?_
    rw [ListFits]
    · exact trivial
    · exact fun _ _ h _ => hv h
    · exact fun _ _ _ h _ => hs h

section
variable {exs : Bytes}

def firstExtension : Bytes → Option (ℕ × Bytes × Bytes)
  | typeHigh :: typeLow :: lengthHigh :: lengthLow :: rest =>
    let exLen := lengthHigh.toNat*256+lengthLow.toNat
    if rest.length < exLen then none
    else some (typeHigh.toNat*256+typeLow.toNat,rest.take exLen,rest.drop exLen)
  | _ => none

def extensionsRead : ℕ → ClientHello → Bytes → List (ℕ × Bytes)
  | 0, _, _ => []
  | rounds+1, j, exs =>
    match firstExtension exs with
    | none => []
    | some (exType,sex,rest) =>
      (exType,sex)::match parseExtension { j with extensions := j.extensions++[exType] } exType sex with
        | .ok j => extensionsRead rounds j rest
        | .error _ => []

lemma firstExtension_eq_some {et : ℕ} {s r : Bytes} (h : firstExtension exs = some (et,s,r)) :
    ∃ th tl lh ll : UInt8, exs = th::tl::lh::ll::(s++r) ∧
      et = th.toNat*256+tl.toNat ∧ s.length = lh.toNat*256+ll.toNat := by
  rcases exs with _ | ⟨th,_ | ⟨tl,_ | ⟨lh,_ | ⟨ll,bd⟩⟩⟩⟩
  iterate 4 cases h
  rw [firstExtension] at h
  split_ifs at h with hl
  cases h
  refine ⟨th,tl,lh,ll,?_,rfl,?_⟩
  · rw [take_append_drop]
  · rw [length_take]
    omega

lemma extensionLoop_of_none (rn : ℕ) (j : ClientHello) (hne : exs ≠ []) (h : firstExtension exs = none) :
    ∃ e, extensionLoop (rn+1) j exs = fail e := by
  have hl : ¬ exs.length = 0 := fun hz => hne (length_eq_zero_iff.mp hz)
  rw [extensionLoop,if_neg hl]
  rcases exs with _ | ⟨th,_ | ⟨tl,_ | ⟨lh,_ | ⟨ll,bd⟩⟩⟩⟩
  · exact absurd rfl hne
  · exact ⟨_,reject_bind_of (by simp) _ _⟩
  · exact ⟨_,reject_bind_of (by simp) _ _⟩
  · exact ⟨_,reject_bind_of (by simp) _ _⟩
  · rw [firstExtension] at h
    split_ifs at h with hs
    refine ⟨.lengthErr 12,?_⟩
    rw [reject_bind (by simp)]
    refine reject_bind_of ?_ _ _
    simp only [length_cons]
    omega

variable {rs : ℕ} {j : ClientHello} (hex : exs.length < 2^16)
include hex

lemma extensionLoop_of_some {et : ℕ} {s r : Bytes} (h : firstExtension exs = some (et,s,r)) :
    extensionLoop (rs+1) j exs = (do
      let j ← parseExtension { j with extensions := j.extensions++[et] } et s
      extensionLoop rs j r) := by
  obtain ⟨th,tl,lh,ll,rfl,rfl,hs⟩ := firstExtension_eq_some h
  simp only [length_cons,length_append] at hex
  have hb : (slice (th::tl::lh::ll::(s++r)) 4 (4+(lh.toNat*256+ll.toNat)) : Checked ParseError Bytes) = .ok s := by
    refine slice_eq_ok.mpr ⟨⟨by omega,by simp only [length_cons,length_append]; omega⟩,?_⟩
    rw [← hs,Nat.add_comm]
    simp
  have hr : (sliceFrom (th::tl::lh::ll::(s++r))
      ((4+(lh.toNat*256+ll.toNat))%2^16) : Checked ParseError Bytes) = .ok r := by
    rw [Nat.mod_eq_of_lt (by omega)]
    refine sliceFrom_eq_ok.mpr ⟨by simp only [length_cons,length_append]; omega,?_⟩
    rw [← hs,Nat.add_comm]
    simp
  rw [extensionLoop,if_neg (by simp),reject_bind (by simp)]
  change (do
    reject _ (ParseError.lengthErr 12)
    let s ← slice _ 4 _
    let j ← parseExtension _ _ s
    let exs ← sliceFrom _ _
    extensionLoop rs j exs) = _
  rw [reject_bind (by simp only [length_cons,length_append]; omega),hb]
  change (do
    let j ← parseExtension _ _ s
    let exs ← sliceFrom _ _
    extensionLoop rs j exs) = _
  rw [hr]
  rfl

lemma returns_extensionLoop_iff (hr : exs.length ≤ rs) :
    Returns (extensionLoop rs j exs) ↔ ∀ e ∈ extensionsRead rs j exs, ListFits e.1 e.2 := by
  induction rs generalizing j exs with
  | zero =>
    have hn : exs.length = 0 := Nat.le_zero.mp hr
    rw [extensionLoop,if_pos hn]
    exact iff_of_true (returns_pure j) (forall_mem_nil _)
  | succ rs ih =>
    cases hf : firstExtension exs with
    | none =>
      rw [extensionsRead,hf]
      refine iff_of_true ?_ (forall_mem_nil _)
      by_cases hne : exs = []
      · rw [hne]
        exact returns_pure j
      · obtain ⟨er,he⟩ := extensionLoop_of_none rs j hne hf
        rw [he]
        exact returns_fail er
    | some e =>
      obtain ⟨et,s,r⟩ := e
      obtain ⟨th,tl,lh,ll,heq,-⟩ := firstExtension_eq_some hf
      have hl : r.length+4 ≤ exs.length := by
        rw [heq]
        simp only [length_cons,length_append]
        omega
      rw [extensionLoop_of_some hex hf,extensionsRead,hf,returns_bind_iff,returns_parseExtension_iff, forall_mem_cons]
      refine and_congr_right fun _ => ?_
      cases parseExtension { j with extensions := j.extensions++[et] } et s with
      | error => exact iff_of_true (fun j h => by cases h) (forall_mem_nil _)
      | ok p =>
        have hp : Returns (extensionLoop rs p r) ↔ _ := ih (by omega) (by omega)
        exact ⟨fun h => hp.mp (h p rfl),fun h v heq => by cases heq; exact hp.mpr h⟩

end

lemma versionField_meets (hs : Bytes) : Meets (versionField hs) fun v => v.2.length ≤ hs.length := by
  refine Meets.of_reject fun hl => ?_
  refine Meets.of_get (by omega) fun ha => Meets.of_reject fun _ => ?_
  refine Meets.of_get (by omega) fun f => ?_
  refine Meets.of_get (by omega) fun s => ?_
  refine Meets.of_get (by omega) fun t => Meets.of_reject fun _ => ?_
  refine meets_uint16At (by omega) fun tv => Meets.of_reject fun _ => ?_
  refine Meets.of_get (by omega) fun si => Meets.of_reject fun hss => ?_
  refine (sliceFrom_meets (by omega)).bind fun cs hcs => meets_pure ?_
  simp only
  omega

lemma cipherSuiteField_meets (cs : Bytes) : Meets (cipherSuiteField cs) fun cp => cp.2.length ≤ cs.length := by
  refine Meets.of_reject fun hl => ?_
  refine meets_uint16At (by omega) fun cl => Meets.of_reject fun hs => ?_
  refine Meets.of_bind (returns_uint16s_iff.mpr (by omega)) fun cp _ => ?_
  refine Meets.of_get (by omega) fun cm => Meets.of_reject fun hc => ?_
  refine (sliceFrom_meets (by omega)).bind fun exs he => meets_pure ?_
  simp only
  omega

lemma handshakeFields_meets (hs : Bytes) : Meets (handshakeFields hs) fun fl => fl.2.length ≤ hs.length := by
  refine (versionField_meets hs).bind fun v hcs => ?_
  exact (cipherSuiteField_meets v.2).bind fun cs he => meets_pure (he.trans hcs)

lemma extensionBytes_meets (exs : Bytes) : Meets (extensionBytes exs) fun r => r.length ≤ exs.length := by
  refine Meets.of_reject fun hl => ?_
  refine meets_uint16At (by omega) fun el => ?_
  refine (sliceFrom_meets (by omega)).bind fun r hr => Meets.of_reject fun _ => meets_pure ?_
  omega

lemma handshakeOf_meets (s : Bytes) : Meets (handshakeOf s) fun hs => hs.length < 2^16 := by
  refine Meets.of_reject fun hl => ?_
  refine Meets.of_get (by omega) fun ct => Meets.of_reject fun _ => ?_
  refine meets_uint16At (by omega) fun tr => Meets.of_reject fun _ => ?_
  refine Meets.of_bind (returns_uint16At_iff.mpr (by omega)) fun sl hln => Meets.of_reject fun hsg => ?_
  have hlt := uint16At_lt hln
  refine (slice_meets (by omega) (by omega)).mono fun hs hhs => ?_
  omega

lemma returns_parseExtensions_iff {j : ClientHello} {exs : Bytes} (he : exs.length < 2^16) :
    Returns (parseExtensions j exs) ↔ ∀ r, extensionBytes exs = .ok r →
      ∀ e ∈ extensionsRead r.length j r, ListFits e.1 e.2 := by
  obtain ⟨hr,hl⟩ := extensionBytes_meets exs
  rw [parseExtensions]
  split_ifs with hz
  · refine iff_of_true (returns_pure j) fun r hrs => ?_
    rw [length_eq_zero_iff.mp hz] at hrs
    cases hrs
  · rw [returns_bind_iff]
    constructor
    · rintro ⟨-,h⟩ r hrs
      exact (returns_extensionLoop_iff ((hl r hrs).trans_lt he) le_rfl).mp (h r hrs)
    · intro h
      refine ⟨hr,fun r hrs => ?_⟩
      exact (returns_extensionLoop_iff ((hl r hrs).trans_lt he) le_rfl).mpr (h r hrs)

/-- The lists of versions and of signature algorithms fit in every extension that parsing a record comes to. -/
def ListsFit (segment : Bytes) : Prop :=
  ∀ fields exs, handshakeOf segment >>= handshakeFields = .ok fields → extensionBytes fields.2 = .ok exs →
    ∀ extension ∈ extensionsRead exs.length fields.1 exs, ListFits extension.1 extension.2

lemma returns_compute_iff (p : Bytes) : Returns (compute p) ↔ ListsFit p := by
  have hf : Meets (handshakeOf p >>= handshakeFields) fun fl => fl.2.length < 2^16 := by
    refine (handshakeOf_meets p).bind fun hs hhs => ?_
    exact (handshakeFields_meets hs).mono fun fl hf => hf.trans_lt hhs
  have hp : compute p = handshakeOf p >>= handshakeFields >>= fun fl =>
      parseExtensions fl.1 fl.2 :=
    (bind_assoc _ _ _).symm
  rw [hp,returns_bind_iff,and_iff_right hf.1]
  constructor
  · intro h fl exs hok he
    exact (returns_parseExtensions_iff (hf.2 fl hok)).mp (h fl hok) exs he
  · intro h fl hok
    exact (returns_parseExtensions_iff (hf.2 fl hok)).mpr fun exs he => h fl exs hok he

end SingBox.JA3
