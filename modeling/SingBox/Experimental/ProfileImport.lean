import SingBox.Common.Binary
import SingBox.Library.ByteBounds

/-! The messages in which profiles are shared (`experimental/libbox/profile_import.go`). Numbers are by their bits. -/
namespace SingBox.Libbox
open ByteProgram List

def readString : Decoder Bytes := do
  let length ← Uvarint.read
  .make length 1 (times (fun _ => readByte) length 0)

def writeString (value : Bytes) : Bytes := Uvarint.put value.length++value

def message {α : Type} (type : UInt8) (body : Decoder α) : Decoder α := do
  let messageType ← readByte
  if messageType ≠ type then .fail (.new (ascii "invalid message")) else body

def decodeErrorMessage : Decoder Bytes := message 0 readString

structure ProfilePreview where
  profileID : BitVec 64
  name : Bytes
  type : BitVec 32

/-- `ProfileDecoder.Decode`, without the previews that it has read where it fails. -/
def ProfileDecoder.decode : Decoder (List ProfilePreview) := message 1 do
  let profileCount ← readInt 16
  times (fun _ => do
    let profileID ← readInt 64
    let name ← readString
    let type ← readInt 32
    pure ⟨profileID,name,type⟩) profileCount.toNat 0

/-- The type of a profile is 0 for a local one, 1 for one in iCloud and 2 for a remote one. -/
structure ProfileContent where
  name : Bytes
  type : BitVec 32
  config : Bytes
  remotePath : Bytes := []
  autoUpdate : Bool := false
  autoUpdateInterval : BitVec 32 := 0
  lastUpdated : BitVec 64 := 0
  deriving DecidableEq

/-- What is compressed in `Encode`. -/
def ProfileContent.written (c : ProfileContent) : Bytes :=
  writeString c.name++(BigEndian.put 4 c.type.toNat++(writeString c.config++
    ((if c.type ≠ 0 then writeString c.remotePath else [])++
    if c.type = 2 then [if c.autoUpdate then 1 else 0]++(BigEndian.put 4 c.autoUpdateInterval.toNat++
      BigEndian.put 8 c.lastUpdated.toNat) else [])))

/-- A field that is read under a condition. -/
def readIf {α : Type} (c : Prop) [Decidable c] (field : Decoder α) (zero : α) : Decoder α := if c then field else pure zero

/-- What `DecodeProfileContent` reads of the decompressed bytes. -/
def readContent (version : UInt8) : Decoder ProfileContent := do
  let name ← readString
  let type ← readInt 32
  let config ← readString
  let remotePath ← readIf (type ≠ 0) readString []
  if type = 2 ∨ version = 0 ∧ type ≠ 0 then do
    let autoUpdate ← readFull 1
    let autoUpdateInterval ← readIf (1 ≤ version) (readInt 32) 0
    let lastUpdated ← readInt 64
    pure { name, type, config, remotePath, autoUpdate := autoUpdate ≠ [0], autoUpdateInterval, lastUpdated }
  else pure { name, type, config, remotePath }

/-- A compression: a reader has an error, or bytes and the error behind them where that is not EOF. -/
structure Gzip where
  write : Bytes → Bytes
  newReader : Bytes → Except ReadError (Bytes × Option ReadError)
  newReader_write : ∀ bytes, newReader (write bytes) = .ok (bytes,none)

def ProfileContent.encode (gzip : Gzip) (c : ProfileContent) : Bytes := 3::1::gzip.write c.written

/-- The version and the decompressed bytes of a profile content. -/
def openContent (gzip : Gzip) : Bytes → Except ReadError (UInt8 × Bytes × Option ReadError)
  | [] => .error .eof
  | messageType::data =>
    if messageType ≠ 3 then .error (.new (ascii "invalid message")) else
    match data with
    | [] => .error .eof
    | version::data =>
      match gzip.newReader data with
      | .error err => .error (.cause err "unsupported profile")
      | .ok stream => .ok (version,stream)

/-- The error of a reader that came to the end of the bytes. -/
def endsIn (behind : Option ReadError) : ReadError → ReadError
  | .overflow => .overflow
  | err => behind.getD err

def decodeProfileContent (gzip : Gzip) (data : Bytes) : Result ReadError ProfileContent :=
  match openContent gzip data with
  | .error err => .failed err
  | .ok (version,bytes,behind) => ((readContent version).mapError (endsIn behind)).run maxAlloc bytes

/-- The profile without the fields that its type does not carry. -/
def ProfileContent.carried (c : ProfileContent) : ProfileContent :=
  if c.type = 2 then c
  else { name := c.name, type := c.type, config := c.config, remotePath := if c.type ≠ 0 then c.remotePath else [] }

/-- The strings are in memory. -/
def ProfileContent.Fits (c : ProfileContent) : Prop := ∀ value ∈ [c.name,c.config,c.remotePath], value.length ≤ maxAlloc

/-- A field of a message: so many bytes, or a string behind its length. -/
inductive Field
  | bytes (count : ℕ)
  | string

/-- Each length of a string that stands where the fields before it end is at most `total`, and one for which there is
memory. -/
def LengthsFit (total : ℕ) : List Field → Bytes → Prop
  | [], _ => True
  | .bytes count::fields, data => count ≤ data.length → LengthsFit total fields (data.drop count)
  | .string::fields, data => ∀ length rest, (Uvarint.read : Decoder ℕ).run maxAlloc data = .ok length rest →
    (length ≤ total ∧ length ≤ maxAlloc) ∧ (length ≤ rest.length → LengthsFit total fields (rest.drop length))

def previewFields (count : ℕ) : List Field := (replicate count [.bytes 8,.string,.bytes 4]).flatten

/-- The type of a profile stands behind its name. -/
def contentType (data : Bytes) : BitVec 32 :=
  match (Uvarint.read : Decoder ℕ).run maxAlloc data with
  | .ok length rest => BitVec.ofNat 32 (BigEndian.read ((rest.drop length).take 4))
  | _ => 0

def contentFields (data : Bytes) : List Field :=
  [.string,.bytes 4,.string]++if contentType data ≠ 0 then [.string] else []

section
variable {α β : Type} {total : ℕ} {data : Bytes}

lemma safe_readGroups (n s x : ℕ) (data : Bytes) : Safe maxAlloc total (Uvarint.readGroups n s x : Decoder ℕ) data := by
  induction n generalizing s x data with
  | zero => exact ⟨nofun,nofun⟩
  | succ n ih =>
    refine safe_byte.mpr fun b rest _ => ?_
    split_ifs
    · exact ⟨nofun,nofun⟩
    · exact safe_pure _
    · exact ih _ _ rest

lemma run_bytes {n i : ℕ} {v rest : Bytes} :
    (times (fun _ => readByte) n i : Decoder Bytes).run maxAlloc data = .ok v rest ↔
      v = data.take n ∧ rest = data.drop n ∧ n ≤ data.length := by
  induction n generalizing data i v with
  | zero => simp [times,run,eq_comm]
  | succ n ih =>
    cases data with
    | nil =>
      refine iff_of_false (fun h => ?_) fun h => absurd h.2.2 (Nat.not_succ_le_zero n)
      cases h
    | cons b data =>
      change ((b::·) <$> times (fun _ => readByte) n (i+1) : Decoder Bytes).run maxAlloc data = _ ↔ _
      simp only [run_map_eq_ok,ih]
      constructor
      · rintro ⟨_,⟨rfl,hr,hn⟩,rfl⟩
        exact ⟨rfl,hr,Nat.succ_le_succ hn⟩
      · rintro ⟨rfl,hr,hn⟩
        exact ⟨_,⟨rfl,hr,Nat.le_of_succ_le_succ hn⟩,rfl⟩

/-- Behind a program that takes so many bytes and has no other effect. -/
lemma safe_take_bind {p : Decoder α} {n : ℕ} {g : Bytes → α} (hs : Safe maxAlloc total p data)
    (hr : ∀ v rest, p.run maxAlloc data = .ok v rest ↔ v = g (data.take n) ∧ rest = data.drop n ∧ n ≤ data.length)
    (f : α → Decoder β) : Safe maxAlloc total (p >>= f) data ↔
      (n ≤ data.length → Safe maxAlloc total (f (g (data.take n))) (data.drop n)) := by
  simp only [safe_bind,hs,true_and,hr]
  constructor
  · exact fun h hn => h _ _ ⟨rfl,rfl,hn⟩
  · rintro h _ _ ⟨rfl,rfl,hn⟩
    exact h hn

lemma safe_readInt (w : ℕ) : Safe maxAlloc total (readInt w) data := (safe_map _).mpr (safe_readFull ..)

lemma safe_int_bind {w : ℕ} (f : BitVec w → Decoder β) : Safe maxAlloc total (readInt w >>= f) data ↔
    (w/8 ≤ data.length →
      Safe maxAlloc total (f (BitVec.ofNat w (BigEndian.read (data.take (w/8))))) (data.drop (w/8))) := by
  refine safe_take_bind (g := fun bytes => BitVec.ofNat w (BigEndian.read bytes)) (safe_readInt w) (fun v rest => ?_) f
  rw [readInt,run_map_eq_ok]
  simp only [run_readFull_eq_ok]
  constructor
  · rintro ⟨d,⟨rfl,hd⟩,rfl⟩
    simp [← hd]
  · rintro ⟨rfl,rfl,hn⟩
    exact ⟨_,⟨(take_append_drop ..).symm,length_take_of_le hn⟩,rfl⟩

variable {fields : List Field}

lemma safe_string_bind {f : Bytes → Decoder β}
    (h : ∀ length rest, (Uvarint.read : Decoder ℕ).run maxAlloc data = .ok length rest →
      (Safe maxAlloc total (f (rest.take length)) (rest.drop length) ↔ LengthsFit total fields (rest.drop length))) :
    Safe maxAlloc total (readString >>= f) data ↔ LengthsFit total (.string::fields) data := by
  have hs : ∀ n i data, Safe maxAlloc total (times (fun _ => readByte) n i : Decoder Bytes) data :=
    safe_times fun _ _ => safe_byte.mpr fun _ _ _ => safe_pure _
  have hb : Safe maxAlloc total (Uvarint.read : Decoder ℕ) data := safe_readGroups ..
  rw [readString,bind_bind,safe_bind,and_iff_right hb,LengthsFit]
  refine forall_congr' fun length => forall_congr' fun rest => imp_congr_right fun hr => ?_
  change Safe maxAlloc total (make length 1 (times (fun _ => readByte) length 0 >>= f)) rest ↔ _
  rw [safe_make,safe_take_bind (g := id) (hs ..) fun _ _ => run_bytes,id,h length rest hr]

lemma safe_readString : Safe maxAlloc total readString data ↔ LengthsFit total [.string] data :=
  (safe_map id).symm.trans (safe_string_bind fun _ _ _ => iff_of_true (safe_pure _) trivial)

lemma safe_message {type : UInt8} {body : Decoder α} : Safe maxAlloc total (message type body) data ↔
    (data.head? = some type → Safe maxAlloc total body data.tail) := by
  cases data with
  | nil => exact ⟨nofun,fun _ => ⟨nofun,nofun⟩⟩
  | cons b data =>
    change Safe maxAlloc total (if b ≠ type then .fail _ else body) data ↔ (some b = some type → _)
    split_ifs with hb
    · exact ⟨fun _ h => absurd (Option.some.inj h) hb,fun _ => ⟨nofun,nofun⟩⟩
    · exact (imp_iff_right (congrArg some (not_not.mp hb))).symm

lemma safe_previews (n i : ℕ) (data : Bytes) : Safe maxAlloc total (times (fun _ => do
    let profileID ← readInt 64
    let name ← readString
    let type ← readInt 32
    pure (⟨profileID,name,type⟩ : ProfilePreview)) n i) data ↔
      LengthsFit total (previewFields n) data := by
  induction n generalizing i data with
  | zero => exact iff_of_true (safe_pure []) trivial
  | succ n ih =>
    rw [times,previewFields,replicate_succ,flatten_cons]
    simp only [bind_bind]
    refine (safe_int_bind _).trans (imp_congr_right fun _ => safe_string_bind fun length rest _ => ?_)
    refine (safe_int_bind _).trans (imp_congr_right fun _ => ?_)
    change Safe maxAlloc total (times _ n (i+1) >>= _) _ ↔ _
    exact (safe_map _).trans (ih (i+1) _)

lemma safe_readContent (version : UInt8) :
    Safe maxAlloc total (readContent version) data ↔ LengthsFit total (contentFields data) data := by
  unfold readContent contentFields
  refine safe_string_bind fun length rest hr => ?_
  refine (safe_int_bind _).trans (imp_congr_right fun _ => ?_)
  have ht : contentType data = BitVec.ofNat 32 (BigEndian.read ((rest.drop length).take 4)) := by rw [contentType,hr]
  rw [ht]
  refine safe_string_bind fun length rest _ => ?_
  refine safe_bind.trans ((and_iff_left fun remotePath data _ => ?_).trans ?_)
  · split_ifs
    · refine safe_bind.mpr ⟨safe_readFull ..,fun _ _ _ => safe_bind.mpr ⟨?_,fun _ _ _ => ?_⟩⟩
      · unfold readIf
        split_ifs
        · exact safe_readInt 32
        · exact safe_pure _
      · exact (safe_map _).mpr (safe_readInt 64)
    · exact safe_pure _
  · unfold readIf
    split_ifs
    · exact safe_readString
    · exact iff_of_true (safe_pure _) trivial

end

lemma parses_readString {v : Bytes} (h : v.length ≤ maxAlloc) : Parses maxAlloc readString (writeString v) v := by
  refine (Uvarint.parses_put (lt_of_le_maxAlloc h |>.trans (by decide))).bind (.make ?_ (by omega))
  simpa using Parses.times (fun _ => readByte) (fun b => [b]) id v (fun b _ _ => .readByte b) 0

lemma parses_readIf {α : Type} {p : Prop} [Decidable p] {f : Decoder α} {bs : Bytes} {v : α}
    (h : Parses maxAlloc f bs v) (z : α) :
    Parses maxAlloc (readIf p f z) (if p then bs else []) (if p then v else z) := by
  unfold readIf
  split_ifs
  · exact h
  · exact .pure z

lemma parses_readContent {c : ProfileContent} (h : c.Fits) : Parses maxAlloc (readContent 1) c.written c.carried := by
  simp only [ProfileContent.Fits,forall_mem_cons] at h
  refine (parses_readString h.1).bind ((parses_readInt (by decide) c.type).bind ((parses_readString h.2.1).bind ?_))
  refine (parses_readIf (parses_readString h.2.2.1) []).bind ?_
  unfold ProfileContent.carried
  by_cases ht : c.type = 2
  · have ha : decide ([if c.autoUpdate then (1 : UInt8) else 0] ≠ [0]) = c.autoUpdate := by
      cases c.autoUpdate <;> rfl
    have hr : c.type ≠ 0 := by
      rw [ht]
      decide
    rw [if_pos ht,if_pos ht,if_pos (.inl ht),if_pos hr]
    refine (Parses.readFull [if c.autoUpdate then (1 : UInt8) else 0]).bind ?_
    refine (parses_readIf (p := (1 : UInt8) ≤ 1) (parses_readInt (by decide) c.autoUpdateInterval) 0).bind ?_
    rw [ha]
    exact (parses_readInt (by decide) c.lastUpdated).map fun lastUpdated => ({ c with lastUpdated } : ProfileContent)
  · have hn : ¬ (c.type = 2 ∨ (1 : UInt8) = 0 ∧ c.type ≠ 0) := fun h => h.elim ht fun h => absurd h.1 (by decide)
    rw [if_neg ht,if_neg ht,if_neg hn]
    exact .pure _

/-- The decoders of profile messages are safe on the inputs whose lengths fit, and no others; what was encoded is
decoded, up to the fields that the type does not carry. -/
theorem profile_messages_safe_iff (gzip : Gzip) :
    (∀ data, (Safe maxAlloc data.length decodeErrorMessage data ↔
        (data.head? = some 0 → LengthsFit data.length [.string] data.tail)) ∧
      (Safe maxAlloc data.length ProfileDecoder.decode data ↔
        (data.head? = some 1 → LengthsFit data.length
          (.bytes 2::previewFields (BitVec.ofNat 16 (BigEndian.read (data.tail.take 2))).toNat) data.tail)) ∧
      (((∀ reason, decodeProfileContent gzip data ≠ .crashed reason) ∧
        ∀ version bytes behind, openContent gzip data = .ok (version,bytes,behind) →
          ∀ a ∈ ((readContent version).mapError (endsIn behind)).allocations maxAlloc bytes, a.1 ≤ bytes.length) ↔
        ∀ version bytes behind, openContent gzip data = .ok (version,bytes,behind) →
          LengthsFit bytes.length (contentFields bytes) bytes)) ∧
    ∀ content : ProfileContent, content.Fits →
      decodeProfileContent gzip (content.encode gzip) = .ok content.carried [] := by
  refine ⟨fun data => ⟨safe_message.trans (imp_congr_right fun _ => safe_readString),
    safe_message.trans (imp_congr_right fun _ => (safe_int_bind _).trans (imp_congr_right fun _ => safe_previews ..)),
    ?_⟩,fun content hf => ?_⟩
  · unfold decodeProfileContent
    cases openContent gzip data with
    | error e => simp
    | ok o =>
      obtain ⟨version,bytes,behind⟩ := o
      have hs : Safe maxAlloc bytes.length ((readContent version).mapError (endsIn behind)) bytes ↔ _ :=
        (safe_mapError _).trans (safe_readContent version)
      constructor
      · rintro ⟨hc,ha⟩ _ _ _ ⟨⟩
        exact hs.mp ⟨hc,ha _ _ _ rfl⟩
      · intro hl
        obtain ⟨hc,ha⟩ := hs.mpr (hl _ _ _ rfl)
        refine ⟨hc,?_⟩
        rintro _ _ _ ⟨⟩
        exact ha
  · have ho : openContent gzip (content.encode gzip) = .ok (1,content.written,none) := by
      simp [ProfileContent.encode,openContent,gzip.newReader_write]
    have hp := (parses_readContent hf).mapError (endsIn none) []
    rw [append_nil] at hp
    rw [decodeProfileContent,ho]
    exact hp

/-- A length without memory for it, and five bytes for a message of two. -/
theorem string_before_its_length : decodeErrorMessage.run maxAlloc (0::Uvarint.put (2^63)) =
      .crashed "makeslice: len out of range" ∧ decodeErrorMessage.allocations maxAlloc [0,5] = [(5,0)] := by
  decide

end SingBox.Libbox
