import SingBox.Library.Segments
import SingBox.Transport.Handshakes

/-! The server side of Trojan: the request at the start of a connection, and the fallback of what is none. -/
namespace SingBox.Trojan
open List ByteProgram
variable {κ α : Type}

/-- Where a connection goes, with the segments that its reader gets. -/
inductive Handled (κ α : Type)
  | accepted (user : κ) (command : UInt8) (destination : α) (conn : List Bytes)
  | fallback (conn : List Bytes)
  | failed

def keyLength : ℕ := 56

/-- What follows the key; `readAddrPort` is that of `M.SocksaddrSerializer`. -/
def readRequest (readAddrPort : Decoder α) : Decoder (UInt8 × α) := do
  let _ ← readFull 2
  let command ← readByte
  if command = 1 ∨ command = 3 ∨ command = 0x7f then do
    let destination ← readAddrPort
    let _ ← readFull 2
    pure (command,destination)
  else .fail (.new (ascii "unknown command"))

variable (keys : Bytes → Option κ) (readAddrPort : Decoder α) (fallbackHandler : Bool)

/-- `Service.fallback`: a cached connection gives the header first. -/
def fallback (header : Bytes) (conn : List Bytes) : Handled κ α :=
  if fallbackHandler then .fallback (header::conn) else .failed

def newConnection (conn : List Bytes) : Handled κ α :=
  match Segments.read keyLength conn with
  | none => .failed
  | some (key,conn) =>
    if key.length ≠ keyLength then fallback fallbackHandler key conn
    else
      match keys key with
      | none => fallback fallbackHandler key conn
      | some user =>
        match Segments.run maxAlloc (readRequest readAddrPort) conn with
        | none => .failed
        | some ((command,destination),conn) => .accepted user command destination conn

/-- The user, the request and the bytes after it, where one is accepted. -/
def Handled.request : Handled κ α → Option (κ × UInt8 × α × Bytes)
  | accepted user command destination conn => some (user,command,destination,conn.flatten)
  | _ => none

/-- The request that a stream holds. -/
def requestOf (stream : Bytes) : Option (κ × UInt8 × α × Bytes) :=
  if stream.length < keyLength then none
  else
    match keys (stream.take keyLength), (readRequest readAddrPort).run maxAlloc (stream.drop keyLength) with
    | some user, .ok (command,destination) rest => some (user,command,destination,rest)
    | _, _ => none

lemma run_flatten {p : Decoder α} (c : List Bytes) :
    (Segments.run maxAlloc p c).map (Prod.map id flatten) = match p.run maxAlloc c.flatten with
      | .ok v r => some (v,r)
      | _ => none := by
  obtain ⟨he,-,hrs⟩ := runOn_eq (l := maxAlloc) Segments.shows_next p (s := c) trivial
  rw [Segments.run]
  generalize p.runOn maxAlloc Segments.next c = e at *
  cases hr : p.run maxAlloc c.flatten with
  | ok v r =>
    rw [hr] at he
    obtain ⟨_,c'⟩ := e
    cases he
    simp [hrs v r hr]
  | failed err | crashed reason =>
    rw [hr] at he
    obtain ⟨_,c'⟩ := e
    cases he
    rfl

lemma request_newConnection (conn : List Bytes) : (newConnection keys readAddrPort fallbackHandler conn).request =
      if (Parts.read keyLength conn).1.length = keyLength then requestOf keys readAddrPort conn.flatten else none := by
  have ha := Parts.read_append keyLength conn
  rw [newConnection,Segments.read]
  by_cases hn : conn.flatten = []
  · rw [hn,append_eq_nil_iff] at ha
    rw [if_pos ⟨by decide,hn⟩,if_neg (by rw [ha.1]; decide)]
    rfl
  rw [if_neg (fun h => hn h.2)]
  generalize Parts.read keyLength conn = read at ha
  obtain ⟨key,rest⟩ := read
  dsimp only at ha ⊢
  have hf : (fallback fallbackHandler key rest : Handled κ α).request = none := by
    cases fallbackHandler <;> rfl
  by_cases hk : key.length = keyLength
  · rw [if_pos hk,if_neg (not_not.mpr hk),requestOf,← ha,if_neg (by simp [hk]),take_left' hk,drop_left' hk]
    cases keys key with
    | none => exact hf
    | some =>
      have hrn := run_flatten (p := readRequest readAddrPort) rest
      cases hr : (readRequest readAddrPort).run maxAlloc rest.flatten with
      | ok =>
        rw [hr] at hrn
        obtain ⟨⟨⟨command,destination⟩,rest'⟩,hs,heq⟩ := Option.map_eq_some_iff.mp hrn
        cases heq
        rw [hs]
        rfl
      | failed err | crashed reason =>
        rw [hr] at hrn
        rw [Option.map_eq_none_iff.mp hrn]
        rfl
  · simp [hk,hf]

/-- A request is read from the segments as from the stream in one piece unless the stream holds one and the first read
does not give the key; and the fallback reads the stream from its first byte. -/
theorem request_division_iff (conn : List Bytes) : ((newConnection keys readAddrPort fallbackHandler conn).request =
        (newConnection keys readAddrPort fallbackHandler [conn.flatten]).request ↔
      (requestOf keys readAddrPort conn.flatten ≠ none → (Parts.read keyLength conn).1.length = keyLength)) ∧
    ∀ rest, newConnection keys readAddrPort fallbackHandler conn = .fallback rest → rest.flatten = conn.flatten := by
  have hw : (newConnection keys readAddrPort fallbackHandler [conn.flatten]).request =
      requestOf keys readAddrPort conn.flatten := by
    rw [request_newConnection,flatten_singleton]
    split_ifs with hl
    · rfl
    · have hs : conn.flatten.length < keyLength := by
        by_contra hle
        cases hc : conn.flatten with
        | nil => simp [hc,keyLength] at hle
        | cons =>
          rw [hc] at hl hle
          exact hl (length_take_of_le (not_lt.mp hle))
      rw [requestOf,if_pos hs]
  refine ⟨?_,fun rest h => ?_⟩
  · rw [hw,request_newConnection]
    split_ifs with hl
    · simp [hl]
    · simp [hl,eq_comm]
  · have ha := Parts.read_append keyLength conn
    have hf : ∀ key conn', (fallback fallbackHandler key conn' : Handled κ α) = .fallback rest → rest = key::conn' := by
      intro key conn' h
      cases fallbackHandler <;> cases h
      rfl
    rw [newConnection] at h
    split at h
    · cases h
    next key conn' hr =>
      rw [Segments.read] at hr
      split_ifs at hr
      rw [Option.some.inj hr] at ha
      split_ifs at h
      · rwa [hf key conn' h]
      · split at h
        · rwa [hf key conn' h]
        · split at h <;> cases h

/-- A request whose key comes in two segments. -/
theorem divided_key_falls_back :
    let keys (key : Bytes) : Option Unit := if key = replicate 56 0x61 then some () else none
    let request : Bytes := [13,10,1,1,10,0,0,1,0,80,13,10]
    (newConnection keys Handshake.readIPv4AddrPort true [replicate 56 0x61++request]).request =
      some ((),1,([10,0,0,1],[0,80]),[]) ∧
    (newConnection keys Handshake.readIPv4AddrPort true [replicate 55 0x61,0x61::request]).request = none := by
  decide

end SingBox.Trojan
