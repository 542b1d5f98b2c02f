import SingBox.Common.Binary
import SingBox.Library.BufReader

/-! Connections that are handed on behind a handshake: the WebSocket client, the HTTP upgrade client and the
Trojan mux server read the handshake through a buffered reader, and give what it has read ahead to a connection
with a cache. -/
namespace SingBox.Handshake
open ByteProgram
variable {α β δ : Type}

/-- `buf.Buffer`. -/
structure Buffer where
  capacity : ℕ
  stored : Bytes
  deriving DecidableEq

def Buffer.newSize (capacity : ℕ) : Buffer := ⟨capacity,[]⟩

def Buffer.len (b : Buffer) : ℕ := b.stored.length

/-- A connection of the network, by what its reads return; `bufio.NewCachedConn` has a buffer in front. -/
inductive Conn
  | net (reads : List Bytes)
  | cached (conn : Conn) (buffer : Buffer)
  deriving DecidableEq

def Conn.yields : Conn → Bytes
  | net reads => reads.flatten
  | cached conn buffer => buffer.stored++conn.yields

def reading (program : Decoder α) (reader : BufReader) (next : α → BufReader → Ended ReadError β) :
    Ended ReadError β :=
  match program.runOn maxAlloc BufReader.readByte reader with
  | (.ok value,reader) => next value reader
  | (.failed err,_) => .failed err
  | (.crashed reason,_) => .crashed reason

/-- `Buffer.ReadFullFrom`: exactly `size` bytes, behind those that are stored. -/
def Buffer.readFullFrom (b : Buffer) (reader : BufReader) (size : ℕ)
    (next : Buffer → BufReader → Ended ReadError β) : Ended ReadError β :=
  if b.capacity < b.len+size then .failed (.new (ascii "short buffer"))
  else reading (readFull size) reader fun bytes reader => next { b with stored := b.stored++bytes } reader

/-- The lines that the three have in common. -/
def cacheBuffered (reader : BufReader) : Ended ReadError Conn :=
  let buffer := Buffer.newSize reader.buffered.length
  buffer.readFullFrom reader buffer.len fun buffer reader => .ok (.cached (.net reader.reads) buffer)

def handOn (reader : BufReader) : Ended ReadError Conn :=
  if 0 < reader.buffered.length then cacheBuffered reader else .ok (.net reader.reads)

/-- `Client.dialContext` of the WebSocket client. `Upgrade` reads the response and returns its reader where that
holds bytes; whether it does so where none is held is left open. -/
def webSocketDial (upgrade : Decoder Unit) (returnsEmpty : Bool) (reads : List Bytes) : Ended ReadError Conn :=
  reading upgrade ⟨[],reads⟩ fun _ reader =>
    if reader.buffered = [] ∧ returnsEmpty = false then .ok (.net reader.reads) else cacheBuffered reader

structure Response where
  statusCode : ℕ
  status : String
  connection : String
  upgrade : String

/-- `http.ReadResponse` and `strings.EqualFold`. -/
structure HTTPLibrary where
  readResponse : Decoder Response
  equalFold : String → String → Bool

/-- `Client.DialContext` of the HTTP upgrade client. -/
def httpUpgradeDial (lib : HTTPLibrary) (reads : List Bytes) : Ended ReadError Conn :=
  reading lib.readResponse ⟨[],reads⟩ fun response reader =>
    if response.statusCode ≠ 101 ∨ lib.equalFold response.connection "upgrade" = false ∨
        lib.equalFold response.upgrade "websocket" = false then
      .failed (.new (ascii ("v2ray-http-upgrade: unexpected status: "++response.status)))
    else handOn reader

/-- What `newMuxConnection0` reads; `readAddrPort` is that of `M.SocksaddrSerializer`. -/
def muxHeader (readAddrPort : Decoder δ) : Decoder (UInt8 × δ) := do
  let command ← readByte.mapError (.cause · "read command")
  let destination ← readAddrPort.mapError (.cause · "read destination")
  pure (command,destination)

/-- A call of `NewConnectionEx` or `NewPacketConnectionEx`. -/
structure Handled (δ : Type) where
  isPacket : Bool
  conn : Conn
  destination : δ
  deriving DecidableEq

def newMuxConnection0 (readAddrPort : Decoder δ) (reads : List Bytes) : Ended ReadError (Handled δ) :=
  reading (muxHeader readAddrPort) ⟨[],reads⟩ fun (command,destination) reader =>
    match handOn reader with
    | .ok conn =>
      if command = 1 then .ok ⟨false,conn,destination⟩
      else if command = 3 then .ok ⟨true,conn,destination⟩
      else .failed (.new (ascii ("unknown command "++toString command.toNat)))
    | .failed err => .failed err
    | .crashed reason => .crashed reason

/-- A connection that is handed on yields the bytes of the peer behind the handshake. -/
def YieldsFollowing (header : Decoder α) (reads : List Bytes) (conn : β → Conn) (handed : Ended ReadError β) : Prop :=
  ∀ x, handed = .ok x → ∃ value, header.run maxAlloc reads.flatten = .ok value (conn x).yields

def readAhead (header : Decoder α) (reads : List Bytes) : Bytes :=
  (header.runOn maxAlloc BufReader.readByte ⟨[],reads⟩).2.buffered

lemma cacheBuffered_eq (reader : BufReader) :
    cacheBuffered reader = .ok (.cached (.net reader.reads) (.newSize reader.buffered.length)) := by
  simp [cacheBuffered,Buffer.readFullFrom,Buffer.newSize,Buffer.len,reading,readFull,runOn]

variable {reader : BufReader}

lemma yields_of_cacheBuffered {c : Conn} (h : cacheBuffered reader = .ok c) : c.yields = reader.reads.flatten := by
  rw [cacheBuffered_eq] at h
  cases h
  rfl

lemma yields_of_handOn {c : Conn} (h : handOn reader = .ok c) : c.yields = reader.reads.flatten := by
  rw [handOn] at h
  split_ifs at h
  · exact yields_of_cacheBuffered h
  · cases h
    rfl

variable {n : α → BufReader → Ended ReadError β}

lemma run_of_reading {header : Decoder α} {rs : List Bytes} {x : β} (h : reading header ⟨[],rs⟩ n = .ok x) :
    ∃ v reader, header.run maxAlloc rs.flatten = .ok v (readAhead header rs++reader.reads.flatten) ∧
      n v reader = .ok x := by
  obtain ⟨he,-,hr⟩ := runOn_eq BufReader.shows_bytes header trivial
  rw [reading] at h
  rw [readAhead]
  generalize header.runOn maxAlloc BufReader.readByte ⟨[],rs⟩ = rn at h he hr ⊢
  obtain ⟨e,reader⟩ := rn
  change e = (header.run maxAlloc rs.flatten).ended at he
  cases e with
  | failed err | crashed reason => cases h
  | ok v =>
    cases hrn : header.run maxAlloc rs.flatten with
    | failed err | crashed reason => rw [hrn] at he; cases he
    | ok v' r =>
      rw [hrn] at he
      cases he
      have hb : reader.bytes = r := hr v r hrn
      exact ⟨v,reader,by rw [← hb]; rfl,h⟩

lemma yieldsFollowing_reading_iff (header : Decoder α) (rs : List Bytes) (c : β → Conn)
    (hn : ∀ v reader x, n v reader = .ok x → (c x).yields = reader.reads.flatten) :
    YieldsFollowing header rs c (reading header ⟨[],rs⟩ n) ↔
      ((∃ x, reading header ⟨[],rs⟩ n = .ok x) → readAhead header rs = []) := by
  constructor
  · rintro h ⟨x,hx⟩
    obtain ⟨v,hv⟩ := h x hx
    obtain ⟨v',reader,hrn,hok⟩ := run_of_reading hx
    rw [hn v' reader x hok,hrn] at hv
    injection hv with _ hr
    simpa using hr
  · intro h x hx
    obtain ⟨v,reader,hrn,hok⟩ := run_of_reading hx
    refine ⟨v,?_⟩
    rw [hrn,h ⟨x,hx⟩,hn v reader x hok,List.nil_append]

/-- In all three, the bytes behind the handshake are those that the connection yields exactly where none of them
was read together with it. -/
theorem yieldsFollowing_iff (upgrade : Decoder Unit) (returnsEmpty : Bool) (lib : HTTPLibrary)
    (readAddrPort : Decoder δ) (reads : List Bytes) :
    (YieldsFollowing upgrade reads id (webSocketDial upgrade returnsEmpty reads) ↔
      ((∃ conn, webSocketDial upgrade returnsEmpty reads = .ok conn) → readAhead upgrade reads = [])) ∧
    (YieldsFollowing lib.readResponse reads id (httpUpgradeDial lib reads) ↔
      ((∃ conn, httpUpgradeDial lib reads = .ok conn) → readAhead lib.readResponse reads = [])) ∧
    (YieldsFollowing (muxHeader readAddrPort) reads Handled.conn (newMuxConnection0 readAddrPort reads) ↔
      ((∃ handled, newMuxConnection0 readAddrPort reads = .ok handled) →
        readAhead (muxHeader readAddrPort) reads = [])) := by
  refine ⟨yieldsFollowing_reading_iff _ _ _ ?_,yieldsFollowing_reading_iff _ _ _ ?_,
    yieldsFollowing_reading_iff _ _ _ ?_⟩
  · intro _ reader conn h
    split_ifs at h
    · cases h
      rfl
    · exact yields_of_cacheBuffered h
  · intro r reader conn h
    split_ifs at h
    exact yields_of_handOn h
  · rintro ⟨c,d⟩ reader handled h
    cases hc : handOn reader with
    | failed err | crashed reason => rw [hc] at h; cases h
    | ok =>
      rw [hc] at h
      dsimp only at h
      split_ifs at h <;> cases h <;> exact yields_of_handOn hc

def readIPv4AddrPort : Decoder (Bytes × Bytes) := do
  let _ ← readByte
  let address ← readFull 4
  let port ← readFull 2
  pure (address,port)

/-- The first bytes of the payload come with the header of the mux server, and are lost. -/
theorem payload_read_ahead_is_lost : newMuxConnection0 readIPv4AddrPort [[1,1,10,0,0,1,0,80,71,69],[84]] =
        .ok ⟨false,.cached (.net [[84]]) ⟨2,[]⟩,([10,0,0,1],[0,80])⟩ ∧
      ¬ YieldsFollowing (muxHeader readIPv4AddrPort) [[1,1,10,0,0,1,0,80,71,69],[84]] Handled.conn
        (newMuxConnection0 readIPv4AddrPort [[1,1,10,0,0,1,0,80,71,69],[84]]) := by
  refine ⟨rfl,?_⟩
  intro h
  obtain ⟨v,hv⟩ := h _ rfl
  cases hv

end SingBox.Handshake
