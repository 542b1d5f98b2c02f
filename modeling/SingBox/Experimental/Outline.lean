import SingBox.Common.Binary

/-! The SOCKS5 handshake of the outline bridge (`libbox`), and the grammar of what a client sends for it. -/
namespace SingBox.Outline
open List ByteProgram

/-- The address of a request, of the length that goes with its type. -/
inductive Address
  | ipv4 (bytes : Bytes) (h : bytes.length = 4)
  | domain (name : Bytes) (h : name.length < 256)
  | ipv6 (bytes : Bytes) (h : bytes.length = 16)

def Address.bytes : Address → Bytes
  | ipv4 bytes _ => 1::bytes
  | domain name _ => 3::UInt8.ofNat name.length::name
  | ipv6 bytes _ => 4::bytes

/-- A greeting and a request, of any version and command. -/
structure Opening where
  methods : Bytes
  version : UInt8
  command : UInt8
  reserved : UInt8
  address : Address
  port : Bytes
  length_methods : methods.length < 256
  length_port : port.length = 2

def Opening.bytes (o : Opening) : Bytes :=
  5::UInt8.ofNat o.methods.length::(o.methods++(o.version::o.command::o.reserved::(o.address.bytes++o.port)))

/-- A client that offers no authentication and asks for a connection. -/
def Opening.Proper (o : Opening) : Prop := 0 ∈ o.methods ∧ o.version = 5 ∧ o.command = 1

variable (ipString : Bytes → Bytes) (joinHostPort : Bytes → ℕ → Bytes)

def Address.host : Address → Bytes
  | ipv4 bytes _ => ipString bytes
  | domain name _ => name
  | ipv6 bytes _ => ipString bytes

def Opening.destination (o : Opening) : Bytes := joinHostPort (o.address.host ipString) (BigEndian.read o.port)

def readHost (atyp : UInt8) : Decoder Bytes :=
  if atyp = 1 then ipString <$> readFull 4
  else if atyp = 3 then do
    let buf ← readFull 1
    readFull (buf.getD 0 0).toNat
  else if atyp = 4 then ipString <$> readFull 16
  else .fail (.new (ascii "unknown ATYP"))

/-- `socks5Handshake`, with whether its answer to the greeting could be written. -/
def socks5Handshake (answered : Bool) : Decoder Bytes := do
  let buf ← readFull 2
  if buf.getD 0 0 ≠ 5 then .fail (.new (ascii "not socks5"))
  else do
    let _ ← readFull (buf.getD 1 0).toNat
    if !answered then .fail (.new (ascii "write"))
    else do
      let buf ← readFull 4
      let host ← readHost ipString (buf.getD 3 0)
      let port ← readFull 2
      pure (joinHostPort host (BigEndian.read port))

lemma readHost_eq_ok {ap : UInt8} {bs r host : Bytes} : (readHost ipString ap).run maxAlloc bs = .ok host r ↔
      ∃ a : Address, ap::bs = a.bytes++r ∧ host = a.host ipString := by
  unfold readHost
  constructor
  · intro h
    split_ifs at h with h4 hd h6
    · obtain ⟨d,hr,rfl⟩ := run_map_eq_ok.mp h
      obtain ⟨rfl,hl⟩ := run_readFull_eq_ok.mp hr
      exact ⟨.ipv4 d hl,by simp [Address.bytes,h4],rfl⟩
    · obtain ⟨b,m,hr,h⟩ := run_bind_eq_ok.mp h
      obtain ⟨rfl,hl⟩ := run_readFull_eq_ok.mp hr
      obtain ⟨n,rfl⟩ := length_eq_one_iff.mp hl
      obtain ⟨rfl,hn⟩ := run_readFull_eq_ok.mp h
      exact ⟨.domain host (by rw [hn]; exact n.toNat_lt),by simp [Address.bytes,hd,hn],rfl⟩
    · obtain ⟨d,hr,rfl⟩ := run_map_eq_ok.mp h
      obtain ⟨rfl,hl⟩ := run_readFull_eq_ok.mp hr
      exact ⟨.ipv6 d hl,by simp [Address.bytes,h6],rfl⟩
    · cases h
  · rintro ⟨a,heq,rfl⟩
    cases a with
    | ipv4 d hl =>
      obtain ⟨rfl,rfl⟩ := cons.inj heq
      exact run_map_eq_ok.mpr ⟨d,run_readFull_eq_ok.mpr ⟨rfl,hl⟩,rfl⟩
    | ipv6 d hl =>
      obtain ⟨rfl,rfl⟩ := cons.inj heq
      exact run_map_eq_ok.mpr ⟨d,run_readFull_eq_ok.mpr ⟨rfl,hl⟩,rfl⟩
    | domain nm hl =>
      obtain ⟨rfl,rfl⟩ := cons.inj heq
      refine run_bind_eq_ok.mpr ⟨[UInt8.ofNat nm.length],nm++r,run_readFull_eq_ok.mpr ⟨rfl,rfl⟩,?_⟩
      exact run_readFull_eq_ok.mpr ⟨rfl,by simp [Address.host,Nat.mod_eq_of_lt hl]⟩

lemma socks5Handshake_eq_ok {a : Bool} {s d r : Bytes} :
    (socks5Handshake ipString joinHostPort a).run maxAlloc s = .ok d r ↔
      a = true ∧ ∃ o : Opening, s = o.bytes++r ∧ d = o.destination ipString joinHostPort := by
  unfold socks5Handshake
  constructor
  · intro h
    rw [run_bind_eq_ok] at h
    obtain ⟨b,m,hr,h⟩ := h
    obtain ⟨rfl,hl⟩ := run_readFull_eq_ok.mp hr
    obtain ⟨v,n,rfl⟩ := length_eq_two.mp hl
    by_cases hv : v = 5
    · subst hv
      rw [if_neg (by simp),run_bind_eq_ok] at h
      obtain ⟨ms,m,hr,h⟩ := h
      obtain ⟨rfl,hm⟩ := run_readFull_eq_ok.mp hr
      cases a with
      | false => cases h
      | true =>
        rw [if_neg (by simp),run_bind_eq_ok] at h
        obtain ⟨b,m,hr,h⟩ := h
        obtain ⟨rfl,hl⟩ := run_readFull_eq_ok.mp hr
        rw [run_bind_eq_ok] at h
        obtain ⟨host,m,hh,h⟩ := h
        rw [run_bind_eq_ok] at h
        obtain ⟨p,m,hr,h⟩ := h
        obtain ⟨rfl,hp⟩ := run_readFull_eq_ok.mp hr
        cases h
        match b, hl with
        | [v,command,reserved,ap], _ =>
          obtain ⟨ad,heq,rfl⟩ := (readHost_eq_ok ipString).mp hh
          refine ⟨rfl,⟨ms,v,command,reserved,ad,p,hm ▸ n.toNat_lt,hp⟩,?_,rfl⟩
          have hn : UInt8.ofNat ms.length = n := by simp [hm]
          simp [Opening.bytes,hn,← heq]
    · rw [if_pos (by simpa using hv)] at h
      cases h
  · rintro ⟨rfl,o,rfl,rfl⟩
    obtain ⟨ap,t,hb⟩ : ∃ ap t, o.address.bytes = ap::t := by cases o.address <;> exact ⟨_,_,rfl⟩
    refine run_bind_eq_ok.mpr ⟨[5,UInt8.ofNat o.methods.length],_,run_readFull_eq_ok.mpr ⟨rfl,rfl⟩,?_⟩
    refine run_bind_eq_ok.mpr ⟨o.methods,_,run_readFull_eq_ok.mpr ⟨append_assoc _ _ _,?_⟩,?_⟩
    · simp [Nat.mod_eq_of_lt o.length_methods]
    refine run_bind_eq_ok.mpr ⟨[o.version,o.command,o.reserved,ap],t++(o.port++r),run_readFull_eq_ok.mpr ⟨?_,rfl⟩,?_⟩
    · simp [hb]
    refine run_bind_eq_ok.mpr ⟨o.address.host ipString,o.port++r,(readHost_eq_ok ipString).mpr ⟨o.address,?_,rfl⟩,?_⟩
    · simp [hb]
    exact run_bind_eq_ok.mpr ⟨o.port,r,run_readFull_eq_ok.mpr ⟨rfl,o.length_port⟩,rfl⟩

/-- The handshake accepts exactly the openings of a client that offers no authentication and asks for a connection, and
consumes just these, unless the stream begins with another opening or the answer is lost. -/
theorem handshake_exact_iff (answered : Bool) (stream : Bytes) :
    (∀ destination rest, (socks5Handshake ipString joinHostPort answered).run maxAlloc stream = .ok destination rest ↔
      ∃ o : Opening, o.Proper ∧ stream = o.bytes++rest ∧ destination = o.destination ipString joinHostPort) ↔
    ∀ (o : Opening) rest, stream = o.bytes++rest → (o.Proper ↔ answered = true) := by
  simp only [socks5Handshake_eq_ok]
  constructor
  · intro h o rest hs
    constructor
    · intro hp
      exact ((h _ rest).mpr ⟨o,hp,hs,rfl⟩).1
    · intro ha
      obtain ⟨o',hp,hs',-⟩ := (h _ rest).mp ⟨ha,o,hs,rfl⟩
      have heq := append_cancel_right (hs.symm.trans hs')
      simp only [Opening.bytes,cons.injEq,true_and] at heq
      have hn : o.methods.length = o'.methods.length := by
        have := congrArg UInt8.toNat heq.1
        simpa [Nat.mod_eq_of_lt o.length_methods,Nat.mod_eq_of_lt o'.length_methods] using this
      obtain ⟨hm,hr⟩ := append_inj heq.2 hn
      simp only [cons.injEq] at hr
      rwa [Opening.Proper,hm,hr.1,hr.2.1]
  · intro h destination rest
    constructor
    · rintro ⟨ha,o,hs,rfl⟩
      exact ⟨o,(h o rest hs).mpr ha,hs,rfl⟩
    · rintro ⟨o,hp,hs,rfl⟩
      exact ⟨(h o rest hs).mp hp,o,hs,rfl⟩

/-- A client that offers only a password, and asks to bind. -/
theorem bind_request_accepted :
    let ipString (ip : Bytes) : Bytes := ascii (".".intercalate (ip.map fun byte => toString byte.toNat))
    let joinHostPort (host : Bytes) (port : ℕ) : Bytes := host++ascii (":"++toString port)
    (socks5Handshake ipString joinHostPort true).run maxAlloc [5,1,2,5,2,0,1,127,0,0,1,0,80] =
      .ok (ascii "127.0.0.1:80") [] ∧
    ¬ ∃ o : Opening, o.Proper ∧ [5,1,2,5,2,0,1,127,0,0,1,0,80] = o.bytes++[] := by
  refine ⟨by decide +kernel,?_⟩
  rintro ⟨o,⟨hm,-⟩,hs⟩
  simp only [Opening.bytes,append_nil,cons.injEq,true_and] at hs
  have hl : 1 = o.methods.length := by simpa [Nat.mod_eq_of_lt o.length_methods] using congrArg UInt8.toNat hs.1
  obtain ⟨m,ho⟩ := length_eq_one_iff.mp hl.symm
  rw [ho] at hm hs
  obtain rfl : 2 = m := (cons.inj hs.2).1
  exact absurd hm (by decide)

end SingBox.Outline
