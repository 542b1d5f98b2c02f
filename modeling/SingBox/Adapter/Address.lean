import SingBox.Library.BigEndian

/-! Addresses as the router sees them: `netip.Addr`, `netip.Prefix` and the socket address of
a connection end. -/
namespace SingBox.Adapter

/-- `netip.Addr`; `invalid` is the zero value. -/
inductive Addr
  | invalid
  | v4 (bits : BitVec 32)
  | v6 (bits : BitVec 128) (zone : String)
  deriving DecidableEq

namespace Addr

def isValid : Addr → Bool
  | invalid => false
  | _ => true

def is4 : Addr → Bool
  | v4 _ => true
  | _ => false

def is6 : Addr → Bool
  | v6 _ _ => true
  | _ => false

/-- The prefix `::ffff:0:0/96`. -/
def is4In6 : Addr → Bool
  | v6 bits _ => bits >>> 32 == 0xffff#128
  | _ => false

def unmap (a : Addr) : Addr :=
  match a with
  | v6 bits zone => if bits >>> 32 == 0xffff#128 then v4 (bits.setWidth 32) else v6 bits zone
  | _ => a

/-- `AsSlice`: the bytes of an address in network order. -/
def asSlice : Addr → List UInt8
  | invalid => []
  | v4 bits => (List.range 4).map fun i => UInt8.ofBitVec (bits.extractLsb' (8*(3-i)) 8)
  | v6 bits _ => (List.range 16).map fun i => UInt8.ofBitVec (bits.extractLsb' (8*(15-i)) 8)

/-- `Next`: the zero value follows the last address. -/
def next : Addr → Addr
  | invalid => invalid
  | v4 bits => if bits = BitVec.allOnes 32 then invalid else v4 (bits+1)
  | v6 bits zone => if bits = BitVec.allOnes 128 then invalid else v6 (bits+1) zone

end Addr

def addrFromIP (bytes : List UInt8) : Addr :=
  if bytes.length = 4 then .v4 (BitVec.ofNat 32 (BigEndian.read bytes))
  else if bytes.length = 16 then .v6 (BitVec.ofNat 128 (BigEndian.read bytes)) ""
  else .invalid

lemma asSlice_v4 (b : BitVec 32) : (Addr.v4 b).asSlice = BigEndian.put 4 b.toNat := by
  rw [BigEndian.put_eq_map,Addr.asSlice]
  refine List.map_congr_left fun i _ => UInt8.toNat_inj.mp ?_
  simp [Nat.shiftRight_eq_div_pow,pow_mul]

lemma asSlice_v6 (b : BitVec 128) (z : String) : (Addr.v6 b z).asSlice = BigEndian.put 16 b.toNat := by
  rw [BigEndian.put_eq_map,Addr.asSlice]
  refine List.map_congr_left fun i _ => UInt8.toNat_inj.mp ?_
  simp [Nat.shiftRight_eq_div_pow,pow_mul]

lemma addrFromIP_asSlice {a : Addr} (h : ∀ b z, a = .v6 b z → z = "") : addrFromIP a.asSlice = a := by
  cases a with
  | invalid => rfl
  | v4 b =>
    have hlt : b.toNat < 256^4 := b.isLt
    rw [asSlice_v4,addrFromIP,if_pos (BigEndian.length_put _ _),BigEndian.read_put,Nat.mod_eq_of_lt hlt,
      BitVec.ofNat_toNat,BitVec.setWidth_eq]
  | v6 b z =>
    have hlt : b.toNat < 256^16 := b.isLt
    rw [asSlice_v6,addrFromIP,BigEndian.length_put,if_neg (by decide),if_pos rfl,BigEndian.read_put,
      Nat.mod_eq_of_lt hlt,BitVec.ofNat_toNat,BitVec.setWidth_eq,h b z rfl]

/-- `netip.Prefix` with its address and length; the zero value has no valid address. -/
structure Prefix where
  addr : Addr
  bits : ℕ
  deriving DecidableEq

namespace Prefix

def isValid (p : Prefix) : Bool :=
  match p.addr with
  | .invalid => false
  | .v4 _ => decide (p.bits ≤ 32)
  | .v6 _ _ => decide (p.bits ≤ 128)

/-- `Contains`; an address with a zone is in no prefix. -/
def contains (p : Prefix) (address : Addr) : Bool :=
  p.isValid &&
    match p.addr, address with
    | .v4 a, .v4 b => a >>> (32-p.bits) == b >>> (32-p.bits)
    | .v6 a _, .v6 b zone => zone == "" && a >>> (128-p.bits) == b >>> (128-p.bits)
    | _, _ => false

def overlaps (p q : Prefix) : Bool :=
  p.isValid && q.isValid &&
    match p.addr, q.addr with
    | .v4 a, .v4 b => a >>> (32-min p.bits q.bits) == b >>> (32-min p.bits q.bits)
    | .v6 a _, .v6 b _ => a >>> (128-min p.bits q.bits) == b >>> (128-min p.bits q.bits)
    | _, _ => false

end Prefix

/-- `M.Socksaddr`: an address or a domain name, with a port. -/
structure Socksaddr where
  addr : Addr := .invalid
  port : ℕ := 0
  fqdn : String := ""
  deriving DecidableEq

end SingBox.Adapter
