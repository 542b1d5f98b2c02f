import SingBox.Library.BigEndian
import SingBox.Library.Uvarint

/-! What the binary formats share: bytes, the errors of reading them, and the limits of the runtime. -/
namespace SingBox

/-- A Go string or byte slice. -/
abbrev Bytes := List UInt8

def ascii (text : String) : Bytes := text.toList.map fun c => UInt8.ofNat c.toNat

def maxAlloc : ℕ := 2^48

lemma lt_of_le_maxAlloc {n : ℕ} (h : n ≤ maxAlloc) : n < 2^63 := h.trans_lt (by decide)

/-- An error of a decoder; `cause` is `E.Cause`. -/
inductive ReadError
  | eof
  | unexpectedEOF
  | overflow
  | new (text : Bytes)
  | cause (err : ReadError) (message : String)
  deriving DecidableEq

instance : ReadErrors ReadError := ⟨.eof,.unexpectedEOF,.overflow⟩

/-- A program that reads with these errors. -/
abbrev Decoder := ByteProgram ReadError

def toInt (n : ℕ) : ℤ := if n < 2^63 then n else n-2^64

lemma toInt_of_le {n : ℕ} (h : n ≤ maxAlloc) : toInt n = n := if_pos (lt_of_le_maxAlloc h)

/-- `binary.Read` of a number of `w` bits. -/
def readInt (w : ℕ) : Decoder (BitVec w) :=
  (fun bytes => BitVec.ofNat w (BigEndian.read bytes)) <$> ByteProgram.readFull (w/8)

lemma parses_readInt {w : ℕ} (hw : 256^(w/8) = 2^w) (n : BitVec w) :
    ByteProgram.Parses maxAlloc (readInt w) (BigEndian.put (w/8) n.toNat) n := by
  have hn : BitVec.ofNat w (BigEndian.read (BigEndian.put (w/8) n.toNat)) = n := by
    rw [BigEndian.read_put,hw,Nat.mod_eq_of_lt n.isLt,BitVec.ofNat_toNat,BitVec.setWidth_eq]
  have hp := ByteProgram.Parses.readFull (ε := ReadError) (l := maxAlloc) (BigEndian.put (w/8) n.toNat)
  rw [BigEndian.length_put] at hp
  have hm := hp.map fun bs => BitVec.ofNat w (BigEndian.read bs)
  rwa [hn] at hm

end SingBox
