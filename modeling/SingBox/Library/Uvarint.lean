import SingBox.Library.ByteProgram

/-! Unsigned numbers of 64 bits in groups of seven, the lowest first, as `encoding/binary` writes and reads
them. -/
namespace Uvarint

/-- At most `groups` groups of a number. -/
def putGroups : ℕ → ℕ → List UInt8
  | 0, _ => []
  | groups+1, n => if n < 128 then [UInt8.ofNat n] else UInt8.ofNat (n%128+128) :: putGroups groups (n/128)

/-- `AppendUvarint`. -/
def put (n : ℕ) : List UInt8 := putGroups 10 n

open ByteProgram
variable {ε : Type} [ReadErrors ε]

/-- The loop of `ReadUvarint` with so many bytes to go: the sum of the groups below `shift` is `x`. -/
def readGroups : ℕ → ℕ → ℕ → ByteProgram ε ℕ
  | 0, _, _ => .fail ReadErrors.overflow
  | left+1, shift, x =>
    .byte (if shift = 0 then ReadErrors.eof else ReadErrors.unexpectedEOF) fun b =>
      if b.toNat < 128 then
        if left = 0 ∧ 1 < b.toNat then .fail ReadErrors.overflow else .done (x+b.toNat*2^shift)
      else readGroups left (shift+7) (x+(b.toNat-128)*2^shift)

/-- `ReadUvarint`. -/
def read : ByteProgram ε ℕ := readGroups 10 0 0

variable {l : ℕ}

lemma parses_putGroups (gs : ℕ) {m : ℕ} (hm : m < 2^(7*gs+1)) (s x : ℕ) :
    Parses l (readGroups (gs+1) s x : ByteProgram ε ℕ) (putGroups (gs+1) m) (x+m*2^s) := by
  induction gs generalizing m s x with
  | zero =>
    have hs : m < 2 := by simpa using hm
    have hb : (UInt8.ofNat m).toNat = m := by
      rw [UInt8.toNat_ofNat']
      omega
    rw [putGroups,if_pos (by omega)]
    refine .byte _ ?_
    rw [hb,if_pos (by omega),if_neg (by omega)]
    exact .done _
  | succ gs ih =>
    rw [putGroups]
    split_ifs with hl
    · have hb : (UInt8.ofNat m).toNat = m := by
        rw [UInt8.toNat_ofNat']
        omega
      refine .byte _ ?_
      rw [hb,if_pos hl,if_neg (by omega)]
      exact .done _
    · have hb : (UInt8.ofNat (m%128+128)).toNat = m%128+128 := by
        rw [UInt8.toNat_ofNat']
        omega
      have hr : m/128 < 2^(7*gs+1) := by
        rw [Nat.div_lt_iff_lt_mul (by decide)]
        calc m < 2^(7*(gs+1)+1) := hm
          _ = 2^(7*gs+1)*128 := by ring
      -- the groups below and the groups to come add up to the number
      have hsm : x+(m%128)*2^s+m/128*2^(s+7) = x+m*2^s := by
        conv_rhs => rw [← Nat.mod_add_div m 128]
        ring
      refine .byte _ ?_
      rw [hb,if_neg (by omega),Nat.add_sub_cancel,← hsm]
      exact ih hr (s+7) _

lemma parses_put {n : ℕ} (hn : n < 2^64) : Parses l (read : ByteProgram ε ℕ) (put n) n := by
  have h := parses_putGroups (ε := ε) (l := l) 9 hn 0 0
  rwa [zero_add,pow_zero,mul_one] at h

end Uvarint
