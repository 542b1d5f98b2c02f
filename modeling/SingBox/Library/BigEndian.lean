import Mathlib.Tactic

/-! Numbers as big-endian bytes of a fixed width. -/
namespace BigEndian
open List

/-- The lowest `width` bytes of a number, the highest first. -/
def put : ℕ → ℕ → List UInt8
  | 0, _ => []
  | width+1, n => put width (n/256)++[UInt8.ofNat (n%256)]

def read (bytes : List UInt8) : ℕ := bytes.foldl (fun n byte => n*256+byte.toNat) 0

variable (w n : ℕ) (b : UInt8) (bs : List UInt8)

@[simp] lemma length_put : (put w n).length = w := by
  induction w generalizing n with
  | zero => rfl
  | succ w ih => simp [put,ih]

lemma read_concat (b : UInt8) : read (bs++[b]) = read bs*256+b.toNat := by
  simp [read]

lemma read_cons : read (b::bs) = b.toNat*256^bs.length+read bs := by
  induction bs using reverseRecOn with
  | nil => simp [read]
  | append_singleton bs l ih =>
    rw [← cons_append,read_concat,read_concat,ih,length_append,length_singleton,pow_succ]
    ring

@[simp] lemma read_put : read (put w n) = n%256^w := by
  induction w generalizing n with
  | zero => simp [put,read,Nat.mod_one]
  | succ w ih =>
    have hb : (UInt8.ofNat (n%256)).toNat = n%256 := by simp
    rw [put,read_concat,ih,hb,pow_succ',Nat.mod_mul]
    omega

lemma put_succ : put (w+1) n = UInt8.ofNat (n/256^w%256)::put w n := by
  induction w generalizing n with
  | zero => simp [put]
  | succ w ih =>
    rw [put,ih,cons_append,Nat.div_div_eq_div_mul,← pow_succ']
    rfl

lemma put_injective {w m n : ℕ} (hm : m < 256^w) (hn : n < 256^w) (h : put w m = put w n) : m = n := by
  have hr := congrArg read h
  rwa [read_put,read_put,Nat.mod_eq_of_lt hm,Nat.mod_eq_of_lt hn] at hr

lemma put_eq_map : put w n = (List.range w).map fun i => UInt8.ofNat (n/256^(w-1-i)%256) := by
  induction w generalizing n with
  | zero => rfl
  | succ w ih =>
    rw [put,ih,range_succ,map_append,map_singleton]
    congr 1
    · refine map_congr_left fun i hi => ?_
      have hw : w+1-1-i = w-1-i+1 := by
        have hlt := mem_range.mp hi
        omega
      rw [hw,pow_succ',Nat.div_div_eq_div_mul]
    · simp

end BigEndian
