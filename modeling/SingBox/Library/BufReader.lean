import SingBox.Library.ByteProgram

/-! A buffered reader over a connection whose reads return what they happen to return: whatever the cut, it
shows the bytes of the connection one after another, and some of them stand in the buffer before they are used. -/

/-- The bytes that were read and not used, and what the next reads of the connection return. -/
structure BufReader where
  buffered : List UInt8
  reads : List (List UInt8)
  deriving DecidableEq

namespace BufReader

def fill : List (List UInt8) → Option UInt8 × BufReader
  | [] => (none,⟨[],[]⟩)
  | []::reads => fill reads
  | (b::bytes)::reads => (some b,⟨bytes,reads⟩)

def readByte : BufReader → Option UInt8 × BufReader
  | ⟨[],reads⟩ => fill reads
  | ⟨b::bytes,reads⟩ => (some b,⟨bytes,reads⟩)

def bytes (r : BufReader) : List UInt8 := r.buffered++r.reads.flatten

lemma fill_spec (rs : List (List UInt8)) : (fill rs).1 = rs.flatten.head? ∧ (fill rs).2.bytes = rs.flatten.tail := by
  induction rs with
  | nil => exact ⟨rfl,rfl⟩
  | cons f rs ih =>
    cases f with
    | nil => exact ih
    | cons => exact ⟨rfl,rfl⟩

lemma shows_bytes : ByteProgram.Shows readByte bytes fun _ => True := by
  have hs : ∀ r : BufReader, (readByte r).1 = r.bytes.head? ∧ (readByte r).2.bytes = r.bytes.tail := by
    intro r
    obtain ⟨b,rs⟩ := r
    cases b with
    | nil => exact fill_spec rs
    | cons => exact ⟨rfl,rfl⟩
  exact ⟨fun _ _ => trivial,fun r _ => (hs r).1,fun r _ => (hs r).2⟩

end BufReader
