import SingBox.Common.TLSFragment

/-! The loop over the extensions of a hello (`indexTLSServerNameFromExtensions`), iteration by iteration. -/
namespace SingBox.TF
open List Checked

/-- The loop ends, its iterations make the slice shorter, and the index counts the bytes that are consumed. -/
def Right (exs : Bytes) : Prop :=
  (∃ rounds, extensionLoop rounds 2 exs ≠ crash .endless) ∧
  ∀ s next, Reached exs s → iteration s = some next → next.2.length < s.2.length ∧ next.1+next.2.length = 2+exs.length

variable {s next : ℕ × Bytes} {exs : Bytes}

lemma extensionLoop_of_some (h : iteration s = some next) (r : ℕ) :
    extensionLoop (r+1) s.1 s.2 = extensionLoop r next.1 next.2 := by
  obtain ⟨i,_ | ⟨a,_ | ⟨b,_ | ⟨c,_ | ⟨d,rs⟩⟩⟩⟩⟩ := s
  · cases h
  · cases h
  · cases h
  · cases h
  · simp only [iteration] at h
    split_ifs at h with hc
    cases h
    have hl : 4+(c.toNat*256+d.toNat) ≤ (a::b::c::d::rs).length := by
      simp only [length_cons]
      omega
    have h0 : (JA3.uint16At (a::b::c::d::rs) 0 : Checked Unit ℕ) = .ok (a.toNat*256+b.toNat) := rfl
    have h2 : (JA3.uint16At (a::b::c::d::rs) 2 : Checked Unit ℕ) = .ok (c.toNat*256+d.toNat) := rfl
    rw [extensionLoop,if_neg (by simp),reject_bind (by simp),h0,ok_bind,h2,ok_bind,reject_bind (not_lt.mpr hl),
      slice_eq_ok.mpr ⟨⟨Nat.le_add_right _ _,hl⟩,rfl⟩,ok_bind,if_neg hc.1,
      sliceFrom_eq_ok.mpr ⟨(Nat.mod_le _ _).trans hl,rfl⟩]
    rfl

section
variable (h : ExtensionsFit exs)
include h

lemma reached_next (hs : Reached exs s) (hn : iteration s = some next) :
    next.2.length < s.2.length ∧ next.1+next.2.length = s.1+s.2.length := by
  have hlt := h s next hs hn
  obtain ⟨hl,rfl⟩ := iteration_cases hn
  rw [Nat.mod_eq_of_lt hlt,length_drop]
  omega

lemma index_reached (hs : Reached exs s) : s.1+s.2.length = 2+exs.length := by
  induction hs with
  | refl => rfl
  | tail hs hn ih => exact (reached_next h hs hn).2.trans ih

end

/-- The loop over the extensions is right exactly where it comes to no extension that fills 16 bits with its header. -/
theorem extensions_right_iff (exs : Bytes) :
    Right exs ↔ ∀ s next, Reached exs s → iteration s = some next → 4+exLen s.2 < 2^16 := by
  constructor
  · rintro ⟨-,h⟩ s next hs hn
    have hi : s.1+s.2.length = 2+exs.length := by
      cases hs with
      | refl => rfl
      | tail hs hn => exact (h _ _ hs hn).2
    have hi' := (h s next hs hn).2
    obtain ⟨hl,rfl⟩ := iteration_cases hn
    simp only [length_drop] at hi'
    omega
  · intro h
    refine ⟨⟨exs.length,(extensionLoop_meets h .refl le_rfl [0,0] rfl).1 .endless⟩,fun s next hs hn => ?_⟩
    exact ⟨(reached_next h hs hn).1,(index_reached h (hs.tail hn))⟩

/-- An extension of 65532 bytes, of another type than the name of the server. -/
theorem long_extension_repeats : ∃ exs, iteration (2,exs) = some (65538,exs) ∧
    (∀ rounds, extensionLoop rounds 2 exs = crash .endless) ∧
    indexTLSServerNameFromExtensions (0::0::exs) = crash .endless := by
  obtain ⟨r,hr⟩ : ∃ r : Bytes, r.length = 65532 := ⟨replicate 65532 0,length_replicate⟩
  have hi : ∀ i, iteration (i,0::1::0xff::0xfc::r) = some (i+65536,0::1::0xff::0xfc::r) := by
    intro i
    rw [iteration,if_pos ⟨by decide,by rw [hr]; decide⟩]
    rfl
  have he : ∀ rounds i, extensionLoop rounds i (0::1::0xff::0xfc::r) = crash .endless := by
    intro rounds
    induction rounds with
    | zero => exact fun _ => rfl
    | succ rounds ih =>
      intro i
      rw [extensionLoop_of_some (hi i)]
      exact ih (i+65536)
  have hx : ∀ exs, indexTLSServerNameFromExtensions (0::0::exs) = extensionLoop exs.length 2 exs := by
    intro exs
    have h0 : (JA3.uint16At (0::0::exs) 0 : Checked Unit ℕ) = .ok 0 := rfl
    have hd : (sliceFrom (0::0::exs) 2 : Checked Unit Bytes) = .ok exs := sliceFrom_eq_ok.mpr ⟨by simp,rfl⟩
    simp [indexTLSServerNameFromExtensions,h0,hd,reject,bind,Except.bind,pure,Except.pure]
  exact ⟨0::1::0xff::0xfc::r,hi 2,fun rounds => he rounds 2,(hx _).trans (he _ 2)⟩

end SingBox.TF
