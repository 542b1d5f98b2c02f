import SingBox.Common.TLSFragment

/-! When the first write to a fragmenting connection panics, for any bytes and for any list of public suffixes. -/
namespace SingBox.TF
open Adapter Checked Cut List

section
variable {pb : Bytes → Bytes} {r : ℕ → ℕ} {b : Bytes}

lemma sum_splitOn (sp : UInt8) (s : Bytes) : ((s.splitOn sp).map (·.length+1)).sum = s.length+1 := by
  induction s with
  | nil => rfl
  | cons x xs ih =>
    rw [splitOn_cons_eq_if_modifyHead]
    split_ifs
    · simp [ih]
      omega
    · cases hp : xs.splitOn sp with
      | nil => exact absurd hp (splitOn_ne_nil sp xs)
      | cons =>
        rw [hp] at ih
        simp only [modifyHead_cons,map_cons,sum_cons,length_cons] at ih ⊢
        omega

lemma sum_cutLabels_le (pb : Bytes → Bytes) (sn : Bytes) : ((cutLabels pb sn).map (·.length+1)).sum ≤ sn.length+1 := by
  rw [← sum_splitOn dot,cutLabels]
  split_ifs
  · exact Sublist.sum_le_sum ((take_sublist _ _).map _) (by simp)
  · exact le_rfl

/-- The places are in order, from the start of the labels to their end. -/
lemma splitIndexesOf_meets {ss : List Bytes} (h : [] ∉ ss) (i ci : ℕ) :
    Meets (splitIndexesOf r i ci ss) fun ps => ps.length = ss.length ∧
      ps.Pairwise (· ≤ ·) ∧ ∀ p ∈ ps, ci ≤ p ∧ p < ci+(ss.map (·.length+1)).sum := by
  induction ss generalizing i ci with
  | nil => exact meets_pure (by simp)
  | cons split ss ih =>
    rw [mem_cons,not_or] at h
    have hps : split.length ≠ 0 := fun hz => h.1 (length_eq_zero_iff.mp hz).symm
    have hlt : r i%split.length < split.length := Nat.mod_lt _ (by omega)
    rw [splitIndexesOf,intn,if_neg hps]
    refine (ih h.2 (i+1) _).bind ?_
    rintro ps ⟨hl,hs,hpl⟩
    refine meets_pure ⟨by simp [hl],pairwise_cons.mpr ⟨fun p hp => ?_,hs⟩,?_⟩
    · have := (hpl p hp).1
      omega
    · simp only [mem_cons,map_cons,sum_cons]
      rintro p (rfl | hp)
      · omega
      · have := hpl p hp
        split_ifs at this <;> omega

lemma returns_payloadAt {ps : List ℕ} (hne : ps ≠ []) (hs : ps.Pairwise (· ≤ ·))
    (hpl : ∀ p ∈ ps, 5 ≤ p ∧ p ≤ b.length) (sr : Bool) {i : ℕ} (hi : i ≤ ps.length) :
    Returns (payloadAt sr b ps i) := by
  have hps := length_pos_iff.mpr hne
  have hp : ∀ {k p : ℕ}, (get ps k : Checked GoError ℕ) = .ok p → 5 ≤ p ∧ p ≤ b.length :=
    fun hg => hpl _ (mem_of_getElem? (get_eq_ok.mp hg))
  rw [payloadAt]
  by_cases hz : i = 0
  · rw [if_pos hz]
    refine (returns_get_iff.mpr hps).bind fun high hh => ?_
    have hb := hp hh
    refine (slice_meets (Nat.zero_le high) hb.2).returns_bind fun pl hl => ?_
    split_ifs
    · exact returns_sliceFrom (by omega)
    · exact returns_pure pl
  rw [if_neg hz]
  by_cases hls : i = ps.length
  · rw [if_pos hls]
    refine (returns_get_iff.mpr (by omega)).bind fun low hlw => ?_
    exact returns_sliceFrom (hp hlw).2
  · rw [if_neg hls]
    refine (returns_get_iff.mpr (by omega)).bind fun low hlw => ?_
    refine (returns_get_iff.mpr (by omega)).bind fun high hh => ?_
    obtain ⟨hi₀,rfl⟩ := List.getElem?_eq_some_iff.mp (get_eq_ok.mp hlw)
    obtain ⟨hi₁,rfl⟩ := List.getElem?_eq_some_iff.mp (get_eq_ok.mp hh)
    exact returns_slice_iff.mpr ⟨pairwise_iff_getElem.mp hs _ _ hi₀ hi₁ (by omega),(hp hh).2⟩

lemma returns_round (c : Conn) {ps : List ℕ} {i : ℕ} (h : Returns (payloadAt c.splitRecord b ps i))
    (hb : 3 ≤ b.length) (o : ℕ → Option GoError) (s : Progress × Bytes) : Returns (round c b ps o s i) := by
  rw [round]
  by_cases he : s.1.err ≠ none
  · rw [if_pos he]
    exact returns_pure s
  rw [if_neg he]
  refine h.bind fun p _ => ?_
  by_cases hr : c.splitRecord
  · simp only [if_pos hr]
    exact (returns_slice_iff.mpr ⟨by omega,hb⟩).bind fun header _ => returns_pure _
  · simp only [if_neg hr]
    exact returns_pure _

/-- A name that stands in the packet behind the header of the record is cut without a panic iff no label that is cut is
empty, once the connection is set. -/
lemma returns_fragment_iff {c : Conn} {o : ℕ → Option GoError} (ho : (perform o {} (opening c)).err = none) (r : ℕ → ℕ)
    {n : MyServerName} (hl : Located b n) (hix : 5 < n.index) :
    Returns (fragment c pb r o b n) ↔ [] ∉ cutLabels pb n.serverName := by
  rw [fragment_eq ho]
  constructor
  · intro h he
    rw [splitIndexesOf_of_empty he] at h
    exact not_returns_crash .invalidArgument h
  · intro h
    obtain ⟨f,bc,rfl,hf⟩ := hl
    refine (splitIndexesOf_meets h 0 n.index).returns_bind ?_
    rintro ps ⟨hln,hs,hp⟩
    have hne : ps ≠ [] := by
      rw [← length_pos_iff,hln,cutLabels]
      split_ifs <;> simp [Cut.length_splitOn]
    have hsm := sum_cutLabels_le pb n.serverName
    have hin : ∀ p ∈ ps, 5 ≤ p ∧ p ≤ (f++(n.serverName++bc)).length := by
      intro p hpl
      have := hp p hpl
      simp only [length_append]
      omega
    refine Meets.returns_bind (meets_foldlM (fun s i hi _ => ⟨?_,fun _ _ => trivial⟩) trivial)
      fun s _ => returns_pure _
    refine returns_round c (returns_payloadAt hne hs hin c.splitRecord ?_) ?_ o s
    · exact Nat.lt_succ_iff.mp (mem_range.mp hi)
    · rw [length_append]
      omega

end

lemma err_perform_opening (c : Conn) (o : ℕ → Option GoError) :
    (perform o {} (opening c)).err = if c.splitPacket ∧ c.tcpConn then o 0 else none := by
  rw [opening]
  split_ifs
  · cases h : o 0 <;> simp [perform,act,h]
  · rfl

end SingBox.TF
