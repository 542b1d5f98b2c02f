import SingBox.Library.Run
import SingBox.Sniff.QUIC

/-! The loops of the QUIC sniffer: the one over the frames of a payload always ends, and the one that puts the
CRYPTO fragments of a flow together ends exactly where it comes to no empty fragment. -/
namespace SingBox.Sniff
open Adapter Checked List

section

lemma readAck_meets (rt : Bytes) : Meets (readAck rt) fun l => l.length ≤ rt.length := by
  refine (skipUvarints_meets 2 rt).bind fun rest₁ hf => ?_
  refine (readUvarint_meets rest₁).bind fun ar hc => ?_
  refine (skipUvarints_meets 1 ar.2).bind fun rest₃ hfr => ?_
  refine (skipUvarints_meets (2*ar.1) rest₃).mono fun l hr => ?_
  calc l.length
    _ ≤ rest₃.length := hr
    _ ≤ ar.2.length := hfr
    _ ≤ rest₁.length := hc.le
    _ ≤ rt.length := hf

lemma readFrame_meets (ft : UInt8) (rt : Bytes) : Meets (readFrame ft rt) fun f => f.2.length ≤ rt.length := by
  unfold readFrame
  split
  · exact meets_pure le_rfl
  · exact meets_pure le_rfl
  · exact (readAck_meets rt).bind fun l ha => meets_pure ha
  · refine (readAck_meets rt).bind fun rest₁ ha => ?_
    exact (skipUvarints_meets 3 rest₁).bind fun l hc => meets_pure (hc.trans ha)
  · refine (readUvarint_meets rt).bind fun o ho => ?_
    exact (readUvarint_meets o.2).bind fun length hl => meets_pure (hl.le.trans ho.le)
  · refine (skipUvarints_meets 2 rt).bind fun rest₁ hf => ?_
    refine (readUvarint_meets rest₁).bind fun length hl => meets_pure ?_
    have hr : (length.2.drop length.1).length ≤ length.2.length := by
      rw [length_drop]
      omega
    exact hr.trans (hl.le.trans hf)
  · exact meets_fail errInvalid

/-- The CRYPTO frames that the frame loop comes to: the place of the data in the payload, and its length. -/
def cryptoFrames (size : ℕ) : ℕ → Bytes → List (ℕ × ℕ)
  | 0, _ => []
  | _+1, [] => []
  | rounds+1, frameType :: rest =>
    match readFrame frameType rest with
    | .error _ => []
    | .ok (none,rest) => cryptoFrames size rounds rest
    | .ok (some (_,length),rest) => (size-rest.length,length)::cryptoFrames size rounds (rest.drop length)

variable {d s r : Bytes} {rs : ℕ} (hrs : r.length ≤ rs) (fr : Frames)
include hrs fr

/-- The frame loop stays within the buffer exactly where the CRYPTO frames that it comes to end there; a round
takes at least the byte of the type. -/
lemma returns_frameLoop_iff : Returns (frameLoop d s rs r fr) ↔
      ∀ c ∈ cryptoFrames d.length rs r, c.1+c.2 ≤ d.length+s.length := by
  induction rs generalizing r fr with
  | zero =>
    obtain rfl := length_eq_zero_iff.mp (Nat.le_zero.mp hrs)
    exact iff_of_true (returns_pure fr) (forall_mem_nil _)
  | succ rs ih =>
    cases r with
    | nil => exact iff_of_true (returns_pure fr) (forall_mem_nil _)
    | cons ft r =>
      obtain ⟨hr,hl⟩ := readFrame_meets ft r
      rw [frameLoop,cryptoFrames]
      cases hf : readFrame ft r with
      | error =>
        refine iff_of_true (Returns.bind (hf ▸ hr) fun f h => ?_) (forall_mem_nil _)
        cases h
      | ok f =>
        have hlf := hl f hf
        rw [returns_bind_of_eq rfl]
        obtain ⟨c,l⟩ := f
        rw [length_cons] at hrs
        simp only at hlf
        cases c with
        | none => exact ih (show l.length ≤ rs by omega) _
        | some c =>
          obtain ⟨o,length⟩ := c
          rw [forall_mem_cons]
          change Returns (slice (d++s) (d.length-l.length) (d.length-l.length+length) >>= _) ↔ _
          rw [returns_bind_iff,returns_slice_iff,length_append,and_iff_right (Nat.le_add_right _ _)]
          have hn : (l.drop length).length ≤ rs := by
            rw [length_drop]
            omega
          refine and_congr_right fun hft => ⟨fun h => ?_,fun h p _ => (ih hn _).mpr h⟩
          exact (ih hn _).mp (h _ (slice_eq_ok.mpr ⟨⟨Nat.le_add_right _ _,by rwa [length_append]⟩,rfl⟩))

lemma frameLoop_ne_endless : frameLoop d s rs r fr ≠ crash .endless := by
  induction rs generalizing r fr with
  | zero =>
    obtain rfl := length_eq_zero_iff.mp (Nat.le_zero.mp hrs)
    exact nofun
  | succ rs ih =>
    cases r with
    | nil => exact nofun
    | cons ft r =>
      obtain ⟨hr,hl⟩ := readFrame_meets ft r
      rw [length_cons] at hrs
      intro he
      obtain hf | ⟨⟨c,l⟩,hf,he⟩ := bind_eq_crash.mp he
      · exact hr .endless hf
      · have hlf : l.length ≤ r.length := hl _ hf
        cases c with
        | none => exact ih (show l.length ≤ rs by omega) _ he
        | some c =>
          obtain hs | ⟨p,-,he⟩ := bind_eq_crash.mp he
          · exact slice_ne_endless _ _ _ hs
          · have hn : (l.drop c.2).length ≤ rs := by
              rw [length_drop]
              omega
            exact ih hn _ he

end

/-- A payload of a flow: what else the metadata holds, the decrypted bytes and the rest of their buffer. -/
structure Payload where
  metadata : InboundContext := {}
  decrypted : Bytes
  spare : Bytes := []

def nextContext (context : Option (List QCryptoFragment)) (payload : Payload) : Option (List QCryptoFragment) :=
  (sniffPayload { payload.metadata with sniffContext := context } payload.decrypted payload.spare).1.sniffContext

/-- Both loops end for a payload, and the second one in as many rounds as there are fragments. -/
def LoopsEnd (context : Option (List QCryptoFragment)) (payload : Payload) : Prop :=
  readFrames payload.decrypted payload.spare ≠ crash .endless ∧
    ∀ frames, readFrames payload.decrypted payload.spare = .ok frames → ∃ rounds found,
      Walk.walk QCryptoFragment.offset fragmentEnd (heldFragments context frames) rounds 0 = some found ∧
        found.length ≤ (heldFragments context frames).length

/-- No empty fragment is the first one held for an offset that the reassembly comes to. -/
def MovesOn (context : Option (List QCryptoFragment)) (payload : Payload) : Prop :=
  ∀ frames, readFrames payload.decrypted payload.spare = .ok frames →
    Walk.Advances QCryptoFragment.offset fragmentEnd (heldFragments context frames) 0

lemma offset_le_fragmentEnd (f : QCryptoFragment) : f.offset ≤ fragmentEnd f := Nat.le_add_right _ _

lemma loopsEnd_iff (c : Option (List QCryptoFragment)) (p : Payload) : LoopsEnd c p ↔ MovesOn c p := by
  constructor
  · rintro ⟨-,h⟩ fm hf
    obtain ⟨rn,fn,hfn,-⟩ := h fm hf
    exact Walk.advances_of_walk (fun f _ => offset_le_fragmentEnd f) hfn
  · intro h
    refine ⟨frameLoop_ne_endless le_rfl {},fun fm hf => ?_⟩
    obtain ⟨fn,hfn,hl⟩ := Walk.exists_walk_of_advances (h fm hf) countP_le_length
    exact ⟨_,fn,hfn,hl.trans countP_le_length⟩

/-- In every flow both loops end for every payload, within the fragments held, exactly where no reassembly comes to
an empty fragment first. -/
theorem loops_end_iff_moves_on (payloads : List Payload) :
    Run.Along nextContext LoopsEnd none payloads ↔ Run.Along nextContext MovesOn none payloads :=
  Run.along_congr_of_invariant (I := fun _ => True) (fun _ _ _ _ => trivial)
    (fun context payload _ => loopsEnd_iff context payload) payloads trivial

/-- One empty CRYPTO frame at the start of the stream is found again and again. -/
theorem empty_crypto_frame_is_found_forever : ¬ Run.Along nextContext LoopsEnd none [{ decrypted := [0x06,0x00,0x00] }] := by
  rintro ⟨he,-⟩
  have hf : readFrames [0x06,0x00,0x00] [] =
      .ok { frameTypeList := [0x06], fragments := [{ offset := 0, length := 0, payload := [] }] } := by
    decide
  have hm := (loopsEnd_iff none _).mp he _ hf
  exact absurd (hm 0 { offset := 0, length := 0, payload := [] } (.refl 0) rfl) (lt_irrefl 0)

end SingBox.Sniff
