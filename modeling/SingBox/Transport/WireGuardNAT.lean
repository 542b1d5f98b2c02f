import Mathlib.Tactic

/-! The NAT device of WireGuard: the packets that its rewriter does not take are gathered in a slice that stays
between the calls. -/
namespace SingBox.WireGuard
variable {π ε : Type}

/-- A packet with what `rewriter.WriteBack` returns for it. -/
structure Offered (π ε : Type) where
  packet : π
  handled : Bool
  err : Option ε

/-- A call of `Write`, with what the write of the inner device would return. -/
structure Call (π ε : Type) where
  bufs : List (Offered π ε)
  deviceErr : Option ε

/-- The loop of `Write`, with the error that ends the call in it. -/
def gather : List (Offered π ε) → List π → List π × Option ε
  | [], buffer => (buffer,none)
  | ⟨_,true,some err⟩::_, buffer => (buffer,some err)
  | ⟨_,true,none⟩::bufs, buffer => gather bufs buffer
  | ⟨packet,false,_⟩::bufs, buffer => gather bufs (buffer++[packet])

/-- `natDeviceWrapper.Write`: the slice it leaves, the packets that it writes to the inner device, and its error. -/
def write (call : Call π ε) (buffer : List π) : List π × List π × Option ε :=
  match gather call.bufs buffer with
  | (buffer,some err) => (buffer,[],some err)
  | (buffer,none) =>
    if 0 < buffer.length then
      match call.deviceErr with
      | some err => (buffer,buffer,some err)
      | none => ([],buffer,none)
    else (buffer,[],none)

/-- The packets that each call writes to the inner device. -/
def passed (buffer : List π) : List (Call π ε) → List (List π)
  | [] => []
  | call::calls => (write call buffer).2.1::passed (write call buffer).1 calls

def unconsumed (bufs : List (Offered π ε)) : List π := (bufs.filter (!·.handled)).map (·.packet)

/-- The rewriter took a packet of the call and failed. -/
def Call.Stopped (call : Call π ε) : Prop := ∃ offered ∈ call.bufs, offered.handled ∧ offered.err ≠ none

/-- The write to the inner device, if it is reached with a packet of this call, fails. -/
def Call.Refused (call : Call π ε) : Prop := unconsumed call.bufs ≠ [] ∧ call.deviceErr ≠ none

variable {bf : List (Offered π ε)}

lemma gather_of_stopped (h : ∃ o ∈ bf, o.handled ∧ o.err ≠ none) (b : List π) :
    ∃ e, (gather bf b).2 = some e ∧ (unconsumed bf = [] → (gather bf b).1 = b) := by
  fun_induction gather bf b with
  | case1 => simp at h
  | case2 => exact ⟨_,rfl,fun _ => rfl⟩
  | case3 _ _ _ ih => simpa [unconsumed] using ih (by simpa using h)
  | case4 _ _ _ _ ih =>
    obtain ⟨e,he,-⟩ := ih (by simpa using h)
    exact ⟨e,he,by simp [unconsumed]⟩

lemma gather_of_not_stopped (h : ¬ ∃ o ∈ bf, o.handled ∧ o.err ≠ none) (b : List π) :
    gather bf b = (b++unconsumed bf,none) := by
  fun_induction gather bf b with
  | case1 => simp [unconsumed]
  | case2 => simp at h
  | case3 _ _ _ ih | case4 _ _ _ _ ih => simpa [unconsumed] using ih (by simpa using h)

lemma write_of_stopped {c : Call π ε} (h : c.Stopped) (b : List π) :
    (write c b).2.1 = [] ∧ (unconsumed c.bufs = [] → (write c b).1 = b) := by
  obtain ⟨e,he,hb⟩ := gather_of_stopped h b
  rw [write]
  split
  next heq => exact ⟨rfl,by simpa [heq] using hb⟩
  next heq => simp [heq] at he

lemma write_of_not_stopped {c : Call π ε} (h : ¬ c.Stopped) (b : List π) : (write c b).2.1 = b++unconsumed c.bufs ∧
      ((write c b).1 = [] ↔ b++unconsumed c.bufs = [] ∨ c.deviceErr = none) := by
  rw [write,gather_of_not_stopped h]
  dsimp only
  split_ifs with hl
  · cases c.deviceErr <;> simp_all
  · simp_all

/-- Each call passes just its own packets iff no call with a packet to pass is stopped, and the calls behind a refused
one are all stopped: they write nothing. -/
lemma passed_from_iff (b : List π) (cs : List (Call π ε)) : passed b cs = cs.map (unconsumed ·.bufs) ↔
      (∀ c ∈ cs, c.Stopped → unconsumed c.bufs = []) ∧ (b ≠ [] → ∀ c ∈ cs, c.Stopped) ∧
        cs.Pairwise fun f l => f.Refused → l.Stopped := by
  induction cs generalizing b with
  | nil => simp [passed]
  | cons c cs ih =>
    rw [passed,List.map_cons,List.cons_eq_cons,ih,List.pairwise_cons,List.forall_mem_cons,List.forall_mem_cons]
    by_cases hs : c.Stopped
    · obtain ⟨hn,hk⟩ := write_of_stopped hs b
      by_cases ho : unconsumed c.bufs = []
      · simp [hn,hk ho,ho,hs,Call.Refused]
      · simp [hn,ho,hs,Ne.symm ho]
    · obtain ⟨hw,hl⟩ := write_of_not_stopped hs b
      by_cases hb : b = []
      · subst hb
        simp only [hw,List.nil_append,true_and,ne_eq,hl,not_or,hs,Call.Refused]
        tauto
      · simp [hw,hb,hs]

theorem passed_own_iff (calls : List (Call π ε)) : passed [] calls = calls.map (unconsumed ·.bufs) ↔
      (∀ call ∈ calls, call.Stopped → unconsumed call.bufs = []) ∧
        calls.Pairwise fun first later => first.Refused → later.Stopped := by
  simpa using passed_from_iff [] calls

/-- A packet that the inner device refused is written again by the next call, and one that is followed in its batch by
a failure of the rewriter is written in the next call. -/
theorem refused_packet_written_again :
    passed [] [⟨[⟨1,false,none⟩],some "refused"⟩,⟨[⟨2,false,none⟩],none⟩] = [[1],[1,2]] ∧
      passed [] [⟨[⟨1,false,none⟩,⟨2,true,some "unreachable"⟩],none⟩,⟨[⟨3,false,none⟩],none⟩] = [[],[1,3]] := by
  decide

end SingBox.WireGuard
