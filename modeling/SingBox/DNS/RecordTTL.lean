import SingBox.DNS.OwnOptions

/-! The lifetime that `applyResponseOptions` gives to a response, beside the lifetimes of its records. In the scan over
the sections zero stands for a lifetime that is not set. -/
namespace SingBox.DNS
open Adapter List

/-- The records that have a lifetime. -/
def timed (records : List RR) : List RR := records.filter fun record => !isOPT record

def soaMinima (response : Msg) : List ℕ := (timed response.ns).filterMap fun record =>
  match record.data with
  | .soa soaMinimum => some soaMinimum
  | _ => none

/-- No record gets a larger lifetime than it had, nor does the cache, and a negative response is kept no longer than
its SOA records say. -/
def TTLBounded (response response' : Msg) (timeToLive : ℕ) : Prop :=
  (∀ records ∈ [Msg.answer,Msg.ns,Msg.extra], Forall₂ (fun record record' => isOPT record = false →
    record'.hdr.ttl ≤ record.hdr.ttl ∧ timeToLive ≤ record.hdr.ttl) (records response) (records response')) ∧
  (response.answer = [] ∨ response.rcode = 3 → ∀ soaMinimum ∈ soaMinima response, timeToLive ≤ soaMinimum)

/-- The first SOA record of a response without answers has the smallest lifetime of all. In other responses all
lifetimes are zero or none is, and where the name does not exist one of them is within each SOA minimum. -/
def TTLAgrees (response : Msg) : Prop :=
  let records := timed (response.answer++response.ns++response.extra)
  match if response.answer.length = 0 then extractNegativeTTL response else none with
  | some soaTTL => (∀ record ∈ records, soaTTL ≤ record.hdr.ttl) ∧ ∀ soaMinimum ∈ soaMinima response, soaTTL ≤ soaMinimum
  | none => (∀ record ∈ records, record.hdr.ttl = 0) ∨ (∀ record ∈ records, record.hdr.ttl ≠ 0) ∧
      (response.answer = [] ∨ response.rcode = 3 → ∀ soaMinimum ∈ soaMinima response,
        ∃ record ∈ records, record.hdr.ttl ≤ soaMinimum)

/-- The scan ends with zero where it has seen nothing else, and else with the smallest lifetime but zero. -/
lemma smallestTTL_cases (rs : List RR) : (smallestTTL rs = 0 ∧ ∀ r ∈ timed rs, r.hdr.ttl = 0) ∨
    (smallestTTL rs ≠ 0 ∧ (∃ r ∈ timed rs, r.hdr.ttl = smallestTTL rs) ∧
      ∀ r ∈ timed rs, r.hdr.ttl ≠ 0 → smallestTTL rs ≤ r.hdr.ttl) := by
  -- on the records from the end, as the scan goes from the front
  induction rs using List.reverseRecOn with
  | nil => exact .inl ⟨rfl,by simp [timed]⟩
  | append_singleton rs r ih =>
    have hl : smallestTTL (rs++[r]) = if isOPT r then smallestTTL rs
        else if smallestTTL rs == 0 || r.hdr.ttl > 0 && r.hdr.ttl < smallestTTL rs then r.hdr.ttl
        else smallestTTL rs := by simp [smallestTTL]
    cases ho : isOPT r with
    | true => simpa [hl,timed,ho] using ih
    | false =>
      rw [hl]
      simp only [timed,filter_append,ho,Bool.false_eq_true,if_false] at ih ⊢
      grind

lemma smallestTTL_bounded_iff (rs : List RR) (n : Prop) (m : List ℕ) : (∀ r ∈ timed rs, smallestTTL rs ≤ r.hdr.ttl) ∧
      (n → ∀ sm ∈ m, smallestTTL rs ≤ sm) ↔ (∀ r ∈ timed rs, r.hdr.ttl = 0) ∨ (∀ r ∈ timed rs, r.hdr.ttl ≠ 0) ∧
      (n → ∀ sm ∈ m, ∃ r ∈ timed rs, r.hdr.ttl ≤ sm) := by
  obtain ⟨hz,ha⟩ | ⟨hne,⟨r,hrc,hs⟩,hl⟩ := smallestTTL_cases rs
  · simp only [hz,Nat.zero_le,implies_true,and_true,true_iff]
    exact .inl ha
  · constructor
    · rintro ⟨hr,hm⟩
      refine .inr ⟨fun o ho hz => ?_,fun hn sm hmm => ?_⟩
      · have hle := hr o ho
        omega
      · exact ⟨r,hrc,hs.trans_le (hm hn sm hmm)⟩
    · rintro (hz | ⟨hr,hm⟩)
      · exact absurd (hs.symm.trans (hz r hrc)) hne
      · refine ⟨fun o ho => hl o ho (hr o ho),fun hn sm hmm => ?_⟩
        obtain ⟨o,ho,hle⟩ := hm hn sm hmm
        exact (hl o ho (hr o ho)).trans hle

/-- Every record ends with the lifetime of the response. -/
lemma forall₂_setTTL_iff {f : RR → RR} (hf : ∀ r, (f r).hdr = r.hdr) (rs : List RR) (tt : ℕ) :
    Forall₂ (fun r r' => isOPT r = false → r'.hdr.ttl ≤ r.hdr.ttl ∧ tt ≤ r.hdr.ttl)
      rs ((rs.map f).map (setTTL tt)) ↔ ∀ r ∈ timed rs, tt ≤ r.hdr.ttl := by
  rw [map_map,forall₂_map_right_iff,forall₂_same]
  simp only [timed,mem_filter,and_imp,Bool.not_eq_true']
  refine forall_congr' fun r => imp_congr_right fun _ => imp_congr_right fun ho => ?_
  have ho' : isOPT (f r) = false := by rwa [isOPT,hf]
  simp [setTTL,ho']

/-- The hints that are filtered do not count. -/
lemma applyResponseOptions_eq (q : Question) (r : Msg) (os : DNSQueryOptions) :
    ∃ f : RR → RR, (∀ rc, (f rc).hdr = rc.hdr) ∧ applyResponseOptions q r { os with rewriteTTL := none } =
        (normalizeTTL { r with answer := r.answer.map f } (computeTimeToLive r), computeTimeToLive r) := by
  have hh : ∀ rc, (filterHints os.strategy rc).hdr = rc.hdr := by
    intro rc
    unfold filterHints
    split <;> rfl
  unfold applyResponseOptions
  dsimp only
  split_ifs
  · refine ⟨filterHints os.strategy,hh,?_⟩
    simp [computeTimeToLive,extractNegativeTTL,smallestTTL,foldl_map,isOPT,hh]
  · exact ⟨id,fun _ => rfl,by simp⟩

/-- The lifetimes are bounded exactly where the lifetimes of the records agree. -/
theorem ttl_bounded_iff (question : Question) (response : Msg) (options : DNSQueryOptions) :
    let applied := applyResponseOptions question response { options with rewriteTTL := none }
    TTLBounded response applied.1 applied.2 ↔ TTLAgrees response := by
  intro applied
  obtain ⟨f,hf,heq⟩ := applyResponseOptions_eq question response options
  have hb : TTLBounded response applied.1 applied.2 ↔
      (∀ r ∈ timed (response.answer++response.ns++response.extra), computeTimeToLive response ≤ r.hdr.ttl) ∧
        (response.answer = [] ∨ response.rcode = 3 → ∀ sm ∈ soaMinima response, computeTimeToLive response ≤ sm) := by
    have hid := forall₂_setTTL_iff (f := id) fun _ => rfl
    simp only [map_id] at hid
    simp only [applied,heq,TTLBounded,normalizeTTL,forall_mem_cons,not_mem_nil,false_implies,implies_true,and_true,
      forall₂_setTTL_iff hf,hid]
    simp only [timed,filter_append,mem_append,or_imp,forall_and,and_assoc]
  rw [hb,TTLAgrees,computeTimeToLive]
  cases hs : if response.answer.length = 0 then extractNegativeTTL response else none with
  | some =>
    have ha : response.answer = [] := by
      by_contra hne
      simp [hne] at hs
    simp [ha]
  | none => exact smallestTTL_bounded_iff _ _ _

/-- Lifetimes of zero and of 300 seconds become 300 seconds, and a record that lasts a minute is kept as long as the SOA
record beside it. -/
theorem short_ttl_becomes_long :
    let applied := fun response : Msg => applyResponseOptions ⟨"a.",1,1⟩ response {}
    let mixed := applied { answer := [⟨⟨"a.",1,1,0⟩,.a []⟩,⟨⟨"a.",1,1,300⟩,.a []⟩] }
    let negative := applied { ns := [⟨⟨"a.",6,1,300⟩,.soa 300⟩,⟨⟨"a.",47,1,60⟩,.other []⟩] }
    mixed.1.answer.map (·.hdr.ttl) = [300,300] ∧ mixed.2 = 300 ∧
      negative.1.ns.map (·.hdr.ttl) = [300,300] ∧ negative.2 = 300 := by
  decide

end SingBox.DNS
