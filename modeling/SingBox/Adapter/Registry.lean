import SingBox.Adapter.StartOrder

/-! The registry that the outbound manager and the DNS transport manager keep in the same way: the list of
members, the map by tag and the reverse index of dependencies. -/
namespace SingBox.Adapter
open List
open Function (update_of_ne update_self)

/-- An instance as a constructor returns it, before it has its tag. -/
structure Made where
  type : String := ""
  dependencies : List String := []
  starter : Starter := .legacy none none none

def Made.member (made : Made) (id : ℕ) (tag : String) : Member := ⟨id,tag,made.type,made.dependencies,made.starter⟩

/-- A key that a map does not have is `none` or the empty list. `created` counts the instances made so far. -/
structure Registry where
  members : List Member := []
  byTag : String → Option Member := fun _ => none
  dependByTag : String → List String := fun _ => []
  created : ℕ := 0

/-- `append(members[:index], members[index+1:]...)` at the index of the instance. -/
def eraseMember (members : List Member) (m : Member) : List Member := members.eraseP fun it => it.id == m.id

/-- The loop of `Create` over the dependencies of a new member. -/
def recordDependencies (dependByTag : String → List String) (tag : String) :
    List String → String → List String
  | [] => dependByTag
  | dependency :: rest =>
    recordDependencies (Function.update dependByTag dependency (dependByTag dependency++[tag])) tag rest

/-- The loop of `Remove` over the dependencies of the removed member. -/
def dropDependencies (dependByTag : String → List String) (tag : String) : List String → String → List String
  | [] => dependByTag
  | dependency :: rest =>
    let others := if (dependByTag dependency).length = 1 then []
      else (dependByTag dependency).filter fun it => it ≠ tag
    dropDependencies (Function.update dependByTag dependency others) tag rest

namespace Registry

def isListed (r : Registry) (m : Member) : Bool := r.members.any fun it => it.id == m.id

def put (r : Registry) (new : Member) : Registry :=
  { r with
    members := (match r.byTag new.tag with
      | some old => eraseMember r.members old
      | none => r.members)++[new]
    byTag := Function.update r.byTag new.tag (some new)
    dependByTag := recordDependencies r.dependByTag new.tag new.dependencies }

/-- The fallback that `Start` makes: its dependencies are not recorded. -/
def addFallback (r : Registry) (new : Member) : Registry :=
  { r with members := r.members++[new], byTag := Function.update r.byTag new.tag (some new) }

/-- The first half of `Remove`. -/
def unregister (r : Registry) (tag : String) (m : Member) : Registry :=
  { r with members := eraseMember r.members m, byTag := Function.update r.byTag tag none }

/-- The second half of `Remove`. -/
def forget (r : Registry) (tag : String) (m : Member) : Registry :=
  { r with dependByTag := dropDependencies r.dependByTag tag m.dependencies }

/-- The map holds listed members under their own tags; instances are distinct and counted. -/
structure Sound (r : Registry) : Prop where
  byTag_mem : ∀ t m, r.byTag t = some m → m ∈ r.members ∧ m.tag = t
  nodup : (r.members.map Member.id).Nodup
  id_lt : ∀ m ∈ r.members, m.id < r.created

/-- Every member in the list is the one that its tag names. -/
def Listed (r : Registry) : Prop := ∀ m ∈ r.members, r.byTag m.tag = some m

/-- The recorded dependants of a tag are the tags of the registered members that depend on it. -/
def IndexExact (r : Registry) : Prop := ∀ t a, a ∈ r.dependByTag t ↔ ∃ m, r.byTag a = some m ∧ t ∈ m.dependencies

end Registry

lemma mem_recordDependencies (dt : String → List String) (tag : String) (dp : List String)
    (t a : String) : a ∈ recordDependencies dt tag dp t ↔ a ∈ dt t ∨ a = tag ∧ t ∈ dp := by
  induction dp generalizing dt with
  | nil => simp [recordDependencies]
  | cons d rs ih =>
    rw [recordDependencies,ih]
    by_cases ht : t = d
    · subst ht
      rw [update_self,mem_append,mem_singleton,mem_cons]
      tauto
    · rw [update_of_ne ht,mem_cons]
      simp [ht]

variable {ds : List String} {t : String}

section
variable (db : String → List String) (tag : String)
include db tag

lemma dropDependencies_of_notMem (ht : t ∉ ds) : dropDependencies db tag ds t = db t := by
  induction ds generalizing db with
  | nil => rfl
  | cons d rs ih =>
    rw [mem_cons,not_or] at ht
    obtain ⟨hne,hr⟩ := ht
    rw [dropDependencies,ih _ hr,update_of_ne hne]

lemma dropDependencies_again (ds : List String) (hot : tag ∉ db t) : dropDependencies db tag ds t =
      if t ∈ ds ∧ (db t).length = 1 then [] else db t := by
  induction ds generalizing db with
  | nil => simp [dropDependencies]
  | cons d rs ih =>
    rw [dropDependencies]
    by_cases ht : t = d
    · subst ht
      by_cases ho : (db t).length = 1
      · rw [ih _ (by simp [ho])]
        simp [ho]
      · have hf : (db t).filter (fun it => it ≠ tag) = db t := by
          refine filter_eq_self.mpr fun it hit => ?_
          simpa using ne_of_mem_of_not_mem hit hot
        rw [if_neg ho,hf,ih _ (by simpa using hot)]
        simp [ho]
    · rw [ih _ (by rwa [update_of_ne ht]),update_of_ne ht]
      simp [ht]

lemma dropDependencies_of_mem (ht : t ∈ ds) (hin : tag ∈ db t) : dropDependencies db tag ds t =
      if 2 ≤ ds.count t ∧ ((db t).filter fun it => it ≠ tag).length = 1 then []
      else (db t).filter fun it => it ≠ tag := by
  induction ds generalizing db with
  | nil => exact absurd ht not_mem_nil
  | cons d rs ih =>
    rw [dropDependencies]
    by_cases hd : t = d
    · subst hd
      have ho : (if (db t).length = 1 then [] else (db t).filter fun it => it ≠ tag) =
          (db t).filter fun it => it ≠ tag := by
        split_ifs with hon
        · obtain ⟨x,hx⟩ := length_eq_one_iff.mp hon
          rw [hx,mem_singleton] at hin
          simp [hx,hin]
        · rfl
      rw [ho,dropDependencies_again _ _ _ (by simp),update_self,count_cons_self]
      have hc : t ∈ rs ↔ 2 ≤ rs.count t+1 := by
        rw [← count_pos_iff]
        omega
      simp only [hc]
    · have hr : t ∈ rs := (mem_cons.mp ht).resolve_left hd
      rw [ih _ hr (by rwa [update_of_ne hd]),update_of_ne hd, count_cons_of_ne (fun heq => hd heq.symm)]

end

lemma mem_eraseMember {ms : List Member} (hnd : (ms.map Member.id).Nodup) {m n : Member}
    (hm : m ∈ ms) : n ∈ eraseMember ms m ↔ n ∈ ms ∧ n ≠ m := by
  induction ms with
  | nil => exact absurd hm not_mem_nil
  | cons head rs ih =>
    rw [map_cons,nodup_cons] at hnd
    rw [eraseMember,eraseP_cons]
    by_cases hh : head.id = m.id
    · obtain rfl : head = m := by
        rcases mem_cons.mp hm with rfl | hr
        · rfl
        · exact absurd (hh ▸ mem_map_of_mem hr) hnd.1
      have hne : ∀ x ∈ rs, x ≠ head := by
        rintro x hx rfl
        exact hnd.1 (mem_map_of_mem hx)
      simp only [beq_self_eq_true,cond_true,mem_cons]
      constructor
      · exact fun hn => ⟨.inr hn,hne n hn⟩
      · exact fun ⟨hn,hnm⟩ => hn.resolve_left hnm
    · have hr : m ∈ rs := (mem_cons.mp hm).resolve_left fun heq => hh (heq ▸ rfl)
      have hb : (head.id == m.id) = false := by simpa using hh
      rw [hb,cond_false,mem_cons,mem_cons]
      have hs := ih hnd.2 hr
      rw [eraseMember] at hs
      rw [hs]
      constructor
      · rintro (rfl | ⟨hn,hnm⟩)
        · exact ⟨.inl rfl,fun heq => hh (heq ▸ rfl)⟩
        · exact ⟨.inr hn,hnm⟩
      · rintro ⟨rfl | hn,hnm⟩
        · exact .inl rfl
        · exact .inr ⟨hn,hnm⟩

lemma eraseMember_sublist (ms : List Member) (m : Member) : (eraseMember ms m).Sublist ms := eraseP_sublist

namespace Registry
variable {r : Registry}

@[simp] lemma put_byTag (r : Registry) (new : Member) :
    (r.put new).byTag = Function.update r.byTag new.tag (some new) := rfl

@[simp] lemma put_dependByTag (r : Registry) (new : Member) :
    (r.put new).dependByTag = recordDependencies r.dependByTag new.tag new.dependencies := rfl

@[simp] lemma unregister_byTag (r : Registry) (tag : String) (m : Member) :
    (r.unregister tag m).byTag = Function.update r.byTag tag none := rfl

@[simp] lemma unregister_dependByTag (r : Registry) (tag : String) (m : Member) :
    (r.unregister tag m).dependByTag = r.dependByTag := rfl

@[simp] lemma forget_byTag (r : Registry) (tag : String) (m : Member) : (r.forget tag m).byTag = r.byTag := rfl

@[simp] lemma forget_dependByTag (r : Registry) (tag : String) (m : Member) :
    (r.forget tag m).dependByTag = dropDependencies r.dependByTag tag m.dependencies := rfl

lemma Sound.empty (created : ℕ) : Sound { created := created } where
  byTag_mem := by
    intro t m h
    cases h
  nodup := nodup_nil
  id_lt := by simp

lemma IndexExact.empty (created : ℕ) : IndexExact { created := created } := by
  intro t a
  simp

variable {m : Member} {tag : String}

lemma Sound.isListed (h : Sound r) {t : String} (hm : r.byTag t = some m) : r.isListed m = true := by
  rw [Registry.isListed,any_eq_true]
  exact ⟨m,(h.byTag_mem t m hm).1,by simp⟩

lemma Sound.mono {created : ℕ} (h : Sound r) (hle : r.created ≤ created) : Sound { r with created := created } where
  byTag_mem := h.byTag_mem
  nodup := h.nodup
  id_lt := fun m hm => (h.id_lt m hm).trans_le hle

lemma Sound.mem_eraseMember (h : Sound r) {t t' : String} {n : Member} (hm : r.byTag t = some m)
    (hn : r.byTag t' = some n) (hne : t' ≠ t) : n ∈ eraseMember r.members m := by
  obtain ⟨hmm,ht⟩ := h.byTag_mem t m hm
  obtain ⟨hnm,hnt⟩ := h.byTag_mem t' n hn
  exact (SingBox.Adapter.mem_eraseMember h.nodup hmm).mpr ⟨hnm,fun heq => hne (by rw [← hnt,heq,ht])⟩

lemma Sound.unregister (h : Sound r) (hm : r.byTag tag = some m) : Sound (r.unregister tag m) where
  byTag_mem := by
    intro t n hn
    rw [unregister_byTag] at hn
    by_cases heq : t = tag
    · rw [heq,update_self] at hn
      cases hn
    · rw [update_of_ne heq] at hn
      exact ⟨h.mem_eraseMember hm hn heq,(h.byTag_mem t n hn).2⟩
  nodup := h.nodup.sublist ((eraseMember_sublist r.members m).map Member.id)
  id_lt := fun n hn => h.id_lt n ((eraseMember_sublist r.members m).subset hn)

/-- The list of `put` before the new member is appended. -/
lemma put_members (r : Registry) (new : Member) : ∃ k, (r.put new).members = k++[new] ∧ k.Sublist r.members ∧
    (r.byTag new.tag = none → k = r.members) ∧ (∀ o, r.byTag new.tag = some o → k = eraseMember r.members o) := by
  cases ho : r.byTag new.tag with
  | none =>
    refine ⟨r.members,?_,Sublist.refl r.members,fun _ => rfl,by simp⟩
    simp only [put,ho]
  | some o =>
    refine ⟨eraseMember r.members o,?_,eraseMember_sublist r.members o,by simp,?_⟩
    · simp only [put,ho]
    · intro o' ho'
      cases ho'
      rfl

variable {new : Member}

section
variable (h : Sound r) (hid : new.id = r.created)
include h hid

lemma Sound.concat {k : List Member} (hs : k.Sublist r.members) (hk : ∀ t m, r.byTag t = some m → t ≠ new.tag → m ∈ k)
    (d : String → List String) : Sound ⟨k++[new],Function.update r.byTag new.tag (some new),d,r.created+1⟩ where
  byTag_mem := by
    intro t m hm
    dsimp only at hm ⊢
    by_cases ht : t = new.tag
    · subst ht
      rw [update_self] at hm
      cases hm
      exact ⟨mem_append_right _ mem_cons_self,rfl⟩
    · rw [update_of_ne ht] at hm
      exact ⟨mem_append_left _ (hk t m hm ht),(h.byTag_mem t m hm).2⟩
  nodup := by
    rw [map_append,map_singleton,← concat_eq_append]
    refine (h.nodup.sublist (hs.map Member.id)).concat fun hmm => ?_
    obtain ⟨n,hn,hid'⟩ := mem_map.mp hmm
    have := h.id_lt n (hs.subset hn)
    omega
  id_lt := by
    intro m hm
    rcases mem_append.mp hm with ho | hnw
    · exact Nat.lt_succ_of_lt (h.id_lt m (hs.subset ho))
    · rw [mem_singleton.mp hnw,hid]
      exact Nat.lt_succ_self _

lemma Sound.put : Sound { r.put new with created := r.created+1 } := by
  obtain ⟨k,hmm,hs,hf,hr⟩ := r.put_members new
  change Sound ⟨(r.put new).members,_,_,_⟩
  rw [hmm]
  refine h.concat hid hs (fun t m hm ht => ?_) _
  cases ho : r.byTag new.tag with
  | none =>
    rw [hf ho]
    exact (h.byTag_mem t m hm).1
  | some o =>
    rw [hr o ho]
    exact h.mem_eraseMember ho hm ht

lemma Sound.addFallback : Sound { r.addFallback new with created := r.created+1 } :=
  h.concat hid (Sublist.refl _) (fun t m hm _ => (h.byTag_mem t m hm).1) r.dependByTag

end

lemma Listed.unregister (h : Listed r) (hs : Sound r) (hm : r.byTag tag = some m) : Listed (r.unregister tag m) := by
  intro n hn
  obtain ⟨hmm,ht⟩ := hs.byTag_mem tag m hm
  obtain ⟨hn,hne⟩ := (mem_eraseMember hs.nodup hmm).mp hn
  have ht' : n.tag ≠ tag := by
    intro heq
    have hb := h n hn
    rw [heq,hm] at hb
    exact hne (Option.some.inj hb).symm
  rw [unregister_byTag,update_of_ne ht']
  exact h n hn

lemma Listed.put (h : Listed r) (hs : Sound r) (new : Member) : Listed (r.put new) := by
  obtain ⟨k,hm,hsb,hf,hr⟩ := r.put_members new
  intro n hn
  rw [hm] at hn
  rw [put_byTag]
  rcases mem_append.mp hn with hk | hnw
  · have hn := h n (hsb.subset hk)
    have ht : n.tag ≠ new.tag := by
      intro heq
      rw [heq] at hn
      rw [hr n hn] at hk
      exact ((mem_eraseMember hs.nodup (hs.byTag_mem _ n hn).1).mp hk).2 rfl
    rw [update_of_ne ht]
    exact hn
  · rw [mem_singleton.mp hnw,update_self]

section
variable (h : IndexExact r)
include h

lemma IndexExact.ne_nil_iff (t : String) : r.dependByTag t ≠ [] ↔ ∃ a m, r.byTag a = some m ∧ t ∈ m.dependencies := by
  have hm : r.dependByTag t ≠ [] ↔ ∃ a, a ∈ r.dependByTag t := ⟨exists_mem_of_ne_nil _,fun ⟨_,ha⟩ => ne_nil_of_mem ha⟩
  rw [hm]
  exact exists_congr fun a => h t a

/-- Putting a member keeps the index exact exactly where a member that it replaces depends on nothing that
the new one does not depend on. -/
lemma IndexExact.put_iff (new : Member) : IndexExact (r.put new) ↔
    ∀ o, r.byTag new.tag = some o → o.dependencies ⊆ new.dependencies := by
  have hr : ∀ t a, a ∈ (r.put new).dependByTag t ↔
      (∃ m, r.byTag a = some m ∧ t ∈ m.dependencies) ∨ a = new.tag ∧ t ∈ new.dependencies := by
    intro t a
    rw [put_dependByTag,mem_recordDependencies,h t a]
  constructor
  · intro hp o ho t ht
    have hmm := (hr t new.tag).mpr (.inl ⟨o,ho,ht⟩)
    obtain ⟨m,hm,htm⟩ := (hp t new.tag).mp hmm
    rw [put_byTag,update_self] at hm
    cases hm
    exact htm
  · intro hs t a
    rw [hr]
    by_cases ha : a = new.tag
    · subst ha
      simp only [put_byTag,update_self,Option.some.injEq,exists_eq_left',true_and]
      constructor
      · rintro (⟨o,ho,ht⟩ | ht)
        · exact hs o ho ht
        · exact ht
      · exact .inr
    · simp only [put_byTag,update_of_ne ha,ha,false_and,or_false]

/-- A fallback that depends on nothing keeps the index exact exactly where it takes the tag of nobody who
depends on something. -/
lemma IndexExact.addFallback_iff (new : Member) (hn : new.dependencies = []) :
    IndexExact (r.addFallback new) ↔ ∀ o, r.byTag new.tag = some o → o.dependencies = [] := by
  have hp : IndexExact (r.addFallback new) ↔ IndexExact (r.put new) := by
    rw [IndexExact,IndexExact,put_byTag,put_dependByTag,hn]
    exact Iff.rfl
  rw [hp,h.put_iff,hn]
  simp only [subset_nil]

lemma IndexExact.unregister_iff (hm : r.byTag tag = some m) :
    IndexExact (r.unregister tag m) ↔ m.dependencies = [] := by
  constructor
  · intro he
    by_contra hne
    obtain ⟨t,ht⟩ := exists_mem_of_ne_nil _ hne
    obtain ⟨n,hn,-⟩ := (he t tag).mp ((h t tag).mpr ⟨m,hm,ht⟩)
    rw [unregister_byTag,update_self] at hn
    cases hn
  · intro hnn t a
    rw [unregister_byTag,unregister_dependByTag]
    by_cases ha : a = tag
    · subst ha
      rw [h t a,hm,update_self]
      simp [hnn]
    · rw [h t a,update_of_ne ha]

end

/-- No tag is dropped once for the removed member and once more for the only other one. -/
def DropsCleanly (r : Registry) (tag : String) (m : Member) : Prop :=
  ∀ t, 2 ≤ m.dependencies.count t → ((r.dependByTag t).filter fun it => it ≠ tag).length ≠ 1

lemma IndexExact.forget_iff (h : IndexExact r) (hm : r.byTag tag = some m) :
    IndexExact ((r.unregister tag m).forget tag m) ↔ r.DropsCleanly tag m := by
  have hr : ∀ t ∈ m.dependencies, tag ∈ r.dependByTag t := fun t ht => (h t tag).mpr ⟨m,hm,ht⟩
  constructor
  · intro he t htw ho
    have ht : t ∈ m.dependencies := count_pos_iff.mp (by omega)
    -- the one other member is still registered, but no longer recorded
    obtain ⟨a,ha⟩ := length_eq_one_iff.mp ho
    have hmm : a ∈ (r.dependByTag t).filter fun it => it ≠ tag := by rw [ha]; exact mem_cons_self
    obtain ⟨hmm,hne⟩ := mem_filter.mp hmm
    have hne : a ≠ tag := by simpa using hne
    have hs : ∃ n, ((r.unregister tag m).forget tag m).byTag a = some n ∧ t ∈ n.dependencies := by
      simpa only [forget_byTag,unregister_byTag,update_of_ne hne] using (h t a).mp hmm
    have hg := (he t a).mpr hs
    rw [forget_dependByTag,unregister_dependByTag,dropDependencies_of_mem _ _ ht (hr t ht),if_pos ⟨htw,ho⟩] at hg
    exact not_mem_nil hg
  · intro hc t a
    have hd : a ∈ ((r.unregister tag m).forget tag m).dependByTag t ↔ a ∈ r.dependByTag t ∧ a ≠ tag := by
      rw [forget_dependByTag,unregister_dependByTag]
      by_cases ht : t ∈ m.dependencies
      · rw [dropDependencies_of_mem _ _ ht (hr t ht),if_neg fun hb => hc t hb.1 hb.2]
        simp
      · rw [dropDependencies_of_notMem _ _ ht]
        refine ⟨fun ha => ⟨ha,?_⟩,fun ha => ha.1⟩
        rintro rfl
        obtain ⟨n,hn,htn⟩ := (h t a).mp ha
        cases hn.symm.trans hm
        exact ht htn
    rw [hd]
    by_cases ha : a = tag
    · subst ha
      simp
    · simp only [forget_byTag,unregister_byTag,update_of_ne ha,h t a,ne_eq,ha,not_false_eq_true,and_true]

end Registry

end SingBox.Adapter
