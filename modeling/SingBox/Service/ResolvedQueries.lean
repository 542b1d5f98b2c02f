import SingBox.Service.ResolvedTables

/-! What a query of the resolved service follows: from the domains and the default routes to the links, from a link to
its interface and to its servers. -/
namespace SingBox.Resolved
open Adapter List

namespace State

section
variable (s : State)

/-- What `getLink` can do. -/
lemma getLink_cases (i : ℤ) (b : Except GoError InterfaceRef) :
    (∃ l, s.links.lookup i = some l ∧ s.getLink i b = (s,.ok l)) ∨ (∃ ii, s.links.lookup i = none ∧ s.getLink i b =
      (s.addLink i (some ii),.ok { id := s.created, iif := some ii })) ∨
    ∃ e, s.links.lookup i = none ∧ s.getLink i b = (s.addLink i none,.error e) := by
  unfold getLink
  cases s.links.lookup i with
  | some l => exact .inl ⟨l,rfl,rfl⟩
  | none =>
    cases b with
    | error e => exact .inr (.inr ⟨e,rfl,rfl⟩)
    | ok ii => exact .inr (.inl ⟨ii,rfl,rfl⟩)

lemma exists_updateTransports (l : TransportLink) : ∃ ls, (s.updateTransports l).1 = { s with linkServers := ls } ∧
      ∀ id, ls id ≠ none ↔ s.linkServers id ≠ none ∨ id = l.id ∧ newServers l ≠ none := by
  have hc : ∀ id, Function.update s.linkServers l.id
      ((s.linkServers l.id).map (·.map Server.close)) id ≠ none ↔ s.linkServers id ≠ none := by
    intro id
    by_cases hid : id = l.id
    · subst hid
      simp
    · rw [Function.update_of_ne hid]
  rw [updateTransports]
  cases hs : newServers l with
  | none =>
    refine ⟨_,rfl,fun id => (hc id).trans ?_⟩
    simp
  | some =>
    refine ⟨_,rfl,fun id => ?_⟩
    by_cases hid : id = l.id
    · simp [hid]
    · rw [Function.update_of_ne hid]
      exact (hc id).trans (by simp [hid])

end

section
variable (acceptDefaultResolvers ad : Bool)

/-- A query can come to the link, by one of its domains or as a default route. -/
def Selectable (order : List ℤ) (i : ℤ) (link : TransportLink) : Prop :=
  (∃ domain ∈ link.domain, usable acceptDefaultResolvers domain = true) ∨ acceptDefaultResolvers = true ∧ i ∈ order

/-- Links have their interfaces, default routes are links, and links that a query can come to have an entry in the table
of the servers. -/
structure TablesRight (s : State) : Prop where
  interface : ∀ i link, s.links.lookup i = some link → link.iif ≠ none
  route : ∀ i ∈ s.defaultRouteSequence, s.links.lookup i ≠ none
  listed : ∀ i link, s.links.lookup i = some link →
    Selectable acceptDefaultResolvers s.defaultRouteSequence i link → s.linkServers link.id ≠ none

variable {acceptDefaultResolvers ad} {s : State} {i : ℤ}

lemma not_tablesRight_addLink (s : State) (i : ℤ) : ¬ TablesRight ad (s.addLink i none) :=
  fun h => h.interface i _ (AList.lookup_insert s.links) rfl

section
variable (h : TablesRight ad s)
include h

lemma TablesRight.addLink (hi : s.links.lookup i = none) (ii : InterfaceRef) :
    TablesRight ad (s.addLink i (some ii)) := by
  have ho : i ∉ s.defaultRouteSequence := fun hm => h.route i hm hi
  refine ⟨fun j l hl => ?_,fun j hj => ?_,fun j l hl hs => ?_⟩
  · by_cases hj : j = i
    · subst hj
      cases (AList.lookup_insert s.links).symm.trans hl
      exact Option.some_ne_none ii
    · exact h.interface j l ((AList.lookup_insert_ne hj).symm.trans hl)
  · have hne : j ≠ i := fun heq => ho (heq ▸ hj)
    rw [State.addLink,AList.lookup_insert_ne hne]
    exact h.route j hj
  · by_cases hj : j = i
    · subst hj
      cases (AList.lookup_insert s.links).symm.trans hl
      obtain ⟨d,hd,-⟩ | ⟨-,hm⟩ := hs
      · cases hd
      · exact absurd hm ho
    · exact h.listed j l ((AList.lookup_insert_ne hj).symm.trans hl) hs

lemma tablesRight_edited_iff {l : TransportLink}
    (hi : s.links.lookup i = some l) (e : Edit i) {ls : ℕ → Option (List Server)}
    (hsr : ∀ id, ls id ≠ none ↔
      s.linkServers id ≠ none ∨ id = (e.link l).id ∧ newServers (e.link l) ≠ none) :
    TablesRight ad { s with
      links := s.links.insert i (e.link l)
      defaultRouteSequence := e.sequence s.defaultRouteSequence
      linkServers := ls } ↔
    (newServers (e.link l) ≠ none ∨ s.linkServers l.id ≠ none ∨
      ¬ Selectable ad (e.sequence s.defaultRouteSequence) i (e.link l)) := by
  constructor
  · intro hrg
    by_cases hs : Selectable ad (e.sequence s.defaultRouteSequence) i (e.link l)
    · have he := hrg.listed i _ (AList.lookup_insert s.links) hs
      rw [hsr,e.id_link] at he
      exact he.elim (fun hol => .inr (.inl hol)) fun hn => .inl hn.2
    · exact .inr (.inr hs)
  · intro hc
    refine ⟨fun j o ho => ?_,fun j hj => ?_,fun j o ho hs => ?_⟩
    · by_cases hj : j = i
      · subst hj
        cases (AList.lookup_insert s.links).symm.trans ho
        rw [e.iif_link]
        exact h.interface j l hi
      · exact h.interface j o ((AList.lookup_insert_ne hj).symm.trans ho)
    · by_cases heq : j = i
      · subst heq
        rw [AList.lookup_insert]
        exact Option.some_ne_none _
      · rw [AList.lookup_insert_ne heq]
        exact h.route j ((e.mem_sequence _ j heq).mp hj)
    · rw [hsr]
      by_cases hj : j = i
      · subst hj
        cases (AList.lookup_insert s.links).symm.trans ho
        rw [e.id_link] at hsr ⊢
        obtain hn | hol | hnt := hc
        · exact .inr ⟨rfl,hn⟩
        · exact .inl hol
        · exact absurd hs hnt
      · refine .inl (h.listed j o ((AList.lookup_insert_ne hj).symm.trans ho) ?_)
        exact hs.imp id fun hr => ⟨hr.1,(e.mem_sequence _ j hj).mp hr.2⟩

lemma tablesRight_withLink_iff (bn : Except GoError InterfaceRef)
    {l : State → State} {b : State → TransportLink → State × CallResult} {c : TransportLink → Prop}
    (hlv : ¬ TablesRight ad (l (s.addLink i none))) (hb : ∀ s₁ ln, TablesRight ad s₁ → s₁.links.lookup i = some ln →
      s₁.linkServers = s.linkServers → s₁.defaultRouteSequence = s.defaultRouteSequence →
        (c ln ↔ TablesRight ad (b s₁ ln).1)) : (s.locked = true ∨ ∃ ln, (s.getLink i bn).2 = .ok ln ∧ c ln) ↔
      TablesRight ad (s.withLink i bn l b).1 := by
  unfold withLink
  by_cases hl : s.locked = true
  · rw [if_pos hl]
    exact iff_of_true (.inl hl) h
  rw [if_neg hl,or_iff_right hl]
  obtain ⟨ln,hln,hg⟩ | ⟨ii,hn,hg⟩ | ⟨e,hn,hg⟩ := s.getLink_cases i bn
  · rw [hg]
    refine Iff.trans ⟨?_,fun hc => ⟨ln,rfl,hc⟩⟩ (hb s ln h hln rfl rfl)
    rintro ⟨o,ho,hc⟩
    cases ho
    exact hc
  · rw [hg]
    refine Iff.trans ⟨?_,fun hc => ⟨_,rfl,hc⟩⟩
      (hb (s.addLink i (some ii)) _ (h.addLink hn ii) (AList.lookup_insert s.links) rfl rfl)
    rintro ⟨o,ho,hc⟩
    cases ho
    exact hc
  · rw [hg]
    refine iff_of_false ?_ hlv
    rintro ⟨ln,hln,-⟩
    cases hln

end

lemma postUpdate_eq (s : State) {l : TransportLink} (hif : l.iif ≠ none) :
    (s.postUpdate l).1 = (s.updateTransports l).1 := by
  rw [postUpdate,if_neg hif]

variable (acceptDefaultResolvers ad) in
/-- What a call that edits its link has to meet: where one of the addresses is none, the link has an entry, or no query
can come to it. -/
def KeepsEdit (s : State) (byIndex : Except GoError InterfaceRef) (edit : Edit i) : Prop :=
  s.locked = true ∨ ∃ link, (s.getLink i byIndex).2 = .ok link ∧
    (newServers (edit.link link) ≠ none ∨ s.linkServers link.id ≠ none ∨
      ¬ Selectable acceptDefaultResolvers (edit.sequence s.defaultRouteSequence) i (edit.link link))

section
variable (h : TablesRight ad s) (bi : Except GoError InterfaceRef)
include h bi

lemma tablesRight_editLink_iff (e : Edit i) : KeepsEdit ad s bi e ↔ TablesRight ad (s.editLink bi e).1 := by
  refine tablesRight_withLink_iff h bi (not_tablesRight_addLink s i) ?_
  intro s₁ l hr hl hsm ho
  have hif : (e.link l).iif ≠ none := by
    rw [e.iif_link]
    exact hr.interface i l hl
  rw [postUpdate_eq _ hif]
  obtain ⟨ls,heq,hs⟩ := exists_updateTransports { s₁ with
    links := s₁.links.insert i (e.link l)
    defaultRouteSequence := e.sequence s₁.defaultRouteSequence } (e.link l)
  rw [heq,tablesRight_edited_iff hr hl e hs,hsm,ho]

lemma tablesRight_revertLink_iff : (s.locked = true ∨ ∃ l, (s.getLink i bi).2 = .ok l ∧ i ∉ s.defaultRouteSequence) ↔
      TablesRight ad (s.revertLink i bi).1 := by
  refine tablesRight_withLink_iff h bi (not_tablesRight_addLink s i) ?_
  intro s₁ l hr hl hsm hor
  rw [postUpdate_eq _ (hr.interface i l hl),← hor]
  obtain ⟨ls,heq,hs⟩ := exists_updateTransports { s₁ with links := s₁.links.erase i } l
  rw [heq]
  have hne : ∀ {j : ℤ} {o : TransportLink}, (s₁.links.erase i).lookup j = some o → s₁.links.lookup j = some o := by
    intro j o ho
    by_cases hj : j = i
    · subst hj
      cases (AList.lookup_erase j s₁.links).symm.trans ho
    · exact (AList.lookup_erase_ne hj).symm.trans ho
  constructor
  · intro hrt
    refine ⟨fun j o ho => hr.interface j o (hne ho),fun j hj => ?_,fun j o ho hsl => ?_⟩
    · have hj' : j ≠ i := fun heq => hrt (heq ▸ hj)
      rw [AList.lookup_erase_ne hj']
      exact hr.route j hj
    · rw [hs]
      exact .inl (hr.listed j o (hne ho) hsl)
  · intro ha hm
    exact ha.route i hm (AList.lookup_erase i s₁.links)

lemma tablesRight_resolve_iff : (s.locked = true ∨ ∃ l, (s.getLink i bi).2 = .ok l ∧ True) ↔
      TablesRight ad (s.resolve i bi).1 := by
  refine tablesRight_withLink_iff h bi (fun hl => ?_) ?_
  · exact not_tablesRight_addLink s i ⟨hl.interface,hl.route,hl.listed⟩
  · intro s₁ l hr hln _ _
    rw [if_neg (hr.interface i l hln)]
    exact iff_of_true trivial hr

end

lemma tablesRight_onNetworkUpdate_iff (h : TablesRight ad s) (b : ℤ → Except GoError InterfaceRef) :
    (s.locked = true ∨ ∀ i l, s.links.lookup i = some l → unchanged b i l = true →
      ∀ d ∈ l.domain, usable ad d = false) ↔ TablesRight ad (s.onNetworkUpdate b).1 := by
  rw [onNetworkUpdate]
  by_cases hl : s.locked = true
  · rw [if_pos hl]
    exact iff_of_true (.inl hl) h
  rw [if_neg hl,or_iff_right hl]
  have ho : (s.networkUpdated b).defaultRouteSequence = [] := by
    rw [sequence_networkUpdated]
    refine filter_eq_nil_iff.mpr fun i hi hn => ?_
    exact h.route i hi (Option.isNone_iff_eq_none.mp hn)
  have hlf : ∀ i l, (s.networkUpdated b).links.lookup i = some l ↔
      s.links.lookup i = some l ∧ unchanged b i l = true := by
    intro i l
    rw [lookup_networkUpdated,Option.filter_eq_some_iff]
  constructor
  · intro hdm
    refine ⟨fun i l hln => ?_,fun i hi => ?_,fun i l hln hs => ?_⟩
    · exact h.interface i l ((hlf i l).mp hln).1
    · rw [ho] at hi
      cases hi
    · obtain ⟨hol,hsm⟩ := (hlf i l).mp hln
      obtain ⟨d,hd,hu⟩ | ⟨-,hr⟩ := hs
      · rw [hdm i l hol hsm d hd] at hu
        cases hu
      · rw [ho] at hr
        cases hr
  · intro hrg i l hln hsm d hd
    by_contra hu
    refine hrg.listed i l ((hlf i l).mpr ⟨hln,hsm⟩) (.inl ⟨d,hd,?_⟩) ?_
    · exact Bool.not_eq_false _ ▸ hu
    · exact s.linkServers_networkUpdated b hln

end

section
variable {acceptDefaultResolvers ad : Bool} {s : State}

lemma selectByRoute_cases {o : List ℤ} (h : ∀ i ∈ o, s.links.lookup i ≠ none) (sl : Option TransportLink) :
    s.selectByRoute o sl = some sl ∨
      ∃ i ∈ o, ∃ l, s.links.lookup i = some l ∧ s.selectByRoute o sl = some (some l) := by
  induction o generalizing sl with
  | nil => exact .inl rfl
  | cons i o ih =>
    obtain ⟨l,hl⟩ := Option.ne_none_iff_exists'.mp (h i mem_cons_self)
    refine .inr ?_
    simp only [selectByRoute,hl]
    split_ifs
    · exact ⟨i,mem_cons_self,l,hl,rfl⟩
    · obtain hsm | ⟨j,hj,ot,ho,hs⟩ := ih (fun j hj => h j (mem_cons_of_mem i hj)) (some l)
      · exact ⟨i,mem_cons_self,l,hl,hsm⟩
      · exact ⟨j,mem_cons_of_mem i hj,ot,ho,hs⟩

lemma TablesRight.selectLink_cases (h : TablesRight ad s) {v : List TransportLink}
    (hv : v.Perm (s.links.entries.map Sigma.snd)) (n : Bytes) : s.selectLink ad v n = some none ∨
      ∃ i l, s.links.lookup i = some l ∧ Selectable ad s.defaultRouteSequence i l ∧
        s.selectLink ad v n = some (some l) := by
  rw [selectLink,selectByDomain_eq]
  obtain ⟨l,hm,hfn,hls⟩ | ⟨-,hls⟩ := Visit.last_cases (forName ad n) v none
  · rw [hls]
    obtain ⟨⟨i,l⟩,he,rfl⟩ := mem_map.mp (hv.mem_iff.mp hm)
    obtain ⟨d,hd,hf⟩ := any_eq_true.mp hfn
    exact .inr ⟨i,l,AList.mem_lookup_iff.mpr he,.inl ⟨d,hd,(Bool.and_eq_true_iff.mp hf).1⟩,rfl⟩
  · rw [hls]
    cases ad with
    | false => exact .inl rfl
    | true =>
      have hr : ∀ i ∈ s.defaultRouteSequence.reverse, s.links.lookup i ≠ none :=
        fun i hi => h.route i (mem_reverse.mp hi)
      obtain hn | ⟨i,hi,l,hl,hs⟩ := selectByRoute_cases hr none
      · exact .inl hn
      · exact .inr ⟨i,l,hl,.inr ⟨rfl,mem_reverse.mp hi⟩,hs⟩

structure QueriesSafe (acceptDefaultResolvers : Bool) (s : State) : Prop where
  exchange : ∀ visited : List TransportLink, visited.Perm (s.links.entries.map Sigma.snd) → ∀ name,
    s.exchange acceptDefaultResolvers visited name ≠ .nilPointer
  resolve : ∀ i byIndex, (s.resolve i byIndex).2 ≠ .nilPointer

lemma TablesRight.queriesSafe (h : TablesRight ad s) : QueriesSafe ad s := by
  refine ⟨fun v hv n => ?_,fun i b => ?_⟩
  · rw [exchange]
    by_cases hl : s.locked = true
    · rw [if_pos hl]
      exact fun h => by cases h
    rw [if_neg hl]
    obtain hn | ⟨i,l,hln,hs,hsl⟩ := h.selectLink_cases hv n
    · rw [hn]
      exact fun h => by cases h
    · rw [hsl]
      obtain ⟨ss,hsr⟩ := Option.ne_none_iff_exists'.mp (h.listed i l hln hs)
      simp only [hsr]
      cases ss with
      | nil | cons server ss => exact fun h => by cases h
  · unfold State.resolve withLink
    split_ifs with hl
    · exact fun h => by cases h
    obtain ⟨l,hln,hg⟩ | ⟨ii,-,hg⟩ | ⟨e,-,hg⟩ := s.getLink_cases i b
    · rw [hg]
      simp only [if_neg (h.interface i l hln)]
      exact fun h => by cases h
    all_goals
      rw [hg]
      exact fun h => by cases h

end

variable (acceptDefaultResolvers ad : Bool)

/-- What a call has to meet for the tables to stay right. A call that does not get the lock changes nothing. -/
def KeepsTables (s : State) : Event → Prop
  | .setLinkDNS i byIndex addresses =>
    KeepsEdit acceptDefaultResolvers s byIndex (Edit.dns i addresses)
  | .setLinkDNSEx i byIndex addresses =>
    KeepsEdit acceptDefaultResolvers s byIndex (Edit.dnsEx i addresses)
  | .setLinkDomains i byIndex domains =>
    KeepsEdit acceptDefaultResolvers s byIndex (Edit.domains i domains)
  | .setLinkDefaultRoute i byIndex defaultRoute =>
    KeepsEdit acceptDefaultResolvers s byIndex (Edit.ofRoute i defaultRoute)
  | .setLinkDNSOverTLS i byIndex mode =>
    KeepsEdit acceptDefaultResolvers s byIndex (Edit.dnsOverTLS i mode)
  | .revertLink i byIndex =>
    s.locked = true ∨ ∃ link, (s.getLink i byIndex).2 = .ok link ∧ i ∉ s.defaultRouteSequence
  | .resolve i byIndex => s.locked = true ∨ ∃ link, (s.getLink i byIndex).2 = .ok link ∧ True
  | .networkUpdate byIndex =>
    s.locked = true ∨ ∀ i link, s.links.lookup i = some link → unchanged byIndex i link = true →
      ∀ domain ∈ link.domain, usable acceptDefaultResolvers domain = false

lemma keepsTables_iff {s : State} (h : TablesRight ad s) (e : Event) :
    s.KeepsTables ad e ↔ TablesRight ad (s.next e) := by
  cases e with
  | setLinkDNS i b _ | setLinkDNSEx i b _ | setLinkDomains i b _ | setLinkDefaultRoute i b _
  | setLinkDNSOverTLS i b => exact tablesRight_editLink_iff h b _
  | revertLink i b => exact tablesRight_revertLink_iff h b
  | resolve i b => exact tablesRight_resolve_iff h b
  | networkUpdate b => exact tablesRight_onNetworkUpdate_iff h b

end State

/-- The tables are right in every state of a run exactly where each call keeps to its condition, and then no query
follows a pointer that is nil. -/
theorem queries_safe_iff (acceptDefaultResolvers : Bool) (events : List Event) :
    (Run.Along State.next (State.KeepsTables acceptDefaultResolvers) {} events ↔
      Run.Throughout State.next (State.TablesRight acceptDefaultResolvers) {} events) ∧
    (Run.Along State.next (State.KeepsTables acceptDefaultResolvers) {} events →
      Run.Throughout State.next (State.QueriesSafe acceptDefaultResolvers) {} events) := by
  have hn : State.TablesRight acceptDefaultResolvers {} := by
    refine ⟨fun i l hl => ?_,fun i hi => ?_,fun i l hl => ?_⟩
    · cases hl
    · cases hi
    · cases hl
  have hk : ∀ (s : State) e, s.TablesRight acceptDefaultResolvers →
      (s.KeepsTables acceptDefaultResolvers e ↔ (s.next e).TablesRight acceptDefaultResolvers) :=
    fun s e h => State.keepsTables_iff acceptDefaultResolvers h e
  refine ⟨Run.along_iff_throughout hk events hn,fun ha => ?_⟩
  exact Run.throughout_of_along (fun s e h => (hk s e h).mp) (fun s h => h.queriesSafe) hn ha

/-- Calls that leave something missing for the query after them: a default route is reverted; an update of the network
finds all as it was; an address is none; an interface is not found. -/
theorem queries_follow_nil : (∃ s, s = [Event.setLinkDNS 1 (.ok 7) [⟨[1,1,1,1]⟩],.setLinkDefaultRoute 1 (.ok 7) true,
        .revertLink 1 (.ok 7)].foldl State.next {} ∧
      s.exchange true (s.links.entries.map Sigma.snd) (ascii "a.") = .nilPointer) ∧
    (∃ s, s = [Event.setLinkDNS 1 (.ok 7) [⟨[1,1,1,1]⟩],.setLinkDomains 1 (.ok 7) [⟨ascii "a.",false⟩],
        .networkUpdate fun _ => .ok 7].foldl State.next {} ∧
      s.exchange false (s.links.entries.map Sigma.snd) (ascii "a.") = .nilPointer) ∧
    (∃ s, s = [Event.setLinkDNS 1 (.ok 7) [⟨[1]⟩],.setLinkDomains 1 (.ok 7) [⟨ascii "a.",false⟩]].foldl State.next {} ∧
      s.exchange false (s.links.entries.map Sigma.snd) (ascii "a.") = .nilPointer) ∧
    ∃ s, s = [Event.setLinkDNS 1 (.error { text := "no such network interface" }) []].foldl State.next {} ∧
      (s.resolve 1 (.ok 7)).2 = .nilPointer := by
  refine ⟨⟨_,rfl,rfl⟩,⟨_,rfl,rfl⟩,⟨_,rfl,rfl⟩,_,rfl,rfl⟩

end SingBox.Resolved
