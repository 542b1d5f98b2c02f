import SingBox.Group.LateDials

/-! Connections that are routed into a tree of groups. A selector hands a connection on to what it has selected; a
URL-test group dials it through itself, and then each group on the way registers the connection that it returns. -/
namespace SingBox.Group.Nested

open List Function

inductive Kind
  | selector
  | urlTest (tolerance : ℕ)

/-- An outbound, with `isHandler` where it takes connections itself. A group has the name of its place in the tree. -/
inductive Outbound
  | leaf (isHandler : Bool)
  | group (kind : Kind) (interruptExternalConnections : Bool) (count : ℕ) (outbounds : Fin count → Outbound)

def Outbound.isHandler : Outbound → Bool
  | leaf isHandler => isHandler
  | group .. => true

def Outbound.find : Outbound → List ℕ → Option Outbound
  | tree, [] => some tree
  | leaf _, _::_ => none
  | group _ _ count outbounds, i::path => if h : i < count then (outbounds ⟨i,h⟩).find path else none

structure Selected where
  selector : List ℕ → ℕ
  urlTest : List ℕ → Slot → Option ℕ

/-- What a group has selected; a URL-test group without a selection asks `Select`. -/
def Selected.load (s : Selected) (slot : Slot) (readings : List ℕ → Reading ℕ) (kind : Kind) (external : Bool) (count : ℕ)
    (path : List ℕ) : Option ℕ :=
  match kind with
  | .selector => some (s.selector path)
  | .urlTest tolerance => (s.urlTest path slot).or
      ((URLTestGroup.select ⟨List.range count,tolerance,external⟩ none (readings path)).map Prod.fst)

section
variable (load : Kind → Bool → ℕ → List ℕ → Option ℕ)

/-- `DialContext` and `ListenPacket`: the place where the dial ends, and the groups that register its connection. -/
def dial : Outbound → List ℕ → Option (List ℕ × List (List ℕ))
  | .leaf _, path => some (path,[])
  | .group kind external count outbounds, path =>
    match load kind external count path with
    | none => none
    | some i =>
      if h : i < count then (dial (outbounds ⟨i,h⟩) (path++[i])).map fun dialed => (dialed.1,dialed.2++[path])
      else none

/-- `NewConnectionEx` and `NewPacketConnectionEx`, down to the dial of the connection manager. -/
def newConnectionEx : Outbound → List ℕ → Option (List ℕ × List (List ℕ))
  | .leaf _, path => some (path,[])
  | .group .selector external count outbounds, path =>
    match load .selector external count path with
    | none => none
    | some i =>
      if h : i < count then
        if (outbounds ⟨i,h⟩).isHandler then newConnectionEx (outbounds ⟨i,h⟩) (path++[i])
        else dial load (outbounds ⟨i,h⟩) (path++[i])
      else none
  | .group (.urlTest tolerance) external count outbounds, path =>
    dial load (.group (.urlTest tolerance) external count outbounds) path

def Outbound.dialed : Outbound → List ℕ → Bool
  | leaf _, _ => false
  | group (.urlTest _) _ _ _, _ => true
  | group .selector _ _ _, [] => false
  | group .selector _ count outbounds, i::path => if h : i < count then (outbounds ⟨i,h⟩).dialed path else false

variable {load} {t : Outbound} {p pl : List ℕ} {gs : List (List ℕ)}

lemma dial_spec (h : dial load t p = some (pl,gs)) :
    (∀ g ∈ gs, p <+: g) ∧ ∃ r, pl = p++r ∧ ∀ q i, q++[i] <+: r → p++q ∈ gs := by
  induction t generalizing p pl gs with
  | leaf =>
    cases h
    exact ⟨by simp,[],by simp,by simp⟩
  | group kn e c os ih =>
    rw [dial] at h
    split at h
    · cases h
    next j _ =>
      split_ifs at h with hj
      obtain ⟨⟨pc',gr'⟩,hd,heq⟩ := Option.map_eq_some_iff.mp h
      cases heq
      obtain ⟨ha,r,hp,hgr⟩ := ih ⟨j,hj⟩ hd
      refine ⟨?_,j::r,by simpa using hp,?_⟩
      · intro g hg
        obtain hg | hg := mem_append.mp hg
        · exact (prefix_append p [j]).trans (ha g hg)
        · simp_all
      · intro q i hq
        cases q with
        | nil => simp
        | cons k q =>
          obtain ⟨rfl,hr⟩ := cons_prefix_cons.mp hq
          simpa using mem_append_left [p] (hgr q i hr)

lemma newConnectionEx_spec (h : newConnectionEx load t p = some (pl,gs)) : (∀ g ∈ gs, p <+: g) ∧
      ∃ r, pl = p++r ∧ ∀ q i, q++[i] <+: r → (p++q ∈ gs ↔ t.dialed q = true) := by
  induction t generalizing p pl gs with
  | leaf =>
    cases h
    exact ⟨by simp,[],by simp,by simp⟩
  | group kn e c os ih =>
    cases kn with
    | urlTest =>
      obtain ⟨ha,r,hp,hgr⟩ := dial_spec h
      exact ⟨ha,r,hp,fun q i hq => iff_of_true (hgr q i hq) (by simp [Outbound.dialed])⟩
    | selector =>
      rw [newConnectionEx] at h
      split at h
      · cases h
      next j _ =>
        split_ifs at h with hj hh
        · obtain ⟨ha,r,hp,hgr⟩ := ih ⟨j,hj⟩ h
          refine ⟨fun g hg => (prefix_append p [j]).trans (ha g hg),j::r,by simpa using hp,?_⟩
          intro q i hq
          cases q with
          | nil =>
            refine iff_of_false (fun hm => ?_) (by simp [Outbound.dialed])
            simpa using (ha _ hm).length_le
          | cons k q =>
            obtain ⟨rfl,hr⟩ := cons_prefix_cons.mp hq
            simpa [Outbound.dialed,hj] using hgr q i hr
        · cases ho : os ⟨j,hj⟩ with
          | group => simp [ho,Outbound.isHandler] at hh
          | leaf =>
            rw [ho] at h
            cases h
            refine ⟨by simp,[j],rfl,?_⟩
            intro q i hq
            cases q with
            | nil => simp [Outbound.dialed]
            | cons => simp [cons_prefix_cons] at hq

end

structure Routed where
  slot : Slot
  place : List ℕ

/-- The connections that were routed, those of each group, and which are open. -/
structure State where
  selected : Selected
  routed : List Routed := []
  connections : List ℕ → List ConnItem := fun _ => []
  isOpen : ℕ → Bool := fun _ => false

/-- A change of a group, with what it replaces for each network, and the selections after it. -/
structure Change where
  path : List ℕ
  external : Bool
  former : Slot → Option ℕ
  selected : Selected

inductive Event
  | route (slot : Slot) (readings : List ℕ → Reading ℕ) (established : Bool)
  | close (d : ℕ)
  | selectOutbound (path : List ℕ) (i : ℕ)
  | performUpdateCheck (path : List ℕ) (reading : Slot → Reading ℕ)

def Event.change (tree : Outbound) (s : Selected) : Event → Option Change
  | .selectOutbound path i =>
    match tree.find path with
    | some (.group .selector external count _) =>
      if i < count ∧ s.selector path ≠ i then
        some ⟨path,external,fun _ => some (s.selector path),{ s with selector := Function.update s.selector path i }⟩
      else none
    | _ => none
  | .performUpdateCheck path reading =>
    match tree.find path with
    | some (.group (.urlTest tolerance) external count _) =>
      let stored slot := URLTestGroup.update ⟨List.range count,tolerance,external⟩ (s.urlTest path slot) (reading slot)
      some ⟨path,external,fun slot => if (stored slot).isSome then s.urlTest path slot else none,
        { s with urlTest := Function.update s.urlTest path fun slot => (stored slot).or (s.urlTest path slot) }⟩
    | _ => none
  | _ => none

namespace State

/-- Routed connections are external ones. -/
def register (s : State) (slot : Slot) (place : List ℕ) (groups : List (List ℕ)) : State :=
  { s with
    routed := s.routed++[⟨slot,place⟩]
    connections := fun path =>
      if path ∈ groups then newConn (s.connections path) s.routed.length true else s.connections path
    isOpen := Function.update s.isOpen s.routed.length true }

def close (s : State) (d : ℕ) : State :=
  { s with connections := fun path => removeConn (s.connections path) d, isOpen := Function.update s.isOpen d false }

/-- `Interrupt` of the group; what it closes is what the groups below returned. -/
def interrupted (s : State) (c : Change) : State :=
  let closed := interrupt c.external (s.connections c.path)
  { s with
    connections := fun path =>
      if path = c.path then closed.2
      else if c.path <+: path then (s.connections path).filter (!closed.1.contains ·.conn)
      else s.connections path
    isOpen := fun d => s.isOpen d && !closed.1.contains d }

def changed (s : State) (c : Change) : State :=
  if (c.former .tcp).isSome || (c.former .udp).isSome then { s with selected := c.selected }.interrupted c
  else { s with selected := c.selected }

def next (tree : Outbound) (s : State) : Event → State
  | .route slot readings established =>
    match newConnectionEx (s.selected.load slot readings) tree [] with
    | some (place,groups) => if established then s.register slot place groups else s
    | none => s
  | .close d => s.close d
  | event =>
    match event.change tree s.selected with
    | some c => s.changed c
    | none => s

/-- The connection goes through what the change replaces. -/
def Through (s : State) (c : Change) (d : ℕ) : Prop :=
  ∃ routed i, s.routed[d]? = some routed ∧ c.former routed.slot = some i ∧ c.path++[i] <+: routed.place

/-- With the option the connections through the former selection are closed, without it none is. -/
def ClosesFormer (s : State) (c : Change) (after : State) : Prop :=
  if c.external then ∀ d, s.Through c d → after.isOpen d = false else ∀ d, after.isOpen d = s.isOpen d

structure Kept (tree : Outbound) (s : State) : Prop where
  external : ∀ path, ∀ item ∈ s.connections path, item.isExternal = true ∧ item.conn < s.routed.length
  registered : ∀ (d : ℕ) (routed : Routed), s.routed[d]? = some routed → s.isOpen d = true → ∀ path i,
    path++[i] <+: routed.place → (⟨d,true⟩ ∈ s.connections path ↔ tree.dialed path = true)

variable {t : Outbound} {s : State} (h : Kept t s)
include h

lemma Kept.register {load : Kind → Bool → ℕ → List ℕ → Option ℕ} {pc : List ℕ}
    {gr : List (List ℕ)} (hrt : newConnectionEx load t [] = some (pc,gr)) (sl : Slot) :
    Kept t (s.register sl pc gr) := by
  obtain ⟨-,rs,hp,hg⟩ := newConnectionEx_spec hrt
  obtain rfl : pc = rs := hp
  have hc : ∀ pt it, it ∈ (s.register sl pc gr).connections pt ↔
      it ∈ s.connections pt ∨ pt ∈ gr ∧ it = ⟨s.routed.length,true⟩ := by
    intro pt it
    simp only [State.register,newConn]
    split_ifs with hpt <;> simp [hpt]
  constructor
  · intro pt it him
    simp only [State.register,List.length_append,List.length_singleton]
    obtain him | ⟨-,rfl⟩ := (hc pt it).mp him
    · obtain ⟨he,hlt⟩ := h.external pt it him
      exact ⟨he,by omega⟩
    · exact ⟨rfl,by simp⟩
  · intro d r hr ho pt i hpt
    rw [hc]
    simp only [State.register] at hr ho
    obtain hd | hd := eq_or_ne d s.routed.length
    · subst hd
      obtain rfl : (⟨sl,pc⟩ : Routed) = r := by simpa using hr
      have hn : ⟨s.routed.length,true⟩ ∉ s.connections pt := fun hm =>
        absurd (h.external pt _ hm).2 (lt_irrefl _)
      simpa [hn] using hg pt i hpt
    · have hlt : d < s.routed.length := by
        have := (List.getElem?_eq_some_iff.mp hr).1
        simp only [List.length_append,List.length_singleton] at this
        omega
      rw [List.getElem?_append_left hlt] at hr
      rw [update_of_ne hd] at ho
      simpa [hd] using h.registered d r hr ho pt i hpt

lemma Kept.of_closed {a : State} (hr : a.routed = s.routed)
    (hsb : ∀ pt it, it ∈ a.connections pt → it ∈ s.connections pt) (ho : ∀ d, a.isOpen d = true → s.isOpen d = true ∧
      ∀ pt, ⟨d,true⟩ ∈ s.connections pt → ⟨d,true⟩ ∈ a.connections pt) : Kept t a := by
  constructor
  · intro pt it him
    rw [hr]
    exact h.external pt it (hsb pt it him)
  · intro d r hd ha pt i hp
    rw [hr] at hd
    obtain ⟨hb,hs⟩ := ho d ha
    rw [← h.registered d r hd hb pt i hp]
    exact ⟨hsb pt _,hs pt⟩

lemma Kept.close (d : ℕ) : Kept t (s.close d) := by
  refine h.of_closed rfl (fun pt i him => mem_of_mem_filter him) ?_
  intro d' ho
  obtain rfl | hne := eq_or_ne d' d
  · simp [State.close] at ho
  · simp only [State.close,update_of_ne hne] at ho
    exact ⟨ho,fun pt hm => by simp [State.close,removeConn,hm,hne]⟩

lemma Kept.interrupted (c : Change) : Kept t (s.interrupted c) := by
  refine h.of_closed rfl ?_ ?_
  · intro pt i him
    simp only [State.interrupted] at him
    split_ifs at him with hp hb
    · exact hp ▸ (mem_interrupt_rest.mp him).1
    · exact mem_of_mem_filter him
    · exact him
  · intro d ho
    simp only [State.interrupted,Bool.and_eq_true,Bool.not_eq_true',contains_eq_mem,decide_eq_false_iff_not] at ho
    refine ⟨ho.1,fun pt hm => ?_⟩
    simp only [State.interrupted]
    split_ifs with hp hb
    · subst hp
      refine mem_interrupt_rest.mpr ⟨hm,?_⟩
      by_contra hin
      exact ho.2 (mem_interrupt.mpr ⟨_,hm,by simpa using hin,rfl⟩)
    · simpa [hm] using ho.2
    · exact hm

lemma Kept.changed (c : Change) : Kept t (s.changed c) := by
  have hs : Kept t { s with selected := c.selected } := ⟨h.external,h.registered⟩
  rw [State.changed]
  split_ifs
  · exact hs.interrupted c
  · exact hs

lemma Kept.next (ev : Event) : Kept t (s.next t ev) := by
  rw [State.next.eq_def]
  split
  next sl rs e =>
    split
    next hr =>
      split_ifs
      · exact h.register hr sl
      · exact h
    · exact h
  next d => exact h.close d
  · split
    · exact h.changed _
    · exact h

lemma isOpen_changed_of_internal {c : Change} (hc : c.external = false) (d : ℕ) :
    (s.changed c).isOpen d = s.isOpen d := by
  have hn : (interrupt c.external (s.connections c.path)).1 = [] := by
    refine eq_nil_iff_forall_not_mem.mpr fun d hd => ?_
    obtain ⟨i,him,hin,-⟩ := mem_interrupt.mp hd
    simp [interrupts,hc,(h.external c.path i him).1] at hin
  rw [changed]
  split_ifs
  · simp [interrupted,hn]
  · rfl

lemma isOpen_changed_of_through {c : Change} (hc : c.external = true) {d : ℕ} (hd : s.Through c d) :
    (s.changed c).isOpen d = false ↔ t.dialed c.path = true ∨ s.isOpen d = false := by
  obtain ⟨r,i,hr,hf,hp⟩ := hd
  have hu : ((c.former .tcp).isSome || (c.former .udp).isSome) = true := by
    cases hs : r.slot <;> simp [← hs,hf]
  cases ho : s.isOpen d with
  | false => simp [changed,hu,interrupted,ho]
  | true =>
    have hcl : d ∈ (interrupt c.external (s.connections c.path)).1 ↔ ⟨d,true⟩ ∈ s.connections c.path := by
      rw [mem_interrupt]
      constructor
      · rintro ⟨⟨d,ie⟩,him,-,rfl⟩
        obtain rfl : ie = true := (h.external c.path _ him).1
        exact him
      · exact fun hm => ⟨_,hm,by simp [interrupts,hc],rfl⟩
    rw [h.registered d r hr ho c.path i hp] at hcl
    simp [changed,hu,interrupted,ho,hcl]

end State

/-- A change closes what goes through the former selection exactly where the group or one above it is a URL-test group,
or no connection through the former selection is open. -/
theorem closes_former_iff (tree : Outbound) (selected : Selected) (events : List Event) :
    Run.Along (State.next tree) (fun s event => ∀ c, event.change tree s.selected = some c →
        s.ClosesFormer c (s.next tree event)) { selected } events ↔
      Run.Along (State.next tree) (fun s event => ∀ c, event.change tree s.selected = some c → c.external = true →
        tree.dialed c.path = true ∨ ∀ d, s.Through c d → s.isOpen d = false) { selected } events := by
  refine Run.along_congr_of_invariant (I := State.Kept tree) (fun s event h _ => h.next event) ?_ events ⟨by simp,by simp⟩
  intro s event h
  refine forall_congr' fun c => forall_congr' fun hc => ?_
  have hn : s.next tree event = s.changed c := by
    cases event with
    | route | close => cases hc
    | selectOutbound path i | performUpdateCheck path reading => simp only [State.next,hc]
  rw [hn,State.ClosesFormer]
  cases he : c.external with
  | false => simpa using State.isOpen_changed_of_internal h he
  | true =>
    have hif : ∀ d, (s.Through c d → (s.changed c).isOpen d = false) ↔
        (s.Through c d → tree.dialed c.path = true ∨ s.isOpen d = false) := fun d =>
      imp_congr_right fun hd => State.isOpen_changed_of_through h he hd
    simp only [if_true,hif,forall_const]
    cases tree.dialed c.path <;> simp

def twoLeaves : Outbound := .group .selector true 2 fun _ => .leaf false

/-- The connection goes through the first outbound and stays open when the second one is selected. -/
theorem routed_connection_stays_open : ∃ s c, s = State.next twoLeaves { selected := ⟨fun _ => 0,fun _ _ => none⟩ }
        (.route .tcp (fun _ => ⟨none,fun _ => none,fun _ => true⟩) true) ∧
      (Event.selectOutbound [] 1).change twoLeaves s.selected = some c ∧ c.external = true ∧ s.Through c 0 ∧
      (s.next twoLeaves (.selectOutbound [] 1)).isOpen 0 = true :=
  ⟨_,_,rfl,rfl,rfl,⟨⟨.tcp,[0]⟩,0,rfl,rfl,prefix_refl _⟩,rfl⟩

end SingBox.Group.Nested
