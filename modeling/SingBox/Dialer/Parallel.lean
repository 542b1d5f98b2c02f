import SingBox.Adapter.InboundContext
import SingBox.Library.Race

/-! Dialing in parallel (`common/dialer`): over the interfaces that a network strategy selects, and over the addresses of
both families. Both races have their fallbacks behind a timer that the first failure of a primary dial sets off. The delay
of the timer is left open: it may expire at any time. -/
namespace SingBox.Dialer
open Adapter List

/-- `adapter.NetworkInterface` with the index of its `control.Interface`. -/
structure Interface extends NetworkInterface where
  index : ℤ := 0

/-- What the network manager says about interfaces; the default one is known by its index. -/
structure NetworkManager where
  networkInterfaces : List Interface := []
  defaultInterface : Option ℤ := none

section
variable (networkManager : NetworkManager) (strategy : NetworkStrategy)
  (interfaceType fallbackInterfaceType : List InterfaceType)

def ofTypes (types : List InterfaceType) : List Interface :=
  networkManager.networkInterfaces.filter fun it => types.contains it.type

/-- Without types the interfaces are those that the default one is, or all where there is none. The fallback strategy
takes the first such interface only. -/
def selectPrimary : List Interface :=
  match strategy with
  | .default =>
      if interfaceType.length = 0 then
        match networkManager.defaultInterface with
        | some index => networkManager.networkInterfaces.filter fun iif => iif.index == index
        | none => networkManager.networkInterfaces
      else ofTypes networkManager interfaceType
  | .hybrid =>
      if interfaceType.length = 0 then networkManager.networkInterfaces else ofTypes networkManager interfaceType
  | .fallback =>
      if interfaceType.length = 0 then
        match networkManager.defaultInterface with
        | some index => (networkManager.networkInterfaces.find? fun iif => iif.index == index).toList
        | none => networkManager.networkInterfaces
      else ofTypes networkManager interfaceType

/-- `selectInterfaces`. -/
def selectInterfaces : List Interface × List Interface :=
  let primaryInterfaces := selectPrimary networkManager strategy interfaceType
  let fallbackInterfaces :=
    if strategy = .fallback then
      if fallbackInterfaceType.length = 0 then
        networkManager.networkInterfaces.filter fun it => !primaryInterfaces.any fun iif => it.index == iif.index
      else ofTypes networkManager fallbackInterfaceType
    else []
  (primaryInterfaces,fallbackInterfaces)

end

section
variable {κ : Type} (primaryInterfaces fallbackInterfaces : List Interface)

/-- One racer for each interface. -/
abbrev Racers : Type := Fin primaryInterfaces.length ⊕ Fin fallbackInterfaces.length

variable {primaryInterfaces fallbackInterfaces}

def Racers.iif : Racers primaryInterfaces fallbackInterfaces → Interface
  | .inl i => primaryInterfaces.get i
  | .inr i => fallbackInterfaces.get i

def Racers.primary (racer : Racers primaryInterfaces fallbackInterfaces) : Bool := racer.isLeft

def dialError (racer : Racers primaryInterfaces fallbackInterfaces) (err : GoError) : GoError :=
  err.cause ("dial "++racer.iif.name++" ("++toString racer.iif.index++")")

def offered (dial : Racers primaryInterfaces fallbackInterfaces → Except GoError κ)
    (racer : Racers primaryInterfaces fallbackInterfaces) : Except GoError κ :=
  match dial racer with
  | .ok conn => .ok conn
  | .error err => .error (dialError racer err)

/-- What `dialParallelInterface` returns when its race is over: the connection and whether it is a primary one, or all
errors. -/
def interfaceResult (s : Race.State (Racers primaryInterfaces fallbackInterfaces) κ GoError) :
    Option (Except (List GoError) (κ × Bool)) :=
  match s.result with
  | some (.ok (racer,conn)) => some (.ok (conn,racer.primary))
  | some (.error errors) => some (.error (errors.map Prod.snd))
  | none => none

variable (primaryInterfaces fallbackInterfaces)

def fallbackTimer : Race.Timer := if 0 < fallbackInterfaces.length then .armed else .absent

/-- `dialParallelInterface` from the selected interfaces up to its loop. -/
def dialParallelInterface :
    Except GoError (Race.State (Racers primaryInterfaces fallbackInterfaces) κ GoError) :=
  if primaryInterfaces.length+fallbackInterfaces.length = 0 then .error { text := "no available network interface" }
  else .ok (Race.start Racers.primary (fallbackTimer fallbackInterfaces))

end

section
variable {κ : Type}

/-- An address with what the dial of it returns. -/
abbrev Attempt (κ : Type) : Type := Addr × Except GoError κ

/-- The loop of `DialSerialNetwork`, over a dialer that has no `DialParallelNetwork` of its own. -/
def dialSerialNetwork : List (Attempt κ) → List GoError → Except (List GoError) κ
  | [], errors => .error errors
  | attempt::rest, errors =>
      match attempt.2 with
      | .ok conn => .ok conn
      | .error err => dialSerialNetwork rest (errors++[err])

def attempts4 (attempts : List (Attempt κ)) : List (Attempt κ) :=
  attempts.filter fun attempt => attempt.1.is4 || attempt.1.is4In6

def attempts6 (attempts : List (Attempt κ)) : List (Attempt κ) :=
  attempts.filter fun attempt => attempt.1.is6 && !attempt.1.is4In6

/-- `DialParallelNetwork` up to its loop: a panic, a serial dial or a race of two families. -/
inductive NetworkDial (κ : Type)
  | panicked (message : String)
  | serial (result : Except (List GoError) κ)
  | race (primaries fallbacks : List (Attempt κ))

/-- `destination` is the dial of the destination where it is an IP address. -/
def dialParallelNetwork (destination : Option (Attempt κ)) (attempts : List (Attempt κ)) (preferIPv6 : Bool) :
    NetworkDial κ :=
  match if attempts.length = 0 then destination.map fun attempt => [attempt] else some attempts with
  | none => .panicked "invalid usage"
  | some attempts =>
      let addresses4 := attempts4 attempts
      let addresses6 := attempts6 attempts
      if addresses4.length = 0 ∨ addresses6.length = 0 then .serial (dialSerialNetwork attempts [])
      else if preferIPv6 then .race addresses6 addresses4
      else .race addresses4 addresses6

/-- The racer `true` dials the primary family. -/
def family (primaries fallbacks : List (Attempt κ)) (primary : Bool) : List (Attempt κ) :=
  if primary then primaries else fallbacks

def dialedFamily (primaries fallbacks : List (Attempt κ)) (primary : Bool) : Except (List GoError) κ :=
  dialSerialNetwork (family primaries fallbacks primary) []

def startNetwork : Race.State Bool κ (List GoError) := Race.start id .armed

/-- What `DialParallelNetwork` returns when its race is over: the connection, or the errors of the primary family. -/
def networkResult (s : Race.State Bool κ (List GoError)) : Option (Except (List GoError) κ) :=
  match s.result with
  | some (.ok (_,conn)) => some (.ok conn)
  | some (.error errors) => some (.error ((errors.lookup true).getD []))
  | none => none

end

section
variable {κ : Type} (att : List (Attempt κ))

lemma dialSerialNetwork_cases (es : List GoError) : (∃ b a c af, att = b++(a,.ok c)::af ∧
      (∀ am ∈ b, ∃ e, am.2 = .error e) ∧ dialSerialNetwork att es = .ok c) ∨
    ∃ fl, att.map Prod.snd = fl.map .error ∧ dialSerialNetwork att es = .error (es++fl) := by
  induction att generalizing es with
  | nil => exact .inr ⟨[],rfl,by rw [append_nil]; rfl⟩
  | cons am r ih =>
    obtain ⟨a,o⟩ := am
    cases o with
    | ok c => exact .inl ⟨[],a,c,r,rfl,fun _ h => absurd h not_mem_nil,rfl⟩
    | error e =>
      obtain ⟨b,a',c,af,rfl,hb,hd⟩ | ⟨fl,hf,hd⟩ := ih (es++[e])
      · refine .inl ⟨(a,.error e)::b,a',c,af,rfl,fun am hm => ?_,hd⟩
        rcases mem_cons.mp hm with rfl | hm
        · exact ⟨e,rfl⟩
        · exact hb am hm
      · refine .inr ⟨e::fl,?_,?_⟩
        · rw [map_cons,map_cons,hf]
        · rw [dialSerialNetwork]
          dsimp only
          rw [hd,append_assoc]
          rfl

lemma forall_failed_of_dialSerialNetwork {att : List (Attempt κ)} {es : List GoError}
    (h : dialSerialNetwork att [] = .error es) : ∀ a ∈ att, ∃ e, a.2 = .error e := by
  obtain ⟨-,-,c,-,-,-,hd⟩ | ⟨fl,hf,-⟩ := dialSerialNetwork_cases att []
  · cases h.symm.trans hd
  · intro a hm
    have hs : a.2 ∈ fl.map Except.error := by
      rw [← hf]
      exact mem_map_of_mem hm
    obtain ⟨e,-,he⟩ := mem_map.mp hs
    exact ⟨e,he.symm⟩

lemma dialSerialNetwork_ok_iff : (∃ c, dialSerialNetwork att [] = .ok c) ↔ ∃ a ∈ att, ∃ c, a.2 = .ok c := by
  constructor
  · rintro ⟨c,hd⟩
    obtain ⟨b,ad,c',af,rfl,-,-⟩ | ⟨fl,-,hf⟩ := dialSerialNetwork_cases att []
    · exact ⟨(ad,.ok c'),mem_append_right _ mem_cons_self,c',rfl⟩
    · cases hd.symm.trans hf
  · rintro ⟨a,hm,c,hc⟩
    cases hd : dialSerialNetwork att [] with
    | ok c' => exact ⟨c',rfl⟩
    | error =>
      obtain ⟨e,he⟩ := forall_failed_of_dialSerialNetwork hd a hm
      cases hc.symm.trans he

end

variable {κ : Type}

/-- The race over the selected interfaces settles; what it returns is the connection of a dial, or the errors of all. -/
structure InterfaceRaceRight {primaryInterfaces fallbackInterfaces : List Interface}
    (dial : Racers primaryInterfaces fallbackInterfaces → Except GoError κ)
    (start : Race.State (Racers primaryInterfaces fallbackInterfaces) κ GoError) : Prop where
  settles : Race.Settles Racers.primary (offered dial) start
  conn : ∀ history s, Run (Race.Step Racers.primary (offered dial)) start history s →
    ∀ conn primary, interfaceResult s = some (.ok (conn,primary)) → ∃ racer, dial racer = .ok conn ∧ racer.primary = primary
  errors : ∀ history s, Run (Race.Step Racers.primary (offered dial)) start history s →
    ∀ errors, interfaceResult s = some (.error errors) →
      ∀ racer, ∃ err, dial racer = .error err ∧ dialError racer err ∈ errors

def InterfaceDialRight (primaryInterfaces fallbackInterfaces : List Interface)
    (dial : Racers primaryInterfaces fallbackInterfaces → Except GoError κ) : Prop :=
  match dialParallelInterface primaryInterfaces fallbackInterfaces with
  | .error _ => primaryInterfaces = [] ∧ fallbackInterfaces = []
  | .ok start => InterfaceRaceRight dial start

/-- A serial dial opens one connection at most: the first success, or all failures in order. -/
def SerialRight (attempts : List (Attempt κ)) (result : Except (List GoError) κ) : Prop :=
  (∃ before address conn after, attempts = before++(address,.ok conn)::after ∧
    (∀ attempt ∈ before, ∃ err, attempt.2 = .error err) ∧ result = .ok conn) ∨
  ∃ failures, attempts.map Prod.snd = failures.map .error ∧ result = .error failures

/-- The race of the families settles; a family succeeds with one of its addresses, and what is returned is a connection
to one of the addresses, or the errors of the primary ones after failures of all. -/
structure NetworkRaceRight (attempts primaries fallbacks : List (Attempt κ)) : Prop where
  settles : Race.Settles id (dialedFamily primaries fallbacks) (startNetwork : Race.State Bool κ (List GoError))
  families : ∀ primary, (∃ conn, dialedFamily primaries fallbacks primary = .ok conn) ↔
    ∃ attempt ∈ family primaries fallbacks primary, ∃ conn, attempt.2 = .ok conn
  conn : ∀ history s, Run (Race.Step id (dialedFamily primaries fallbacks)) startNetwork history s →
    ∀ conn, networkResult s = some (.ok conn) → ∃ attempt ∈ attempts, attempt.2 = .ok conn
  errors : ∀ history s, Run (Race.Step id (dialedFamily primaries fallbacks)) startNetwork history s →
    ∀ errors, networkResult s = some (.error errors) → primaries.map Prod.snd = errors.map .error ∧
      ∀ attempt ∈ attempts, attempt.1.isValid → ∃ err, attempt.2 = .error err

def NetworkDialRight (destination : Option (Attempt κ)) (attempts : List (Attempt κ)) (preferIPv6 : Bool) : Prop :=
  match dialParallelNetwork destination attempts preferIPv6 with
  | .panicked _ => destination = none ∧ attempts = []
  | .serial result => SerialRight (if attempts.length = 0 then destination.toList else attempts) result
  | .race primaries fallbacks => NetworkRaceRight attempts primaries fallbacks

section
variable {pi fi : List Interface} {d : Racers pi fi → Except GoError κ} {r : Racers pi fi}
  {s : Race.State (Racers pi fi) κ GoError}

lemma offered_ok {c : κ} (h : offered d r = .ok c) : d r = .ok c := by
  unfold offered at h
  cases hd : d r with
  | ok =>
    rw [hd] at h
    exact h
  | error =>
    rw [hd] at h
    cases h

lemma offered_error {e : GoError} (h : offered d r = .error e) : ∃ e', d r = .error e' ∧ e = dialError r e' := by
  unfold offered at h
  cases hd : d r with
  | ok =>
    rw [hd] at h
    cases h
  | error e' =>
    rw [hd] at h
    exact ⟨e',rfl,(Except.error.inj h).symm⟩

lemma interfaceResult_ok {c : κ} {p : Bool}
    (h : interfaceResult s = some (.ok (c,p))) : ∃ r, s.result = some (.ok (r,c)) ∧ p = r.primary := by
  unfold interfaceResult at h
  split at h
  · rename_i r c' hr
    cases h
    exact ⟨r,hr,rfl⟩
  all_goals cases h

lemma interfaceResult_error {es : List GoError}
    (h : interfaceResult s = some (.error es)) : ∃ ps, s.result = some (.error ps) ∧ es = ps.map Prod.snd := by
  unfold interfaceResult at h
  split at h
  · cases h
  · rename_i ps hr
    cases h
    exact ⟨ps,hr,rfl⟩
  · cases h

end

lemma dialParallelInterface_right (primaryInterfaces fallbackInterfaces : List Interface)
    (dl : Racers primaryInterfaces fallbackInterfaces → Except GoError κ) :
    InterfaceDialRight primaryInterfaces fallbackInterfaces dl := by
  rw [InterfaceDialRight,dialParallelInterface]
  by_cases he : primaryInterfaces.length+fallbackInterfaces.length = 0
  · rw [if_pos he]
    obtain ⟨hp,hf⟩ := Nat.add_eq_zero_iff.mp he
    exact ⟨eq_nil_of_length_eq_zero hp,eq_nil_of_length_eq_zero hf⟩
  · rw [if_neg he]
    have hc : 0 < Fintype.card (Racers primaryInterfaces fallbackInterfaces) := by
      rw [Fintype.card_sum,Fintype.card_fin,Fintype.card_fin]
      exact Nat.pos_of_ne_zero he
    have hs : Race.Settles Racers.primary (offered dl) (Race.start Racers.primary (fallbackTimer fallbackInterfaces)) := by
      refine Race.settles_start hc ?_ ?_
      · unfold fallbackTimer
        split_ifs <;> decide
      · unfold fallbackTimer
        split_ifs with hf
        · exact fun h => (by cases h)
        · -- without a timer there is no fallback racer
          rintro - (i | i)
          · rfl
          · exact absurd (Nat.zero_lt_of_lt i.isLt) hf
    refine ⟨hs,fun history s hr c p hrs => ?_,fun history s hr es hrs rc => ?_⟩
    · obtain ⟨rc,hw,rfl⟩ := interfaceResult_ok hrs
      exact ⟨rc,offered_ok (hs.returned history s hr rc c hw).2,rfl⟩
    · obtain ⟨ps,hl,rfl⟩ := interfaceResult_error hrs
      obtain ⟨-,e,her,hm⟩ := (hs.gaveUp history s hr ps hl).1 rc
      obtain ⟨e',he',rfl⟩ := offered_error her
      exact ⟨e',he',mem_map.mpr ⟨_,hm,rfl⟩⟩

variable {attempts : List (Attempt κ)} {s : Race.State Bool κ (List GoError)}

lemma mem_families {a : Attempt κ} (hm : a ∈ attempts)
    (hv : a.1.isValid = true) : a ∈ attempts4 attempts ∨ a ∈ attempts6 attempts := by
  rw [attempts4,attempts6,mem_filter,mem_filter]
  obtain ⟨ad,o⟩ := a
  cases hin : ad.is4In6 with
  | true => exact .inl ⟨hm,by simp⟩
  | false =>
    cases ad with
    | invalid => cases hv
    | v4 => exact .inl ⟨hm,rfl⟩
    | v6 => exact .inr ⟨hm,by simp [Addr.is6]⟩

lemma networkResult_ok {c : κ} (h : networkResult s = some (.ok c)) : ∃ p, s.result = some (.ok (p,c)) := by
  unfold networkResult at h
  split at h
  · rename_i p c' hr
    cases h
    exact ⟨p,hr⟩
  all_goals cases h

lemma networkResult_error {es : List GoError}
    (h : networkResult s = some (.error es)) : ∃ ps, s.result = some (.error ps) ∧ es = (ps.lookup true).getD [] := by
  unfold networkResult at h
  split at h
  · cases h
  · rename_i ps hr
    cases h
    exact ⟨ps,hr,rfl⟩
  · cases h

lemma families_right {primaries fallbacks : List (Attempt κ)}
    (hfr : ∀ attempt ∈ primaries++fallbacks, attempt ∈ attempts)
    (ha : ∀ attempt ∈ attempts, attempt.1.isValid → attempt ∈ primaries ∨ attempt ∈ fallbacks) :
    NetworkRaceRight attempts primaries fallbacks := by
  have hs : Race.Settles id (dialedFamily primaries fallbacks) (startNetwork : Race.State Bool κ (List GoError)) :=
    Race.settles_start (by decide) (by decide) fun h => (by cases h)
  refine ⟨hs,fun primary => dialSerialNetwork_ok_iff _,fun history s hrn conn hrs => ?_,
    fun history s hrn errors hrs => ?_⟩
  · obtain ⟨primary,hw⟩ := networkResult_ok hrs
    have hd := (hs.returned history s hrn primary conn hw).2
    obtain ⟨before,address,conn',after,hfm,-,hok⟩ | ⟨failures,-,hf⟩ :=
      dialSerialNetwork_cases (family primaries fallbacks primary) []
    · cases hd.symm.trans hok
      have hm : (address,.ok conn) ∈ family primaries fallbacks primary := by
        rw [hfm]
        exact mem_append_right _ mem_cons_self
      refine ⟨(address,.ok conn),hfr _ ?_,rfl⟩
      cases primary with
      | true => exact mem_append_left _ hm
      | false => exact mem_append_right _ hm
    · cases hd.symm.trans hf
  · obtain ⟨pairs,hls,rfl⟩ := networkResult_error hrs
    obtain ⟨he,hpr⟩ := hs.gaveUp history s hrn pairs hls
    obtain ⟨-,primaryErrors,hp,hm⟩ := he true
    obtain ⟨-,fallbackErrors,hfk,-⟩ := he false
    have hlk : pairs.lookup true = some primaryErrors := by
      cases hfn : pairs.lookup true with
      | none => exact absurd (lookup_eq_none_iff.mp hfn (true,primaryErrors) hm) (by simp)
      | some errors' =>
        obtain ⟨before,after,rfl,-⟩ := lookup_eq_some_iff.mp hfn
        have her := hpr true errors' (mem_append_right _ mem_cons_self)
        rw [Except.error.inj (her.symm.trans hp)]
    rw [hlk,Option.getD_some]
    refine ⟨?_,fun attempt hm hv => ?_⟩
    · obtain ⟨-,-,conn,-,-,-,hok⟩ | ⟨failures,hfl,hf⟩ := dialSerialNetwork_cases primaries []
      · cases hok.symm.trans hp
      · rw [hfl,Except.error.inj (hp.symm.trans hf)]
        rfl
    · obtain hl | hr := ha attempt hm hv
      · exact forall_failed_of_dialSerialNetwork hp attempt hl
      · exact forall_failed_of_dialSerialNetwork hfk attempt hr

lemma dialParallelNetwork_right (d : Option (Attempt κ)) (attempts : List (Attempt κ)) (p : Bool) :
    NetworkDialRight d attempts p := by
  have hs : ∀ ts : List (Attempt κ), SerialRight ts (dialSerialNetwork ts []) :=
    fun ts => dialSerialNetwork_cases ts []
  have hfr : ∀ a ∈ attempts4 attempts++attempts6 attempts, a ∈ attempts := by
    intro a hm
    rcases mem_append.mp hm with hm | hm <;> exact (mem_filter.mp hm).1
  have ho : ∀ a : Attempt κ, (attempts4 [a]).length = 0 ∨ (attempts6 [a]).length = 0 := by
    rintro ⟨ad,o⟩
    cases ad with
    | invalid => exact .inl rfl
    | v4 => exact .inr rfl
    | v6 b z =>
      cases hin : (Addr.v6 b z).is4In6 with
      | true => exact .inr (by simp [attempts6,hin])
      | false => exact .inl (by simp [attempts4,hin,Addr.is4])
  rw [NetworkDialRight,dialParallelNetwork]
  by_cases he : attempts.length = 0
  · simp only [if_pos he]
    cases d with
    | none => exact ⟨rfl,eq_nil_of_length_eq_zero he⟩
    | some a =>
      simp only [Option.map_some,if_pos (ho a)]
      exact hs [a]
  · simp only [if_neg he]
    by_cases hf : (attempts4 attempts).length = 0 ∨ (attempts6 attempts).length = 0
    · simp only [if_pos hf]
      exact hs attempts
    · simp only [if_neg hf]
      cases p with
      | true =>
        refine families_right (fun a hm => hfr a ?_) fun a hm hv => (mem_families hm hv).symm
        exact mem_append.mpr (mem_append.mp hm).symm
      | false => exact families_right hfr fun a hm hv => mem_families hm hv

end SingBox.Dialer
