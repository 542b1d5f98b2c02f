import SingBox.Library.Cut
import SingBox.Service.Resolved
import SingBox.Service.Tailscale

/-! Which servers a name goes to: those of the longest domain that the name lies under, whatever the order in which links
or routes are visited. -/
namespace SingBox.DomainRoutes
open Resolved Tailscale Cut

/-- The labels of a name; a dot at its end makes no difference. -/
def labels (name : Bytes) : List Bytes :=
  let name := if name.getLast? = some dot then name.dropLast else name
  if name = [] then [] else name.splitOn dot

example : labels (ascii "a.b.") = [ascii "a",ascii "b"] := by decide

/-- The name lies under the domain, which ends it at a boundary between labels. -/
def Under (domain name : Bytes) : Prop := labels domain <:+ labels name

instance (domain name : Bytes) : Decidable (Under domain name) := inferInstanceAs (Decidable (_ <:+ _))

section
variable {G : Type} (domains : G → List Bytes)

/-- One of the domains of the group is the longest one that the name lies under. -/
def OwnsLongest (groups : List G) (name : Bytes) (group : G) : Prop :=
  ∃ domain ∈ domains group, Under domain name ∧ ∀ other ∈ groups, ∀ domain' ∈ domains other, Under domain' name →
      (labels domain').length ≤ (labels domain).length

/-- The group with the longest domain is chosen, and none where the name lies under no domain. -/
def RightChoice (groups : List G) (name : Bytes) : Option G → Prop
  | some group => OwnsLongest domains groups name group
  | none => ∀ group ∈ groups, ∀ domain ∈ domains group, ¬ Under domain name

/-- The texts of the domains choose the right group: one that ends the name in its text belongs to a group with the
longest domain, and there is one where the name lies under any. -/
def TextsAgree (groups : List G) (name : Bytes) : Prop :=
  (∀ group ∈ groups, (∃ domain ∈ domains group, domain <:+ name) → OwnsLongest domains groups name group) ∧
    ((∃ group ∈ groups, ∃ domain ∈ domains group, Under domain name) →
      ∃ group ∈ groups, ∃ domain ∈ domains group, domain <:+ name)

lemma textsAgree_iff {gs : List G} {n : Bytes} {p : G → Bool} (hp : ∀ g, p g = true ↔ ∃ d ∈ domains g, d <:+ n) :
    (∀ g ∈ gs, p g = true → RightChoice domains gs n (some g)) ∧
      ((∀ g ∈ gs, p g = false) → RightChoice domains gs n none) ↔ TextsAgree domains gs n := by
  refine and_congr (forall₂_congr fun g _ => imp_congr (hp g) Iff.rfl) ?_
  constructor
  · rintro h ⟨g,hg,d,hd,hu⟩
    by_contra hn
    refine h (fun o ho => ?_) g hg d hd hu
    by_contra ht
    obtain ⟨d',hd',hs⟩ := (hp o).mp (Bool.not_eq_false _ ▸ ht)
    exact hn ⟨o,ho,d',hd',hs⟩
  · intro h hf g hg d hd hu
    obtain ⟨o,ho,d',hd',hs⟩ := h ⟨g,hg,d,hd,hu⟩
    have ht := (hp o).mpr ⟨d',hd',hs⟩
    rw [hf o ho] at ht
    cases ht

end

def linkDomains (acceptDefaultResolvers : Bool) (link : TransportLink) : List Bytes :=
  (link.domain.filter (State.usable acceptDefaultResolvers)).map LinkDomain.domain

lemma forName_iff (ad : Bool) (n : Bytes) (l : TransportLink) : State.forName ad n l = true ↔
      ∃ d ∈ linkDomains ad l, d <:+ n := by
  rw [State.forName,List.any_eq_true]
  constructor
  · rintro ⟨d,hd,hf⟩
    obtain ⟨hu,hs⟩ := Bool.and_eq_true_iff.mp hf
    exact ⟨d.domain,List.mem_map.mpr ⟨d,List.mem_filter.mpr ⟨hd,hu⟩,rfl⟩,of_decide_eq_true hs⟩
  · rintro ⟨_,hm,hs⟩
    obtain ⟨d,hd,rfl⟩ := List.mem_map.mp hm
    obtain ⟨hd,hu⟩ := List.mem_filter.mp hd
    exact ⟨d,hd,Bool.and_eq_true_iff.mpr ⟨hu,decide_eq_true hs⟩⟩

/-- In every order of the links, and of the routes, the right servers are chosen for a name exactly where the texts of
the domains choose them. -/
theorem right_choice_iff (acceptDefaultResolvers : Bool) (links : List TransportLink)
    (routes : List (Bytes × List Tailscale.Server)) (name : Bytes) :
    ((∀ visited : List TransportLink, visited.Perm links → RightChoice (linkDomains acceptDefaultResolvers) links name
        (State.selectByDomain acceptDefaultResolvers name visited)) ↔
      TextsAgree (linkDomains acceptDefaultResolvers) links name) ∧
    ((∀ visited : List (Bytes × List Tailscale.Server), visited.Perm routes →
        RightChoice (fun route => [route.1]) routes name (selectRoute name visited)) ↔
      TextsAgree (fun route => [route.1]) routes name) := by
  constructor
  · rw [← textsAgree_iff _ (forName_iff acceptDefaultResolvers name),← Visit.forall_perm_last_iff]
    refine forall₂_congr fun visited _ => ?_
    rw [State.selectByDomain_eq]
  · have hr : ∀ route : Bytes × List Tailscale.Server, decide (route.1 <:+ name) = true ↔
        ∃ d ∈ [route.1], d <:+ name := by
      intro route
      simp
    rw [← textsAgree_iff _ hr,← Visit.forall_perm_find_iff]
    rfl

def linkOf (id : ℕ) (domain : String) : TransportLink := { id := id, domain := [⟨ascii domain,false⟩] }

/-- A domain that ends inside a label is chosen; of two domains the shorter one is chosen in one order; a domain without a
dot at its end is never chosen. -/
theorem wrong_servers_chosen : (¬ Under (ascii "ample.com.") (ascii "example.com.") ∧
      State.selectByDomain false (ascii "example.com.") [linkOf 0 "ample.com."] = some (linkOf 0 "ample.com.") ∧
      selectRoute (ascii "example.com.") [(ascii "ample.com.",[])] = some (ascii "ample.com.",[])) ∧
    (State.selectByDomain false (ascii "a.example.com.") [linkOf 0 "example.com.",linkOf 1 "com."] = some (linkOf 1 "com.") ∧
      selectRoute (ascii "a.example.com.") [(ascii "com.",[]),(ascii "example.com.",[])] = some (ascii "com.",[])) ∧
    Under (ascii "example.com") (ascii "a.example.com.") ∧
      State.selectByDomain false (ascii "a.example.com.") [linkOf 0 "example.com"] = none := by
  refine ⟨⟨?_,?_,?_⟩,⟨?_,?_⟩,?_,?_⟩
  · decide
  · decide
  · rfl
  · decide
  · rfl
  all_goals decide

end SingBox.DomainRoutes
