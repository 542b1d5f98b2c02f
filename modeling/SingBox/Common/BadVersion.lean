import SingBox.Common.Binary
import SingBox.Library.Cut

/-! The versions of `common/badversion` and their order. -/
namespace SingBox.BadVersion
open Cut List

structure Version where
  major : ℤ
  minor : ℤ
  patch : ℤ
  commit : Bytes
  preReleaseIdentifier : Bytes
  preReleaseVersion : ℤ
  deriving DecidableEq

def parsePreReleaseIdentifier (identifier : Bytes) : ℕ :=
  if ascii "rc" <+: identifier then 1
  else if ascii "beta" <+: identifier then 2
  else if ascii "alpha" <+: identifier then 3
  else 0

/-- One comparison of `GreaterThan`, with what comes after it where both sides are the same. -/
def compared (a b : ℤ) (rest : Bool) : Bool := if b < a then true else if a < b then false else rest

namespace Version
variable (v w : Version)

/-- The end of `GreaterThan`, for versions of the same numbers. -/
def laterRelease : Bool :=
  let ranked := compared (parsePreReleaseIdentifier w.preReleaseIdentifier)
    (parsePreReleaseIdentifier v.preReleaseIdentifier) false
  if v.preReleaseIdentifier = [] ∧ w.preReleaseIdentifier ≠ [] then true
  else if v.preReleaseIdentifier ≠ [] ∧ w.preReleaseIdentifier = [] then false
  else if v.preReleaseIdentifier ≠ [] ∧ w.preReleaseIdentifier ≠ [] then
    if v.preReleaseIdentifier = w.preReleaseIdentifier then compared v.preReleaseVersion w.preReleaseVersion ranked
    else ranked
  else false

def greaterThan : Bool :=
  compared v.major w.major (compared v.minor w.minor (compared v.patch w.patch (v.laterRelease w)))

def greaterThanOrEqual : Bool := v = w ∨ v.greaterThan w

def lessThan : Bool := !v.greaterThanOrEqual w

end Version

section
variable (atoi : Bytes → ℤ)

def dash : UInt8 := 0x2d

/-- The commit, the identifier and the version of the prerelease that `Parse` takes from the part after the first dash. -/
def parseIdentifier (identifier : Bytes) : Bytes × Bytes × ℤ :=
  if dot ∈ identifier then
    ([],(identifier.splitOn dot).headD [],(identifier.splitOn dot)[1]?.elim 0 atoi)
  else if ascii "alpha" <+: identifier then ([],ascii "alpha",atoi (identifier.drop 5))
  else if ascii "beta" <+: identifier then ([],ascii "beta",atoi (identifier.drop 4))
  else (identifier,[],0)

/-- `Parse`, with the number that `strconv.Atoi` returns for a string, an error or not. -/
def parse (versionName : Bytes) : Version :=
  let versionName := if ascii "v" <+: versionName then versionName.drop 1 else versionName
  let parts := versionName.splitOn dash
  let suffix := if dash ∈ versionName then parseIdentifier atoi (parts.getD 1 []) else ([],[],0)
  let versionElements := (parts.headD []).splitOn dot
  ⟨versionElements[0]?.elim 0 atoi,versionElements[1]?.elim 0 atoi,versionElements[2]?.elim 0 atoi,
    suffix.1,suffix.2.1,suffix.2.2⟩

end

lemma compared_iff {a b : ℤ} {r : Bool} : compared a b r = true ↔ b < a ∨ a = b ∧ r = true := by
  unfold compared
  split_ifs with hlt hgt
  · simp [hlt]
  · simp [hlt,hgt.ne]
  · simp [le_antisymm (not_lt.mp hlt) (not_lt.mp hgt)]

section
variable {a b : ℤ} {p q : Bool}

lemma compared_trans {c : ℤ} {r : Bool} (h : p = true → q = true → r = true) (hab : compared a b p = true)
    (hbc : compared b c q = true) : compared a c r = true := by
  rw [compared_iff] at *
  rcases hab with hab | ⟨rfl,hp⟩
  · rcases hbc with hbc | ⟨rfl,-⟩
    · exact .inl (hbc.trans hab)
    · exact .inl hab
  · exact hbc.imp_right (And.imp_right (h hp))

lemma compared_asymm (h : p = true → q = false) (hab : compared a b p = true) : compared b a q = false := by
  rw [Bool.eq_false_iff,ne_eq,compared_iff]
  rcases compared_iff.mp hab with hab | ⟨rfl,hp⟩
  · omega
  · simp [h hp]

lemma compared_eq_false_iff : compared a b p = false ∧ compared b a q = false ↔ a = b ∧ p = false ∧ q = false := by
  simp only [Bool.eq_false_iff,ne_eq,compared_iff]
  grind

end

namespace Version
variable {v w : Version}

lemma laterRelease_iff : v.laterRelease w = true ↔ w.preReleaseIdentifier ≠ [] ∧ (v.preReleaseIdentifier = [] ∨
    v.preReleaseIdentifier = w.preReleaseIdentifier ∧ w.preReleaseVersion < v.preReleaseVersion ∨
    parsePreReleaseIdentifier v.preReleaseIdentifier < parsePreReleaseIdentifier w.preReleaseIdentifier) := by
  unfold laterRelease
  grind [compared_iff]

lemma laterRelease_trans {u : Version} (hvw : v.laterRelease w = true) (hwu : w.laterRelease u = true) :
    v.laterRelease u = true := by
  grind [laterRelease_iff]

lemma laterRelease_asymm (h : v.laterRelease w = true) : w.laterRelease v = false := by
  grind [laterRelease_iff]

lemma greaterThan_trans {u : Version} : v.greaterThan w = true → w.greaterThan u = true → v.greaterThan u = true :=
  compared_trans (compared_trans (compared_trans laterRelease_trans))

lemma greaterThan_asymm : v.greaterThan w = true → w.greaterThan v = false :=
  compared_asymm (compared_asymm (compared_asymm laterRelease_asymm))

/-- Different versions of the same numbers that are both releases, or prereleases of one rank. -/
def Alike (v w : Version) : Prop :=
  v.major = w.major ∧ v.minor = w.minor ∧ v.patch = w.patch ∧
    (v.preReleaseIdentifier = [] ∧ w.preReleaseIdentifier = [] ∧
        (v.commit ≠ w.commit ∨ v.preReleaseVersion ≠ w.preReleaseVersion) ∨
      v.preReleaseIdentifier ≠ [] ∧ w.preReleaseIdentifier ≠ [] ∧ v.preReleaseIdentifier ≠ w.preReleaseIdentifier ∧
        parsePreReleaseIdentifier v.preReleaseIdentifier = parsePreReleaseIdentifier w.preReleaseIdentifier)

lemma alike_iff (hv : v.preReleaseIdentifier = [] ∨ v.commit = []) (hw : w.preReleaseIdentifier = [] ∨ w.commit = []) :
    v.Alike w ↔ v ≠ w ∧ v.greaterThan w = false ∧ w.greaterThan v = false := by
  unfold greaterThan Alike
  rw [compared_eq_false_iff,compared_eq_false_iff,compared_eq_false_iff]
  simp only [Bool.eq_false_iff,ne_eq,laterRelease_iff]
  obtain ⟨_,_,_,_,_,_⟩ := v
  obtain ⟨_,_,_,_,_,_⟩ := w
  grind

end Version

variable (atoi : Bytes → ℤ)

lemma parse_parsed (s : Bytes) : (parse atoi s).preReleaseIdentifier = [] ∨ (parse atoi s).commit = [] := by
  unfold parse parseIdentifier
  dsimp only
  split_ifs <;> simp

/-- A string with a suffix behind a dash has the numbers of the string without it. -/
lemma parse_append {plain : Bytes} (hp : dash ∉ plain) (suffix : Bytes) :
    let fields := parseIdentifier atoi ((suffix.splitOn dash).headD [])
    parse atoi (plain++dash::suffix) = { parse atoi plain with
      commit := fields.1, preReleaseIdentifier := fields.2.1, preReleaseVersion := fields.2.2 } ∧
    (parse atoi plain).commit = [] ∧ (parse atoi plain).preReleaseIdentifier = [] ∧
      (parse atoi plain).preReleaseVersion = 0 := by
  obtain ⟨name,hn,hsl,ha⟩ : ∃ name, dash ∉ name ∧
      (if ascii "v" <+: plain then plain.drop 1 else plain) = name ∧
      (if ascii "v" <+: plain++dash::suffix then (plain++dash::suffix).drop 1 else plain++dash::suffix) =
        name++dash::suffix := by
    cases plain with
    | nil => exact ⟨[],hp,rfl,if_neg (by simp [ascii,dash])⟩
    | cons c plain =>
      have hif : ascii "v" <+: c::(plain++dash::suffix) ↔ ascii "v" <+: c::plain := by simp [ascii]
      by_cases hv : ascii "v" <+: c::plain
      · exact ⟨plain,fun h => hp (mem_cons_of_mem c h),if_pos hv,if_pos (hif.mpr hv)⟩
      · exact ⟨c::plain,hp,if_neg hv,if_neg (mt hif.mp hv)⟩
  have hne : suffix.splitOn dash ≠ [] := splitOnP_ne_nil _ suffix
  obtain ⟨first,rest,hs⟩ := exists_cons_of_ne_nil hne
  unfold parse
  simp only [hsl,ha,splitOn_append_cons_self,splitOn_eq_singleton hn,hs,hn,singleton_append]
  simp

/-- The order is transitive, and of two versions out of the parser one is at least the other, and below it exactly where
the other is greater, unless they are alike; a build suffix leaves a version as high as it was exactly where it sets no
field. -/
theorem order_total_iff :
    (∀ v w u : Version, v.greaterThanOrEqual w = true → w.greaterThanOrEqual u = true → v.greaterThanOrEqual u = true) ∧
    (∀ v ∈ Set.range (parse atoi), ∀ w ∈ Set.range (parse atoi),
      ((v.greaterThanOrEqual w = true ∨ w.greaterThanOrEqual v = true) ∧
        (v.lessThan w = true ↔ w.greaterThan v = true)) ↔ ¬ v.Alike w) ∧ ∀ plain suffix : Bytes, dash ∉ plain →
      ((parse atoi (plain++dash::suffix)).lessThan (parse atoi plain) = false ↔
        parseIdentifier atoi ((suffix.splitOn dash).headD []) = ([],[],0)) := by
  refine ⟨fun v w u hvw hwu => ?_,?_,fun plain suffix hp => ?_⟩
  · simp only [Version.greaterThanOrEqual,decide_eq_true_eq] at *
    rcases hvw with rfl | hvw
    · exact hwu
    · rcases hwu with rfl | hwu
      · exact .inr hvw
      · exact .inr (Version.greaterThan_trans hvw hwu)
  · rintro _ ⟨s,rfl⟩ _ ⟨t,rfl⟩
    rw [Version.alike_iff (parse_parsed atoi s) (parse_parsed atoi t)]
    simp only [Version.greaterThanOrEqual,Version.lessThan]
    grind [Version.greaterThan_asymm]
  · obtain ⟨ha,hc,hpr,hv⟩ := parse_append atoi hp suffix
    generalize parseIdentifier atoi ((suffix.splitOn dash).headD []) = fl at ha
    have hl : (parse atoi (plain++dash::suffix)).greaterThan (parse atoi plain) = false := by
      rw [ha]
      simp [Version.greaterThan,compared,Version.laterRelease,hpr]
    rw [Version.lessThan,Version.greaterThanOrEqual,hl,ha]
    generalize parse atoi plain = v at hc hpr hv
    obtain ⟨_,_,_,_,_,_⟩ := v
    obtain ⟨_,_,_⟩ := fl
    simp_all

/-- The release of a kernel with a build suffix, and the plain version. -/
theorem build_suffix_is_below :
    let atoi : Bytes → ℤ := foldl (fun n b => 10*n+(b.toNat-48)) 0
    (parse atoi (ascii "6.14.0-15-generic")).lessThan (parse atoi (ascii "6.14.0")) = true ∧
    (parse atoi (ascii "6.14.0")).greaterThanOrEqual (parse atoi (ascii "6.14.0-15-generic")) = false := by
  decide

end SingBox.BadVersion
