import SingBox.Common.Binary
import SingBox.Library.Cut

/-! The table that the hosts transport builds from a file, read in pieces of a buffer. -/
namespace SingBox.HostsFile
open Cut List

/-- `bufio.Reader.ReadLine` on what is left of the file: the line without its end, whether it is only a piece of one, and
the rest. A carriage return at the end of a full buffer is left for the next call. -/
def readLine (rest : Bytes) : Option (Bytes × Bool × Bytes) :=
  if rest = [] then none
  else if newline ∈ rest.take 4096 then
    let line := rest.takeWhile (· ≠ newline)
    some (dropCR line,false,rest.drop (line.length+1))
  else if 4096 ≤ rest.length then
    some (dropCR (rest.take 4096),true,rest.drop (dropCR (rest.take 4096)).length)
  else some (rest,false,[])

lemma length_readLine {r ln l : Bytes} {ip : Bool} (h : readLine r = some (ln,ip,l)) : l.length < r.length := by
  have hd : ∀ s : Bytes, 2 ≤ s.length → 0 < (dropCR s).length := by
    intro s hs
    rw [dropCR_eq]
    split_ifs
    · rw [length_dropLast]
      omega
    · omega
  unfold readLine at h
  split_ifs at h with hn hm hl
  · cases h
    have := length_pos_iff.mpr hn
    simp
    omega
  · cases h
    have := hd (r.take 4096) (by simp; omega)
    simp
    omega
  · cases h
    exact length_pos_iff.mpr hn

/-- `strings.Fields`, `netip.ParseAddr` and `dns.CanonicalName`. -/
structure Library (α : Type) where
  fields : Bytes → List Bytes
  parseAddr : Bytes → Option α
  canonicalName : Bytes → Bytes
  fields_nil : fields [] = []

variable {α : Type} (lib : Library α)

/-- What one line adds to the table. -/
def addLine (byName : Bytes → List α) (line : Bytes) : Bytes → List α :=
  match lib.fields (line.takeWhile (· ≠ 0x23)) with
  | address::name::names =>
    match lib.parseAddr address with
    | none => byName
    | some addr => (name::names).foldl (fun byName name =>
        Function.update byName (lib.canonicalName name) (byName (lib.canonicalName name)++[addr])) byName
  | _ => byName

/-- The loop of `update`: the table, and the prefix that is carried when the file ends. -/
def scan (carry : Bytes) (byName : Bytes → List α) (rest : Bytes) : (Bytes → List α) × Bytes :=
  match _h : readLine rest with
  | none => (byName,carry)
  | some (line,true,left) => scan (carry++line) byName left
  | some (line,false,left) => scan [] (addLine lib byName (carry++line)) left
termination_by rest.length
decreasing_by
  · exact length_readLine _h
  · exact length_readLine _h

/-- The lines of a file; what follows the last line break is one, too, unless it is empty. -/
def lines (content : Bytes) : List Bytes :=
  (textLines content).dropLast.map dropCR++((textLines content).getLast?.toList.filter (· ≠ []))

/-- The table line by line. -/
def table (content : Bytes) : Bytes → List α := (lines content).foldl (addLine lib) fun _ => []

/-- What follows the last line break. -/
def lastLine (content : Bytes) : Bytes := (textLines content).getLast?.getD []

/-- The line is made of full buffers, to its end: of 4096 bytes, or of 4095 where a carriage return comes next. -/
inductive FillsBuffers : Bytes → Prop
  | nil : FillsBuffers []
  | cons {line : Bytes} : 4096 ≤ line.length → FillsBuffers (line.drop (dropCR (line.take 4096)).length) →
      FillsBuffers line

/-- The line has an address and a name. -/
def Enters (line : Bytes) : Prop := ∃ address name names addr,
  lib.fields (line.takeWhile (· ≠ 0x23)) = address::name::names ∧ lib.parseAddr address = some addr

/-- Exactly such a line changes the table. -/
lemma addLine_eq_iff (bn : Bytes → List α) (ln : Bytes) : addLine lib bn ln = bn ↔ ¬ Enters lib ln := by
  have hg : ∀ (ns : List Bytes) (a : α) (bn : Bytes → List α) (k : Bytes), (bn k).length ≤ ((ns.foldl (fun bn n =>
      Function.update bn (lib.canonicalName n) (bn (lib.canonicalName n)++[a])) bn) k).length := by
    intro ns a
    induction ns with
    | nil => exact fun _ _ => le_rfl
    | cons n ns ih =>
      intro bn k
      refine le_trans ?_ (ih _ k)
      simp only [Function.update_apply]
      split_ifs with hk
      · rw [hk,length_append]
        omega
      · exact le_rfl
  constructor
  · rintro h ⟨ad,n,ns,a,hf,ha⟩
    have hl := hg ns a (Function.update bn (lib.canonicalName n) (bn (lib.canonicalName n)++[a])) (lib.canonicalName n)
    rw [addLine,hf] at h
    simp only [ha,foldl_cons] at h
    rw [h] at hl
    simp at hl
  · intro h
    rw [addLine]
    split
    · rename_i ad n ns hf
      cases ha : lib.parseAddr ad with
      | none => rfl
      | some a => exact absurd ⟨ad,n,ns,a,hf,ha⟩ h
    · rfl

lemma dropCR_append {f b : Bytes} (h : b ≠ []) : dropCR (f++b) = f++dropCR b := by
  rw [dropCR_eq,dropCR_eq,getLast?_append_of_ne_nil _ h]
  split_ifs
  · rw [dropLast_append_of_ne_nil h]
  · rfl

/-- A full buffer is a piece of the line, and what is left of it keeps its end. -/
lemma exists_piece {l : Bytes} (h : 4096 ≤ l.length) :
    let lf := l.drop (dropCR (l.take 4096)).length
    l = dropCR (l.take 4096)++lf ∧ dropCR l = dropCR (l.take 4096)++dropCR lf ∧ lf.length < l.length := by
  intro lf
  have hs := take_append_drop 4096 l
  by_cases hc : (l.take 4096).getLast? = some 0x0d
  · have hw : dropCR (l.take 4096) = (l.take 4096).dropLast := (dropCR_eq _).trans (if_pos hc)
    have heq : l = (l.take 4096).dropLast++0x0d::l.drop 4096 := by
      rw [append_cons,dropLast_append_getLast? _ hc,hs]
    have hl : lf = 0x0d::l.drop 4096 := by
      have hdr := congrArg (drop (l.take 4096).dropLast.length) heq
      rw [drop_left,← hw] at hdr
      exact hdr
    rw [hl,hw,← dropCR_append (cons_ne_nil _ _),← heq]
    refine ⟨rfl,rfl,?_⟩
    simp
    omega
  · have hw : dropCR (l.take 4096) = l.take 4096 := (dropCR_eq _).trans (if_neg hc)
    have hl : lf = l.drop 4096 := by
      change l.drop (dropCR (l.take 4096)).length = _
      rw [hw,length_take,Nat.min_eq_left h]
    rw [hl,hw,hs]
    refine ⟨rfl,?_,by simp; omega⟩
    by_cases hd : l.drop 4096 = []
    · rw [hd,append_nil] at hs
      rw [hs] at hw
      rw [hd,hw,hs]
      exact (append_nil _).symm
    · rw [← dropCR_append hd,hs]

/-- A buffer without a line break in it gives a piece, and the next call goes on behind it. -/
lemma readLine_piece {l : Bytes} (hn : newline ∉ l) (hl : 4096 ≤ l.length) (r : Bytes) :
    readLine (l++r) = some (dropCR (l.take 4096),true,l.drop (dropCR (l.take 4096)).length++r) := by
  have hp := congrArg length (exists_piece hl).1
  rw [length_append] at hp
  rw [readLine,take_append_of_le_length hl,if_neg (by intro h; simp [(append_eq_nil_iff.mp h).1] at hl),
    if_neg fun h => hn (mem_of_mem_take h),if_pos (by simp; omega),drop_append_of_le_length (by omega)]

lemma scan_line (c : Bytes) (bn : Bytes → List α) {ln : Bytes} (hn : newline ∉ ln) (r : Bytes) :
    scan lib c bn (ln++newline::r) = scan lib [] (addLine lib bn (c++dropCR ln)) r := by
  induction hk : ln.length using Nat.strong_induction_on generalizing ln c with
  | h n ih =>
    subst hk
    rcases Nat.lt_or_ge ln.length 4096 with hl | hl
    · have hr : readLine (ln++newline::r) = some (dropCR ln,false,r) := by
        obtain ⟨k,hk⟩ : ∃ k, 4096-ln.length = k+1 := ⟨4095-ln.length,by omega⟩
        have hm : newline ∈ (ln++newline::r).take 4096 := by simp [take_append,hk]
        have ht : (ln++newline::r).takeWhile (· ≠ newline) = ln := by
          rw [takeWhile_append_of_pos (by simpa using fun a ha => ne_of_mem_of_not_mem ha hn)]
          simp
        rw [readLine,if_neg (by simp),if_pos hm,ht]
        simp
      rw [scan,hr]
    · obtain ⟨-,hd,hlt⟩ := exists_piece hl
      rw [scan,readLine_piece hn hl (newline::r)]
      dsimp only
      rw [ih _ hlt _ (fun h => hn (mem_of_mem_drop h)) rfl,hd,append_assoc]

/-- What follows the last line break is added, unless full buffers carry it to the end of the file. -/
lemma scan_last (c : Bytes) (bn : Bytes → List α) {ln : Bytes} (hn : newline ∉ ln) :
    FillsBuffers ln ∧ scan lib c bn ln = (bn,c++ln) ∨
      ¬ FillsBuffers ln ∧ scan lib c bn ln = (addLine lib bn (c++ln),[]) := by
  induction hk : ln.length using Nat.strong_induction_on generalizing ln c with
  | h n ih =>
    subst hk
    have hen : ∀ c bn, scan lib c bn [] = (bn,c) := by
      intro c bn
      rw [scan]
      rfl
    rcases Nat.lt_or_ge ln.length 4096 with hl | hl
    · by_cases he : ln = []
      · rw [he,hen,append_nil]
        exact .inl ⟨.nil,rfl⟩
      · have hr : readLine ln = some (ln,false,[]) := by
          rw [readLine,if_neg he,if_neg fun h => hn (mem_of_mem_take h),if_neg (not_le.mpr hl)]
        rw [scan,hr]
        refine .inr ⟨fun hf => ?_,hen _ _⟩
        cases hf with
        | nil => exact he rfl
        | cons hle => omega
    · obtain ⟨heq,-,hlt⟩ := exists_piece hl
      have hr := readLine_piece hn hl []
      rw [append_nil,append_nil] at hr
      rw [scan,hr]
      dsimp only
      have hf : FillsBuffers ln ↔ FillsBuffers (ln.drop (dropCR (ln.take 4096)).length) := by
        refine ⟨fun h => ?_,.cons hl⟩
        cases h with
        | nil => exact absurd hl (by decide)
        | cons _ h => exact h
      have hi := ih _ hlt (c++dropCR (ln.take 4096)) (fun h => hn (mem_of_mem_drop h)) rfl
      rwa [append_assoc,← heq,← hf] at hi

section
variable {l : Bytes} (hn : newline ∉ l) (r : Bytes)
include hn

lemma textLines_append : textLines (l++newline::r) = l::textLines r := by
  rw [textLines,splitOn_append_cons_self,splitOn_eq_singleton hn]
  rfl

lemma lines_append : lines (l++newline::r) = dropCR l::lines r := by
  obtain ⟨p,ps,hp⟩ := exists_cons_of_ne_nil (splitOn_ne_nil newline r)
  have hs : textLines r = p::ps := hp
  simp [lines,textLines_append hn,hs]

lemma lastLine_append : lastLine (l++newline::r) = lastLine r := by
  obtain ⟨p,ps,hp⟩ := exists_cons_of_ne_nil (splitOn_ne_nil newline r)
  have hs : textLines r = p::ps := hp
  rw [lastLine,lastLine,textLines_append hn,hs,getLast?_cons_cons]

end

/-- The lines add what the loop has added, and a last line that fills the buffers. -/
lemma foldl_lines (c : Bytes) (bn : Bytes → List α) :
    FillsBuffers (lastLine c) ∧ (lines c).foldl (addLine lib) bn = addLine lib (scan lib [] bn c).1 (lastLine c) ∨
      ¬ FillsBuffers (lastLine c) ∧ (lines c).foldl (addLine lib) bn = (scan lib [] bn c).1 := by
  induction hk : c.length using Nat.strong_induction_on generalizing c bn with
  | h n ih =>
    subst hk
    by_cases hn : newline ∈ c
    · obtain ⟨l,r,rfl,hl⟩ := eq_append_cons_of_mem hn
      rw [scan_line lib [] bn hl,lines_append hl,lastLine_append hl]
      exact ih r.length (by simp; omega) r _ rfl
    · have ht : textLines c = [c] := splitOn_eq_singleton hn
      have hs : lines c = [c].filter (· ≠ []) := by simp [lines,ht]
      have hl : lastLine c = c := by simp [lastLine,ht]
      have hnl : addLine lib bn [] = bn := by simp [addLine,lib.fields_nil]
      rw [hs,hl]
      refine (scan_last lib [] bn hn).imp (And.imp_right fun h => ?_) (And.imp_right fun h => ?_)
      all_goals
        rw [h]
        by_cases he : c = []
        · simp [he,hnl]
        · simp [he]

end SingBox.HostsFile
