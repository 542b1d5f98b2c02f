import SingBox.Common.Binary
import SingBox.Library.Cut

/-! The lease files that are logs (`route/neighbor_resolver_lease.go`): the blocks of ISC dhcpd and the CSV files of Kea.
The maps are written only, so that the records of a file can be read first. -/
namespace SingBox.LeaseFile
open Cut List

inductive Format
  | isc
  | kea4
  | kea6

/-- `strings.TrimSpace`, `net.ParseIP` with `netip.AddrFromSlice` and `Unmap`, `net.ParseMAC` and `hex.DecodeString`. -/
structure Library (α : Type) where
  trimSpace : Bytes → Bytes
  parseIP : Bytes → Option α
  parseMAC : Bytes → Option Bytes
  decodeString : Bytes → Option Bytes

structure Record (α : Type) where
  address : α
  active : Bool
  mac : Option Bytes
  hostname : Option Bytes
  deriving DecidableEq

/-- What the maps hold for an address. -/
structure Known where
  mac : Option Bytes := none
  hostname : Option Bytes := none
  deriving DecidableEq

def named (hostname : Bytes) : Option Bytes := if hostname = [] then none else some hostname

def trimSuffix (line suffix : Bytes) : Bytes := (cutSuffix suffix line).1

/-- The value of a statement that starts with a keyword. -/
def valueOf (line keyword : Bytes) : Option Bytes :=
  if keyword.isPrefixOf line then some (trimSuffix (line.drop keyword.length) (ascii ";")) else none

def trimQuotes (text : Bytes) : Bytes := ((text.dropWhile (· = 0x22)).reverse.dropWhile (· = 0x22)).reverse

def extractMACFromDUID (duid : Bytes) : Option Bytes :=
  if duid.length < 4 then none
  else if (duid.drop 2).take 2 ≠ [0,1] then none
  else if duid.take 2 = [0,1] then if duid.length < 14 then none else some ((duid.drop 8).take 6)
  else if duid.take 2 = [0,3] then if duid.length < 10 then none else some ((duid.drop 4).take 6)
  else none

/-- The lines of a file, with a carriage return at their end. -/
def lines (content : Bytes) : List Bytes :=
  let parts := textLines content
  if parts.getLast? = some [] then parts.dropLast else parts

/-- `bufio.Scanner` ends at a line that its buffer does not hold. -/
def scanned (content : Bytes) : List Bytes := (lines content).takeWhile (·.length < 64*1024)

variable {α : Type}

section
variable (lib : Library α)

/-- A line within the block of the record. -/
def statement (r : Record α) (line : Bytes) : Record α :=
  match valueOf line (ascii "hardware ethernet ") with
  | some value => { r with mac := lib.parseMAC value <|> r.mac }
  | none => match valueOf line (ascii "client-hostname ") with
    | some value => { r with hostname := named (trimQuotes value) <|> r.hostname }
    | none => match valueOf line (ascii "binding state ") with
      | some value => { r with active := value = ascii "active" }
      | none => r

def iscRecords : Option (Record α) → List Bytes → List (Record α)
  | _, [] => []
  | current, text :: rest =>
    let line := lib.trimSpace (dropCR text)
    if (ascii "lease ").isPrefixOf line && (ascii "\x7b").isSuffixOf line then
      match lib.parseIP (trimSuffix (line.drop 6) (ascii " \x7b")) with
      | some ip => iscRecords (some ⟨ip,false,none,none⟩) rest
      | none => iscRecords current rest
    else match current with
      | none => iscRecords none rest
      | some r =>
        if line = ascii "\x7d" then r :: iscRecords none rest
        else iscRecords (some (statement lib r line)) rest

lemma iscRecords_append (c : Option (Record α)) (fr b : List Bytes) :
    iscRecords lib c fr <+: iscRecords lib c (fr++b) := by
  induction fr generalizing c with
  | nil => exact nil_prefix
  | cons t fr ih =>
    rw [cons_append]
    simp only [iscRecords]
    split
    · split
      · exact ih _
      · exact ih _
    · cases c with
      | none => exact ih _
      | some r =>
        dsimp only
        split_ifs
        · exact (prefix_cons_inj r).mpr (ih _)
        · exact ih _

def kea4Record (fields : List Bytes) : Option (Record α) :=
  if fields.length < 10 then none
  else (lib.parseIP (fields.getD 0 [])).map fun address =>
    ⟨address,fields.getD 9 [] = ascii "0",lib.parseMAC (fields.getD 1 []),named (fields.getD 8 [])⟩

def kea6Record (fields : List Bytes) : Option (Record α) :=
  if fields.length < 14 then none
  else (lib.parseIP (fields.getD 0 [])).map fun address =>
    ⟨address,fields.getD 13 [] = ascii "0",
      (named (fields.getD 12 [])).bind lib.parseMAC <|>
        (lib.decodeString ((fields.getD 1 []).filter (· ≠ 0x3a))).bind extractMACFromDUID,
      named (fields.getD 11 [])⟩

def records : Format → List Bytes → List (Record α)
  | .isc, lines => iscRecords lib none lines
  | .kea4, lines => (lines.drop 1).filterMap fun line => kea4Record lib ((dropCR line).splitOn 0x2c)
  | .kea6, lines => (lines.drop 1).filterMap fun line => kea6Record lib ((dropCR line).splitOn 0x2c)

end

/-- What a record makes of the entries for its address. -/
def apply : Format → Known → Record α → Known
  | .isc, known, r => if r.active && r.mac.isSome then ⟨r.mac,r.hostname <|> known.hostname⟩ else {}
  | .kea4, known, r => if r.active && r.mac.isSome then ⟨r.mac,r.hostname <|> known.hostname⟩ else known
  | .kea6, known, r => if r.active then ⟨r.mac <|> known.mac,r.hostname <|> known.hostname⟩ else known

/-- What the record says. -/
def Record.wanted (r : Record α) : Known := if r.active then ⟨r.mac,r.hostname⟩ else {}

/-- Where the record replaces all that was known. -/
def Replaces : Format → Known → Record α → Prop
  | .isc, known, r => r.active = true →
    if r.mac = none then r.hostname = none else r.hostname = none → known.hostname = none
  | .kea4, known, r =>
    if r.active && r.mac.isSome then r.hostname = none → known.hostname = none else known = r.wanted
  | .kea6, known, r =>
    if r.active then (r.mac = none → known.mac = none) ∧ (r.hostname = none → known.hostname = none) else known = {}

lemma apply_eq_wanted_iff {f : Format} {k : Known} {r : Record α} : apply f k r = r.wanted ↔ Replaces f k r := by
  obtain ⟨a,ac,mc,ho⟩ := r
  obtain ⟨m,n⟩ := k
  cases f <;> cases ac <;> cases mc <;> cases ho <;> simp [apply,Record.wanted,Replaces,eq_comm]

variable [DecidableEq α] (lib : Library α) (f : Format)

def parse (content : Bytes) : α → Known :=
  (records lib f (scanned content)).foldl (fun known r =>
    Function.update known r.address (apply f (known r.address) r)) fun _ => {}

def recordsFor (a : α) (lines : List Bytes) : List (Record α) := (records lib f lines).filter (·.address = a)

def expected (content : Bytes) (a : α) : Known :=
  match (recordsFor lib f a (lines content)).getLast? with
  | none => {}
  | some r => r.wanted

/-- The last record for the address is read and replaces what was known, or it is beyond a line that is too long and
says nothing new. -/
def Replaced (content : Bytes) (a : α) : Prop :=
  ∀ before r, recordsFor lib f a (lines content) = before++[r] →
    if recordsFor lib f a (scanned content) = before++[r] then Replaces f (before.foldl (apply f) {}) r
    else (recordsFor lib f a (scanned content)).foldl (apply f) {} = r.wanted

variable {lib f}

lemma foldl_update (rs : List (Record α)) (k : α → Known) (a : α) :
    rs.foldl (fun k r => Function.update k r.address (apply f (k r.address) r)) k a =
      (rs.filter (·.address = a)).foldl (apply f) (k a) := by
  induction rs generalizing k with
  | nil => rfl
  | cons r rs ih =>
    rw [foldl_cons,ih,filter_cons]
    by_cases h : r.address = a
    · subst h
      simp
    · simp [h,Function.update_of_ne (Ne.symm h)]

lemma recordsFor_scanned (c : Bytes) (a : α) : recordsFor lib f a (scanned c) <+: recordsFor lib f a (lines c) := by
  refine IsPrefix.filter _ ?_
  obtain ⟨b,hb⟩ := takeWhile_prefix (l := lines c) fun ln => decide (ln.length < 64*1024)
  rw [← hb]
  cases f with
  | isc => exact iscRecords_append lib none _ b
  | kea4 | kea6 => exact ((prefix_append _ b).drop 1).filterMap _

/-- What is known for an address after parsing is what its last record says exactly where that record replaces all that was
known. -/
theorem parse_last_iff (lib : Library α) (f : Format) (c : Bytes) (a : α) :
    parse lib f c a = expected lib f c a ↔ Replaced lib f c a := by
  have hp : recordsFor lib f a (scanned c) <+: _ := recordsFor_scanned c a
  rw [parse,foldl_update]
  unfold expected Replaced
  change (recordsFor lib f a (scanned c)).foldl (apply f) {} = _ ↔ _
  obtain hr | ⟨b,r,hr⟩ := eq_nil_or_concat (recordsFor lib f a (lines c))
  · rw [hr] at hp ⊢
    simp [prefix_nil.mp hp]
  · rw [concat_eq_append] at hr
    rw [hr,getLast?_concat]
    trans if recordsFor lib f a (scanned c) = b++[r] then Replaces f (b.foldl (apply f) {}) r
      else (recordsFor lib f a (scanned c)).foldl (apply f) {} = r.wanted
    · split_ifs with hs
      · rw [hs,foldl_append]
        exact apply_eq_wanted_iff
      · exact Iff.rfl
    · constructor
      · intro h b' r' heq
        obtain ⟨rfl,hl⟩ := append_inj' heq rfl
        cases hl
        exact h
      · intro h
        exact h b r rfl

/-- `net.ParseIP` and `net.ParseMAC` of the texts in the file below. -/
def plainLibrary : Library Bytes where
  trimSpace := id
  parseIP text := if text = ascii "192.0.2.7" then some [192,0,2,7] else none
  parseMAC text := if text = ascii "02:00:5e:00:53:01" then some [2,0,0x5e,0,0x53,1] else none
  decodeString _ := none

/-- The lease ends, and stays known. -/
theorem ended_lease_stays :
    let content :=
      ascii "address,hwaddr,client_id,valid_lifetime,expire,subnet_id,fqdn_fwd,fqdn_rev,hostname,state\n"++
      ascii "192.0.2.7,02:00:5e:00:53:01,,3600,1700003600,1,0,0,tv,0\n"++
      ascii "192.0.2.7,02:00:5e:00:53:01,,3600,1700007200,1,0,0,tv,2\n"
    parse plainLibrary .kea4 content [192,0,2,7] = { mac := some [2,0,0x5e,0,0x53,1], hostname := some (ascii "tv") } ∧
      expected plainLibrary .kea4 content [192,0,2,7] = {} := by
  decide +kernel

end SingBox.LeaseFile
