import SingBox.Library.Cut
import SingBox.Common.SRS

/-! The convertor of AdGuard filters (`common/convertor/adguard/convertor.go`): from a text to a headless rule
and back. What it only logs is left out. -/
namespace SingBox.AdGuard
open Adapter Cut SRS

/-- The functions of the libraries that look at names and addresses; `metadataParseAddr` is `M.ParseAddr`,
which gives the zero address where it fails. -/
structure Names where
  isDomainName : Bytes → Bool
  parseAddr : Bytes → Option Addr
  metadataParseAddr : Bytes → Addr

def isUnspecified (addr : Addr) : Bool := decide (addr = .v4 0#32 ∨ addr = .v6 0#128 "")

/-- `agdguardRuleLine`. -/
structure RuleLine where
  ruleLine : Bytes
  isRawDomain : Bool := false
  isExclude : Bool := false
  isSuffix : Bool := false
  hasStart : Bool := false
  hasEnd : Bool := false
  isRegexp : Bool := false
  isImportant : Bool := false
  deriving DecidableEq

/-- What the loop of `ToOptions` does with a line: it goes on, slices out of bounds, or keeps a rule line. -/
inductive Parsed
  | skipped
  | panicked
  | kept (line : RuleLine)
  deriving DecidableEq

def maxScanTokenSize : ℕ := 65536

/-- The tokens of `bufio.Scanner`, which stops at a line that does not fit its buffer. -/
def scan (text : Bytes) : List Bytes :=
  ((textLines text).takeWhile fun line => line.length < maxScanTokenSize).map dropCR

section
variable (names : Names)

/-- `strconv.ParseUint(s, 10, 8)` succeeds. -/
def parsesUint8 (s : Bytes) : Bool :=
  !s.isEmpty && (s.all fun b => decide (48 ≤ b ∧ b ≤ 57)) &&
    decide (s.foldl (fun n digit => n*10+(digit.toNat-48)) 0 < 2^8)

def cutScheme (ruleLine : Bytes) : Bytes :=
  if ascii "(http?:\\/\\/)" <+: ruleLine then ruleLine.drop 12
  else if ascii "(https?:\\/\\/)" <+: ruleLine then ruleLine.drop 13
  else (cutPrefix (ascii "^") ruleLine).1

def ignoreIPCIDRRegexp (ruleLine : Bytes) : Bool :=
  parsesUint8 (before (ascii "\\.") (cutScheme ruleLine)) || parsesUint8 (before (ascii ".") (cutScheme ruleLine))

/-- The domain of a host line, none for an error and empty for another address. -/
def parseAdGuardHostLine (ruleLine : Bytes) : Option Bytes :=
  match cut (ascii " ") ruleLine with
  | none => none
  | some (address,domain) =>
    match names.parseAddr address with
    | none => none
    | some address =>
      if !isUnspecified address then some []
      else if !names.isDomainName domain then none
      else some domain

/-- The loop over the modifiers: none for one that is not supported, otherwise whether the line is important. -/
def readParams : List Bytes → Bool → Option Bool
  | [], isImportant => some isImportant
  | param::params, isImportant =>
    match param.splitOn 61 with
    | [name] => if name = ascii "important" then readParams params true else none
    | [name,value] =>
      if name = ascii "important" then readParams params true
      else if name = ascii "dnsrewrite" ∧ isUnspecified (names.metadataParseAddr value) then
        readParams params isImportant
      else none
    | _ => none

def domainCheck (ruleLine : Bytes) : Bytes :=
  (if ascii "." <+: ruleLine ∨ ascii "-" <+: ruleLine then ascii "r"++ruleLine else ruleLine).map
    fun b => if b = 42 then 120 else b

/-- What a rule on names cannot have: a path, a query, a cosmetic filter, an exception in place. -/
def unsupported : Bytes := ascii "/?&[]()!#~"

def parseDomain (line : RuleLine) : Parsed :=
  let line :=
    match cut (ascii "://") line.ruleLine with
    | some parts => { line with ruleLine := parts.2, isSuffix := true }
    | none => line
  if line.ruleLine.any fun b => unsupported.contains b then .skipped
  else if line.ruleLine = [] then .skipped
  else if !names.isDomainName (domainCheck line.ruleLine) then .skipped
  else .kept line

/-- A regular expression stands between slashes; a single slash is sliced from 1 to 0. -/
def parseBody (line : RuleLine) : Parsed :=
  if ascii "/" <+: line.ruleLine ∧ ascii "/" <:+ line.ruleLine then
    if line.ruleLine.length < 2 then .panicked
    else
      let ruleLine := (line.ruleLine.drop 1).take (line.ruleLine.length-2)
      if ignoreIPCIDRRegexp ruleLine then .skipped
      else .kept { line with ruleLine := ruleLine, isRegexp := true }
  else parseDomain names line

def parseMarks (ruleLine : Bytes) (isImportant : Bool) : Parsed :=
  let exclude := cutPrefix (ascii "@@") ruleLine
  let suffix := cutPrefix (ascii "||") (cutSuffix (ascii "|") exclude.1).1
  let start := if suffix.2 then (suffix.1,false) else cutPrefix (ascii "|") suffix.1
  let stop := cutSuffix (ascii "^") start.1
  parseBody names
    { ruleLine := stop.1, isExclude := exclude.2, isSuffix := suffix.2, hasStart := start.2, hasEnd := stop.2,
      isImportant := isImportant }

/-- The modifiers, which a line that begins with a slash does not have. -/
def parseModifiers (ruleLine : Bytes) : Parsed :=
  if ascii "/" <+: ruleLine then parseMarks names ruleLine false
  else
    match cut (ascii "$") ruleLine with
    | none => parseMarks names ruleLine false
    | some (ruleLine,params) =>
      match readParams names (params.splitOn 44) false with
      | none => .skipped
      | some isImportant => parseMarks names ruleLine isImportant

def parseLine (ruleLine : Bytes) : Parsed :=
  if ruleLine = [] then .skipped
  else if ascii "!" <+: ruleLine ∨ ascii "#" <+: ruleLine then .skipped
  else if names.isDomainName ruleLine then .kept { ruleLine := ruleLine, isRawDomain := true }
  else
    match parseAdGuardHostLine names ruleLine with
    | some hostLine =>
      if hostLine ≠ [] then
        .kept { ruleLine := hostLine, isRawDomain := true, hasStart := true, hasEnd := true }
      else .skipped
    | none => parseModifiers names (cutSuffix (ascii "|") ruleLine).1

/-- The loop over the lines, none where it panics. -/
def parseLines : List Bytes → Option (List RuleLine)
  | [] => some []
  | line::lines =>
    match parseLine names line with
    | .skipped => parseLines lines
    | .panicked => none
    | .kept ruleLine => (ruleLine :: ·) <$> parseLines lines

end

/-- The role of a line: one of the eight lists that `ToOptions` filters and `FromOptions` writes. -/
structure Kind where
  isImportant : Bool
  isRegexp : Bool
  isExclude : Bool
  deriving DecidableEq

def importantDomain : Kind := ⟨true,false,false⟩
def importantDomainRegex : Kind := ⟨true,true,false⟩
def importantExcludeDomain : Kind := ⟨true,false,true⟩
def importantExcludeDomainRegex : Kind := ⟨true,true,true⟩
def domain : Kind := ⟨false,false,false⟩
def domainRegex : Kind := ⟨false,true,false⟩
def excludeDomain : Kind := ⟨false,false,true⟩
def excludeDomainRegex : Kind := ⟨false,true,true⟩

abbrev Roles := Kind → List Bytes

def RuleLine.kind (line : RuleLine) : Kind := ⟨line.isImportant,line.isRegexp,line.isExclude⟩

def mapDomain (it : RuleLine) : Bytes :=
  (if it.isSuffix then ascii "||" else if it.hasStart then ascii "|" else [])++
    (it.ruleLine++if it.hasEnd then ascii "^" else [])

def roles (ruleLines : List RuleLine) : Roles := fun kind =>
  (ruleLines.filter fun it => it.kind = kind).map mapDomain

inductive Failure
  | new (message : String)
  | panicked
  deriving DecidableEq

variable {M A : Type}

def lists (invert : Bool) (domain domainRegex : List Bytes) : HeadlessRule M A :=
  .default { adGuardDomain := some domain, domainRegex := some domainRegex, invert := invert }

def layer (mode : String) (invert : Bool) (domain domainRegex : List Bytes) (currentRule : HeadlessRule M A) :
    HeadlessRule M A :=
  if domain.length > 0 ∨ domainRegex.length > 0 then
    .logical mode [lists invert domain domainRegex,currentRule] false
  else currentRule

def currentRule (r : Roles) : HeadlessRule M A :=
  layer "and" true (r importantExcludeDomain) (r importantExcludeDomainRegex)
    (layer "or" false (r importantDomain) (r importantDomainRegex)
      (layer "and" true (r excludeDomain) (r excludeDomainRegex)
        (lists false (r domain) (r domainRegex))))

def isPlain (ruleLines : List RuleLine) : Bool := ruleLines.all fun it => it.isRawDomain

/-- What `ToOptions` makes of the lines it kept. -/
def fromLines (ruleLines : List RuleLine) : Except Failure (List (HeadlessRule M A)) :=
  if ruleLines.length = 0 then .error (.new "AdGuard rule-set is empty or all rules are unsupported")
  else if isPlain ruleLines then
    .ok [.default { domain := some (ruleLines.map fun it => it.ruleLine) }]
  else .ok [currentRule (roles ruleLines)]

def toOptions (names : Names) (text : Bytes) : Except Failure (List (HeadlessRule M A)) :=
  match parseLines names (scan text) with
  | none => .error .panicked
  | some ruleLines => fromLines ruleLines

def errInvalid : Failure := .new "invalid binary AdGuard rule-set"

/-- One round of the loop of `FromOptions`. -/
inductive Round (M A : Type)
  | again (rule : HeadlessRule M A) (found : Roles)
  | done (found : Roles)
  | invalid

def take (found : Roles) (domain domainRegex : Kind) (options : DefaultHeadlessRule M A) : Option Roles :=
  if (elems options.adGuardDomain).length+(elems options.domainRegex).length = 0 then none
  else some (Function.update (Function.update found domain (elems options.adGuardDomain)) domainRegex
    (elems options.domainRegex))

def round : HeadlessRule M A → Roles → Round M A
  | .logical mode [.default options,next] _, found =>
    if mode = "and" ∧ options.invert then
      if (found importantExcludeDomain).length = 0 ∧ (found importantExcludeDomainRegex).length = 0 then
        (take found importantExcludeDomain importantExcludeDomainRegex options).elim .invalid (.again next)
      else (take found excludeDomain excludeDomainRegex options).elim .invalid (.again next)
    else if mode = "or" ∧ !options.invert then
      (take found importantDomain importantDomainRegex options).elim .invalid (.again next)
    else .invalid
  | .logical _ _ _, _ => .invalid
  | .default options, found => (take found domain domainRegex options).elim .invalid .done
  | .other type, found => .again (.other type) found

def parse : ℕ → HeadlessRule M A → Roles → Option (Except Failure Roles)
  | 0, _, _ => none
  | fuel+1, rule, found =>
    match round rule found with
    | .again rule found => parse fuel rule found
    | .done found => some (.ok found)
    | .invalid => some (.error errInvalid)

def kinds : List Kind :=
  [importantDomain,importantDomainRegex,importantExcludeDomain,importantExcludeDomainRegex,domain,domainRegex,
    excludeDomain,excludeDomainRegex]

def Kind.write (kind : Kind) (ruleLine : Bytes) : Bytes :=
  (if kind.isExclude then ascii "@@" else [])++
    ((if kind.isRegexp then ascii "/"++(ruleLine++ascii "/") else ruleLine)++
      if kind.isImportant then ascii "$important" else [])

def written (found : Roles) : List Bytes := kinds.flatMap fun kind => (found kind).map kind.write

def output (found : Roles) : Bytes := (written found).flatMap fun line => line++[10]

def fromOptions (fuel : ℕ) : List (HeadlessRule M A) → Option (Except Failure Bytes)
  | [rule] => (parse fuel rule fun _ => []).map (Except.map output)
  | _ => some (.error errInvalid)

end SingBox.AdGuard
