import SingBox.Common.Binary
import SingBox.Adapter.InboundContext

/-! The binary rule-set (`common/srs/binary.go`, `ip_set.go`, `ip_cidr.go`): a writer and a reader of headless
rules. The matchers of domains, the address sets and the compression are the libraries'. -/
namespace SingBox.SRS
open ByteProgram Adapter

structure IPRange where
  fromAddr : Addr
  toAddr : Addr
  deriving DecidableEq

/-- `netipx.IPSet` by its ranges. -/
abbrev IPSet := List IPRange

/-- `option.DefaultHeadlessRule`. A slice is `none` for nil, and so are a map, a matcher and an address in a
list. `M` and `A` are the matchers of domains and of AdGuard lines. -/
structure DefaultHeadlessRule (M A : Type) where
  queryType : Option (List UInt16) := none
  network : Option (List Bytes) := none
  domain : Option (List Bytes) := none
  domainSuffix : Option (List Bytes) := none
  domainKeyword : Option (List Bytes) := none
  domainRegex : Option (List Bytes) := none
  sourceIPCIDR : Option (List Bytes) := none
  ipCIDR : Option (List Bytes) := none
  sourcePort : Option (List UInt16) := none
  sourcePortRange : Option (List Bytes) := none
  port : Option (List UInt16) := none
  portRange : Option (List Bytes) := none
  processName : Option (List Bytes) := none
  processPath : Option (List Bytes) := none
  processPathRegex : Option (List Bytes) := none
  packageName : Option (List Bytes) := none
  packageNameRegex : Option (List Bytes) := none
  networkType : Option (List UInt8) := none
  networkIsExpensive : Bool := false
  networkIsConstrained : Bool := false
  wifiSSID : Option (List Bytes) := none
  wifiBSSID : Option (List Bytes) := none
  networkInterfaceAddress : Option (List (UInt8 × List (Option Prefix))) := none
  defaultInterfaceAddress : Option (List (Option Prefix)) := none
  invert : Bool := false
  domainMatcher : Option M := none
  sourceIPSet : Option IPSet := none
  ipSet : Option IPSet := none
  adGuardDomain : Option (List Bytes) := none
  adGuardDomainMatcher : Option A := none

/-- `option.HeadlessRule`; `other` is a rule of any other type, the empty one included. -/
inductive HeadlessRule (M A : Type)
  | default (options : DefaultHeadlessRule M A)
  | logical (mode : String) (rules : List (HeadlessRule M A)) (invert : Bool)
  | other (type : String)

/-- How `Write` fails. -/
inductive WriteFailure
  | failed (err : ReadError)
  | panicked (reason : String)
  deriving DecidableEq

abbrev Written := Except WriteFailure Bytes

/-- The functions of the libraries. A constructor of a matcher gives none where it panics, and what may panic
on a set that was read gives the reason. -/
structure Library (M A : Type) where
  newMatcher : List Bytes → List Bytes → Bool → Option M
  writeMatcher : M → Bytes
  readMatcher : Decoder M
  dumpMatcher : M → Except String (Option (List Bytes) × Option (List Bytes))
  matchDomain : M → String → Bool
  newAdGuardMatcher : List Bytes → Option A
  writeAdGuardMatcher : A → Bytes
  readAdGuardMatcher : Decoder A
  dumpAdGuardMatcher : A → Except String (Option (List Bytes))
  matchAdGuard : A → String → Bool
  parsePrefix : Bytes → Except ReadError Prefix
  parseAddr : Bytes → Except ReadError Addr
  buildIPSet : List (Prefix ⊕ Addr) → Except ReadError IPSet
  contains : IPSet → Addr → Bool
  prefixes : IPSet → Except String (List Prefix)
  prefixString : Prefix → Bytes
  compress : Bytes → Bytes
  decompress : Bytes → Except ReadError Bytes

def elems {α : Type} (slice : Option (List α)) : List α := slice.getD []

def nonEmpty {α : Type} (slice : Option (List α)) : Bool := !(elems slice).isEmpty

def ruleSetVersionCurrent : UInt8 := 5

def magicBytes : Bytes := [0x53,0x52,0x53]

/-- The zero value, whose `Bits` are -1. -/
def zeroPrefix : Prefix := ⟨.invalid,255⟩

/-- `rawPrefix.Build(netip.Prefix{})`. -/
def build (rawPrefix : Option Prefix) : Prefix := rawPrefix.getD zeroPrefix

section
variable {M A : Type} (lib : Library M A) (generateVersion : UInt8)

def writeString (value : Bytes) : Bytes := Uvarint.put value.length++value

def writeRuleItemString (itemType : UInt8) (value : List Bytes) : Bytes :=
  itemType::(Uvarint.put value.length++value.flatMap writeString)

def writeRuleItemUint8 (itemType : UInt8) (value : List UInt8) : Bytes := itemType::(Uvarint.put value.length++value)

def writeRuleItemUint16 (itemType : UInt8) (value : List UInt16) : Bytes :=
  itemType::(Uvarint.put value.length++value.flatMap fun v => BigEndian.put 2 v.toNat)

def writeIPRange (range : IPRange) : Bytes := writeString range.fromAddr.asSlice++writeString range.toAddr.asSlice

def writeIPSet (set : IPSet) : Bytes := [1]++(BigEndian.put 8 set.length++set.flatMap writeIPRange)

/-- `Bits` of a prefix as a byte. -/
def writePrefix (pfx : Prefix) : Bytes :=
  writeString pfx.addr.asSlice++[if pfx.isValid then UInt8.ofNat pfx.bits else 255]

def writePrefixes (value : List (Option Prefix)) : Bytes :=
  Uvarint.put value.length++value.flatMap fun rawPrefix => writePrefix (build rawPrefix)

/-- The loop of `writeRuleItemCIDR`. -/
def parseCIDRs : List Bytes → ℕ → Except ReadError (List (Prefix ⊕ Addr))
  | [], _ => .ok []
  | prefixString::value, i =>
    match lib.parsePrefix prefixString, lib.parseAddr prefixString with
    | .ok pfx, _ => (Sum.inl pfx :: ·) <$> parseCIDRs value (i+1)
    | .error _, .ok addr => (Sum.inr addr :: ·) <$> parseCIDRs value (i+1)
    | .error err, .error _ => .error (.cause err ("parse ["++toString i++"]"))

def newIPSet (value : List Bytes) : Except ReadError IPSet := do
  let entries ← parseCIDRs lib value 0
  lib.buildIPSet entries

def writeRuleItemCIDR (itemType : UInt8) (field : String) (value : List Bytes) : Written :=
  match newIPSet lib value with
  | .ok ipSet => .ok (itemType::writeIPSet ipSet)
  | .error err => .error (.failed (.cause err field))

/-- A block `if cond { ... }`. -/
def writeIf (cond : Bool) (written : Written) : Written := if cond then written else .ok []

def since (version : UInt8) (item : String) (written : Written) : Written :=
  if generateVersion < version then
    .error (.failed (.new (ascii (item++" only supported in version "++toString version.toNat++" or later"))))
  else written

def writeMatcherItem {X : Type} (itemType : UInt8) (write : X → Bytes) (matcher : Option X) : Written :=
  match matcher with
  | some matcher => .ok (itemType::write matcher)
  | none => .error (.panicked "index out of range")

/-- The blocks of `writeDefaultRule`, in their order. -/
def defaultBlocks (rule : DefaultHeadlessRule M A) : List Written :=
  [.ok [0], writeIf (nonEmpty rule.queryType) (.ok (writeRuleItemUint16 0 (elems rule.queryType))),
    writeIf (nonEmpty rule.network) (.ok (writeRuleItemString 1 (elems rule.network))),
    writeIf (nonEmpty rule.domain || nonEmpty rule.domainSuffix) (writeMatcherItem 2 lib.writeMatcher
      (lib.newMatcher (elems rule.domain) (elems rule.domainSuffix) (generateVersion == 1))),
    writeIf (nonEmpty rule.domainKeyword) (.ok (writeRuleItemString 3 (elems rule.domainKeyword))),
    writeIf (nonEmpty rule.domainRegex) (.ok (writeRuleItemString 4 (elems rule.domainRegex))),
    writeIf (nonEmpty rule.sourceIPCIDR) (writeRuleItemCIDR lib 5 "source_ip_cidr" (elems rule.sourceIPCIDR)),
    writeIf (nonEmpty rule.ipCIDR) (writeRuleItemCIDR lib 6 "ipcidr" (elems rule.ipCIDR)),
    writeIf (nonEmpty rule.sourcePort) (.ok (writeRuleItemUint16 7 (elems rule.sourcePort))),
    writeIf (nonEmpty rule.sourcePortRange) (.ok (writeRuleItemString 8 (elems rule.sourcePortRange))),
    writeIf (nonEmpty rule.port) (.ok (writeRuleItemUint16 9 (elems rule.port))),
    writeIf (nonEmpty rule.portRange) (.ok (writeRuleItemString 10 (elems rule.portRange))),
    writeIf (nonEmpty rule.processName) (.ok (writeRuleItemString 11 (elems rule.processName))),
    writeIf (nonEmpty rule.processPath) (.ok (writeRuleItemString 12 (elems rule.processPath))),
    writeIf (nonEmpty rule.processPathRegex) (.ok (writeRuleItemString 17 (elems rule.processPathRegex))),
    writeIf (nonEmpty rule.packageName) (.ok (writeRuleItemString 13 (elems rule.packageName))),
    writeIf (nonEmpty rule.packageNameRegex) (since generateVersion 5 "`package_name_regex` rule item is"
      (.ok (writeRuleItemString 23 (elems rule.packageNameRegex)))),
    writeIf (nonEmpty rule.networkType) (since generateVersion 3 "`network_type` rule item is"
      (.ok (writeRuleItemUint8 18 (elems rule.networkType)))),
    writeIf rule.networkIsExpensive (since generateVersion 3 "`network_is_expensive` rule item is" (.ok [19])),
    writeIf rule.networkIsConstrained (since generateVersion 3 "`network_is_constrained` rule item is" (.ok [20])),
    writeIf (nonEmpty rule.networkInterfaceAddress)
      (since generateVersion 4 "`network_interface_address` rule item is"
        (.ok (21::(Uvarint.put (elems rule.networkInterfaceAddress).length++
          (elems rule.networkInterfaceAddress).flatMap fun entry => entry.1::writePrefixes entry.2)))),
    writeIf (nonEmpty rule.defaultInterfaceAddress)
      (since generateVersion 4 "`default_interface_address` rule item is"
        (.ok (22::writePrefixes (elems rule.defaultInterfaceAddress)))),
    writeIf (nonEmpty rule.wifiSSID) (.ok (writeRuleItemString 14 (elems rule.wifiSSID))),
    writeIf (nonEmpty rule.wifiBSSID) (.ok (writeRuleItemString 15 (elems rule.wifiBSSID))),
    writeIf (nonEmpty rule.adGuardDomain) (since generateVersion 2 "AdGuard rule items is"
      (writeMatcherItem 16 lib.writeAdGuardMatcher (lib.newAdGuardMatcher (elems rule.adGuardDomain)))),
    .ok [0xFF,if rule.invert then 1 else 0]]

def joined : List Written → Written
  | [] => .ok []
  | block::blocks => do
    let bytes ← block
    let rest ← joined blocks
    return bytes++rest

def writeDefaultRule (rule : DefaultHeadlessRule M A) : Written := joined (defaultBlocks lib generateVersion rule)

def writeMode (mode : String) : Written :=
  if mode = "and" then .ok [0]
  else if mode = "or" then .ok [1]
  else .error (.panicked ("unknown logical mode: "++mode))

mutual

def writeRule : HeadlessRule M A → Written
  | .default options => writeDefaultRule lib generateVersion options
  | .logical mode rules invert => do
    let mode ← writeMode mode
    let written ← writeRules rules
    return [1]++(mode++(Uvarint.put rules.length++(written++[if invert then 1 else 0])))
  | .other type => .error (.panicked ("unknown rule type: "++type))

def writeRules : List (HeadlessRule M A) → Written
  | [] => .ok []
  | rule::rules => do
    let bytes ← writeRule rule
    let rest ← writeRules rules
    return bytes++rest

end

/-- What `Write` compresses. -/
def writeBody (rules : List (HeadlessRule M A)) : Written := do
  let written ← writeRules lib generateVersion rules
  return Uvarint.put rules.length++written

/-- `Write`, to a writer that takes everything. -/
def write (rules : List (HeadlessRule M A)) : Written := do
  let body ← writeBody lib generateVersion rules
  return magicBytes++(generateVersion::lib.compress body)

end

variable {M A : Type} (lib : Library M A) (recover : Bool)

def readString : Decoder Bytes := do
  let strLen ← Uvarint.read
  .make strLen 1 (readFull strLen)

def readRuleItemString : Decoder (List Bytes) := do
  let length ← Uvarint.read
  .make length 16 (times (fun _ => readString) length 0)

def readRuleItemUint8 : Decoder (List UInt8) := do
  let length ← Uvarint.read
  .make length 1 (readFull length)

def uint16s : Bytes → List UInt16
  | high::low::rest => UInt16.ofNat (high.toNat*256+low.toNat)::uint16s rest
  | _ => []

def readRuleItemUint16 : Decoder (List UInt16) := do
  let length ← Uvarint.read
  .make length 2 (uint16s <$> readFull (2*length))

def readIPRange : Decoder IPRange := do
  let fromBytes ← readString
  let toBytes ← readString
  pure ⟨addrFromIP fromBytes,addrFromIP toBytes⟩

def readIPSet : Decoder IPSet := do
  let version ← readByte
  if version ≠ 1 then .fail (.new (ascii "invalid argument"))
  else
    let length ← readFull 8
    .make (BigEndian.read length) 48 (times (fun _ => readIPRange) (BigEndian.read length) 0)

def readPrefix : Decoder Prefix := do
  let addrSlice ← readString
  let prefixBits ← readByte
  pure ⟨addrFromIP addrSlice,prefixBits.toNat⟩

/-- A list that grows with every prefix, and stays nil without one. -/
def readPrefixes : Decoder (List (Option Prefix)) := do
  let prefixCount ← Uvarint.read
  times (fun _ => some <$> readPrefix) prefixCount 0

/-- `Put`: the value of a key that is there is replaced in its place. -/
def put {V : Type} (entries : List (UInt8 × V)) (key : UInt8) (value : V) : List (UInt8 × V) :=
  if entries.any (·.1 == key) then entries.map fun entry => if entry.1 == key then (key,value) else entry
  else entries++[(key,value)]

def readEntry : Decoder (UInt8 × List (Option Prefix)) := do
  let key ← readByte
  let value ← readPrefixes
  pure (key,value)

def readEntries : Decoder (List (UInt8 × List (Option Prefix))) := do
  let size ← Uvarint.read
  let entries ← times (fun _ => readEntry) size 0
  pure (entries.foldl (fun entries entry => put entries entry.1 entry.2) [])

def orCrash {X : Type} : Except String X → Decoder X
  | .ok x => .done x
  | .error reason => .crash reason

def recoverCIDR (set : IPSet) (before : Option (List Bytes)) : Decoder (Option (List Bytes)) :=
  if recover then do
    let prefixes ← orCrash (lib.prefixes set)
    pure (some (prefixes.map lib.prefixString))
  else pure before

/-- One item of `readDefaultRule` after its tag. -/
def readItem (itemType lastItemType : UInt8) (rule : DefaultHeadlessRule M A) : Decoder (DefaultHeadlessRule M A) :=
  match itemType.toNat with
  | 0 => (fun v => { rule with queryType := some v }) <$> readRuleItemUint16
  | 1 => (fun v => { rule with network := some v }) <$> readRuleItemString
  | 2 => do
    let matcher ← lib.readMatcher
    if recover then
      let lists ← orCrash (lib.dumpMatcher matcher)
      pure { rule with domainMatcher := some matcher, domain := lists.1, domainSuffix := lists.2 }
    else pure { rule with domainMatcher := some matcher }
  | 3 => (fun v => { rule with domainKeyword := some v }) <$> readRuleItemString
  | 4 => (fun v => { rule with domainRegex := some v }) <$> readRuleItemString
  | 5 => do
    let set ← readIPSet
    let cidr ← recoverCIDR lib recover set rule.sourceIPCIDR
    pure { rule with sourceIPSet := some set, sourceIPCIDR := cidr }
  | 6 => do
    let set ← readIPSet
    let cidr ← recoverCIDR lib recover set rule.ipCIDR
    pure { rule with ipSet := some set, ipCIDR := cidr }
  | 7 => (fun v => { rule with sourcePort := some v }) <$> readRuleItemUint16
  | 8 => (fun v => { rule with sourcePortRange := some v }) <$> readRuleItemString
  | 9 => (fun v => { rule with port := some v }) <$> readRuleItemUint16
  | 10 => (fun v => { rule with portRange := some v }) <$> readRuleItemString
  | 11 => (fun v => { rule with processName := some v }) <$> readRuleItemString
  | 12 => (fun v => { rule with processPath := some v }) <$> readRuleItemString
  | 13 => (fun v => { rule with packageName := some v }) <$> readRuleItemString
  | 14 => (fun v => { rule with wifiSSID := some v }) <$> readRuleItemString
  | 15 => (fun v => { rule with wifiBSSID := some v }) <$> readRuleItemString
  | 16 => do
    let matcher ← lib.readAdGuardMatcher
    if recover then
      let lines ← orCrash (lib.dumpAdGuardMatcher matcher)
      pure { rule with adGuardDomainMatcher := some matcher, adGuardDomain := lines }
    else pure { rule with adGuardDomainMatcher := some matcher }
  | 17 => (fun v => { rule with processPathRegex := some v }) <$> readRuleItemString
  | 18 => (fun v => { rule with networkType := some v }) <$> readRuleItemUint8
  | 19 => pure { rule with networkIsExpensive := true }
  | 20 => pure { rule with networkIsConstrained := true }
  | 21 => (fun v => { rule with networkInterfaceAddress := some v }) <$> readEntries
  | 22 => (fun v => { rule with defaultInterfaceAddress := if v.isEmpty then none else some v }) <$> readPrefixes
  | 23 => (fun v => { rule with packageNameRegex := some v }) <$> readRuleItemString
  | _ => .fail (.new (ascii ("unknown rule item type: "++toString itemType.toNat++", last type: "++
      toString lastItemType.toNat)))

/-- The loop of `readDefaultRule`, for at most `fuel` items. -/
def readDefaultItems : ℕ → UInt8 → DefaultHeadlessRule M A → Decoder (DefaultHeadlessRule M A)
  | 0, _, _ => .crash "out of fuel"
  | fuel+1, lastItemType, rule => do
    let itemType ← readByte
    if itemType = 0xFF then (fun b : UInt8 => { rule with invert := b != 0 }) <$> readByte
    else
      let rule ← readItem lib recover itemType lastItemType rule
      readDefaultItems fuel itemType rule

def readDefaultRule (fuel : ℕ) : Decoder (DefaultHeadlessRule M A) := readDefaultItems lib recover fuel 0 {}

def readMode : Decoder String := do
  let mode ← readByte
  match mode.toNat with
  | 0 => pure "and"
  | 1 => pure "or"
  | n => .fail (.new (ascii ("unknown logical mode: "++toString n)))

/-- The rules of a list, each with its position in an error; a rule takes 648 bytes in a slice. -/
def readRuleList (subRule : Decoder (HeadlessRule M A)) (position : ℕ → String) : Decoder (List (HeadlessRule M A)) := do
  let length ← Uvarint.read
  .make length 648 (times (fun i => subRule.mapError (.cause · (position i))) length 0)

def readLogicalRule (subRule : Decoder (HeadlessRule M A)) : Decoder (HeadlessRule M A) := do
  let mode ← readMode
  let rules ← readRuleList subRule (fun i => "read logical rule ["++toString i++"]")
  let invert ← readByte
  pure (.logical mode rules (invert != 0))

/-- `readRule`, with `stack` calls of it left on the stack. -/
def readRule (fuel : ℕ) : ℕ → Decoder (HeadlessRule M A)
  | 0 => .crash "stack overflow"
  | stack+1 => do
    let ruleType ← readByte
    match ruleType.toNat with
    | 0 => HeadlessRule.default <$> readDefaultRule lib recover fuel
    | 1 => readLogicalRule (readRule fuel stack)
    | n => .fail (.new (ascii ("unknown rule type: "++toString n)))

/-- `Read` after the header, on the decompressed bytes. -/
def readBody (fuel stack : ℕ) : Decoder (List (HeadlessRule M A)) :=
  readRuleList (readRule lib recover fuel stack) fun i => "read rule["++toString i++"]"

/-- The run on all of the decompressed bytes; an item is at least a byte, so that there is fuel for all. -/
def decode (stack : ℕ) (body : Bytes) : Result ReadError (List (HeadlessRule M A)) :=
  (readBody lib recover (body.length+1) stack).run maxAlloc body

/-- The start of `Read`, in front of the compressed bytes. -/
def readHeader : Decoder UInt8 := do
  let magic ← readFull 3
  if magic ≠ magicBytes then .fail (.new (ascii "invalid sing-box rule-set file"))
  else
    let version ← readByte
    if ruleSetVersionCurrent < version then .fail (.new (ascii ("unsupported version: "++toString version.toNat)))
    else pure version

/-- `Read`: the version and the rules, with what is left of the decompressed bytes. -/
def read (stack : ℕ) (file : Bytes) : Result ReadError (UInt8 × List (HeadlessRule M A)) :=
  match readHeader.run maxAlloc file with
  | .failed err => .failed err
  | .crashed reason => .crashed reason
  | .ok version rest =>
    match lib.decompress rest with
    | .error err => .failed err
    | .ok body =>
      match decode lib recover stack body with
      | .failed err => .failed err
      | .crashed reason => .crashed reason
      | .ok rules unread => .ok (version,rules) unread

end SingBox.SRS
