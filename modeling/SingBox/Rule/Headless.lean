import SingBox.Rule.Tree

/-! Loading a rule-set: the options of headless rules, the constructors of `rule_headless.go` and the
metadata that `rule_set.go` computes from the options. -/
namespace SingBox.Rule
open Adapter

inductive BuildError
  | new (message : String)
  | parseUint (input : String)
  | cause (err : BuildError) (message : String)
  | causeOf (err outer : BuildError)
  | extend (err : BuildError) (message : String)

/-- `option.DefaultHeadlessRule`. A slice is `none` for nil. -/
structure DefaultHeadlessOptions where
  queryType : Option (List ℕ) := none
  network : Option (List Network) := none
  domain : Option (List String) := none
  domainSuffix : Option (List String) := none
  domainKeyword : Option (List String) := none
  domainRegex : Option (List String) := none
  sourceIPCIDR : Option (List String) := none
  ipCIDR : Option (List String) := none
  sourcePort : Option (List ℕ) := none
  sourcePortRange : Option (List String) := none
  port : Option (List ℕ) := none
  portRange : Option (List String) := none
  processName : Option (List String) := none
  processPath : Option (List String) := none
  processPathRegex : Option (List String) := none
  packageName : Option (List String) := none
  packageNameRegex : Option (List String) := none
  networkType : Option (List InterfaceType) := none
  networkIsExpensive : Bool := false
  networkIsConstrained : Bool := false
  wifiSSID : Option (List String) := none
  wifiBSSID : Option (List String) := none
  networkInterfaceAddress : Option (List (InterfaceType × List Prefix)) := none
  defaultInterfaceAddress : Option (List Prefix) := none
  invert : Bool := false
  domainMatcher : Option (String → Bool) := none
  sourceIPSet : Option (Addr → Bool) := none
  ipSet : Option (Addr → Bool) := none
  adGuardDomain : Option (List String) := none
  adGuardDomainMatcher : Option (String → Bool) := none

/-- `option.HeadlessRule`; `typed` is off where the type of a default rule was left empty. -/
inductive HeadlessOptions
  | default (typed : Bool) (options : DefaultHeadlessOptions)
  | logical (mode : String) (rules : List HeadlessOptions) (invert : Bool)

/-- The compilers that the constructors call, and whether the context has a network manager. -/
structure ItemCompiler where
  newMatcher : List String → List String → String → Bool
  newAdGuardMatcher : List String → String → Bool
  compileRegexp : String → Except BuildError (String → Bool)
  parsePrefix : String → Except BuildError Prefix
  parseAddr : String → Except BuildError Addr
  ipSet : List (Prefix ⊕ Addr) → Except BuildError (Addr → Bool)
  hasNetworkManager : Bool

section
variable (c : ItemCompiler)

/-- `len(list)` elements of a slice. -/
def elems {α : Type} (slice : Option (List α)) : List α := slice.getD []

def newDomainItem (domains domainSuffixes : List String) : Except BuildError RuleItem :=
  if domains.contains "" then
    .error (.new "domain: empty item is not allowed")
  else if domainSuffixes.contains "" then
    .error (.new "domain_suffix: empty item is not allowed")
  else
    .ok (.domain (c.newMatcher domains domainSuffixes))

def compileAll (expressions : List String) : Except BuildError (List (String → Bool)) :=
  (expressions.zipIdx).mapM fun entry =>
    match c.compileRegexp entry.1 with
    | .ok matcher => .ok matcher
    | .error err => .error (.cause err ("parse expression " ++ toString entry.2))

/-- The loop of `NewIPCIDRItem`. -/
def newIPCIDRItem (isSource : Bool) (prefixStrings : List String) : Except BuildError RuleItem := do
  let entries ← (prefixStrings.zipIdx).mapM fun entry =>
    match c.parsePrefix entry.1, c.parseAddr entry.1 with
    | .ok pfx, _ => .ok (Sum.inl pfx)
    | .error _, .ok addr => .ok (Sum.inr addr)
    | .error err, .error _ => .error (BuildError.cause err ("parse [" ++ toString entry.2 ++ "]"))
  let ipSet ← c.ipSet entries
  return .ipCIDR isSource ipSet

def errBadPortRange : BuildError := .new "bad port range"

/-- `strconv.ParseUint(s, 10, 16)`. -/
def parseUint16 (s : List Char) : Except BuildError ℕ :=
  let value := s.foldl (fun n digit => n*10+(digit.toNat - '0'.toNat)) 0
  if !s.isEmpty && s.all Char.isDigit && decide (value < 2^16) then .ok value
  else .error (.parseUint (String.ofList s))

/-- One entry `start:end` of a port range, either end of which may be missing. -/
def parsePortRange (portRange : String) : Except BuildError (ℕ × ℕ) :=
  if !portRange.toList.contains ':' then
    .error (.extend errBadPortRange portRange)
  else
    let first := portRange.toList.takeWhile (· != ':')
    let last := (portRange.toList.dropWhile (· != ':')).drop 1
    match (if first.isEmpty then .ok 0 else parseUint16 first),
        (if last.isEmpty then .ok 0xFFFF else parseUint16 last) with
    | .error err, _ => .error (.causeOf err (.extend errBadPortRange portRange))
    | .ok _, .error err => .error (.causeOf err (.extend errBadPortRange portRange))
    | .ok start, .ok stop => .ok (start,stop)

def newPortRangeItem (isSource : Bool) (rangeList : List String) : Except BuildError RuleItem := do
  let portRangeList ← rangeList.mapM parsePortRange
  return .portRange isSource portRangeList

/-- A block `if cond { append(item) }` of a constructor. -/
def appendIf (cond : Bool) (item : RuleItem) : Except BuildError (List RuleItem) := .ok (if cond then [item] else [])

/-- A block whose item can fail to build; the error names the field. -/
def tryAppendIf (cond : Bool) (field : String) (item : Except BuildError RuleItem) :
    Except BuildError (List RuleItem) :=
  if cond then
    match item with
    | .ok item => .ok [item]
    | .error err => .error (if field = "" then err else .cause err field)
  else
    .ok []

def nonEmpty {α : Type} (slice : Option (List α)) : Bool := !(elems slice).isEmpty

/-- The blocks of `NewDefaultHeadlessRule`, in their order. -/
def headlessBlocks (o : DefaultHeadlessOptions) : List (Except BuildError (List RuleItem)) :=
  [appendIf (nonEmpty o.queryType) (.queryType (elems o.queryType)),
    appendIf (nonEmpty o.network) (.network (elems o.network)),
    if nonEmpty o.domain || nonEmpty o.domainSuffix then
      tryAppendIf true "" (newDomainItem c (elems o.domain) (elems o.domainSuffix))
    else
      appendIf o.domainMatcher.isSome (.domain (o.domainMatcher.getD fun _ => false)),
    appendIf (nonEmpty o.domainKeyword) (.domainKeyword (elems o.domainKeyword)),
    tryAppendIf (nonEmpty o.domainRegex) "domain_regex"
      (RuleItem.domainRegex <$> compileAll c (elems o.domainRegex)),
    if nonEmpty o.sourceIPCIDR then
      tryAppendIf true "source_ip_cidr" (newIPCIDRItem c true (elems o.sourceIPCIDR))
    else
      appendIf o.sourceIPSet.isSome (.ipCIDR true (o.sourceIPSet.getD fun _ => false)),
    if nonEmpty o.ipCIDR then
      tryAppendIf true "ipcidr" (newIPCIDRItem c false (elems o.ipCIDR))
    else
      appendIf o.ipSet.isSome (.ipCIDR false (o.ipSet.getD fun _ => false)),
    appendIf (nonEmpty o.sourcePort) (.port true (elems o.sourcePort)),
    tryAppendIf (nonEmpty o.sourcePortRange) "source_port_range"
      (newPortRangeItem true (elems o.sourcePortRange)),
    appendIf (nonEmpty o.port) (.port false (elems o.port)),
    tryAppendIf (nonEmpty o.portRange) "port_range" (newPortRangeItem false (elems o.portRange)),
    appendIf (nonEmpty o.processName) (.process (elems o.processName)),
    appendIf (nonEmpty o.processPath) (.processPath (elems o.processPath)),
    tryAppendIf (nonEmpty o.processPathRegex) "process_path_regex"
      (RuleItem.processPathRegex <$> compileAll c (elems o.processPathRegex)),
    appendIf (nonEmpty o.packageName) (.packageName (elems o.packageName)),
    tryAppendIf (nonEmpty o.packageNameRegex) "package_name_regex"
      (RuleItem.packageNameRegex <$> compileAll c (elems o.packageNameRegex)),
    appendIf (c.hasNetworkManager && nonEmpty o.networkType) (.networkType (elems o.networkType)),
    appendIf (c.hasNetworkManager && o.networkIsExpensive) .networkIsExpensive,
    appendIf (c.hasNetworkManager && o.networkIsConstrained) .networkIsConstrained,
    appendIf (c.hasNetworkManager && nonEmpty o.wifiSSID) (.wifiSSID (elems o.wifiSSID)),
    appendIf (c.hasNetworkManager && nonEmpty o.wifiBSSID) (.wifiBSSID (elems o.wifiBSSID)),
    appendIf (c.hasNetworkManager && nonEmpty o.networkInterfaceAddress)
      (.networkInterfaceAddress (elems o.networkInterfaceAddress)),
    appendIf (c.hasNetworkManager && nonEmpty o.defaultInterfaceAddress)
      (.defaultInterfaceAddress (elems o.defaultInterfaceAddress)),
    if nonEmpty o.adGuardDomain then
      appendIf true (.adGuardDomain (c.newAdGuardMatcher (elems o.adGuardDomain)))
    else
      appendIf o.adGuardDomainMatcher.isSome (.adGuardDomain (o.adGuardDomainMatcher.getD fun _ => false))]

def newDefaultHeadlessRule (o : DefaultHeadlessOptions) :
    Except BuildError (AbstractDefaultRule HeadlessRule) := do
  let blocks ← (headlessBlocks c o).mapM id
  return ⟨blocks.flatten,none,o.invert⟩

/-- `IsValid`: some field besides `invert` differs from its zero value. -/
def DefaultHeadlessOptions.isValid (o : DefaultHeadlessOptions) : Bool :=
  o.queryType.isSome || o.network.isSome || o.domain.isSome || o.domainSuffix.isSome ||
    o.domainKeyword.isSome || o.domainRegex.isSome || o.sourceIPCIDR.isSome || o.ipCIDR.isSome ||
    o.sourcePort.isSome || o.sourcePortRange.isSome || o.port.isSome || o.portRange.isSome ||
    o.processName.isSome || o.processPath.isSome || o.processPathRegex.isSome || o.packageName.isSome ||
    o.packageNameRegex.isSome || o.networkType.isSome || o.networkIsExpensive || o.networkIsConstrained ||
    o.wifiSSID.isSome || o.wifiBSSID.isSome || o.networkInterfaceAddress.isSome ||
    o.defaultInterfaceAddress.isSome || o.domainMatcher.isSome || o.sourceIPSet.isSome || o.ipSet.isSome ||
    o.adGuardDomain.isSome || o.adGuardDomainMatcher.isSome

mutual

def HeadlessOptions.isValid : HeadlessOptions → Bool
  | .default _ options => options.isValid
  | .logical _ rules _ => !rules.isEmpty && allValid rules

def allValid : List HeadlessOptions → Bool
  | [] => true
  | rule :: rules => rule.isValid && allValid rules

end

def newLogicalMode (mode : String) : Except BuildError LogicalType :=
  if mode = "and" then .ok .and
  else if mode = "or" then .ok .or
  else .error (.new ("unknown logical mode: " ++ mode))

mutual

def newHeadlessRule : HeadlessOptions → Except BuildError HeadlessRule
  | .default typed options =>
      if !(HeadlessOptions.default typed options).isValid then .error (.new "missing conditions")
      else HeadlessRule.default <$> newDefaultHeadlessRule c options
  | .logical mode rules invert =>
      if !(HeadlessOptions.logical mode rules invert).isValid then .error (.new "missing conditions")
      else do
        let mode ← newLogicalMode mode
        let rules ← newSubRules rules 0
        return .logical ⟨rules,mode,invert⟩

def newSubRules : List HeadlessOptions → ℕ → Except BuildError (List HeadlessRule)
  | [], _ => .ok []
  | subRule :: subRules, i =>
      match newHeadlessRule subRule with
      | .error err => .error (.cause err ("sub rule[" ++ toString i ++ "]"))
      | .ok rule => (rule :: ·) <$> newSubRules subRules (i+1)

end

end

mutual

def HeadlessOptions.unmarshal : HeadlessOptions → HeadlessOptions
  | .default _ options => .default true options
  | .logical mode rules invert => .logical mode (unmarshalAll rules) invert

def unmarshalAll : List HeadlessOptions → List HeadlessOptions
  | [] => []
  | rule :: rules => rule.unmarshal :: unmarshalAll rules

end

mutual

/-- One rule in the loop of `HasHeadlessRule`, which knows the two decoded types only. -/
def HeadlessOptions.has (cond : DefaultHeadlessOptions → Bool) : HeadlessOptions → Bool
  | .default true options => cond options
  | .default false _ => false
  | .logical _ rules _ => hasHeadlessRule cond rules

def hasHeadlessRule (cond : DefaultHeadlessOptions → Bool) : List HeadlessOptions → Bool
  | [] => false
  | rule :: rules => if rule.has cond then true else hasHeadlessRule cond rules

end

def isProcessHeadlessRule (rule : DefaultHeadlessOptions) : Bool :=
  nonEmpty rule.processName || nonEmpty rule.processPath || nonEmpty rule.processPathRegex ||
    nonEmpty rule.packageName || nonEmpty rule.packageNameRegex

def isWIFIHeadlessRule (rule : DefaultHeadlessOptions) : Bool := nonEmpty rule.wifiSSID || nonEmpty rule.wifiBSSID

def isIPCIDRHeadlessRule (rule : DefaultHeadlessOptions) : Bool := nonEmpty rule.ipCIDR || rule.ipSet.isSome

def isDNSQueryTypeHeadlessRule (rule : DefaultHeadlessOptions) : Bool := nonEmpty rule.queryType

def buildRuleSetMetadata (headlessRules : List HeadlessOptions) : RuleSetMetadata where
  containsProcessRule := hasHeadlessRule isProcessHeadlessRule headlessRules
  containsWIFIRule := hasHeadlessRule isWIFIHeadlessRule headlessRules
  containsIPCIDRRule := hasHeadlessRule isIPCIDRHeadlessRule headlessRules
  containsDNSQueryTypeRule := hasHeadlessRule isDNSQueryTypeHeadlessRule headlessRules

/-- A loop that builds the elements of a list and stops at the first error, with its position. -/
def buildAll {α β : Type} (build : α → Except BuildError β) (position : ℕ → String) :
    List α → ℕ → Except BuildError (List β)
  | [], _ => .ok []
  | x :: xs, i =>
      match build x with
      | .error err => .error (.cause err (position i))
      | .ok y => (y :: ·) <$> buildAll build position xs (i+1)

def newSetRules (c : ItemCompiler) (headlessRules : List HeadlessOptions) :
    Except BuildError (List HeadlessRule) :=
  buildAll (newHeadlessRule c) (fun i => "parse rule_set.rules.[" ++ toString i ++ "]") headlessRules 0

/-- `reloadRules` of a local set, and the second half of `loadBytes` of a remote one: the set after
a successful update. The options come out of a decoder. -/
def reloadRules (c : ItemCompiler) (validate : String → RuleSetMetadata → Option BuildError)
    (set : RuleSet HeadlessRule) (headlessRules : List HeadlessOptions) :
    Except BuildError (RuleSet HeadlessRule) := do
  let headlessRules := headlessRules.map HeadlessOptions.unmarshal
  let rules ← newSetRules c headlessRules
  let metadata := buildRuleSetMetadata headlessRules
  match validate set.tag metadata with
  | some err => .error err
  | none => .ok { set with rules := rules, metadata := metadata }

end SingBox.Rule
