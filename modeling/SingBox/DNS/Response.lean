import SingBox.Adapter.InboundContext

/-! Functions of the DNS client on messages: lifetimes, the options of a query, EDNS records and
fixed answers (`dns/client.go`, `dns/extension_edns0_subnet.go`). -/
namespace SingBox.DNS
open Adapter

structure MsgOps where
  pack : Msg → Option (List UInt8)
  unpack : List UInt8 → Option Msg
  isEdns0 : Msg → Option RR
  version : RR → ℕ
  udpSize : RR → ℕ
  dnssecOk : RR → Bool
  setEdns0 : Msg → ℕ → Bool → Msg
  isFqdn : String → Bool
  fqdn : String → String
  unpack_pack : ∀ message packed, pack message = some packed → unpack packed = some message

def isOPT (record : RR) : Bool := record.hdr.rrtype == typeOPT

def extractNegativeTTL (response : Msg) : Option ℕ :=
  response.ns.findSome? fun record =>
    match record.data with
    | .soa soaMinimum => some (if record.hdr.ttl < soaMinimum then record.hdr.ttl else soaMinimum)
    | _ => none

/-- The loop of `computeTimeToLive`. -/
def smallestTTL (records : List RR) : ℕ :=
  records.foldl
    (fun timeToLive record => if isOPT record then timeToLive
      else if timeToLive == 0 || record.hdr.ttl > 0 && record.hdr.ttl < timeToLive then record.hdr.ttl
      else timeToLive)
    0

def computeTimeToLive (response : Msg) : ℕ :=
  match if response.answer.length = 0 then extractNegativeTTL response else none with
  | some soaTTL => soaTTL
  | none => smallestTTL (response.answer++response.ns++response.extra)

def setTTL (timeToLive : ℕ) (record : RR) : RR :=
  if isOPT record then record else { record with hdr := { record.hdr with ttl := timeToLive } }

def normalizeTTL (response : Msg) (timeToLive : ℕ) : Msg :=
  { response with
    answer := response.answer.map (setTTL timeToLive)
    ns := response.ns.map (setTTL timeToLive)
    extra := response.extra.map (setTTL timeToLive) }

def keepsHint (strategy : DomainStrategy) : SVCBKeyValue → Bool
  | .ipv4Hint _ => strategy != .ipv6Only
  | .ipv6Hint _ => strategy != .ipv4Only
  | .other _ _ => true

def filterHints (strategy : DomainStrategy) (record : RR) : RR :=
  match record.data with
  | .https value => { record with data := .https (value.filter (keepsHint strategy)) }
  | _ => record

/-- `applyResponseOptions`: the changed response and its lifetime. -/
def applyResponseOptions (question : Question) (response : Msg) (options : DNSQueryOptions) : Msg × ℕ :=
  let response :=
    if question.qtype = typeHTTPS ∧ (options.strategy = .ipv4Only ∨ options.strategy = .ipv6Only) then
      { response with answer := response.answer.map (filterHints options.strategy) }
    else response
  let timeToLive := options.rewriteTTL.getD (computeTimeToLive response)
  (normalizeTTL response timeToLive,timeToLive)

def fixedResponseStatus (message : Msg) (rcode : ℕ) : Msg :=
  { id := message.id, response := true, authoritative := true, recursionDesired := true,
    recursionAvailable := true, rcode := rcode, question := message.question }

def subnetOption (clientSubnet : Prefix) (sourceScope : ℕ) : EDNS0 :=
  .subnet (if clientSubnet.addr.is4 then 1 else 2) (clientSubnet.bits%256) sourceScope
    clientSubnet.addr.asSlice

def overwriteSubnet (clientSubnet : Prefix) : List EDNS0 → Option (List EDNS0)
  | [] => none
  | .subnet _ _ sourceScope _ :: options => some (subnetOption clientSubnet sourceScope :: options)
  | option :: options => (overwriteSubnet clientSubnet options).map (option :: ·)

def overwriteRecord (clientSubnet : Prefix) : List RR → Option (List RR)
  | [] => none
  | record :: records =>
      match record.data with
      | .opt options =>
          match overwriteSubnet clientSubnet options with
          | some options => some ({ record with data := .opt options } :: records)
          | none => (overwriteRecord clientSubnet records).map (record :: ·)
      | _ => (overwriteRecord clientSubnet records).map (record :: ·)

/-- One OPT record is changed, the first that has a subnet option. -/
lemma overwriteRecord_eq_some {cs : Prefix} {rs rs' : List RR}
    (h : overwriteRecord cs rs = some rs') : ∃ f hdr os os' b,
      rs = f++⟨hdr,.opt os⟩::b ∧ overwriteSubnet cs os = some os' ∧ rs' = f++⟨hdr,.opt os'⟩::b := by
  fun_induction overwriteRecord cs rs generalizing rs' with
  | case1 => cases h
  | case2 r rs os hd os' ho =>
    obtain ⟨hdr,d⟩ := r
    obtain rfl : d = .opt os := hd
    exact ⟨[],hdr,os,os',rs,rfl,ho,(Option.some.inj h).symm⟩
  | case3 r rs _ _ _ ih | case4 r rs _ ih =>
    obtain ⟨rt,hr,rfl⟩ := Option.map_eq_some_iff.mp h
    obtain ⟨f,hdr,os,os',b,rfl,ho,rfl⟩ := ih hr
    exact ⟨r::f,hdr,os,os',b,rfl,ho,rfl⟩

/-- `SetClientSubnet`. Without a subnet option, the last record counts as the OPT record to extend,
and a new one is appended unless it is one. -/
def setClientSubnet (message : Msg) (clientSubnet : Prefix) : Msg :=
  match overwriteRecord clientSubnet message.extra with
  | some extra => { message with extra := extra }
  | none =>
      match message.extra.getLast? with
      | some ⟨hdr,.opt options⟩ =>
          { message with
            extra := message.extra.dropLast++[⟨hdr,.opt (options++[subnetOption clientSubnet 0])⟩] }
      | _ =>
          { message with
            extra := message.extra++[⟨⟨".",typeOPT,0,0⟩,.opt [subnetOption clientSubnet 0]⟩] }

/-- `isSimpleRequest`: only such requests use the cache. -/
def isSimpleRequest (message : Msg) (options : DNSQueryOptions) : Bool :=
  message.question.length == 1 && message.ns.length == 0 &&
    (match message.extra with
      | [] => true
      | [record] =>
          isOPT record && record.hdr.cls > 0 && record.hdr.ttl == 0 &&
            (match record.data with
              | .opt options => options.length == 0
              | _ => false)
      | _ => false) &&
    !options.clientSubnet.isValid

def adjustEDNS (ops : MsgOps) (message response : Msg) : Msg :=
  match ops.isEdns0 response, ops.isEdns0 message with
  | none, _ => response
  | some _, none => { response with extra := response.extra.filter fun it => !isOPT it }
  | some responseEDNSOpt, some requestEDNSOpt =>
      if ops.version requestEDNSOpt < ops.version responseEDNSOpt then
        ops.setEdns0 { response with extra := response.extra.filter fun it => !isOPT it }
          (ops.udpSize responseEDNSOpt) (ops.dnssecOk responseEDNSOpt)
      else response

/-- `FqdnToDomain`. -/
def fqdnToDomain (ops : MsgOps) (fqdn : String) : String :=
  if ops.isFqdn fqdn then (fqdn.dropEnd 1).toString else fqdn

end SingBox.DNS
