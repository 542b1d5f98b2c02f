import Mathlib.Tactic

/-! DNS messages with the fields that the router and the DNS client read or write. -/
namespace SingBox.DNS

def typeA : ℕ := 1
def typeAAAA : ℕ := 28
def typeOPT : ℕ := 41
def typeHTTPS : ℕ := 65
def classINET : ℕ := 1
def rcodeSuccess : ℕ := 0
def rcodeFormatError : ℕ := 1
def rcodeNameError : ℕ := 3

structure Question where
  name : String
  qtype : ℕ
  qclass : ℕ
  deriving DecidableEq

structure RRHeader where
  name : String
  rrtype : ℕ
  cls : ℕ
  ttl : ℕ
  deriving DecidableEq

inductive SVCBKeyValue
  | ipv4Hint (hint : List (List UInt8))
  | ipv6Hint (hint : List (List UInt8))
  | other (key : ℕ) (value : List UInt8)
  deriving DecidableEq

inductive EDNS0
  | subnet (family sourceNetmask sourceScope : ℕ) (address : List UInt8)
  | other (code : ℕ) (data : List UInt8)
  deriving DecidableEq

/-- The record bodies that the code distinguishes by a type switch. -/
inductive RData
  | a (ip : List UInt8)
  | aaaa (ip : List UInt8)
  | https (value : List SVCBKeyValue)
  | soa (minttl : ℕ)
  | opt (options : List EDNS0)
  | other (data : List UInt8)
  deriving DecidableEq

structure RR where
  hdr : RRHeader
  data : RData
  deriving DecidableEq

structure Msg where
  id : ℕ := 0
  response : Bool := false
  authoritative : Bool := false
  recursionDesired : Bool := false
  recursionAvailable : Bool := false
  rcode : ℕ := rcodeSuccess
  question : List Question := []
  answer : List RR := []
  ns : List RR := []
  extra : List RR := []
  deriving DecidableEq

end SingBox.DNS
