import NetCalyx.Collections.Map
import NetCalyx.Wire.Parser

/-!
# UDP-Notif packets

A header with a media type, the two ids that name a message, a map of options, and the
payload as it is.
-/

namespace NetCalyx.UdpNotif
open Wire Collections

inductive MediaType where
  | reserved
  | yangDataJson
  | yangDataXml
  | yangDataCbor
  | unknown (value : BitVec 8)
  deriving DecidableEq, Repr

namespace MediaType

def ofOctet (value : BitVec 8) : MediaType :=
  if value = 0 then reserved
  else if value = 1 then yangDataJson
  else if value = 2 then yangDataXml
  else if value = 3 then yangDataCbor
  else unknown value

def octet : MediaType → BitVec 8
  | reserved => 0
  | yangDataJson => 1
  | yangDataXml => 2
  | yangDataCbor => 3
  | unknown value => value

def isUnknown : MediaType → Bool
  | unknown _ => true
  | _ => false

end MediaType

inductive UdpNotifOptionCode where
  | segment
  | privateEncoding
  | unknown (code : BitVec 8)
  deriving DecidableEq, Repr

inductive UdpNotifOption where
  | segment (number : BitVec 16) (last : Bool)
  | privateEncoding (value : Octets)
  | unknown (typ : BitVec 8) (value : Octets)

def UdpNotifOption.code : UdpNotifOption → UdpNotifOptionCode
  | segment _ _ => .segment
  | privateEncoding _ => .privateEncoding
  | unknown typ _ => .unknown typ

abbrev UdpNotifOptions := Map UdpNotifOptionCode UdpNotifOption

structure UdpNotifPacket where
  mediaType : MediaType
  publisherId : BitVec 32
  messageId : BitVec 32
  options : UdpNotifOptions
  payload : Octets

namespace UdpNotifPacket

/-- Equal packets, with the options compared as a map. -/
structure Same (pkt pkt' : UdpNotifPacket) : Prop where
  mediaType : pkt.mediaType = pkt'.mediaType
  publisherId : pkt.publisherId = pkt'.publisherId
  messageId : pkt.messageId = pkt'.messageId
  options : ∀ code, pkt.options.lookup code = pkt'.options.lookup code
  payload : pkt.payload = pkt'.payload

/-- Each option is stored under its own code. -/
def OwnCodes (pkt : UdpNotifPacket) : Prop :=
  ∀ entry ∈ pkt.options.entries, entry.2.code = entry.1

instance (pkt : UdpNotifPacket) : Decidable pkt.OwnCodes :=
  inferInstanceAs (Decidable (∀ entry ∈ pkt.options.entries, entry.2.code = entry.1))

end UdpNotifPacket

end NetCalyx.UdpNotif
