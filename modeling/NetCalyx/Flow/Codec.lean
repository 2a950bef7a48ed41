import NetCalyx.Flow.Ipfix
import NetCalyx.Flow.Netflow
import NetCalyx.Wire.Loops
import NetCalyx.Wire.Stateful

/-!
# The codec of flow packets

The codec reads IPFIX and NetFlow packets from a buffer and keeps their templates,
one map for each protocol. The map of IPFIX has the template ids as its keys, for
all observation domains.
-/

namespace NetCalyx.Flow
open Wire

inductive FlowInfo (DateTime : Type) where
  | ipfix (packet : Ipfix.IpfixPacket DateTime)
  | netFlowV9 (packet : Netflow.NetFlowV9Packet DateTime)

inductive FlowInfoCodecDecoderError where
  | incomplete (needed : Option Nat)
  | unsupportedVersion (version : BitVec 16)
  | ipfixParsingError (e : Ipfix.IpfixPacketParsingError)
  | netFlowV9ParingError (e : Netflow.NetFlowV9PacketParsingError)

/-- A packet, none as long as the buffer has not enough octets, or an error. -/
abbrev Decoded (DateTime : Type) := Except FlowInfoCodecDecoderError (Option (FlowInfo DateTime))

structure FlowInfoCodec where
  netflowV9TemplatesMap : Netflow.TemplatesMap
  ipfixTemplatesMap : Ipfix.TemplatesMap

variable {DateTime : Type} [Chrono DateTime]

/-- The error of a parser in the codec's terms. -/
def decoderError {ε : Type} (f : ε → FlowInfoCodecDecoderError) : Err ε → FlowInfoCodecDecoderError
  | .incomplete needed => .incomplete (some needed)
  | .error e => f e

variable (registry : Registry)
variable (buf : Octets)

/-- The buffer moves on behind the packet. After an error it moves on by the length
of the packet, but far enough not to stay at the error. -/
def parseIpfix (length : Nat) (map : Ipfix.TemplatesMap) :
    Ipfix.TemplatesMap × Octets × Decoded DateTime :=
  match Ipfix.IpfixPacket.fromWire registry map buf with
  | (map', .ok (rest, packet)) => (map', rest, .ok (some (.ipfix packet)))
  | (map', .error e) =>
    (map', buf.drop (if length < 5 then 5 else length), .error (decoderError .ipfixParsingError e))

/-- There is no length to skip by, so that the buffer is cleared after an error. -/
def parseNetflowV9 (map : Netflow.TemplatesMap) :
    Netflow.TemplatesMap × Octets × Decoded DateTime :=
  match Netflow.NetFlowV9Packet.fromWire registry map buf with
  | (map', .ok (rest, packet)) => (map', rest, .ok (some (.netFlowV9 packet)))
  | (map', .error e) => (map', [], .error (decoderError .netFlowV9ParingError e))

/-- The version of a packet in its first two octets. -/
def versionOf : BitVec 16 := ofOctets 16 (buf.take 2)

/-- The length of an IPFIX packet, the record count of a NetFlow packet. -/
def lengthOf : Nat := (ofOctets 16 ((buf.drop 2).take 2)).toNat

def FlowInfoCodec.decode (codec : FlowInfoCodec) (buf : Octets) :
    FlowInfoCodec × Octets × Decoded DateTime :=
  if buf.length < 16 then (codec, buf, .ok none)
  else if buf.length < lengthOf buf then (codec, buf, .ok none)
  else if versionOf buf = Ipfix.ipfixVersion then
    let (map, rest, decoded) := parseIpfix registry buf (lengthOf buf) codec.ipfixTemplatesMap
    ({ codec with ipfixTemplatesMap := map }, rest, decoded)
  else if versionOf buf = Netflow.netflowV9Version then
    let (map, rest, decoded) := parseNetflowV9 registry buf codec.netflowV9TemplatesMap
    ({ codec with netflowV9TemplatesMap := map }, rest, decoded)
  else (codec, [], .error (.unsupportedVersion (versionOf buf)))

/-! ## Packets -/

section Packets

omit [Chrono DateTime] in
/-- The sets of a packet are behind the three numbers of its header. -/
theorem body_rest {f : BitVec 32 → Except Ipfix.IpfixPacketParsingError DateTime}
    {content mid mid' rest : Octets} {time : DateTime} {a b : BitVec 32}
    (htime : mapRes beU32 f content = .ok (mid, time))
    (ha : (beU32 : Parser Ipfix.IpfixPacketParsingError _) mid = .ok (mid', a))
    (hb : (beU32 : Parser Ipfix.IpfixPacketParsingError _) mid' = .ok (rest, b)) :
    rest = content.drop 12 := by
  rw [Drops.beUint 32 _ _ _ hb, Drops.beUint 32 _ _ _ ha,
    (Drops.beUint 32).mapRes f _ _ _ htime, List.drop_drop, List.drop_drop]

end Packets

/-! ## Packets with one counter -/

/-- A packet that announces a counter of the given length under the id 256 + `id`. -/
def announcement (domain id length : BitVec 8) : Octets :=
  [0, 10, 0, 28, 0, 0, 0, 0, 0, 0, 0, 0, 0, 0, 0, domain, 0, 2, 0, 12, 1, id, 0, 1, 0, 1, 0, length]

/-- A packet of eight octets of data for the template 256. -/
def counters (domain : BitVec 8) : Octets :=
  [0, 10, 0, 28, 0, 0, 0, 0, 0, 0, 0, 0, 0, 0, 0, domain, 1, 0, 0, 12, 0, 0, 0, 1, 0, 0, 0, 2]

end NetCalyx.Flow
