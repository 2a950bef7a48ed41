import NetCalyx.Bgp.Codec.ErrorIsolation
import NetCalyx.Bmp.Codec

/-!
# Route mirroring

A Route Mirroring message carries elements behind the header of a peer, each with a type, a
length and its octets. A BGP message among them may be one that could not be decoded where it
was received, and `MirroredBgpMessage` has a variant for its octets. The parser never makes
use of it: with one element that it cannot decode, it gives up on the message. So a message
comes through if and only if each of its elements decodes (`tolerant_iff`).
-/

namespace NetCalyx.Bmp.V3
open Wire NetCalyx.Iana Bgp NetCalyx.Flow StateParser RouteMirroringValueParsingError

/-- An element of a Route Mirroring message on the wire. -/
structure MirroringTlv where
  type : BitVec 16
  content : Octets
  fits : content.length < 2 ^ 16

/-- The octets are one BGP message under the context. -/
def IsMessage (ctx : BgpParsingContext) (direction : MessageDirection) (bytes : Octets) : Prop :=
  ∃ msg, (BgpMessage.fromWire ctx direction .default bytes).2 = .ok ([], msg)

namespace MirroringTlv

def write (tlv : MirroringTlv) : Octets :=
  octets tlv.type ++ (octets (BitVec.ofNat 16 tlv.content.length) ++ tlv.content)

variable (ctx : BgpParsingContext)
variable (direction : MessageDirection)

/-- The content is what the type says. -/
def ReadableAs (content : Octets) :
    RouteMirroringTlvType → Prop
  | .bgpMessage => IsMessage ctx direction content
  | .information =>
    ∃ code info, content = octets code ∧ RouteMirroringInformation.tryFrom code = some info
  | _ => True

/-- The type is registered and the content is what it says. -/
def Readable (tlv : MirroringTlv) : Prop :=
  ∃ type, RouteMirroringTlvType.tryFrom tlv.type = some type ∧
    ReadableAs ctx direction tlv.content type

/-- A BGP message that cannot be decoded is handed on as it is. -/
def Mirrored (tlv : MirroringTlv) (value : RouteMirroringValue) : Prop :=
  RouteMirroringTlvType.tryFrom tlv.type = some .bgpMessage →
    ¬ IsMessage ctx direction tlv.content → value = .bgpMessage (.raw tlv.content)

end MirroringTlv

/-! ## One element -/

namespace RouteMirroringValue

variable {direction : MessageDirection} {length : BitVec 16} {content : Octets}

/-- The errors noted before make no difference to a parse. -/
theorem parseBgpMessage_eq (direction : MessageDirection) (peer : PeerContext) (buf : Octets) :
    ∃ errors, PeerContext.parseBgpMessage direction peer buf =
      ({ peer with parsingErrors := errors },
        (BgpMessage.fromWire peer.ctx direction .default buf).2) := by
  rw [PeerContext.parseBgpMessage, fromWire_behind]
  exact ⟨_, rfl⟩

variable {peer : PeerContext}

/-- The value uses up its octets exactly when the content is what the type says. -/
theorem parseValue_ok (hlength : length.toNat = content.length) {type : RouteMirroringTlvType}
    (h : MirroringTlv.ReadableAs peer.ctx direction content type) :
    ∃ peer' value, parseValue direction length type peer content = (peer', .ok ([], value)) ∧
      peer'.ctx = peer.ctx := by
  have hall {peer' : PeerContext} {value : RouteMirroringValue}
      (hvalue : ofType direction length type peer content = (peer', .ok ([], value)))
      (hctx : peer'.ctx = peer.ctx) :
      ∃ peer' value, parseValue direction length type peer content = (peer', .ok ([], value)) ∧
        peer'.ctx = peer.ctx :=
    ⟨peer', value, run_bind hvalue _, hctx⟩
  have htake : (take length.toNat : Parser RouteMirroringValueParsingError Octets) content =
      .ok ([], content) := (decodes_take hlength.symm).run_nil
  cases type with
  | bgpMessage =>
    obtain ⟨msg, hmsg⟩ := h
    obtain ⟨errors, hparse⟩ := parseBgpMessage_eq direction peer content
    rw [hmsg] at hparse
    have hmapped : (PeerContext.parseBgpMessage direction).mapErr
        bgpMessageError peer content =
          ({ peer with parsingErrors := errors }, .ok ([], msg)) := by
      rw [mapErr, hparse]
    exact hall (run_bind hmapped _) rfl
  | information =>
    obtain ⟨code, info, rfl, hinfo⟩ := h
    have hcode := (decodes_beU16 code).mapRes (b := info) (f := fun code =>
      (RouteMirroringInformation.tryFrom code).elim
        (.error (undefinedRouteMirroringInformation code)) .ok)
      (by rw [hinfo]; rfl)
    exact hall (run_bind (Reads.liftP hcode peer).run_nil _) rfl
  | _ => exact hall (run_bind (liftP_eq_ok.mpr ⟨rfl, htake⟩) _) rfl

variable {r : Octets × RouteMirroringValue}

theorem readableAs_of_parseValue {type : RouteMirroringTlvType} {peer peer' : PeerContext}
    (h : parseValue direction length type peer content = (peer', .ok r)) :
    MirroringTlv.ReadableAs peer.ctx direction content type := by
  obtain ⟨rest, value⟩ := r
  obtain ⟨mid, left, value', hvalue, h⟩ := bind_eq_ok h
  obtain rfl : left = [] := by
    cases left with
    | nil => rfl
    | cons b left => cases h
  cases type with
  | bgpMessage =>
    obtain ⟨_, _, msg, hmsg, hvalue⟩ := bind_eq_ok hvalue
    cases hvalue
    obtain ⟨errors, hparse⟩ := parseBgpMessage_eq direction peer content
    exact ⟨msg, congrArg Prod.snd (hparse.symm.trans (mapErr_eq_ok hmsg))⟩
  | information =>
    obtain ⟨_, info, hinfo, hvalue⟩ := liftP_bind_eq_ok hvalue
    cases hvalue
    obtain ⟨code, hcode, hinfo⟩ := mapRes_eq_ok.mp hinfo
    refine ⟨code, info, ?_, ?_⟩
    · simpa using (beUint_eq_ok (by decide)).mp hcode
    · cases htry : RouteMirroringInformation.tryFrom code <;> simp [htry] at hinfo ⊢
      exact hinfo
  | _ => trivial

/-- An element is read exactly when it can be, under the context of the peer. -/
theorem reads_of_readable {tlv : MirroringTlv} (h : tlv.Readable peer.ctx direction) :
    ∃ value peer', Reads (fromWire direction) peer tlv.write value peer' ∧
      tlv.Mirrored peer.ctx direction value ∧ peer'.ctx = peer.ctx := by
  obtain ⟨type, htype, hreadable⟩ := h
  have hlength : (BitVec.ofNat 16 tlv.content.length).toNat = tlv.content.length := by
    rw [BitVec.toNat_ofNat, Nat.mod_eq_of_lt tlv.fits]
  obtain ⟨peer', value, hvalue, hctx⟩ := parseValue_ok hlength hreadable
  refine ⟨value, peer', ?_, ?_, hctx⟩
  · have hcode := (decodes_beU16 tlv.type).mapRes (b := type) (f := fun code =>
      (RouteMirroringTlvType.tryFrom code).elim
        (.error (undefinedRouteMirroringTlvType code)) .ok)
      (by rw [htype]; rfl)
    refine (Reads.liftP hcode peer).bind fun rest => ?_
    have hpeek : Parser.peek beU16 (octets (BitVec.ofNat 16 tlv.content.length) ++
        tlv.content ++ rest) = (.ok (octets (BitVec.ofNat 16 tlv.content.length) ++ tlv.content ++
          rest, BitVec.ofNat 16 tlv.content.length) :
            Except (Err RouteMirroringValueParsingError) _) := by
      rw [Parser.peek, List.append_assoc, decodes_beU16]
    rw [run_bind (liftP_eq_ok.mpr ⟨rfl, hpeek⟩)]
    exact ((Reads.liftP (decodes_lengthData (decodes_beU16 _) tlv.fits) peer).last
      (Reads.within hvalue)) rest
  · intro hmessage hnot
    cases htype.symm.trans hmessage
    exact absurd hreadable hnot

theorem readable_of_fromWire {tlv : MirroringTlv} {peer peer' : PeerContext} {rest : Octets}
    (h : fromWire direction peer (tlv.write ++ rest) = (peer', .ok r)) :
    tlv.Readable peer.ctx direction := by
  obtain ⟨mid, type, hcode, h⟩ := liftP_bind_eq_ok h
  obtain ⟨code, hcode, htype⟩ := mapRes_eq_ok.mp hcode
  rw [MirroringTlv.write, List.append_assoc, decodes_beU16] at hcode
  cases hcode
  obtain ⟨mid, length, hpeek, h⟩ := liftP_bind_eq_ok h
  rw [Parser.peek, List.append_assoc, decodes_beU16] at hpeek
  cases hpeek
  obtain ⟨mid, data, hdata, h⟩ := liftP_bind_eq_ok h
  rw [← List.append_assoc, decodes_lengthData (decodes_beU16 _) tlv.fits] at hdata
  cases hdata
  obtain ⟨-, left, hvalue⟩ := within_eq_ok.mp h
  refine ⟨type, ?_, readableAs_of_parseValue hvalue⟩
  cases htry : RouteMirroringTlvType.tryFrom tlv.type <;> simp [htry] at htype ⊢
  exact htype

/-- All elements are read if and only if all of them can be. -/
theorem all_read_iff {tlvs : List MirroringTlv} :
    (∃ peer' values, repeatWhile (fun buf => !buf.isEmpty) (fromWire direction) peer
        (tlvs.flatMap MirroringTlv.write) = (peer', .ok ([], values)) ∧
      List.Forall₂ (MirroringTlv.Mirrored peer.ctx direction) tlvs values) ↔
    ∀ tlv ∈ tlvs, tlv.Readable peer.ctx direction := by
  -- the context stays, whatever is noted about errors
  refine repeatWhile_framed_iff (I := fun other => other.ctx = peer.ctx)
    (fun tlv h other hctx => ?_) (fun tlv other rest other' r hctx h => ?_) (fun tlv h => ?_) rfl
  · rw [← hctx] at h ⊢
    exact reads_of_readable h
  · rw [← hctx]
    exact readable_of_fromWire h
  · have := congrArg List.length h
    simp [MirroringTlv.write] at this

end RouteMirroringValue

/-! ## Messages -/

namespace RouteMirroringMessage

variable {DateTime : Type} [Chrono DateTime]

omit [Chrono DateTime] in
theorem onPeer_eq_ok {ε α : Type} {header : PeerHeader DateTime} {p : StateParser PeerContext ε α}
    {ctx ctx' : BmpParsingContext} {buf : Octets} {r : Octets × α}
    (h : onPeer header p ctx buf = (ctx', .ok r)) :
    ∃ peer', p (ctx.contextFor header) buf = (peer', .ok r) := by
  have hresult : (p (ctx.contextFor header) buf).2 = .ok r := congrArg Prod.snd h
  exact ⟨_, Prod.ext rfl hresult⟩

/-- The message is returned with one value for each of its elements, and a BGP message that
cannot be decoded is returned as it is. -/
def Tolerant (ctx : BmpParsingContext) (buf : Octets) (header : PeerHeader DateTime)
    (tlvs : List MirroringTlv) : Prop :=
  ∃ ctx' values, fromWire ctx buf = (ctx', .ok ([], ⟨header, values⟩)) ∧
    List.Forall₂ (MirroringTlv.Mirrored (ctx.contextFor header).ctx header.bgpMessageDirection)
      tlvs values

/-- Behind a header that can be read, the elements of a message are tolerated if and only if
each of them can be read. -/
theorem tolerant_iff {ctx : BmpParsingContext} {buf : Octets} {header : PeerHeader DateTime}
    {tlvs : List MirroringTlv}
    (hheader : PeerHeader.fromWire buf = .ok (tlvs.flatMap MirroringTlv.write, header)) :
    Tolerant ctx buf header tlvs ↔
      ∀ tlv ∈ tlvs, tlv.Readable (ctx.contextFor header).ctx header.bgpMessageDirection := by
  have hhead : (liftP (PeerHeader.fromWire.mapErr .peerHeaderError) :
      StateParser BmpParsingContext RouteMirroringMessageParsingError (PeerHeader DateTime)) ctx buf =
        (ctx, .ok (tlvs.flatMap MirroringTlv.write, header)) :=
    liftP_eq_ok.mpr ⟨rfl, Parser.mapErr_eq_ok.mpr hheader⟩
  rw [← RouteMirroringValue.all_read_iff, Tolerant, fromWire]
  simp only [run_bind hhead]
  constructor
  · rintro ⟨ctx', values, hmsg, hall⟩
    obtain ⟨mid, rest, values', hloop, hmsg⟩ := bind_eq_ok hmsg
    cases hmsg
    obtain ⟨peer', hloop⟩ := onPeer_eq_ok hloop
    exact ⟨peer', values, mapErr_eq_ok hloop, hall⟩
  · rintro ⟨peer', values, hloop, hall⟩
    refine ⟨ctx.insert header.peerKey peer', values, run_bind ?_ _, hall⟩
    rw [onPeer, StateParser.zoom, mapErr, hloop]

/-- The header of a peer with an IPv4 address. -/
def peerHeaderOctets : Octets :=
  List.replicate 22 0 ++ [10, 0, 0, 1, 0, 0, 0, 1, 10, 0, 0, 1] ++ List.replicate 8 0

/-- An element with a BGP message of one octet, and one that says so. -/
def erroredPdu : List MirroringTlv := [⟨0, [255], by decide⟩, ⟨1, [0, 0], by decide⟩]

/-- An element with a KEEPALIVE message, and one about it. -/
def mirroredKeepAlive : List MirroringTlv :=
  [⟨0, List.replicate 16 255 ++ [0, 19, 4], by decide⟩, ⟨1, [0, 0], by decide⟩]

theorem keepAlive_tolerated :
    ∃ header : PeerHeader UtcTime,
      Tolerant .default (peerHeaderOctets ++ mirroredKeepAlive.flatMap MirroringTlv.write) header
        mirroredKeepAlive := by
  refine ⟨_, (tolerant_iff rfl).mpr ?_⟩
  rw [mirroredKeepAlive, List.forall_mem_cons, List.forall_mem_singleton]
  exact ⟨⟨.bgpMessage, rfl, .keepAlive, rfl⟩, .information, rfl, 0, .erroredPdu, rfl, rfl⟩

/-- A message about a BGP message that cannot be decoded is refused. -/
theorem erroredPdu_refused :
    ∃ header : PeerHeader UtcTime,
      PeerHeader.fromWire (peerHeaderOctets ++ erroredPdu.flatMap MirroringTlv.write) =
        .ok (erroredPdu.flatMap MirroringTlv.write, header) ∧
      ¬ Tolerant .default (peerHeaderOctets ++ erroredPdu.flatMap MirroringTlv.write) header
        erroredPdu := by
  refine ⟨_, rfl, ?_⟩
  rintro ⟨ctx', values, h, -⟩
  have hrefused : (fromWire .default (peerHeaderOctets ++ erroredPdu.flatMap MirroringTlv.write) :
      _ × Except _ (_ × RouteMirroringMessage UtcTime)).2 =
        .error (.error (.routeMirroringValueError (.bgpMessageError (.nomError .eof)))) := rfl
  rw [h] at hrefused
  cases hrefused

end RouteMirroringMessage

end NetCalyx.Bmp.V3
