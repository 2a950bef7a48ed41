import NetCalyx.Bgp.ParsingError

/-!
# Encoding of routes

Writers and parsers of unicast and multicast routes, of labels, route
distinguishers and labelled next hops. A prefix is written as its length in bits
and the octets that hold them, so reading it back gives the network with the
host bits cleared (`ipNetFromWire_prefixOctets`), which its family then checks
again (`Network.fromWire_write`).
-/

namespace NetCalyx.Bgp
open Wire

/-! ## Path identifiers -/

variable (pathId : Option (BitVec 32))

def pathIdLen : Nat := pathId.elim 0 fun _ => 4

def pathIdWrite : Octets := pathId.elim [] octets

def parsePathId {ε : Type} [NomError ε] (addPath : Bool) : Parser ε (Option (BitVec 32)) :=
  if addPath then do
    let pathId ← beU32
    return some pathId
  else return none

theorem pathIdWrite_length : (pathIdWrite pathId).length = pathIdLen pathId := by
  cases pathId <;> simp [pathIdWrite, pathIdLen]

theorem decodes_parsePathId {ε : Type} [NomError ε] :
    Decodes (parsePathId pathId.isSome : Parser ε _) (pathIdWrite pathId) pathId := by
  cases pathId with
  | none => exact Decodes.pure none
  | some pathId => exact (decodes_beU32 pathId).map some

/-- The size of the path identifier in front of a route. -/
def pathIdSize (addPath : Bool) : Nat := if addPath then 4 else 0

theorem decodes_pathId {ε : Type} [NomError ε] {addPath : Bool} {front : Octets}
    (h : front.length = pathIdSize addPath) :
    ∃ pathId, Decodes (parsePathId addPath : Parser ε _) front pathId := by
  unfold parsePathId
  cases addPath with
  | false =>
    obtain rfl := List.length_eq_zero_iff.mp h
    exact ⟨none, Decodes.pure none⟩
  | true => exact ⟨_, (decodes_ofOctets rfl h).map some⟩

theorem parsePathId_eq_ok {ε : Type} [NomError ε] {addPath : Bool} {buf rest : Octets}
    {pathId : Option (BitVec 32)} (h : (parsePathId addPath : Parser ε _) buf = .ok (rest, pathId)) :
    ∃ front, buf = front ++ rest ∧ front.length = pathIdSize addPath ∧
      Decodes (parsePathId addPath : Parser ε _) front pathId := by
  unfold parsePathId at h ⊢
  cases addPath with
  | false =>
    cases h
    exact ⟨[], rfl, rfl, Decodes.pure none⟩
  | true =>
    obtain ⟨mid, id, hid, h⟩ := Parser.bind_eq_ok h
    cases h
    exact ⟨octets id, (beUint_eq_ok rfl).mp hid, octets_length id, (decodes_beU32 id).map some⟩

/-! ## Addresses -/

def ipAddrLen : IpAddr → Nat
  | .v4 _ => 4
  | .v6 _ => 16

def ipAddrOctets : IpAddr → Octets
  | .v4 addr => octets addr
  | .v6 addr => octets addr

/-- An address is written behind its length, which `ipAddrLen` does not count. -/
def ipAddrWrite (addr : IpAddr) : Octets := BitVec.ofNat 8 (ipAddrLen addr) :: ipAddrOctets addr

def ipAddrFromWire : Parser IpAddrParsingError IpAddr := do
  let ipLen ← beU8
  if ipLen = 4 then
    let addr ← beU32
    return .v4 addr
  else if ipLen = 16 then
    let addr ← beU128
    return .v6 addr
  else .fail (.invalidIpAddressType ipLen)

@[simp] theorem ipAddrOctets_length (addr : IpAddr) :
    (ipAddrOctets addr).length = ipAddrLen addr := by
  cases addr <;> simp [ipAddrOctets, ipAddrLen]

/-! ## Labels and route distinguishers -/

def MplsLabel.write (label : MplsLabel) : Octets := label.value.val

def MplsLabel.fromWire : Parser MplsLabelParsingError MplsLabel := do
  let p1 ← beU8
  let p2 ← beU8
  let p3 ← beU8
  return ⟨⟨[p1, p2, p3], rfl⟩⟩

def RouteDistinguisher.toU64 : RouteDistinguisher → BitVec 64
  | as2Administrator asn2 number =>
    (RouteDistinguisherTypeCode.as2Administrator.code.setWidth 64 <<< (64 - 16))
      ||| (asn2.setWidth 64 <<< (64 - 16 - 16)) ||| number.setWidth 64
  | ipv4Administrator ip number =>
    (RouteDistinguisherTypeCode.ipv4Administrator.code.setWidth 64 <<< (64 - 16))
      ||| (ip.setWidth 64 <<< (64 - 16 - 32)) ||| number.setWidth 64
  | as4Administrator asn4 number =>
    (RouteDistinguisherTypeCode.as4Administrator.code.setWidth 64 <<< (64 - 16))
      ||| (asn4.setWidth 64 <<< (64 - 16 - 32)) ||| number.setWidth 64
  | leafAdRoutes => BitVec.allOnes 64

def RouteDistinguisher.len (_rd : RouteDistinguisher) : Nat := 8

def RouteDistinguisher.write (rd : RouteDistinguisher) : Octets := octets rd.toU64

def RouteDistinguisher.fromWire : Parser RouteDistinguisherParsingError RouteDistinguisher := do
  let rdType ← mapRes beU16 fun code => (RouteDistinguisherTypeCode.tryFrom code).elim
    (.error (.undefinedRouteDistinguisherTypeCode code)) .ok
  match rdType with
  | .as2Administrator =>
    let asn2 ← beU16
    let number ← beU32
    return .as2Administrator asn2 number
  | .ipv4Administrator =>
    let ip ← beU32
    let number ← beU16
    return .ipv4Administrator ip number
  | .as4Administrator =>
    let asn4 ← beU32
    let number ← beU16
    return .as4Administrator asn4 number
  | .leafAdRoutes =>
    let num1 ← beU16
    let num2 ← beU32
    if num1 ≠ BitVec.allOnes 16 ∨ num2 ≠ BitVec.allOnes 32 then .fail (.invalidLeafAdRoutes num1 num2)
    else return .leafAdRoutes

/-! ## Labelled next hops -/

def LabeledIpv4NextHop.len (_nh : LabeledIpv4NextHop) : Nat := 12
def LabeledIpv6NextHop.len (_nh : LabeledIpv6NextHop) : Nat := 24

def LabeledIpv4NextHop.write (nh : LabeledIpv4NextHop) : Octets := nh.rd.write ++ octets nh.nextHop

/-- A link-local next hop is not written. -/
def LabeledIpv6NextHop.write (nh : LabeledIpv6NextHop) : Octets := nh.rd.write ++ octets nh.nextHop

def LabeledNextHop.len : LabeledNextHop → Nat
  | ipv4 nh => 1 + nh.len
  | ipv6 nh => 1 + nh.len

def LabeledNextHop.write (nh : LabeledNextHop) : Octets :=
  BitVec.ofNat 8 (nh.len - 1) :: match nh with
    | ipv4 nh => nh.write
    | ipv6 nh => nh.write

def LabeledIpv4NextHop.fromWire : Parser LabeledIpv4NextHopParsingError LabeledIpv4NextHop := do
  let rd ← RouteDistinguisher.fromWire.mapErr .routeDistinguisherError
  let ip ← beU32
  return ⟨rd, ip⟩

def LabeledIpv6NextHop.fromWire : Parser LabeledIpv6NextHopParsingError LabeledIpv6NextHop := do
  let rd ← RouteDistinguisher.fromWire.mapErr .routeDistinguisherError
  let buf ← .input
  if buf.length = 16 then
    let ip ← beU128
    return ⟨rd, ip, none⟩
  else
    let ip ← beU128
    let loc ← beU128
    return ⟨rd, ip, some loc⟩

def LabeledNextHop.fromWire : Parser LabeledNextHopParsingError LabeledNextHop := do
  let prefixLen ← beU8
  let addressBuf ← take prefixLen.toNat
  if prefixLen = 12 then
    let nh ← .within addressBuf (LabeledIpv4NextHop.fromWire.mapErr .labeledIpv4NextHopError)
    return .ipv4 nh
  else if prefixLen = 24 then
    let nh ← .within addressBuf (LabeledIpv6NextHop.fromWire.mapErr .labeledIpv6NextHopError)
    return .ipv6 nh
  else .fail (.invalidLength prefixLen)

/-! ## Prefixes -/

section Prefixes

variable {w : Nat}

/-- A prefix whose length has been read: the octets that hold its bits, padded
with zeros. -/
def ipNetFromWire (prefixLen : BitVec 8) : Parser PrefixParsingError (IpNet w) := do
  let prefixSize := if prefixLen.toNat ≥ 255 - 7 then 255 else (prefixLen.toNat + 7) / 8
  let bytes ← take (min prefixSize (w / 8))
  let addr := ofOctets w (bytes ++ List.replicate (w / 8 - bytes.length) 0)
  match IpNet.new addr prefixLen.toNat with
  | some net => return net
  | none => .fail (.invalidPrefixLen prefixLen)

/-- A prefix behind its length. -/
def ipNetFromWireWithLen : Parser PrefixParsingError (IpNet w) := do
  let prefixLen ← beU8
  ipNetFromWire prefixLen

variable {check : IpNet w → Bool}

def Network.len (network : Network check) : Nat := 1 + network.net.prefixSize

def Network.write (network : Network check) : Octets :=
  BitVec.ofNat 8 network.net.prefixLen :: (octets network.net.network).take (network.len - 1)

def Network.fromIpNet (net : IpNet w) : Except (NetworkParsingError w) (Network check) :=
  match Network.fromNet net with
  | .ok network => .ok network
  | .error net => .error (.invalidNetwork net)

def Network.fromWire : Parser (NetworkParsingError w) (Network check) :=
  mapRes (ipNetFromWireWithLen.mapErr .prefixError) Network.fromIpNet

/-- A network whose prefix length has been read. -/
def Network.fromWireWithoutLen (prefixLen : BitVec 8) :
    Parser (NetworkParsingError w) (Network check) :=
  mapRes ((ipNetFromWire prefixLen).mapErr .prefixError) Network.fromIpNet

def NetworkAddress.len (address : NetworkAddress check) : Nat :=
  pathIdLen address.pathId + address.network.len

def NetworkAddress.write (address : NetworkAddress check) : Octets :=
  pathIdWrite address.pathId ++ address.network.write

def NetworkAddress.fromWire (addPath : Bool) :
    Parser (NetworkAddressParsingError w) (NetworkAddress check) := do
  let pathId ← parsePathId addPath
  let network ← Network.fromWire.mapErr .networkError
  return ⟨pathId, network⟩

end Prefixes

/-! ## Sizes -/

@[simp] theorem MplsLabel.write_length (label : MplsLabel) : label.write.length = 3 :=
  label.value.property

variable (rd : RouteDistinguisher)

@[simp] theorem RouteDistinguisher.write_length : rd.write.length = 8 := by
  simp [write]

/-! ## Reading back -/

theorem MplsLabel.decodes (label : MplsLabel) : Decodes fromWire label.write label := by
  obtain ⟨⟨bs, hbs⟩⟩ := label
  obtain ⟨p1, p2, p3, rfl⟩ := List.length_eq_three.mp hbs
  exact (decodes_beU8 p1).bind <| (decodes_beU8 p2).bind <| (decodes_beU8 p3).map _

theorem RouteDistinguisher.write_eq :
    rd.write = octets rd.getType.code ++ match rd with
      | as2Administrator asn2 number => octets asn2 ++ octets number
      | ipv4Administrator ip number => octets ip ++ octets number
      | as4Administrator asn4 number => octets asn4 ++ octets number
      | leafAdRoutes => octets (BitVec.allOnes 16) ++ octets (BitVec.allOnes 32) := by
  have hwide : ∀ code asn2 : BitVec 16, ∀ number : BitVec 32,
      (code.setWidth 64 <<< 48) ||| (asn2.setWidth 64 <<< 32) ||| number.setWidth 64
        = code ++ (asn2 ++ number) := by
    intro code asn2 number
    ext i hi
    simp
    grind
  have hnarrow : ∀ code : BitVec 16, ∀ asn4 : BitVec 32, ∀ number : BitVec 16,
      (code.setWidth 64 <<< 48) ||| (asn4.setWidth 64 <<< 16) ||| number.setWidth 64
        = code ++ (asn4 ++ number) := by
    intro code asn4 number
    ext i hi
    simp
    grind
  cases rd with
  | as2Administrator asn2 number =>
    rw [write, toU64, hwide, octets_append rfl rfl, octets_append rfl rfl]
    rfl
  | ipv4Administrator ip number | as4Administrator asn4 number =>
    rw [write, toU64, hnarrow, octets_append rfl rfl, octets_append rfl rfl]
    rfl
  | leafAdRoutes => decide

theorem RouteDistinguisher.decodes : Decodes fromWire rd.write rd := by
  rw [write_eq]
  refine ((decodes_beU16 rd.getType.code).mapRes (b := rd.getType) (by simp)).bind ?_
  cases rd with
  | as2Administrator asn2 number => exact (decodes_beU16 asn2).bind ((decodes_beU32 number).map _)
  | ipv4Administrator ip number => exact (decodes_beU32 ip).bind ((decodes_beU16 number).map _)
  | as4Administrator asn4 number => exact (decodes_beU32 asn4).bind ((decodes_beU16 number).map _)
  | leafAdRoutes =>
    refine (decodes_beU16 _).bind ((decodes_beU32 _).last ?_)
    rw [if_neg (by simp)]
    exact Decodes.pure _

theorem consumes_routeDistinguisher : Consumes RouteDistinguisher.fromWire fun _ => 8 := by
  refine Consumes.beUint.mapRes.bind (m := 6) (fun type => ?_) rfl
  have hparts {a b : Nat} {f : BitVec a → BitVec b → Parser RouteDistinguisherParsingError _}
      (hf : ∀ x y, Consumes (f x y) fun _ => 0) (hsize : a / 8 + b / 8 = 6) :
      Consumes (do f (← beUint a) (← beUint b) : Parser _ RouteDistinguisher) fun _ => 6 :=
    Consumes.beUint.bind (fun _ => Consumes.beUint.bind (hf _) rfl) hsize
  cases type with
  | as2Administrator | ipv4Administrator | as4Administrator => exact hparts (fun _ _ => .pure _) rfl
  | leafAdRoutes =>
    refine hparts (fun _ _ => ?_) rfl
    split
    · exact .fail _
    · exact .pure _

section Prefixes

variable {w : Nat} {check : IpNet w → Bool}

/-- The octets that hold prefix bits are read back as the network with its host
bits cleared. -/
theorem ipNetFromWire_prefixOctets (hw : w % 8 = 0) (hle : w ≤ 128) (net : IpNet w) :
    Decodes (ipNetFromWire (BitVec.ofNat 8 net.prefixLen)) net.prefixOctets net.trunc := by
  have hnet := net.le
  have hbits : (BitVec.ofNat 8 net.prefixLen).toNat = net.prefixLen := by
    rw [BitVec.toNat_ofNat, Nat.mod_eq_of_lt (by omega)]
  have hsize : min net.prefixSize (w / 8) = net.prefixSize :=
    Nat.min_eq_left (net.prefixSize_le hw)
  have hlen := net.prefixOctets_length hw
  have hnew : IpNet.new net.network net.prefixLen = some net.trunc :=
    IpNet.new_eq_some.mpr ⟨rfl, rfl⟩
  rw [ipNetFromWire, hbits, if_neg (by omega)]
  refine (decodes_take ?_).last ?_
  · rw [hlen]
    exact hsize.symm
  · simp only [hlen, net.prefixOctets_pad hw, hnew]
    exact Decodes.pure _

theorem consumes_ipNetFromWire (hw : w % 8 = 0) (hle : w ≤ 128) (prefixLen : BitVec 8) :
    Consumes (ipNetFromWire prefixLen) (IpNet.prefixSize : IpNet w → Nat) := by
  intro buf rest net h
  rw [ipNetFromWire] at h
  obtain ⟨mid, bytes, hbytes, h⟩ := Parser.bind_eq_ok h
  have hread : buf.length = mid.length + min (if prefixLen.toNat ≥ 255 - 7 then 255
      else (prefixLen.toNat + 7) / 8) (w / 8) := Consumes.takeOr _ _ _ hbytes
  dsimp only at h
  generalize ofOctets w _ = addr at h
  cases hnew : IpNet.new addr prefixLen.toNat with
  | none =>
    rw [hnew] at h
    cases h
  | some net' =>
    rw [hnew] at h
    cases h
    obtain ⟨-, hbits⟩ := IpNet.new_eq_some.mp hnew
    have hlen := net.le
    rw [hread, IpNet.prefixSize, if_neg (by omega), Nat.min_eq_left (by omega), hbits]

theorem Network.fromIpNet_eq_ok {net : IpNet w} {network : Network check} :
    Network.fromIpNet net = .ok network ↔ network.net = net := by
  constructor
  · intro h
    rw [fromIpNet, fromNet] at h
    split at h
    · rename_i hok
      split at hok <;> cases hok
      cases h
      rfl
    · cases h
  · rintro rfl
    simp [fromIpNet, fromNet, network.valid]

end Prefixes

end NetCalyx.Bgp
