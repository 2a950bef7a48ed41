import NetCalyx.Bgp.Codec.Nlri

/-!
# Encoding of labelled routes

Writers and parsers of VPN routes and of labelled routes. Both put a label stack
before a prefix and count all their bits in one length octet; the stack itself
has no length and is read up to the label that ends it.

`labelled_round_trip_iff` says for which values the octets written are read
back.
-/

namespace NetCalyx.Bgp
open Wire MplsLabel Parser List

section Labelled

variable {w : Nat} {check : IpNet w → Bool}

/-! ## Label stacks -/

/-- Whether a label ends the stack: the bottom of the stack does, and in
withdrawals the compatibility label as well. -/
def MplsLabel.endsStack (isUnreach : Bool) (label : MplsLabel) : Bool :=
  label.isBottom || isUnreach && label.isUnreachCompatibility

/-- The limit after one more label; 255 is no limit. -/
def nextLabelsLimit (multipleLabelsLimit : BitVec 8) : BitVec 8 :=
  if multipleLabelsLimit ≠ 255 then multipleLabelsLimit - 1 else multipleLabelsLimit

/-- Reads labels up to the end of the stack or up to the limit. The first
argument bounds the number of rounds. -/
def labelRounds (isUnreach : Bool) : Nat → BitVec 8 → Parser MplsLabelParsingError (List MplsLabel)
  | 0, _ => .fail (NomError.nom .many0)
  | n + 1, multipleLabelsLimit =>
    if multipleLabelsLimit = 0 then return []
    else do
      let label ← MplsLabel.fromWire
      if label.endsStack isUnreach then return [label]
      else do
        let labels ← labelRounds isUnreach n (nextLabelsLimit multipleLabelsLimit)
        return label :: labels

/-- Every round reads three octets, so the rounds never run out. -/
def parseMplsLabelStack (isUnreach : Bool) (multipleLabelsLimit : BitVec 8) :
    Parser MplsLabelParsingError (List MplsLabel) := fun buf =>
  labelRounds isUnreach (buf.length + 1) multipleLabelsLimit buf

/-! ## VPN routes -/

/-- The octets announced by a length in bits; lengths above 248 stand for 255
octets. -/
def prefixBytes (prefixLen : BitVec 8) : Nat :=
  if prefixLen.toNat > 255 - 7 then 255 else (prefixLen.toNat + 7) / 8

namespace MplsVpnUnicastAddress

def len (address : MplsVpnUnicastAddress check) : Nat :=
  pathIdLen address.pathId + address.rd.len + address.network.len + 3 * address.labelStack.length

/-- The length field counts the bits of the labels, the distinguisher and the
prefix together. -/
def write (address : MplsVpnUnicastAddress check) : Octets :=
  let prefixLen := address.rd.len * 8 + address.labelStack.length * 3 * 8
    + address.network.net.prefixLen
  pathIdWrite address.pathId ++ [BitVec.ofNat 8 prefixLen] ++
    address.labelStack.flatMap MplsLabel.write ++ address.rd.write ++
    (octets address.network.net.network).take (address.network.len - 1)

/-- The part behind the length field, which has to be used up. -/
def parseBody (isUnreach : Bool) (multipleLabelsLimit prefixLen : BitVec 8) :
    Parser (MplsVpnUnicastAddressParsingError w)
      (List MplsLabel × RouteDistinguisher × Network check) := do
  let labelStack ← (parseMplsLabelStack isUnreach multipleLabelsLimit).mapErr .mplsLabelError
  let rd ← RouteDistinguisher.fromWire.mapErr .routeDistinguisherError
  -- arithmetic on octets
  let readPrefix : BitVec 8 := 8 * 8 + BitVec.ofNat 8 labelStack.length * 24
  if prefixLen < readPrefix then .fail (.invalidPrefixLength prefixLen)
  else
    let network ← (Network.fromWireWithoutLen (prefixLen - readPrefix)).mapErr .unicastError
    let remainder ← .input
    if remainder ≠ [] then .fail (.invalidPrefixLength prefixLen)
    else return (labelStack, rd, network)

def fromWire (addPath isUnreach : Bool) (multipleLabelsLimit : BitVec 8) :
    Parser (MplsVpnUnicastAddressParsingError w) (MplsVpnUnicastAddress check) := do
  let pathId ← parsePathId addPath
  let prefixLen ← beU8
  let prefixBuf ← take (prefixBytes prefixLen)
  let (labelStack, rd, network) ←
    .within prefixBuf (parseBody isUnreach multipleLabelsLimit prefixLen)
  return ⟨pathId, rd, labelStack, network⟩

end MplsVpnUnicastAddress

/-! ## Labelled routes -/

namespace NlriMplsLabelsAddress

def len (address : NlriMplsLabelsAddress w) : Nat :=
  1 + 3 * address.labels.length + address.net.prefixSize

/-- The path identifier is not written. That the length field overflows is
excluded by the type. -/
def write (address : NlriMplsLabelsAddress w) : Octets :=
  BitVec.ofNat 8 (address.labels.length * 24 + address.net.prefixLen) ::
    address.labels.flatMap MplsLabel.write ++
    (octets address.net.network).take address.net.prefixSize

/-- The part behind the length field; octets left there are dropped. -/
def parseBody (isUnreach : Bool) (multipleLabelsLimit prefixLen : BitVec 8) :
    Parser NlriMplsLabelsAddressParsingError (List MplsLabel × IpNet w) := do
  let labelStack ← (parseMplsLabelStack isUnreach multipleLabelsLimit).mapErr .mplsLabelError
  -- arithmetic on octets
  let readPrefix : BitVec 8 := 24 * BitVec.ofNat 8 labelStack.length
  if prefixLen < readPrefix then .fail (.invalidPrefixLength prefixLen)
  else
    let net ← (ipNetFromWire (prefixLen - readPrefix)).mapErr .prefixError
    return (labelStack, net)

def fromWire (addPath isUnreach : Bool) (multipleLabelsLimit : BitVec 8) :
    Parser NlriMplsLabelsAddressParsingError (NlriMplsLabelsAddress w) := do
  let pathId ← parsePathId addPath
  let prefixLen ← beU8
  let nlriBuf ← take (prefixBytes prefixLen)
  let (labelStack, net) ← .within nlriBuf (parseBody isUnreach multipleLabelsLimit prefixLen)
  match build pathId labelStack net with
  | .ok address => return address
  | .error labels => .fail (.invalidLabelsLength labels)

end NlriMplsLabelsAddress

/-! ## Reading a label stack -/

/-- Only the last label of a stack, which has one, satisfies `stop`. -/
def OnlyLast (stop : MplsLabel → Bool) : List MplsLabel → Prop
  | [] => False
  | [label] => stop label = true
  | label :: next :: labels => stop label = false ∧ OnlyLast stop (next :: labels)

instance OnlyLast.decidable (stop : MplsLabel → Bool) :
    (labels : List MplsLabel) → Decidable (OnlyLast stop labels)
  | [] => inferInstanceAs (Decidable False)
  | [label] => inferInstanceAs (Decidable (stop label = true))
  | label :: next :: labels =>
    have := OnlyLast.decidable stop (next :: labels)
    inferInstanceAs (Decidable (stop label = false ∧ OnlyLast stop (next :: labels)))

variable {address : NlriMplsLabelsAddress w} {isUnreach : Bool} {labels : List MplsLabel}
  {limit : BitVec 8}

theorem le_nextLabelsLimit {n : Nat} (h : n + 1 ≤ limit.toNat) :
    n ≤ (nextLabelsLimit limit).toNat := by
  rw [nextLabelsLimit]
  split
  · have hone : (1 : BitVec 8).toNat = 1 := rfl
    rw [BitVec.toNat_sub_of_le (by rw [BitVec.le_def]; omega)]
    omega
  · omega

theorem decodes_labelRounds (hlast : OnlyLast (endsStack isUnreach) labels) {n : Nat}
    (hn : labels.length ≤ n) (hlimit : labels.length ≤ limit.toNat) :
    Decodes (labelRounds isUnreach n limit) (labels.flatMap MplsLabel.write) labels := by
  induction labels generalizing n limit with
  | nil => cases hlast
  | cons label labels ih =>
    obtain ⟨n, rfl⟩ : ∃ m, n = m + 1 := Nat.exists_eq_succ_of_ne_zero (by simp at hn; omega)
    have hzero : limit ≠ 0 := by
      rintro rfl
      simp at hlimit
    rw [labelRounds, if_neg hzero, flatMap_cons]
    cases labels with
    | nil =>
      refine label.decodes.bind ?_
      rw [if_pos (show label.endsStack isUnreach = true from hlast)]
      exact Decodes.pure _
    | cons next labels =>
      obtain ⟨hgo, hrest⟩ := hlast
      refine label.decodes.bind ?_
      rw [if_neg (by simp [hgo])]
      exact (ih hrest (Nat.le_of_succ_le_succ hn) (le_nextLabelsLimit hlimit)).map _

/-- Of the labels read, only the last one may end the stack. -/
theorem yields_labelRounds (isUnreach : Bool) (n : Nat) (limit : BitVec 8) :
    Yields (labelRounds isUnreach n limit)
      (∀ label ∈ List.dropLast ·, label.endsStack isUnreach = false) := by
  induction n generalizing limit with
  | zero => exact Yields.fail
  | succ n ih =>
    rw [labelRounds]
    split
    · exact Yields.pure fun _ h => nomatch h
    · refine Yields.andThen fun label => ?_
      split
      · exact Yields.pure fun _ h => nomatch h
      · rename_i hgo
        refine Yields.bind (ih _) fun labels hlabels => Yields.pure ?_
        cases labels with
        | nil => exact fun _ h => nomatch h
        | cons next labels =>
          intro l hl
          rw [dropLast_cons_cons, mem_cons] at hl
          rcases hl with rfl | hl
          · simpa using hgo
          · exact hlabels l hl

theorem consumes_label : Consumes MplsLabel.fromWire fun _ => 3 :=
  Consumes.beUint.bind (fun _ => Consumes.beUint.bind (fun _ => Consumes.beUint.bind (fun _ => .pure _)
    rfl) rfl) rfl

theorem consumes_labelRounds (isUnreach : Bool) (n : Nat) (limit : BitVec 8) :
    Consumes (labelRounds isUnreach n limit) (3 * ·.length) := by
  induction n generalizing limit with
  | zero =>
    intro buf rest labels h
    cases h
  | succ n ih =>
    intro buf rest labels h
    rw [labelRounds] at h
    split at h
    · cases h
      rfl
    · obtain ⟨mid, label, hlabel, h⟩ := bind_eq_ok h
      have hfirst : buf.length = mid.length + 3 := consumes_label _ _ _ hlabel
      split at h
      · cases h
        exact hfirst
      · obtain ⟨mid', labels', hlabels, h⟩ := bind_eq_ok h
        have hothers : mid.length = mid'.length + 3 * labels'.length := ih _ _ _ _ hlabels
        cases h
        show buf.length = rest.length + 3 * (labels'.length + 1)
        omega

theorem labels_length (labels : List MplsLabel) :
    (labels.flatMap MplsLabel.write).length = 3 * labels.length :=
  length_flatMap_const MplsLabel.write_length labels

theorem decodes_parseMplsLabelStack (hlast : OnlyLast (endsStack isUnreach) labels)
    (hfew : labels.length < 256) :
    Decodes (parseMplsLabelStack isUnreach (BitVec.ofNat 8 labels.length))
      (labels.flatMap MplsLabel.write) labels := by
  intro rest
  have hlen := labels_length labels
  have hlimit : labels.length ≤ (BitVec.ofNat 8 labels.length).toNat := by
    rw [BitVec.toNat_ofNat, Nat.mod_eq_of_lt hfew]
  refine decodes_labelRounds hlast ?_ hlimit rest
  rw [length_append]
  omega

theorem yields_parseMplsLabelStack (isUnreach : Bool) (limit : BitVec 8) :
    Yields (parseMplsLabelStack isUnreach limit)
      (∀ label ∈ List.dropLast ·, label.endsStack isUnreach = false) := fun buf =>
  yields_labelRounds isUnreach _ limit buf

theorem consumes_parseMplsLabelStack (isUnreach : Bool) (limit : BitVec 8) :
    Consumes (parseMplsLabelStack isUnreach limit) (3 * ·.length) := fun buf =>
  consumes_labelRounds isUnreach _ limit buf

/-- When only the bottom ends a stack, the labels that would end it earlier in a
withdrawal are the compatibility labels. -/
theorem onlyLast_endsStack_iff (hbottom : OnlyLast isBottom labels) (isUnreach : Bool) :
    OnlyLast (endsStack isUnreach) labels ↔
      ∀ label ∈ labels.dropLast, label.endsStack isUnreach = false := by
  induction labels with
  | nil => cases hbottom
  | cons label labels ih =>
    cases labels with
    | nil =>
      have hends : label.endsStack isUnreach = true := by
        rw [endsStack, show label.isBottom = true from hbottom, Bool.true_or]
      exact ⟨fun _ _ h => (not_mem_nil h).elim, fun _ => hends⟩
    | cons next labels =>
      rw [OnlyLast, dropLast_cons_cons, forall_mem_cons, ih hbottom.2]

/-! ## VPN routes, there and back -/

namespace MplsVpnUnicastAddress

/-- What the length octet counts. -/
def bits (address : MplsVpnUnicastAddress check) : Nat :=
  64 + 24 * address.labelStack.length + address.network.net.prefixLen

theorem write_eq (address : MplsVpnUnicastAddress check) :
    address.write = pathIdWrite address.pathId ++ (BitVec.ofNat 8 address.bits ::
      (address.labelStack.flatMap MplsLabel.write ++ (address.rd.write ++
        address.network.net.prefixOctets))) := by
  have hbits : address.rd.len * 8 + address.labelStack.length * 3 * 8
      + address.network.net.prefixLen = address.bits := by
    rw [RouteDistinguisher.len, bits]
    omega
  simp only [write, hbits, Network.len, Nat.add_sub_cancel_left, IpNet.prefixOctets,
    append_assoc, cons_append, nil_append]

variable (hw : w % 8 = 0)
include hw

theorem write_length (address : MplsVpnUnicastAddress check) :
    address.write.length = address.len := by
  simp only [write_eq, len, length_append, length_cons, pathIdWrite_length, labels_length,
    RouteDistinguisher.write_length, IpNet.prefixOctets_length _ hw, RouteDistinguisher.len,
    Network.len]
  omega

/-- The octets behind the length field. -/
theorem body_length (address : MplsVpnUnicastAddress check) :
    (address.labelStack.flatMap MplsLabel.write ++ (address.rd.write ++
      address.network.net.prefixOctets)).length = (address.bits + 7) / 8 := by
  simp only [length_append, labels_length, RouteDistinguisher.write_length,
    IpNet.prefixOctets_length _ hw, IpNet.prefixSize, bits]
  omega

theorem parseBody_ok (hle : w ≤ 128) {address : MplsVpnUnicastAddress check}
    (hlast : OnlyLast (endsStack isUnreach) address.labelStack)
    (hfit : address.bits ≤ 255) {masked : Network check}
    (hmasked : masked.net = address.network.net.trunc) :
    parseBody isUnreach (BitVec.ofNat 8 address.labelStack.length) (BitVec.ofNat 8 address.bits)
      (address.labelStack.flatMap MplsLabel.write ++ (address.rd.write ++
        address.network.net.prefixOctets)) = .ok ([], address.labelStack, address.rd, masked) := by
  have hread : (8 * 8 + BitVec.ofNat 8 address.labelStack.length * 24 : BitVec 8)
      = BitVec.ofNat 8 (64 + 24 * address.labelStack.length) := by
    rw [BitVec.ofNat_add, BitVec.ofNat_mul, BitVec.mul_comm (BitVec.ofNat 8 24)]
    rfl
  have hfits : ¬ BitVec.ofNat 8 address.bits
      < BitVec.ofNat 8 (64 + 24 * address.labelStack.length) := by
    rw [BitVec.lt_def, BitVec.toNat_ofNat, BitVec.toNat_ofNat, bits]
    rw [bits] at hfit
    omega
  have hrest : BitVec.ofNat 8 address.bits - BitVec.ofNat 8 (64 + 24 * address.labelStack.length)
      = BitVec.ofNat 8 address.network.net.prefixLen := by
    rw [bits, BitVec.ofNat_add, BitVec.add_comm, BitVec.add_sub_cancel]
  have hnetwork : Decodes (Network.fromWireWithoutLen
      (BitVec.ofNat 8 address.network.net.prefixLen)) address.network.net.prefixOctets masked :=
    Decodes.mapRes ((ipNetFromWire_prefixOctets hw hle _).mapErr _)
      (Network.fromIpNet_eq_ok.mpr hmasked)
  have hfew : address.labelStack.length < 256 := by
    rw [bits] at hfit
    omega
  rw [parseBody, ((decodes_parseMplsLabelStack hlast hfew).mapErr _).run_bind,
    (address.rd.decodes.mapErr _).run_bind]
  simp only [hread, if_neg hfits, hrest, bind_apply, (hnetwork.mapErr _).run_nil,
    input_apply, ne_eq, not_true_eq_false, if_false]
  rfl

theorem decodes (hle : w ≤ 128) {address : MplsVpnUnicastAddress check}
    (hlast : OnlyLast (endsStack isUnreach) address.labelStack)
    (hfit : address.bits ≤ 248) {masked : Network check}
    (hmasked : masked.net = address.network.net.trunc) :
    Decodes (fromWire address.pathId.isSome isUnreach (BitVec.ofNat 8 address.labelStack.length))
      address.write { address with network := masked } := by
  have hbody := parseBody_ok hw hle hlast (by omega) hmasked
  have hbytes : (address.labelStack.flatMap MplsLabel.write ++ (address.rd.write ++
      address.network.net.prefixOctets)).length = prefixBytes (BitVec.ofNat 8 address.bits) := by
    rw [body_length hw, prefixBytes, BitVec.toNat_ofNat, Nat.mod_eq_of_lt (by omega),
      if_neg (by omega)]
  rw [write_eq]
  exact (decodes_parsePathId _).bind <| (decodes_beU8 _).bind <| (decodes_take hbytes).last <|
    (Decodes.within hbody).map _

/-- A length above 248 stands for more octets than a route has. -/
theorem bits_le_of_read {address : MplsVpnUnicastAddress check} (hfit : address.bits ≤ 255)
    {rest : Octets} {result : MplsVpnUnicastAddress check}
    (h : fromWire address.pathId.isSome isUnreach limit address.write = .ok (rest, result)) :
    address.bits ≤ 248 := by
  rw [write_eq, fromWire, (decodes_parsePathId _).run_bind, beU8_bind] at h
  obtain ⟨mid, data, hdata, -⟩ := bind_eq_ok h
  obtain ⟨hlen, happend⟩ := takeOr_eq_ok.mp hdata
  have hbody := body_length hw address
  rw [happend, length_append, hlen, prefixBytes, BitVec.toNat_ofNat,
    Nat.mod_eq_of_lt (by omega)] at hbody
  split at hbody <;> omega

omit hw

theorem yields (addPath isUnreach : Bool) (limit : BitVec 8) :
    Yields (fromWire addPath isUnreach limit) fun address : MplsVpnUnicastAddress check =>
      ∀ label ∈ address.labelStack.dropLast, label.endsStack isUnreach = false := by
  refine Yields.andThen fun pathId => Yields.andThen fun prefixLen => Yields.andThen fun data => ?_
  have hbody : Yields (parseBody isUnreach limit prefixLen)
      fun parsed : List MplsLabel × RouteDistinguisher × Network check =>
        ∀ label ∈ parsed.1.dropLast, label.endsStack isUnreach = false := by
    refine Yields.bind (Yields.mapErr (yields_parseMplsLabelStack isUnreach limit))
      fun labels hlabels => Yields.andThen fun rd => ?_
    dsimp only
    split
    · exact Yields.fail
    · refine Yields.andThen fun network => Yields.andThen fun remainder => ?_
      split
      · exact Yields.fail
      · exact Yields.pure hlabels
  exact Yields.bind (Yields.within hbody) fun parsed hparsed => Yields.pure hparsed

/-- The octets written are `len` many and are read back as the same route, with
the host bits of its prefix cleared and nothing left over. -/
def RoundTrips (isUnreach : Bool) (address : MplsVpnUnicastAddress check) : Prop :=
  address.write.length = address.len ∧
    ∃ masked : Network check, masked.net = address.network.net.trunc ∧
      fromWire address.pathId.isSome isUnreach (BitVec.ofNat 8 address.labelStack.length)
        address.write = .ok ([], { address with network := masked })

theorem roundTrips_iff (hw : w % 8 = 0) (hle : w ≤ 128) (isUnreach : Bool)
    {address : MplsVpnUnicastAddress check}
    (hbottom : OnlyLast isBottom address.labelStack) (hfit : address.bits ≤ 255) :
    address.RoundTrips isUnreach ↔ address.bits ≤ 248 ∧
      (∀ label ∈ address.labelStack.dropLast, label.endsStack isUnreach = false) ∧
      check address.network.net.trunc = true := by
  constructor
  · rintro ⟨-, masked, hmasked, hread⟩
    have hends := yields _ _ _ _ _ _ hread
    refine ⟨bits_le_of_read hw hfit hread, hends, ?_⟩
    rw [← hmasked]
    exact masked.valid
  · rintro ⟨hshort, hends, hcheck⟩
    have hlast := (onlyLast_endsStack_iff hbottom isUnreach).mpr hends
    exact ⟨write_length hw address, ⟨address.network.net.trunc, hcheck⟩, rfl,
      (decodes hw hle hlast hshort rfl).run_nil⟩

end MplsVpnUnicastAddress

/-! ## Labelled routes, there and back -/

namespace NlriMplsLabelsAddress

variable (address)

/-- What the length octet counts. -/
def bits : Nat :=
  24 * address.labels.length + address.net.prefixLen

theorem bits_le : address.bits ≤ 255 := by
  have hfits := address.fits
  rw [bits]
  omega

theorem write_eq :
    address.write = BitVec.ofNat 8 address.bits ::
      (address.labels.flatMap MplsLabel.write ++ address.net.prefixOctets) := by
  rw [write, bits, IpNet.prefixOctets, Nat.mul_comm, cons_append]

variable {address}

theorem body_length (hw : w % 8 = 0) (address : NlriMplsLabelsAddress w) :
    (address.labels.flatMap MplsLabel.write ++ address.net.prefixOctets).length
      = 3 * address.labels.length + address.net.prefixSize := by
  rw [length_append, labels_length, IpNet.prefixOctets_length _ hw]

theorem write_length (hw : w % 8 = 0) (address : NlriMplsLabelsAddress w) :
    address.write.length = address.len := by
  rw [write_eq, length_cons, body_length hw, len]
  omega

theorem parseBody_ok (hw : w % 8 = 0) (hle : w ≤ 128)
    (hlast : OnlyLast (endsStack isUnreach) address.labels) :
    parseBody isUnreach (BitVec.ofNat 8 address.labels.length) (BitVec.ofNat 8 address.bits)
      (address.labels.flatMap MplsLabel.write ++ address.net.prefixOctets)
        = .ok ([], address.labels, address.net.trunc) := by
  have hfits := address.fits
  have hread : (24 * BitVec.ofNat 8 address.labels.length : BitVec 8)
      = BitVec.ofNat 8 (24 * address.labels.length) := by
    rw [BitVec.ofNat_mul]
    rfl
  have hless : ¬ BitVec.ofNat 8 address.bits < BitVec.ofNat 8 (24 * address.labels.length) := by
    rw [BitVec.lt_def, BitVec.toNat_ofNat, BitVec.toNat_ofNat, bits]
    omega
  have hrest : BitVec.ofNat 8 address.bits - BitVec.ofNat 8 (24 * address.labels.length)
      = BitVec.ofNat 8 address.net.prefixLen := by
    rw [bits, BitVec.ofNat_add, BitVec.add_comm, BitVec.add_sub_cancel]
  have hnet := (ipNetFromWire_prefixOctets hw hle address.net).mapErr
    NlriMplsLabelsAddressParsingError.prefixError
  rw [parseBody, ((decodes_parseMplsLabelStack hlast (by omega)).mapErr _).run_bind]
  simp only [hread, if_neg hless, hrest, bind_apply, hnet.run_nil]
  rfl

variable (address)

/-- The route with the host bits of its prefix cleared. -/
def masked : NlriMplsLabelsAddress w :=
  { address with net := address.net.trunc }

theorem build_masked : build address.pathId address.labels address.net.trunc = .ok address.masked :=
  dif_pos address.fits

variable {address}

/-- A route without a path identifier is read back. -/
theorem decodes (hw : w % 8 = 0) (hle : w ≤ 128)
    (hlast : OnlyLast (endsStack isUnreach) address.labels)
    (hpath : address.pathId = none) (hfit : address.bits ≤ 248) :
    Decodes (fromWire address.pathId.isSome isUnreach (BitVec.ofNat 8 address.labels.length))
      address.write address.masked := by
  have hbody := parseBody_ok hw hle hlast
  have hbytes : (address.labels.flatMap MplsLabel.write ++ address.net.prefixOctets).length
      = prefixBytes (BitVec.ofNat 8 address.bits) := by
    rw [body_length hw, prefixBytes, BitVec.toNat_ofNat, Nat.mod_eq_of_lt (by omega),
      if_neg (by omega), bits, IpNet.prefixSize]
    omega
  have hpathId : Decodes (parsePathId address.pathId.isSome :
      Parser NlriMplsLabelsAddressParsingError _) [] address.pathId := by
    rw [hpath]
    exact decodes_parsePathId none
  rw [write_eq]
  refine hpathId.bind <| (decodes_beU8 _).bind <| (decodes_take hbytes).last <|
    (Decodes.within hbody).last ?_
  simp only [build_masked]
  exact Decodes.pure _

theorem yields_parseBody (isUnreach : Bool) (limit prefixLen : BitVec 8) :
    Yields (parseBody isUnreach limit prefixLen) fun parsed : List MplsLabel × IpNet w =>
      ∀ label ∈ parsed.1.dropLast, label.endsStack isUnreach = false := by
  refine Yields.bind (Yields.mapErr (yields_parseMplsLabelStack isUnreach limit))
    fun labels hlabels => ?_
  dsimp only
  split
  · exact Yields.fail
  · exact Yields.andThen fun net => Yields.pure hlabels

theorem consumes_parseBody (hw : w % 8 = 0) (hle : w ≤ 128) (isUnreach : Bool)
    (limit prefixLen : BitVec 8) : Consumes (parseBody isUnreach limit prefixLen)
      fun parsed : List MplsLabel × IpNet w => 3 * parsed.1.length + parsed.2.prefixSize := by
  intro buf rest parsed h
  obtain ⟨mid, labels, hlabels, h⟩ := bind_eq_ok h
  have hstack : buf.length = mid.length + 3 * labels.length :=
    (consumes_parseMplsLabelStack isUnreach limit).mapErr _ _ _ hlabels
  dsimp only at h
  split at h
  · cases h
  · obtain ⟨mid', net, hnet, h⟩ := bind_eq_ok h
    have hprefix : mid.length = mid'.length + net.prefixSize :=
      (consumes_ipNetFromWire hw hle _).mapErr _ _ _ hnet
    cases h
    show buf.length = rest.length + (3 * labels.length + net.prefixSize)
    omega

/-- What a successful parse says about its input. -/
theorem fromWire_inv {addPath : Bool} {buf rest : Octets}
    (h : fromWire addPath isUnreach limit buf = .ok (rest, address)) :
    ∃ prefixLen body left,
      (parsePathId addPath : Parser NlriMplsLabelsAddressParsingError _) buf
        = .ok (prefixLen :: (body ++ rest), address.pathId) ∧
      body.length = prefixBytes prefixLen ∧
      parseBody isUnreach limit prefixLen body = .ok (left, address.labels, address.net) := by
  obtain ⟨mid1, pathId, hpath, hafterPath⟩ := bind_eq_ok h
  obtain ⟨mid2, prefixLen, hprefix, hafterLen⟩ := bind_eq_ok hafterPath
  obtain ⟨mid3, body, hbody, hafterBody⟩ := bind_eq_ok hafterLen
  obtain ⟨mid4, ⟨labels, net⟩, hparsed, hbuilt⟩ := bind_eq_ok hafterBody
  obtain ⟨rfl, left, hleft⟩ := within_eq_ok.mp hparsed
  obtain ⟨hlen, rfl⟩ := takeOr_eq_ok.mp hbody
  rw [beU8_eq_ok] at hprefix
  subst hprefix
  dsimp only at hbuilt
  cases hnew : build pathId labels net with
  | error refused =>
    rw [hnew] at hbuilt
    cases hbuilt
  | ok built =>
    rw [hnew] at hbuilt
    cases hbuilt
    unfold build at hnew
    split at hnew <;> cases hnew
    exact ⟨prefixLen, body, left, hpath, hlen, hleft⟩

/-- The octets written are `len` many and are read back as the same route, with
the host bits of its prefix cleared and nothing left over. -/
def RoundTrips (isUnreach : Bool) (address : NlriMplsLabelsAddress w) : Prop :=
  address.write.length = address.len ∧
    fromWire address.pathId.isSome isUnreach (BitVec.ofNat 8 address.labels.length) address.write
      = .ok ([], address.masked)

/-- A path identifier would be read from octets that belong to the route. -/
theorem pathId_of_read (hw : w % 8 = 0) (hle : w ≤ 128)
    (h : fromWire address.pathId.isSome isUnreach limit address.write = .ok ([], address.masked)) :
    address.pathId = none := by
  obtain ⟨prefixLen, body, left, hpath, -, hbody⟩ := fromWire_inv h
  cases hid : address.pathId with
  | none => rfl
  | some pathId =>
    rw [hid, Option.isSome_some, parsePathId, if_pos rfl] at hpath
    obtain ⟨mid, id, hfour, hsome⟩ := bind_eq_ok hpath
    simp only [pure_apply, Except.ok.injEq, Prod.mk.injEq] at hsome
    obtain ⟨rfl, -⟩ := hsome
    have hread : address.write.length = (prefixLen :: (body ++ [])).length + 4 :=
      Consumes.beUint _ _ _ hfour
    have hneeded : body.length
        = left.length + (3 * address.labels.length + address.net.trunc.prefixSize) :=
      consumes_parseBody hw hle _ _ _ _ _ _ hbody
    have hsize : address.net.trunc.prefixSize = address.net.prefixSize := rfl
    rw [write_length hw, len, append_nil, length_cons] at hread
    omega

theorem bits_le_of_read (hw : w % 8 = 0) {result : NlriMplsLabelsAddress w} {rest : Octets}
    (hpath : address.pathId = none)
    (h : fromWire address.pathId.isSome isUnreach limit address.write = .ok (rest, result)) :
    address.bits ≤ 248 := by
  obtain ⟨prefixLen, body, left, hread, hlen, -⟩ := fromWire_inv h
  rw [hpath, Option.isSome_none, parsePathId, if_neg (by simp), write_eq] at hread
  simp only [pure_apply, Except.ok.injEq, Prod.mk.injEq, List.cons.injEq] at hread
  obtain ⟨⟨rfl, happend⟩, -⟩ := hread
  have hfits := address.bits_le
  have hbody := body_length hw address
  rw [happend, length_append, hlen, prefixBytes, BitVec.toNat_ofNat,
    Nat.mod_eq_of_lt (by omega), IpNet.prefixSize] at hbody
  rw [bits] at hbody hfits ⊢
  split at hbody <;> omega

theorem roundTrips_iff (hw : w % 8 = 0) (hle : w ≤ 128) (isUnreach : Bool)
    (hbottom : OnlyLast isBottom address.labels) :
    address.RoundTrips isUnreach ↔ address.pathId = none ∧ address.bits ≤ 248 ∧
      ∀ label ∈ address.labels.dropLast, label.endsStack isUnreach = false := by
  constructor
  · rintro ⟨-, hread⟩
    have hpath := pathId_of_read hw hle hread
    obtain ⟨prefixLen, body, left, -, -, hbody⟩ := fromWire_inv hread
    have hends := yields_parseBody isUnreach _ _ _ _ _ hbody
    exact ⟨hpath, bits_le_of_read hw hpath hread, hends⟩
  · rintro ⟨hpath, hshort, hends⟩
    have hlast := (onlyLast_endsStack_iff hbottom isUnreach).mpr hends
    exact ⟨write_length hw address, (decodes hw hle hlast hpath hshort).run_nil⟩

end NlriMplsLabelsAddress

end Labelled

/-! ## The four families -/

/-- In a withdrawal no label but the last is the compatibility label. -/
def NoEarlyMarker (isUnreach : Bool) (labels : List MplsLabel) : Prop :=
  isUnreach = true → ∀ label ∈ labels.dropLast, label.isUnreachCompatibility = false

theorem not_bottom_of_onlyLast (hbottom : OnlyLast isBottom labels) :
    ∀ label ∈ labels.dropLast, label.isBottom = false := by
  induction labels with
  | nil => cases hbottom
  | cons label labels ih =>
    cases labels with
    | nil => exact fun _ h => nomatch h
    | cons next labels =>
      rw [dropLast_cons_cons, forall_mem_cons]
      exact ⟨hbottom.1, ih hbottom.2⟩

theorem noEarlyMarker_iff (hbottom : OnlyLast isBottom labels) (isUnreach : Bool) :
    (∀ label ∈ labels.dropLast, label.endsStack isUnreach = false) ↔
      NoEarlyMarker isUnreach labels := by
  have hnot := not_bottom_of_onlyLast hbottom
  constructor
  · intro hends hunreach label hlabel
    have hend := hends label hlabel
    rwa [endsStack, hnot label hlabel, hunreach, Bool.false_or, Bool.true_and] at hend
  · intro hmarker label hlabel
    rw [endsStack, hnot label hlabel, Bool.false_or]
    cases isUnreach with
    | false => rfl
    | true => rw [hmarker rfl label hlabel, Bool.and_false]

/-- For labelled and VPN routes of both address families, with a label stack
whose last label and no other is the bottom and a length that fits its octet:
exactly which of them are written in `len` octets and read back from these. -/
theorem labelled_round_trip_iff (isUnreach : Bool) :
    (∀ address : Ipv4NlriMplsLabelsAddress, OnlyLast isBottom address.labels →
      (address.RoundTrips isUnreach ↔ address.pathId = none ∧ address.bits ≤ 248 ∧
        NoEarlyMarker isUnreach address.labels)) ∧
    (∀ address : Ipv6NlriMplsLabelsAddress, OnlyLast isBottom address.labels →
      (address.RoundTrips isUnreach ↔ address.pathId = none ∧ address.bits ≤ 248 ∧
        NoEarlyMarker isUnreach address.labels)) ∧
    (∀ address : Ipv4MplsVpnUnicastAddress, OnlyLast isBottom address.labelStack →
      address.bits ≤ 255 →
      (address.RoundTrips isUnreach ↔ address.bits ≤ 248 ∧
        NoEarlyMarker isUnreach address.labelStack ∧
        ¬ (address.network.net.prefixLen = 3 ∧ 240 ≤ firstOctet address.network.net.addr))) ∧
    (∀ address : Ipv6MplsVpnUnicastAddress, OnlyLast isBottom address.labelStack →
      address.bits ≤ 255 →
      (address.RoundTrips isUnreach ↔ address.bits ≤ 248 ∧
        NoEarlyMarker isUnreach address.labelStack)) := by
  refine ⟨?_, ?_, ?_, ?_⟩
  · intro address hbottom
    rw [NlriMplsLabelsAddress.roundTrips_iff rfl (by decide) isUnreach hbottom,
      noEarlyMarker_iff hbottom]
  · intro address hbottom
    rw [NlriMplsLabelsAddress.roundTrips_iff rfl (by decide) isUnreach hbottom,
      noEarlyMarker_iff hbottom]
  · intro address hbottom hfit
    rw [MplsVpnUnicastAddress.roundTrips_iff rfl (by decide) isUnreach hbottom hfit,
      noEarlyMarker_iff hbottom, ipv4UnicastCheck_trunc address.network.valid]
  · intro address hbottom hfit
    rw [MplsVpnUnicastAddress.roundTrips_iff rfl (by decide) isUnreach hbottom hfit,
      noEarlyMarker_iff hbottom, ipv6UnicastCheck_trunc address.network.valid]
    simp

def bottomLabel : MplsLabel := ⟨.three 0 1 0x01⟩

/-- The labelled route to 10.0.0.0/8 with a stack of one label. -/
def labelledTen (pathId : Option (BitVec 32)) : Ipv4NlriMplsLabelsAddress :=
  ⟨pathId, [bottomLabel], ⟨0x0a000000, 8, IpNet.eight_le⟩, by decide⟩

theorem labelledTen_round_trips : (labelledTen none).RoundTrips true :=
  ((labelled_round_trip_iff true).1 (labelledTen none) (by decide)).mpr
    ⟨rfl, by decide, fun _ _ h => nomatch h⟩

/-- With a path identifier the route is written without it and not read back. -/
theorem labelledTen_path_lost : OnlyLast isBottom (labelledTen (some 1)).labels ∧
    ¬ (labelledTen (some 1)).RoundTrips false := by
  refine ⟨by decide, ?_⟩
  rintro ⟨-, hread⟩
  cases NlriMplsLabelsAddress.pathId_of_read rfl (by decide) hread

end NetCalyx.Bgp
