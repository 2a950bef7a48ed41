import NetCalyx.Bgp.Codec.Labelled

/-!
# Labelled routes on arbitrary input

The length octet of a labelled route counts bits, and the parsers cut out the
octets it announces before they read the labels. A length of at most 248 bits
announces at most 31 octets, which bounds the number of labels: the arithmetic on
octets is exact, and so is what a successful parse has used up. A greater length
is taken for 255 octets, and then the labels may be so many that the arithmetic
overflows, or a route of 32 octets uses up 255.

`labelled_safe_iff` says exactly when this happens, for labelled routes and VPN routes of
both families.
-/

namespace NetCalyx.Bgp
open Wire Parser NlriMplsLabelsAddress List

/-! ## What the parsers see of their input -/

/-- The length octet and the octets that are cut out behind it. -/
def delimited (addPath : Bool) (buf : Octets) : Option (BitVec 8 × Octets) :=
  match buf.drop (pathIdSize addPath) with
  | [] => none
  | prefixLen :: rest =>
    if prefixBytes prefixLen ≤ rest.length then some (prefixLen, rest.take (prefixBytes prefixLen))
    else none

variable {prefixLen limit : BitVec 8} {labels : List MplsLabel} {isUnreach : Bool}
  {body left : Octets}

theorem delimited_eq_some {addPath : Bool} {buf : Octets} :
    delimited addPath buf = some (prefixLen, body) ↔
      ∃ front rest, buf = front ++ prefixLen :: (body ++ rest) ∧
        front.length = pathIdSize addPath ∧ body.length = prefixBytes prefixLen := by
  unfold delimited
  constructor
  · intro h
    have hsplit := take_append_drop (pathIdSize addPath) buf
    cases hdrop : buf.drop (pathIdSize addPath) with
    | nil => simp [hdrop] at h
    | cons first rest =>
      simp only [hdrop] at h
      split at h
      · rename_i hle
        simp only [Option.some.injEq, Prod.mk.injEq] at h
        obtain ⟨rfl, rfl⟩ := h
        have hlen : pathIdSize addPath < buf.length := by
          by_contra hshort
          rw [drop_eq_nil_of_le (by omega)] at hdrop
          cases hdrop
        refine ⟨buf.take (pathIdSize addPath), rest.drop (prefixBytes first), ?_, ?_, ?_⟩
        · rw [take_append_drop, ← hdrop, hsplit]
        · rw [length_take]
          omega
        · rw [length_take]
          omega
      · cases h
  · rintro ⟨front, rest, rfl, hfront, hbody⟩
    rw [drop_left' hfront]
    simp only [length_append, hbody, Nat.le_add_right, if_true]
    rw [take_left' hbody]

theorem prefixBytes_short (h : prefixLen.toNat ≤ 248) :
    prefixBytes prefixLen = (prefixLen.toNat + 7) / 8 := by
  rw [prefixBytes, if_neg (by omega)]

theorem prefixBytes_long (h : 248 < prefixLen.toNat) : prefixBytes prefixLen = 255 := by
  rw [prefixBytes, if_pos (by omega)]

/-- `n` labels of 24 bits, computed on octets. -/
theorem labelBits_toNat {n : Nat} (h : n ≤ 10) : (24 * BitVec.ofNat 8 n : BitVec 8).toNat = 24 * n := by
  have hfactor : (24 : BitVec 8).toNat = 24 := rfl
  rw [BitVec.toNat_mul, BitVec.toNat_ofNat, hfactor]
  omega

theorem vpnBits_toNat {n : Nat} (h : n ≤ 7) :
    (8 * 8 + BitVec.ofNat 8 n * 24 : BitVec 8).toNat = 64 + 24 * n := by
  have hfactor : (24 : BitVec 8).toNat = 24 := rfl
  have hrd : (8 * 8 : BitVec 8).toNat = 64 := rfl
  rw [BitVec.toNat_add, hrd, BitVec.toNat_mul, BitVec.toNat_ofNat, hfactor]
  omega

/-- The octets that a parse has used up, with the length they announce. -/
def UsesUp (addPath : Bool) (buf rest : Octets) (prefixLen : BitVec 8) : Prop :=
  ∃ front body, buf = front ++ prefixLen :: (body ++ rest) ∧ front.length = pathIdSize addPath ∧
    body.length = (prefixLen.toNat + 7) / 8

/-- The stack of labels at the front of the octets cut out. -/
def StackRead (addPath isUnreach : Bool) (limit : BitVec 8) (buf : Octets) (prefixLen : BitVec 8)
    (labels : List MplsLabel) (left : Octets) : Prop :=
  ∃ body, delimited addPath buf = some (prefixLen, body) ∧
    parseMplsLabelStack isUnreach limit body = .ok (left, labels)

/-- A short length leaves no room for more labels than the arithmetic can count. -/
theorem StackRead.length {addPath : Bool} {buf : Octets}
    (h : StackRead addPath isUnreach limit buf prefixLen labels left) :
    prefixBytes prefixLen = left.length + 3 * labels.length := by
  obtain ⟨body, hbody, hstack⟩ := h
  obtain ⟨front, rest, -, -, hlen⟩ := delimited_eq_some.mp hbody
  rw [← hlen]
  exact consumes_parseMplsLabelStack isUnreach limit body left labels hstack

section Labelled

variable {w : Nat} {check : IpNet w → Bool}

/-! ## Prefixes -/

theorem yields_ipNetFromWire (prefixLen : BitVec 8) :
    Yields (ipNetFromWire prefixLen) fun net : IpNet w => net.prefixLen = prefixLen.toNat := by
  refine Yields.andThen fun bytes => ?_
  dsimp only
  split
  · rename_i hnew
    exact Yields.pure (IpNet.new_eq_some.mp hnew).2
  · exact Yields.fail

/-- A length that is not above the width is read if there are octets enough. -/
theorem ipNetFromWire_ok {buf : Octets} (hle : prefixLen.toNat ≤ w) (hlen : w / 8 ≤ buf.length) :
    ∃ rest net, (ipNetFromWire prefixLen : Parser PrefixParsingError (IpNet w)) buf =
      .ok (rest, net) := by
  have htake : (take (min (if prefixLen.toNat ≥ 255 - 7 then 255 else (prefixLen.toNat + 7) / 8)
      (w / 8)) : Parser PrefixParsingError Octets) buf = .ok (_, _) :=
    if_pos ((Nat.min_le_right _ _).trans hlen)
  unfold ipNetFromWire
  simp only [bind_apply, htake, IpNet.new, dif_pos hle]
  exact ⟨_, _, rfl⟩

/-! ## Labelled routes -/

namespace NlriMplsLabelsAddress

/-- No arithmetic of the parser overflows, and if it succeeds it has used up
what the length announces, all of whose bits it accounts for. -/
structure Safe (w : Nat) (addPath isUnreach : Bool) (limit : BitVec 8) (buf : Octets) : Prop where
  noOverflow : ∀ prefixLen labels left,
    StackRead addPath isUnreach limit buf prefixLen labels left → 24 * labels.length ≤ 255
  exact : ∀ rest (address : NlriMplsLabelsAddress w),
    fromWire addPath isUnreach limit buf = .ok (rest, address) →
    ∃ prefixLen, UsesUp addPath buf rest prefixLen ∧
      24 * address.labels.length + address.net.prefixLen = prefixLen.toNat

/-- The length is above 248 bits, and there are either too many labels to count
or enough of them for the rest to pass for a prefix. -/
def Overruns (w : Nat) (addPath isUnreach : Bool) (limit : BitVec 8) (buf : Octets) : Prop :=
  ∃ prefixLen labels left, StackRead addPath isUnreach limit buf prefixLen labels left ∧
    248 < prefixLen.toNat ∧ (10 < labels.length ∨ prefixLen.toNat ≤ 24 * labels.length + w)

/-- The prefix takes the bits that the labels leave. -/
theorem parseBody_inv {net : IpNet w}
    (h : parseBody isUnreach limit prefixLen body = .ok (left, labels, net)) :
    ∃ behind, parseMplsLabelStack isUnreach limit body = .ok (behind, labels) ∧
      (labels.length ≤ 10 → 24 * labels.length + net.prefixLen = prefixLen.toNat) := by
  obtain ⟨behind, labels', hlabels, h⟩ := bind_eq_ok h
  rw [mapErr_eq_ok] at hlabels
  dsimp only at h
  split at h
  · cases h
  · rename_i hge
    obtain ⟨mid, net', hnet, h⟩ := bind_eq_ok h
    cases h
    rw [mapErr_eq_ok] at hnet
    have hbits := yields_ipNetFromWire _ _ _ _ hnet
    refine ⟨behind, hlabels, fun hfew => ?_⟩
    have hle := BitVec.not_lt.mp hge
    rw [BitVec.toNat_sub_of_le hle, labelBits_toNat hfew] at hbits
    rw [BitVec.le_def, labelBits_toNat hfew] at hle
    omega

/-- With few labels before it, what is left of the octets cut out passes for a
prefix. -/
theorem parseBody_long (hw : w ≤ 128)
    (hstack : parseMplsLabelStack isUnreach limit body = .ok (left, labels))
    (hfew : labels.length ≤ 10) (hlong : 248 < prefixLen.toNat)
    (hfits : prefixLen.toNat ≤ 24 * labels.length + w) (hleft : 16 ≤ left.length) :
    ∃ left' net, parseBody isUnreach limit prefixLen body =
      .ok (left', labels, (net : IpNet w)) := by
  have hbits := labelBits_toNat hfew
  have hle : 24 * BitVec.ofNat 8 labels.length ≤ prefixLen := by
    rw [BitVec.le_def, hbits]
    omega
  have hrest : (prefixLen - 24 * BitVec.ofNat 8 labels.length).toNat ≤ w := by
    rw [BitVec.toNat_sub_of_le hle, hbits]
    omega
  have hoctets : w / 8 ≤ left.length := by omega
  obtain ⟨left', net, hnet⟩ := ipNetFromWire_ok hrest hoctets
  refine ⟨left', net, ?_⟩
  unfold parseBody
  rw [bind_apply, mapErr_eq_ok.mpr hstack]
  dsimp only
  rw [if_neg (BitVec.not_lt.mpr hle), bind_apply, mapErr_eq_ok.mpr hnet]
  rfl

theorem fromWire_long {addPath : Bool} {front : Octets} {net : IpNet w}
    (hfront : front.length = pathIdSize addPath) (hbody : body.length = prefixBytes prefixLen)
    (hfits : labels.length * 24 + net.prefixLen ≤ 255)
    (h : parseBody isUnreach limit prefixLen body = .ok (left, labels, net)) (rest : Octets) :
    ∃ address : NlriMplsLabelsAddress w,
      fromWire addPath isUnreach limit (front ++ prefixLen :: (body ++ rest)) =
        .ok (rest, address) := by
  obtain ⟨pathId, hpath⟩ := decodes_pathId (ε := NlriMplsLabelsAddressParsingError) hfront
  refine ⟨⟨pathId, labels, net, hfits⟩, ?_⟩
  unfold fromWire
  rw [hpath.run_bind, beU8_bind, (decodes_take hbody).run_bind, bind_apply,
    within_eq_ok.mpr ⟨rfl, left, h⟩]
  simp [build, hfits]

theorem safe_iff_not_overruns (hw : w ≤ 128) (addPath isUnreach : Bool)
    (limit : BitVec 8) (buf : Octets) :
    Safe w addPath isUnreach limit buf ↔ ¬ Overruns w addPath isUnreach limit buf := by
  constructor
  · rintro hsafe ⟨prefixLen, labels, left, hstack, hlong, hmany⟩
    have hfew : labels.length ≤ 10 := by
      have hcount := hsafe.noOverflow prefixLen labels left hstack
      omega
    have hfits := hmany.resolve_left (by omega)
    have hsize := hstack.length
    rw [prefixBytes_long hlong] at hsize
    obtain ⟨body, hdelimited, hlabels⟩ := hstack
    obtain ⟨front, rest, rfl, hfront, hbody⟩ := delimited_eq_some.mp hdelimited
    obtain ⟨left', net, hparsed⟩ :=
      parseBody_long hw hlabels hfew hlong hfits (by omega)
    obtain ⟨-, -, hbits⟩ := parseBody_inv hparsed
    have hall := hbits hfew
    have hlt := prefixLen.isLt
    obtain ⟨address, hread⟩ := fromWire_long hfront hbody (by omega) hparsed rest
    obtain ⟨announced, ⟨front', body', hbuf, hfront', hbody'⟩, -⟩ := hsafe.exact rest address hread
    -- the octet behind the path identifier is the same, but not what it stands for
    obtain ⟨-, hbehind⟩ := append_inj hbuf (hfront.trans hfront'.symm)
    simp only [List.cons.injEq] at hbehind
    obtain ⟨rfl, hbody''⟩ := hbehind
    have hlength := congrArg List.length (append_cancel_right hbody'')
    rw [hbody, hbody', prefixBytes_long hlong] at hlength
    omega
  · intro hnot
    have hcount (prefixLen : BitVec 8) (labels : List MplsLabel) (left : Octets)
        (hstack : StackRead addPath isUnreach limit buf prefixLen labels left) :
        labels.length ≤ 10 := by
      have hsize := hstack.length
      by_cases hlong : 248 < prefixLen.toNat
      · by_contra hmany
        exact hnot ⟨prefixLen, labels, left, hstack, hlong, .inl (by omega)⟩
      · rw [prefixBytes_short (by omega)] at hsize
        omega
    refine ⟨fun prefixLen labels left hstack => ?_, fun rest address hread => ?_⟩
    · have hfew := hcount prefixLen labels left hstack
      omega
    · obtain ⟨prefixLen, body, left, hpath, hbody, hparsed⟩ := fromWire_inv hread
      obtain ⟨front, rfl, hfront, -⟩ := parsePathId_eq_ok hpath
      obtain ⟨behind, hlabels, hbits⟩ := parseBody_inv hparsed
      have hstack : StackRead addPath isUnreach limit (front ++ prefixLen :: (body ++ rest))
          prefixLen address.labels behind :=
        ⟨body, delimited_eq_some.mpr ⟨front, rest, rfl, hfront, hbody⟩, hlabels⟩
      have hall := hbits (hcount prefixLen address.labels behind hstack)
      have hshort : prefixLen.toNat ≤ 248 := by
        by_contra hlong
        have hnet := address.net.le
        exact hnot ⟨prefixLen, address.labels, behind, hstack, by omega, .inr (by omega)⟩
      refine ⟨prefixLen, ⟨front, body, rfl, hfront, ?_⟩, hall⟩
      rw [hbody, prefixBytes_short hshort]

end NlriMplsLabelsAddress

/-! ## VPN routes -/

namespace MplsVpnUnicastAddress

/-- The labels and the distinguisher behind them have been read. -/
def HeadRead (addPath isUnreach : Bool) (limit : BitVec 8) (buf : Octets) (prefixLen : BitVec 8)
    (labels : List MplsLabel) (left : Octets) : Prop :=
  ∃ behind rd, StackRead addPath isUnreach limit buf prefixLen labels behind ∧
    RouteDistinguisher.fromWire behind = .ok (left, rd)

structure Safe (check : IpNet w → Bool) (addPath isUnreach : Bool) (limit : BitVec 8)
    (buf : Octets) : Prop where
  noOverflow : ∀ prefixLen labels left,
    HeadRead addPath isUnreach limit buf prefixLen labels left → 64 + 24 * labels.length ≤ 255
  exact : ∀ rest (address : MplsVpnUnicastAddress check),
    fromWire addPath isUnreach limit buf = .ok (rest, address) →
    ∃ prefixLen, UsesUp addPath buf rest prefixLen ∧
      24 * address.labelStack.length + 64 + address.network.net.prefixLen = prefixLen.toNat

/-- The length is above 248 bits, and there are too many labels to count. -/
def Overruns (addPath isUnreach : Bool) (limit : BitVec 8) (buf : Octets) : Prop :=
  ∃ prefixLen labels left, HeadRead addPath isUnreach limit buf prefixLen labels left ∧
    248 < prefixLen.toNat ∧ 7 < labels.length

/-- What a successful parse says about its input. -/
theorem fromWire_inv {addPath : Bool} {buf rest : Octets} {address : MplsVpnUnicastAddress check}
    (h : fromWire addPath isUnreach limit buf = .ok (rest, address)) :
    ∃ prefixLen front body left, buf = front ++ prefixLen :: (body ++ rest) ∧
      front.length = pathIdSize addPath ∧ body.length = prefixBytes prefixLen ∧
      parseBody isUnreach limit prefixLen body =
        .ok (left, address.labelStack, address.rd, address.network) := by
  obtain ⟨mid1, pathId, hpath, hafterPath⟩ := bind_eq_ok h
  obtain ⟨mid2, prefixLen, hprefix, hafterLen⟩ := bind_eq_ok hafterPath
  obtain ⟨mid3, body, hbody, hafterBody⟩ := bind_eq_ok hafterLen
  obtain ⟨mid4, ⟨labels, rd, network⟩, hparsed, hbuilt⟩ := bind_eq_ok hafterBody
  obtain ⟨rfl, left, hleft⟩ := within_eq_ok.mp hparsed
  obtain ⟨hlen, rfl⟩ := takeOr_eq_ok.mp hbody
  rw [beU8_eq_ok] at hprefix
  subst hprefix
  obtain ⟨front, hbuf, hfront, -⟩ := parsePathId_eq_ok hpath
  cases hbuilt
  exact ⟨prefixLen, front, body, left, hbuf, hfront, hlen, hleft⟩

/-- The parts that a successful parse finds behind the length. -/
theorem parseBody_inv {rd : RouteDistinguisher} {network : Network check} (hw8 : w % 8 = 0)
    (hw : w ≤ 128) (h : parseBody isUnreach limit prefixLen body = .ok (left, labels, rd, network))
    :
    ∃ behind rest, parseMplsLabelStack isUnreach limit body = .ok (behind, labels) ∧
      RouteDistinguisher.fromWire behind = .ok (rest, rd) ∧
      rest.length = network.net.prefixSize ∧
      (labels.length ≤ 7 → 24 * labels.length + 64 + network.net.prefixLen = prefixLen.toNat) := by
  obtain ⟨behind, labels', hlabels, hafterLabels⟩ := bind_eq_ok h
  obtain ⟨rest, rd', hrd, hafterRd⟩ := bind_eq_ok hafterLabels
  rw [mapErr_eq_ok] at hlabels hrd
  dsimp only at hafterRd
  split at hafterRd
  · cases hafterRd
  · rename_i hge
    obtain ⟨mid, network', hnetwork, hafterNetwork⟩ := bind_eq_ok hafterRd
    rw [input_bind] at hafterNetwork
    split at hafterNetwork
    · cases hafterNetwork
    · rename_i hempty
      cases hafterNetwork
      rw [mapErr_eq_ok] at hnetwork
      obtain ⟨net, hnet, hchecked⟩ := mapRes_eq_ok.mp hnetwork
      rw [mapErr_eq_ok] at hnet
      obtain rfl := Network.fromIpNet_eq_ok.mp hchecked
      have hsize := consumes_ipNetFromWire hw8 hw _ _ _ _ hnet
      have hbits := yields_ipNetFromWire _ _ _ _ hnet
      have hnone : left.length = 0 := by simpa using hempty
      refine ⟨behind, rest, hlabels, hrd, by omega, fun hfew => ?_⟩
      have hle : 8 * 8 + BitVec.ofNat 8 labels.length * 24 ≤ prefixLen := BitVec.not_lt.mp hge
      rw [BitVec.toNat_sub_of_le hle, vpnBits_toNat hfew] at hbits
      rw [BitVec.le_def, vpnBits_toNat hfew] at hle
      omega

theorem safe_iff_not_overruns (hw8 : w % 8 = 0) (hw : w ≤ 128) (addPath isUnreach : Bool)
    (limit : BitVec 8) (buf : Octets) :
    Safe check addPath isUnreach limit buf ↔ ¬ Overruns addPath isUnreach limit buf := by
  constructor
  · rintro hsafe ⟨prefixLen, labels, left, hhead, hlong, hmany⟩
    have hcount := hsafe.noOverflow prefixLen labels left hhead
    omega
  · intro hnot
    have hcount (prefixLen : BitVec 8) (labels : List MplsLabel) (left : Octets)
        (hhead : HeadRead addPath isUnreach limit buf prefixLen labels left) :
        labels.length ≤ 7 := by
      by_cases hlong : 248 < prefixLen.toNat
      · by_contra hmany
        exact hnot ⟨prefixLen, labels, left, hhead, hlong, by omega⟩
      · obtain ⟨behind, rd, hstack, hrd⟩ := hhead
        have hsize := hstack.length
        have hrdSize : behind.length = left.length + 8 := consumes_routeDistinguisher _ _ _ hrd
        rw [prefixBytes_short (by omega)] at hsize
        omega
    refine ⟨fun prefixLen labels left hhead => ?_, fun rest address hread => ?_⟩
    · have hfew := hcount prefixLen labels left hhead
      omega
    · obtain ⟨prefixLen, front, body, left, rfl, hfront, hbody, hparsed⟩ := fromWire_inv hread
      obtain ⟨behind, inner, hlabels, hrd, hinner, hbits⟩ := parseBody_inv hw8 hw hparsed
      have hstack : StackRead addPath isUnreach limit (front ++ prefixLen :: (body ++ rest))
          prefixLen address.labelStack behind :=
        ⟨body, delimited_eq_some.mpr ⟨front, rest, rfl, hfront, hbody⟩, hlabels⟩
      have hfew := hcount _ _ _ ⟨behind, address.rd, hstack, hrd⟩
      have hall := hbits hfew
      refine ⟨prefixLen, ⟨front, body, rfl, hfront, ?_⟩, hall⟩
      -- all the octets cut out are used, so the length cannot be a long one
      have hsize := hstack.length
      have hrdSize : behind.length = inner.length + 8 := consumes_routeDistinguisher _ _ _ hrd
      rw [hbody, hsize, hrdSize, hinner, IpNet.prefixSize]
      omega

end MplsVpnUnicastAddress

end Labelled

/-- For every input, the parsers of labelled routes and of VPN routes are safe
and exact unless the length is above 248 bits and the labels go too far. -/
theorem labelled_safe_iff (addPath isUnreach : Bool) (limit : BitVec 8) (buf : Octets) :
    (NlriMplsLabelsAddress.Safe 32 addPath isUnreach limit buf ↔
      ¬ NlriMplsLabelsAddress.Overruns 32 addPath isUnreach limit buf) ∧
    (NlriMplsLabelsAddress.Safe 128 addPath isUnreach limit buf ↔
      ¬ NlriMplsLabelsAddress.Overruns 128 addPath isUnreach limit buf) ∧
    (MplsVpnUnicastAddress.Safe ipv4UnicastCheck addPath isUnreach limit buf ↔
      ¬ MplsVpnUnicastAddress.Overruns addPath isUnreach limit buf) ∧
    (MplsVpnUnicastAddress.Safe ipv6UnicastCheck addPath isUnreach limit buf ↔
      ¬ MplsVpnUnicastAddress.Overruns addPath isUnreach limit buf) :=
  ⟨safe_iff_not_overruns (by decide) addPath isUnreach limit buf,
    safe_iff_not_overruns (by decide) addPath isUnreach limit buf,
    MplsVpnUnicastAddress.safe_iff_not_overruns rfl (by decide) addPath isUnreach limit buf,
    MplsVpnUnicastAddress.safe_iff_not_overruns rfl (by decide) addPath isUnreach limit buf⟩

/-- Ten labels, of which the last is the bottom of the stack. -/
def tenLabels : List MplsLabel := List.replicate 9 ⟨.three 0 1 0⟩ ++ [⟨.three 0 1 1⟩]

/-- A length of 249 bits before ten labels, nine bits of prefix and 223 more octets. -/
def longRoute : Octets :=
  249 :: (tenLabels.flatMap MplsLabel.write ++ List.replicate 225 0)

/-- The route has 33 octets, but 256 are used up. -/
theorem longRoute_used_up :
    longRoute.length = 256 ∧ ∃ address : Ipv4NlriMplsLabelsAddress,
      NlriMplsLabelsAddress.fromWire false false 255 longRoute = .ok ([], address) ∧
        ¬ NlriMplsLabelsAddress.Safe 32 false false 255 longRoute := by
  obtain ⟨tail, htail, hsize⟩ : ∃ tail : Octets, List.replicate 225 0 = tail ∧ tail.length = 225 :=
    ⟨_, rfl, length_replicate⟩
  have hten : tenLabels.length = 10 := rfl
  have hlabels := labels_length tenLabels
  have hbody : (tenLabels.flatMap MplsLabel.write ++ tail).length = 255 := by
    rw [length_append]
    omega
  have hlong : (249 : BitVec 8).toNat = 249 := rfl
  rw [longRoute, htail]
  have hstack : parseMplsLabelStack false 255 (tenLabels.flatMap MplsLabel.write ++ tail) =
      .ok (tail, tenLabels) :=
    decodes_labelRounds (by decide) (by omega) (by decide) tail
  obtain ⟨left, net, hparsed⟩ : ∃ left net, parseBody false 255 249
      (tenLabels.flatMap MplsLabel.write ++ tail) = .ok (left, tenLabels, (net : IpNet 32)) :=
    parseBody_long (by decide) hstack (by omega) (by omega) (by omega)
      (by omega)
  obtain ⟨-, -, hbits⟩ := parseBody_inv hparsed
  have hall := hbits hten.le
  obtain ⟨address, hread⟩ : ∃ address : Ipv4NlriMplsLabelsAddress,
      NlriMplsLabelsAddress.fromWire false false 255
        ([] ++ 249 :: (tenLabels.flatMap MplsLabel.write ++ tail ++ [])) = .ok ([], address) :=
    fromWire_long rfl hbody (by omega) hparsed []
  rw [nil_append, append_nil] at hread
  refine ⟨by rw [length_cons, hbody], address, hread, fun hsafe => ?_⟩
  have hcut : delimited false (249 :: (tenLabels.flatMap MplsLabel.write ++ tail)) = some (249, _) :=
    delimited_eq_some.mpr ⟨[], [], by rw [append_nil]; rfl, rfl, hbody⟩
  exact (safe_iff_not_overruns (by decide) false false 255 _).mp hsafe
    ⟨249, tenLabels, tail, ⟨_, hcut, hstack⟩, by omega, .inr (by omega)⟩

end NetCalyx.Bgp
