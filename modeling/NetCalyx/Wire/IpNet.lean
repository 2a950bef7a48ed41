import NetCalyx.Wire.Octets

/-!
# Internet addresses and networks

An address is a bit vector, a network an address with the length of its
prefix. The network address clears the host bits, the broadcast address sets
them. `network_dvd` and `prefixOctets_pad` are what a wire format needs: the
octets past the prefix are zero in the network address, so writing only the
octets that hold prefix bits loses nothing.
-/

namespace Wire
open BitVec

abbrev Ipv4Addr := BitVec 32
abbrev Ipv6Addr := BitVec 128

inductive IpAddr where
  | v4 (addr : Ipv4Addr)
  | v6 (addr : Ipv6Addr)
  deriving DecidableEq

/-- The most significant octet of an address. -/
def firstOctet {w : Nat} (a : BitVec w) : Nat := a.toNat / 2 ^ (w - 8)

theorem firstOctet_lt {w : Nat} (hw : 8 ≤ w) (a : BitVec w) : firstOctet a < 256 := by
  have hpow : 2 ^ w = 2 ^ (w - 8) * 256 := by
    rw [show 256 = 2 ^ 8 by rfl, ← Nat.pow_add]
    congr 1
    omega
  exact Nat.div_lt_of_lt_mul (hpow ▸ a.isLt)

def isBroadcast4 (a : Ipv4Addr) : Bool := a == BitVec.allOnes 32
def isUnspecified4 (a : Ipv4Addr) : Bool := a == 0
def isMulticast4 (a : Ipv4Addr) : Bool := 224 ≤ firstOctet a && firstOctet a ≤ 239
def isMulticast6 (a : Ipv6Addr) : Bool := firstOctet a == 255

/-- A network: an address and the number of leading bits that name it. -/
structure IpNet (w : Nat) where
  addr : BitVec w
  prefixLen : Nat
  le : prefixLen ≤ w
  deriving DecidableEq

abbrev Ipv4Net := IpNet 32
abbrev Ipv6Net := IpNet 128

namespace IpNet

variable {w : Nat}

/-- Eight bits are a prefix of an IPv4 address. -/
theorem eight_le : 8 ≤ 32 := by decide

def new (addr : BitVec w) (len : Nat) : Option (IpNet w) :=
  if h : len ≤ w then some ⟨addr, len, h⟩ else none

theorem new_eq_some {addr : BitVec w} {len : Nat} {net : IpNet w} :
    new addr len = some net ↔ net.addr = addr ∧ net.prefixLen = len := by
  constructor
  · intro h
    unfold new at h
    split at h <;> cases h
    exact ⟨rfl, rfl⟩
  · rintro ⟨rfl, rfl⟩
    exact dif_pos net.le

variable (n : IpNet w)

/-- The address with its host bits cleared. -/
def network : BitVec w :=
  (n.addr >>> (w - n.prefixLen)) <<< (w - n.prefixLen)

/-- The address with its host bits set. -/
def broadcast : BitVec w := n.addr ||| (BitVec.allOnes w >>> n.prefixLen)

/-- The network with its host bits cleared. -/
def trunc : IpNet w := { n with addr := n.network }

/-- The last host address: the network and broadcast addresses of an IPv4
network shorter than 31 bits are not hosts. -/
def lastHost4 (n : Ipv4Net) : Ipv4Addr :=
  if n.prefixLen < 31 then n.broadcast - 1 else n.broadcast

def lastHost6 (n : Ipv6Net) : Ipv6Addr := n.broadcast

@[simp] theorem trunc_prefixLen : n.trunc.prefixLen = n.prefixLen := rfl
@[simp] theorem trunc_addr : n.trunc.addr = n.network := rfl

theorem network_toNat :
    n.network.toNat = n.addr.toNat / 2 ^ (w - n.prefixLen) * 2 ^ (w - n.prefixLen) := by
  have hle := Nat.div_mul_le_self n.addr.toNat (2 ^ (w - n.prefixLen))
  have hlt := n.addr.isLt
  rw [network, toNat_shiftLeft, toNat_ushiftRight, Nat.shiftRight_eq_div_pow,
    Nat.shiftLeft_eq, Nat.mod_eq_of_lt (by omega)]

theorem network_dvd {d : Nat} (hd : d ≤ w - n.prefixLen) : 2 ^ d ∣ n.network.toNat := by
  rw [network_toNat]
  exact Dvd.dvd.mul_left (Nat.pow_dvd_pow 2 hd) _

/-- The host bits do not matter for the broadcast address. -/
theorem broadcast_trunc : n.trunc.broadcast = n.broadcast := by
  have hle := n.le
  ext i hi
  simp only [broadcast, trunc_addr, trunc_prefixLen, network, getElem_or,
    getElem_shiftLeft, getElem_ushiftRight, getLsbD_allOnes]
  by_cases hhost : i < w - n.prefixLen
  · simp [hhost, show n.prefixLen + i < w by omega]
  · simp [hhost, show w - n.prefixLen + (i - (w - n.prefixLen)) = i by omega,
      getLsbD_eq_getElem hi]

/-- The first octet of the network address: prefixes shorter than eight bits
clear a part of it. -/
theorem firstOctet_network (hw : 8 ≤ w) :
    firstOctet n.network = firstOctet n.addr / 2 ^ (8 - n.prefixLen) * 2 ^ (8 - n.prefixLen) := by
  have hle := n.le
  rw [firstOctet, firstOctet, network_toNat]
  by_cases hlong : 8 ≤ n.prefixLen
  · have hsplit : 2 ^ (w - 8) = 2 ^ (w - n.prefixLen) * 2 ^ (n.prefixLen - 8) := by
      rw [← Nat.pow_add]
      congr 1
      omega
    rw [hsplit, ← Nat.div_div_eq_div_mul, Nat.mul_div_cancel _ (Nat.two_pow_pos _),
      Nat.div_div_eq_div_mul, Nat.sub_eq_zero_of_le hlong]
    simp
  · have hsplit : 2 ^ (w - n.prefixLen) = 2 ^ (w - 8) * 2 ^ (8 - n.prefixLen) := by
      rw [← Nat.pow_add]
      congr 1
      omega
    rw [hsplit, ← Nat.div_div_eq_div_mul, Nat.mul_comm (2 ^ (w - 8)), ← Nat.mul_assoc,
      Nat.mul_div_cancel _ (Nat.two_pow_pos _)]

theorem network_toNat_le : n.network.toNat ≤ n.addr.toNat := by
  rw [network_toNat]
  exact Nat.div_mul_le_self _ _

/-- The number of octets that hold prefix bits. -/
def prefixSize : Nat := (n.prefixLen + 7) / 8

/-- The octets of the network address that hold prefix bits. -/
def prefixOctets : Octets := (octets n.network).take n.prefixSize

theorem prefixSize_le (hw : w % 8 = 0) : n.prefixSize ≤ w / 8 := by
  have := n.le
  unfold prefixSize
  omega

@[simp] theorem prefixOctets_length (hw : w % 8 = 0) : n.prefixOctets.length = n.prefixSize := by
  simp [prefixOctets, prefixSize_le n hw]

/-- Padding the prefix octets with zeros gives the network address back. -/
theorem prefixOctets_pad (hw : w % 8 = 0) :
    ofOctets w (n.prefixOctets ++ List.replicate (w / 8 - n.prefixSize) 0) = n.network := by
  have hs := n.prefixSize_le hw
  have hsplit : w / 8 = n.prefixSize + (w / 8 - n.prefixSize) := by omega
  have hdvd : 256 ^ (w / 8 - n.prefixSize) ∣ n.network.toNat := by
    rw [show (256 : Nat) = 2 ^ 8 by rfl, ← Nat.pow_mul]
    apply n.network_dvd
    unfold prefixSize
    omega
  have hlt : n.network.toNat < 256 ^ (n.prefixSize + (w / 8 - n.prefixSize)) := by
    rw [← hsplit, show (256 : Nat) = 2 ^ 8 by rfl, ← Nat.pow_mul, show 8 * (w / 8) = w by omega]
    exact n.network.isLt
  have hback := ofBe_take_pad n.prefixSize (w / 8 - n.prefixSize) n.network.toNat hdvd hlt
  rw [← hsplit] at hback
  apply eq_of_toNat_eq
  rw [ofOctets, prefixOctets, octets, hback]
  simp

end IpNet

end Wire
