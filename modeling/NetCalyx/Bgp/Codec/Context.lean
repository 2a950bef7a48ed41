import Mathlib.Data.Finset.Basic
import NetCalyx.Iana.AddressFamily

/-!
# Parsing context

What a BGP parser knows about the session: the width of AS numbers, the
families with path identifiers and the label limits, the last two per
direction, and which errors end the parse.
-/

namespace NetCalyx.Bgp
open Iana

inductive MessageDirection where
  | inbound
  | outbound

/-- The families with path identifiers, from the local side's point of view. -/
structure AddPathMap where
  send : Finset AddressType
  receive : Finset AddressType

def AddPathMap.addPathEnabled (map : AddPathMap) (addressType : AddressType) :
    MessageDirection → Bool
  | .outbound => addressType ∈ map.send
  | .inbound => addressType ∈ map.receive

def AddPathMap.default : AddPathMap := ⟨∅, ∅⟩

structure MultipleLabelsLimits where
  inbound : BitVec 8
  outbound : BitVec 8

def MultipleLabelsLimits.get (limits : MultipleLabelsLimits) : MessageDirection → BitVec 8
  | .inbound => limits.inbound
  | .outbound => limits.outbound

/-- How many labels a receiver takes; a family without an entry takes one. -/
def MultipleLabelsMap := AddressType → Option MultipleLabelsLimits

def MultipleLabelsMap.multipleLabelsLimit (map : MultipleLabelsMap) (addressType : AddressType)
    (direction : MessageDirection) : BitVec 8 :=
  ((map addressType).map (·.get direction)).getD 1

def MultipleLabelsMap.default : MultipleLabelsMap := fun _ => none

structure BgpParsingContext where
  asn4 : Bool
  multipleLabels : MultipleLabelsMap
  addPath : AddPathMap
  failOnNonUnicastWithdrawNlri : Bool
  failOnNonUnicastUpdateNlri : Bool
  failOnCapabilityError : Bool
  failOnMalformedPathAttr : Bool

namespace BgpParsingContext

/-- Four-octet AS numbers, no path identifiers, single labels, every error fatal. -/
def default : BgpParsingContext :=
  ⟨true, MultipleLabelsMap.default, AddPathMap.default, true, true, true, true⟩

/-- Two-octet AS numbers, no path identifiers, single labels, every error fatal. -/
def asn2Default : BgpParsingContext :=
  ⟨false, fun _ => none, ⟨∅, ∅⟩, true, true, true, true⟩

def setAsn4 (ctx : BgpParsingContext) (value : Bool) : BgpParsingContext :=
  { ctx with asn4 := value }

def addPathEnabled (ctx : BgpParsingContext) (addressType : AddressType)
    (direction : MessageDirection) : Bool :=
  ctx.addPath.addPathEnabled addressType direction

def multipleLabelsLimit (ctx : BgpParsingContext) (addressType : AddressType)
    (direction : MessageDirection) : BitVec 8 :=
  ctx.multipleLabels.multipleLabelsLimit addressType direction

end BgpParsingContext

end NetCalyx.Bgp
