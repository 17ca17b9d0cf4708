import Skywalking.RustStd.Text

/-!
Network addresses of the Rust standard library: `Ipv4Addr`, `Ipv6Addr` and `IpAddr`, the
classes of addresses, their order and their texts.

* `isLoopback`, `isMulticast`, `isLinkLocal`, `isPrivate`: the reserved blocks.
* `IpAddr.cmp`: IPv4 before IPv6, then octet by octet or segment by segment; it is a total
  order (the instances `TransCmp` and `LawfulEqCmp`).
* `IpAddr.toString`: dotted decimals, or hexadecimal segments with the first longest run of
  zeroes left out.
-/

namespace RustStd

/-- `Ipv4Addr`: four octets. -/
structure Ipv4Addr where
  a : UInt8
  b : UInt8
  c : UInt8
  d : UInt8
  deriving DecidableEq, Repr

/-- `Ipv6Addr`: eight segments of sixteen bits. -/
structure Ipv6Addr where
  a : UInt16
  b : UInt16
  c : UInt16
  d : UInt16
  e : UInt16
  f : UInt16
  g : UInt16
  h : UInt16
  deriving DecidableEq, Repr

/-- `IpAddr`. -/
inductive IpAddr where
  | v4 (addr : Ipv4Addr)
  | v6 (addr : Ipv6Addr)
  deriving DecidableEq, Repr

/-! ### Classes of addresses -/

namespace Ipv4Addr

/-- `Ipv4Addr::octets`. -/
def octets (ip : Ipv4Addr) : List UInt8 := [ip.a, ip.b, ip.c, ip.d]

/-- `Ipv4Addr::is_loopback`: 127.0.0.0/8. -/
def isLoopback (ip : Ipv4Addr) : Bool := ip.a == 127

/-- `Ipv4Addr::is_private`: 10.0.0.0/8, 172.16.0.0/12 and 192.168.0.0/16. -/
def isPrivate (ip : Ipv4Addr) : Bool :=
  ip.a == 10 || (ip.a == 172 && 16 ≤ ip.b && ip.b ≤ 31) || (ip.a == 192 && ip.b == 168)

/-- `Ipv4Addr::is_link_local`: 169.254.0.0/16. -/
def isLinkLocal (ip : Ipv4Addr) : Bool := ip.a == 169 && ip.b == 254

/-- `Ipv4Addr::is_multicast`: 224.0.0.0/4. -/
def isMulticast (ip : Ipv4Addr) : Bool := 224 ≤ ip.a && ip.a ≤ 239

lemma octets_injective : Function.Injective octets := by
  rintro ⟨⟩ ⟨⟩ h
  simpa [octets] using h

end Ipv4Addr

namespace Ipv6Addr

/-- `Ipv6Addr::segments`. -/
def segments (ip : Ipv6Addr) : List UInt16 :=
  [ip.a, ip.b, ip.c, ip.d, ip.e, ip.f, ip.g, ip.h]

/-- `Ipv6Addr::is_loopback`: `::1`. -/
def isLoopback (ip : Ipv6Addr) : Bool := ip.segments == [0, 0, 0, 0, 0, 0, 0, 1]

/-- `Ipv6Addr::is_multicast`: ff00::/8. -/
def isMulticast (ip : Ipv6Addr) : Bool := ip.a &&& 0xff00 == 0xff00

lemma segments_injective : Function.Injective segments := by
  rintro ⟨⟩ ⟨⟩ h
  simpa [segments] using h

end Ipv6Addr

namespace IpAddr

/-- `IpAddr::is_loopback`. -/
def isLoopback : IpAddr → Bool
  | v4 ip => ip.isLoopback
  | v6 ip => ip.isLoopback

/-- `IpAddr::is_multicast`. -/
def isMulticast : IpAddr → Bool
  | v4 ip => ip.isMulticast
  | v6 ip => ip.isMulticast

/-! ### The order -/

/-- `IpAddr::cmp`. -/
def cmp : IpAddr → IpAddr → Ordering
  | v4 ip, v4 ip' => compare ip.octets ip'.octets
  | v4 _, v6 _ => .lt
  | v6 _, v4 _ => .gt
  | v6 ip, v6 ip' => compare ip.segments ip'.segments

instance : Std.TransCmp cmp where
  eq_swap {x y} := by
    cases x <;> cases y
    · exact Std.OrientedOrd.eq_swap
    · rfl
    · rfl
    · exact Std.OrientedOrd.eq_swap
  isLE_trans {x y z} hxy hyz := by
    cases x <;> cases y <;> cases z
    case v4.v4.v4 => exact Std.TransOrd.isLE_trans hxy hyz
    case v6.v6.v6 => exact Std.TransOrd.isLE_trans hxy hyz
    -- otherwise the versions decide
    all_goals
      first | exact absurd hxy Bool.false_ne_true | exact absurd hyz Bool.false_ne_true | rfl

instance : Std.LawfulEqCmp cmp where
  compare_self {x} := by
    cases x <;> exact Std.ReflOrd.compare_self
  eq_of_compare {x y} h := by
    cases x <;> cases y
    · exact congrArg v4 (Ipv4Addr.octets_injective (Std.LawfulEqOrd.eq_of_compare h))
    · cases h
    · cases h
    · exact congrArg v6 (Ipv6Addr.segments_injective (Std.LawfulEqOrd.eq_of_compare h))

end IpAddr

/-! ### Texts -/

/-- `Ipv4Addr::to_string`. -/
def Ipv4Addr.toString (ip : Ipv4Addr) : String := join '.' (ip.octets.map fun o => o.toNat.repr)

namespace Ipv6Addr

/-- A run of zeroes among the segments. -/
structure ZeroSpan where
  start : ℕ
  len : ℕ
  deriving DecidableEq, Repr

/-- One segment of the search for the first longest run of zeroes: the longest one so far
and the one that is still open. -/
def zeroStep (spans : ZeroSpan × ZeroSpan) (seg : UInt16 × ℕ) : ZeroSpan × ZeroSpan :=
  if seg.1 = 0 then
    let current : ZeroSpan :=
      { start := if spans.2.len = 0 then seg.2 else spans.2.start, len := spans.2.len + 1 }
    (if spans.1.len < current.len then current else spans.1, current)
  else (spans.1, ⟨0, 0⟩)

/-- The first longest run of zeroes among the segments. -/
def zeroes (ip : Ipv6Addr) : ZeroSpan := (ip.segments.zipIdx.foldl zeroStep (⟨0, 0⟩, ⟨0, 0⟩)).1

/-- Segments in lower-case hexadecimal digits, separated by colons. -/
def fmtSubslice (chunk : List UInt16) : String :=
  join ':' (chunk.map fun s => String.ofList (Nat.toDigits 16 s.toNat))

/-- `Ipv6Addr::to_ipv4_mapped`: the address after `::ffff:`. -/
def toIpv4Mapped (ip : Ipv6Addr) : Option Ipv4Addr :=
  if ip.segments.take 6 = [0, 0, 0, 0, 0, 0xffff] then
    some ⟨(ip.g >>> 8).toUInt8, ip.g.toUInt8, (ip.h >>> 8).toUInt8, ip.h.toUInt8⟩
  else none

/-- `Ipv6Addr::to_string`. -/
def toString (ip : Ipv6Addr) : String :=
  match ip.toIpv4Mapped with
  | some ip4 => "::ffff:" ++ ip4.toString
  | none =>
      if 1 < ip.zeroes.len then
        fmtSubslice (ip.segments.take ip.zeroes.start) ++ "::"
          ++ fmtSubslice (ip.segments.drop (ip.zeroes.start + ip.zeroes.len))
      else fmtSubslice ip.segments

end Ipv6Addr

/-- `IpAddr::to_string`. -/
def IpAddr.toString : IpAddr → String
  | v4 ip => ip.toString
  | v6 ip => ip.toString

end RustStd
