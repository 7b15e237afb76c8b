import Mathlib.Data.List.Basic

/-!
# `net.IP`, `net.IPNet` and `Contains`

The managed security group admits a client when one of its rules has the client's IP
version and a remote CIDR containing the client. Both halves are computed by Go's `net`
package: the rule builder reads `ipnet.IP.To4()` of the parsed CIDR, and containment is
`IPNet.Contains`. This file transcribes the three functions involved, over byte slices
(a byte is a `Nat` below 256).

`net.ParseCIDR` itself is not transcribed: it is not code of this repository, and every
result here holds whatever it accepts, so the controller's configuration record carries
it as a parameter (`Loadbalancer.parseCIDR`).
-/

set_option autoImplicit false

namespace ThalassaCcm
namespace Go

/-- `net.IP`: 4 bytes for an IPv4 address, 16 for an IPv6 one. -/
abbrev IP := List Nat

/-- `net.IPMask`. -/
abbrev IPMask := List Nat

/-- `net.IPNet`. -/
structure IPNet where
  ip : IP
  mask : IPMask
  deriving DecidableEq, Repr

/-- `IP.To4`: the 4-byte form of an IPv4 address or of an IPv4-mapped IPv6 address. -/
def IP.to4 (ip : IP) : Option IP :=
  if ip.length = 4 then some ip
  else if ip.length = 16 ∧ ip.take 10 = List.replicate 10 0 ∧ (ip.drop 10).take 2 = [255, 255]
  then some (ip.drop 12)
  else none

/-- The IP version a client address has for `Contains`: IPv4 exactly when `To4` answers. -/
def IP.isV4 (ip : IP) : Bool := ip.to4.isSome

/-- `networkNumberAndMask`: the network number in the length that matches the mask, or
    `nil` for a malformed network. -/
def IPNet.networkNumberAndMask (n : IPNet) : Option (IP × IPMask) :=
  let ip? : Option IP :=
    match n.ip.to4 with
    | some ip => some ip
    | none => if n.ip.length = 16 then some n.ip else none
  match ip? with
  | none => none
  | some ip =>
    if n.mask.length = 4 then (if ip.length = 4 then some (ip, n.mask) else none)
    else if n.mask.length = 16 then
      (if ip.length = 4 then some (ip, n.mask.drop 12) else some (ip, n.mask))
    else none

/-- `IPNet.Contains`: the address, in its 4-byte form when it has one, has the network's
    length and agrees with the network number on every masked bit. A malformed network
    has the empty network number, which only a zero-length address matches. -/
def IPNet.contains (n : IPNet) (ip : IP) : Bool :=
  let ip' := ip.to4.getD ip
  match n.networkNumberAndMask with
  | none => ip'.length = 0
  | some (nn, m) =>
    ip'.length = nn.length &&
      ((nn.zip m).zip ip').all fun ((a, k), b) => Nat.land a k = Nat.land b k

theorem IP.length_of_to4 {ip y : IP} (h : ip.to4 = some y) : y.length = 4 := by
  unfold IP.to4 at h
  split at h
  · cases h; assumption
  · split at h
    · cases h; simp; omega
    · cases h

theorem IP.to4_of_length {ip : IP} (h : ip.length = 4) : ip.to4 = some ip := by
  simp [IP.to4, h]

/-- The length `Contains` compares: 4 for an address with a 4-byte form, else its own. -/
theorem IP.length_to4_getD {ip : IP} (hlen : ip.length = 4 ∨ ip.length = 16) :
    (ip.to4.getD ip).length = 4 ↔ ip.isV4 = true := by
  unfold IP.isV4
  cases h : ip.to4 with
  | some y => simpa using IP.length_of_to4 h
  | none =>
    rcases hlen with h' | h'
    · rw [IP.to4_of_length h'] at h; cases h
    · simp [h']

/-- The network number has length 4 exactly when the network's address has a 4-byte form. -/
theorem IPNet.length_networkNumber {n : IPNet} {nn : IP} {m : IPMask}
    (h : n.networkNumberAndMask = some (nn, m)) : nn.length = 4 ↔ n.ip.to4.isSome = true := by
  unfold IPNet.networkNumberAndMask at h
  cases hn : n.ip.to4 with
  | some z =>
    simp only [hn] at h
    have hz := IP.length_of_to4 hn
    have : nn = z := by split at h <;> (try split at h) <;> simp_all
    simp [this, hz]
  | none =>
    simp only [hn] at h
    have h16 : n.ip.length = 16 := by by_contra hc; simp [hc] at h
    have : nn = n.ip := by
      simp only [h16, if_true] at h; split at h <;> (try split at h) <;> simp_all
    simp [this, h16]

/-- A valid address has a non-empty form for `Contains`. -/
theorem IP.length_to4_getD_ne_zero {ip : IP} (hlen : ip.length = 4 ∨ ip.length = 16) :
    (ip.to4.getD ip).length ≠ 0 := by
  cases h : ip.to4 with
  | some y => simp [IP.length_of_to4 h]
  | none => rcases hlen with h' | h' <;> simp [h', IP.to4_of_length] at h ⊢

/-- A network contains only addresses of its own version: an address `Contains` accepts
    has a 4-byte form exactly when the network's address has one. This is the fact the
    security-group rule builder relies on when it reads the version off the network. -/
theorem IPNet.isV4_of_contains {n : IPNet} {ip : IP} (hlen : ip.length = 4 ∨ ip.length = 16)
    (h : n.contains ip = true) : ip.isV4 = n.ip.to4.isSome := by
  unfold IPNet.contains at h
  have hl := IP.length_to4_getD hlen
  split at h
  · exact absurd (of_decide_eq_true h) (IP.length_to4_getD_ne_zero hlen)
  · rename_i nn m hnm
    have hnn := IPNet.length_networkNumber hnm
    simp only [Bool.and_eq_true, decide_eq_true_eq] at h
    rw [h.1] at hl
    exact Bool.eq_iff_iff.mpr (hl.symm.trans hnn)

/-- A network with no address is malformed, and contains no valid address. -/
theorem IPNet.ip_ne_nil_of_contains {n : IPNet} {ip : IP} (hlen : ip.length = 4 ∨ ip.length = 16)
    (h : n.contains ip = true) : n.ip ≠ [] := by
  intro hnil
  have hnone : n.networkNumberAndMask = none := by
    simp [IPNet.networkNumberAndMask, IP.to4, hnil]
  simp only [IPNet.contains, hnone, decide_eq_true_eq] at h
  exact IP.length_to4_getD_ne_zero hlen h

end Go
end ThalassaCcm
