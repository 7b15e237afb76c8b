import ThalassaCcm.Core.Identity
import ThalassaCcm.Cloud.Objects

/-!
# The managed security group's rules (`loadbalancer.go`)

`buildIngressRulesFromListeners` emits one rule per listener and allowed source, in
listener-then-source order: the listener's port as a one-port range, UDP when the
listener's lowercased protocol is `udp` and TCP otherwise, the IP version read off the
parsed source (`IPv6` when the network's address has no 4-byte form), all at priority
100. The egress rules are fixed: allow everything, over IPv4 and IPv6.
-/

set_option autoImplicit false

namespace ThalassaCcm

open Cloud

/-- The version `buildIngressRulesFromListeners` gives a source: IPv4 unless it parses
    as a CIDR whose (non-nil) address has no 4-byte form. -/
def sourceIPVersion (lb : Loadbalancer) (src : String) : SecurityGroupIPVersion :=
  match lb.parseCIDR src with
  | some ipnet => if ipnet.ip ≠ [] ∧ ipnet.ip.to4.isNone then .IPv6 else .IPv4
  | none => .IPv4

/-- The ingress rule for one listener and one of its sources, at a priority. -/
def ingressRule (lb : Loadbalancer) (l : VpcLoadbalancerListener) (priority : Int)
    (src : String) : SecurityGroupRule where
  name := Go.toLower l.protocol ++ "-" ++ toString l.port
  ipVersion := sourceIPVersion lb src
  protocol := if Go.toLower l.protocol = "udp" then .UDP else .TCP
  priority := priority
  remoteAddress := some src
  portRangeMin := Go.toInt32 l.port
  portRangeMax := Go.toInt32 l.port
  policy := .Allow

/-- `buildIngressRulesFromListeners`. The Go loop sets `priority := int32(100)` once and
    never advances it, so every rule has priority 100. -/
def buildIngressRulesFromListeners (lb : Loadbalancer) (listeners : List VpcLoadbalancerListener) :
    List SecurityGroupRule :=
  let priority : Int := 100
  listeners.flatMap fun l => l.allowedSources.map (ingressRule lb l priority)

/-- The two allow-all egress rules of `ensureManagedSecurityGroup`. -/
def managedEgressRules : List SecurityGroupRule :=
  [{ name := "allow-all-outbound", ipVersion := .IPv4, protocol := .All, priority := 100,
     remoteAddress := some "0.0.0.0/0", portRangeMin := 0, portRangeMax := 0, policy := .unset },
   { name := "allow-all-outbound", ipVersion := .IPv6, protocol := .All, priority := 110,
     remoteAddress := some "::/0", portRangeMin := 0, portRangeMax := 0, policy := .unset }]

/-- `generateSecurityGroupName`: `"sg-"` and the name, cut to 16 bytes. -/
def generateSecurityGroupName (lbName : String) : String :=
  ⟨(("sg-" ++ lbName).data).take 16⟩

end ThalassaCcm
