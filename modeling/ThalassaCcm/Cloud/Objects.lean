import ThalassaCcm.Core.StrMap

/-!
# The cloud API's objects and requests

The types of the cloud client (`github.com/thalassa-cloud/client-go/iaas`) that the
controller reads and writes, with the fields it touches. Annotations are left out of
every object: the controller always sends the empty map
(`GetAnnotationsForVpcLoadbalancer`) and never reads one back. The client's enumerated
constants are inductive types, since the controller only ever writes the named values.

A listener names its target group by a reference holding the group's identity and name,
which is the part of the embedded `*VpcLoadbalancerTargetGroup` the controller compares
(`equality.Semantic.DeepEqual` in `updateVpcLoadbalancerListener`). A target group as
listed carries the identities of the listeners that reference it
(`LoadbalancerListeners`), which the cloud fills in at listing time.
-/

set_option autoImplicit false

namespace ThalassaCcm
namespace Cloud

/-- `iaas.Subnet`: identity and human-readable slug. -/
structure Subnet where
  identity : String
  slug : String
  deriving DecidableEq, Repr

/-- `iaas.Vpc`, as `GetVpc` returns it. -/
structure Vpc where
  subnets : List Subnet
  deriving DecidableEq, Repr

/-- `iaas.VpcLoadbalancer`. `subnet` is `Subnet.Identity`, `securityGroups` the identities
    of `SecurityGroups`, in attachment order. -/
structure VpcLoadbalancer where
  identity : String
  name : String
  description : String
  labels : StrMap
  subnet : String
  internalLoadbalancer : Bool
  securityGroups : List String
  status : String
  externalIpAddresses : List String
  hostname : String
  deriving DecidableEq, Repr

/-- `iaas.CreateLoadbalancer`. -/
structure CreateLoadbalancer where
  name : String
  description : String
  labels : StrMap
  subnet : String
  internalLoadbalancer : Bool
  securityGroupAttachments : List String
  deriving DecidableEq, Repr

/-- `iaas.UpdateLoadbalancer`: no internal flag, so the flag set at creation stays. -/
structure UpdateLoadbalancer where
  name : String
  description : String
  labels : StrMap
  subnet : String
  securityGroupAttachments : List String
  deriving DecidableEq, Repr

/-- The identity and name of a listener's `TargetGroup`. -/
structure TargetGroupRef where
  identity : String
  name : String
  deriving DecidableEq, Repr

/-- `iaas.VpcLoadbalancerListener`. -/
structure VpcLoadbalancerListener where
  identity : String
  name : String
  description : String
  labels : StrMap
  port : Nat
  protocol : String
  targetGroup : TargetGroupRef
  allowedSources : List String
  connectionIdleTimeout : Option Nat
  maxConnections : Option Nat
  deriving DecidableEq, Repr

/-- `iaas.CreateListener` and `iaas.UpdateListener`, which carry the same fields;
    `targetGroup` is the identity of the target group. -/
structure ListenerRequest where
  name : String
  description : String
  labels : StrMap
  port : Nat
  protocol : String
  targetGroup : String
  allowedSources : List String
  connectionIdleTimeout : Option Nat
  maxConnections : Option Nat
  deriving DecidableEq, Repr

/-- `iaas.BackendHealthCheck`. -/
structure BackendHealthCheck where
  port : Int
  protocol : String
  path : String
  timeoutSeconds : Int
  periodSeconds : Int
  healthyThreshold : Int
  unhealthyThreshold : Int
  deriving DecidableEq, Repr

/-- `iaas.VpcLoadbalancerTargetGroup`. `attachments` are the server identities set by
    `SetTargetGroupServerAttachments`; `loadbalancerListeners` is filled by listings. -/
structure VpcLoadbalancerTargetGroup where
  identity : String
  name : String
  description : String
  protocol : String
  targetPort : Nat
  labels : StrMap
  healthCheck : Option BackendHealthCheck
  enableProxyProtocol : Option Bool
  loadbalancingPolicy : Option String
  attachments : List String
  loadbalancerListeners : List String
  deriving DecidableEq, Repr

/-- `iaas.CreateTargetGroup` and `iaas.UpdateTargetGroup`, which carry the same fields
    (the VPC of a creation is the controller's). -/
structure TargetGroupRequest where
  name : String
  description : String
  protocol : String
  targetPort : Nat
  labels : StrMap
  healthCheck : Option BackendHealthCheck
  enableProxyProtocol : Option Bool
  loadbalancingPolicy : Option String
  deriving DecidableEq, Repr

/-- `iaas.SecurityGroupIPVersion`. -/
inductive SecurityGroupIPVersion where
  | IPv4
  | IPv6
  deriving DecidableEq, Repr

/-- `iaas.SecurityGroupRuleProtocol`. -/
inductive SecurityGroupRuleProtocol where
  | All
  | TCP
  | UDP
  deriving DecidableEq, Repr

/-- `iaas.SecurityGroupRulePolicy`, with Go's zero value for a rule that sets none. -/
inductive SecurityGroupRulePolicy where
  | unset
  | Allow
  deriving DecidableEq, Repr

/-- `iaas.SecurityGroupRule`; the remote type is always an address. -/
structure SecurityGroupRule where
  name : String
  ipVersion : SecurityGroupIPVersion
  protocol : SecurityGroupRuleProtocol
  priority : Int
  remoteAddress : Option String
  portRangeMin : Int
  portRangeMax : Int
  policy : SecurityGroupRulePolicy
  deriving DecidableEq, Repr

/-- `iaas.SecurityGroup`. -/
structure SecurityGroup where
  identity : String
  name : String
  description : String
  labels : StrMap
  allowSameGroupTraffic : Bool
  ingressRules : List SecurityGroupRule
  egressRules : List SecurityGroupRule
  deriving DecidableEq, Repr

/-- `iaas.CreateSecurityGroupRequest` and `iaas.UpdateSecurityGroupRequest`, which carry
    the same fields the controller sets. -/
structure SecurityGroupRequest where
  name : String
  description : String
  labels : StrMap
  allowSameGroupTraffic : Bool
  ingressRules : List SecurityGroupRule
  egressRules : List SecurityGroupRule
  deriving DecidableEq, Repr

end Cloud
end ThalassaCcm
