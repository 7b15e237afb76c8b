import ThalassaCcm.Core.Identity
import ThalassaCcm.Cloud.Objects

/-!
# The desired target groups

`getDesiredVpcLoadbalancerTargetGroups` builds one target group per Service port: named
like the port's listener, keyed by the lowercased protocol and the **node** port, and
labelled with the port's target-group labels. The load-balancing policy is the one
decode that fails the whole build; the others fall back to their defaults.

The health check has two sources. A Service with a health-check node port (assigned
under the `Local` traffic policy) always gets an HTTP check on that port, or on the
annotated port when one is set; otherwise an annotated port and the enabling annotation
together give a check with the annotated protocol. Ports and thresholds are narrowed
with `int32(·)`.
-/

set_option autoImplicit false

namespace ThalassaCcm

open Cloud

def defaultHealthCheckPath : String := "/healthz"
def defaultHealthCheckTimeoutSeconds : Int := 5
def defaultHealthCheckPeriodSeconds : Int := 10
def defaultHealthCheckHealthyThreshold : Int := 2
def defaultHealthCheckUnhealthyThreshold : Int := 3
def defaultHealthCheckProtocol : String := "http"

/-- `iaas.ProtocolHTTP`. -/
def protocolHTTP : String := "http"

/-- The decoded health-check annotations, with their defaults. -/
structure HealthCheckSettings where
  enabled : Bool
  path : String
  port : Int
  protocol : String
  timeoutSeconds : Int
  periodSeconds : Int
  healthyThreshold : Int
  unhealthyThreshold : Int
  deriving DecidableEq, Repr

/-- The health-check decodes of `getDesiredVpcLoadbalancerTargetGroups`, in its order; the
    port defaults to `-1`, meaning unset. Their errors are only logged. -/
def healthCheckSettings (svc : Service) : HealthCheckSettings where
  enabled := ( getBoolAnnotation svc loadbalancerAnnotationHealthCheckEnabled false).1
  path := ( getStringAnnotation svc loadbalancerAnnotationHealthCheckPath
    defaultHealthCheckPath).1
  port := ( getIntAnnotation svc loadbalancerAnnotationHealthCheckPort (-1)).1
  protocol := ( getStringAnnotation svc loadbalancerAnnotationHealthCheckProtocol
    defaultHealthCheckProtocol).1
  timeoutSeconds := ( getIntAnnotation svc loadbalancerAnnotationHealthCheckTimeout
    defaultHealthCheckTimeoutSeconds).1
  periodSeconds := ( getIntAnnotation svc loadbalancerAnnotationHealthCheckInterval
    defaultHealthCheckPeriodSeconds).1
  healthyThreshold := ( getIntAnnotation svc loadbalancerAnnotationHealthCheckUpThreshold
    defaultHealthCheckHealthyThreshold).1
  unhealthyThreshold := ( getIntAnnotation svc loadbalancerAnnotationHealthCheckDownThreshold
    defaultHealthCheckUnhealthyThreshold).1

/-- The health check of every desired target group of `svc`. -/
def desiredHealthCheck (svc : Service) (hc : HealthCheckSettings) : Option BackendHealthCheck :=
  if svc.healthCheckNodePort > 0 then
    some { port := if hc.port > 0 then Go.toInt32 hc.port else Go.toInt32 svc.healthCheckNodePort
           protocol := protocolHTTP
           path := hc.path
           timeoutSeconds := hc.timeoutSeconds
           periodSeconds := hc.periodSeconds
           healthyThreshold := Go.toInt32 hc.healthyThreshold
           unhealthyThreshold := Go.toInt32 hc.unhealthyThreshold }
  else if hc.port ≠ -1 ∧ hc.enabled then
    some { port := Go.toInt32 hc.port
           protocol := hc.protocol
           path := hc.path
           timeoutSeconds := hc.timeoutSeconds
           periodSeconds := hc.periodSeconds
           healthyThreshold := Go.toInt32 hc.healthyThreshold
           unhealthyThreshold := Go.toInt32 hc.unhealthyThreshold }
  else none

/-- The target group `getDesiredVpcLoadbalancerTargetGroups` builds for one port. -/
def desiredTargetGroupForPort (lb : Loadbalancer) (svc : Service) (enableProxyProtocol : Bool)
    (policy : String) (hc : HealthCheckSettings) (port : ServicePort) :
    VpcLoadbalancerTargetGroup where
  identity := ""
  name := getPortName (getLoadBalancerName svc) port
  description := ""
  protocol := Go.toLower port.protocol.toString
  targetPort := port.nodePort
  labels := getLabelsForVpcLoadbalancerTargetGroup lb svc port.port port.protocol.toString
  healthCheck := desiredHealthCheck svc hc
  enableProxyProtocol := some enableProxyProtocol
  loadbalancingPolicy := some policy
  attachments := []
  loadbalancerListeners := []

/-- `getDesiredVpcLoadbalancerTargetGroups`: fails only on an invalid load-balancing
    policy. -/
def getDesiredVpcLoadbalancerTargetGroups (lb : Loadbalancer) (svc : Service) :
    Except String (List VpcLoadbalancerTargetGroup) :=
  let enableProxyProtocol :=
    ( getBoolAnnotation svc loadbalancerAnnotationEnableProxyProtocol defaultEnableProxyProtocol).1
  match getLoadbalancingPolicy svc with
  | (_, some e) => .error e
  | (policy, none) =>
    .ok (svc.ports.map
      (desiredTargetGroupForPort lb svc enableProxyProtocol policy (healthCheckSettings svc)))

/-- The `"%s:%d"` key of a target group in `createOrUpdateTargetGroups` and
    `cleanupUnusedTargetGroups`: protocol and target port. The format is injective (a
    `%d` never contains the colon), so the pair stands for the string. -/
def targetGroupKey (tg : VpcLoadbalancerTargetGroup) : String × Nat := (tg.protocol, tg.targetPort)

end ThalassaCcm
