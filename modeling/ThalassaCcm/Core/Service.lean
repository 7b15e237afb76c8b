import ThalassaCcm.Go.Text
import ThalassaCcm.Core.StrMap

/-!
# The Kubernetes side: Services, nodes, annotations

What the controller reads of the orchestrator's objects, and the annotation decoders of
`annotations.go` (`getStringAnnotation`, `getIntAnnotation`, `getBoolAnnotation`,
`GetLoadbalancingPolicy`). A Go function that returns a value *and* an error is a pair
here, `(value, none)` for a nil error: the decoders return the default beside their
error, and the callers log the error and keep the value.

The protocol of a Service port is an inductive type: the API server admits only `TCP`,
`UDP` and `SCTP`. The external-traffic policy is `Cluster` or `Local`; the empty policy
of a Service that is not of type `LoadBalancer` behaves as `Cluster` in every comparison
the controller makes, since all of them test for `Local`.
-/

set_option autoImplicit false

namespace ThalassaCcm

/-! ## 1. Objects -/

/-- `corev1.Protocol`. -/
inductive Protocol where
  | TCP
  | UDP
  | SCTP
  deriving DecidableEq, Repr

/-- `string(p)`. -/
def Protocol.toString : Protocol → String
  | .TCP => "TCP"
  | .UDP => "UDP"
  | .SCTP => "SCTP"

/-- `corev1.ServicePort`: the fields the controller reads. Port numbers are validated to
    lie in `[1, 65535]` (the node port may be `0` when none is allocated). -/
structure ServicePort where
  name : String
  protocol : Protocol
  port : Nat
  nodePort : Nat
  deriving DecidableEq, Repr

/-- `corev1.ServiceExternalTrafficPolicy`. -/
inductive ServiceExternalTrafficPolicy where
  | Cluster
  | Local
  deriving DecidableEq, Repr

/-- `corev1.ServiceType`. -/
inductive ServiceType where
  | ClusterIP
  | NodePort
  | LoadBalancer
  | ExternalName
  deriving DecidableEq, Repr

/-- `corev1.Service`: the fields the controller reads (`ns` is `ObjectMeta.Namespace`). -/
structure Service where
  name : String
  ns : String
  uid : String
  annotations : StrMap
  serviceType : ServiceType
  ports : List ServicePort
  externalTrafficPolicy : ServiceExternalTrafficPolicy
  healthCheckNodePort : Nat
  deriving DecidableEq, Repr

/-- `corev1.NodeCondition`: its type and status. -/
structure NodeCondition where
  type : String
  status : String
  deriving DecidableEq, Repr

/-- `corev1.Node`: its name, `Spec.ProviderID` and `Status.Conditions`. -/
structure Node where
  name : String
  providerID : String
  conditions : List NodeCondition
  deriving DecidableEq, Repr

/-! ## 2. Annotation keys and defaults (`annotations.go`) -/

def loadBalancerAnnotationSubnetID : String := "loadbalancer.k8s.thalassa.cloud/subnet"
def loadbalancerAnnotationInternal : String := "loadbalancer.k8s.thalassa.cloud/internal"
def loadbalancerAnnotationEnableProxyProtocol : String :=
  "loadbalancer.k8s.thalassa.cloud/enable-proxy-protocol"
def loadbalancerAnnotationIdleConnectionTimeout : String :=
  "loadbalancer.k8s.thalassa.cloud/idle-connection-timeout"
def loadbalancerAnnotationMaxConnections : String :=
  "loadbalancer.k8s.thalassa.cloud/max-connections"
def loadbalancerAnnotationLoadbalancingPolicy : String :=
  "loadbalancer.k8s.thalassa.cloud/loadbalancing-policy"
def loadbalancerAnnotationHealthCheckEnabled : String :=
  "loadbalancer.k8s.thalassa.cloud/health-check-enabled"
def loadbalancerAnnotationHealthCheckPath : String :=
  "loadbalancer.k8s.thalassa.cloud/health-check-path"
def loadbalancerAnnotationHealthCheckPort : String :=
  "loadbalancer.k8s.thalassa.cloud/health-check-port"
def loadbalancerAnnotationHealthCheckProtocol : String :=
  "loadbalancer.k8s.thalassa.cloud/health-check-protocol"
def loadbalancerAnnotationHealthCheckInterval : String :=
  "loadbalancer.k8s.thalassa.cloud/health-check-interval"
def loadbalancerAnnotationHealthCheckTimeout : String :=
  "loadbalancer.k8s.thalassa.cloud/health-check-timeout"
def loadbalancerAnnotationHealthCheckUpThreshold : String :=
  "loadbalancer.k8s.thalassa.cloud/health-check-up-threshold"
def loadbalancerAnnotationHealthCheckDownThreshold : String :=
  "loadbalancer.k8s.thalassa.cloud/health-check-down-threshold"
def loadbalancerAnnotationAclAllowedSources : String :=
  "loadbalancer.k8s.thalassa.cloud/acl-allowed-sources"
def loadbalancerAnnotationAclAllowedSourcesPort : String :=
  "loadbalancer.k8s.thalassa.cloud/acl-port"
def loadBalancerAnnotationSecurityGroups : String :=
  "loadbalancer.k8s.thalassa.cloud/security-groups"

/-- Modelled from the spec: the key of the create-security-group option. The constant
    `LoadBalancerAnnotationCreateSecurityGroup` is read by `shouldCreateSecurityGroup`
    but its declaration is not among the sources; the spec's annotation table and the
    repository's annotation guide give the key under the shared prefix. -/
def loadBalancerAnnotationCreateSecurityGroup : String :=
  "loadbalancer.k8s.thalassa.cloud/create-security-group"

def defaultIdleConnectionTimeout : Int := 6000
def defaultMaxConnections : Int := 10000
def defaultEnableProxyProtocol : Bool := false
def defaultLoadbalancingPolicy : String := "ROUND_ROBIN"

/-! ## 3. Decoders (`annotations.go`) -/

/-- `getStringAnnotation`: never fails. -/
def getStringAnnotation (svc : Service) (key defaultValue : String) :
    String × Option String :=
  match svc.annotations.find? key with
  | some val => (val, none)
  | none => (defaultValue, none)

/-- `getIntAnnotation`: the default, with an error, when the value does not parse. -/
def getIntAnnotation (svc : Service) (key : String) (defaultValue : Int) :
    Int × Option String :=
  match svc.annotations.find? key with
  | some val =>
    match Go.atoi val with
    | .ok c => (c, none)
    | .error e => (defaultValue, some ("failed to parse " ++ key ++ ": " ++ e))
  | none => (defaultValue, none)

/-- `getBoolAnnotation`: the default, with an error, when the value does not parse. -/
def getBoolAnnotation (svc : Service) (key : String) (defaultValue : Bool) :
    Bool × Option String :=
  match svc.annotations.find? key with
  | some val =>
    match Go.parseBool val with
    | .ok b => (b, none)
    | .error e => (defaultValue, some ("failed to parse " ++ key ++ ": " ++ e))
  | none => (defaultValue, none)

/-- `GetLoadbalancingPolicy`: one of the three policies the cloud knows, or
    `ROUND_ROBIN` with an error. -/
def getLoadbalancingPolicy (svc : Service) : String × Option String :=
  let policy := ( getStringAnnotation svc loadbalancerAnnotationLoadbalancingPolicy
    defaultLoadbalancingPolicy).1
  if policy = "ROUND_ROBIN" ∨ policy = "RANDOM" ∨ policy = "MAGLEV" then (policy, none)
  else ("ROUND_ROBIN", some ("invalid loadbalancing policy: " ++ policy ++
    ", must be one of: ROUND_ROBIN, RANDOM, MAGLEV"))

/-- Every decoder answers its default, with no error, on a Service without the key. -/
theorem getIntAnnotation_of_absent {svc : Service} {key : String}
    (h : svc.annotations.find? key = none) (d : Int) :
    getIntAnnotation svc key d = (d, none) := by
  simp [ getIntAnnotation, h]

/-- An annotation holding the decimal text of an integer of Go's 64-bit range decodes to
    that integer, with no error. -/
theorem getIntAnnotation_of_toString {svc : Service} {key : String} (i : Int)
    (h0 : -9223372036854775808 ≤ i) (h1 : i ≤ 9223372036854775807)
    (h : svc.annotations.find? key = some (toString i)) (defaultValue : Int) :
    getIntAnnotation svc key defaultValue = (i, none) := by
  simp [ getIntAnnotation, h, Go.atoi_toString i h0 h1]

theorem getBoolAnnotation_of_absent {svc : Service} {key : String}
    (h : svc.annotations.find? key = none) (d : Bool) :
    getBoolAnnotation svc key d = (d, none) := by
  simp [ getBoolAnnotation, h]

/-- `shouldCreateSecurityGroup` (`loadbalancer.go`): the annotation read by
    `strconv.ParseBool`, `false` when absent or unparseable. -/
def shouldCreateSecurityGroup (svc : Service) : Bool :=
  match svc.annotations.find? loadBalancerAnnotationCreateSecurityGroup with
  | some val => Go.parseBoolValue val
  | none => false

/-- `getSecurityGroupsForService` (`loadbalancer.go`): the comma-split annotation. -/
def getSecurityGroupsForService (svc : Service) : List String :=
  match svc.annotations.find? loadBalancerAnnotationSecurityGroups with
  | some val => Go.split val ","
  | none => []

end ThalassaCcm
