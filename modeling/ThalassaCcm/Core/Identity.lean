import ThalassaCcm.Core.Service
import ThalassaCcm.Go.Net

/-!
# The label and identity scheme

Every cloud object the controller creates for a Service carries
`GetLabelsForVpcLoadbalancer(service)`: five canonical entries (the cluster, the
managed-by marker, the Service's name, namespace and UID) and then the operator's
`additionalLabels`, merged without overriding. Target groups carry two more entries,
the Service port and the lowercased protocol, merged the same way. Every lookup of the
controller's own objects selects by the same label set, and the load balancer has a
fallback by name: `GetLoadBalancerName`, the cloud-provider library's
`DefaultLoadBalancerName`.

The results here are the ones ownership arguments use: the canonical entries survive
the merge (`get_getLabelsForVpcLoadbalancer_canonical`), and a target group's labels
are matched by its Service's selector (`matchLabels_getLabelsForVpcLoadbalancerTargetGroup`).
The port and protocol entries of a target group, by contrast, *can* be shadowed by an
operator label: the merge that adds them does not override either, which is what the
listener-to-target-group resolution of `loadbalancer_listeners.go` reads.
-/

set_option autoImplicit false

namespace ThalassaCcm

open StrMap

/-! ## 1. The controller's configuration -/

/-- `LoadBalancerConfig` (`cloud.go`): the poll settings, in seconds, when configured. -/
structure LoadBalancerConfig where
  creationPollInterval : Option Int
  creationPollTimeout : Option Int
  deriving DecidableEq, Repr

/-- The controller's `loadbalancer` struct, without its API clients (the cloud is the
    state the programs of `Cloud/` run against). `parseCIDR` is Go's `net.ParseCIDR`,
    which is not code of this repository: it is a parameter, so that what is proved holds
    for whatever the library accepts. -/
structure Loadbalancer where
  config : LoadBalancerConfig
  additionalLabels : StrMap
  vpcIdentity : String
  defaultSubnet : String
  cluster : String
  parseCIDR : String → Option Go.IPNet

/-! ## 2. Labels (`labels.go`) -/

def labelKubernetesCluster : String := "k8s.thalassa.cloud/kubernetes-cluster"
def labelCloudProviderManaged : String := "k8s.thalassa.cloud/cloud-provider-managed"
def labelKubernetesServiceName : String := "k8s.thalassa.cloud/kubernetes-service-name"
def labelKubernetesServiceNamespace : String :=
  "k8s.thalassa.cloud/kubernetes-service-namespace"
def labelKubernetesServiceUID : String := "k8s.thalassa.cloud/kubernetes-service-uid"
def labelKubernetesServicePort : String := "k8s.thalassa.cloud/kubernetes-service-port"
def labelKubernetesServiceProtocol : String :=
  "k8s.thalassa.cloud/kubernetes-service-protocol"

/-- The map literal of `GetLabelsForVpcLoadbalancer`, before the operator's labels. -/
def canonicalLabels (lb : Loadbalancer) (svc : Service) : StrMap :=
  [(labelKubernetesCluster, lb.cluster), (labelCloudProviderManaged, "true"),
    (labelKubernetesServiceName, svc.name), (labelKubernetesServiceNamespace, svc.ns),
    (labelKubernetesServiceUID, svc.uid)]

/-- `GetLabelsForVpcLoadbalancer`. -/
def getLabelsForVpcLoadbalancer (lb : Loadbalancer) (svc : Service) : StrMap :=
  (canonicalLabels lb svc).mergeAbsent lb.additionalLabels

/-- `GetLabelsForVpcLoadbalancerTargetGroup`: the Service's labels, then the port as
    `%d` and the lowercased protocol, again only where the key is absent. -/
def getLabelsForVpcLoadbalancerTargetGroup (lb : Loadbalancer) (svc : Service) (port : Nat)
    (protocol : String) : StrMap :=
  (getLabelsForVpcLoadbalancer lb svc).mergeAbsent
    [(labelKubernetesServicePort, toString port),
      (labelKubernetesServiceProtocol, Go.toLower protocol)]

theorem unique_canonicalLabels (lb : Loadbalancer) (svc : Service) :
    (canonicalLabels lb svc).Unique := by
  simp only [StrMap.Unique, canonicalLabels, List.map_cons, List.map_nil]
  decide

theorem unique_getLabelsForVpcLoadbalancer (lb : Loadbalancer) (svc : Service) :
    (getLabelsForVpcLoadbalancer lb svc).Unique :=
  unique_mergeAbsent (unique_canonicalLabels lb svc) _

/-- The canonical entries survive the operator's labels. -/
theorem get_getLabelsForVpcLoadbalancer_canonical (lb : Loadbalancer) (svc : Service)
    {kv : String × String} (h : kv ∈ canonicalLabels lb svc) :
    (getLabelsForVpcLoadbalancer lb svc).get kv.1 = kv.2 := by
  have hhas : (canonicalLabels lb svc).has kv.1 = true :=
    (has_iff_mem_keys _ _).mpr (List.mem_map_of_mem _ h)
  rw [getLabelsForVpcLoadbalancer, get_mergeAbsent, if_pos hhas,
    get_of_mem (unique_canonicalLabels lb svc) h]

/-- A target group is matched by its Service's selector, whatever its port entries. -/
theorem matchLabels_getLabelsForVpcLoadbalancerTargetGroup (lb : Loadbalancer)
    (svc : Service) (port : Nat) (protocol : String) :
    matchLabels (getLabelsForVpcLoadbalancer lb svc)
      (getLabelsForVpcLoadbalancerTargetGroup lb svc port protocol) = true :=
  matchLabels_self_mergeAbsent (unique_getLabelsForVpcLoadbalancer lb svc) _

/-- The canonical entries are entries of the full label set (the merge only appends). -/
theorem canonicalLabels_subset (lb : Loadbalancer) (svc : Service) :
    canonicalLabels lb svc ⊆ getLabelsForVpcLoadbalancer lb svc :=
  fun _ h => mem_mergeAbsent_of_mem h _

/-- Whatever a Service's selector matches carries its canonical entries, the UID among
    them: a selector never matches an object of a Service with another UID. -/
theorem matchLabels_canonical_of_matchLabels {lb : Loadbalancer} {svc : Service}
    {labels : StrMap} (h : matchLabels (getLabelsForVpcLoadbalancer lb svc) labels = true) :
    matchLabels (canonicalLabels lb svc) labels = true :=
  matchLabels_mono (canonicalLabels_subset lb svc) h

theorem get_uid_of_matchLabels_canonicalLabels {lb : Loadbalancer} {svc : Service}
    {labels : StrMap} (h : matchLabels (canonicalLabels lb svc) labels = true) :
    labels.get labelKubernetesServiceUID = svc.uid :=
  (matchLabels_iff _ _).mp h (labelKubernetesServiceUID, svc.uid) (by simp [canonicalLabels])

theorem get_uid_of_matchLabels {lb : Loadbalancer} {svc : Service} {labels : StrMap}
    (h : matchLabels (getLabelsForVpcLoadbalancer lb svc) labels = true) :
    labels.get labelKubernetesServiceUID = svc.uid :=
  get_uid_of_matchLabels_canonicalLabels (matchLabels_canonical_of_matchLabels h)

/-- The Service's own label set carries its UID. -/
theorem get_uid_getLabelsForVpcLoadbalancer (lb : Loadbalancer) (svc : Service) :
    (getLabelsForVpcLoadbalancer lb svc).get labelKubernetesServiceUID = svc.uid :=
  get_getLabelsForVpcLoadbalancer_canonical lb svc
    (show (labelKubernetesServiceUID, svc.uid) ∈ canonicalLabels lb svc by simp [canonicalLabels])

/-! ## 3. Names -/

/-- `cloudprovider.DefaultLoadBalancerName`, on the only field of the Service it reads:
    `"a"` and the UID without dashes, cut to 32 bytes (UIDs are ASCII, so bytes are
    characters). -/
def defaultLoadBalancerName (uid : String) : String :=
  ⟨((('a' :: uid.data).filter (· ≠ '-')).take 32)⟩

/-- `GetLoadBalancerName`. -/
def getLoadBalancerName (svc : Service) : String := defaultLoadBalancerName svc.uid

/-- The name reads only the UID. -/
theorem getLoadBalancerName_congr {svc svc' : Service} (h : svc.uid = svc'.uid) :
    getLoadBalancerName svc = getLoadBalancerName svc' := by
  simp only [getLoadBalancerName, h]

/-- Two Services get one name exactly when their UIDs, without dashes, agree on the first
    31 characters: the name drops whatever follows. -/
theorem getLoadBalancerName_eq_iff (svc svc' : Service) :
    getLoadBalancerName svc = getLoadBalancerName svc' ↔
      (svc.uid.data.filter (· ≠ '-')).take 31 = (svc'.uid.data.filter (· ≠ '-')).take 31 := by
  simp [getLoadBalancerName, defaultLoadBalancerName, List.filter_cons, String.ext_iff]

/-- `getPortName` (`loadbalancer.go`): the listener and target-group name of a port. -/
def getPortName (lbName : String) (port : ServicePort) : String :=
  if port.name ≠ "" then lbName ++ "-" ++ port.name
  else lbName ++ "-" ++ Go.toLower port.protocol.toString ++ "-p" ++ toString port.port

end ThalassaCcm
