import ThalassaCcm.Proof.Calls

/-!
# What the listener step writes

`updateVpcLoadbalancerListener` matches listeners to a Service's ports twice over, and
neither match looks at the whole of a port's identity:

* **Existing listeners are indexed by port number.** The listed listener on port `p` is
  rewritten from the *last* desired listener on `p` (`desiredListenersPortMap[p]`),
  whatever the protocols (`calls_updateOrDeleteListeners`). A Service with `TCP/53` and
  `UDP/53` gets two listeners on its first reconcile, and on its second both become
  `udp` listeners on the UDP group.
* **A listener finds its target group by labels**, the port and protocol entries of
  `GetLabelsForVpcLoadbalancerTargetGroup`. Those entries are merged without overriding,
  so an operator label on the port key shadows them: every listener with one protocol
  then resolves to the same, first-listed, group
  (`getTargetGroupIdentityForListener_port_shadowed`).

Each bullet ends with a run of the reconcile on an input that shows it.
-/

set_option autoImplicit false

namespace ThalassaCcm
namespace Engine

open Cloud Prog StrMap

/-! ## 1. Resolution of a listener's target group -/

theorem has_canonicalLabels_port (lb : Loadbalancer) (svc : Service) :
    (canonicalLabels lb svc).has labelKubernetesServicePort = false := rfl

/-- The port entry of a target group's labels is the operator's, when the operator sets
    one, and the port otherwise. -/
theorem get_port_getLabelsForVpcLoadbalancerTargetGroup (lb : Loadbalancer) (svc : Service)
    (port : Nat) (protocol : String) :
    (getLabelsForVpcLoadbalancerTargetGroup lb svc port protocol).get labelKubernetesServicePort =
      if lb.additionalLabels.has labelKubernetesServicePort then
        lb.additionalLabels.get labelKubernetesServicePort
      else toString port := by
  rw [getLabelsForVpcLoadbalancerTargetGroup, get_mergeAbsent, getLabelsForVpcLoadbalancer,
    has_mergeAbsent, get_mergeAbsent, has_canonicalLabels_port, Bool.false_or]
  split <;> rfl

/-- When the operator's labels set the port key, a target group's labels do not depend
    on its port. -/
theorem getLabelsForVpcLoadbalancerTargetGroup_port_shadowed {lb : Loadbalancer}
    (h : lb.additionalLabels.has labelKubernetesServicePort = true) (svc : Service)
    (port port' : Nat) (protocol : String) :
    getLabelsForVpcLoadbalancerTargetGroup lb svc port protocol =
      getLabelsForVpcLoadbalancerTargetGroup lb svc port' protocol := by
  have hhas : (getLabelsForVpcLoadbalancer lb svc).has labelKubernetesServicePort = true := by
    rw [getLabelsForVpcLoadbalancer, has_mergeAbsent, h, Bool.or_true]
  simp only [getLabelsForVpcLoadbalancerTargetGroup, mergeAbsent, List.foldl_cons,
    List.foldl_nil, insertIfAbsent, hhas, if_true]

/-- ... so every listener with one protocol resolves to the same target group. -/
theorem getTargetGroupIdentityForListener_port_shadowed {lb : Loadbalancer}
    (h : lb.additionalLabels.has labelKubernetesServicePort = true) (svc : Service)
    {l l' : VpcLoadbalancerListener} (hproto : l.protocol = l'.protocol)
    (tgs : List VpcLoadbalancerTargetGroup) :
    getTargetGroupIdentityForListener lb svc l tgs =
      getTargetGroupIdentityForListener lb svc l' tgs := by
  simp only [getTargetGroupIdentityForListener, hproto,
    getLabelsForVpcLoadbalancerTargetGroup_port_shadowed h svc l.port l'.port]

/-- The controller's configuration with the given operator labels. -/
def configWithLabels (additionalLabels : StrMap) : Loadbalancer where
  config := ⟨none, none⟩
  additionalLabels := additionalLabels
  vpcIdentity := "vpc-1"
  defaultSubnet := ""
  cluster := "prod"
  parseCIDR := fun _ => none

/-- A Service with an HTTP and an HTTPS port. -/
def webService : Service where
  name := "web"
  ns := "default"
  uid := "6f1c2d3e-4a5b-4c6d-8e7f-9a0b1c2d3e4f"
  annotations := []
  serviceType := .LoadBalancer
  ports := [⟨"http", .TCP, 80, 30080⟩, ⟨"https", .TCP, 443, 30443⟩]
  externalTrafficPolicy := .Cluster
  healthCheckNodePort := 0

/-- The Service's load balancer, provisioned, as `EnsureLoadBalancer` created it. -/
def provisionedLoadbalancer (lb : Loadbalancer) (svc : Service) : VpcLoadbalancer where
  identity := freshId 0
  name := getLoadBalancerName svc
  description := "Loadbalancer for Kubernetes service " ++ svc.name
  labels := getLabelsForVpcLoadbalancer lb svc
  subnet := "subnet-1"
  internalLoadbalancer := false
  securityGroups := []
  status := "ready"
  externalIpAddresses := ["192.0.2.10"]
  hostname := ""

/-- A VPC holding only that load balancer. -/
def vpcWith (x : VpcLoadbalancer) : State := ⟨[⟨"subnet-1", "main"⟩], [x], [], [], [], 1⟩

/-- Each listener's port and protocol, with the protocol and target port of the group it
    forwards to. -/
def listenerTargets (s : State) : List (Nat × String × Option (String × Nat)) :=
  s.listeners.map fun l => (l.listener.port, l.listener.protocol,
    (s.targetGroups.find? (·.identity = l.listener.targetGroup.identity)).map
      fun tg => (tg.protocol, tg.targetPort))

/-- The configuration with an operator label on the port key. -/
def portLabelConfig : Loadbalancer := configWithLabels [(labelKubernetesServicePort, "1")]

/-- With an operator label on the port key, every listener of one protocol resolves to the
    same target group; on the web Service the reconcile succeeds and the HTTPS listener
    forwards to the HTTP port's node port. -/
theorem updateVpcLoadbalancerListenersAndTargetGroups_port_label :
    (∀ lb : Loadbalancer, lb.additionalLabels.has labelKubernetesServicePort = true →
      ∀ (svc : Service) (l l' : VpcLoadbalancerListener), l.protocol = l'.protocol →
        ∀ tgs, getTargetGroupIdentityForListener lb svc l tgs =
          getTargetGroupIdentityForListener lb svc l' tgs) ∧
    (exec (updateVpcLoadbalancerListenersAndTargetGroups portLabelConfig webService []
      (provisionedLoadbalancer portLabelConfig webService)) []
      (vpcWith (provisionedLoadbalancer portLabelConfig webService))).value.isOk ∧
    listenerTargets (exec (updateVpcLoadbalancerListenersAndTargetGroups portLabelConfig
      webService [] (provisionedLoadbalancer portLabelConfig webService)) []
      (vpcWith (provisionedLoadbalancer portLabelConfig webService))).state =
      [(80, "tcp", some ("tcp", 30080)), (443, "tcp", some ("tcp", 30080))] :=
  ⟨fun _ h svc _ _ hp tgs => getTargetGroupIdentityForListener_port_shadowed h svc hp tgs,
    by decide⟩

/-! ## 2. Existing listeners, by port number -/

/-- A DNS Service: port 53 over TCP and over UDP. -/
def dnsService : Service where
  name := "dns"
  ns := "kube-system"
  uid := "0b9e8d7c-6f5a-4b3c-9d2e-1f0a9b8c7d6e"
  annotations := []
  serviceType := .LoadBalancer
  ports := [⟨"dns-tcp", .TCP, 53, 30053⟩, ⟨"dns-udp", .UDP, 53, 30054⟩]
  externalTrafficPolicy := .Cluster
  healthCheckNodePort := 0

/-- The state after a first `UpdateLoadBalancer` of the DNS Service. -/
def dnsReconciled : State :=
  (exec (updateLoadBalancer (configWithLabels []) [] dnsService []) []
    (vpcWith (provisionedLoadbalancer (configWithLabels []) dnsService))).state

/-- The first reconcile of the DNS Service makes one listener per port and protocol; a
    second, with nothing changed, succeeds and leaves two UDP listeners. -/
theorem updateLoadBalancer_dns_second_run :
    (exec (updateLoadBalancer (configWithLabels []) [] dnsService []) []
      (vpcWith (provisionedLoadbalancer (configWithLabels []) dnsService))).value.isOk ∧
    listenerTargets dnsReconciled =
      [(53, "tcp", some ("tcp", 30053)), (53, "udp", some ("udp", 30054))] ∧
    (exec (updateLoadBalancer (configWithLabels []) [] dnsService []) [] dnsReconciled).value.isOk ∧
    listenerTargets (exec (updateLoadBalancer (configWithLabels []) [] dnsService []) []
      dnsReconciled).state =
      [(53, "udp", some ("udp", 30054)), (53, "udp", some ("udp", 30054))] := by
  decide

end Engine
end ThalassaCcm
