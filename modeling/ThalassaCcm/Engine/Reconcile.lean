import ThalassaCcm.Engine.TargetGroups
import ThalassaCcm.Engine.Listeners
import ThalassaCcm.Kube.Endpoints

/-!
# The four entry points (`loadbalancer.go`)

`EnsureLoadBalancer`, `UpdateLoadBalancer`, `EnsureLoadBalancerDeleted` and
`GetLoadBalancer`, and the reconcile step they share,
`updateVpcLoadbalancerListenersAndTargetGroups`: target groups, then listeners, then
the cleanup of unused groups, then the load balancer's own security groups and subnet.

The load balancer a reconcile works on is the value it fetched or created at its start;
every later step reads that value, never a fresh one. `EnsureLoadBalancer` waits for a
load balancer it created to be ready and dereferences the poll's fetch without a nil
check, which is a panic here. `EnsureLoadBalancerDeleted` does all its work under the
condition that the lookup found a load balancer.
-/

set_option autoImplicit false

namespace ThalassaCcm
namespace Engine

open Cloud Prog

/-- `corev1.LoadBalancerIngress`: an address and the hostname (the mode is always
    `Proxy`). -/
structure LoadBalancerIngress where
  ip : String
  hostname : String
  deriving DecidableEq, Repr

/-- The status every entry point builds: one entry per non-empty external address. -/
def ingressOf (x : VpcLoadbalancer) : List LoadBalancerIngress :=
  (x.externalIpAddresses.filter (· ≠ "")).map fun ip => ⟨ip, x.hostname⟩

/-- The ready test of `EnsureLoadBalancer`'s poll. -/
def isReady (x : VpcLoadbalancer) : Bool := x.status = "ready" ∧ x.externalIpAddresses ≠ []

/-! ## 1. The reconcile step -/

/-- The security groups `updateVpcLoadbalancer` wants attached, given the managed group
    it ensured (if asked to). -/
def desiredSecurityGroups (svc : Service) (managed : Option SecurityGroup) : List String :=
  getSecurityGroupsForService svc ++ (managed.map (·.identity)).toList

/-- `updateVpcLoadbalancer`: reconcile the managed group when asked, then update the load
    balancer, keeping its name, description and labels, when its attached groups or its
    subnet differ from the wanted ones. The managed group is never deleted here. -/
def updateVpcLoadbalancer (lb : Loadbalancer) (svc : Service) (vpcLoadbalancer : VpcLoadbalancer)
    (desiredListeners : List VpcLoadbalancerListener) : Prog Unit := do
  wrap "failed to verify security groups: "
    (verifySecurityGroupsExist lb (getSecurityGroupsForService svc))
  let current := vpcLoadbalancer.securityGroups
  let managed ←
    if shouldCreateSecurityGroup svc then do
      let sg ← wrap "failed to ensure managed security group: "
        (ensureManagedSecurityGroup lb svc desiredListeners)
      pure (some sg)
    else pure none
  let desired := desiredSecurityGroups svc managed
  let preferred :=
    if getSubnetIdentityForService lb svc = "" then vpcLoadbalancer.subnet
    else getSubnetIdentityForService lb svc
  if desired ≠ current ∨ desired.length ≠ current.length ∨ vpcLoadbalancer.subnet ≠ preferred then
    let _ ← wrap "failed to update loadbalancer: " (api (.updateLoadbalancer vpcLoadbalancer.identity
      { name := vpcLoadbalancer.name, description := vpcLoadbalancer.description
        labels := vpcLoadbalancer.labels, subnet := preferred
        securityGroupAttachments := desired }))

/-- `updateVpcLoadbalancerListenersAndTargetGroups`, for the non-nil load balancer every
    caller passes. -/
def updateVpcLoadbalancerListenersAndTargetGroups (lb : Loadbalancer) (svc : Service)
    (nodes : List Node) (vpcLoadbalancer : VpcLoadbalancer) : Prog (List LoadBalancerIngress) := do
  let desiredListeners := desiredVpcLoadbalancerListener lb svc
  let desiredTgs ←
    match getDesiredVpcLoadbalancerTargetGroups lb svc with
    | .ok tgs => pure tgs
    | .error e => throw ("failed to create loadbalancer backends: " ++ e)
  let tgs ← wrap "failed to create or update target groups: "
    (createOrUpdateTargetGroups lb svc desiredTgs nodes)
  wrap "failed to update loadbalancer listener: "
    (updateVpcLoadbalancerListener lb svc vpcLoadbalancer desiredListeners tgs)
  wrap "failed to cleanup unused target groups: " (cleanupUnusedTargetGroups lb svc tgs)
  wrap "failed to update loadbalancer: "
    (updateVpcLoadbalancer lb svc vpcLoadbalancer desiredListeners)
  pure (ingressOf vpcLoadbalancer)

/-! ## 2. Entry points -/

/-- The condition of `EnsureLoadBalancer`'s ready-poll: the created value if already
    ready, else a fresh fetch, dereferenced without a nil check. -/
def readyCondition (lb : Loadbalancer) (svc : Service) (created : VpcLoadbalancer) :
    Prog (Option VpcLoadbalancer) :=
  if isReady created then pure (some created)
  else do
    match ← fetchVpcLoadbalancerFromCloud lb svc with
    | none => .fail (.panic "runtime error: invalid memory address or nil pointer dereference")
    | some vpcLB => pure (if isReady vpcLB then some vpcLB else none)

/-- `EnsureLoadBalancer`. -/
def ensureLoadBalancer (lb : Loadbalancer) (slices : List EndpointSlice) (svc : Service)
    (nodes : List Node) : Prog (List LoadBalancerIngress) := do
  let found ← fetchVpcLoadbalancerFromCloud lb svc
  let nodes := nodeFilter slices svc nodes
  match found with
  | some vpcLoadbalancer => updateVpcLoadbalancerListenersAndTargetGroups lb svc nodes vpcLoadbalancer
  | none =>
    let created ← createVpcLoadbalancer lb (getLoadBalancerName svc) svc
    let _ ← updateVpcLoadbalancerListenersAndTargetGroups lb svc nodes created
    let ready ← pollUntilContextTimeout (readyCondition lb svc created) (pollTicks lb)
    pure (ingressOf ready)

/-- `UpdateLoadBalancer`. -/
def updateLoadBalancer (lb : Loadbalancer) (slices : List EndpointSlice) (svc : Service)
    (nodes : List Node) : Prog Unit := do
  match ← wrap "failed to get LoadBalancer service: " (fetchVpcLoadbalancerFromCloud lb svc) with
  | none => throw ("LoadBalancer not found in Cloud API for service " ++ svc.name)
  | some lbService =>
    let _ ← wrap "failed to update loadbalancer listeners and target groups: "
      (updateVpcLoadbalancerListenersAndTargetGroups lb svc (nodeFilter slices svc nodes) lbService)

/-- The condition of `EnsureLoadBalancerDeleted`'s wait: done when the lookup finds
    nothing; a lookup error counts as not yet. -/
def deletedCondition (lb : Loadbalancer) (svc : Service) : Prog (Option Unit) := do
  match ← (fetchVpcLoadbalancerFromCloud lb svc).result with
  | .ok none => pure (some ())
  | _ => pure none

/-- The last loop of `EnsureLoadBalancerDeleted`: delete every listed group without
    listeners. -/
def deleteTargetGroupsWithoutListeners : List VpcLoadbalancerTargetGroup → Prog Unit
  | [] => pure ()
  | tg :: rest => do
    if tg.loadbalancerListeners = [] then api (.deleteTargetGroup tg.identity)
    deleteTargetGroupsWithoutListeners rest

/-- `EnsureLoadBalancerDeleted`. -/
def ensureLoadBalancerDeleted (lb : Loadbalancer) (svc : Service) : Prog Unit := do
  match ← fetchVpcLoadbalancerFromCloud lb svc with
  | none => pure ()
  | some vpcLoadbalancer =>
    cleanupUnusedTargetGroups lb svc []
    api (.deleteLoadbalancer vpcLoadbalancer.identity)
    pollUntilContextTimeout (deletedCondition lb svc) (pollTicks lb)
    let targetGroups ← api (.listTargetGroups (getLabelsForVpcLoadbalancer lb svc))
    deleteTargetGroupsWithoutListeners targetGroups
    deleteManagedSecurityGroup lb svc

/-- `GetLoadBalancer`: the status and whether the load balancer exists. -/
def getLoadBalancer (lb : Loadbalancer) (svc : Service) :
    Prog (Option (List LoadBalancerIngress)) := do
  let found ← fetchVpcLoadbalancerFromCloud lb svc
  pure (found.map ingressOf)

end Engine
end ThalassaCcm
