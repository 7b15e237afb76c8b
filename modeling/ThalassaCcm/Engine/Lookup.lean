import ThalassaCcm.Cloud.Prog
import ThalassaCcm.Desired.Listeners
import ThalassaCcm.Desired.SecurityGroup

/-!
# Finding and creating a Service's load balancer (`loadbalancer.go`)

`fetchVpcLoadbalancerFromCloud` lists the VPC's load balancers and returns the first
whose labels the Service's selector matches, or else the first named
`GetLoadBalancerName(service)`. `createVpcLoadbalancer` picks a subnet (the annotated
or default one, by identity or slug, or the VPC's first), checks the user's security
groups, creates or updates the managed group when asked, and creates the load balancer
with the Service's labels. The managed group's helpers live here too, as does the
poll loop that both the ready-wait and the delete-wait use.
-/

set_option autoImplicit false

namespace ThalassaCcm
namespace Engine

open Cloud Prog StrMap

/-! ## 1. Lookup -/

/-- The choice `fetchVpcLoadbalancerFromCloud` makes among the listed load balancers. -/
def findVpcLoadbalancer (lb : Loadbalancer) (svc : Service) (lbs : List VpcLoadbalancer) :
    Option VpcLoadbalancer :=
  if lbs = [] then none
  else
    match lbs.find? (fun x => matchLabels (getLabelsForVpcLoadbalancer lb svc) x.labels) with
    | some x => some x
    | none => lbs.find? (·.name = getLoadBalancerName svc)

/-- `fetchVpcLoadbalancerFromCloud`. -/
def fetchVpcLoadbalancerFromCloud (lb : Loadbalancer) (svc : Service) :
    Prog (Option VpcLoadbalancer) := do
  let lbs ← api .listLoadbalancers
  pure (findVpcLoadbalancer lb svc lbs)

/-- `getSubnetIdentityForService`: the annotated subnet, or the configured default. -/
def getSubnetIdentityForService (lb : Loadbalancer) (svc : Service) : String :=
  match svc.annotations.find? loadBalancerAnnotationSubnetID with
  | some val => if val ≠ "" then val else lb.defaultSubnet
  | none => lb.defaultSubnet

/-- The internal flag `createVpcLoadbalancer` reads: the annotation by
    `strconv.ParseBool`, `false` when absent or unparseable. -/
def internalLoadbalancerOf (svc : Service) : Bool :=
  match svc.annotations.find? loadbalancerAnnotationInternal with
  | some val => Go.parseBoolValue val
  | none => false

/-! ## 2. Security groups -/

/-- `verifySecurityGroupsExist`. -/
def verifySecurityGroupsExist (lb : Loadbalancer) (securityGroups : List String) : Prog Unit :=
  if securityGroups = [] then pure ()
  else do
    let inVpc ← wrap "failed to list security groups in vpc: " (api (.listSecurityGroups none))
    match securityGroups.find? (fun sg => ¬ inVpc.any (·.identity = sg)) with
    | some sg => throw ("security group " ++ sg ++ " does not exist in vpc " ++ lb.vpcIdentity)
    | none => pure ()

/-- `findManagedSecurityGroup`: the first group the Service's selector matches. -/
def findManagedSecurityGroup (lb : Loadbalancer) (svc : Service) :
    Prog (Option SecurityGroup) := do
  let labels := getLabelsForVpcLoadbalancer lb svc
  let sgs ← wrap "failed to list security groups in vpc: "
    (api (.listSecurityGroups (some labels)))
  pure (sgs.find? (fun sg => matchLabels labels sg.labels))

/-- `ensureManagedSecurityGroup`: create the group, or rewrite the rules of the one
    found, keeping its name and description. -/
def ensureManagedSecurityGroup (lb : Loadbalancer) (svc : Service)
    (desiredListeners : List VpcLoadbalancerListener) : Prog SecurityGroup := do
  let sg ← wrap "failed to find managed security group: " (findManagedSecurityGroup lb svc)
  let labels := getLabelsForVpcLoadbalancer lb svc
  let ingress := buildIngressRulesFromListeners lb desiredListeners
  match sg with
  | none =>
    wrap "failed to create managed security group: " (api (.createSecurityGroup
      { name := generateSecurityGroupName svc.name
        description := "Security group for Kubernetes service " ++ svc.name
        labels := labels, allowSameGroupTraffic := true
        ingressRules := ingress, egressRules := managedEgressRules }))
  | some sg =>
    wrap "failed to update managed security group: " (api (.updateSecurityGroup sg.identity
      { name := sg.name, description := sg.description
        labels := labels, allowSameGroupTraffic := true
        ingressRules := ingress, egressRules := managedEgressRules }))

/-- `deleteManagedSecurityGroup`: best effort; every error is only logged. -/
def deleteManagedSecurityGroup (lb : Loadbalancer) (svc : Service) : Prog Unit := do
  match ← (findManagedSecurityGroup lb svc).result with
  | .ok (some sg) =>
    let _ ← attempt (.deleteSecurityGroup sg.identity)
    pure ()
  | _ => pure ()

/-! ## 3. Creation -/

/-- The subnet `createVpcLoadbalancer` deploys to, among the VPC's. -/
def selectSubnet (requested : String) (subnets : List Subnet) : Option Subnet :=
  if requested ≠ "" then subnets.find? fun sn => sn.identity = requested ∨ sn.slug = requested
  else subnets.head?

/-- The request `createVpcLoadbalancer` builds before it calls `CreateLoadbalancer`: the
    subnet (the VPC must have one), the checked user groups, and the managed group when
    the Service asks for one. Every error of these steps ends `createVpcLoadbalancer`. -/
def createVpcLoadbalancerRequest (lb : Loadbalancer) (lbName : String) (svc : Service) :
    Prog CreateLoadbalancer := do
  let vpc ← wrap "failed to get vpc: " (api .getVpc)
  if vpc.subnets = [] then throw ("vpc " ++ lb.vpcIdentity ++ " has no subnets")
  match selectSubnet (getSubnetIdentityForService lb svc) vpc.subnets with
  | none => throw ("no subnet found for deploying loadbalancer for service " ++ svc.name)
  | some vpcSubnet =>
    let securityGroups := getSecurityGroupsForService svc
    wrap "failed to verify security groups: " (verifySecurityGroupsExist lb securityGroups)
    let securityGroups ←
      if shouldCreateSecurityGroup svc then do
        let sg ← ensureManagedSecurityGroup lb svc (desiredVpcLoadbalancerListener lb svc)
        pure (securityGroups ++ [sg.identity])
      else pure securityGroups
    pure { name := lbName
           description := "Loadbalancer for Kubernetes service " ++ svc.name
           labels := getLabelsForVpcLoadbalancer lb svc
           subnet := vpcSubnet.identity
           internalLoadbalancer := internalLoadbalancerOf svc
           securityGroupAttachments := securityGroups }

/-- `createVpcLoadbalancer`. -/
def createVpcLoadbalancer (lb : Loadbalancer) (lbName : String) (svc : Service) :
    Prog VpcLoadbalancer := do
  let req ← createVpcLoadbalancerRequest lb lbName svc
  api (.createLoadbalancer req)

/-! ## 4. Polling -/

/-- `wait.PollUntilContextTimeout(ctx, interval, timeout, true, condition)`, with the
    condition's result carried out (the Go closures assign it to a captured variable).
    The condition runs once at once and once per interval tick; `ticks` is how many
    ticks fit in the timeout. An error of the condition ends the poll with that error. -/
def pollUntilContextTimeout {β : Type} (condition : Prog (Option β)) : Nat → Prog β
  | 0 => do
    match ← condition with
    | some b => pure b
    | none => throw "context deadline exceeded"
  | n + 1 => do
    match ← condition with
    | some b => pure b
    | none => pollUntilContextTimeout condition n

/-- `time.Second`, in nanoseconds. -/
def second : Int := 1000000000

def defaultLoadBalancerCreatePollInterval : Int := 5 * second
def defaultLoadBalancerCreatePollTimeout : Int := 300 * second

/-- A Go `int64` product, wrapped to 64 bits. -/
def wrapInt64 (x : Int) : Int := (x + 9223372036854775808) % 18446744073709551616 - 9223372036854775808

/-- A product that fits in an `int64` is not wrapped. -/
theorem wrapInt64_of_range {x : Int} (h0 : -9223372036854775808 ≤ x)
    (h : x < 9223372036854775808) : wrapInt64 x = x := by
  rw [wrapInt64, Int.emod_eq_of_lt (by omega) (by omega)]
  omega

/-- `convertLoadBalancerCreatePollConfig`: the configured seconds as a duration, or the
    default when unset, not positive, or not positive after the multiplication. -/
def convertLoadBalancerCreatePollConfig (configValue : Option Int) (defaultValue : Int) : Int :=
  match configValue with
  | none => defaultValue
  | some v =>
    if v ≤ 0 then defaultValue
    else
      let duration := wrapInt64 (v * second)
      if duration ≤ 0 then defaultValue else duration

def getLoadBalancerCreatePollInterval (lb : Loadbalancer) : Int :=
  convertLoadBalancerCreatePollConfig lb.config.creationPollInterval
    defaultLoadBalancerCreatePollInterval

def getLoadBalancerCreatePollTimeout (lb : Loadbalancer) : Int :=
  convertLoadBalancerCreatePollConfig lb.config.creationPollTimeout
    defaultLoadBalancerCreatePollTimeout

/-- The interval ticks that fit in the timeout. -/
def pollTicks (lb : Loadbalancer) : Nat :=
  (getLoadBalancerCreatePollTimeout lb / getLoadBalancerCreatePollInterval lb).toNat

end Engine
end ThalassaCcm
