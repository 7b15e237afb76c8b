import ThalassaCcm.Cloud.Objects

/-!
# The cloud, as the controller's API calls see it

The controller reaches the cloud only through the calls of `Call`. The state is the
controller's tenant VPC: its subnets and the load balancers, listeners, target groups
and security groups in it. `State.perform` is the honest cloud: every call does what
its name says and answers from the state, and a call on an identity the cloud does not
have answers `not found`. It checks no references: a listener may name a target group
that does not exist, and a target group may be deleted while listeners name it, so that
whether the controller keeps listeners pointing at target groups is a question about
the controller.

Two kinds of nondeterminism are outside `perform` and are supplied by a run (`Cloud/Prog.lean`):
the cloud's own progress (`EnvEvent`: provisioning moves a load balancer to a status
with addresses) and failures (`Fault`: a call fails before or after taking effect).

Identities come from `freshId`, which is injective; any injective generator would do.
-/

set_option autoImplicit false

namespace ThalassaCcm
namespace Cloud

open StrMap

/-- A listener with the identity of the load balancer it belongs to. -/
structure LbListener where
  loadbalancer : String
  listener : VpcLoadbalancerListener
  deriving DecidableEq, Repr

/-- The controller's VPC. -/
structure State where
  subnets : List Subnet
  loadbalancers : List VpcLoadbalancer
  listeners : List LbListener
  targetGroups : List VpcLoadbalancerTargetGroup
  securityGroups : List SecurityGroup
  nextId : Nat
  deriving DecidableEq, Repr

/-- The calls the controller makes (`iaasClient.*`). Listings are filtered by the VPC,
    which is the whole state here; target groups and security groups are also filtered by
    a label selector (`none`: no label filter). -/
inductive Call where
  | listLoadbalancers
  | getVpc
  | createLoadbalancer (req : CreateLoadbalancer)
  | updateLoadbalancer (identity : String) (req : UpdateLoadbalancer)
  | deleteLoadbalancer (identity : String)
  | listListeners (loadbalancer : String)
  | createListener (loadbalancer : String) (req : ListenerRequest)
  | updateListener (loadbalancer identity : String) (req : ListenerRequest)
  | deleteListener (loadbalancer identity : String)
  | listTargetGroups (selector : StrMap)
  | createTargetGroup (req : TargetGroupRequest)
  | updateTargetGroup (identity : String) (req : TargetGroupRequest)
  | deleteTargetGroup (identity : String)
  | setTargetGroupServerAttachments (identity : String) (servers : List String)
  | listSecurityGroups (selector : Option StrMap)
  | createSecurityGroup (req : SecurityGroupRequest)
  | updateSecurityGroup (identity : String) (req : SecurityGroupRequest)
  | deleteSecurityGroup (identity : String)
  deriving DecidableEq, Repr

/-- What a successful call returns. -/
def Resp : Call → Type
  | .listLoadbalancers => List VpcLoadbalancer
  | .getVpc => Vpc
  | .createLoadbalancer _ => VpcLoadbalancer
  | .updateLoadbalancer _ _ => VpcLoadbalancer
  | .deleteLoadbalancer _ => Unit
  | .listListeners _ => List VpcLoadbalancerListener
  | .createListener _ _ => VpcLoadbalancerListener
  | .updateListener _ _ _ => VpcLoadbalancerListener
  | .deleteListener _ _ => Unit
  | .listTargetGroups _ => List VpcLoadbalancerTargetGroup
  | .createTargetGroup _ => Option VpcLoadbalancerTargetGroup
  | .updateTargetGroup _ _ => Option VpcLoadbalancerTargetGroup
  | .deleteTargetGroup _ => Unit
  | .setTargetGroupServerAttachments _ _ => Unit
  | .listSecurityGroups _ => List SecurityGroup
  | .createSecurityGroup _ => SecurityGroup
  | .updateSecurityGroup _ _ => SecurityGroup
  | .deleteSecurityGroup _ => Unit

/-- The cloud's answer for an identity it does not have. -/
def notFound : String := "not found"

/-- The `n`-th identity the cloud hands out. -/
def freshId (n : Nat) : String := ⟨'i' :: List.replicate n 'd'⟩

theorem freshId_injective : Function.Injective freshId := by
  intro a b h
  have := congrArg (fun s : String => s.data.length) h
  simpa [freshId] using this

namespace State

/-- The empty VPC, with its subnets. -/
def empty (subnets : List Subnet) : State :=
  ⟨subnets, [], [], [], [], 0⟩

/-- A listener as `ListListeners` returns it: its target-group reference carries the
    group's current name (`""` for a group the cloud no longer has). -/
def listenerView (s : State) (l : VpcLoadbalancerListener) : VpcLoadbalancerListener :=
  { l with targetGroup := ⟨l.targetGroup.identity,
      match s.targetGroups.find? (·.identity = l.targetGroup.identity) with
      | some tg => tg.name
      | none => ""⟩ }

/-- The listeners that name a target group, as its `LoadbalancerListeners`. -/
def referencingListeners (s : State) (tg : String) : List String :=
  (s.listeners.filter (·.listener.targetGroup.identity = tg)).map (·.listener.identity)

/-- A listener as a request makes it. -/
def listenerOf (identity : String) (req : ListenerRequest) : VpcLoadbalancerListener where
  identity := identity
  name := req.name
  description := req.description
  labels := req.labels
  port := req.port
  protocol := req.protocol
  targetGroup := ⟨req.targetGroup, ""⟩
  allowedSources := req.allowedSources
  connectionIdleTimeout := req.connectionIdleTimeout
  maxConnections := req.maxConnections

/-- A target group as a request makes it, keeping its identity and attachments. -/
def targetGroupOf (identity : String) (attachments : List String) (req : TargetGroupRequest) :
    VpcLoadbalancerTargetGroup where
  identity := identity
  name := req.name
  description := req.description
  protocol := req.protocol
  targetPort := req.targetPort
  labels := req.labels
  healthCheck := req.healthCheck
  enableProxyProtocol := req.enableProxyProtocol
  loadbalancingPolicy := req.loadbalancingPolicy
  attachments := attachments
  loadbalancerListeners := []

/-- A security group as a request makes it. -/
def securityGroupOf (identity : String) (req : SecurityGroupRequest) : SecurityGroup where
  identity := identity
  name := req.name
  description := req.description
  labels := req.labels
  allowSameGroupTraffic := req.allowSameGroupTraffic
  ingressRules := req.ingressRules
  egressRules := req.egressRules

/-- The honest cloud. -/
def perform (s : State) : (c : Call) → State × Except String (Resp c)
  | .listLoadbalancers => (s, .ok s.loadbalancers)
  | .getVpc => (s, .ok ⟨s.subnets⟩)
  | .createLoadbalancer req =>
    let lb : VpcLoadbalancer :=
      { identity := freshId s.nextId, name := req.name, description := req.description,
        labels := req.labels, subnet := req.subnet,
        internalLoadbalancer := req.internalLoadbalancer,
        securityGroups := req.securityGroupAttachments, status := "provisioning",
        externalIpAddresses := [], hostname := "" }
    ({ s with loadbalancers := s.loadbalancers ++ [lb], nextId := s.nextId + 1 }, .ok lb)
  | .updateLoadbalancer id req =>
    let upd (x : VpcLoadbalancer) : VpcLoadbalancer :=
      if x.identity = id then
        { x with name := req.name, description := req.description, labels := req.labels,
                 subnet := req.subnet, securityGroups := req.securityGroupAttachments }
      else x
    match s.loadbalancers.find? (·.identity = id) with
    | none => (s, .error notFound)
    | some x => ({ s with loadbalancers := s.loadbalancers.map upd }, .ok (upd x))
  | .deleteLoadbalancer id =>
    if s.loadbalancers.any (·.identity = id) then
      ({ s with loadbalancers := s.loadbalancers.filter (·.identity ≠ id),
                listeners := s.listeners.filter (·.loadbalancer ≠ id) }, .ok ())
    else (s, .error notFound)
  | .listListeners lbId =>
    (s, .ok ((s.listeners.filter (·.loadbalancer = lbId)).map (s.listenerView ·.listener)))
  | .createListener lbId req =>
    if s.loadbalancers.any (·.identity = lbId) then
      let l := listenerOf (freshId s.nextId) req
      ({ s with listeners := s.listeners ++ [⟨lbId, l⟩], nextId := s.nextId + 1 },
        .ok (s.listenerView l))
    else (s, .error notFound)
  | .updateListener lbId id req =>
    if s.listeners.any (fun r => r.loadbalancer = lbId ∧ r.listener.identity = id) then
      let l := listenerOf id req
      ({ s with listeners := s.listeners.map fun r =>
          if r.loadbalancer = lbId ∧ r.listener.identity = id then ⟨lbId, l⟩ else r },
        .ok (s.listenerView l))
    else (s, .error notFound)
  | .deleteListener lbId id =>
    if s.listeners.any (fun r => r.loadbalancer = lbId ∧ r.listener.identity = id) then
      let other (r : LbListener) : Bool := ¬ (r.loadbalancer = lbId ∧ r.listener.identity = id)
      ({ s with listeners := s.listeners.filter other }, .ok ())
    else (s, .error notFound)
  | .listTargetGroups sel =>
    (s, .ok ((s.targetGroups.filter (matchLabels sel ·.labels)).map fun tg =>
      { tg with loadbalancerListeners := s.referencingListeners tg.identity }))
  | .createTargetGroup req =>
    let tg := targetGroupOf (freshId s.nextId) [] req
    ({ s with targetGroups := s.targetGroups ++ [tg], nextId := s.nextId + 1 }, .ok (some tg))
  | .updateTargetGroup id req =>
    match s.targetGroups.find? (·.identity = id) with
    | none => (s, .error notFound)
    | some tg =>
      ({ s with targetGroups := s.targetGroups.map fun x =>
          if x.identity = id then targetGroupOf id x.attachments req else x },
        .ok (some (targetGroupOf id tg.attachments req)))
  | .deleteTargetGroup id =>
    if s.targetGroups.any (·.identity = id) then
      ({ s with targetGroups := s.targetGroups.filter (·.identity ≠ id) }, .ok ())
    else (s, .error notFound)
  | .setTargetGroupServerAttachments id servers =>
    if s.targetGroups.any (·.identity = id) then
      ({ s with targetGroups := s.targetGroups.map fun x =>
          if x.identity = id then { x with attachments := servers } else x }, .ok ())
    else (s, .error notFound)
  | .listSecurityGroups sel =>
    (s, .ok (match sel with
      | none => s.securityGroups
      | some sel => s.securityGroups.filter (matchLabels sel ·.labels)))
  | .createSecurityGroup req =>
    let sg := securityGroupOf (freshId s.nextId) req
    ({ s with securityGroups := s.securityGroups ++ [sg], nextId := s.nextId + 1 }, .ok sg)
  | .updateSecurityGroup id req =>
    if s.securityGroups.any (·.identity = id) then
      ({ s with securityGroups := s.securityGroups.map fun x =>
          if x.identity = id then securityGroupOf id req else x },
        .ok (securityGroupOf id req))
    else (s, .error notFound)
  | .deleteSecurityGroup id =>
    if s.securityGroups.any (·.identity = id) then
      ({ s with securityGroups := s.securityGroups.filter (·.identity ≠ id) }, .ok ())
    else (s, .error notFound)

end State

/-! ## The environment: the cloud's own progress, and failures -/

/-- What the cloud does on its own between two calls. -/
inductive EnvEvent where
  /-- Provisioning moves a load balancer to a status, with addresses and a hostname. -/
  | provision (identity status : String) (ips : List String) (hostname : String)
  deriving DecidableEq, Repr

def State.applyEnv (s : State) : EnvEvent → State
  | .provision id st ips host =>
    { s with loadbalancers := s.loadbalancers.map fun x =>
        if x.identity = id then { x with status := st, externalIpAddresses := ips, hostname := host }
        else x }

/-- How a call returns. -/
inductive Fault where
  /-- As `perform` says. -/
  | ok
  /-- An error, before the call took effect. -/
  | fail (e : String)
  /-- An error, after the call took effect (a lost response). -/
  | failAfter (e : String)
  deriving DecidableEq, Repr

/-- The call under a fault. -/
def State.respond (s : State) (c : Call) : Fault → State × Except String (Resp c)
  | .ok => s.perform c
  | .fail e => (s, .error e)
  | .failAfter e => ((s.perform c).1, .error e)

end Cloud
end ThalassaCcm
