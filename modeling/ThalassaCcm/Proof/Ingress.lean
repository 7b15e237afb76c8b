import ThalassaCcm.Desired.Listeners
import ThalassaCcm.Desired.SecurityGroup

/-!
# The allowed sources, and what the managed security group admits

A listener's allowed sources are the global ACL followed by the port's own (by name when
the port has one, then by number), each parsed, first occurrences kept
(`desiredVpcLoadbalancerListener_allowedSources`). The statement reads neither the
controller's parser nor its deduplication: the sources are given in the contract's words
(`parseAclSourcesSpec`, `portAclSourcesSpec`), and "first occurrences kept" as each source
once, in the order of its first index.

`buildIngressRulesFromListeners` turns every allowed source of every desired listener
into one rule for the listener's port, and nothing else into a rule. So a client the
listener's ACL admits by a CIDR is admitted by a rule for that CIDR, with the client's
IP version (`buildIngressRulesFromListeners_admits`): the version is read off the
parsed network, and a network contains only addresses of its own version
(`Go.IPNet.isV4_of_contains`). The rule's protocol is UDP for a `udp` listener and TCP
for any other, SCTP included.

A listener with no allowed sources, which its ACL reads as allow-all, contributes no rule
at all: the group built for a Service without the ACL annotations has no ingress rule.

The loop's priority starts at 100 and never advances, so every rule has priority 100
(`buildIngressRulesFromListeners_priorities`), and the port range is the listener's port
narrowed by `int32(·)`, which wraps from `2^31` on.
-/

set_option autoImplicit false

namespace ThalassaCcm

open Cloud

/-! ## 1. The allowed sources -/

/-- The sources an annotation value gives, in the words of the contract: its comma-separated
    pieces, trimmed, that are non-empty and accepted by `net.ParseCIDR`, in order. -/
def parseAclSourcesSpec (lb : Loadbalancer) (text : String) : List String :=
  ((Go.split text ",").map Go.trimSpace).filter fun source =>
    source != "" && (lb.parseCIDR source).isSome

/-- The annotation's text at `key`, as Go reads a map: the empty text when absent. -/
def annotationText (svc : Service) (key : String) : String :=
  (svc.annotations.find? key).getD ""

/-- The sources the contract gives a port before repeats are dropped: the global value, then
    the value keyed by the port's name (for a named port), then the one keyed by its
    number. -/
def portAclSourcesSpec (lb : Loadbalancer) (svc : Service) (p : ServicePort) : List String :=
  parseAclSourcesSpec lb (annotationText svc loadbalancerAnnotationAclAllowedSources) ++
    (if p.name ≠ "" then
      parseAclSourcesSpec lb
        (annotationText svc (loadbalancerAnnotationAclAllowedSourcesPort ++ "-" ++ p.name))
    else []) ++
    parseAclSourcesSpec lb
      (annotationText svc (loadbalancerAnnotationAclAllowedSourcesPort ++ "-" ++ toString p.port))

theorem parseAclSources_eq_spec (lb : Loadbalancer) (sourcesStr : String) :
    parseAclSources lb sourcesStr = parseAclSourcesSpec lb sourcesStr := by
  unfold parseAclSources parseAclSourcesSpec
  induction Go.split sourcesStr "," with
  | nil => rfl
  | cons piece pieces ih =>
    simp only [List.filterMap_cons, List.map_cons, List.filter_cons, ih]
    by_cases h0 : Go.trimSpace piece = ""
    · simp [h0]
    · cases h : lb.parseCIDR (Go.trimSpace piece) <;> simp [h0, h]

/-- An annotation, parsed; absent, it gives nothing, as its empty text does. -/
theorem aclSourcesAt_eq_spec (lb : Loadbalancer) (svc : Service) (key : String) :
    aclSourcesAt lb svc key = parseAclSourcesSpec lb (annotationText svc key) := by
  unfold aclSourcesAt annotationText
  cases svc.annotations.find? key with
  | some val => exact parseAclSources_eq_spec lb val
  | none => rfl

/-- The listener for a port allows its sources with repeats dropped: the per-port list,
    deduplicated on its own first, is deduplicated again behind the global one, and a second
    pass over a tail changes nothing. -/
theorem allowedSources_desiredListenerForPort (lb : Loadbalancer) (svc : Service)
    (connectionTimeout maxConnections : Int) (p : ServicePort) :
    (desiredListenerForPort lb svc (aclSourcesAt lb svc loadbalancerAnnotationAclAllowedSources)
      connectionTimeout maxConnections p).allowedSources =
      removeDuplicateStrings (portAclSourcesSpec lb svc p) := by
  simp only [desiredListenerForPort, getPerPortAclAllowedSources, portAclSourcesSpec,
    removeDuplicateStrings_append_dedup, aclSourcesAt_eq_spec, List.append_assoc]

/-- **The allowed sources of each listener.** For every Service, the listener built for a
    port allows each of the port's sources once, in the order of first occurrence: the
    sources of the global annotation, then of the port's name's (for a named port), then of
    its number's, each value split on commas, trimmed, and kept when non-empty and accepted
    by `net.ParseCIDR`. -/
theorem desiredVpcLoadbalancerListener_allowedSources (lb : Loadbalancer) (svc : Service) :
    List.Forall₂ (fun p (l : VpcLoadbalancerListener) =>
        l.allowedSources.Nodup ∧
        (∀ x, x ∈ l.allowedSources ↔ x ∈ portAclSourcesSpec lb svc p) ∧
        l.allowedSources.Pairwise fun x y =>
          (portAclSourcesSpec lb svc p).indexOf x < (portAclSourcesSpec lb svc p).indexOf y)
      svc.ports (desiredVpcLoadbalancerListener lb svc) := by
  rw [desiredVpcLoadbalancerListener, List.forall₂_map_right_iff]
  refine List.forall₂_same.mpr fun p _ => ?_
  rw [allowedSources_desiredListenerForPort]
  exact ⟨nodup_removeDuplicateStrings _, fun _ => mem_removeDuplicateStrings,
    pairwise_removeDuplicateStringsAux [] _⟩

/-! ## 2. The ingress rules -/

/-- The IP version of a client address: IPv4 exactly when it has a 4-byte form. -/
def ipVersionOf (a : Go.IP) : SecurityGroupIPVersion := if a.isV4 then .IPv4 else .IPv6

/-- The security-group protocol `buildIngressRulesFromListeners` gives a listener
    protocol. -/
def ruleProtocolOf (protocol : String) : SecurityGroupRuleProtocol :=
  if Go.toLower protocol = "udp" then .UDP else .TCP

/-- The rules are exactly one per listener and allowed source, all at priority 100. -/
theorem mem_buildIngressRulesFromListeners {lb : Loadbalancer}
    {listeners : List VpcLoadbalancerListener} {r : SecurityGroupRule} :
    r ∈ buildIngressRulesFromListeners lb listeners ↔
      ∃ l ∈ listeners, ∃ src ∈ l.allowedSources, r = ingressRule lb l 100 src := by
  simp [buildIngressRulesFromListeners, eq_comm]

/-- A network containing a valid client address reads as the client's version. -/
theorem sourceIPVersion_of_contains {lb : Loadbalancer} {src : String} {n : Go.IPNet}
    (hn : lb.parseCIDR src = some n) {a : Go.IP} (ha : a.length = 4 ∨ a.length = 16)
    (hc : n.contains a = true) : sourceIPVersion lb src = ipVersionOf a := by
  have hv := Go.IPNet.isV4_of_contains ha hc
  have hip := Go.IPNet.ip_ne_nil_of_contains ha hc
  unfold sourceIPVersion ipVersionOf
  rw [hn, hv]
  cases h : n.ip.to4 <;> simp [hip, h]

/-- **The managed group admits every client a listener's ACL admits by a CIDR.** For a
    desired listener, an allowed source that parses to a network containing the client
    gives a rule that allows the client's version, the listener's protocol (UDP for
    `udp`, TCP otherwise), the listener's port and that source. -/
theorem buildIngressRulesFromListeners_admits {lb : Loadbalancer} {svc : Service}
    {l : VpcLoadbalancerListener} (hl : l ∈ desiredVpcLoadbalancerListener lb svc)
    (hport : l.port < 2147483648) {src : String} (hsrc : src ∈ l.allowedSources)
    {n : Go.IPNet} (hn : lb.parseCIDR src = some n) {a : Go.IP}
    (ha : a.length = 4 ∨ a.length = 16) (hc : n.contains a = true) :
    ∃ r ∈ buildIngressRulesFromListeners lb (desiredVpcLoadbalancerListener lb svc),
      r.policy = .Allow ∧ r.ipVersion = ipVersionOf a ∧ r.protocol = ruleProtocolOf l.protocol ∧
      r.portRangeMin ≤ l.port ∧ (l.port : Int) ≤ r.portRangeMax ∧ r.remoteAddress = some src := by
  have hrange : Go.toInt32 l.port = l.port := Go.toInt32_of_range (by omega) (by omega)
  refine ⟨ingressRule lb l 100 src, mem_buildIngressRulesFromListeners.mpr ⟨l, hl, src, hsrc, rfl⟩,
    rfl, sourceIPVersion_of_contains hn ha hc, rfl, ?_, ?_, rfl⟩ <;>
    simp only [ingressRule, hrange, le_refl]

/-- The network `10.0.0.0/8`. -/
def tenNet : Go.IPNet := ⟨[10, 0, 0, 0], [255, 0, 0, 0]⟩

/-- A configuration whose CIDR parser knows `10.0.0.0/8`. -/
def tenNetConfig : Loadbalancer where
  config := ⟨none, none⟩
  additionalLabels := []
  vpcIdentity := "vpc-1"
  defaultSubnet := ""
  cluster := "prod"
  parseCIDR := fun src => if src = "10.0.0.0/8" then some tenNet else none

/-- A Service with a managed group and a global ACL of `10.0.0.0/8`. -/
def officeService : Service where
  name := "office"
  ns := "default"
  uid := "2c4e6a8b-0d1f-4a3c-8e5b-7d9f1a3c5e7b"
  annotations := [(loadBalancerAnnotationCreateSecurityGroup, "true"),
    (loadbalancerAnnotationAclAllowedSources, "10.0.0.0/8")]
  serviceType := .LoadBalancer
  ports := [⟨"https", .TCP, 443, 30443⟩]
  externalTrafficPolicy := .Cluster
  healthCheckNodePort := 0

/-- The client `10.1.2.3` reaches the office Service's HTTPS listener through its rule. -/
theorem buildIngressRulesFromListeners_admits_office :
    tenNetConfig.parseCIDR "10.0.0.0/8" = some tenNet ∧ tenNet.contains [10, 1, 2, 3] = true ∧
    ∃ r ∈ buildIngressRulesFromListeners tenNetConfig
        (desiredVpcLoadbalancerListener tenNetConfig officeService),
      r.policy = .Allow ∧ r.ipVersion = ipVersionOf [10, 1, 2, 3] ∧
      r.protocol = ruleProtocolOf "tcp" ∧ r.portRangeMin ≤ (443 : Nat) ∧
      ((443 : Nat) : Int) ≤ r.portRangeMax ∧ r.remoteAddress = some "10.0.0.0/8" :=
  ⟨rfl, by decide, buildIngressRulesFromListeners_admits
    (show (desiredVpcLoadbalancerListener tenNetConfig officeService).head (by decide) ∈
      desiredVpcLoadbalancerListener tenNetConfig officeService from List.head_mem _)
    (by decide) (by decide) (show tenNetConfig.parseCIDR "10.0.0.0/8" = some tenNet from rfl)
    (show [10, 1, 2, 3].length = 4 ∨ _ from .inl rfl) (by decide)⟩

/-- A Service that asks for a managed group and sets no ACL annotation. -/
def managedGroupService : Service where
  name := "shop"
  ns := "default"
  uid := "7d0f9a8b-1c2d-4e3f-a4b5-c6d7e8f90a1b"
  annotations := [(loadBalancerAnnotationCreateSecurityGroup, "true")]
  serviceType := .LoadBalancer
  ports := [⟨"http", .TCP, 80, 30080⟩]
  externalTrafficPolicy := .Cluster
  healthCheckNodePort := 0

/-- A configuration whose CIDR parser accepts everything, as a stand-in for
    `net.ParseCIDR`; the listener below has no source for it to parse. -/
def acceptingConfig : Loadbalancer where
  config := ⟨none, none⟩
  additionalLabels := []
  vpcIdentity := "vpc-1"
  defaultSubnet := ""
  cluster := "prod"
  parseCIDR := fun _ => some ⟨[0, 0, 0, 0], [0, 0, 0, 0]⟩

/-- The Service's only listener allows every client, and the managed group gets no
    ingress rule. -/
theorem buildIngressRulesFromListeners_allow_all :
    shouldCreateSecurityGroup managedGroupService = true ∧
    (desiredVpcLoadbalancerListener acceptingConfig managedGroupService).map
      (·.allowedSources) = [[]] ∧
    buildIngressRulesFromListeners acceptingConfig
      (desiredVpcLoadbalancerListener acceptingConfig managedGroupService) = [] := by
  decide

/-! ## 3. Priorities and port ranges -/

/-- One rule per listener and allowed source, every one at priority 100: the loop never
    advances its priority. -/
theorem buildIngressRulesFromListeners_priorities (lb : Loadbalancer)
    (listeners : List VpcLoadbalancerListener) :
    (buildIngressRulesFromListeners lb listeners).map (·.priority) =
      List.replicate (listeners.flatMap (·.allowedSources)).length 100 := by
  induction listeners with
  | nil => rfl
  | cons l ls ih =>
    simp only [buildIngressRulesFromListeners, List.flatMap_cons, List.map_append,
      List.map_map] at ih ⊢
    rw [ih, List.length_append, List.replicate_add]
    exact congrArg (· ++ _) (List.map_const' _ _)

/-- A Service whose global ACL has two networks. -/
def twoNetService : Service :=
  { managedGroupService with
    annotations := [(loadBalancerAnnotationCreateSecurityGroup, "true"),
      (loadbalancerAnnotationAclAllowedSources, "10.0.0.0/8, 192.0.2.0/24")] }

/-- A TCP listener on port `2^31`, open to `10.0.0.0/8`. -/
def bigPortListener : VpcLoadbalancerListener where
  identity := ""
  name := "big"
  description := ""
  labels := []
  port := 2147483648
  protocol := "tcp"
  targetGroup := ⟨"", "big"⟩
  allowedSources := ["10.0.0.0/8"]
  connectionIdleTimeout := none
  maxConnections := none

/-- Every rule has priority 100, so two sources give two rules of one priority; and a
    listener port of `2^31` gives the port range `[-2^31, -2^31]`. -/
theorem buildIngressRulesFromListeners_flat_priority :
    (∀ (lb : Loadbalancer) (listeners : List VpcLoadbalancerListener),
      (buildIngressRulesFromListeners lb listeners).map (·.priority) =
        List.replicate (listeners.flatMap (·.allowedSources)).length 100) ∧
    (buildIngressRulesFromListeners acceptingConfig
        (desiredVpcLoadbalancerListener acceptingConfig twoNetService)).map
      (fun r => (r.remoteAddress, r.priority)) =
      [(some "10.0.0.0/8", 100), (some "192.0.2.0/24", 100)] ∧
    (buildIngressRulesFromListeners acceptingConfig [bigPortListener]).map
      (fun r => (r.portRangeMin, r.portRangeMax)) = [(-2147483648, -2147483648)] :=
  ⟨buildIngressRulesFromListeners_priorities, by decide, by decide⟩

end ThalassaCcm
