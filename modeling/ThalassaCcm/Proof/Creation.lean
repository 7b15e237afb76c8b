import ThalassaCcm.Proof.Ownership

/-!
# Creating a Service's load balancer: the status and the subnet

The status `EnsureLoadBalancer` reports is `ingressOf` of one load balancer: the one its
lookup found, or the one it created once the ready-poll saw it ready. Only the second is
checked, and the check is weaker than the status needs:

* `wp_pollUntilContextTimeout_readyCondition`: the poll returns a load balancer that the
  ready test accepts;
* `ingressOf_ne_nil_iff`: the status has an entry exactly when some address is non-empty,
  which the ready test does not ask (it asks for a non-empty list of addresses);
* `ensureLoadBalancer_status_failures`: three runs in which the status is not a ready load
  balancer's. A retry after a poll that timed out finds the load balancer still
  provisioning and returns at once with an empty status; a load balancer ready with an
  empty address gives an empty status; and when the load balancer disappears before the
  poll's lookup, the poll dereferences the missing value.

`createVpcLoadbalancer` and `updateVpcLoadbalancer` read the requested subnet differently:
creation looks it up by identity or slug, the update compares the request itself with the
load balancer's subnet identity. They disagree exactly when creation found the subnet by its
slug (`selectSubnet_slug_of_ne_identity`), and then the first reconcile of a new load
balancer moves it to a "subnet" named by the slug (`updateVpcLoadbalancer_slug_subnet`).
-/

set_option autoImplicit false

namespace ThalassaCcm
namespace Engine

open Cloud Prog

/-! ## 1. The status -/

theorem mem_ingressOf {x : VpcLoadbalancer} {e : LoadBalancerIngress} :
    e ∈ ingressOf x ↔ ∃ ip ∈ x.externalIpAddresses, ip ≠ "" ∧ e = ⟨ip, x.hostname⟩ := by
  simp only [ingressOf, List.mem_map, List.mem_filter, decide_eq_true_eq, and_assoc]
  exact ⟨fun ⟨ip, h, hne, he⟩ => ⟨ip, h, hne, he.symm⟩, fun ⟨ip, h, hne, he⟩ => ⟨ip, h, hne, he.symm⟩⟩

/-- The status has an entry exactly when some address is non-empty. -/
theorem ingressOf_ne_nil_iff (x : VpcLoadbalancer) :
    ingressOf x ≠ [] ↔ ∃ ip ∈ x.externalIpAddresses, ip ≠ "" := by
  simp [ingressOf, List.filter_eq_nil_iff]

/-! ## 2. The ready-poll -/

/-- The ready condition answers only load balancers the ready test accepts; a lookup that
    finds nothing is the nil dereference. -/
theorem wp_readyCondition (lb : Loadbalancer) (svc : Service) (created : VpcLoadbalancer)
    (s : State) :
    Wp (fun _ => True) (fun _ _ => True) (readyCondition lb svc created)
      (fun r _ => ∀ x, r = some x → isReady x = true) (fun _ _ => True) s := by
  unfold readyCondition
  split
  next hready => exact Wp.ret fun x hx => Option.some_inj.mp hx ▸ hready
  next =>
    simp only [bind_eq, pure_eq]
    refine Wp.bind_of (Wp.of_forall (fun _ _ => trivial) (fun _ _ => trivial)
      (fun _ _ => trivial)) fun found _ _ => ?_
    rcases found with _ | v
    · exact Wp.fail trivial
    · refine Wp.ret fun x hx => ?_
      by_cases hv : isReady v = true
      · rw [if_pos hv, Option.some_inj] at hx
        exact hx ▸ hv
      · rw [if_neg hv] at hx
        cases hx

/-- **The ready-poll** of `EnsureLoadBalancer` returns, when it returns, a load balancer
    whose status is `"ready"` and whose list of addresses is not empty. -/
theorem wp_pollUntilContextTimeout_readyCondition (lb : Loadbalancer) (svc : Service)
    (created : VpcLoadbalancer) (n : Nat) (s : State) :
    Wp (fun _ => True) (fun _ _ => True) (pollUntilContextTimeout (readyCondition lb svc created) n)
      (fun x _ => x.status = "ready" ∧ x.externalIpAddresses ≠ []) (fun _ _ => True) s :=
  (wp_pollUntilContextTimeout (fun t _ => (wp_readyCondition lb svc created t).mono
    (fun _ _ h => ⟨trivial, h⟩) fun _ _ _ => trivial) n trivial).mono
    (fun x _ h => by simpa [isReady] using h.2) fun _ _ _ => trivial

/-! ## 3. Runs with an empty status, and the nil dereference -/

/-- The failure a run ended with, if it failed. -/
def failureOf {α : Type} : Except Failure α → Option Failure
  | .error f => some f
  | .ok _ => none

/-- The failure an operation in flight ended with, if it did. -/
def Thread.failure (th : Thread) : Option Failure :=
  match th.prog with
  | .fail f => some f
  | _ => none

/-- The first `EnsureLoadBalancer` of the web Service, from an empty VPC, while the load
    balancer it creates stays in provisioning for the whole poll. -/
def slowFirstEnsure : Outcome (List LoadBalancerIngress) :=
  exec (ensureLoadBalancer (configWithLabels []) [] webService []) []
    (State.empty [⟨"subnet-1", "main"⟩])

/-- The load balancer `EnsureLoadBalancer` creates turns ready, with one empty address,
    just before the poll's first lookup. -/
def emptyAddressTicks : List Tick :=
  List.replicate 12 ({} : Tick) ++ [{ env := [.provision (freshId 0) "ready" [""] ""] }]

/-- `EnsureLoadBalancer` of the web Service runs up to its poll's first lookup. Then
    `EnsureLoadBalancerDeleted` of `apiService`, whose load-balancer name is the web
    Service's, runs to its end and deletes the web Service's load balancer through the name
    fallback of its lookup. Then the poll looks the load balancer up. The UIDs differ, so
    the controller's per-Service queue lets the two overlap. -/
def pollPanicLabels : List Label :=
  [.start ⟨configWithLabels [], webService, .ensure [] []⟩] ++ List.replicate 12 (.step 0 {}) ++
    [.start ⟨configWithLabels [], apiService, .delete⟩] ++ List.replicate 6 (.step 1 {}) ++
    [.step 0 {}]

/-- The status has an entry exactly when some address is non-empty, and the ready-poll
    returns only a load balancer whose status is `"ready"` and whose list of addresses is not
    empty. A retry after a timed-out poll, and a load balancer ready with an empty address,
    both succeed with an empty status; and a poll whose lookup finds nothing panics. -/
theorem ensureLoadBalancer_status_failures :
    (∀ x : VpcLoadbalancer, ingressOf x ≠ [] ↔ ∃ ip ∈ x.externalIpAddresses, ip ≠ "") ∧
    (∀ (lb : Loadbalancer) (svc : Service) (created : VpcLoadbalancer) (n : Nat) (s : State),
      Wp (fun _ => True) (fun _ _ => True)
        (pollUntilContextTimeout (readyCondition lb svc created) n)
        (fun x _ => x.status = "ready" ∧ x.externalIpAddresses ≠ []) (fun _ _ => True) s) ∧
    failureOf slowFirstEnsure.value = some (.error "context deadline exceeded") ∧
    (exec (ensureLoadBalancer (configWithLabels []) [] webService []) []
      slowFirstEnsure.state).value.toOption = some [] ∧
    (exec (ensureLoadBalancer (configWithLabels []) [] webService []) emptyAddressTicks
      (State.empty [⟨"subnet-1", "main"⟩])).value.toOption = some [] ∧
    serialRun (Sys.init [⟨"subnet-1", "main"⟩]) pollPanicLabels = true ∧
    (runLabels (Sys.init [⟨"subnet-1", "main"⟩]) pollPanicLabels).threads.map Thread.failure =
      [some (.panic "runtime error: invalid memory address or nil pointer dereference"), none] :=
  ⟨ingressOf_ne_nil_iff, wp_pollUntilContextTimeout_readyCondition, by decide⟩

/-! ## 4. The subnet, by slug -/

/-- A subnet the request selected under another identity was selected by its slug. -/
theorem selectSubnet_slug_of_ne_identity {requested : String} {subnets : List Subnet}
    {sn : Subnet} (h : selectSubnet requested subnets = some sn) (hne : requested ≠ "")
    (hid : requested ≠ sn.identity) : sn.slug = requested := by
  rw [selectSubnet, if_pos hne] at h
  have hsn := List.find?_some h
  simp only [decide_eq_true_eq] at hsn
  exact hsn.resolve_left (Ne.symm hid)

/-- The web Service with its subnet annotated by slug. -/
def slugService : Service :=
  { webService with annotations := [(loadBalancerAnnotationSubnetID, "main")] }

/-- `createVpcLoadbalancer` of that Service in a VPC whose one subnet has slug `main`. -/
def slugCreated : Outcome VpcLoadbalancer :=
  exec (createVpcLoadbalancer (configWithLabels []) (getLoadBalancerName slugService) slugService)
    [] (State.empty [⟨"subnet-1", "main"⟩])

/-- A subnet creation selects under another identity than the request was selected by its
    slug. Creation places the slug Service's load balancer in `subnet-1`, found by its slug,
    and the update that follows on the same Service asks to move it to `main`. -/
theorem updateVpcLoadbalancer_slug_subnet :
    (∀ (requested : String) (subnets : List Subnet) (sn : Subnet),
      selectSubnet requested subnets = some sn → requested ≠ "" → requested ≠ sn.identity →
        sn.slug = requested) ∧
    slugCreated.value.toOption.map (·.subnet) = some "subnet-1" ∧
    slugCreated.value.toOption.map (fun x => (issued (updateVpcLoadbalancer (configWithLabels [])
      slugService x (desiredVpcLoadbalancerListener (configWithLabels []) slugService)) []
        slugCreated.state).map (·.2)) =
      some [.updateLoadbalancer (freshId 0)
        { name := getLoadBalancerName slugService
          description := "Loadbalancer for Kubernetes service web"
          labels := getLabelsForVpcLoadbalancer (configWithLabels []) slugService
          subnet := "main", securityGroupAttachments := [] }] :=
  ⟨fun _ _ _ => selectSubnet_slug_of_ne_identity, by decide⟩

end Engine
end ThalassaCcm
