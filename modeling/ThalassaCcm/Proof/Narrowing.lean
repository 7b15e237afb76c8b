import ThalassaCcm.Proof.Listeners

/-!
# Go's integer conversions in the desired state and the poll configuration

The integer annotations decode to a Go `int`, and the builders narrow them: the listener's
idle timeout and connection cap by `uint32(·)`, the health check's port and thresholds by
`int32(·)`. The poll configuration multiplies seconds into an `int64` of nanoseconds. Each
is the decoded value when it fits:

* `desiredVpcLoadbalancerListener_limits_of_range`: in `[0, 2^32)`, the listener's limits,
  which are then the numbers the annotations hold in decimal
  (`desiredVpcLoadbalancerListener_limits_of_text`, through `Go.atoi_toString`);
* `desiredHealthCheck_of_range`: in `[-2^31, 2^31)`, the health check's port and
  thresholds;
* `convertLoadBalancerCreatePollConfig_of_range`: a positive number of seconds whose
  nanoseconds fit in an `int64`.

Outside those ranges the value wraps, and nothing checks that a health-check port is a
port (`desiredState_integers_wrap`); a number of seconds whose nanoseconds wrap to a
positive value passes the poll configuration's guard
(`convertLoadBalancerCreatePollConfig_wraps`).
-/

set_option autoImplicit false

namespace ThalassaCcm
namespace Engine

open Cloud

/-! ## 1. In range, the decoded value -/

/-- Every listener's idle timeout and connection cap are the decoded annotations, or their
    defaults, whenever those lie in `[0, 2^32)`. -/
theorem desiredVpcLoadbalancerListener_limits_of_range {lb : Loadbalancer} {svc : Service}
    {l : VpcLoadbalancerListener} (hl : l ∈ desiredVpcLoadbalancerListener lb svc)
    (ht : 0 ≤ ( getIntAnnotation svc loadbalancerAnnotationIdleConnectionTimeout
        defaultIdleConnectionTimeout).1 ∧
      ( getIntAnnotation svc loadbalancerAnnotationIdleConnectionTimeout
        defaultIdleConnectionTimeout).1 < 4294967296)
    (hm : 0 ≤ ( getIntAnnotation svc loadbalancerAnnotationMaxConnections defaultMaxConnections).1 ∧
      ( getIntAnnotation svc loadbalancerAnnotationMaxConnections defaultMaxConnections).1 <
        4294967296) :
    l.connectionIdleTimeout = some ( getIntAnnotation svc loadbalancerAnnotationIdleConnectionTimeout
        defaultIdleConnectionTimeout).1.toNat ∧
    l.maxConnections = some ( getIntAnnotation svc loadbalancerAnnotationMaxConnections
        defaultMaxConnections).1.toNat := by
  obtain ⟨p, -, rfl⟩ := mem_desiredVpcLoadbalancerListener.mp hl
  exact ⟨congrArg some (Go.toUInt32_of_range ht.1 ht.2),
    congrArg some (Go.toUInt32_of_range hm.1 hm.2)⟩

/-- **What the annotations say is what the cloud gets.** Every listener's idle timeout and
    connection cap are the numbers the two annotations hold in decimal, whenever those lie in
    `[0, 2^32)`. -/
theorem desiredVpcLoadbalancerListener_limits_of_text {lb : Loadbalancer} {svc : Service}
    {timeout maxConnections : Nat} (ht : timeout < 4294967296) (hm : maxConnections < 4294967296)
    (htext : svc.annotations.find? loadbalancerAnnotationIdleConnectionTimeout =
      some (toString timeout))
    (hmtext : svc.annotations.find? loadbalancerAnnotationMaxConnections =
      some (toString maxConnections)) :
    ∀ l ∈ desiredVpcLoadbalancerListener lb svc,
      l.connectionIdleTimeout = some timeout ∧ l.maxConnections = some maxConnections := by
  intro l hl
  have hT : getIntAnnotation svc loadbalancerAnnotationIdleConnectionTimeout
      defaultIdleConnectionTimeout = ((timeout : Int), none) :=
    getIntAnnotation_of_toString _ (by omega) (by omega) htext _
  have hM : getIntAnnotation svc loadbalancerAnnotationMaxConnections defaultMaxConnections =
      ((maxConnections : Int), none) :=
    getIntAnnotation_of_toString _ (by omega) (by omega) hmtext _
  have h := desiredVpcLoadbalancerListener_limits_of_range hl (by rw [hT]; omega)
    (by rw [hM]; omega)
  rw [hT, hM] at h
  simpa using h

/-- The web Service, with a ten-minute idle timeout and two thousand connections. -/
def limitedWebService : Service :=
  { webService with annotations := [(loadbalancerAnnotationIdleConnectionTimeout, "600"),
      (loadbalancerAnnotationMaxConnections, "2000")] }

theorem desiredVpcLoadbalancerListener_limits_of_text_web :
    600 < 4294967296 ∧ 2000 < 4294967296 ∧
      limitedWebService.annotations.find? loadbalancerAnnotationIdleConnectionTimeout =
        some (toString 600) ∧
      limitedWebService.annotations.find? loadbalancerAnnotationMaxConnections =
        some (toString 2000) ∧
      ∀ l ∈ desiredVpcLoadbalancerListener (configWithLabels []) limitedWebService,
        l.connectionIdleTimeout = some 600 ∧ l.maxConnections = some 2000 :=
  ⟨by decide, by decide, rfl, rfl,
    desiredVpcLoadbalancerListener_limits_of_text (by decide) (by decide) rfl rfl⟩

/-- The health check's port is the annotated one or the Service's health-check node port,
    and its thresholds are the decoded ones, whenever those lie in `[-2^31, 2^31)`. -/
theorem desiredHealthCheck_of_range {svc : Service} {hc : HealthCheckSettings}
    {b : BackendHealthCheck} (h : desiredHealthCheck svc hc = some b)
    (hport : -2147483648 ≤ hc.port ∧ hc.port < 2147483648)
    (hnode : (svc.healthCheckNodePort : Int) < 2147483648)
    (hup : -2147483648 ≤ hc.healthyThreshold ∧ hc.healthyThreshold < 2147483648)
    (hdown : -2147483648 ≤ hc.unhealthyThreshold ∧ hc.unhealthyThreshold < 2147483648) :
    (b.port = hc.port ∨ b.port = svc.healthCheckNodePort) ∧
      b.healthyThreshold = hc.healthyThreshold ∧ b.unhealthyThreshold = hc.unhealthyThreshold := by
  have hup' := Go.toInt32_of_range hup.1 hup.2
  have hdown' := Go.toInt32_of_range hdown.1 hdown.2
  unfold desiredHealthCheck at h
  split at h
  · cases h
    refine ⟨?_, hup', hdown'⟩
    split
    · exact .inl (Go.toInt32_of_range hport.1 hport.2)
    · exact .inr (Go.toInt32_of_range (by omega) hnode)
  · split at h
    · cases h
      exact ⟨.inl (Go.toInt32_of_range hport.1 hport.2), hup', hdown'⟩
    · cases h

/-- A positive number of seconds whose nanoseconds fit in an `int64` is taken as it is. -/
theorem convertLoadBalancerCreatePollConfig_of_range (defaultValue : Int) {v : Int} (h0 : 0 < v)
    (h : v * second < 9223372036854775808) :
    convertLoadBalancerCreatePollConfig (some v) defaultValue = v * second := by
  have hs : 0 < v * second := Int.mul_pos h0 (by decide)
  simp only [convertLoadBalancerCreatePollConfig, wrapInt64_of_range (by omega) h]
  rw [if_neg (by omega), if_neg (by omega)]

/-! ## 2. Out of range -/

/-- A Service whose annotations overflow `uint32(·)` and `int32(·)` and ask for a health
    check on port 70000. -/
def overflowService : Service :=
  { webService with
    ports := [⟨"http", .TCP, 80, 30080⟩]
    annotations := [(loadbalancerAnnotationIdleConnectionTimeout, "4294967296"),
      (loadbalancerAnnotationMaxConnections, "-1"),
      (loadbalancerAnnotationHealthCheckEnabled, "true"),
      (loadbalancerAnnotationHealthCheckPort, "70000"),
      (loadbalancerAnnotationHealthCheckUpThreshold, "4294967298")] }

/-- The idle timeout 2^32 becomes 0, the cap -1 becomes 2^32 - 1, the threshold 2^32 + 2
    becomes 2, and the health check goes to port 70000. -/
theorem desiredState_integers_wrap :
    (desiredVpcLoadbalancerListener (configWithLabels []) overflowService).map
        (fun l => (l.connectionIdleTimeout, l.maxConnections)) = [(some 0, some 4294967295)] ∧
    (getDesiredVpcLoadbalancerTargetGroups (configWithLabels []) overflowService).toOption.map
        (·.map fun tg => tg.healthCheck.map fun h => (h.port, h.healthyThreshold)) =
      some [some (70000, 2)] := by
  decide

/-- `18446744074` seconds is about 584 years; its nanoseconds wrap to 0.29 s, which the
    guard accepts whatever the default. -/
theorem convertLoadBalancerCreatePollConfig_wraps (defaultValue : Int) :
    convertLoadBalancerCreatePollConfig (some 18446744074) defaultValue = 290448384 := by
  simp only [convertLoadBalancerCreatePollConfig]
  rw [if_neg (by decide), if_neg (by decide)]
  decide

end Engine
end ThalassaCcm
