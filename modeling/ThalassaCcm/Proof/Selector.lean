import ThalassaCcm.Proof.Listeners

/-!
# A Service's selector across a change of operator labels

Every lookup of the controller's own objects filters by `GetLabelsForVpcLoadbalancer`:
the five canonical entries and then the operator's `additionalLabels`. An object made
under one operator map therefore stays visible under another exactly when it carries,
at every key the new map adds, the new map's value
(`matchLabels_getLabelsForVpcLoadbalancer_after_change`). Where it does not, the
target-group listings and the managed-group lookup miss it; what a reconcile then leaves is
the subject of `Proof/LabelChange`.
-/

set_option autoImplicit false

namespace ThalassaCcm
namespace Engine

open Cloud StrMap

/-- A Service that asks for a managed security group. -/
def paymentsService : Service where
  name := "payments"
  ns := "shop"
  uid := "5a7c9e1b-3d5f-4b7d-9f1a-3c5e7a9b1d3f"
  annotations := [(loadBalancerAnnotationCreateSecurityGroup, "true")]
  serviceType := .LoadBalancer
  ports := [⟨"http", .TCP, 80, 30080⟩]
  externalTrafficPolicy := .Cluster
  healthCheckNodePort := 0

/-- The state after a reconcile of the payments Service with no operator labels. -/
def paymentsReconciled : State :=
  (exec (updateLoadBalancer (configWithLabels []) [] paymentsService []) []
    (vpcWith (provisionedLoadbalancer (configWithLabels []) paymentsService))).state

end Engine
end ThalassaCcm
