import ThalassaCcm.Core.Service

/-!
# Endpoint slices and the node filter (`nodefilter.go`)

Under the `Local` traffic policy only nodes that host a ready endpoint of the Service may
receive its traffic. `NodeFilter.Filter` reads the Service's endpoint slices from the
informer cache and keeps the nodes named by an endpoint that is not known to be unready
(`ready != false`) and not known to be terminating (`terminating != true`). It fails
open: with no slice, or no qualifying endpoint, it returns the nodes unchanged.

The cache is an argument here (a snapshot of the lister at the time of the call); the
lister of an informer cache does not fail, so the filter has no error path.
-/

set_option autoImplicit false

namespace ThalassaCcm

/-- `discoveryv1.EndpointConditions`: each condition may be unset. -/
structure EndpointConditions where
  ready : Option Bool
  terminating : Option Bool
  deriving DecidableEq, Repr

/-- `discoveryv1.Endpoint`: its node and conditions. -/
structure Endpoint where
  nodeName : Option String
  conditions : EndpointConditions
  deriving DecidableEq, Repr

/-- `discoveryv1.EndpointSlice`: namespace, labels and endpoints. -/
structure EndpointSlice where
  ns : String
  labels : StrMap
  endpoints : List Endpoint
  deriving DecidableEq, Repr

/-- `discoveryv1.LabelServiceName`. -/
def labelServiceName : String := "kubernetes.io/service-name"

/-- The slices the filter's lister returns: the Service's namespace, labelled with its
    name. -/
def slicesForService (slices : List EndpointSlice) (svc : Service) : List EndpointSlice :=
  slices.filter fun sl => sl.ns = svc.ns ∧ sl.labels.find? labelServiceName = some svc.name

/-- The endpoints `Filter` counts: a node name, `ready != false`, `terminating != true`. -/
def Endpoint.servesForFilter (ep : Endpoint) : Bool :=
  ep.nodeName.isSome && ep.conditions.ready != some false && ep.conditions.terminating != some true

/-- The node names `Filter` collects from slices. -/
def readyNodeNames (slices : List EndpointSlice) : List String :=
  slices.flatMap fun sl => (sl.endpoints.filter Endpoint.servesForFilter).filterMap (·.nodeName)

/-- `NodeFilter.Filter`. -/
def nodeFilter (slices : List EndpointSlice) (svc : Service) (nodes : List Node) : List Node :=
  if svc.externalTrafficPolicy ≠ .Local then nodes
  else
    let mine := slicesForService slices svc
    if mine = [] then nodes
    else
      let ready := readyNodeNames mine
      if ready = [] then nodes
      else nodes.filter (·.name ∈ ready)

/-! ## What the filter returns -/

/-- An endpoint `Filter` counts, in the words of its contract: it has a node name,
    `ready != false` and `terminating != true`. -/
def Endpoint.Qualifies (ep : Endpoint) : Prop :=
  ep.nodeName ≠ none ∧ ep.conditions.ready ≠ some false ∧ ep.conditions.terminating ≠ some true

instance : DecidablePred Endpoint.Qualifies := fun _ => inferInstanceAs (Decidable (_ ∧ _ ∧ _))

theorem Endpoint.servesForFilter_iff (ep : Endpoint) : ep.servesForFilter = true ↔ ep.Qualifies := by
  simp [Endpoint.servesForFilter, Endpoint.Qualifies, Option.isSome_iff_ne_none, and_assoc]

end ThalassaCcm
