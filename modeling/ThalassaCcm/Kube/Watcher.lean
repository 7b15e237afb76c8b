import Mathlib.Data.List.Dedup
import ThalassaCcm.Kube.Endpoints

/-!
# The endpoint-slice watcher (`endpointslices.go`)

Under the `Local` traffic policy the set of nodes that may receive a Service's traffic
follows its endpoints, so the provider watches endpoint slices and asks for a resync of
a Service's load balancer (`onEndpointSliceChange(serviceKey)`) when they change. The
watcher tracks which Service keys (`namespace/name`) have the `Local` policy, from the
Service informer's events, and reacts to slice events only for those keys: an add or a
delete always triggers, an update only when `hasNodeAssignmentChanged`.

The informer hands a handler an `interface{}`. For a delete whose final state the watch
missed, that is a `cache.DeletedFinalStateUnknown` tombstone, not the object, and the
handlers' type assertions reject it; `InformerObject` keeps both shapes.

`hasNodeAssignmentChanged` compares the nodes of endpoints whose `Ready` is set and
true; its size test and one-sided inclusion decide exactly whether those two sets differ
(`hasNodeAssignmentChanged_iff_sets_differ`). `NodeFilter.Filter`, which decides the nodes a reconcile attaches, counts the
endpoints with `ready != false` and `terminating != true` (`Kube/Endpoints.lean`). The
two agree when every endpoint has its readiness set and is not terminating
(`readyNodesForWatcher_eq`); elsewhere they can disagree.
-/

set_option autoImplicit false

namespace ThalassaCcm

/-! ## 1. The watcher -/

/-- What an informer passes to a handler: the object, or the tombstone of a delete. -/
inductive InformerObject (α : Type) where
  | obj (a : α)
  /-- `cache.DeletedFinalStateUnknown`: the object's key and its last known state. -/
  | deletedFinalStateUnknown (key : String) (a : α)
  deriving DecidableEq, Repr

/-- The watcher's state: `localTrafficServices`, the keys it tracks as `Local`. -/
structure EndpointSliceWatcher where
  localTrafficServices : List String
  deriving DecidableEq, Repr

/-- `fmt.Sprintf("%s/%s", namespace, name)`. -/
def serviceKey (ns name : String) : String := ns ++ "/" ++ name

/-- `getServiceKeyFromEndpointSlice`: the key of the Service a slice is labelled with,
    or `""`. -/
def getServiceKeyFromEndpointSlice (sl : EndpointSlice) : String :=
  match sl.labels.find? labelServiceName with
  | some serviceName => serviceKey sl.ns serviceName
  | none => ""

/-- `hasLocalTrafficPolicy`. -/
def EndpointSliceWatcher.hasLocalTrafficPolicy (w : EndpointSliceWatcher) (key : String) :
    Bool :=
  decide (key ∈ w.localTrafficServices)

/-- The node names `hasNodeAssignmentChanged` collects: endpoints with a node whose
    `Ready` is set and true. -/
def readyNodesForWatcher (sl : EndpointSlice) : List String :=
  sl.endpoints.filterMap fun ep => if ep.conditions.ready = some true then ep.nodeName else none

/-- `hasNodeAssignmentChanged`: the two node sets (Go maps, so without repeats) differ in
    size, or an old node is missing from the new set. -/
def hasNodeAssignmentChanged (oldSlice newSlice : EndpointSlice) : Bool :=
  let oldNodes := (readyNodesForWatcher oldSlice).dedup
  let newNodes := (readyNodesForWatcher newSlice).dedup
  oldNodes.length ≠ newNodes.length || oldNodes.any (· ∉ newNodes)

namespace EndpointSliceWatcher

variable (w : EndpointSliceWatcher)

/-- The resync an add or a delete of a slice asks for: its key, when tracked. -/
def resyncForSlice (sl : EndpointSlice) : List String :=
  let key := getServiceKeyFromEndpointSlice sl
  if key = "" then [] else if w.hasLocalTrafficPolicy key then [key] else []

/-- `handleEndpointSliceAdd`: the keys passed to `onEndpointSliceChange`. -/
def handleEndpointSliceAdd : InformerObject EndpointSlice → List String
  | .obj sl => w.resyncForSlice sl
  | .deletedFinalStateUnknown _ _ => []

/-- `handleEndpointSliceUpdate`: the key of the new slice, when tracked and its node
    assignment changed. -/
def handleEndpointSliceUpdate :
    InformerObject EndpointSlice → InformerObject EndpointSlice → List String
  | .obj oldSlice, .obj newSlice =>
    let key := getServiceKeyFromEndpointSlice newSlice
    if key = "" then []
    else if !w.hasLocalTrafficPolicy key then []
    else if hasNodeAssignmentChanged oldSlice newSlice then [key]
    else []
  | _, _ => []

/-- `handleEndpointSliceDelete`: a tombstone fails the type assertion and is dropped. -/
def handleEndpointSliceDelete : InformerObject EndpointSlice → List String
  | .obj sl => w.resyncForSlice sl
  | .deletedFinalStateUnknown _ _ => []

/-- `handleServiceAdd`: start tracking a `Local` Service. -/
def handleServiceAdd : InformerObject Service → EndpointSliceWatcher
  | .obj svc =>
    if svc.externalTrafficPolicy = .Local then
      ⟨w.localTrafficServices.insert (serviceKey svc.ns svc.name)⟩
    else w
  | .deletedFinalStateUnknown _ _ => w

/-- `handleServiceUpdate`: track or untrack on a change of policy, and ask for a resync
    of the key either way. -/
def handleServiceUpdate :
    InformerObject Service → InformerObject Service → EndpointSliceWatcher × List String
  | .obj oldSvc, .obj newSvc =>
    let key := serviceKey newSvc.ns newSvc.name
    let toLocal := oldSvc.externalTrafficPolicy ≠ .Local ∧ newSvc.externalTrafficPolicy = .Local
    let fromLocal := oldSvc.externalTrafficPolicy = .Local ∧ newSvc.externalTrafficPolicy ≠ .Local
    if toLocal then (⟨w.localTrafficServices.insert key⟩, [key])
    else if fromLocal then (⟨w.localTrafficServices.filter (· ≠ key)⟩, [key])
    else (w, [])
  | _, _ => (w, [])

/-- `handleServiceDelete`: stop tracking the key. -/
def handleServiceDelete : InformerObject Service → EndpointSliceWatcher
  | .obj svc => ⟨w.localTrafficServices.filter (· ≠ serviceKey svc.ns svc.name)⟩
  | .deletedFinalStateUnknown _ _ => w

end EndpointSliceWatcher

/-! ## 2. What the watcher compares -/

/-- Two lists without repeats have the same members exactly when they have the same
    length and the first is contained in the second. -/
theorem length_eq_and_subset_iff {l₁ l₂ : List String} (h₁ : l₁.Nodup) (h₂ : l₂.Nodup) :
    (l₁.length = l₂.length ∧ ∀ x ∈ l₁, x ∈ l₂) ↔ ∀ x, x ∈ l₁ ↔ x ∈ l₂ := by
  constructor
  · rintro ⟨hlen, hsub⟩
    have hperm := (List.subperm_of_subset h₁ hsub).perm_of_length_le hlen.ge
    exact fun x => hperm.mem_iff
  · intro hmem
    have hperm := (List.perm_ext_iff_of_nodup h₁ h₂).mpr hmem
    exact ⟨hperm.length_eq, fun x hx => (hmem x).mp hx⟩

/-- `hasNodeAssignmentChanged` decides exactly whether the two sets of `Ready` nodes
    differ. -/
theorem hasNodeAssignmentChanged_iff (oldSlice newSlice : EndpointSlice) :
    hasNodeAssignmentChanged oldSlice newSlice = true ↔
      ¬ ∀ n, n ∈ readyNodesForWatcher oldSlice ↔ n ∈ readyNodesForWatcher newSlice := by
  have key := length_eq_and_subset_iff (List.nodup_dedup (readyNodesForWatcher oldSlice))
    (List.nodup_dedup (readyNodesForWatcher newSlice))
  simp only [List.mem_dedup] at key
  rw [← key, hasNodeAssignmentChanged]
  simp only [Bool.or_eq_true, List.any_eq_true, List.mem_dedup, decide_eq_false_iff_not,
    not_and_or, not_forall, exists_prop, decide_eq_true_eq]

theorem mem_readyNodesForWatcher {sl : EndpointSlice} {n : String} :
    n ∈ readyNodesForWatcher sl ↔
      ∃ ep ∈ sl.endpoints, ep.nodeName = some n ∧ ep.conditions.ready = some true := by
  simp only [readyNodesForWatcher, List.mem_filterMap, Option.ite_none_right_eq_some, and_comm]

/-- For any two slices, repeats and unset conditions included, `hasNodeAssignmentChanged`
    holds exactly when the sets of nodes named by an endpoint whose `Ready` is set and true
    differ: its size test and one-sided inclusion decide the inequality of the sets. -/
theorem hasNodeAssignmentChanged_iff_sets_differ (oldSlice newSlice : EndpointSlice) :
    hasNodeAssignmentChanged oldSlice newSlice = true ↔
      {n | ∃ ep ∈ oldSlice.endpoints, ep.nodeName = some n ∧ ep.conditions.ready = some true} ≠
        {n | ∃ ep ∈ newSlice.endpoints, ep.nodeName = some n ∧ ep.conditions.ready = some true} := by
  rw [hasNodeAssignmentChanged_iff, Ne, Set.ext_iff]
  simp only [Set.mem_setOf_eq, mem_readyNodesForWatcher]

/-- An endpoint whose readiness is set and that is not terminating counts for the filter
    exactly when it counts for the watcher. -/
theorem servesForFilter_iff {ep : Endpoint} (hready : ep.conditions.ready.isSome)
    (hterm : ep.conditions.terminating ≠ some true) :
    ep.servesForFilter = (ep.nodeName.isSome && ep.conditions.ready == some true) := by
  obtain ⟨nodeName, ⟨ready, terminating⟩⟩ := ep
  rcases ready with _ | _ | _ <;> rcases terminating with _ | _ | _ <;> cases nodeName <;>
    first | rfl | simp at hready hterm

/-- Where every endpoint of a slice has its readiness set and none is terminating, the
    watcher's nodes are the filter's. -/
theorem readyNodesForWatcher_eq (sl : EndpointSlice)
    (h : ∀ ep ∈ sl.endpoints,
      ep.conditions.ready.isSome ∧ ep.conditions.terminating ≠ some true) :
    readyNodesForWatcher sl = readyNodeNames [sl] := by
  obtain ⟨ns, labels, eps⟩ := sl
  simp only [readyNodesForWatcher, readyNodeNames, List.flatMap_cons, List.flatMap_nil,
    List.append_nil]
  induction eps with
  | nil => rfl
  | cons ep eps ih =>
    have hep := servesForFilter_iff (h ep (.head _)).1 (h ep (.head _)).2
    rw [List.filterMap_cons, List.filter_cons, hep, ih fun e he => h e (.tail _ he)]
    obtain ⟨nodeName, ⟨ready, terminating⟩⟩ := ep
    cases nodeName <;> rcases ready with _ | _ | _ <;> simp [List.filterMap_cons]

/-! ## 3. A change the watcher misses -/

/-- A `Local` Service `default/web`. -/
def localWebService : Service where
  name := "web"
  ns := "default"
  uid := "3f6b2a4e-8c1d-4e7a-9b5f-0a1c2d3e4f50"
  annotations := []
  serviceType := .LoadBalancer
  ports := [⟨"http", .TCP, 80, 30080⟩]
  externalTrafficPolicy := .Local
  healthCheckNodePort := 32000

/-- Its slice with one endpoint on `node-1`, readiness unset and then false. -/
def webSlice (ready : Option Bool) : EndpointSlice :=
  ⟨"default", [(labelServiceName, "web")], [⟨some "node-1", ⟨ready, none⟩⟩]⟩

/-- An endpoint of a tracked `Local` Service goes from unknown readiness to not ready:
    the filter's node set drops `node-1`, and the watcher asks for no resync. -/
theorem handleEndpointSliceUpdate_unset_ready :
    readyNodeNames (slicesForService [webSlice none] localWebService) = ["node-1"] ∧
    readyNodeNames (slicesForService [webSlice (some false)] localWebService) = [] ∧
    EndpointSliceWatcher.handleEndpointSliceUpdate ⟨["default/web"]⟩
      (.obj (webSlice none)) (.obj (webSlice (some false))) = [] := by
  decide

/-! ## 4. What the Service informer delivers -/

/-- A notification of the Service informer, as the watcher's handlers receive it. -/
inductive ServiceNotification where
  | add (obj : InformerObject Service)
  | update (oldObj newObj : InformerObject Service)
  | delete (obj : InformerObject Service)

/-- The watcher after one notification. -/
def EndpointSliceWatcher.onService (w : EndpointSliceWatcher) : ServiceNotification →
    EndpointSliceWatcher
  | .add obj => w.handleServiceAdd obj
  | .update oldObj newObj => (w.handleServiceUpdate oldObj newObj).1
  | .delete obj => w.handleServiceDelete obj

/-- The key of a Service. -/
def Service.key (svc : Service) : String := serviceKey svc.ns svc.name

/-- What the informer can deliver from its store of Services, and its store after: an add
    of a new key, an update of a stored Service with the stored object as the old one, and
    a delete of a stored Service, given as the object or, when the watch missed the final
    state, as a tombstone with the key and the last state the store had. -/
inductive Delivers : (String → Option Service) → ServiceNotification →
    (String → Option Service) → Prop
  | add {store : String → Option Service} (svc : Service) (h : store svc.key = none) :
      Delivers store (.add (.obj svc)) (Function.update store svc.key (some svc))
  | update {store : String → Option Service} (oldSvc newSvc : Service)
      (h : store oldSvc.key = some oldSvc) (hkey : newSvc.key = oldSvc.key) :
      Delivers store (.update (.obj oldSvc) (.obj newSvc))
        (Function.update store oldSvc.key (some newSvc))
  | delete {store : String → Option Service} (svc : Service) (h : store svc.key = some svc) :
      Delivers store (.delete (.obj svc)) (Function.update store svc.key none)
  | deleteTombstone {store : String → Option Service} (svc : Service)
      (h : store svc.key = some svc) :
      Delivers store (.delete (.deletedFinalStateUnknown svc.key svc))
        (Function.update store svc.key none)

/-- A sequence of notifications the informer can deliver, from one store to another. -/
inductive DeliversAll : (String → Option Service) → List ServiceNotification →
    (String → Option Service) → Prop
  | nil (store : String → Option Service) : DeliversAll store [] store
  | cons {s₁ s₂ s₃ : String → Option Service} {n : ServiceNotification}
      {ns : List ServiceNotification} :
      Delivers s₁ n s₂ → DeliversAll s₂ ns s₃ → DeliversAll s₁ (n :: ns) s₃

/-- A notification carries an object, not a tombstone. -/
def ServiceNotification.NoTombstone : ServiceNotification → Prop
  | .delete (.deletedFinalStateUnknown _ _) => False
  | _ => True

end ThalassaCcm
