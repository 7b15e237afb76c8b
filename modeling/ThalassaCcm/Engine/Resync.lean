import ThalassaCcm.Engine.Reconcile

/-!
# The resync worker (`processServiceQueue`, `processServiceResync`)

The endpoint-slice watcher queues the key of a Service whose endpoints changed, and one
worker takes keys off a rate-limited work queue: it reads the Service and the nodes from
the API server and runs `UpdateLoadBalancer` with the ready nodes. Only a failed update puts
the key back, with backoff (`AddRateLimited`). Every other path returns, and `Done` then
drops the key; nothing calls `Forget`, so the rate limiter's count of a key never goes
back to zero.

The API server's two answers are arguments (what `Get` and `List` returned on that turn);
the cloud is the program's, as for every entry point. The queue keeps each waiting key once
(the work queue's dirty set) and counts, per key, the failures its rate limiter has seen
(`NumRequeues`). A key re-added with backoff waits like any other, since the backoff only
delays it.
-/

set_option autoImplicit false

namespace ThalassaCcm
namespace Engine

open Cloud Prog

/-! ## 1. Nodes -/

/-- `corev1.NodeReady`. -/
def nodeReady : String := "Ready"

/-- `IsNodeReady`: a `Ready` condition with status `True`. -/
def isNodeReady (node : Node) : Bool :=
  node.conditions.any fun c => c.type = nodeReady ∧ c.status = "True"

/-- `filterReadyNodes`. -/
def filterReadyNodes (nodes : List Node) : List Node := nodes.filter isNodeReady

/-! ## 2. The rate-limited queue -/

/-- A `TypedRateLimitingInterface[string]` as the worker uses it. -/
structure WorkQueue where
  /-- The keys waiting, in order. -/
  queue : List String
  /-- The rate limiter's count of failures, per key. -/
  requeues : List (String × Nat)
  deriving DecidableEq, Repr

namespace WorkQueue

/-- `NumRequeues`. -/
def numRequeues (q : WorkQueue) (key : String) : Nat :=
  ((q.requeues.find? (·.1 = key)).map (·.2)).getD 0

/-- `Add`: a key already waiting is not queued twice. -/
def add (q : WorkQueue) (key : String) : WorkQueue :=
  if key ∈ q.queue then q else { q with queue := q.queue ++ [key] }

/-- `AddRateLimited`: the rate limiter counts one more failure of the key, and the key is
    added once its backoff has passed. -/
def addRateLimited (q : WorkQueue) (key : String) : WorkQueue :=
  { q.add key with requeues := (key, q.numRequeues key + 1) :: q.requeues.filter (·.1 ≠ key) }

end WorkQueue

/-! ## 3. The worker -/

/-- What the API server answers one resync: the Service `Get` and the node `List`. -/
structure ApiServerAnswers where
  service : Except String Service
  nodes : Except String (List Node)

/-- `processServiceResync`: whether it called `AddRateLimited` on the key. A malformed
    key, a failed `Get`, a Service of another type and a failed node listing all return
    without touching the queue. -/
def processServiceResync (lb : Loadbalancer) (slices : List EndpointSlice)
    (answers : ApiServerAnswers) (serviceKey : String) : Prog Bool :=
  match Go.split serviceKey "/" with
  | [_, _] =>
    match answers.service with
    | .error _ => pure false
    | .ok svc =>
      if svc.serviceType ≠ .LoadBalancer then pure false
      else
        match answers.nodes with
        | .error _ => pure false
        | .ok nodes => do
          match ← (updateLoadBalancer lb slices svc (filterReadyNodes nodes)).result with
          | .error _ => pure true
          | .ok _ => pure false
  | _ => pure false

/-- One turn of `processServiceQueue`: `Get` the first key, process it, `Done`. With no
    key waiting, the queue is left as it is. -/
def processNext (lb : Loadbalancer) (slices : List EndpointSlice) (answers : ApiServerAnswers)
    (q : WorkQueue) : Prog WorkQueue :=
  match q.queue with
  | [] => pure q
  | serviceKey :: rest => do
    let requeue ← processServiceResync lb slices answers serviceKey
    let q := { q with queue := rest }
    pure (if requeue then q.addRateLimited serviceKey else q)

/-- `processServiceQueue`, one turn per answer of the API server. -/
def processServiceQueue (lb : Loadbalancer) (slices : List EndpointSlice) :
    List ApiServerAnswers → WorkQueue → Prog WorkQueue
  | [], q => pure q
  | answers :: rest, q => do
    let q ← processNext lb slices answers q
    processServiceQueue lb slices rest q

end Engine
end ThalassaCcm
