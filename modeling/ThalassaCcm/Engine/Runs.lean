import ThalassaCcm.Engine.Reconcile

/-!
# Runs of the controller

The service controller calls `EnsureLoadBalancer`, `UpdateLoadBalancer` and
`EnsureLoadBalancerDeleted`; the resync worker calls `UpdateLoadBalancer`. An `Op` is
one such call, with the configuration it runs under (an operator may change the
configuration between calls) and the endpoint-slice cache it reads.

Two notions of run:

* `SeqReachable`: operations one after another from an empty VPC, each under its own
  schedule, so each may fail after any of its cloud calls and the cloud may make progress
  between any two calls.
* `Sys` and `Label`: interleavings. A system is the cloud and the operations in flight;
  a label starts an operation, lets one operation make its next call under a tick, or
  lets the cloud make progress. `runLabels` is deterministic, so a reachable system is
  the image of a label list, and a statement over every label list is a statement over
  every interleaving.
-/

set_option autoImplicit false

namespace ThalassaCcm
namespace Engine

open Cloud Prog

/-- One call of an entry point. -/
inductive OpKind where
  | ensure (slices : List EndpointSlice) (nodes : List Node)
  | update (slices : List EndpointSlice) (nodes : List Node)
  | delete

/-- An entry-point call for a Service under a configuration. -/
structure Op where
  lb : Loadbalancer
  svc : Service
  kind : OpKind

/-- The program of an operation, its result discarded. -/
def Op.prog (op : Op) : Prog Unit :=
  match op.kind with
  | .ensure slices nodes => (ensureLoadBalancer op.lb slices op.svc nodes).bind fun _ => pure ()
  | .update slices nodes => updateLoadBalancer op.lb slices op.svc nodes
  | .delete => ensureLoadBalancerDeleted op.lb op.svc

/-- The states reachable from an empty VPC by operations run one after another, each
    under any schedule of faults and cloud progress. -/
inductive SeqReachable (subnets : List Subnet) : State → Prop
  | init : SeqReachable subnets (State.empty subnets)
  | step {s : State} (op : Op) (ts : List Tick) :
      SeqReachable subnets s → SeqReachable subnets (exec op.prog ts s).state

/-! ## Interleavings -/

/-- An operation in flight: the Service it is for, and the rest of its program. -/
structure Thread where
  svc : Service
  prog : Prog Unit

/-- The call the operation makes next, if it is still in flight. -/
def Thread.pending (th : Thread) : Option Call :=
  match th.prog with
  | .call c _ => some c
  | _ => none

/-- The operation has returned, without error. -/
def Thread.succeeded (th : Thread) : Bool :=
  match th.prog with
  | .ret _ => true
  | _ => false

/-- The cloud and the operations in flight. -/
structure Sys where
  cloud : State
  threads : List Thread

/-- One step of an interleaving. -/
inductive Label where
  /-- An operation starts. -/
  | start (op : Op)
  /-- Operation `i` makes its next call, under a tick. -/
  | step (i : Nat) (t : Tick)
  /-- The cloud makes progress on its own. -/
  | env (e : EnvEvent)

/-- One call of a program under a tick: the next cloud and the rest of the program
    (a finished program stays as it is). -/
def stepProg (s : State) (t : Tick) : Prog Unit → State × Prog Unit
  | .call c k =>
    let r := (t.env.foldl State.applyEnv s).respond c t.fault
    (r.1, k r.2)
  | p => (s, p)

def Sys.apply (sys : Sys) : Label → Sys
  | .start op => { sys with threads := sys.threads ++ [⟨op.svc, op.prog⟩] }
  | .step i t =>
    match sys.threads[i]? with
    | none => sys
    | some th =>
      let r := stepProg sys.cloud t th.prog
      ⟨r.1, sys.threads.set i ⟨th.svc, r.2⟩⟩
  | .env e => { sys with cloud := sys.cloud.applyEnv e }

/-- The system after a list of labels. -/
def runLabels (sys : Sys) (labels : List Label) : Sys := labels.foldl Sys.apply sys

/-- The system with an empty VPC and nothing in flight. -/
def Sys.init (subnets : List Subnet) : Sys := ⟨State.empty subnets, []⟩

/-- Whether, along the labels, every operation starts only when no operation for a Service
    with its UID is in flight: the serialization per Service that the controller's queue
    provides, and that the resync worker does not take part in. -/
def serialRun : Sys → List Label → Bool
  | _, [] => true
  | sys, l :: ls =>
    (match l with
      | .start op => sys.threads.all fun th => th.pending.isNone || th.svc.uid != op.svc.uid
      | _ => true) && serialRun (sys.apply l) ls

end Engine
end ThalassaCcm
