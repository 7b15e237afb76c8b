import ThalassaCcm.Engine.Reconcile
import ThalassaCcm.Cloud.Fresh

/-!
# What each reconcile function calls

One lemma per function of `Engine/`: the kinds of call it can make, whatever the cloud
answers (`Cloud.AllCalls`). Callers cite these and never unfold the callee. Together with
the frame lemmas of `Cloud/Fresh.lean` they say which part of the cloud a function can
change: the target-group step only target groups, the listener step only listeners, the
managed-group helpers only security groups; only `createVpcLoadbalancer`,
`updateVpcLoadbalancer` and `EnsureLoadBalancerDeleted` call the load-balancer API, and
`updateVpcLoadbalancer` writes back the name and labels of the load balancer it was
given.
-/

set_option autoImplicit false

namespace ThalassaCcm
namespace Engine

open Cloud Prog

/-- `updateVpcLoadbalancer`'s call on the load balancer it was given: its identity, with
    its own name and labels. -/
def WritesBack (x : VpcLoadbalancer) (c : Call) : Prop :=
  ∃ req, c = .updateLoadbalancer x.identity req ∧ req.name = x.name ∧ req.labels = x.labels

/-! ## 1. Lookup and security groups -/

theorem calls_fetchVpcLoadbalancerFromCloud (lb : Loadbalancer) (svc : Service) :
    AllCalls (KindIn [.read]) (fetchVpcLoadbalancerFromCloud lb svc) :=
  (AllCalls.api (by simp [KindIn, Call.kind])).bind fun _ => .ret _

theorem calls_verifySecurityGroupsExist (lb : Loadbalancer) (sgs : List String) :
    AllCalls (KindIn [.read]) (verifySecurityGroupsExist lb sgs) := by
  unfold verifySecurityGroupsExist
  split
  · exact .ret _
  · exact (AllCalls.wrap _ (.api (by simp [KindIn, Call.kind]))).bind fun _ => by split <;> first | exact .ret _ | exact .fail _

theorem calls_findManagedSecurityGroup (lb : Loadbalancer) (svc : Service) :
    AllCalls (KindIn [.read]) (findManagedSecurityGroup lb svc) :=
  (AllCalls.wrap _ (.api (by simp [KindIn, Call.kind]))).bind fun _ => .ret _

theorem calls_ensureManagedSecurityGroup (lb : Loadbalancer) (svc : Service)
    (ls : List VpcLoadbalancerListener) :
    AllCalls (KindIn [.read, .securityGroup]) (ensureManagedSecurityGroup lb svc ls) :=
  (AllCalls.wrap _ ((calls_findManagedSecurityGroup lb svc).kinds (by decide))).bind fun sg => by
    cases sg <;> exact AllCalls.wrap _ (.api (by simp [KindIn, Call.kind]))

theorem calls_deleteManagedSecurityGroup (lb : Loadbalancer) (svc : Service) :
    AllCalls (KindIn [.read, .securityGroup]) (deleteManagedSecurityGroup lb svc) :=
  ((calls_findManagedSecurityGroup lb svc).kinds (by decide)).result.bind fun r => by
    rcases r with _ | _ | sg
    · exact .ret _
    · exact .ret _
    · exact (AllCalls.attempt (by simp [KindIn, Call.kind])).bind fun _ => .ret _

theorem calls_createVpcLoadbalancerRequest (lb : Loadbalancer) (n : String) (svc : Service) :
    AllCalls (KindIn [.read, .securityGroup]) (createVpcLoadbalancerRequest lb n svc) := by
  simp only [createVpcLoadbalancerRequest, bind_eq, pure_eq, ret_bind, throw_bind]
  refine (AllCalls.wrap _ (.api (by simp [KindIn, Call.kind]))).bind fun vpc => ?_
  split
  · exact .fail _
  split
  · exact .fail _
  refine (AllCalls.wrap _ ((calls_verifySecurityGroupsExist lb _).kinds (by decide))).bind
    fun _ => ?_
  split
  · exact (calls_ensureManagedSecurityGroup lb svc _).bind fun _ => .ret _
  · exact .ret _

/-! ## 2. Target groups and listeners -/

theorem calls_upgradeTargetGroupAttachments (tg : VpcLoadbalancerTargetGroup)
    (nodes : List Node) :
    AllCalls (KindIn [.read, .targetGroup]) (upgradeTargetGroupAttachments tg nodes) :=
  AllCalls.wrap _ (.api (by simp [KindIn, Call.kind]))

theorem calls_createMissingTargetGroups (nodes : List Node) (keys : List (String × Nat))
    (desired : List VpcLoadbalancerTargetGroup) :
    AllCalls (KindIn [.read, .targetGroup]) (createMissingTargetGroups nodes keys desired) := by
  induction desired with
  | nil => exact .ret _
  | cons tg rest ih =>
    rw [createMissingTargetGroups]
    split
    · exact ih
    · refine (AllCalls.wrap _ (.api (by simp [KindIn, Call.kind]))).bind fun created => ?_
      cases created
      · exact .fail _
      · exact (AllCalls.wrap _ (calls_upgradeTargetGroupAttachments _ nodes)).bind fun _ =>
          ih.bind fun _ => .ret _

theorem calls_updateExistingTargetGroups (nodes : List Node)
    (desired existing : List VpcLoadbalancerTargetGroup) :
    AllCalls (KindIn [.read, .targetGroup]) (updateExistingTargetGroups nodes desired existing) := by
  induction existing with
  | nil => exact .ret _
  | cons tg rest ih =>
    rw [updateExistingTargetGroups]
    split
    · exact ih
    · split
      · exact ih
      · refine (AllCalls.wrap _ (.api (by simp [KindIn, Call.kind]))).bind fun updated => ?_
        cases updated
        · exact .fail _
        · exact (AllCalls.wrap _ (calls_upgradeTargetGroupAttachments _ nodes)).bind fun _ =>
            ih.bind fun _ => .ret _

theorem calls_createOrUpdateTargetGroups (lb : Loadbalancer) (svc : Service)
    (desired : List VpcLoadbalancerTargetGroup) (nodes : List Node) :
    AllCalls (KindIn [.read, .targetGroup]) (createOrUpdateTargetGroups lb svc desired nodes) :=
  (AllCalls.wrap _ (.api (by simp [KindIn, Call.kind]))).bind fun existing =>
    (calls_createMissingTargetGroups nodes _ desired).bind fun _ =>
      (calls_updateExistingTargetGroups nodes desired existing).bind fun _ => .ret _

theorem calls_deleteUnusedTargetGroups (keep : List (String × Nat))
    (tgs : List VpcLoadbalancerTargetGroup) :
    AllCalls (KindIn [.read, .targetGroup]) (deleteUnusedTargetGroups keep tgs) := by
  induction tgs with
  | nil => exact .ret _
  | cons tg rest ih =>
    simp only [deleteUnusedTargetGroups, bind_eq, pure_eq, ret_bind]
    split
    · exact (AllCalls.wrap _ (.api (by simp [KindIn, Call.kind]))).bind fun _ => ih
    · exact ih

theorem calls_cleanupUnusedTargetGroups (lb : Loadbalancer) (svc : Service)
    (desired : List VpcLoadbalancerTargetGroup) :
    AllCalls (KindIn [.read, .targetGroup]) (cleanupUnusedTargetGroups lb svc desired) :=
  (AllCalls.wrap _ (.api (by simp [KindIn, Call.kind]))).bind fun _ =>
    calls_deleteUnusedTargetGroups _ _

theorem calls_deleteTargetGroupsWithoutListeners (tgs : List VpcLoadbalancerTargetGroup) :
    AllCalls (KindIn [.read, .targetGroup]) (deleteTargetGroupsWithoutListeners tgs) := by
  induction tgs with
  | nil => exact .ret _
  | cons tg rest ih =>
    simp only [deleteTargetGroupsWithoutListeners, bind_eq, pure_eq, ret_bind]
    split
    · exact (AllCalls.api (by simp [KindIn, Call.kind])).bind fun _ => ih
    · exact ih

/-- Every call of the first loop of the listener step: a listed listener is deleted when
    no desired listener has its port, and otherwise rewritten from the last desired
    listener on its port, with that listener's protocol. -/
theorem calls_updateOrDeleteListeners (lb : Loadbalancer) (svc : Service) (lbId : String)
    (desired : List VpcLoadbalancerListener) (tgs : List VpcLoadbalancerTargetGroup)
    (existing : List VpcLoadbalancerListener) :
    AllCalls (fun c => ∃ l ∈ existing,
      (lastOnPort desired l.port = none ∧ c = .deleteListener lbId l.identity) ∨
      ∃ d, lastOnPort desired l.port = some d ∧
        c = .updateListener lbId l.identity
          (listenerRequest d (getTargetGroupIdentityForListener lb svc d tgs)))
      (updateOrDeleteListeners lb svc lbId desired tgs existing) := by
  induction existing with
  | nil => exact .ret ()
  | cons l rest ih =>
    have tail : AllCalls (fun c => ∃ l' ∈ l :: rest, _) _ :=
      ih.mono fun c ⟨l', hl', h⟩ => ⟨l', .tail _ hl', h⟩
    simp only [updateOrDeleteListeners, bind_eq, pure_eq, ret_bind]
    split
    · exact (AllCalls.wrap _ (.api ⟨l, .head _, .inl ⟨‹_›, rfl⟩⟩)).bind fun _ => tail
    · split
      · exact (AllCalls.wrap _ (.api ⟨l, .head _, .inr ⟨_, ‹_›, rfl⟩⟩)).bind fun _ => tail
      · exact tail

/-- The calls of the listener step for the load balancer `id`: its listing, and the
    creation, update and deletion of its listeners. -/
def ListenerCallOn (id : String) : Call → Prop
  | .listListeners l | .createListener l _ | .updateListener l _ _ | .deleteListener l _ => l = id
  | _ => False

theorem ListenerCallOn.kindIn {id : String} {c : Call} (h : ListenerCallOn id c) :
    KindIn [.read, .listener] c := by
  cases c <;> simp only [ListenerCallOn] at h <;> simp [KindIn, Call.kind]

theorem calls_createMissingListeners (lb : Loadbalancer) (svc : Service) (lbId : String)
    (ports : List Nat) (tgs : List VpcLoadbalancerTargetGroup)
    (desired : List VpcLoadbalancerListener) :
    AllCalls (ListenerCallOn lbId) (createMissingListeners lb svc lbId ports tgs desired) := by
  induction desired with
  | nil => exact .ret _
  | cons l rest ih =>
    simp only [createMissingListeners, bind_eq, pure_eq, ret_bind]
    split
    · split
      · exact (AllCalls.wrap _ (.api (by exact rfl))).bind fun _ => ih
      · exact ih
    · exact ih

/-- The listener step touches only the listeners of the load balancer it was given. -/
theorem calls_updateVpcLoadbalancerListener_on (lb : Loadbalancer) (svc : Service)
    (x : VpcLoadbalancer) (desired : List VpcLoadbalancerListener)
    (tgs : List VpcLoadbalancerTargetGroup) :
    AllCalls (ListenerCallOn x.identity) (updateVpcLoadbalancerListener lb svc x desired tgs) := by
  simp only [updateVpcLoadbalancerListener, bind_eq, pure_eq, ret_bind]
  refine (AllCalls.wrap _ (.api (by exact rfl))).bind fun existing => ?_
  split
  · refine AllCalls.bind ?_ fun _ => calls_createMissingListeners lb svc _ _ tgs desired
    exact (calls_updateOrDeleteListeners lb svc _ desired tgs existing).mono fun c ⟨_, _, h⟩ => by
      rcases h with ⟨_, rfl⟩ | ⟨_, _, rfl⟩ <;> rfl
  · exact calls_createMissingListeners lb svc _ _ tgs desired

theorem calls_updateVpcLoadbalancerListener (lb : Loadbalancer) (svc : Service)
    (x : VpcLoadbalancer) (desired : List VpcLoadbalancerListener)
    (tgs : List VpcLoadbalancerTargetGroup) :
    AllCalls (KindIn [.read, .listener]) (updateVpcLoadbalancerListener lb svc x desired tgs) :=
  (calls_updateVpcLoadbalancerListener_on lb svc x desired tgs).mono fun _ h => h.kindIn

/-! ## 3. The reconcile step and the entry points -/

theorem calls_pollUntilContextTimeout {β : Type} {Q : Call → Prop} {cond : Prog (Option β)}
    (h : AllCalls Q cond) (n : Nat) : AllCalls Q (pollUntilContextTimeout cond n) := by
  induction n with
  | zero => exact h.bind fun r => by cases r <;> first | exact .ret _ | exact .fail _
  | succ n ih => exact h.bind fun r => by cases r <;> first | exact .ret _ | exact ih

theorem calls_readyCondition (lb : Loadbalancer) (svc : Service) (x : VpcLoadbalancer) :
    AllCalls (KindIn [.read]) (readyCondition lb svc x) := by
  unfold readyCondition
  split
  · exact .ret _
  · exact (calls_fetchVpcLoadbalancerFromCloud lb svc).bind fun r => by
      cases r <;> first | exact .ret _ | exact .fail _

theorem calls_deletedCondition (lb : Loadbalancer) (svc : Service) :
    AllCalls (KindIn [.read]) (deletedCondition lb svc) :=
  (calls_fetchVpcLoadbalancerFromCloud lb svc).result.bind fun r => by
    rcases r with _ | _ | _ <;> exact .ret _

/-- `updateVpcLoadbalancer` reads, keeps the managed group, and writes the load balancer
    it was given back with its own name and labels. -/
theorem calls_updateVpcLoadbalancer (lb : Loadbalancer) (svc : Service) (x : VpcLoadbalancer)
    (desired : List VpcLoadbalancerListener) :
    AllCalls (fun c => KindIn [.read, .securityGroup] c ∨ WritesBack x c)
      (updateVpcLoadbalancer lb svc x desired) := by
  have hk : ∀ c, KindIn [.read, .securityGroup] c →
      KindIn [.read, .securityGroup] c ∨ WritesBack x c := fun _ => .inl
  simp only [updateVpcLoadbalancer, bind_eq, pure_eq, ret_bind]
  refine (AllCalls.wrap _ ((calls_verifySecurityGroupsExist lb _).kinds (by decide) |>.mono hk)).bind
    fun _ => ?_
  have hwrite : ∀ req : UpdateLoadbalancer, req.name = x.name → req.labels = x.labels →
      AllCalls (fun c => KindIn [.read, .securityGroup] c ∨ WritesBack x c)
        ((wrap "failed to update loadbalancer: " (api (.updateLoadbalancer x.identity req))).bind
          fun _ => .ret ()) := fun req hn hl =>
    (AllCalls.wrap _ (.api (.inr ⟨req, rfl, hn, hl⟩))).bind fun _ => .ret _
  refine AllCalls.ite (fun _ => (AllCalls.wrap _ ((calls_ensureManagedSecurityGroup lb svc _).mono
    hk)).bind fun _ => ?_) fun _ => ?_ <;>
  exact AllCalls.ite (fun _ => hwrite _ (by rfl) (by rfl)) fun _ => .ret _

/-- The reconcile step: target groups, listeners, the cleanup, and the write-back of the
    load balancer it was given. -/
theorem calls_updateVpcLoadbalancerListenersAndTargetGroups (lb : Loadbalancer) (svc : Service)
    (nodes : List Node) (x : VpcLoadbalancer) :
    AllCalls (fun c => KindIn [.read, .targetGroup, .listener, .securityGroup] c ∨ WritesBack x c)
      (updateVpcLoadbalancerListenersAndTargetGroups lb svc nodes x) := by
  have hk : ∀ {ks : List CallKind},
      (∀ k ∈ ks, k ∈ [.read, .targetGroup, .listener, .securityGroup]) → ∀ c, KindIn ks c →
        KindIn [.read, .targetGroup, .listener, .securityGroup] c ∨ WritesBack x c :=
    fun h c hc => .inl (h _ hc)
  simp only [updateVpcLoadbalancerListenersAndTargetGroups, bind_eq, pure_eq, ret_bind,
    throw_bind]
  split
  next desiredTgs _ =>
    refine (AllCalls.wrap _ ((calls_createOrUpdateTargetGroups lb svc desiredTgs nodes).mono
      (hk (by decide)))).bind fun tgs => ?_
    refine (AllCalls.wrap _ ((calls_updateVpcLoadbalancerListener lb svc x _ tgs).mono
      (hk (by decide)))).bind fun _ => ?_
    refine (AllCalls.wrap _ ((calls_cleanupUnusedTargetGroups lb svc tgs).mono
      (hk (by decide)))).bind fun _ => ?_
    exact (AllCalls.wrap _ ((calls_updateVpcLoadbalancer lb svc x _).mono fun c h =>
      h.elim (hk (by decide) c) .inr)).bind fun _ => .ret _
  next => exact .fail _

/-- `EnsureLoadBalancerDeleted` reads, deletes target groups, the load balancer it found
    and the managed group. -/
theorem calls_ensureLoadBalancerDeleted (lb : Loadbalancer) (svc : Service) :
    AllCalls (fun c => KindIn [.read, .targetGroup, .securityGroup] c ∨
      ∃ id, c = .deleteLoadbalancer id) (ensureLoadBalancerDeleted lb svc) := by
  have hk : ∀ {ks : List CallKind}, (∀ k ∈ ks, k ∈ [.read, .targetGroup, .securityGroup]) →
      ∀ c, KindIn ks c → KindIn [.read, .targetGroup, .securityGroup] c ∨
        ∃ id, c = .deleteLoadbalancer id :=
    fun h c hc => .inl (h _ hc)
  refine ((calls_fetchVpcLoadbalancerFromCloud lb svc).mono (hk (by decide))).bind fun found => ?_
  rcases found with _ | x
  · exact .ret _
  refine ((calls_cleanupUnusedTargetGroups lb svc []).mono (hk (by decide))).bind fun _ => ?_
  refine (AllCalls.api (.inr ⟨_, rfl⟩)).bind fun _ => ?_
  refine ((calls_pollUntilContextTimeout (calls_deletedCondition lb svc) _).mono
    (hk (by decide))).bind fun _ => ?_
  refine (AllCalls.api (.inl (by simp [KindIn, Call.kind]))).bind fun tgs => ?_
  exact ((calls_deleteTargetGroupsWithoutListeners tgs).mono (hk (by decide))).bind fun _ =>
    (calls_deleteManagedSecurityGroup lb svc).mono (hk (by decide))

end Engine
end ThalassaCcm
