import ThalassaCcm.Proof.Uniqueness
import ThalassaCcm.Proof.Selector

/-!
# What `EnsureLoadBalancerDeleted` leaves behind

`EnsureLoadBalancerDeleted` does all its work under the condition that its lookup finds a
load balancer. When it finds one, it deletes the Service's unreferenced target groups,
the load balancer, waits until the lookup finds nothing, deletes every listed group
without listeners, and then tries to delete the first security group the Service's
selector matches, ignoring every error of that last step. When the lookup finds
nothing, it returns at once.

So a successful run leaves no load balancer of the Service (in a cloud reached from an
empty VPC, where every load balancer is named after its UID), and, when it found one,
no target group of the Service without a listener (`ensureLoadBalancerDeleted_ok`). A
retry after a create that failed past the managed security group, or after a run that
deleted the load balancer and then failed, finds nothing and leaves the group and the
target groups in place (`ensureLoadBalancerDeleted_after_failed_create`).
-/

set_option autoImplicit false

namespace ThalassaCcm
namespace Engine

open Cloud Prog StrMap

/-! ## 1. The delete-wait -/

/-- The delete-wait's condition holds only where the lookup finds nothing. -/
theorem wp_deletedCondition {G : State → Call → Prop} {P : State → Prop} (lb : Loadbalancer)
    (svc : Service) (hP : EnvStable P) (hG : ∀ s, P s → G s .listLoadbalancers) {s : State}
    (hs : P s) :
    Wp (fun _ => True) G (deletedCondition lb svc)
      (fun r s' => P s' ∧ ∀ b, r = some b → NoLoadbalancerFor lb svc s') (fun _ => P) s := by
  refine Wp.bind (Wp.result trivial ((wp_fetchVpcLoadbalancerFromCloud lb svc hP hG hs).mono
    (fun r s' h => ?_) fun f s' h => ?_))
  · obtain ⟨h, rfl⟩ := h
    split
    next heq =>
      exact Wp.ret ⟨h, fun _ _ => (findVpcLoadbalancer_eq_none_iff lb svc _).mp (Except.ok.inj heq)⟩
    next => exact Wp.ret ⟨h, fun _ hb => Option.noConfusion hb⟩
  · cases f
    · exact Wp.ret ⟨h, fun _ hb => Option.noConfusion hb⟩
    · exact h

/-! ## 2. The last loop -/

/-- The target groups and listeners a step of the cleanup leaves: the listeners as they
    were, and some of the target groups. -/
def TgFrame (s s' : State) : Prop :=
  s'.listeners = s.listeners ∧ s'.targetGroups.Sublist s.targetGroups

theorem TgFrame.refl (s : State) : TgFrame s s := ⟨rfl, List.Sublist.refl _⟩

theorem TgFrame.trans {s₁ s₂ s₃ : State} (h₁ : TgFrame s₁ s₂) (h₂ : TgFrame s₂ s₃) :
    TgFrame s₁ s₃ := ⟨h₂.1.trans h₁.1, h₂.2.trans h₁.2⟩

theorem TgFrame.applyEnv (s : State) (e : EnvEvent) : TgFrame s (s.applyEnv e) := by
  simp [TgFrame]

theorem TgFrame.evolve (s : State) (es : List EnvEvent) : TgFrame s (s.evolve es) := by
  induction es generalizing s with
  | nil => exact TgFrame.refl s
  | cons e es ih => exact (TgFrame.applyEnv s e).trans (ih (s.applyEnv e))

/-- Reads and security-group calls leave target groups and listeners alone. -/
theorem TgFrame.respond_of_kind (s : State) {c : Call} (hl : c.kind ≠ .listener)
    (hlb : c.kind ≠ .loadbalancer) (ht : c.kind ≠ .targetGroup) (f : Fault) :
    TgFrame s (s.respond c f).1 :=
  State.respond_of_perform s c (TgFrame.refl s)
    ⟨State.perform_listeners s c hl hlb, by rw [State.perform_targetGroups s c ht]⟩ f

theorem perform_deleteTargetGroup_eq_ok {s s' : State} {id : String} {v : Unit}
    (h : s.perform (.deleteTargetGroup id) = (s', .ok v)) :
    s' = { s with targetGroups := s.targetGroups.filter (·.identity ≠ id) } := by
  simp only [State.perform] at h
  split at h <;> simp only [Prod.mk.injEq, reduceCtorEq, and_false] at h
  exact h.1.symm

/-- A successful `DeleteTargetGroup` leaves no group with the identity, and changes
    nothing but target groups. -/
theorem wp_api_deleteTargetGroup {G : State → Call → Prop} {P : State → Prop}
    (hP : EnvStable P) (hdel : ∀ s f id, P s → P (s.respond (.deleteTargetGroup id) f).1)
    (hG : ∀ s id, P s → G s (.deleteTargetGroup id)) (id : String) {s : State} (hs : P s) :
    Wp (fun _ => True) G (api (.deleteTargetGroup id))
      (fun _ s' => P s' ∧ TgFrame s s' ∧ ∀ tg' ∈ s'.targetGroups, tg'.identity ≠ id)
      (fun _ => P) s := by
  refine Wp.api trivial fun es f _ => ⟨hG _ _ (hP.evolve hs es), ?_⟩
  have hs' := hdel _ f id (hP.evolve hs es)
  cases f with
  | ok =>
    simp only [State.respond] at hs' ⊢
    rcases hp : (s.evolve es).perform (.deleteTargetGroup id) with ⟨s', _ | v⟩ <;>
      rw [hp] at hs'
    · exact hs'
    · refine ⟨hs', ?_, fun tg' ht' => ?_⟩
      · rw [perform_deleteTargetGroup_eq_ok hp]
        exact (TgFrame.evolve s es).trans ⟨rfl, List.filter_sublist _⟩
      · rw [perform_deleteTargetGroup_eq_ok hp] at ht'
        simpa using (List.mem_filter.mp ht').2
  | fail e => exact hs'
  | failAfter e => exact hs'

/-- `deleteTargetGroupsWithoutListeners` deletes every listed group without listeners, and
    only target groups. -/
theorem wp_deleteTargetGroupsWithoutListeners {G : State → Call → Prop} {P : State → Prop}
    (hP : EnvStable P) (hdel : ∀ s f id, P s → P (s.respond (.deleteTargetGroup id) f).1)
    (hG : ∀ s id, P s → G s (.deleteTargetGroup id)) (tgs : List VpcLoadbalancerTargetGroup)
    {s : State} (hs : P s) :
    Wp (fun _ => True) G (deleteTargetGroupsWithoutListeners tgs)
      (fun _ s' => P s' ∧ TgFrame s s' ∧ ∀ tg ∈ tgs, tg.loadbalancerListeners = [] →
        ∀ tg' ∈ s'.targetGroups, tg'.identity ≠ tg.identity) (fun _ => P) s := by
  induction tgs generalizing s with
  | nil => exact Wp.ret ⟨hs, TgFrame.refl s, List.forall_mem_nil _⟩
  | cons tg rest ih =>
    simp only [deleteTargetGroupsWithoutListeners, bind_eq, pure_eq, ret_bind]
    split
    · refine Wp.bind ((wp_api_deleteTargetGroup hP hdel hG tg.identity hs).mono
        (fun _ s₁ h₁ => (ih h₁.1).mono (fun _ s' h => ⟨h.1, h₁.2.1.trans h.2.1, ?_⟩)
          fun _ _ h => h) fun _ _ h => h)
      rintro t (_ | ⟨_, ht⟩) htl t' ht'
      · exact h₁.2.2 t' (h.2.1.2.subset ht')
      · exact h.2.2 t ht htl t' ht'
    · refine (ih hs).mono (fun _ s' h => ⟨h.1, h.2.1, ?_⟩) fun _ _ h => h
      rintro t (_ | ⟨_, ht⟩) htl
      · contradiction
      · exact h.2.2 t ht htl

/-! ## 3. The whole deletion -/

/-- In a cloud with the invariant, where the lookup finds nothing no load balancer carries
    the Service's canonical labels. -/
theorem LbInv.not_canonical {s : State} (h : LbInv s) {lb : Loadbalancer} {svc : Service}
    (hno : NoLoadbalancerFor lb svc s) :
    ∀ x ∈ s.loadbalancers, matchLabels (canonicalLabels lb svc) x.labels = false := by
  intro x hx
  by_contra hm
  exact (hno x hx).2 (h.named x hx svc
    (get_uid_of_matchLabels_canonicalLabels (Bool.of_not_eq_false hm)))

/-- What the end of a deletion that found a load balancer keeps: the invariant, and that
    the lookup finds nothing. -/
def Deleted (lb : Loadbalancer) (svc : Service) (s : State) : Prop :=
  LbInv s ∧ NoLoadbalancerFor lb svc s

theorem Deleted.envStable (lb : Loadbalancer) (svc : Service) : EnvStable (Deleted lb svc) :=
  fun s e h => ⟨LbInv.envStable s e h.1, NoLoadbalancerFor.envStable lb svc s e h.2⟩

theorem Deleted.respond_of_kind {lb : Loadbalancer} {svc : Service} {s : State} (h : Deleted lb svc s)
    {c : Call} (hc : c.kind ≠ .loadbalancer) (f : Fault) : Deleted lb svc (s.respond c f).1 :=
  ⟨h.1.respond_of_kind hc f, h.2.of_keys (loadbalancerKeys_respond s hc f)⟩

/-- **A successful deletion.** From a cloud reached from an empty VPC, a run of
    `EnsureLoadBalancerDeleted` that returns leaves no load balancer carrying the
    Service's canonical labels; and when the lookup found a load balancer, every target
    group the Service's selector matches is referenced by a listener. -/
theorem ensureLoadBalancerDeleted_ok {subnets : List Subnet} {s : State}
    (hs : SeqReachable subnets s) (lb : Loadbalancer) (svc : Service) :
    Wp (fun _ => True) (fun _ _ => True) (ensureLoadBalancerDeleted lb svc)
      (fun _ s' => (∀ x ∈ s'.loadbalancers, matchLabels (canonicalLabels lb svc) x.labels = false) ∧
        ((findVpcLoadbalancer lb svc s.loadbalancers).isSome →
          ∀ tg ∈ s'.targetGroups, matchLabels (getLabelsForVpcLoadbalancer lb svc) tg.labels = true →
            s'.referencingListeners tg.identity ≠ []))
      (fun _ _ => True) s := by
  simp only [ensureLoadBalancerDeleted, bind_eq, pure_eq]
  refine Wp.bind ((wp_fetchVpcLoadbalancerFromCloud lb svc
    (show EnvStable fun t => LbInv t ∧ loadbalancerKeys t = loadbalancerKeys s from
      fun t e h => ⟨LbInv.envStable t e h.1, (loadbalancerKeys_applyEnv t e).trans h.2⟩)
    (fun _ _ => trivial) ⟨hs.lbInv, rfl⟩).mono (fun found s₁ h => ?_) fun _ _ _ => trivial)
  obtain ⟨⟨hI₁, hk₁⟩, rfl⟩ := h
  split
  next hx =>
    have hno := (findVpcLoadbalancer_eq_none_iff lb svc _).mp hx
    refine Wp.ret ⟨hI₁.not_canonical hno, fun hsome => ?_⟩
    rw [(findVpcLoadbalancer_eq_none_iff lb svc _).mpr
      ((show NoLoadbalancerFor lb svc s₁ from hno).of_keys hk₁.symm)] at hsome
    cases hsome
  next x hx =>
    refine Wp.bind ((Wp.of_allCalls (calls_cleanupUnusedTargetGroups lb svc []) LbInv.envStable
      (fun _ _ f hc h => h.respond_of_kind (hc.kind_ne (by decide)) f) (fun _ _ _ _ => trivial)
      hI₁).mono (fun _ s₂ h₂ => ?_) fun _ _ _ => trivial)
    refine Wp.bind ((Wp.api_inv LbInv.envStable (fun t f h => State.respond_of_perform t _ h
      (h.perform_delete x.identity) f) (fun _ _ => trivial) h₂).mono (fun _ s₃ h₃ => ?_)
      fun _ _ _ => trivial)
    refine Wp.bind ((wp_pollUntilContextTimeout (fun t h => wp_deletedCondition lb svc
      LbInv.envStable (fun _ _ => trivial) h) _ h₃).mono (fun _ s₄ h₄ => ?_) fun _ _ _ => trivial)
    refine Wp.bind (Wp.api trivial fun es f _ => ⟨trivial, ?_⟩)
    have h₅ : Deleted lb svc (s₄.evolve es) := (Deleted.envStable lb svc).evolve h₄ es
    cases f <;> simp only [State.respond, State.perform]
    refine Wp.bind ((wp_deleteTargetGroupsWithoutListeners (Deleted.envStable lb svc)
      (fun _ f _ h => h.respond_of_kind (by simp [Call.kind]) f) (fun _ _ _ => trivial) _ h₅).mono
      (fun _ s₆ h₆ => ?_) fun _ _ _ => trivial)
    refine (Wp.of_allCalls (calls_deleteManagedSecurityGroup lb svc)
      (show EnvStable fun t => Deleted lb svc t ∧ TgFrame s₆ t from
        fun t e h => ⟨(Deleted.envStable lb svc) t e h.1, h.2.trans (TgFrame.applyEnv t e)⟩)
      (fun t c f hc h => ⟨h.1.respond_of_kind (hc.kind_ne (by decide)) f,
        h.2.trans (TgFrame.respond_of_kind t (hc.kind_ne (by decide)) (hc.kind_ne (by decide))
          (hc.kind_ne (by decide)) f)⟩)
      (fun _ _ _ _ => trivial) ⟨h₆.1, TgFrame.refl s₆⟩).mono
      (fun _ s₇ h₇ => ⟨h₇.1.1.not_canonical h₇.1.2, fun _ tg htg hm hne => ?_⟩) fun _ _ _ => trivial
    have hframe := h₆.2.1.trans h₇.2
    have hl : s₇.referencingListeners tg.identity = (s₄.evolve es).referencingListeners tg.identity := by
      simp only [State.referencingListeners, hframe.1]
    refine h₆.2.2 { tg with loadbalancerListeners := (s₄.evolve es).referencingListeners tg.identity }
      (List.mem_map.mpr ⟨tg, List.mem_filter.mpr ⟨hframe.2.subset htg, hm⟩, rfl⟩)
      (hl ▸ hne) tg (h₇.2.2.subset htg) rfl

/-- A schedule under which the fifth call, `CreateLoadbalancer` after the managed group was
    made, fails. -/
def createFailsSchedule : List Tick := [{}, {}, {}, {}, ⟨[], .fail "internal error"⟩]

/-- The cloud after `EnsureLoadBalancer` of the payments Service failed at its
    `CreateLoadbalancer`. -/
def afterFailedCreate : State :=
  (exec (Op.prog ⟨configWithLabels [], paymentsService, .ensure [] []⟩) createFailsSchedule
    (State.empty [⟨"subnet-1", "main"⟩])).state

/-- **What a deletion that returns guarantees, and what it leaves.** In general, the
    successful deletion of `ensureLoadBalancerDeleted_ok`: no load balancer with the
    Service's canonical labels, and, when the lookup found one, every target group of the
    Service referenced. Once the lookup finds nothing, no cleanup runs: a retried deletion
    after a failed create returns without error and leaves the managed security group, which
    carries the Service's canonical labels. -/
theorem ensureLoadBalancerDeleted_after_failed_create :
    (∀ (subnets : List Subnet) (s : State), SeqReachable subnets s →
      ∀ (lb : Loadbalancer) (svc : Service),
        Wp (fun _ => True) (fun _ _ => True) (ensureLoadBalancerDeleted lb svc)
          (fun _ s' => (∀ x ∈ s'.loadbalancers,
              matchLabels (canonicalLabels lb svc) x.labels = false) ∧
            ((findVpcLoadbalancer lb svc s.loadbalancers).isSome →
              ∀ tg ∈ s'.targetGroups, matchLabels (getLabelsForVpcLoadbalancer lb svc) tg.labels = true →
                s'.referencingListeners tg.identity ≠ []))
          (fun _ _ => True) s) ∧
    SeqReachable [⟨"subnet-1", "main"⟩] afterFailedCreate ∧
    (exec (ensureLoadBalancerDeleted (configWithLabels []) paymentsService) []
      afterFailedCreate).value.isOk ∧
    ((exec (ensureLoadBalancerDeleted (configWithLabels []) paymentsService) []
      afterFailedCreate).state.securityGroups.any fun sg =>
        matchLabels (canonicalLabels (configWithLabels []) paymentsService) sg.labels) = true :=
  ⟨fun _ _ hs => ensureLoadBalancerDeleted_ok hs, SeqReachable.step _ _ SeqReachable.init,
    by decide, by decide⟩

end Engine
end ThalassaCcm
