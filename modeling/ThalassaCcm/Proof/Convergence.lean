import ThalassaCcm.Proof.SecurityGroups
import ThalassaCcm.Proof.TargetGroupKeys

/-!
# A reconciled Service: the next reconcile creates nothing

Every reconcile of a Service looks the cloud up before it creates anything. The lookup of
the load balancer decides whether `EnsureLoadBalancer` creates one; the listing of the
Service's target groups decides which desired keys the creation loop creates; the listing
of the load balancer's listeners decides which desired ports get a listener; the lookup of
the managed security group decides whether it is created. `Settled` says that all four
lookups find what the Service wants, and `Converged` that the load balancer the lookup
finds is settled.

Two halves:

* A successful `EnsureLoadBalancer` or `UpdateLoadBalancer` leaves the cloud converged
  (`wp_ensureLoadBalancer_converged`), under the hypotheses of the listener reconcile:
  distinct port numbers, distinct protocol and node-port pairs, and operator labels that
  leave the Service-port key to the Service.
* From a converged cloud, no run of either entry point makes a create call
  (`wp_ensureLoadBalancer_noCreate`), whatever the cloud answers and whatever nodes and
  endpoint slices it runs with: the creation loops read listings that already have every
  desired key and port, and the other steps only read, update and delete.

Together (`reconcile_settles`): a controller that keeps reconciling a Service adds nothing
to the cloud after its first success.
-/

set_option autoImplicit false

namespace ThalassaCcm
namespace Engine

open Cloud Prog StrMap

/-! ## 1. Creating calls -/

/-- The calls that add an object to the cloud. -/
def creates : Call → Bool
  | .createLoadbalancer _ | .createListener _ _ | .createTargetGroup _
  | .createSecurityGroup _ => true
  | _ => false

/-- The guarantee of a run that adds nothing. -/
def NoCreate (_ : State) (c : Call) : Prop := creates c = false

theorem creates_of_read {c : Call} (h : KindIn [.read] c) : creates c = false := by
  cases c <;> first | rfl | exact absurd h (by simp [KindIn, Call.kind])

/-- A program all of whose calls add nothing meets the guarantee from any cloud. -/
theorem wp_noCreate_of_calls {α : Type} {p : Prog α} (hp : AllCalls (creates · = false) p)
    {s : State} : Wp (fun _ => True) NoCreate p (fun _ _ => True) (fun _ _ => True) s :=
  (Wp.of_forall (fun _ _ => trivial) (fun _ _ => trivial) fun _ _ => trivial).guar_of_allCalls
    hp fun _ _ h => h

theorem calls_upgradeTargetGroupAttachments_noCreate (tg : VpcLoadbalancerTargetGroup)
    (nodes : List Node) : AllCalls (creates · = false) (upgradeTargetGroupAttachments tg nodes) :=
  AllCalls.wrap _ (.api (by rfl))

theorem calls_updateExistingTargetGroups_noCreate (nodes : List Node)
    (desired existing : List VpcLoadbalancerTargetGroup) :
    AllCalls (creates · = false) (updateExistingTargetGroups nodes desired existing) := by
  induction existing with
  | nil => exact .ret _
  | cons tg rest ih =>
    rw [updateExistingTargetGroups]
    split
    · exact ih
    · split
      · exact ih
      · refine (AllCalls.wrap _ (.api (by rfl))).bind fun updated => ?_
        cases updated
        · exact .fail _
        · exact (AllCalls.wrap _ (calls_upgradeTargetGroupAttachments_noCreate _ nodes)).bind
            fun _ => ih.bind fun _ => .ret _

/-- The creation loop over desired groups whose keys the listing has creates nothing. -/
theorem createMissingTargetGroups_of_subset (nodes : List Node) {keys : List (String × Nat)} :
    ∀ {ds : List VpcLoadbalancerTargetGroup}, (∀ d ∈ ds, targetGroupKey d ∈ keys) →
      createMissingTargetGroups nodes keys ds = pure []
  | [], _ => rfl
  | d :: ds, h => by
    rw [createMissingTargetGroups, if_pos (h d (.head _))]
    exact createMissingTargetGroups_of_subset nodes fun d' hd' => h d' (.tail _ hd')

/-- The creation loop over desired listeners whose ports the listing has creates
    nothing. -/
theorem createMissingListeners_of_subset (lb : Loadbalancer) (svc : Service) (lbId : String)
    {ports : List Nat} {tgs : List VpcLoadbalancerTargetGroup} :
    ∀ {desired : List VpcLoadbalancerListener}, (∀ l ∈ desired, l.port ∈ ports) →
      createMissingListeners lb svc lbId ports tgs desired = pure ()
  | [], _ => rfl
  | l :: rest, h => by
    simp only [createMissingListeners, bind_eq, pure_eq, h l (.head _), not_true_eq_false,
      if_false, ret_bind]
    exact createMissingListeners_of_subset lb svc lbId fun l' hl' => h l' (.tail _ hl')

theorem calls_updateOrDeleteListeners_noCreate (lb : Loadbalancer) (svc : Service)
    (lbId : String) (desired : List VpcLoadbalancerListener)
    (tgs : List VpcLoadbalancerTargetGroup) (existing : List VpcLoadbalancerListener) :
    AllCalls (creates · = false) (updateOrDeleteListeners lb svc lbId desired tgs existing) :=
  (calls_updateOrDeleteListeners lb svc lbId desired tgs existing).mono fun _ ⟨_, _, h⟩ => by
    rcases h with ⟨_, rfl⟩ | ⟨_, _, rfl⟩ <;> rfl

theorem calls_cleanupUnusedTargetGroups_noCreate (lb : Loadbalancer) (svc : Service)
    (desired : List VpcLoadbalancerTargetGroup) :
    AllCalls (creates · = false) (cleanupUnusedTargetGroups lb svc desired) :=
  (AllCalls.wrap _ (.api (by rfl))).bind fun existing =>
    (calls_deleteUnusedTargetGroups_listed _ existing).mono fun _ ⟨_, _, _, hc⟩ => by
      rw [hc]; rfl

/-! ## 2. Settled clouds -/

/-- What a Service's reconcile of the load balancer `lbId` looks up, in place. -/
structure Settled (lb : Loadbalancer) (svc : Service) (lbId : String) (s : State) : Prop where
  /-- A listener on every port of the Service. -/
  listeners : ∀ p ∈ svc.ports, p.port ∈ (lbListeners s lbId).map (·.port)
  /-- A group of the Service for the protocol and node port of each of its ports. -/
  targetGroups : ∀ p ∈ svc.ports,
    (Go.toLower p.protocol.toString, p.nodePort) ∈ serviceKeys lb svc s
  /-- The managed group, when the Service asks for one. -/
  managed : shouldCreateSecurityGroup svc = true →
    ∃ sg ∈ s.securityGroups, sg.labels = getLabelsForVpcLoadbalancer lb svc

/-- The load balancer the Service's lookup finds is settled. -/
def Converged (lb : Loadbalancer) (svc : Service) (s : State) : Prop :=
  ∃ x, findVpcLoadbalancer lb svc s.loadbalancers = some x ∧ Settled lb svc x.identity s

section Settled

variable {lb : Loadbalancer} {svc : Service}

theorem Settled.congr {lbId : String} {s s' : State} (h : Settled lb svc lbId s)
    (hl : s'.listeners = s.listeners) (ht : s'.targetGroups = s.targetGroups)
    (hs : s'.securityGroups = s.securityGroups) : Settled lb svc lbId s' where
  listeners := by unfold lbListeners; rw [hl]; exact h.listeners
  targetGroups := by unfold serviceKeys; rw [ht]; exact h.targetGroups
  managed := hs ▸ h.managed

theorem Converged.congr {s s' : State} (h : Converged lb svc s)
    (hk : loadbalancerKeys s' = loadbalancerKeys s) (hl : s'.listeners = s.listeners)
    (ht : s'.targetGroups = s.targetGroups) (hs : s'.securityGroups = s.securityGroups) :
    Converged lb svc s' :=
  let ⟨_, hx, hset⟩ := h
  let ⟨y, hy, hid⟩ := findVpcLoadbalancer_identity_of_keys hk hx
  ⟨y, hy, hid ▸ hset.congr hl ht hs⟩

theorem Converged.envStable : EnvStable (Converged lb svc) := fun s e h =>
  h.congr (loadbalancerKeys_applyEnv s e) (by simp) (by simp) (by simp)

theorem Converged.fresh_envStable : EnvStable fun s => s.Fresh ∧ Converged lb svc s :=
  fun s e h => ⟨h.1.applyEnv e, Converged.envStable s e h.2⟩

theorem Converged.respond_of_read {s : State} (h : Converged lb svc s) {c : Call}
    (hc : KindIn [.read] c) (f : Fault) : Converged lb svc (s.respond c f).1 :=
  State.respond_of_perform s c h
    (by rw [State.perform_of_read s c (List.mem_singleton.mp hc)]; exact h) f

end Settled

/-- A part of the cloud that the cloud's progress and every call `Qc` allows leave alone
    is where a run leaves it. -/
theorem wp_frame {α β : Type} {p : Prog α} {Qc : Call → Prop} (hp : AllCalls Qc p)
    (f : State → β) (henv : ∀ s e, f (s.applyEnv e) = f s)
    (hcall : ∀ s c, Qc c → f (s.perform c).1 = f s) {G : State → Call → Prop}
    {Q : α → State → Prop} {E : Failure → State → Prop} {s : State}
    (h : Wp (fun _ => True) G p Q E s) :
    Wp (fun _ => True) G p (fun a s' => Q a s' ∧ f s' = f s) (fun _ _ => True) s :=
  ((h.and (Wp.of_allCalls hp (fun t e ht => (henv t e).trans ht)
    (fun t c fl hc ht => @State.respond_of_perform t c (fun u => f u = f s) ht
      ((hcall t c hc).trans ht) fl) (fun _ _ _ _ => trivial) rfl)).guar
    fun _ _ h => h.1).mono (fun _ _ h => h) fun _ _ _ => trivial

/-! ## 3. From a settled cloud, nothing is created -/

section NoCreate

variable (lb : Loadbalancer) (svc : Service)

/-- The target-group step, where the listing has every desired key, only updates. -/
theorem wp_createOrUpdateTargetGroups_noCreate (nodes : List Node)
    {ds : List VpcLoadbalancerTargetGroup} {s : State} (hf : s.Fresh)
    (hds : ∀ d ∈ ds, targetGroupKey d ∈ serviceKeys lb svc s) :
    Wp (fun _ => True) NoCreate (createOrUpdateTargetGroups lb svc ds nodes) (fun _ _ => True)
      (fun _ _ => True) s := by
  simp only [createOrUpdateTargetGroups, bind_eq, pure_eq]
  refine Wp.bind_of (Wp.wrap_inv trivial (Wp.api_guar trivial (fun _ => rfl)
    (wp_listTargetGroups_ok lb svc hf))) fun existing _ h₁ => ?_
  rw [h₁.2.1, map_key_listedTargetGroups, createMissingTargetGroups_of_subset nodes hds]
  exact wp_noCreate_of_calls ((AllCalls.ret _).bind fun _ =>
    (calls_updateExistingTargetGroups_noCreate nodes ds _).bind fun _ => .ret _)

/-- The listener step, where the listing has a listener on every port of the Service,
    only updates and deletes. -/
theorem wp_updateVpcLoadbalancerListener_noCreate (x : VpcLoadbalancer)
    (tgs : List VpcLoadbalancerTargetGroup) {s : State} (hf : s.Fresh)
    (hl : ∀ p ∈ svc.ports, p.port ∈ (lbListeners s x.identity).map (·.port)) :
    Wp (fun _ => True) NoCreate
      (updateVpcLoadbalancerListener lb svc x (desiredVpcLoadbalancerListener lb svc) tgs)
      (fun _ _ => True) (fun _ _ => True) s := by
  simp only [updateVpcLoadbalancerListener, bind_eq, pure_eq, ret_bind]
  refine Wp.bind_of (Wp.wrap_inv trivial (Wp.api_guar trivial (fun _ => rfl)
    (wp_listListeners_ok x.identity hf))) fun existing _ h₁ => ?_
  have hports : existing.map (·.port) = (lbListeners s x.identity).map (·.port) := by
    simpa only [List.map_map] using congrArg (List.map Prod.snd) h₁.2.2
  rw [hports, createMissingListeners_of_subset lb svc _ fun d hd => ?_]
  · refine wp_noCreate_of_calls ?_
    split
    · exact (calls_updateOrDeleteListeners_noCreate lb svc _ _ tgs existing).bind fun _ => .ret _
    · exact .ret _
  · obtain ⟨p, hp, rfl⟩ := mem_desiredVpcLoadbalancerListener.mp hd
    exact hl p hp

@[simp] theorem securityGroups_evolve (s : State) (es : List EnvEvent) :
    (s.evolve es).securityGroups = s.securityGroups := by
  induction es generalizing s with
  | nil => rfl
  | cons e es ih => exact (ih _).trans (State.applyEnv_securityGroups s e)

/-- The lookup of the managed group finds one wherever the cloud has a group with the
    Service's labels. -/
theorem wp_findManagedSecurityGroup_isSome {s : State}
    (hm : ∃ sg ∈ s.securityGroups, sg.labels = getLabelsForVpcLoadbalancer lb svc) :
    Wp (fun _ => True) NoCreate (findManagedSecurityGroup lb svc) (fun r _ => r.isSome)
      (fun _ _ => True) s := by
  have hlist : Wp (fun _ => True) (fun _ _ => True)
      (api (.listSecurityGroups (some (getLabelsForVpcLoadbalancer lb svc))))
      (fun sgs _ => (sgs.find? fun sg =>
        matchLabels (getLabelsForVpcLoadbalancer lb svc) sg.labels).isSome)
      (fun _ _ => True) s := wp_api_ok fun es v hv => by
    simp only [State.perform, Except.ok.injEq] at hv
    obtain ⟨sg, hsg, hl⟩ := hm
    subst hv
    refine List.find?_isSome.mpr ⟨sg, List.mem_filter.mpr ⟨?_, ?_⟩, ?_⟩ <;>
      simp only [securityGroups_evolve, hsg, hl,
        matchLabels_self (unique_getLabelsForVpcLoadbalancer lb svc)]
  simp only [findManagedSecurityGroup, bind_eq, pure_eq]
  exact Wp.bind_of (Wp.wrap_inv trivial (Wp.api_guar trivial (fun _ => rfl) hlist))
    fun _ _ h => Wp.ret h

theorem wp_ensureManagedSecurityGroup_noCreate (desired : List VpcLoadbalancerListener)
    {s : State} (hm : ∃ sg ∈ s.securityGroups, sg.labels = getLabelsForVpcLoadbalancer lb svc) :
    Wp (fun _ => True) NoCreate (ensureManagedSecurityGroup lb svc desired) (fun _ _ => True)
      (fun _ _ => True) s := by
  simp only [ensureManagedSecurityGroup, bind_eq, pure_eq]
  refine Wp.bind_of (Wp.wrap_inv trivial (wp_findManagedSecurityGroup_isSome lb svc hm))
    fun r _ hr => ?_
  obtain ⟨sg, rfl⟩ := Option.isSome_iff_exists.mp hr
  exact wp_noCreate_of_calls (AllCalls.wrap _ (.api (by rfl)))

/-- The write-back, where the managed group exists, creates nothing. -/
theorem wp_updateVpcLoadbalancer_noCreate (x : VpcLoadbalancer)
    (desired : List VpcLoadbalancerListener) {s : State}
    (hm : shouldCreateSecurityGroup svc = true →
      ∃ sg ∈ s.securityGroups, sg.labels = getLabelsForVpcLoadbalancer lb svc) :
    Wp (fun _ => True) NoCreate (updateVpcLoadbalancer lb svc x desired) (fun _ _ => True)
      (fun _ _ => True) s := by
  simp only [updateVpcLoadbalancer, bind_eq, pure_eq, ret_bind]
  have hverify := calls_verifySecurityGroupsExist lb (getSecurityGroupsForService svc)
  refine Wp.bind_of (Wp.wrap_inv trivial (wp_frame hverify (·.securityGroups) (fun _ _ => by simp)
    (fun t c hc => by rw [State.perform_of_read t c (List.mem_singleton.mp hc)])
    (wp_noCreate_of_calls (hverify.mono fun _ => creates_of_read)))) fun _ s₁ h₁ => ?_
  refine Wp.ite (fun hc => Wp.bind_of (Wp.wrap_inv trivial
    (wp_ensureManagedSecurityGroup_noCreate lb svc desired
      (by rw [show s₁.securityGroups = s.securityGroups from h₁.2]; exact hm hc)))
    fun _ _ _ => ?_) fun _ => ?_
  all_goals exact wp_noCreate_of_calls (AllCalls.ite (fun _ =>
    (AllCalls.wrap _ (.api (by rfl))).bind fun _ => .ret _) fun _ => .ret _)

/-- **The reconcile step** of a settled load balancer creates nothing: each step reads what
    the previous ones left alone. -/
theorem wp_updateVpcLoadbalancerListenersAndTargetGroups_noCreate (nodes : List Node)
    (x : VpcLoadbalancer) {s : State} (hf : s.Fresh) (hs : Settled lb svc x.identity s) :
    Wp (fun _ => True) NoCreate (updateVpcLoadbalancerListenersAndTargetGroups lb svc nodes x)
      (fun _ _ => True) (fun _ _ => True) s := by
  have hsg : ∀ {ks : List CallKind}, CallKind.securityGroup ∉ ks → ∀ (t : State) (c : Call),
      KindIn ks c → (t.perform c).1.securityGroups = t.securityGroups :=
    fun hks t c hc => State.perform_securityGroups t c (hc.kind_ne hks)
  refine @wp_updateVpcLoadbalancerListenersAndTargetGroups_of NoCreate lb svc nodes x s
    (fun _ t => t.Fresh ∧ t.listeners = s.listeners ∧ t.securityGroups = s.securityGroups)
    (fun _ t => t.securityGroups = s.securityGroups)
    (fun _ t => t.securityGroups = s.securityGroups)
    (fun ds hds => ?_) (fun tgs t h => ?_) (fun tgs _ h => ?_) fun _ _ h =>
      wp_updateVpcLoadbalancer_noCreate lb svc x _ fun hc => h ▸ hs.managed hc
  · obtain ⟨epp, policy, rfl⟩ := getDesiredVpcLoadbalancerTargetGroups_eq_ok hds
    have htg := @wp_createOrUpdateTargetGroups_noCreate lb svc nodes
      (svc.ports.map (desiredTargetGroupForPort lb svc epp policy (healthCheckSettings svc))) s hf
      fun d hd => by
      obtain ⟨p, hp, rfl⟩ := List.mem_map.mp hd
      exact hs.targetGroups p hp
    refine (wp_frame (calls_createOrUpdateTargetGroups lb svc _ nodes)
      (fun t => (t.listeners, t.securityGroups)) (fun _ _ => by simp) (fun t c hc => ?_)
      (htg.frame_of_guar State.Fresh.envStable (fun _ c f _ h => h.respond c f) hf)).mono
      (fun _ _ h => ⟨h.1.2, congrArg Prod.fst h.2, congrArg Prod.snd h.2⟩) fun _ _ _ => trivial
    dsimp only
    rw [State.perform_listeners t c (hc.kind_ne (by decide)) (hc.kind_ne (by decide)),
      State.perform_securityGroups t c (hc.kind_ne (by decide))]
  · refine (wp_frame (calls_updateVpcLoadbalancerListener lb svc x _ tgs) (·.securityGroups)
      (fun _ _ => by simp) (hsg (by decide))
      (wp_updateVpcLoadbalancerListener_noCreate lb svc x tgs h.1 fun p hp => ?_)).mono
      (fun _ _ h' => h'.2.trans h.2.2) fun _ _ _ => trivial
    unfold lbListeners
    rw [h.2.1]
    exact hs.listeners p hp
  · exact (wp_frame (calls_cleanupUnusedTargetGroups lb svc tgs) (·.securityGroups)
      (fun _ _ => by simp) (hsg (by decide))
      (wp_noCreate_of_calls (calls_cleanupUnusedTargetGroups_noCreate lb svc tgs))).mono
      (fun _ _ h' => h'.2.trans h) fun _ _ _ => trivial

/-- `EnsureLoadBalancer` on a converged cloud finds the load balancer and creates
    nothing. -/
theorem wp_ensureLoadBalancer_noCreate (slices : List EndpointSlice) (nodes : List Node)
    {s : State} (hf : s.Fresh) (hc : Converged lb svc s) :
    Wp (fun _ => True) NoCreate (ensureLoadBalancer lb slices svc nodes) (fun _ _ => True)
      (fun _ _ => True) s := by
  simp only [ensureLoadBalancer, bind_eq, pure_eq]
  refine Wp.bind ((wp_fetchVpcLoadbalancerFromCloud lb svc Converged.fresh_envStable
    (fun _ _ => show NoCreate _ _ from rfl) ⟨hf, hc⟩).mono (fun found s₁ h₁ => ?_)
    fun _ _ _ => trivial)
  obtain ⟨⟨hf₁, x, hx, hset⟩, rfl⟩ := h₁
  rw [hx]
  exact wp_updateVpcLoadbalancerListenersAndTargetGroups_noCreate lb svc _ x hf₁ hset

theorem wp_updateLoadBalancer_noCreate (slices : List EndpointSlice) (nodes : List Node)
    {s : State} (hf : s.Fresh) (hc : Converged lb svc s) :
    Wp (fun _ => True) NoCreate (updateLoadBalancer lb slices svc nodes) (fun _ _ => True)
      (fun _ _ => True) s := by
  simp only [updateLoadBalancer, bind_eq, pure_eq]
  refine Wp.bind (Wp.wrap_inv trivial ((wp_fetchVpcLoadbalancerFromCloud lb svc
    Converged.fresh_envStable (fun _ _ => show NoCreate _ _ from rfl) ⟨hf, hc⟩).mono
    (fun found s₁ h₁ => ?_) fun _ _ _ => trivial))
  obtain ⟨⟨hf₁, x, hx, hset⟩, rfl⟩ := h₁
  rw [hx]
  exact Wp.bind_of (Wp.wrap_inv trivial
    (wp_updateVpcLoadbalancerListenersAndTargetGroups_noCreate lb svc _ x hf₁ hset))
    fun _ _ _ => Wp.ret trivial

end NoCreate

/-! ## 4. A successful reconcile converges -/

section Converges

variable {lb : Loadbalancer} {svc : Service} (hnums : (svc.ports.map (·.port)).Nodup)
  (hkeys : (svc.ports.map fun p => (p.protocol, p.nodePort)).Nodup)
  (hport : lb.additionalLabels.has labelKubernetesServicePort = false)

include hnums hkeys hport

/-- A successful reconcile of the load balancer the lookup finds leaves it settled: the
    target-group step keeps a group for every desired key, the listener step a listener on
    every port, and the write-back the managed group; the write-back keeps the lookup on
    it. -/
theorem wp_updateVpcLoadbalancerListenersAndTargetGroups_converged (nodes : List Node)
    (x : VpcLoadbalancer) {s : State} (hf : s.Fresh)
    (hx : findVpcLoadbalancer lb svc s.loadbalancers = some x) :
    Wp (fun _ => True) (fun _ _ => True) (updateVpcLoadbalancerListenersAndTargetGroups lb svc nodes x)
      (fun _ => Converged lb svc) (fun _ _ => True) s := by
  have hxm := mem_of_findVpcLoadbalancer_eq_some hx
  cases hds : getDesiredVpcLoadbalancerTargetGroups lb svc with
  | error e =>
    simp only [updateVpcLoadbalancerListenersAndTargetGroups, hds, bind_eq, pure_eq, throw_bind]
    exact Wp.throw trivial
  | ok ds =>
    refine ((((wp_updateVpcLoadbalancerListenersAndTargetGroups_targetGroups lb svc nodes x hf).and
      (wp_updateVpcLoadbalancerListenersAndTargetGroups_groups lb svc nodes x
        ⟨Known.of_mem hf hxm, AttachedAs.of_mem hf hxm, rfl⟩)).and
      (wp_listenersForward lb svc nodes x hf hnums hkeys hport)).guar fun _ _ _ => trivial).mono
      (fun _ s' h => ?_) fun _ _ _ => trivial
    obtain ⟨⟨⟨-, htg⟩, hkeys', hgroups⟩, hfwd⟩ := h
    obtain ⟨y, hy, hid⟩ := findVpcLoadbalancer_identity_of_keys hkeys' hx
    refine ⟨y, hy, hid ▸ hfwd.covered, fun p hp => ?_, fun hc => ?_⟩
    · obtain ⟨epp, policy, rfl⟩ := getDesiredVpcLoadbalancerTargetGroups_eq_ok hds
      obtain ⟨t, ht, hof, hk⟩ := (htg _ hds).present _ (List.mem_map_of_mem _ hp)
      exact List.mem_map.mpr ⟨t, List.mem_filter.mpr ⟨ht, hof⟩, hk⟩
    · have hg := hgroups y (mem_of_findVpcLoadbalancer_eq_some hy) hid
      rw [GroupsOk, if_pos hc] at hg
      obtain ⟨sg, hsg, hl, -⟩ := hg
      exact ⟨sg, hsg, hl⟩

theorem wp_updateLoadBalancer_converged (slices : List EndpointSlice) (nodes : List Node)
    {s : State} (hf : s.Fresh) :
    Wp (fun _ => True) (fun _ _ => True) (updateLoadBalancer lb slices svc nodes)
      (fun _ => Converged lb svc) (fun _ _ => True) s := by
  simp only [updateLoadBalancer, bind_eq, pure_eq]
  refine Wp.bind_of (Wp.wrap_inv trivial ((wp_fetchVpcLoadbalancerFromCloud lb svc
    State.Fresh.envStable (fun _ _ => trivial) hf).mono (fun _ _ h => h)
    fun _ _ _ => trivial)) fun found s₁ h₁ => ?_
  obtain ⟨hf₁, rfl⟩ := h₁
  split
  next => exact Wp.throw trivial
  next x hx =>
    exact Wp.bind_of (Wp.wrap_inv trivial
      (wp_updateVpcLoadbalancerListenersAndTargetGroups_converged hnums hkeys hport _ x hf₁ hx))
      fun _ _ h => Wp.ret h

theorem wp_ensureLoadBalancer_converged (slices : List EndpointSlice) (nodes : List Node)
    {s : State} (hf : s.Fresh) :
    Wp (fun _ => True) (fun _ _ => True) (ensureLoadBalancer lb slices svc nodes)
      (fun _ => Converged lb svc) (fun _ _ => True) s := by
  simp only [ensureLoadBalancer, bind_eq, pure_eq]
  refine Wp.bind_of ((wp_fetchVpcLoadbalancerFromCloud lb svc
    State.Fresh.envStable (fun _ _ => trivial) hf).mono (fun _ _ h => h)
    fun _ _ _ => trivial) fun found s₁ h₁ => ?_
  obtain ⟨hf₁, rfl⟩ := h₁
  split
  next x hx =>
    exact wp_updateVpcLoadbalancerListenersAndTargetGroups_converged hnums hkeys hport _ x hf₁ hx
  next hx =>
    have hcreate := (wp_createVpcLoadbalancer_found lb svc hf₁
      ((findVpcLoadbalancer_eq_none_iff lb svc _).mp hx)).frame_of_guar State.Fresh.envStable
      (fun _ c f _ h => h.respond c f) hf₁
    refine Wp.bind_of (hcreate.mono (fun _ _ h => h) fun _ _ _ => trivial)
      fun created s₂ ⟨⟨_, hfound⟩, hf₂⟩ => ?_
    refine Wp.bind_of (wp_updateVpcLoadbalancerListenersAndTargetGroups_converged hnums hkeys hport
      _ created hf₂ hfound) fun _ s₃ h₃ => ?_
    exact Wp.bind_of ((Wp.of_allCalls
      (calls_pollUntilContextTimeout (calls_readyCondition lb svc created) _)
      Converged.envStable (fun _ _ f hc h => h.respond_of_read hc f)
      (fun _ _ _ _ => trivial) h₃).mono (fun _ _ h => h) fun _ _ _ => trivial)
      fun _ _ h => Wp.ret h

end Converges

/-! ## 5. The next reconcile creates nothing -/

/-- Every run of either entry point for `svc` from `s`, whatever the faults, the cloud's
    progress, the nodes and the endpoint slices, makes no call that adds an object to the
    cloud. -/
def CreatesNothing (lb : Loadbalancer) (svc : Service) (s : State) : Prop :=
  ∀ (slices : List EndpointSlice) (nodes : List Node) (ts : List Tick),
    (∀ x ∈ issued (ensureLoadBalancer lb slices svc nodes) ts s, creates x.2 = false) ∧
    ∀ x ∈ issued (updateLoadBalancer lb slices svc nodes) ts s, creates x.2 = false

theorem createsNothing_of_converged {lb : Loadbalancer} {svc : Service} {s : State}
    (hf : s.Fresh) (hc : Converged lb svc s) : CreatesNothing lb svc s := fun slices nodes ts =>
  ⟨((wp_ensureLoadBalancer_noCreate lb svc slices nodes hf hc) ts fun _ _ => trivial).1,
    ((wp_updateLoadBalancer_noCreate lb svc slices nodes hf hc) ts fun _ _ => trivial).1⟩

/-- **A reconcile settles the Service.** From any cloud whose identities are fresh, for a
    Service with distinct port numbers and distinct protocol and node-port pairs, under
    operator labels that leave the Service-port key to the Service: a successful
    `EnsureLoadBalancer` or `UpdateLoadBalancer` leaves a cloud from which no run of either
    entry point for the Service creates a load balancer, target group, listener or
    security group. -/
theorem reconcile_settles {lb : Loadbalancer} {svc : Service}
    (hnums : (svc.ports.map (·.port)).Nodup)
    (hkeys : (svc.ports.map fun p => (p.protocol, p.nodePort)).Nodup)
    (hport : lb.additionalLabels.has labelKubernetesServicePort = false) {s : State}
    (hf : s.Fresh) (slices : List EndpointSlice) (nodes : List Node) :
    Wp (fun _ => True) (fun _ _ => True) (ensureLoadBalancer lb slices svc nodes)
      (fun _ => CreatesNothing lb svc) (fun _ _ => True) s ∧
    Wp (fun _ => True) (fun _ _ => True) (updateLoadBalancer lb slices svc nodes)
      (fun _ => CreatesNothing lb svc) (fun _ _ => True) s := by
  have hfresh : ∀ {α : Type} {p : Prog α}, Wp (fun _ => True) (fun _ _ => True) p
      (fun _ => Converged lb svc) (fun _ _ => True) s →
      Wp (fun _ => True) (fun _ _ => True) p (fun _ => CreatesNothing lb svc) (fun _ _ => True) s :=
    fun h => (h.frame_of_guar State.Fresh.envStable (fun _ c f _ h => h.respond c f) hf).mono
      (fun _ _ h => createsNothing_of_converged h.2 h.1) fun _ _ _ => trivial
  exact ⟨hfresh (wp_ensureLoadBalancer_converged hnums hkeys hport slices nodes hf),
    hfresh (wp_updateLoadBalancer_converged hnums hkeys hport slices nodes hf)⟩

theorem reconcile_settles_web :
    (webService.ports.map (·.port)).Nodup ∧
    (webService.ports.map fun p => (p.protocol, p.nodePort)).Nodup ∧
    (configWithLabels []).additionalLabels.has labelKubernetesServicePort = false ∧
    (State.empty [⟨"subnet-1", "main"⟩]).Fresh ∧
    (Wp (fun _ => True) (fun _ _ => True) (ensureLoadBalancer (configWithLabels []) [] webService [])
      (fun _ => CreatesNothing (configWithLabels []) webService) (fun _ _ => True)
      (State.empty [⟨"subnet-1", "main"⟩]) ∧
    Wp (fun _ => True) (fun _ _ => True) (updateLoadBalancer (configWithLabels []) [] webService [])
      (fun _ => CreatesNothing (configWithLabels []) webService) (fun _ _ => True)
      (State.empty [⟨"subnet-1", "main"⟩])) :=
  ⟨by decide, by decide, rfl, State.Fresh.empty _,
    @reconcile_settles (configWithLabels []) webService (by decide) (by decide) rfl _
      (State.Fresh.empty _) [] []⟩

end Engine
end ThalassaCcm
