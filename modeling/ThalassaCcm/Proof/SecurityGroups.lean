import ThalassaCcm.Proof.Deletion

/-!
# The security groups a reconcile attaches

`updateVpcLoadbalancer` reconciles the managed security group when the Service asks for
one (`ensureManagedSecurityGroup` creates it, or rewrites the one the Service's selector
finds) and then writes the load balancer back with the wanted attachments: the
comma-split annotation, followed by the managed group when there is one. It skips the
write when the load balancer it was given already has them. The branch that would delete
the managed group when the Service stops asking for one is commented out in the source.

So after a successful `UpdateLoadBalancer` or `EnsureLoadBalancer`, the load balancer the
Service's lookup finds has exactly the wanted attachments, and when the Service asks for
a managed group, the group attached last exists and carries the Service's labels
(`reconcile_securityGroups`). When the Service stops asking, the group is detached and
left in place (`updateLoadBalancer_after_group_toggled_off`).

The argument follows the load balancer `x` the reconcile works on: until its write-back,
the load balancer with `x`'s identity has `x`'s attachments (`AttachedAs`), which is what
makes the skipped write right; and the lookup, which reads only the load balancers'
keys, finds the load balancer with `x`'s identity again at the end
(`findVpcLoadbalancer_identity_of_keys`).
-/

set_option autoImplicit false

namespace ThalassaCcm
namespace Engine

open Cloud Prog StrMap

/-! ## 1. The lookup, again -/

/-- The identity the lookup returns, from the keys alone. -/
theorem findVpcLoadbalancer_map_identity (lb : Loadbalancer) (svc : Service)
    (lbs : List VpcLoadbalancer) :
    (findVpcLoadbalancer lb svc lbs).map (·.identity) =
      if lbs.map (fun x => (x.identity, x.name, x.labels)) = [] then none
      else ((((lbs.map fun x => (x.identity, x.name, x.labels)).find? fun k =>
          matchLabels (getLabelsForVpcLoadbalancer lb svc) k.2.2).or
        ((lbs.map fun x => (x.identity, x.name, x.labels)).find? fun k =>
          k.2.1 = getLoadBalancerName svc)).map (·.1)) := by
  unfold findVpcLoadbalancer
  simp only [List.map_eq_nil_iff, List.find?_map]
  split_ifs
  · rfl
  · cases h : lbs.find? (fun x => matchLabels (getLabelsForVpcLoadbalancer lb svc) x.labels) <;>
      simp [h, Function.comp_def]

/-- Under the same keys, the lookup finds the load balancer with the same identity. -/
theorem findVpcLoadbalancer_identity_of_keys {s s' : State}
    (h : loadbalancerKeys s' = loadbalancerKeys s) {lb : Loadbalancer} {svc : Service}
    {x : VpcLoadbalancer} (hx : findVpcLoadbalancer lb svc s.loadbalancers = some x) :
    ∃ y, findVpcLoadbalancer lb svc s'.loadbalancers = some y ∧ y.identity = x.identity := by
  have hm := findVpcLoadbalancer_map_identity lb svc s'.loadbalancers
  simp only [loadbalancerKeys] at h
  rw [h, ← findVpcLoadbalancer_map_identity, hx] at hm
  obtain ⟨y, hy, he⟩ := Option.map_eq_some'.mp hm
  exact ⟨y, hy, he⟩

/-- Appending the Service's own load balancer where it had none makes the lookup find
    it. -/
theorem findVpcLoadbalancer_append_of_none {lb : Loadbalancer} {svc : Service}
    {lbs : List VpcLoadbalancer} (hno : ∀ y ∈ lbs,
      matchLabels (getLabelsForVpcLoadbalancer lb svc) y.labels = false ∧
        y.name ≠ getLoadBalancerName svc)
    {c : VpcLoadbalancer} (hc : c.labels = getLabelsForVpcLoadbalancer lb svc) :
    findVpcLoadbalancer lb svc (lbs ++ [c]) = some c := by
  have hnone : lbs.find? (fun x => matchLabels (getLabelsForVpcLoadbalancer lb svc) x.labels) =
      none := List.find?_eq_none.mpr fun y hy => by simp [(hno y hy).1]
  simp only [findVpcLoadbalancer, List.append_eq_nil, List.cons_ne_nil, and_false, if_false,
    List.find?_append, hnone, Option.none_or, List.find?_singleton, hc,
    matchLabels_self (unique_getLabelsForVpcLoadbalancer lb svc), if_true]

/-! ## 2. The managed group -/

/-- `ensureManagedSecurityGroup` returns a group that exists and carries the Service's
    labels. -/
theorem ensureManagedSecurityGroup_exists (lb : Loadbalancer) (svc : Service)
    (desired : List VpcLoadbalancerListener) (s : State) :
    Wp (fun _ => True) (fun _ _ => True) (ensureManagedSecurityGroup lb svc desired)
      (fun sg s' => sg ∈ s'.securityGroups ∧ sg.labels = getLabelsForVpcLoadbalancer lb svc)
      (fun _ _ => True) s := by
  simp only [ensureManagedSecurityGroup, bind_eq, pure_eq]
  refine Wp.bind_of (Wp.of_forall (fun _ _ => trivial) (fun _ _ => trivial)
    fun _ _ => trivial) fun sg s₁ _ => ?_
  split
  · refine Wp.wrap_inv trivial (Wp.api trivial fun es f _ => ⟨trivial, ?_⟩)
    cases f <;> simp only [State.respond, State.perform]
    exact ⟨by simp, rfl⟩
  · refine Wp.wrap_inv trivial (Wp.api trivial fun es f _ => ⟨trivial, ?_⟩)
    cases f <;> simp only [State.respond, State.perform]
    split_ifs with hany
    · obtain ⟨y, hy, hid⟩ := List.any_eq_true.mp hany
      exact ⟨List.mem_map.mpr ⟨y, hy, if_pos (of_decide_eq_true hid)⟩, rfl⟩
    · trivial

/-- The same, under an invariant that reads and security-group calls keep. -/
theorem wp_ensureManagedSecurityGroup {P : State → Prop}
    (lb : Loadbalancer) (svc : Service) (desired : List VpcLoadbalancerListener)
    (hP : EnvStable P)
    (hresp : ∀ s c f, KindIn [.read, .securityGroup] c → P s → P (s.respond c f).1)
    {s : State} (hs : P s) :
    Wp (fun _ => True) (fun _ _ => True) (ensureManagedSecurityGroup lb svc desired)
      (fun sg s' => P s' ∧ sg ∈ s'.securityGroups ∧ sg.labels = getLabelsForVpcLoadbalancer lb svc)
      (fun _ => P) s :=
  ((Wp.of_allCalls (calls_ensureManagedSecurityGroup lb svc desired) hP hresp
    (fun _ _ _ _ => trivial) hs).and (ensureManagedSecurityGroup_exists lb svc desired s)).guar
    (fun _ _ _ => trivial) |>.mono (fun _ _ h => ⟨h.1, h.2⟩) fun _ _ h => h.1

/-! ## 3. The write-back -/

/-- Whatever load balancer has `x`'s identity has `x`'s attachments. -/
def AttachedAs (x : VpcLoadbalancer) (s : State) : Prop :=
  ∀ z ∈ s.loadbalancers, z.identity = x.identity → z.securityGroups = x.securityGroups

theorem AttachedAs.of_mem {x : VpcLoadbalancer} {s : State} (hf : s.Fresh)
    (hx : x ∈ s.loadbalancers) : AttachedAs x s := fun z hz he => by
  rw [List.inj_on_of_nodup_map hf.loadbalancers.1 hz hx he]

/-- The attachments a reconcile wants on the load balancer `z`, in the cloud `s`: the
    annotation's groups, then a managed group that exists and carries the Service's
    labels when the Service asks for one. -/
def GroupsOk (lb : Loadbalancer) (svc : Service) (z : VpcLoadbalancer) (s : State) : Prop :=
  if shouldCreateSecurityGroup svc = true then
    ∃ sg ∈ s.securityGroups, sg.labels = getLabelsForVpcLoadbalancer lb svc ∧
      z.securityGroups = getSecurityGroupsForService svc ++ [sg.identity]
  else z.securityGroups = getSecurityGroupsForService svc

/-- What a reconcile of `x` keeps until its write-back: what is known of `x`, its
    attachments, and the load balancers' keys. -/
def Current (x : VpcLoadbalancer) (K : List (String × String × StrMap)) (s : State) : Prop :=
  Known x s ∧ AttachedAs x s ∧ loadbalancerKeys s = K

/-- What the end of a reconcile of `x` keeps: the keys, and the wanted attachments on the
    load balancer with `x`'s identity. -/
def Reconciled (lb : Loadbalancer) (svc : Service) (x : VpcLoadbalancer)
    (K : List (String × String × StrMap)) (s : State) : Prop :=
  loadbalancerKeys s = K ∧ ∀ z ∈ s.loadbalancers, z.identity = x.identity → GroupsOk lb svc z s

section Phases

variable {lb : Loadbalancer} {svc : Service} {x : VpcLoadbalancer}
  {K : List (String × String × StrMap)}

theorem Current.envStable : EnvStable (Current x K) := fun s e h => by
  cases e with
  | provision id st ips host =>
    refine ⟨h.1.applyEnv _, fun z hz he => ?_, (loadbalancerKeys_applyEnv s _).trans h.2.2⟩
    obtain ⟨z₀, hz₀, rfl⟩ := List.mem_map.mp hz
    by_cases hi : z₀.identity = id
    · rw [if_pos hi] at he ⊢; exact h.2.1 z₀ hz₀ he
    · rw [if_neg hi] at he ⊢; exact h.2.1 z₀ hz₀ he

theorem Current.respond_of_kind {s : State} (h : Current x K s) {c : Call}
    (hc : c.kind ≠ .loadbalancer) (f : Fault) : Current x K (s.respond c f).1 :=
  ⟨h.1.respond (.inl fun id req he => hc (by rw [he]; rfl)) f,
    State.respond_of_perform s c h.2.1 (by
      unfold AttachedAs; rw [State.perform_loadbalancers s c hc]; exact h.2.1) f,
    (loadbalancerKeys_respond s hc f).trans h.2.2⟩

theorem Reconciled.envStable : EnvStable (Reconciled lb svc x K) := fun s e h => by
  cases e with
  | provision id st ips host =>
    refine ⟨(loadbalancerKeys_applyEnv s _).trans h.1, fun z hz he => ?_⟩
    obtain ⟨z₀, hz₀, rfl⟩ := List.mem_map.mp hz
    by_cases hi : z₀.identity = id
    · rw [if_pos hi] at he ⊢; exact h.2 z₀ hz₀ he
    · rw [if_neg hi] at he ⊢; exact h.2 z₀ hz₀ he

theorem Reconciled.respond_of_read {s : State} (h : Reconciled lb svc x K s) {c : Call}
    (hc : c.kind = .read) (f : Fault) : Reconciled lb svc x K (s.respond c f).1 :=
  State.respond_of_perform s c h (by rw [State.perform_of_read s c hc]; exact h) f

/-- The load balancer the lookup finds at the end of a reconcile of what it found at the
    start has the wanted attachments. -/
theorem Reconciled.reconciled {s₀ s : State} (h : Reconciled lb svc x (loadbalancerKeys s₀) s)
    (hx : findVpcLoadbalancer lb svc s₀.loadbalancers = some x) :
    ∃ y, findVpcLoadbalancer lb svc s.loadbalancers = some y ∧ GroupsOk lb svc y s := by
  obtain ⟨y, hy, he⟩ := findVpcLoadbalancer_identity_of_keys h.1 hx
  exact ⟨y, hy, h.2 y (mem_of_findVpcLoadbalancer_eq_some hy) he⟩

end Phases

theorem perform_updateLoadbalancer_securityGroups (s : State) (id : String)
    (req : UpdateLoadbalancer) :
    ∀ z ∈ (s.perform (.updateLoadbalancer id req)).1.loadbalancers, z.identity = id →
      z.securityGroups = req.securityGroupAttachments := by
  intro z hz he
  simp only [State.perform] at hz
  split at hz
  · rename_i hnone
    exact absurd (List.find?_eq_none.mp hnone z hz) (by simp [he])
  · obtain ⟨z₀, _, rfl⟩ := List.mem_map.mp hz
    by_cases hi : z₀.identity = id
    · rw [if_pos hi]
    · rw [if_neg hi] at he; exact absurd he hi

/-- The managed group `updateVpcLoadbalancer` ensured: one that exists and carries the
    Service's labels when the Service asks for one, none otherwise. -/
def ManagedOk (lb : Loadbalancer) (svc : Service) (managed : Option SecurityGroup) (s : State) :
    Prop :=
  match managed with
  | some sg => shouldCreateSecurityGroup svc = true ∧ sg ∈ s.securityGroups ∧
      sg.labels = getLabelsForVpcLoadbalancer lb svc
  | none => shouldCreateSecurityGroup svc = false

theorem ManagedOk.of_securityGroups {lb : Loadbalancer} {svc : Service}
    {managed : Option SecurityGroup} {s s' : State} (h : ManagedOk lb svc managed s)
    (hs : s'.securityGroups = s.securityGroups) : ManagedOk lb svc managed s' := by
  cases managed <;> simp_all [ManagedOk]

theorem ManagedOk.evolve {lb : Loadbalancer} {svc : Service} {managed : Option SecurityGroup}
    {s : State} (h : ManagedOk lb svc managed s) (es : List EnvEvent) :
    ManagedOk lb svc managed (s.evolve es) :=
  (show EnvStable (ManagedOk lb svc managed) from
    fun _ _ h => h.of_securityGroups (State.applyEnv_securityGroups _ _)).evolve h es

theorem groupsOk_of_managed {lb : Loadbalancer} {svc : Service} {managed : Option SecurityGroup}
    {s : State} (h : ManagedOk lb svc managed s) {z : VpcLoadbalancer}
    (hz : z.securityGroups = desiredSecurityGroups svc managed) : GroupsOk lb svc z s := by
  cases managed with
  | none => simp_all [GroupsOk, ManagedOk, desiredSecurityGroups]
  | some sg =>
    obtain ⟨hc, hm, hl⟩ := h
    simp only [GroupsOk, hc, if_true]
    exact ⟨sg, hm, hl, by simpa [desiredSecurityGroups] using hz⟩

/-- The write-back, with `x`'s name and labels and the wanted attachments, gives the load
    balancer with `x`'s identity the wanted attachments. -/
theorem wp_writeBack_groups (lb : Loadbalancer) (svc : Service) {x : VpcLoadbalancer}
    {K : List (String × String × StrMap)} {managed : Option SecurityGroup} (pfx : String)
    {req : UpdateLoadbalancer} (hn : req.name = x.name) (hl : req.labels = x.labels)
    (hreq : req.securityGroupAttachments = desiredSecurityGroups svc managed) {s : State}
    (hs : Current x K s) (hm : ManagedOk lb svc managed s) :
    Wp (fun _ => True) (fun _ _ => True)
      ((wrap pfx (api (.updateLoadbalancer x.identity req))).bind fun _ => ret ())
      (fun _ => Reconciled lb svc x K) (fun _ _ => True) s := by
  refine Wp.bind_of (show Wp _ _ _ (fun _ => Reconciled lb svc x K) _ s from
    Wp.wrap_inv trivial (Wp.api trivial fun es f _ => ⟨trivial, ?_⟩)) fun _ _ h => Wp.ret h
  have hc := Current.envStable.evolve hs es
  cases f <;> simp only [State.respond]
  · rcases hp : (s.evolve es).perform (.updateLoadbalancer x.identity req) with ⟨s₃, _ | v⟩
    · trivial
    · have hs₃ : s₃ = ((s.evolve es).perform (.updateLoadbalancer x.identity req)).1 := by
        rw [hp]
      subst hs₃
      refine ⟨(perform_loadbalancerKeys_writeBack hc.1 ⟨req, rfl, hn, hl⟩).trans hc.2.2,
        fun z hz he => groupsOk_of_managed ((hm.evolve es).of_securityGroups
          (State.perform_securityGroups _ _ (by simp [Call.kind])))
          ((perform_updateLoadbalancer_securityGroups _ _ _ z hz he).trans hreq)⟩

/-- **`updateVpcLoadbalancer`** leaves the load balancer with `x`'s identity with the
    wanted attachments, whether it writes or finds them in place. -/
theorem wp_updateVpcLoadbalancer_groups (lb : Loadbalancer) (svc : Service)
    (x : VpcLoadbalancer) (desiredListeners : List VpcLoadbalancerListener)
    {K : List (String × String × StrMap)} {s : State} (hs : Current x K s) :
    Wp (fun _ => True) (fun _ _ => True) (updateVpcLoadbalancer lb svc x desiredListeners)
      (fun _ => Reconciled lb svc x K) (fun _ _ => True) s := by
  simp only [updateVpcLoadbalancer, bind_eq, pure_eq, ret_bind]
  have hread : ∀ s c f, KindIn [.read, .securityGroup] c → Current x K s →
      Current x K (s.respond c f).1 := fun _ _ f hc h => h.respond_of_kind (hc.kind_ne (by decide)) f
  have hskip : ∀ managed s₂, Current x K s₂ → ManagedOk lb svc managed s₂ →
      desiredSecurityGroups svc managed = x.securityGroups → Reconciled lb svc x K s₂ :=
    fun _ _ hc hm hsame => ⟨hc.2.2, fun z hz he => groupsOk_of_managed hm
      ((hc.2.1 z hz he).trans hsame.symm)⟩
  refine Wp.bind_of (Wp.wrap_inv trivial ((Wp.of_allCalls
    ((calls_verifySecurityGroupsExist lb _).kinds (by decide)) Current.envStable hread
    (fun _ _ _ _ => trivial) hs).mono (fun _ _ h => h) fun _ _ _ => trivial)) fun _ s₁ h₁ => ?_
  split
  · rename_i hcreate
    refine Wp.bind_of (Wp.wrap_inv trivial ((wp_ensureManagedSecurityGroup lb svc _
      Current.envStable hread h₁).mono (fun _ _ h => h) fun _ _ _ => trivial)) fun sg s₂ h₂ => ?_
    have hm : ManagedOk lb svc (some sg) s₂ := ⟨hcreate, h₂.2⟩
    exact Wp.ite (fun _ => wp_writeBack_groups lb svc _ rfl rfl rfl h₂.1 hm)
      fun hsame => Wp.ret (hskip _ _ h₂.1 hm (not_not.mp (not_or.mp hsame).1))
  · rename_i hcreate
    have hm : ManagedOk lb svc none s₁ := by simpa [ManagedOk] using hcreate
    exact Wp.ite (fun _ => wp_writeBack_groups lb svc _ rfl rfl rfl h₁ hm)
      fun hsame => Wp.ret (hskip _ _ h₁ hm (not_not.mp (not_or.mp hsame).1))

/-! ## 4. The reconcile step and the entry points -/

/-- Calls outside the load-balancer API keep what a reconcile of `x` knows. -/
theorem wp_current_of_calls {α : Type} {p : Prog α} {ks : List CallKind}
    (hp : AllCalls (KindIn ks) p) (hks : CallKind.loadbalancer ∉ ks) {x : VpcLoadbalancer}
    {K : List (String × String × StrMap)} {s : State} (hs : Current x K s) :
    Wp (fun _ => True) (fun _ _ => True) p (fun _ => Current x K) (fun _ _ => True) s :=
  (Wp.of_allCalls hp Current.envStable (fun _ _ f hc h => h.respond_of_kind (hc.kind_ne hks) f)
    (fun _ _ _ _ => trivial) hs).mono (fun _ _ h => h) fun _ _ _ => trivial

theorem wp_updateVpcLoadbalancerListenersAndTargetGroups_groups (lb : Loadbalancer)
    (svc : Service) (nodes : List Node) (x : VpcLoadbalancer)
    {K : List (String × String × StrMap)} {s : State} (hs : Current x K s) :
    Wp (fun _ => True) (fun _ _ => True) (updateVpcLoadbalancerListenersAndTargetGroups lb svc nodes x)
      (fun _ => Reconciled lb svc x K) (fun _ _ => True) s := by
  simp only [updateVpcLoadbalancerListenersAndTargetGroups, bind_eq, pure_eq, ret_bind, throw_bind]
  split
  next desiredTgs _ =>
    refine Wp.bind_of (Wp.wrap_inv trivial (wp_current_of_calls
      (calls_createOrUpdateTargetGroups lb svc desiredTgs nodes) (by decide) hs)) fun tgs _ h₁ => ?_
    refine Wp.bind_of (Wp.wrap_inv trivial (wp_current_of_calls
      (calls_updateVpcLoadbalancerListener lb svc x _ tgs) (by decide) h₁)) fun _ _ h₂ => ?_
    refine Wp.bind_of (Wp.wrap_inv trivial (wp_current_of_calls
      (calls_cleanupUnusedTargetGroups lb svc tgs) (by decide) h₂)) fun _ _ h₃ => ?_
    exact Wp.bind_of (Wp.wrap_inv trivial ((wp_updateVpcLoadbalancer_groups lb svc x _ h₃).mono
      (fun _ _ h => h) fun _ _ _ => trivial)) fun _ _ h => Wp.ret h
  next => exact Wp.throw trivial

/-- The lookup finds a load balancer, and it has the attachments the Service wants. -/
def SecurityGroupsReconciled (lb : Loadbalancer) (svc : Service) (s : State) : Prop :=
  ∃ y, findVpcLoadbalancer lb svc s.loadbalancers = some y ∧ GroupsOk lb svc y s

/-- Creating the Service's load balancer where it has none: the lookup finds it, and what
    a reconcile needs to know of it holds. -/
theorem wp_createVpcLoadbalancer_found (lb : Loadbalancer) (svc : Service) {s : State}
    (hf : s.Fresh) (hno : NoLoadbalancerFor lb svc s) :
    Wp (fun _ => True) (fun _ _ => True) (createVpcLoadbalancer lb (getLoadBalancerName svc) svc)
      (fun created s' => Current created (loadbalancerKeys s') s' ∧
        findVpcLoadbalancer lb svc s'.loadbalancers = some created) (fun _ _ => True) s := by
  have hinv : Wp (fun _ => True) (fun _ _ => True)
      (createVpcLoadbalancerRequest lb (getLoadBalancerName svc) svc)
      (fun _ s' => s'.Fresh ∧ NoLoadbalancerFor lb svc s')
      (fun _ s' => s'.Fresh ∧ NoLoadbalancerFor lb svc s') s :=
    Wp.of_allCalls (calls_createVpcLoadbalancerRequest lb _ svc)
      (fun s e h => ⟨h.1.applyEnv e, NoLoadbalancerFor.envStable lb svc s e h.2⟩)
      (fun s c f hc h => ⟨h.1.respond c f,
        h.2.of_keys (loadbalancerKeys_respond s (hc.kind_ne (by decide)) f)⟩)
      (fun _ _ _ _ => trivial) ⟨hf, hno⟩
  refine Wp.bind_of ((hinv.and (createVpcLoadbalancerRequest_name_labels lb _ svc s)).guar
    (fun _ _ _ => trivial) |>.mono (fun _ _ h => h) fun _ _ _ => trivial) fun req s₁ h => ?_
  obtain ⟨⟨hf₁, hno₁⟩, -, hl⟩ := h
  refine Wp.api trivial fun es f _ => ⟨trivial, ?_⟩
  cases f <;> simp only [State.respond]
  · have hf₂ := (State.Fresh.envStable.evolve hf₁ es).perform (.createLoadbalancer req)
    simp only [State.perform] at hf₂ ⊢
    exact ⟨⟨Known.of_mem hf₂ (List.mem_append_right _ (List.mem_singleton_self _)),
      AttachedAs.of_mem hf₂ (List.mem_append_right _ (List.mem_singleton_self _)), rfl⟩,
      findVpcLoadbalancer_append_of_none ((NoLoadbalancerFor.envStable lb svc).evolve hno₁ es) hl⟩

theorem wp_updateLoadBalancer_groups (lb : Loadbalancer) (slices : List EndpointSlice)
    (svc : Service) (nodes : List Node) {s : State} (hf : s.Fresh) :
    Wp (fun _ => True) (fun _ _ => True) (updateLoadBalancer lb slices svc nodes)
      (fun _ => SecurityGroupsReconciled lb svc) (fun _ _ => True) s := by
  simp only [updateLoadBalancer, bind_eq, pure_eq]
  refine Wp.bind_of (Wp.wrap_inv trivial ((wp_fetchVpcLoadbalancerFromCloud lb svc
    State.Fresh.envStable (fun _ _ => trivial) hf).mono (fun _ _ h => h)
    fun _ _ _ => trivial)) fun found s₁ h₁ => ?_
  obtain ⟨hf₁, rfl⟩ := h₁
  split
  next => exact Wp.throw trivial
  next x hx =>
    have hxm := mem_of_findVpcLoadbalancer_eq_some hx
    exact Wp.bind_of (Wp.wrap_inv trivial
      ((wp_updateVpcLoadbalancerListenersAndTargetGroups_groups lb svc _ x
        ⟨Known.of_mem hf₁ hxm, AttachedAs.of_mem hf₁ hxm, rfl⟩).mono (fun _ _ h => h)
        fun _ _ _ => trivial)) fun _ _ h => Wp.ret (h.reconciled hx)

theorem wp_ensureLoadBalancer_groups (lb : Loadbalancer) (slices : List EndpointSlice)
    (svc : Service) (nodes : List Node) {s : State} (hf : s.Fresh) :
    Wp (fun _ => True) (fun _ _ => True) (ensureLoadBalancer lb slices svc nodes)
      (fun _ => SecurityGroupsReconciled lb svc) (fun _ _ => True) s := by
  simp only [ensureLoadBalancer, bind_eq, pure_eq]
  refine Wp.bind_of ((wp_fetchVpcLoadbalancerFromCloud lb svc
    State.Fresh.envStable (fun _ _ => trivial) hf).mono (fun _ _ h => h)
    fun _ _ _ => trivial) fun found s₁ h₁ => ?_
  obtain ⟨hf₁, rfl⟩ := h₁
  split
  next x hx =>
    have hxm := mem_of_findVpcLoadbalancer_eq_some hx
    exact (wp_updateVpcLoadbalancerListenersAndTargetGroups_groups lb svc _ x
      ⟨Known.of_mem hf₁ hxm, AttachedAs.of_mem hf₁ hxm, rfl⟩).mono
      (fun _ _ h => h.reconciled hx) fun _ _ _ => trivial
  next hx =>
    refine Wp.bind_of (wp_createVpcLoadbalancer_found lb svc hf₁
      ((findVpcLoadbalancer_eq_none_iff lb svc _).mp hx)) fun created s₂ h₂ => ?_
    refine Wp.bind_of (wp_updateVpcLoadbalancerListenersAndTargetGroups_groups lb svc _ created
      h₂.1) fun _ _ h₃ => ?_
    exact Wp.bind_of ((Wp.of_allCalls
      (calls_pollUntilContextTimeout (calls_readyCondition lb svc created) _)
      Reconciled.envStable (fun _ _ f hc h => h.respond_of_read (List.mem_singleton.mp hc) f)
      (fun _ _ _ _ => trivial) h₃).mono (fun _ _ h => h) fun _ _ _ => trivial)
      fun _ _ h => Wp.ret (h.reconciled h₂.2)

/-- **The attachments after a successful reconcile.** From any cloud whose identities are
    fresh, a successful `EnsureLoadBalancer` or `UpdateLoadBalancer` of a Service leaves the
    load balancer the Service's lookup finds with, in order, the comma-split
    security-groups annotation followed, when the Service asks for a managed group, by a
    group that exists and carries the Service's labels. -/
theorem reconcile_securityGroups {s : State} (hf : s.Fresh) (lb : Loadbalancer)
    (slices : List EndpointSlice) (svc : Service) (nodes : List Node) :
    Wp (fun _ => True) (fun _ _ => True) (ensureLoadBalancer lb slices svc nodes)
      (fun _ => SecurityGroupsReconciled lb svc) (fun _ _ => True) s ∧
    Wp (fun _ => True) (fun _ _ => True) (updateLoadBalancer lb slices svc nodes)
      (fun _ => SecurityGroupsReconciled lb svc) (fun _ _ => True) s :=
  ⟨wp_ensureLoadBalancer_groups lb slices svc nodes hf,
    wp_updateLoadBalancer_groups lb slices svc nodes hf⟩

theorem reconcile_securityGroups_payments :
    Wp (fun _ => True) (fun _ _ => True)
      (ensureLoadBalancer (configWithLabels []) [] paymentsService [])
      (fun _ => SecurityGroupsReconciled (configWithLabels []) paymentsService) (fun _ _ => True)
      (State.empty [⟨"subnet-1", "main"⟩]) ∧
    Wp (fun _ => True) (fun _ _ => True)
      (updateLoadBalancer (configWithLabels []) [] paymentsService [])
      (fun _ => SecurityGroupsReconciled (configWithLabels []) paymentsService) (fun _ _ => True)
      (State.empty [⟨"subnet-1", "main"⟩]) :=
  reconcile_securityGroups (State.Fresh.empty _) _ _ _ _

/-- The payments Service after it stopped asking for a managed group. -/
def paymentsWithoutGroup : Service := { paymentsService with annotations := [] }

/-- Once the Service stops asking for a managed group, a successful reconcile detaches the
    group but leaves it in place. -/
theorem updateLoadBalancer_after_group_toggled_off :
    shouldCreateSecurityGroup paymentsWithoutGroup = false ∧
    (exec (updateLoadBalancer (configWithLabels []) [] paymentsWithoutGroup []) []
      paymentsReconciled).value.isOk ∧
    ((exec (updateLoadBalancer (configWithLabels []) [] paymentsWithoutGroup []) []
      paymentsReconciled).state.securityGroups.any fun sg =>
        matchLabels (getLabelsForVpcLoadbalancer (configWithLabels []) paymentsWithoutGroup)
          sg.labels) = true ∧
    (exec (updateLoadBalancer (configWithLabels []) [] paymentsWithoutGroup []) []
      paymentsReconciled).state.loadbalancers.map (·.securityGroups) = [[]] := by
  decide

end Engine
end ThalassaCcm
