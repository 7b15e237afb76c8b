import ThalassaCcm.Proof.Lookup
import ThalassaCcm.Engine.Runs
import ThalassaCcm.Proof.Listeners

/-!
# At most one load balancer per Service

The controller creates a load balancer for a Service only where its lookup found none, by
labels or by name, and names it `GetLoadBalancerName(service)`, which reads only the
UID. So the invariant `LbInv` holds of every cloud that operations run one after another
reach from an empty VPC, each failing wherever it may: load-balancer names are unique, and
each load balancer is named after the UID it is labelled with. Two load balancers
carrying one Service's canonical labels would carry one UID and so one name
(`LbInv.filter_length_le_one`).

The step lemmas say what each call does to the invariant: calls outside the
load-balancer API and deletes keep it, a write-back keeps it under `Known`, a create
keeps it when no load balancer has the new name. The run lemma for each entry point walks
its `do` block once (`wp_ensureLoadBalancer`), and `SeqReachable.lbInv` is the
induction over operations.
-/

set_option autoImplicit false

namespace ThalassaCcm
namespace Engine

open Cloud Prog StrMap

/-- Load-balancer names are unique, and each is the name of the UID it is labelled
    with. -/
structure LbInv (s : State) : Prop where
  fresh : s.Fresh
  names : (s.loadbalancers.map (·.name)).Nodup
  named : ∀ x ∈ s.loadbalancers, ∀ svc : Service,
    x.labels.get labelKubernetesServiceUID = svc.uid → x.name = getLoadBalancerName svc

namespace LbInv

variable {s : State}

theorem empty (subnets : List Subnet) : LbInv (State.empty subnets) :=
  ⟨.empty subnets, List.nodup_nil, nofun⟩

/-- The invariant reads the load balancers' keys only. -/
theorem of_keys {s' : State} (h : LbInv s) (hk : loadbalancerKeys s' = loadbalancerKeys s)
    (hf : s'.Fresh) : LbInv s' where
  fresh := hf
  names := by
    have : s'.loadbalancers.map (·.name) = s.loadbalancers.map (·.name) := by
      simpa [loadbalancerKeys, List.map_map, Function.comp_def] using
        congrArg (List.map fun k => k.2.1) hk
    exact this ▸ h.names
  named := fun x hx svc hu => by
    obtain ⟨y, hy, -, hn, hl⟩ := exists_of_loadbalancerKeys_eq hk hx
    exact hn ▸ h.named y hy svc (hl ▸ hu)

theorem envStable : EnvStable LbInv := fun s e h =>
  h.of_keys (loadbalancerKeys_applyEnv s e) (h.fresh.applyEnv e)

theorem perform_of_kind (h : LbInv s) {c : Call} (hc : c.kind ≠ .loadbalancer) :
    LbInv (s.perform c).1 :=
  h.of_keys (loadbalancerKeys_perform s hc) (h.fresh.perform c)

theorem perform_delete (h : LbInv s) (id : String) :
    LbInv (s.perform (.deleteLoadbalancer id)).1 := by
  refine ⟨h.fresh.perform _, ?_, ?_⟩ <;> simp only [State.perform] <;> split
  · exact h.names.sublist (map_filter_sublist _ _ _)
  · exact h.names
  · exact fun x hx => h.named x (List.mem_filter.mp hx).1
  · exact h.named

theorem perform_writeBack (h : LbInv s) {x : VpcLoadbalancer} (hk : Known x s) {c : Call}
    (hc : WritesBack x c) : LbInv (s.perform c).1 :=
  h.of_keys (perform_loadbalancerKeys_writeBack hk hc) (h.fresh.perform c)

/-- A create keeps the invariant when no load balancer has the new name and the name is
    the one of the UID the new labels carry. -/
theorem perform_create (h : LbInv s) {req : CreateLoadbalancer}
    (hno : ∀ y ∈ s.loadbalancers, y.name ≠ req.name)
    (hname : ∀ svc : Service,
      req.labels.get labelKubernetesServiceUID = svc.uid → req.name = getLoadBalancerName svc) :
    LbInv (s.perform (.createLoadbalancer req)).1 := by
  refine ⟨h.fresh.perform _, ?_, fun x hx svc hu => ?_⟩
  · simp only [State.perform, List.map_append, List.map_singleton]
    refine List.nodup_append.mpr ⟨h.names, List.nodup_singleton _, fun n hn hn' => ?_⟩
    obtain ⟨y, hy, rfl⟩ := List.mem_map.mp hn
    exact hno y hy (List.mem_singleton.mp hn')
  · simp only [State.perform, List.mem_append, List.mem_singleton] at hx
    rcases hx with hx | rfl
    · exact h.named x hx svc hu
    · exact hname svc hu

theorem respond_of_kind (h : LbInv s) {c : Call} (hc : c.kind ≠ .loadbalancer) (f : Fault) :
    LbInv (s.respond c f).1 :=
  State.respond_of_perform s c h (h.perform_of_kind hc) f

/-- The calls of a reconcile of `x` keep the invariant and what is known of `x`. -/
theorem respond_of_calls {ks : List CallKind} (hks : CallKind.loadbalancer ∉ ks)
    {x : VpcLoadbalancer} (h : LbInv s ∧ Known x s) {c : Call}
    (hc : KindIn ks c ∨ WritesBack x c) (f : Fault) :
    LbInv (s.respond c f).1 ∧ Known x (s.respond c f).1 := by
  refine ⟨?_, h.2.respond_of_calls hks hc f⟩
  rcases hc with hc | hc
  · exact h.1.respond_of_kind (hc.kind_ne hks) f
  · exact State.respond_of_perform s c h.1 (h.1.perform_writeBack h.2 hc) f

/-- **At most one load balancer carries a Service's canonical labels.** -/
theorem filter_length_le_one (h : LbInv s) (lb : Loadbalancer) (svc : Service) :
    (s.loadbalancers.filter fun x => matchLabels (canonicalLabels lb svc) x.labels).length ≤ 1 := by
  have hall : ∀ n ∈ (s.loadbalancers.filter fun x =>
      matchLabels (canonicalLabels lb svc) x.labels).map (·.name), n = getLoadBalancerName svc := by
    intro n hn
    obtain ⟨x, hx, rfl⟩ := List.mem_map.mp hn
    obtain ⟨hx, hm⟩ := List.mem_filter.mp hx
    exact h.named x hx svc (get_uid_of_matchLabels_canonicalLabels hm)
  have hnd : ((s.loadbalancers.filter fun x =>
      matchLabels (canonicalLabels lb svc) x.labels).map (·.name)).Nodup :=
    h.names.sublist ((List.filter_sublist _).map _)
  rw [List.eq_replicate_iff.mpr ⟨rfl, hall⟩, List.nodup_replicate] at hnd
  simpa using hnd

end LbInv

/-! ## Runs of the entry points -/

/-- A call that creates a load balancer only where the Service has none. -/
def CreatesOnlyIfAbsent (lb : Loadbalancer) (svc : Service) (s : State) (c : Call) : Prop :=
  ∀ req, c = .createLoadbalancer req → NoLoadbalancerFor lb svc s

theorem createsOnlyIfAbsent_of_kind {lb : Loadbalancer} {svc : Service} {s : State} {c : Call}
    (hc : c.kind ≠ .loadbalancer) : CreatesOnlyIfAbsent lb svc s c :=
  fun req he => absurd (by rw [he]; rfl) hc

theorem NoLoadbalancerFor.envStable (lb : Loadbalancer) (svc : Service) :
    EnvStable (NoLoadbalancerFor lb svc) := fun s e h => h.of_keys (loadbalancerKeys_applyEnv s e)

/-- The reconcile step keeps the invariant and what is known of its load balancer. -/
theorem wp_updateVpcLoadbalancerListenersAndTargetGroups_lbInv (lb : Loadbalancer)
    (svc : Service) (nodes : List Node) {x : VpcLoadbalancer} {s : State} (hs : LbInv s)
    (hk : Known x s) :
    Wp (fun _ => True) (CreatesOnlyIfAbsent lb svc)
      (updateVpcLoadbalancerListenersAndTargetGroups lb svc nodes x)
      (fun _ s' => LbInv s' ∧ Known x s') (fun _ s' => LbInv s' ∧ Known x s') s :=
  Wp.of_allCalls (calls_updateVpcLoadbalancerListenersAndTargetGroups lb svc nodes x)
    (fun s e h => ⟨LbInv.envStable s e h.1, h.2.applyEnv e⟩)
    (fun _ _ f hc h => LbInv.respond_of_calls (by decide) h hc f)
    (fun _ c hc _ req he => by subst he; simp [KindIn, Call.kind, WritesBack] at hc) ⟨hs, hk⟩

/-- The request `createVpcLoadbalancer` builds has the name it was given and the
    Service's labels. -/
theorem createVpcLoadbalancerRequest_name_labels (lb : Loadbalancer) (lbName : String)
    (svc : Service) (s : State) :
    Wp (fun _ => True) (fun _ _ => True) (createVpcLoadbalancerRequest lb lbName svc)
      (fun req _ => req.name = lbName ∧ req.labels = getLabelsForVpcLoadbalancer lb svc)
      (fun _ _ => True) s := by
  simp only [createVpcLoadbalancerRequest, bind_eq, pure_eq, ret_bind, throw_bind]
  refine Wp.bind (Wp.of_forall (fun _ _ => trivial) (fun vpc s' => ?_) fun _ _ => trivial)
  split
  · exact Wp.throw trivial
  split
  · exact Wp.throw trivial
  refine Wp.bind (Wp.of_forall (fun _ _ => trivial) (fun _ _ => ?_) fun _ _ => trivial)
  split
  · exact Wp.bind (Wp.of_forall (fun _ _ => trivial) (fun _ _ => Wp.ret ⟨rfl, rfl⟩)
      fun _ _ => trivial)
  · exact Wp.ret ⟨rfl, rfl⟩

/-- Creating the Service's load balancer where it has none keeps the invariant, and the
    created load balancer is known. -/
theorem wp_createVpcLoadbalancer_lbInv (lb : Loadbalancer) (svc : Service) {s : State}
    (hs : LbInv s) (hno : NoLoadbalancerFor lb svc s) :
    Wp (fun _ => True) (CreatesOnlyIfAbsent lb svc)
      (createVpcLoadbalancer lb (getLoadBalancerName svc) svc)
      (fun created s' => LbInv s' ∧ Known created s') (fun _ => LbInv) s := by
  have hinv : Wp (fun _ => True) (CreatesOnlyIfAbsent lb svc)
      (createVpcLoadbalancerRequest lb (getLoadBalancerName svc) svc)
      (fun _ s' => LbInv s' ∧ NoLoadbalancerFor lb svc s')
      (fun _ s' => LbInv s' ∧ NoLoadbalancerFor lb svc s') s :=
    Wp.of_allCalls (calls_createVpcLoadbalancerRequest lb _ svc)
      (fun s e h => ⟨LbInv.envStable s e h.1, NoLoadbalancerFor.envStable lb svc s e h.2⟩)
      (fun s c f hc h => ⟨h.1.respond_of_kind (hc.kind_ne (by decide)) f,
        h.2.of_keys (loadbalancerKeys_respond s (hc.kind_ne (by decide)) f)⟩)
      (fun _ _ hc _ => createsOnlyIfAbsent_of_kind (hc.kind_ne (by decide))) ⟨hs, hno⟩
  refine Wp.bind (((hinv.and (createVpcLoadbalancerRequest_name_labels lb _ svc s)).guar
    fun _ _ h => h.1).mono (fun req s' h => ?_) fun _ _ h => h.1.1)
  obtain ⟨⟨hs', hno'⟩, hn, hl⟩ := h
  refine Wp.api trivial fun es f _ =>
    ⟨fun _ _ => (NoLoadbalancerFor.envStable lb svc).evolve hno' es, ?_⟩
  have hI : LbInv ((s'.evolve es).perform (.createLoadbalancer req)).1 :=
    (LbInv.envStable.evolve hs' es).perform_create
      (fun y hy => hn ▸ ((NoLoadbalancerFor.envStable lb svc).evolve hno' es y hy).2)
      fun svc' hu => by
        rw [hn]
        exact getLoadBalancerName_congr (hu ▸ hl ▸ (get_uid_getLabelsForVpcLoadbalancer lb svc).symm)
  cases f <;> simp only [State.respond]
  · exact ⟨hI, Known.of_mem hI.fresh (by simp [State.perform])⟩
  · exact LbInv.envStable.evolve hs' es
  · exact hI

/-- `EnsureLoadBalancer` keeps the invariant, and creates a load balancer only where the
    Service has none. -/
theorem wp_ensureLoadBalancer_lbInv (lb : Loadbalancer) (slices : List EndpointSlice)
    (svc : Service) (nodes : List Node) {s : State} (hs : LbInv s) :
    Wp (fun _ => True) (CreatesOnlyIfAbsent lb svc) (ensureLoadBalancer lb slices svc nodes)
      (fun _ => LbInv) (fun _ => LbInv) s := by
  simp only [ensureLoadBalancer, bind_eq, pure_eq]
  refine Wp.bind ((wp_fetchVpcLoadbalancerFromCloud lb svc LbInv.envStable
    (fun _ _ => createsOnlyIfAbsent_of_kind nofun) hs).mono (fun found s' h => ?_) fun _ _ h => h)
  obtain ⟨hs', rfl⟩ := h
  split
  next x hx =>
    exact (wp_updateVpcLoadbalancerListenersAndTargetGroups_lbInv lb svc _ hs'
      (Known.of_mem hs'.fresh (mem_of_findVpcLoadbalancer_eq_some hx))).mono
      (fun _ _ h => h.1) fun _ _ h => h.1
  next hx =>
    refine Wp.bind ((wp_createVpcLoadbalancer_lbInv lb svc hs'
      ((findVpcLoadbalancer_eq_none_iff lb svc _).mp hx)).mono (fun created _ h => ?_)
      fun _ _ h => h)
    refine Wp.bind ((wp_updateVpcLoadbalancerListenersAndTargetGroups_lbInv lb svc _ h.1
      h.2).mono (fun _ _ h => ?_) fun _ _ h => h.1)
    exact Wp.bind ((Wp.of_allCalls
      (calls_pollUntilContextTimeout (calls_readyCondition lb svc created) _) LbInv.envStable
      (fun _ _ f hc h => h.respond_of_kind (hc.kind_ne (by decide)) f)
      (fun _ _ hc _ => createsOnlyIfAbsent_of_kind (hc.kind_ne (by decide))) h.1).mono
      (fun _ _ h => Wp.ret h) fun _ _ h => h)

theorem wp_updateLoadBalancer_lbInv (lb : Loadbalancer) (slices : List EndpointSlice)
    (svc : Service) (nodes : List Node) {s : State} (hs : LbInv s) :
    Wp (fun _ => True) (CreatesOnlyIfAbsent lb svc) (updateLoadBalancer lb slices svc nodes)
      (fun _ => LbInv) (fun _ => LbInv) s := by
  simp only [updateLoadBalancer, bind_eq, pure_eq]
  refine Wp.bind (Wp.wrap_inv trivial ((wp_fetchVpcLoadbalancerFromCloud lb svc LbInv.envStable
    (fun _ _ => createsOnlyIfAbsent_of_kind nofun) hs).mono (fun found s' h => ?_) fun _ _ h => h))
  obtain ⟨hs', rfl⟩ := h
  split
  next hx => exact Wp.throw hs'
  next x hx =>
    exact Wp.bind (Wp.wrap_inv trivial ((wp_updateVpcLoadbalancerListenersAndTargetGroups_lbInv
      lb svc _ hs' (Known.of_mem hs'.fresh (mem_of_findVpcLoadbalancer_eq_some hx))).mono
      (fun _ _ h => Wp.ret h.1) fun _ _ h => h.1))

theorem wp_ensureLoadBalancerDeleted_lbInv (lb : Loadbalancer) (svc : Service) {s : State}
    (hs : LbInv s) :
    Wp (fun _ => True) (CreatesOnlyIfAbsent lb svc) (ensureLoadBalancerDeleted lb svc)
      (fun _ => LbInv) (fun _ => LbInv) s :=
  Wp.of_allCalls (calls_ensureLoadBalancerDeleted lb svc) LbInv.envStable
    (fun s c f hc h => by
      rcases hc with hc | ⟨id, rfl⟩
      · exact h.respond_of_kind (hc.kind_ne (by decide)) f
      · exact State.respond_of_perform s _ h (h.perform_delete id) f)
    (fun _ _ hc _ req he => by subst he; simp [KindIn, Call.kind] at hc) hs

/-- Every operation keeps the invariant, however it ends. -/
theorem Op.wp_lbInv (op : Op) {s : State} (hs : LbInv s) :
    Wp (fun _ => True) (CreatesOnlyIfAbsent op.lb op.svc) op.prog (fun _ => LbInv)
      (fun _ => LbInv) s := by
  unfold Op.prog
  split
  · exact Wp.bind ((wp_ensureLoadBalancer_lbInv _ _ _ _ hs).mono (fun _ _ h => Wp.ret h)
      fun _ _ h => h)
  · exact wp_updateLoadBalancer_lbInv _ _ _ _ hs
  · exact wp_ensureLoadBalancerDeleted_lbInv _ _ hs

/-- The invariant holds of every cloud that operations run one after another reach. -/
theorem SeqReachable.lbInv {subnets : List Subnet} {s : State} (h : SeqReachable subnets s) :
    LbInv s := by
  induction h with
  | init => exact LbInv.empty subnets
  | step op ts _ ih => exact (op.wp_lbInv ih).state ts fun _ _ => trivial

/-- **One load balancer per Service.** In every cloud reached from an empty VPC by
    operations one after another, each failing wherever it may, at most one load balancer
    carries a Service's canonical labels; and a run of `EnsureLoadBalancer` from there
    calls `CreateLoadbalancer` only where no load balancer is the Service's, by labels or
    by name. -/
theorem loadbalancer_unique_of_seqReachable {subnets : List Subnet} {s : State}
    (h : SeqReachable subnets s) :
    (∀ lb svc, (s.loadbalancers.filter fun x =>
      matchLabels (canonicalLabels lb svc) x.labels).length ≤ 1) ∧
    ∀ lb slices svc nodes ts, ∀ x ∈ issued (ensureLoadBalancer lb slices svc nodes) ts s,
      ∀ req, x.2 = .createLoadbalancer req → NoLoadbalancerFor lb svc x.1 :=
  ⟨h.lbInv.filter_length_le_one, fun lb slices svc nodes ts x hx =>
    ((wp_ensureLoadBalancer_lbInv lb slices svc nodes h.lbInv) ts fun _ _ => trivial).1 x hx⟩

/-- The cloud after `EnsureLoadBalancer` of the web Service in a VPC with one subnet. -/
def webEnsured : State :=
  (exec (Op.prog ⟨configWithLabels [], webService, .ensure [] []⟩) []
    (State.empty [⟨"subnet-1", "main"⟩])).state

theorem loadbalancer_unique_of_seqReachable_webEnsured :
    (∀ lb svc, (webEnsured.loadbalancers.filter fun x =>
      matchLabels (canonicalLabels lb svc) x.labels).length ≤ 1) ∧
    ∀ lb slices svc nodes ts, ∀ x ∈ issued (ensureLoadBalancer lb slices svc nodes) ts webEnsured,
      ∀ req, x.2 = .createLoadbalancer req → NoLoadbalancerFor lb svc x.1 :=
  loadbalancer_unique_of_seqReachable (SeqReachable.step _ _ SeqReachable.init)

end Engine
end ThalassaCcm
