import ThalassaCcm.Proof.References
import ThalassaCcm.Proof.ListenerReconcile

/-!
# One target group per Service and key

`createOrUpdateTargetGroups` keys a Service's target groups by protocol and target port. It
lists the groups the Service's selector matches, creates a group only for a desired key the
listing lacks, and rewrites a listed group only from the desired group with its key. Every
other call of the entry points reads, deletes, attaches or touches no target group. So a run
makes a target-group write only as `TgGuard` allows: a create of a key that no Service whose
selector matches the new labels has a group with, and a rewrite that keeps the group's key
and makes it no new Service's group (`Op.wp_tgGuard`). Each such call keeps `KeysUnique`, and
the cloud's progress leaves target groups alone.

Hence every cloud that operations reach from an empty VPC, one after another, each failing
wherever it may, has at most one target group per Service and key
(`targetGroupKeys_unique`). Two conditions hold throughout. The configuration is fixed,
since a change of the operator's labels hides the old groups from the listing. Each Service
has distinct `(protocol, nodePort)` pairs, since the creation loop walks the desired list and
creates every key the listing lacks, once per occurrence.

A group built for one Service is matched only by Services with the same selector
(`getLabelsForVpcLoadbalancer_eq_of_matchLabels`), so the guard for a create reads one
Service's keys.
-/

set_option autoImplicit false

namespace ThalassaCcm
namespace Engine

open Cloud Prog StrMap

/-! ## 1. The keys of a Service's groups -/

/-- The keys of the groups `svc`'s selector matches under `lb`, in the cloud's order. -/
def serviceKeys (lb : Loadbalancer) (svc : Service) (s : State) : List (String × Nat) :=
  (s.targetGroups.filter (matchLabels (getLabelsForVpcLoadbalancer lb svc) ·.labels)).map
    targetGroupKey

/-- Under `lb`, no Service has two target groups with one key; identities are fresh. -/
structure KeysUnique (lb : Loadbalancer) (s : State) : Prop where
  fresh : s.Fresh
  keys : ∀ svc : Service, (serviceKeys lb svc s).Nodup

section Keys

variable {lb : Loadbalancer} {svc : Service}

@[simp] theorem serviceKeys_evolve (s : State) (es : List EnvEvent) :
    serviceKeys lb svc (s.evolve es) = serviceKeys lb svc s := by
  simp [serviceKeys]

theorem serviceKeys_congr {svc' : Service}
    (h : getLabelsForVpcLoadbalancer lb svc' = getLabelsForVpcLoadbalancer lb svc) (s : State) :
    serviceKeys lb svc' s = serviceKeys lb svc s := by
  simp only [serviceKeys, h]

/-- What the listing of the Service's groups answers has the Service's keys. -/
theorem map_key_listedTargetGroups (s : State) :
    (listedTargetGroups lb svc s).map targetGroupKey = serviceKeys lb svc s := by
  simp [listedTargetGroups, serviceKeys, Function.comp_def, targetGroupKey]

theorem serviceKeys_of_append {s s' : State} {t : VpcLoadbalancerTargetGroup}
    (h : s'.targetGroups = s.targetGroups ++ [t]) :
    serviceKeys lb svc s' = serviceKeys lb svc s ++
      if matchLabels (getLabelsForVpcLoadbalancer lb svc) t.labels then [targetGroupKey t]
      else [] := by
  simp only [serviceKeys, h, List.filter_append, List.map_append, List.filter_cons,
    List.filter_nil]
  split <;> rfl

/-- A rewrite of groups that keeps their keys and labels keeps the keys any selector
    reads. -/
theorem map_key_filter_map (sel : StrMap) {l : List VpcLoadbalancerTargetGroup}
    {f : VpcLoadbalancerTargetGroup → VpcLoadbalancerTargetGroup}
    (hf : ∀ t ∈ l, targetGroupKey (f t) = targetGroupKey t ∧ (f t).labels = t.labels) :
    ((l.map f).filter (matchLabels sel ·.labels)).map targetGroupKey =
      (l.filter (matchLabels sel ·.labels)).map targetGroupKey := by
  induction l with
  | nil => rfl
  | cons t l ih =>
    obtain ⟨hk, hl⟩ := hf t (.head _)
    simp only [List.map_cons, List.filter_cons, hl]
    split <;> simp only [List.map_cons, hk, ih fun x hx => hf x (.tail _ hx)]

theorem serviceKeys_of_attach {s s' : State} {id : String} {servers : List String}
    (h : s'.targetGroups = s.targetGroups.map fun x =>
      if x.identity = id then { x with attachments := servers } else x) :
    serviceKeys lb svc s' = serviceKeys lb svc s := by
  rw [serviceKeys, h, map_key_filter_map _ fun _ _ => by split <;> exact ⟨rfl, rfl⟩]
  rfl

/-- A rewrite of groups that keeps their keys and makes no group a new one of the Service
    leaves the Service's keys a sublist of what they were. -/
theorem serviceKeys_map_sublist {l : List VpcLoadbalancerTargetGroup}
    {f : VpcLoadbalancerTargetGroup → VpcLoadbalancerTargetGroup}
    (hf : ∀ t ∈ l, targetGroupKey (f t) = targetGroupKey t ∧
      (OfService lb svc (f t) → OfService lb svc t)) :
    List.Sublist
      (((l.map f).filter (matchLabels (getLabelsForVpcLoadbalancer lb svc) ·.labels)).map
        targetGroupKey)
      ((l.filter (matchLabels (getLabelsForVpcLoadbalancer lb svc) ·.labels)).map
        targetGroupKey) := by
  induction l with
  | nil => exact .slnil
  | cons t l ih =>
    have ih := ih fun x hx => hf x (.tail _ hx)
    obtain ⟨hk, hm⟩ := hf t (.head _)
    simp only [List.map_cons, List.filter_cons]
    split_ifs with h₁ h₂ h₂
    · rw [List.map_cons, List.map_cons, hk]
      exact ih.cons₂ _
    · exact absurd (hm h₁) h₂
    · rw [List.map_cons]
      exact ih.cons _
    · exact ih

/-- A Service's selector matches the labels of a group built for another Service only when
    the two selectors are one: the canonical entries, name, namespace and UID among them,
    survive in the group's labels. -/
theorem getLabelsForVpcLoadbalancer_eq_of_matchLabels {svc' : Service} {port : Nat}
    {protocol : String}
    (h : matchLabels (getLabelsForVpcLoadbalancer lb svc')
      (getLabelsForVpcLoadbalancerTargetGroup lb svc port protocol) = true) :
    getLabelsForVpcLoadbalancer lb svc' = getLabelsForVpcLoadbalancer lb svc := by
  have hget : ∀ k v v', (k, v') ∈ canonicalLabels lb svc' → (k, v) ∈ canonicalLabels lb svc →
      v' = v := fun k v v' h' hv => by
    have hhas : (getLabelsForVpcLoadbalancer lb svc).has k = true :=
      (has_iff_mem_keys _ _).mpr (List.mem_map_of_mem Prod.fst (canonicalLabels_subset lb svc hv))
    have hm := (matchLabels_iff _ _).mp h _ (canonicalLabels_subset lb svc' h')
    rw [getLabelsForVpcLoadbalancerTargetGroup, get_mergeAbsent, if_pos hhas,
      get_getLabelsForVpcLoadbalancer_canonical lb svc hv] at hm
    exact hm.symm
  have hname := hget labelKubernetesServiceName svc.name svc'.name (by simp [canonicalLabels])
    (by simp [canonicalLabels])
  have hns := hget labelKubernetesServiceNamespace svc.ns svc'.ns (by simp [canonicalLabels])
    (by simp [canonicalLabels])
  have huid := hget labelKubernetesServiceUID svc.uid svc'.uid (by simp [canonicalLabels])
    (by simp [canonicalLabels])
  simp only [getLabelsForVpcLoadbalancer, canonicalLabels, hname, hns, huid]

end Keys

/-! ## 2. The calls that keep the keys apart -/

/-- What a call must meet to keep `KeysUnique lb`: a create only of a key that no Service
    whose selector matches the new labels has a group with; a rewrite that keeps the key of
    each group it rewrites and makes it no new Service's group. -/
def TgGuard (lb : Loadbalancer) (s : State) : Call → Prop
  | .createTargetGroup req => ∀ svc : Service,
      matchLabels (getLabelsForVpcLoadbalancer lb svc) req.labels = true →
        (req.protocol, req.targetPort) ∉ serviceKeys lb svc s
  | .updateTargetGroup id req => ∀ t ∈ s.targetGroups, t.identity = id →
      targetGroupKey t = (req.protocol, req.targetPort) ∧
      ∀ svc : Service, matchLabels (getLabelsForVpcLoadbalancer lb svc) req.labels = true →
        OfService lb svc t
  | _ => True

/-- A call that neither creates nor rewrites a target group. -/
def Quiet : Call → Prop
  | .createTargetGroup _ | .updateTargetGroup _ _ => False
  | _ => True

theorem tgGuard_of_quiet {lb : Loadbalancer} {s : State} {c : Call} (h : Quiet c) :
    TgGuard lb s c := by
  cases c <;> first | exact h.elim | trivial

theorem quiet_of_kind {c : Call} (h : c.kind ≠ .targetGroup) : Quiet c := by
  cases c <;> trivial

namespace KeysUnique

variable {lb : Loadbalancer} {s : State}

theorem envStable : EnvStable (KeysUnique lb) := fun s e h =>
  ⟨h.fresh.applyEnv e, fun svc => by simpa [serviceKeys] using h.keys svc⟩

/-- A call the guard allows keeps the keys apart. -/
theorem perform (h : KeysUnique lb s) {c : Call} (hg : TgGuard lb s c) :
    KeysUnique lb (s.perform c).1 := by
  refine ⟨h.fresh.perform c, fun svc => ?_⟩
  cases c
  case createTargetGroup req =>
    rw [serviceKeys_of_append rfl]
    split
    next hm =>
      exact List.nodup_append.mpr ⟨h.keys svc, List.nodup_singleton _,
        List.disjoint_singleton.mpr (hg svc hm)⟩
    next => simpa using h.keys svc
  case updateTargetGroup id req =>
    simp only [State.perform]
    split
    · exact h.keys svc
    · refine (h.keys svc).sublist (serviceKeys_map_sublist fun t ht => ?_)
      split
      next hid => exact ⟨(hg t ht hid).1.symm, (hg t ht hid).2 svc⟩
      next => exact ⟨rfl, fun h => h⟩
  case deleteTargetGroup id =>
    simp only [State.perform]
    split
    · exact (h.keys svc).sublist (((List.filter_sublist _).filter _).map _)
    · exact h.keys svc
  case setTargetGroupServerAttachments id servers =>
    simp only [State.perform]
    split
    · rw [serviceKeys_of_attach rfl]; exact h.keys svc
    · exact h.keys svc
  all_goals
    rw [serviceKeys, State.perform_targetGroups]
    · exact h.keys svc
    · simp [Call.kind]

theorem respond (h : KeysUnique lb s) {c : Call} (hg : TgGuard lb s c) (f : Fault) :
    KeysUnique lb (s.respond c f).1 :=
  State.respond_of_perform s c h (h.perform hg) f

end KeysUnique

theorem quiet_of_kindIn {ks : List CallKind} (hks : CallKind.targetGroup ∉ ks) {c : Call}
    (hc : KindIn ks c) : Quiet c :=
  quiet_of_kind (hc.kind_ne hks)

/-- A program without target-group writes meets the guarantee, with whatever it is proved
    to do. -/
theorem wp_tgGuard_of_quiet {α : Type} {lb : Loadbalancer} {p : Prog α}
    {G : State → Call → Prop} {Q : α → State → Prop} {E : Failure → State → Prop} {s : State}
    (h : Wp (fun _ => True) G p Q E s) (hp : AllCalls Quiet p) :
    Wp (fun _ => True) (TgGuard lb) p Q E s :=
  h.guar_of_allCalls hp fun _ _ hc => tgGuard_of_quiet hc

/-- A program without target-group writes meets the guarantee. -/
theorem wp_quiet {α : Type} (lb : Loadbalancer) {p : Prog α} (hp : AllCalls Quiet p)
    {s : State} : Wp (fun _ => True) (TgGuard lb) p (fun _ _ => True) (fun _ _ => True) s :=
  wp_tgGuard_of_quiet (Wp.of_forall (fun _ _ => trivial) (fun _ _ => trivial) fun _ _ => trivial) hp

theorem calls_upgradeTargetGroupAttachments_quiet (tg : VpcLoadbalancerTargetGroup)
    (nodes : List Node) : AllCalls Quiet (upgradeTargetGroupAttachments tg nodes) :=
  AllCalls.wrap _ (.api trivial)

theorem calls_cleanupUnusedTargetGroups_quiet (lb : Loadbalancer) (svc : Service)
    (desired : List VpcLoadbalancerTargetGroup) :
    AllCalls Quiet (cleanupUnusedTargetGroups lb svc desired) :=
  (AllCalls.wrap _ (.api trivial)).bind fun existing =>
    (calls_deleteUnusedTargetGroups_listed _ existing).mono fun _ ⟨_, _, _, hc⟩ => by
      rw [hc]; trivial

theorem calls_ensureLoadBalancerDeleted_quiet (lb : Loadbalancer) (svc : Service) :
    AllCalls Quiet (ensureLoadBalancerDeleted lb svc) := by
  refine ((calls_fetchVpcLoadbalancerFromCloud lb svc).mono
    fun _ => quiet_of_kindIn (by decide)).bind fun found => ?_
  rcases found with _ | x
  · exact .ret _
  refine (calls_cleanupUnusedTargetGroups_quiet lb svc []).bind fun _ => ?_
  refine (AllCalls.api trivial).bind fun _ => ?_
  refine ((calls_pollUntilContextTimeout (calls_deletedCondition lb svc) _).mono fun _ =>
    quiet_of_kindIn (by decide)).bind fun _ => ?_
  refine (AllCalls.api trivial).bind fun tgs => ?_
  exact ((calls_deleteTargetGroupsWithoutListeners_listed tgs).mono fun _ ⟨_, _, _, hc⟩ => by
    rw [hc]; trivial).bind fun _ => (calls_deleteManagedSecurityGroup lb svc).mono fun _ =>
      quiet_of_kindIn (by decide)

/-! ## 3. The target-group step -/

section Step

variable {lb : Loadbalancer} {svc : Service}

/-- Every group under the identity `id` is the Service's, with the key `k`. -/
def KeyedAt (lb : Loadbalancer) (svc : Service) (s : State) (id : String) (k : String × Nat) :
    Prop :=
  ∀ t ∈ s.targetGroups, t.identity = id → targetGroupKey t = k ∧ OfService lb svc t

/-- The listed groups still to rewrite: each still has a group under its identity, and every
    group under it is the Service's, with the listed key. -/
def Pending (lb : Loadbalancer) (svc : Service) (pend : List VpcLoadbalancerTargetGroup)
    (s : State) : Prop :=
  ∀ e ∈ pend, e.identity ∈ s.targetGroups.map (·.identity) ∧
    KeyedAt lb svc s e.identity (targetGroupKey e)

/-- A rewrite that keeps every group's identity, and the key and labels of the groups under
    the pending identities. -/
theorem Pending.of_map {pend : List VpcLoadbalancerTargetGroup} {s s' : State}
    (h : Pending lb svc pend s) {f : VpcLoadbalancerTargetGroup → VpcLoadbalancerTargetGroup}
    (hs' : s'.targetGroups = s.targetGroups.map f)
    (hid : ∀ t ∈ s.targetGroups, (f t).identity = t.identity)
    (hf : ∀ e ∈ pend, ∀ t ∈ s.targetGroups, (f t).identity = e.identity →
      targetGroupKey (f t) = targetGroupKey t ∧ (f t).labels = t.labels) :
    Pending lb svc pend s' := fun e he => by
  obtain ⟨hm, hk⟩ := h e he
  have hids : s'.targetGroups.map (·.identity) = s.targetGroups.map (·.identity) := by
    rw [hs', List.map_map]
    exact List.map_congr_left hid
  refine ⟨hids ▸ hm, fun t' ht' hi => ?_⟩
  rw [hs'] at ht'
  obtain ⟨t, ht, rfl⟩ := List.mem_map.mp ht'
  obtain ⟨hkt, hl⟩ := hf e he t ht hi
  obtain ⟨hk', ho⟩ := hk t ht ((hid t ht).symm.trans hi)
  exact ⟨hkt.trans hk', by rw [OfService, hl]; exact ho⟩

theorem Pending.of_attach {pend : List VpcLoadbalancerTargetGroup} {s s' : State} {id : String}
    {servers : List String} (h : Pending lb svc pend s)
    (hs' : s'.targetGroups = s.targetGroups.map fun x =>
      if x.identity = id then { x with attachments := servers } else x) :
    Pending lb svc pend s' :=
  h.of_map hs' (fun _ _ => by split <;> rfl) fun _ _ _ _ _ => by split <;> exact ⟨rfl, rfl⟩

/-- A group created under a fresh identity is under no identity the cloud had. -/
theorem Pending.of_append {pend : List VpcLoadbalancerTargetGroup} {s s' : State}
    {req : TargetGroupRequest} (h : Pending lb svc pend s) (hf : s.Fresh)
    (hs' : s'.targetGroups = s.targetGroups ++ [State.targetGroupOf (freshId s.nextId) [] req]) :
    Pending lb svc pend s' := fun e he => by
  obtain ⟨hm, hk⟩ := h e he
  refine ⟨by rw [hs', List.map_append]; exact List.mem_append_left _ hm, fun t ht hid => ?_⟩
  rw [hs', List.mem_append, List.mem_singleton] at ht
  rcases ht with ht | rfl
  · exact hk t ht hid
  · exact (hf.targetGroups.not_mem ((show freshId s.nextId = e.identity from hid) ▸ hm)).elim

variable {ds : List VpcLoadbalancerTargetGroup}

/-- **The creation loop** creates a key only where the Service has no group with it, and
    leaves the pending groups as they were. -/
theorem wp_createMissingTargetGroups_guard (nodes : List Node) (keys : List (String × Nat))
    (hlabels : ∀ d ∈ ds, ∃ port protocol,
      d.labels = getLabelsForVpcLoadbalancerTargetGroup lb svc port protocol)
    (pend : List VpcLoadbalancerTargetGroup) :
    ∀ (rest : List VpcLoadbalancerTargetGroup), (∀ d ∈ rest, d ∈ ds) →
      (rest.map targetGroupKey).Nodup → ∀ {s : State}, s.Fresh →
      (∀ d ∈ rest, targetGroupKey d ∉ keys → targetGroupKey d ∉ serviceKeys lb svc s) →
      Pending lb svc pend s →
      Wp (fun _ => True) (TgGuard lb) (createMissingTargetGroups nodes keys rest)
        (fun _ s' => s'.Fresh ∧ Pending lb svc pend s') (fun _ _ => True) s
  | [], _, _, _, hf, _, hp => Wp.ret ⟨hf, hp⟩
  | d :: rest, hds, hnd, s, hf, hk, hp => by
    have hrest : ∀ d' ∈ rest, d' ∈ ds := fun d' hd' => hds d' (.tail _ hd')
    rw [List.map_cons, List.nodup_cons] at hnd
    simp only [createMissingTargetGroups, bind_eq, pure_eq, ret_bind]
    split
    next =>
      exact wp_createMissingTargetGroups_guard nodes keys hlabels pend rest hrest hnd.2 hf
        (fun d' hd' => hk d' (.tail _ hd')) hp
    next hin =>
      obtain ⟨port, protocol, hl⟩ := hlabels d (hds d (.head _))
      have hguard : ∀ es, TgGuard lb (s.evolve es) (.createTargetGroup (targetGroupRequest d)) :=
        fun es svc' hm => by
          rw [serviceKeys_evolve, serviceKeys_congr
            (getLabelsForVpcLoadbalancer_eq_of_matchLabels (by rw [← hl]; exact hm))]
          exact hk d (.head _) hin
      refine Wp.bind_of (Wp.wrap_inv trivial (Wp.api_guar trivial hguard
        (wp_createTargetGroup_ok _ hf))) fun r s₁ h₁ => ?_
      obtain ⟨hf₁, rfl, htg₁, -⟩ := h₁
      refine Wp.bind_of (Wp.wrap_inv trivial (wp_tgGuard_of_quiet
        (wp_upgradeTargetGroupAttachments _ nodes hf₁)
        (calls_upgradeTargetGroupAttachments_quiet _ nodes)))
        fun _ s₂ ⟨hf₂, htg₂, _⟩ => ?_
      have hkeys₂ : serviceKeys lb svc s₂ = serviceKeys lb svc s ++ [targetGroupKey d] := by
        rw [serviceKeys_of_attach htg₂, serviceKeys_of_append htg₁, if_pos (by
          show matchLabels _ d.labels = true
          rw [hl]
          exact matchLabels_getLabelsForVpcLoadbalancerTargetGroup lb svc port protocol)]
        rfl
      refine Wp.bind_of (wp_createMissingTargetGroups_guard nodes keys hlabels pend rest hrest
        hnd.2 hf₂ (fun d' hd' hkd => ?_) ((hp.of_append hf htg₁).of_attach htg₂))
        fun _ _ h => Wp.ret h
      rw [hkeys₂, List.mem_append, List.mem_singleton, not_or]
      exact ⟨hk d' (.tail _ hd') hkd, fun he => hnd.1 (he ▸ List.mem_map_of_mem _ hd')⟩

/-- **The update loop** rewrites a listed group only from the desired group with its key,
    which keeps the key and the Service. -/
theorem wp_updateExistingTargetGroups_guard (nodes : List Node)
    (hlabels : ∀ d ∈ ds, ∃ port protocol,
      d.labels = getLabelsForVpcLoadbalancerTargetGroup lb svc port protocol) :
    ∀ (rest : List VpcLoadbalancerTargetGroup), (rest.map (·.identity)).Nodup →
      ∀ {s : State}, s.Fresh → Pending lb svc rest s →
      Wp (fun _ => True) (TgGuard lb) (updateExistingTargetGroups nodes ds rest)
        (fun _ _ => True) (fun _ _ => True) s
  | [], _, _, _, _ => Wp.ret trivial
  | e :: rest, hnd, s, hf, hp => by
    rw [List.map_cons, List.nodup_cons] at hnd
    have hrest : Pending lb svc rest s := fun e' he' => hp e' (.tail _ he')
    simp only [updateExistingTargetGroups, bind_eq, pure_eq, ret_bind]
    split
    next => exact wp_updateExistingTargetGroups_guard nodes hlabels rest hnd.2 hf hrest
    next want hwant =>
      split
      next => exact wp_updateExistingTargetGroups_guard nodes hlabels rest hnd.2 hf hrest
      next =>
        obtain ⟨port, protocol, hl⟩ := hlabels want (mem_of_lastWithKey hwant)
        have hguard : ∀ es, TgGuard lb (s.evolve es)
            (.updateTargetGroup e.identity (targetGroupRequest want)) := fun es t ht hid => by
          rw [State.evolve_targetGroups] at ht
          obtain ⟨hk, ho⟩ := (hp e (.head _)).2 t ht hid
          refine ⟨hk.trans (key_of_lastWithKey hwant).symm, fun svc' hm => ?_⟩
          rw [OfService, getLabelsForVpcLoadbalancer_eq_of_matchLabels
            (by rw [← hl]; exact hm)]
          exact ho
        refine Wp.bind_of (Wp.wrap_inv trivial (Wp.api_guar trivial hguard
          (wp_updateTargetGroup_ok _ _ hf))) fun r s₁ h₁ => ?_
        obtain ⟨hf₁, ⟨tg, -, -, rfl⟩, htg₁, -⟩ := h₁
        refine Wp.bind_of (Wp.wrap_inv trivial (wp_tgGuard_of_quiet
          (wp_upgradeTargetGroupAttachments _ nodes hf₁)
          (calls_upgradeTargetGroupAttachments_quiet _ nodes)))
          fun _ s₂ ⟨hf₂, htg₂, _⟩ => ?_
        have hp₂ : Pending lb svc rest s₂ := by
          refine hrest.of_map (htg₂.trans (htg₁ ▸ map_update_attach _ _ _ _))
            (fun _ _ => by split <;> simp_all [State.targetGroupOf]) fun e' he' t _ hi => ?_
          split at hi
          · refine (hnd.1 ?_).elim
            rw [show e.identity = e'.identity from hi]
            exact List.mem_map_of_mem _ he'
          · rw [if_neg ‹_›]; exact ⟨rfl, rfl⟩
        exact Wp.bind_of (wp_updateExistingTargetGroups_guard nodes hlabels rest hnd.2 hf₂ hp₂)
          fun _ _ _ => Wp.ret trivial

/-- **The target-group step** makes only writes the guard allows. -/
theorem wp_createOrUpdateTargetGroups_guard (nodes : List Node)
    (hlabels : ∀ d ∈ ds, ∃ port protocol,
      d.labels = getLabelsForVpcLoadbalancerTargetGroup lb svc port protocol)
    (hkeys : (ds.map targetGroupKey).Nodup) {s : State} (hf : s.Fresh) :
    Wp (fun _ => True) (TgGuard lb) (createOrUpdateTargetGroups lb svc ds nodes)
      (fun _ _ => True) (fun _ _ => True) s := by
  simp only [createOrUpdateTargetGroups, bind_eq, pure_eq]
  refine Wp.bind_of (Wp.wrap_inv trivial (Wp.api_guar trivial (fun _ => trivial)
    (wp_listTargetGroups_ok lb svc hf))) fun existing s₁ h₁ => ?_
  obtain ⟨hf₁, rfl, hT₁, -⟩ := h₁
  have hpend : Pending lb svc (listedTargetGroups lb svc s) s₁ := fun e he => by
    obtain ⟨t, ht, hm, hid, hk⟩ := original_of_mem_listedTargetGroups he
    refine ⟨hid ▸ List.mem_map_of_mem _ (hT₁ ▸ ht), fun t' ht' hid' => ?_⟩
    obtain rfl := List.inj_on_of_nodup_map hf.targetGroups.1 (hT₁ ▸ ht') ht (hid'.trans hid.symm)
    exact ⟨hk, hm⟩
  have hnd : ((listedTargetGroups lb svc s).map (·.identity)).Nodup := by
    rw [map_identity_listedTargetGroups]
    exact hf.targetGroups.1.sublist ((List.filter_sublist _).map _)
  refine Wp.bind_of (wp_createMissingTargetGroups_guard nodes _ hlabels _ ds (fun _ h => h) hkeys
    hf₁ (fun d _ hk => ?_) hpend) fun _ s₂ h₂ => ?_
  · rwa [serviceKeys, hT₁, ← serviceKeys, ← map_key_listedTargetGroups]
  · exact Wp.bind_of (wp_updateExistingTargetGroups_guard nodes hlabels _ hnd h₂.1 h₂.2)
      fun _ _ _ => Wp.ret trivial

end Step

/-! ## 4. The entry points -/

/-- **The reconcile step, phase by phase.** A guarantee that the target-group step, the
    listener step, the cleanup and the write-back each meet, from what the phase before
    leaves, the step meets. -/
theorem wp_updateVpcLoadbalancerListenersAndTargetGroups_of {G : State → Call → Prop}
    {lb : Loadbalancer} {svc : Service} {nodes : List Node} {x : VpcLoadbalancer} {s : State}
    {P₁ P₂ P₃ : List VpcLoadbalancerTargetGroup → State → Prop}
    (htg : ∀ ds, getDesiredVpcLoadbalancerTargetGroups lb svc = .ok ds →
      Wp (fun _ => True) G (createOrUpdateTargetGroups lb svc ds nodes) P₁ (fun _ _ => True) s)
    (hls : ∀ tgs t, P₁ tgs t → Wp (fun _ => True) G
      (updateVpcLoadbalancerListener lb svc x (desiredVpcLoadbalancerListener lb svc) tgs)
      (fun _ => P₂ tgs) (fun _ _ => True) t)
    (hcl : ∀ tgs t, P₂ tgs t → Wp (fun _ => True) G (cleanupUnusedTargetGroups lb svc tgs)
      (fun _ => P₃ tgs) (fun _ _ => True) t)
    (hwb : ∀ tgs t, P₃ tgs t → Wp (fun _ => True) G
      (updateVpcLoadbalancer lb svc x (desiredVpcLoadbalancerListener lb svc))
      (fun _ _ => True) (fun _ _ => True) t) :
    Wp (fun _ => True) G (updateVpcLoadbalancerListenersAndTargetGroups lb svc nodes x)
      (fun _ _ => True) (fun _ _ => True) s := by
  simp only [updateVpcLoadbalancerListenersAndTargetGroups, bind_eq, pure_eq, ret_bind, throw_bind]
  split
  next ds hds =>
    exact Wp.bind_of (Wp.wrap_inv trivial (htg ds hds)) fun tgs _ h₁ =>
      Wp.bind_of (Wp.wrap_inv trivial (hls tgs _ h₁)) fun _ _ h₂ =>
        Wp.bind_of (Wp.wrap_inv trivial (hcl tgs _ h₂)) fun _ _ h₃ =>
          Wp.bind_of (Wp.wrap_inv trivial (hwb tgs _ h₃)) fun _ _ _ => Wp.ret trivial
  next => exact Wp.throw trivial

/-- The write-back reads, touches security groups, and writes the load balancer back. -/
theorem calls_updateVpcLoadbalancer_kinds (lb : Loadbalancer) (svc : Service)
    (x : VpcLoadbalancer) (desired : List VpcLoadbalancerListener) :
    AllCalls (KindIn [.read, .securityGroup, .loadbalancer])
      (updateVpcLoadbalancer lb svc x desired) :=
  (calls_updateVpcLoadbalancer lb svc x desired).mono fun _ hc => by
    rcases hc with hc | ⟨_, rfl, _⟩
    · exact (List.sublist_append_left _ [CallKind.loadbalancer]).subset hc
    · simp [KindIn, Call.kind]

/-- The desired groups carry the target-group labels of the Service. -/
theorem labels_of_getDesiredVpcLoadbalancerTargetGroups {lb : Loadbalancer} {svc : Service}
    {ds : List VpcLoadbalancerTargetGroup}
    (hds : getDesiredVpcLoadbalancerTargetGroups lb svc = .ok ds) :
    ∀ d ∈ ds, ∃ port protocol,
      d.labels = getLabelsForVpcLoadbalancerTargetGroup lb svc port protocol := fun d hd => by
  obtain ⟨_, _, rfl⟩ := getDesiredVpcLoadbalancerTargetGroups_eq_ok hds
  obtain ⟨q, -, rfl⟩ := List.mem_map.mp hd
  exact ⟨_, _, rfl⟩

/-- **The reconcile step** makes only target-group writes the guard allows: the target-group
    step is guarded, and the listener, cleanup and write-back steps create and rewrite no
    group. -/
theorem wp_updateVpcLoadbalancerListenersAndTargetGroups_guard (lb : Loadbalancer)
    (svc : Service) (nodes : List Node) (x : VpcLoadbalancer)
    (hkeys : (svc.ports.map fun p => (p.protocol, p.nodePort)).Nodup) {s : State} (hf : s.Fresh) :
    Wp (fun _ => True) (TgGuard lb) (updateVpcLoadbalancerListenersAndTargetGroups lb svc nodes x)
      (fun _ _ => True) (fun _ _ => True) s :=
  wp_updateVpcLoadbalancerListenersAndTargetGroups_of
    (fun _ hds => wp_createOrUpdateTargetGroups_guard nodes
      (labels_of_getDesiredVpcLoadbalancerTargetGroups hds) (nodup_desiredKeys hkeys hds) hf)
    (fun tgs _ _ => wp_quiet lb ((calls_updateVpcLoadbalancerListener lb svc x _ tgs).mono
      fun _ => quiet_of_kindIn (by decide)))
    (fun tgs _ _ => wp_quiet lb (calls_cleanupUnusedTargetGroups_quiet lb svc tgs))
    (fun _ _ _ => wp_quiet lb ((calls_updateVpcLoadbalancer_kinds lb svc x _).mono
      fun _ => quiet_of_kindIn (by decide)))

/-- **Every operation**, from a cloud whose identities are fresh, meets a guarantee that
    every call of a class `Qc` meets, when the lookup, load-balancer and security-group calls
    and every call of `EnsureLoadBalancerDeleted` are in `Qc` and the reconcile step meets it
    from every fresh cloud. -/
theorem Op.wp_of_reconcile {G : State → Call → Prop} {Qc : Call → Prop} (op : Op)
    (hQ : ∀ s c, Qc c → G s c)
    (hlb : ∀ c, KindIn [.read, .securityGroup, .loadbalancer] c → Qc c)
    (hdel : AllCalls Qc (ensureLoadBalancerDeleted op.lb op.svc))
    (hstep : ∀ (nodes : List Node) (x : VpcLoadbalancer) (t : State), t.Fresh →
      Wp (fun _ => True) G (updateVpcLoadbalancerListenersAndTargetGroups op.lb op.svc nodes x)
        (fun _ _ => True) (fun _ _ => True) t)
    {s : State} (hf : s.Fresh) :
    Wp (fun _ => True) G op.prog (fun _ _ => True) (fun _ _ => True) s := by
  have hq : ∀ {α : Type} {p : Prog α} {t : State}, AllCalls Qc p →
      Wp (fun _ => True) G p (fun _ _ => True) (fun _ _ => True) t := fun hp =>
    (Wp.of_forall (fun _ _ => trivial) (fun _ _ => trivial) fun _ _ => trivial).guar_of_allCalls
      hp hQ
  have hfetch := wp_fetchVpcLoadbalancerFromCloud op.lb op.svc State.Fresh.envStable
    (fun t _ => hQ t _ (hlb _ (by simp [KindIn, Call.kind]))) hf
  unfold Op.prog
  split
  · refine Wp.bind_of ?_ fun _ _ (_ : True) => Wp.ret trivial
    simp only [ensureLoadBalancer, bind_eq, pure_eq]
    refine Wp.bind (hfetch.mono (fun found s₁ h₁ => ?_) fun _ _ _ => trivial)
    split
    next => exact hstep _ _ _ h₁.1
    next =>
      refine Wp.bind_of (((hq ((calls_createVpcLoadbalancer _ _ _).mono hlb)).frame_of_guar
        State.Fresh.envStable (fun _ c f _ h => h.respond c f) h₁.1).mono (fun _ _ h => h.2)
        fun _ _ _ => trivial) fun created _ hf₂ => ?_
      exact Wp.bind_of (hstep _ _ _ hf₂) fun _ _ _ => Wp.bind_of (hq
        ((calls_pollUntilContextTimeout ((calls_readyCondition _ _ created).kinds (by decide))
          _).mono hlb)) fun _ _ _ => Wp.ret trivial
  · simp only [updateLoadBalancer, bind_eq, pure_eq]
    refine Wp.bind (Wp.wrap_inv trivial (hfetch.mono (fun found s₁ h₁ => ?_) fun _ _ _ => trivial))
    split
    next => exact Wp.throw trivial
    next => exact Wp.bind_of (Wp.wrap_inv trivial (hstep _ _ _ h₁.1)) fun _ _ _ => Wp.ret trivial
  · exact hq hdel

/-- Every operation makes only target-group writes the guard allows, however it ends. -/
theorem Op.wp_tgGuard (op : Op)
    (hkeys : (op.svc.ports.map fun p => (p.protocol, p.nodePort)).Nodup) {s : State}
    (hf : s.Fresh) :
    Wp (fun _ => True) (TgGuard op.lb) op.prog (fun _ _ => True) (fun _ _ => True) s :=
  @Op.wp_of_reconcile (TgGuard op.lb) Quiet op (fun _ _ hc => tgGuard_of_quiet hc)
    (fun _ => quiet_of_kindIn (by decide))
    (calls_ensureLoadBalancerDeleted_quiet _ _)
    (fun nodes x _ ht =>
      wp_updateVpcLoadbalancerListenersAndTargetGroups_guard _ _ nodes x hkeys ht)
    _ hf

/-- Every operation keeps the keys apart, however it ends. -/
theorem Op.wp_keysUnique (op : Op)
    (hkeys : (op.svc.ports.map fun p => (p.protocol, p.nodePort)).Nodup) {s : State}
    (hs : KeysUnique op.lb s) :
    Wp (fun _ => True) (TgGuard op.lb) op.prog (fun _ => KeysUnique op.lb)
      (fun _ => KeysUnique op.lb) s :=
  ((op.wp_tgGuard hkeys hs.fresh).frame_of_guar KeysUnique.envStable
    (fun _ _ f hg h => h.respond hg f) hs).mono (fun _ _ h => h.2) fun _ _ h => h.2

/-! ## 5. Runs under one configuration -/

/-- The clouds reachable from an empty VPC by operations under the configuration `lb`, one
    after another, each under any schedule, each for a Service whose ports have distinct
    protocol and node-port pairs, as the API server admits them. -/
inductive ReachableUnder (lb : Loadbalancer) (subnets : List Subnet) : State → Prop
  | init : ReachableUnder lb subnets (State.empty subnets)
  | step {s : State} (op : Op) (ts : List Tick) (hlb : op.lb = lb)
      (hkeys : (op.svc.ports.map fun p => (p.protocol, p.nodePort)).Nodup) :
      ReachableUnder lb subnets s → ReachableUnder lb subnets (exec op.prog ts s).state

theorem KeysUnique.empty (lb : Loadbalancer) (subnets : List Subnet) :
    KeysUnique lb (State.empty subnets) :=
  ⟨State.Fresh.empty subnets, fun _ => List.nodup_nil⟩

theorem ReachableUnder.keysUnique {lb : Loadbalancer} {subnets : List Subnet} {s : State}
    (h : ReachableUnder lb subnets s) : KeysUnique lb s := by
  induction h with
  | init => exact KeysUnique.empty lb subnets
  | step op ts hlb hkeys _ ih =>
    subst hlb
    exact (op.wp_keysUnique hkeys ih).state ts fun _ _ => trivial

/-- **One target group per Service and key.** In every cloud that operations under one
    configuration reach from an empty VPC, one after another, each failing wherever it may,
    no Service's selector matches two target groups with one protocol and target port; and
    the next operation creates a key only where the Service has no group with it, and
    rewrites a group only into one with its key and Service. -/
theorem targetGroupKeys_unique {lb : Loadbalancer} {subnets : List Subnet} {s : State}
    (h : ReachableUnder lb subnets s) :
    (∀ svc, (serviceKeys lb svc s).Nodup) ∧
    ∀ op : Op, op.lb = lb → (op.svc.ports.map fun p => (p.protocol, p.nodePort)).Nodup →
      ∀ ts, ∀ x ∈ issued op.prog ts s, TgGuard lb x.1 x.2 :=
  ⟨h.keysUnique.keys, fun op hlb hkeys ts x hx => by
    subst hlb
    exact ((op.wp_tgGuard hkeys h.keysUnique.fresh) ts fun _ _ => trivial).1 x hx⟩

theorem targetGroupKeys_unique_webEnsured :
    ReachableUnder (configWithLabels []) [⟨"subnet-1", "main"⟩] webEnsured ∧
    (∀ svc, (serviceKeys (configWithLabels []) svc webEnsured).Nodup) ∧
    ∀ op : Op, op.lb = configWithLabels [] →
      (op.svc.ports.map fun p => (p.protocol, p.nodePort)).Nodup →
      ∀ ts, ∀ x ∈ issued op.prog ts webEnsured, TgGuard (configWithLabels []) x.1 x.2 :=
  have h := ReachableUnder.step ⟨configWithLabels [], webService, .ensure [] []⟩ [] rfl
    (by decide) .init
  ⟨h, targetGroupKeys_unique h⟩

end Engine
end ThalassaCcm
