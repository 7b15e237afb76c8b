import ThalassaCcm.Proof.Ownership

/-!
# What a reconcile leaves of the Service's target groups

`createOrUpdateTargetGroups` lists the Service's groups once, then creates a group for
every desired key no listed group has, then rewrites every listed group whose key is
desired, and attaches the nodes to every group it created or rewrote. The listener step
touches only listeners, `cleanupUnusedTargetGroups` lists the groups again and deletes
those with an undesired key that no listener names, and the write-back of the load
balancer touches neither groups nor listeners.

So, from any cloud whose identities are fresh, a successful reconcile leaves
(`TargetGroupsReconciled`):

* a group of the Service for every desired key;
* every group of the Service with a desired key rewritten from a desired group, with the
  nodes' server identities attached;
* every group of the Service that had a desired key still there, under its identity;
* no new group for a key that a group of the Service already had;
* no group of the Service with an undesired key that no listener names.

The argument follows the phases: an invariant of the creation loop (`Creating`), one of
the update loop (`Updating`), one of the deletion loop, and frames for the steps between.
Every call is read on its successful answer only (`wp_api_ok`): a failed call fails the
reconcile.
-/

set_option autoImplicit false

namespace ThalassaCcm
namespace Engine

open Cloud Prog StrMap

/-! ## 1. What is asked of a group -/

/-- A target group of the Service: one its selector matches. -/
def OfService (lb : Loadbalancer) (svc : Service) (tg : VpcLoadbalancerTargetGroup) : Prop :=
  matchLabels (getLabelsForVpcLoadbalancer lb svc) tg.labels = true

instance (lb : Loadbalancer) (svc : Service) : DecidablePred (OfService lb svc) :=
  fun tg => inferInstanceAs (Decidable (matchLabels _ tg.labels = true))

/-- A group has a desired group's key and the fields a reconcile sends for it. -/
def Carries (d tg : VpcLoadbalancerTargetGroup) : Prop :=
  targetGroupKey tg = targetGroupKey d ∧ tg.name = d.name ∧ tg.labels = d.labels ∧
    tg.healthCheck = d.healthCheck ∧ tg.loadbalancingPolicy = d.loadbalancingPolicy ∧
    tg.enableProxyProtocol = d.enableProxyProtocol

theorem carries_targetGroupOf (d : VpcLoadbalancerTargetGroup) (id : String)
    (attachments : List String) :
    Carries d (State.targetGroupOf id attachments (targetGroupRequest d)) :=
  ⟨rfl, rfl, rfl, rfl, rfl, rfl⟩

/-- The desired groups are the Service's. -/
theorem ofService_of_getDesired {lb : Loadbalancer} {svc : Service}
    {ds : List VpcLoadbalancerTargetGroup} (h : getDesiredVpcLoadbalancerTargetGroups lb svc = .ok ds) :
    ∀ d ∈ ds, OfService lb svc d := by
  unfold getDesiredVpcLoadbalancerTargetGroups at h
  split at h
  · cases h
  · cases h
    simp only [List.mem_map]
    rintro _ ⟨p, -, rfl⟩
    exact matchLabels_getLabelsForVpcLoadbalancerTargetGroup lb svc _ _

theorem lastWithKey_eq_none_iff {ds : List VpcLoadbalancerTargetGroup} {k : String × Nat} :
    lastWithKey ds k = none ↔ k ∉ ds.map targetGroupKey := by
  simp [lastWithKey, List.getLast?_eq_none_iff, List.filter_eq_nil_iff]

theorem key_of_lastWithKey {ds : List VpcLoadbalancerTargetGroup} {k : String × Nat}
    {want : VpcLoadbalancerTargetGroup} (h : lastWithKey ds k = some want) :
    targetGroupKey want = k :=
  of_decide_eq_true (List.mem_filter.mp (List.mem_of_getLast?_eq_some h)).2

/-! ## 2. Calls, on success -/

/-- A call whose error ends the program, read on its successful answer: the answer and
    the cloud are the honest cloud's, after the cloud's progress. -/
theorem wp_api_ok {c : Call} {Q : Resp c → State → Prop} {s : State}
    (h : ∀ es v, ((s.evolve es).perform c).2 = .ok v → Q v ((s.evolve es).perform c).1) :
    Wp (fun _ => True) (fun _ _ => True) (api c) Q (fun _ _ => True) s := by
  refine Wp.api trivial fun es f _ => ⟨trivial, ?_⟩
  cases f with
  | ok =>
    simp only [State.respond]
    rcases hp : (s.evolve es).perform c with ⟨s', _ | v⟩
    · trivial
    · have := h es v (by rw [hp])
      rwa [hp] at this
  | fail e => trivial
  | failAfter e => trivial

/-- What a listing of the Service's target groups answers. -/
def listedTargetGroups (lb : Loadbalancer) (svc : Service) (s : State) :
    List VpcLoadbalancerTargetGroup :=
  (s.targetGroups.filter (matchLabels (getLabelsForVpcLoadbalancer lb svc) ·.labels)).map fun tg =>
    { tg with loadbalancerListeners := s.referencingListeners tg.identity }

theorem perform_listTargetGroups (lb : Loadbalancer) (svc : Service) (s : State) :
    s.perform (.listTargetGroups (getLabelsForVpcLoadbalancer lb svc)) =
      (s, .ok (listedTargetGroups lb svc s)) := rfl

theorem mem_listedTargetGroups {lb : Loadbalancer} {svc : Service} {s : State}
    {e : VpcLoadbalancerTargetGroup} :
    e ∈ listedTargetGroups lb svc s ↔ ∃ t ∈ s.targetGroups, OfService lb svc t ∧
      e = { t with loadbalancerListeners := s.referencingListeners t.identity } := by
  simp only [listedTargetGroups, List.mem_map, List.mem_filter, OfService, and_assoc]
  exact ⟨fun ⟨t, ht, hm, he⟩ => ⟨t, ht, hm, he.symm⟩, fun ⟨t, ht, hm, he⟩ => ⟨t, ht, hm, he.symm⟩⟩

theorem listedTargetGroups_evolve (lb : Loadbalancer) (svc : Service) (s : State)
    (es : List EnvEvent) : listedTargetGroups lb svc (s.evolve es) = listedTargetGroups lb svc s := by
  simp [listedTargetGroups, State.referencingListeners]

section Calls

variable {s : State}

theorem wp_listTargetGroups_ok (lb : Loadbalancer) (svc : Service) (hf : s.Fresh) :
    Wp (fun _ => True) (fun _ _ => True)
      (api (.listTargetGroups (getLabelsForVpcLoadbalancer lb svc)))
      (fun r s' => s'.Fresh ∧ r = listedTargetGroups lb svc s ∧
        s'.targetGroups = s.targetGroups ∧ s'.listeners = s.listeners)
      (fun _ _ => True) s :=
  wp_api_ok fun es v hv => by
    rw [perform_listTargetGroups] at hv ⊢
    cases hv
    exact ⟨State.Fresh.envStable.evolve hf es, listedTargetGroups_evolve lb svc s es, by simp,
      by simp⟩

theorem wp_createTargetGroup_ok (req : TargetGroupRequest) (hf : s.Fresh) :
    Wp (fun _ => True) (fun _ _ => True) (api (.createTargetGroup req))
      (fun r s' => s'.Fresh ∧ r = some (State.targetGroupOf (freshId s.nextId) [] req) ∧
        s'.targetGroups = s.targetGroups ++ [State.targetGroupOf (freshId s.nextId) [] req] ∧
        s'.listeners = s.listeners)
      (fun _ _ => True) s :=
  wp_api_ok fun es v hv => by
    refine ⟨(State.Fresh.envStable.evolve hf es).perform _, ?_⟩
    simp only [State.perform, Except.ok.injEq] at hv ⊢
    exact ⟨by simp [← hv], by simp, by simp⟩

theorem wp_setTargetGroupServerAttachments_ok (id : String) (servers : List String)
    (hf : s.Fresh) :
    Wp (fun _ => True) (fun _ _ => True) (api (.setTargetGroupServerAttachments id servers))
      (fun _ s' => s'.Fresh ∧ s'.targetGroups = s.targetGroups.map (fun x =>
          if x.identity = id then { x with attachments := servers } else x) ∧
        s'.listeners = s.listeners)
      (fun _ _ => True) s :=
  wp_api_ok fun es v hv => by
    refine ⟨(State.Fresh.envStable.evolve hf es).perform _, ?_⟩
    simp only [State.perform] at hv ⊢
    split at hv
    next hany => rw [if_pos hany]; simp
    next => cases hv

theorem wp_updateTargetGroup_ok (id : String) (req : TargetGroupRequest) (hf : s.Fresh) :
    Wp (fun _ => True) (fun _ _ => True) (api (.updateTargetGroup id req))
      (fun r s' => s'.Fresh ∧ (∃ tg ∈ s.targetGroups, tg.identity = id ∧
          r = some (State.targetGroupOf id tg.attachments req)) ∧
        s'.targetGroups = s.targetGroups.map (fun x =>
          if x.identity = id then State.targetGroupOf id x.attachments req else x) ∧
        s'.listeners = s.listeners)
      (fun _ _ => True) s :=
  wp_api_ok fun es v hv => by
    refine ⟨(State.Fresh.envStable.evolve hf es).perform _, ?_⟩
    simp only [State.perform] at hv ⊢
    split at hv
    · cases hv
    next tg hfind =>
      cases hv
      have hmem := List.mem_of_find?_eq_some hfind
      refine ⟨⟨tg, by simpa using hmem, by simpa using List.find?_some hfind, rfl⟩, by simp, by simp⟩

theorem wp_deleteTargetGroup_ok (id : String) (hf : s.Fresh) :
    Wp (fun _ => True) (fun _ _ => True) (api (.deleteTargetGroup id))
      (fun _ s' => s'.Fresh ∧ s'.targetGroups = s.targetGroups.filter (·.identity ≠ id) ∧
        s'.listeners = s.listeners)
      (fun _ _ => True) s :=
  wp_api_ok fun es v hv => by
    refine ⟨(State.Fresh.envStable.evolve hf es).perform _, ?_⟩
    simp only [State.perform] at hv ⊢
    split at hv
    next hany => rw [if_pos hany]; simp
    next => cases hv

end Calls

theorem wp_upgradeTargetGroupAttachments {s : State} (tg : VpcLoadbalancerTargetGroup)
    (nodes : List Node) (hf : s.Fresh) :
    Wp (fun _ => True) (fun _ _ => True) (upgradeTargetGroupAttachments tg nodes)
      (fun _ s' => s'.Fresh ∧ s'.targetGroups = s.targetGroups.map (fun x =>
          if x.identity = tg.identity then { x with attachments := nodes.filterMap serverIdentity }
          else x) ∧
        s'.listeners = s.listeners)
      (fun _ _ => True) s :=
  Wp.wrap_inv trivial (wp_setTargetGroupServerAttachments_ok _ _ hf)

/-- Attaching servers to an identity no group has changes nothing. -/
theorem map_attach_of_not_mem {l : List VpcLoadbalancerTargetGroup} {id : String}
    (h : id ∉ l.map (·.identity)) (servers : List String) :
    l.map (fun x => if x.identity = id then { x with attachments := servers } else x) = l := by
  conv_rhs => rw [← List.map_id l]
  exact List.map_congr_left fun x hx =>
    if_neg fun (he : x.identity = id) => h (he ▸ List.mem_map_of_mem (·.identity) hx)

/-! ## 3. The creation loop -/

section Creation

variable (lb : Loadbalancer) (svc : Service) (nodes : List Node)
  (ds : List VpcLoadbalancerTargetGroup) (T₀ : List VpcLoadbalancerTargetGroup)

/-- A group the creation loop made: a new identity, the nodes' server identities attached,
    a desired group's fields, and a key no group of the Service had. -/
def NewGroup (t : VpcLoadbalancerTargetGroup) : Prop :=
  t.identity ∉ T₀.map (·.identity) ∧ t.attachments = nodes.filterMap serverIdentity ∧
    (∀ t₀ ∈ T₀, OfService lb svc t₀ → targetGroupKey t₀ ≠ targetGroupKey t) ∧
    ∃ d ∈ ds, Carries d t

/-- During the creation loop: the original groups in place, and every other group made by
    the loop. -/
structure Creating (s : State) : Prop where
  fresh : s.Fresh
  orig : ∀ t ∈ T₀, t ∈ s.targetGroups
  made : ∀ t ∈ s.targetGroups, t ∈ T₀ ∨ NewGroup lb svc nodes ds T₀ t

variable {lb svc nodes ds T₀}

/-- One creation and its attachment append the new group, attached. -/
theorem Creating.step {s s₁ s₂ : State} (hs : Creating lb svc nodes ds T₀ s)
    {d : VpcLoadbalancerTargetGroup} (hd : d ∈ ds)
    (hkey : ∀ t₀ ∈ T₀, OfService lb svc t₀ → targetGroupKey t₀ ≠ targetGroupKey d)
    (h₁ : s₁.targetGroups =
      s.targetGroups ++ [State.targetGroupOf (freshId s.nextId) [] (targetGroupRequest d)])
    (hf₂ : s₂.Fresh) (h₂ : s₂.targetGroups = s₁.targetGroups.map (fun x =>
      if x.identity = freshId s.nextId then { x with attachments := nodes.filterMap serverIdentity }
      else x)) :
    Creating lb svc nodes ds T₀ s₂ ∧ s₂.targetGroups = s.targetGroups ++
      [State.targetGroupOf (freshId s.nextId) (nodes.filterMap serverIdentity) (targetGroupRequest d)] := by
  have hnew := hs.fresh.targetGroups.not_mem
  have heq : s₂.targetGroups = s.targetGroups ++
      [State.targetGroupOf (freshId s.nextId) (nodes.filterMap serverIdentity) (targetGroupRequest d)] := by
    rw [h₂, h₁, List.map_append, map_attach_of_not_mem hnew]
    simp [State.targetGroupOf]
  refine ⟨⟨hf₂, fun t ht => heq ▸ List.mem_append_left _ (hs.orig t ht), fun t ht => ?_⟩, heq⟩
  rw [heq, List.mem_append, List.mem_singleton] at ht
  rcases ht with ht | rfl
  · exact hs.made t ht
  · exact .inr ⟨fun hm => hnew (List.map_subset _ (fun t ht => hs.orig t ht) hm), rfl,
      hkey, d, hd, carries_targetGroupOf d _ _⟩

/-- **The creation loop** makes a group for every desired key outside `keys`, and leaves
    what was there in place. -/
theorem wp_createMissingTargetGroups (keys : List (String × Nat))
    (hkeys : ∀ t₀ ∈ T₀, OfService lb svc t₀ → targetGroupKey t₀ ∈ keys) :
    ∀ (rest : List VpcLoadbalancerTargetGroup), (∀ d ∈ rest, d ∈ ds) → ∀ {s : State},
      Creating lb svc nodes ds T₀ s →
      Wp (fun _ => True) (fun _ _ => True) (createMissingTargetGroups nodes keys rest)
        (fun created s' => Creating lb svc nodes ds T₀ s' ∧
          (∀ t ∈ s.targetGroups, t ∈ s'.targetGroups) ∧
          (∀ d ∈ rest, targetGroupKey d ∉ keys →
            ∃ t ∈ s'.targetGroups, t.identity ∉ T₀.map (·.identity) ∧ Carries d t) ∧
          (∀ c ∈ created, targetGroupKey c ∈ rest.map targetGroupKey) ∧
          (∀ d ∈ rest, targetGroupKey d ∉ keys → targetGroupKey d ∈ created.map targetGroupKey))
        (fun _ _ => True) s
  | [], _, _, hs => Wp.ret ⟨hs, fun _ h => h, List.forall_mem_nil _, List.forall_mem_nil _,
      List.forall_mem_nil _⟩
  | d :: rest, hds, s, hs => by
    have hrest : ∀ d' ∈ rest, d' ∈ ds := fun d' hd' => hds d' (.tail _ hd')
    simp only [createMissingTargetGroups, bind_eq, pure_eq, ret_bind]
    split
    next hin =>
      refine (wp_createMissingTargetGroups keys hkeys rest hrest hs).mono
        (fun created s' h => ⟨h.1, h.2.1, ?_, fun c hc => .tail _ (h.2.2.2.1 c hc), ?_⟩)
        fun _ _ _ => trivial
      · rintro d' (_ | ⟨_, hd'⟩) hk
        exacts [absurd hin hk, h.2.2.1 d' hd' hk]
      · rintro d' (_ | ⟨_, hd'⟩) hk
        exacts [absurd hin hk, h.2.2.2.2 d' hd' hk]
    next hin =>
      have hkey : ∀ t₀ ∈ T₀, OfService lb svc t₀ → targetGroupKey t₀ ≠ targetGroupKey d :=
        fun t₀ ht₀ hm he => hin (he ▸ hkeys t₀ ht₀ hm)
      refine Wp.bind_of (Wp.wrap_inv trivial (wp_createTargetGroup_ok _ hs.fresh))
        fun r s₁ h₁ => ?_
      obtain ⟨hf₁, rfl, htg₁, -⟩ := h₁
      refine Wp.bind_of (Wp.wrap_inv trivial (wp_upgradeTargetGroupAttachments _ nodes hf₁))
        fun _ s₂ h₂ => ?_
      obtain ⟨hs₂, heq⟩ := hs.step (hds d (.head _)) hkey htg₁ h₂.1 h₂.2.1
      refine Wp.bind_of (wp_createMissingTargetGroups keys hkeys rest hrest hs₂)
        fun more s' h => Wp.ret ⟨h.1, fun t ht => h.2.1 t (heq ▸ List.mem_append_left _ ht), ?_,
          ?_, ?_⟩
      · rintro d' (_ | ⟨_, hd'⟩) hk
        · refine ⟨_, h.2.1 _ (heq ▸ List.mem_append_right _ (List.mem_singleton_self _)), ?_,
            carries_targetGroupOf d _ _⟩
          exact fun hm => hs.fresh.targetGroups.not_mem
            (List.map_subset _ (fun t ht => hs.orig t ht) hm)
        · exact h.2.2.1 d' hd' hk
      · rintro c (_ | ⟨_, hc⟩)
        exacts [.head _, .tail _ (h.2.2.2.1 c hc)]
      · rintro d' (_ | ⟨_, hd'⟩) hk
        exacts [.head _, .tail _ (h.2.2.2.2 d' hd' hk)]

end Creation

theorem freshId_ne_empty (n : Nat) : freshId n ≠ "" :=
  fun h => List.cons_ne_nil _ _ (congrArg String.data h)

/-- An update and its attachment, composed: the group with the identity is rewritten from
    the request, attached, and the others stay. -/
theorem map_update_attach (l : List VpcLoadbalancerTargetGroup) (id : String)
    (req : TargetGroupRequest) (servers : List String) :
    (l.map fun x => if x.identity = id then State.targetGroupOf id x.attachments req else x).map
        (fun x => if x.identity = id then { x with attachments := servers } else x) =
      l.map fun x => if x.identity = id then State.targetGroupOf id servers req else x := by
  rw [List.map_map]
  refine List.map_congr_left fun x _ => ?_
  by_cases h : x.identity = id <;> simp [h, State.targetGroupOf]

/-! ## 4. The update loop -/

section Update

variable (lb : Loadbalancer) (svc : Service) (nodes : List Node)
  (ds : List VpcLoadbalancerTargetGroup) (T₀ : List VpcLoadbalancerTargetGroup)

/-- A group a reconcile has written: the nodes' server identities attached, the Service's,
    and with a desired group's fields. -/
def Served (t : VpcLoadbalancerTargetGroup) : Prop :=
  t.attachments = nodes.filterMap serverIdentity ∧ OfService lb svc t ∧ ∃ d ∈ ds, Carries d t

/-- During the update loop, with the listed groups `rest` still to come: every original
    group is there under its identity and key, the groups still to come are original and
    unchanged, and every group was made by the creation loop, is an original one that is
    still to come or needs no update, or has been written. -/
structure Updating (rest : List VpcLoadbalancerTargetGroup) (s : State) : Prop where
  fresh : s.Fresh
  present : ∀ t₀ ∈ T₀, ∃ t ∈ s.targetGroups,
    t.identity = t₀.identity ∧ targetGroupKey t = targetGroupKey t₀
  pending : ∀ e ∈ rest, ∃ t ∈ T₀, t ∈ s.targetGroups ∧ t.identity = e.identity ∧
    targetGroupKey t = targetGroupKey e
  nodup : (rest.map (·.identity)).Nodup
  groups : ∀ t ∈ s.targetGroups, NewGroup lb svc nodes ds T₀ t ∨
    (t ∈ T₀ ∧ (t.identity ∈ rest.map (·.identity) ∨
      ¬ (OfService lb svc t ∧ targetGroupKey t ∈ ds.map targetGroupKey))) ∨
    (t.identity ∈ T₀.map (·.identity) ∧ Served lb svc nodes ds t)

variable {lb svc nodes ds T₀}

/-- The group in the cloud under a listed identity still to come is its original. -/
theorem Updating.key_eq {e : VpcLoadbalancerTargetGroup} {rest : List VpcLoadbalancerTargetGroup}
    {s : State} (hs : Updating lb svc nodes ds T₀ (e :: rest) s) {t : VpcLoadbalancerTargetGroup}
    (ht : t ∈ s.targetGroups) (hid : t.identity = e.identity) :
    t ∈ T₀ ∧ targetGroupKey t = targetGroupKey e := by
  obtain ⟨t', ht'₀, ht', hid', hk'⟩ := hs.pending e (.head _)
  rw [List.inj_on_of_nodup_map hs.fresh.targetGroups.1 ht ht' (hid.trans hid'.symm)]
  exact ⟨ht'₀, hk'⟩

/-- A listed group with no desired key is skipped. -/
theorem Updating.skip {e : VpcLoadbalancerTargetGroup} {rest : List VpcLoadbalancerTargetGroup}
    {s : State} (hs : Updating lb svc nodes ds T₀ (e :: rest) s)
    (hnone : targetGroupKey e ∉ ds.map targetGroupKey) : Updating lb svc nodes ds T₀ rest s where
  fresh := hs.fresh
  present := hs.present
  pending := fun e' he' => hs.pending e' (.tail _ he')
  nodup := (List.nodup_cons.mp hs.nodup).2
  groups := fun t ht => by
    rcases hs.groups t ht with h | ⟨ht₀, h | h⟩ | h
    · exact .inl h
    · rcases List.mem_cons.mp h with h | h
      · exact .inr (.inl ⟨ht₀, .inr fun hd => hnone ((hs.key_eq ht h).2 ▸ hd.2)⟩)
      · exact .inr (.inl ⟨ht₀, .inl h⟩)
    · exact .inr (.inl ⟨ht₀, .inr h⟩)
    · exact .inr (.inr h)

/-- A listed group with a desired key is rewritten from the desired group and attached. -/
theorem Updating.write (hds : ∀ d ∈ ds, OfService lb svc d) {e want : VpcLoadbalancerTargetGroup}
    {rest : List VpcLoadbalancerTargetGroup} {s s' : State}
    (hs : Updating lb svc nodes ds T₀ (e :: rest) s) (hwant : lastWithKey ds (targetGroupKey e) = some want)
    (hf' : s'.Fresh) (heq : s'.targetGroups = s.targetGroups.map fun x =>
      if x.identity = e.identity then
        State.targetGroupOf e.identity (nodes.filterMap serverIdentity) (targetGroupRequest want)
      else x) :
    Updating lb svc nodes ds T₀ rest s' ∧
      ∀ t ∈ s.targetGroups, t.identity ≠ e.identity → t ∈ s'.targetGroups := by
  have hkeep : ∀ t ∈ s.targetGroups, t.identity ≠ e.identity → t ∈ s'.targetGroups :=
    fun t ht hne => heq ▸ List.mem_map.mpr ⟨t, ht, if_neg hne⟩
  have hwk := key_of_lastWithKey hwant
  have hserved : Served lb svc nodes ds (State.targetGroupOf e.identity (nodes.filterMap serverIdentity)
      (targetGroupRequest want)) :=
    ⟨rfl, hds want (mem_of_lastWithKey hwant), want, mem_of_lastWithKey hwant,
      carries_targetGroupOf want _ _⟩
  obtain ⟨te, hte₀, -, hide, -⟩ := hs.pending e (.head _)
  refine ⟨⟨hf', fun t₀ ht₀ => ?_, fun e' he' => ?_, (List.nodup_cons.mp hs.nodup).2,
    fun t ht => ?_⟩, hkeep⟩
  · obtain ⟨t, ht, hid, hk⟩ := hs.present t₀ ht₀
    by_cases hte : t.identity = e.identity
    · exact ⟨State.targetGroupOf e.identity (nodes.filterMap serverIdentity)
        (targetGroupRequest want), heq ▸ List.mem_map.mpr ⟨t, ht, if_pos hte⟩, hte.symm.trans hid,
        hwk.trans ((hs.key_eq ht hte).2.symm.trans hk)⟩
    · exact ⟨t, hkeep t ht hte, hid, hk⟩
  · obtain ⟨t, ht₀, ht, hid, hk⟩ := hs.pending e' (.tail _ he')
    have hne : t.identity ≠ e.identity := fun h => by
      have hee : e'.identity = e.identity := hid.symm.trans h
      exact (List.nodup_cons.mp hs.nodup).1 (List.mem_map.mpr ⟨e', he', hee⟩)
    exact ⟨t, ht₀, hkeep t ht hne, hid, hk⟩
  · rw [heq] at ht
    obtain ⟨x, hx, rfl⟩ := List.mem_map.mp ht
    by_cases hxe : x.identity = e.identity
    · rw [if_pos hxe]
      exact .inr (.inr ⟨hide ▸ List.mem_map_of_mem _ hte₀, hserved⟩)
    · rw [if_neg hxe]
      rcases hs.groups x hx with h | ⟨hx₀, h | h⟩ | h
      · exact .inl h
      · exact .inr (.inl ⟨hx₀, .inl ((List.mem_cons.mp h).resolve_left hxe)⟩)
      · exact .inr (.inl ⟨hx₀, .inr h⟩)
      · exact .inr (.inr h)

/-- **The update loop** writes every listed group with a desired key, and leaves every group
    it does not list in place. -/
theorem wp_updateExistingTargetGroups (hds : ∀ d ∈ ds, OfService lb svc d) :
    ∀ (rest : List VpcLoadbalancerTargetGroup) {s : State}, Updating lb svc nodes ds T₀ rest s →
      Wp (fun _ => True) (fun _ _ => True) (updateExistingTargetGroups nodes ds rest)
        (fun updated s' => Updating lb svc nodes ds T₀ [] s' ∧
          (∀ t ∈ s.targetGroups, t.identity ∉ rest.map (·.identity) → t ∈ s'.targetGroups) ∧
          (∀ u ∈ updated, targetGroupKey u ∈ ds.map targetGroupKey) ∧
          (∀ e ∈ rest, targetGroupKey e ∈ ds.map targetGroupKey →
            targetGroupKey e ∈ updated.map targetGroupKey))
        (fun _ _ => True) s
  | [], _, hs => Wp.ret ⟨hs, fun _ h _ => h, List.forall_mem_nil _, List.forall_mem_nil _⟩
  | e :: rest, s, hs => by
    simp only [updateExistingTargetGroups, bind_eq, pure_eq, ret_bind]
    split
    next hnone =>
      have hk := lastWithKey_eq_none_iff.mp hnone
      refine (wp_updateExistingTargetGroups hds rest (hs.skip hk)).mono
        (fun updated s' h => ⟨h.1, fun t ht hn => h.2.1 t ht fun hm => hn (.tail _ hm), h.2.2.1,
          ?_⟩) fun _ _ _ => trivial
      rintro e' (_ | ⟨_, he'⟩) hk'
      exacts [absurd hk' hk, h.2.2.2 e' he' hk']
    next want hwant =>
      split
      next hempty =>
        obtain ⟨t, -, ht, hid, -⟩ := hs.pending e (.head _)
        obtain ⟨m, -, hm⟩ := hs.fresh.targetGroups.2 _ (List.mem_map_of_mem _ ht)
        exact absurd (hm.symm.trans (hid.trans hempty)) (freshId_ne_empty m)
      refine Wp.bind_of (Wp.wrap_inv trivial (wp_updateTargetGroup_ok _ _ hs.fresh))
        fun r s₁ h₁ => ?_
      obtain ⟨hf₁, ⟨tg, -, -, rfl⟩, htg₁, -⟩ := h₁
      refine Wp.bind_of (Wp.wrap_inv trivial (wp_upgradeTargetGroupAttachments _ nodes hf₁))
        fun _ s₂ h₂ => ?_
      have heq := h₂.2.1.trans (htg₁ ▸ map_update_attach _ _ _ _)
      obtain ⟨hs₂, hkeep⟩ := hs.write hds hwant h₂.1 heq
      refine Wp.bind_of (wp_updateExistingTargetGroups hds rest hs₂)
        fun more s' h => Wp.ret ⟨h.1, fun t ht hn => h.2.1 t (hkeep t ht fun he => hn (he ▸ .head _))
          fun hm => hn (.tail _ hm), ?_, ?_⟩
      · rintro u (_ | ⟨_, hu⟩)
        exacts [show targetGroupKey want ∈ _ from List.mem_map_of_mem _ (mem_of_lastWithKey hwant),
          h.2.2.1 u hu]
      · rintro e' (_ | ⟨_, he'⟩) hk'
        exacts [List.mem_cons.mpr (.inl (key_of_lastWithKey hwant).symm), .tail _ (h.2.2.2 e' he' hk')]

/-- After the update loop, every group of the Service with a desired key is written. -/
theorem Updating.served {s : State} (hu : Updating lb svc nodes ds T₀ [] s)
    {t : VpcLoadbalancerTargetGroup} (ht : t ∈ s.targetGroups) (hm : OfService lb svc t)
    (hk : targetGroupKey t ∈ ds.map targetGroupKey) : Served lb svc nodes ds t := by
  rcases hu.groups t ht with ⟨-, ha, -, hc⟩ | ⟨-, h | h⟩ | h
  · exact ⟨ha, hm, hc⟩
  · simp at h
  · exact absurd ⟨hm, hk⟩ h
  · exact h.2

/-- After the update loop, a group under the identity of an original group of the Service
    with a desired key is written. -/
theorem Updating.served_of_original {s : State} (hu : Updating lb svc nodes ds T₀ [] s)
    (hnodup : (T₀.map (·.identity)).Nodup) {t t₀ : VpcLoadbalancerTargetGroup}
    (ht : t ∈ s.targetGroups) (ht₀ : t₀ ∈ T₀) (hid : t.identity = t₀.identity)
    (hm : OfService lb svc t₀) (hk : targetGroupKey t₀ ∈ ds.map targetGroupKey) :
    Served lb svc nodes ds t := by
  rcases hu.groups t ht with h | ⟨htT, h | h⟩ | h
  · exact absurd (hid ▸ List.mem_map_of_mem _ ht₀) h.1
  · simp at h
  · rw [List.inj_on_of_nodup_map hnodup htT ht₀ hid] at h
    exact absurd ⟨hm, hk⟩ h
  · exact h.2

/-- After the update loop, a group under a new identity has a key no original group of the
    Service had. -/
theorem Updating.noDuplicate {s : State} (hu : Updating lb svc nodes ds T₀ [] s)
    {t : VpcLoadbalancerTargetGroup} (ht : t ∈ s.targetGroups)
    (hid : t.identity ∉ T₀.map (·.identity)) :
    ∀ t₀ ∈ T₀, OfService lb svc t₀ → targetGroupKey t₀ ≠ targetGroupKey t := by
  rcases hu.groups t ht with h | ⟨htT, -⟩ | h
  · exact h.2.2.1
  · exact absurd (List.mem_map_of_mem _ htT) hid
  · exact absurd h.1 hid

end Update

/-! ## 5. The create-or-update step -/

section Step

variable (lb : Loadbalancer) (svc : Service) (nodes : List Node)
  (ds : List VpcLoadbalancerTargetGroup) (T₀ : List VpcLoadbalancerTargetGroup)

/-- What `createOrUpdateTargetGroups` leaves, from a cloud whose groups were `T₀`, and the
    keys of the groups it returns. -/
structure Written (tgs : List VpcLoadbalancerTargetGroup) (s : State) : Prop where
  fresh : s.Fresh
  present : ∀ d ∈ ds, ∃ t ∈ s.targetGroups, OfService lb svc t ∧ targetGroupKey t = targetGroupKey d
  served : ∀ t ∈ s.targetGroups, OfService lb svc t → targetGroupKey t ∈ ds.map targetGroupKey →
    Served lb svc nodes ds t
  kept : ∀ t₀ ∈ T₀, ∃ t ∈ s.targetGroups,
    t.identity = t₀.identity ∧ targetGroupKey t = targetGroupKey t₀
  noDuplicate : ∀ t ∈ s.targetGroups, t.identity ∉ T₀.map (·.identity) →
    ∀ t₀ ∈ T₀, OfService lb svc t₀ → targetGroupKey t₀ ≠ targetGroupKey t
  returned : ∀ u ∈ tgs, targetGroupKey u ∈ ds.map targetGroupKey
  returnedAll : ∀ d ∈ ds, targetGroupKey d ∈ tgs.map targetGroupKey
  spared : ∀ t₀ ∈ T₀, ¬ OfService lb svc t₀ → t₀ ∈ s.targetGroups

variable {lb svc nodes ds}

theorem map_identity_listedTargetGroups (s : State) :
    (listedTargetGroups lb svc s).map (·.identity) =
      (s.targetGroups.filter (matchLabels (getLabelsForVpcLoadbalancer lb svc) ·.labels)).map
        (·.identity) := by
  simp [listedTargetGroups, Function.comp_def]

/-- A listed group is one of the Service's groups in the cloud, under its identity and
    key. -/
theorem original_of_mem_listedTargetGroups {s : State} {e : VpcLoadbalancerTargetGroup}
    (he : e ∈ listedTargetGroups lb svc s) : ∃ t ∈ s.targetGroups, OfService lb svc t ∧
      t.identity = e.identity ∧ targetGroupKey t = targetGroupKey e := by
  obtain ⟨t, ht, hm, rfl⟩ := mem_listedTargetGroups.mp he
  exact ⟨t, ht, hm, rfl, rfl⟩

/-- After the creation loop from the groups of `s`, the update loop starts over the
    Service's listed groups. -/
theorem Creating.toUpdating {s s₂ : State} (hnodup : (s.targetGroups.map (·.identity)).Nodup)
    (hc : Creating lb svc nodes ds s.targetGroups s₂) :
    Updating lb svc nodes ds s.targetGroups (listedTargetGroups lb svc s) s₂ := by
  refine ⟨hc.fresh, fun t₀ ht₀ => ⟨t₀, hc.orig t₀ ht₀, rfl, rfl⟩, fun e he => ?_, ?_,
    fun t ht => ?_⟩
  · obtain ⟨t, ht, -, hid, hk⟩ := original_of_mem_listedTargetGroups he
    exact ⟨t, ht, hc.orig t ht, hid, hk⟩
  · rw [map_identity_listedTargetGroups]
    exact hnodup.sublist (map_filter_sublist _ _ _)
  · rcases hc.made t ht with ht₀ | h
    · by_cases hd : OfService lb svc t ∧ targetGroupKey t ∈ ds.map targetGroupKey
      · exact .inr (.inl ⟨ht₀, .inl (List.mem_map.mpr
          ⟨_, mem_listedTargetGroups.mpr ⟨t, ht₀, hd.1, rfl⟩, rfl⟩)⟩)
      · exact .inr (.inl ⟨ht₀, .inr hd⟩)
    · exact .inl h

/-- **`createOrUpdateTargetGroups`**, on success. -/
theorem wp_createOrUpdateTargetGroups (hds : ∀ d ∈ ds, OfService lb svc d) {s : State}
    (hf : s.Fresh) :
    Wp (fun _ => True) (fun _ _ => True) (createOrUpdateTargetGroups lb svc ds nodes)
      (fun tgs s' => Written lb svc nodes ds s.targetGroups tgs s') (fun _ _ => True) s := by
  have hnodup : (s.targetGroups.map (·.identity)).Nodup := hf.targetGroups.1
  have hkeys : ∀ t ∈ s.targetGroups, OfService lb svc t →
      targetGroupKey t ∈ (listedTargetGroups lb svc s).map targetGroupKey := fun t ht hm =>
    List.mem_map.mpr ⟨_, mem_listedTargetGroups.mpr ⟨t, ht, hm, rfl⟩, rfl⟩
  simp only [createOrUpdateTargetGroups, bind_eq, pure_eq]
  refine Wp.bind_of (Wp.wrap_inv trivial (wp_listTargetGroups_ok lb svc hf))
    fun existing s₁ h₁ => ?_
  obtain ⟨hf₁, rfl, hT₁, -⟩ := h₁
  have hc₁ : Creating lb svc nodes ds s.targetGroups s₁ :=
    ⟨hf₁, fun t ht => hT₁ ▸ ht, fun t ht => .inl (hT₁ ▸ ht)⟩
  refine Wp.bind_of (wp_createMissingTargetGroups _ hkeys ds (fun _ h => h) hc₁)
    fun created s₂ h₂ => ?_
  obtain ⟨hc₂, hs₂, hnew, hcr, hcr'⟩ := h₂
  refine Wp.bind_of (wp_updateExistingTargetGroups hds _ (hc₂.toUpdating hnodup)) fun updated s₃ h₃ => Wp.ret ?_
  obtain ⟨hu₃, hkeep, hup, hup'⟩ := h₃
  refine ⟨hu₃.fresh, fun d hd => ?_, fun t ht => hu₃.served ht, hu₃.present,
    fun t ht => hu₃.noDuplicate ht, fun u hu => ?_, fun d hd => ?_, fun t₀ ht₀ hm => ?_⟩
  · by_cases hk : targetGroupKey d ∈ (listedTargetGroups lb svc s).map targetGroupKey
    · obtain ⟨e, he, hke⟩ := List.mem_map.mp hk
      obtain ⟨t₀, ht₀, hm₀, -, hk₀⟩ := original_of_mem_listedTargetGroups he
      obtain ⟨t, ht, hid, hkt⟩ := hu₃.present t₀ ht₀
      have hkd : targetGroupKey t₀ = targetGroupKey d := hk₀.trans hke
      exact ⟨t, ht, (hu₃.served_of_original hnodup ht ht₀ hid hm₀
        (hkd ▸ List.mem_map_of_mem _ hd)).2.1, hkt.trans hkd⟩
    · obtain ⟨t, ht, hid, hc⟩ := hnew d hd hk
      refine ⟨t, hkeep t ht fun hm => hid ?_, by unfold OfService; rw [hc.2.2.1]; exact hds d hd,
        hc.1⟩
      obtain ⟨e, he, hid'⟩ := List.mem_map.mp hm
      obtain ⟨t₀, ht₀, -, hid₀, -⟩ := original_of_mem_listedTargetGroups he
      exact List.mem_map.mpr ⟨t₀, ht₀, hid₀.trans hid'⟩
  · rcases List.mem_append.mp hu with hu | hu
    · obtain ⟨d, hd, hkd⟩ := List.mem_map.mp (hcr u hu)
      exact hkd ▸ List.mem_map_of_mem _ hd
    · exact hup u hu
  · rw [List.map_append]
    by_cases hk : targetGroupKey d ∈ (listedTargetGroups lb svc s).map targetGroupKey
    · obtain ⟨e, he, hke⟩ := List.mem_map.mp hk
      exact List.mem_append_right _ (hke ▸ hup' e he (hke ▸ List.mem_map_of_mem _ hd))
    · exact List.mem_append_left _ (hcr' d hd hk)
  · -- a group the selector misses is listed under no identity, so the update loop skips it
    refine hkeep t₀ (hs₂ t₀ (hT₁ ▸ ht₀)) fun hid => hm ?_
    obtain ⟨e, he, hide⟩ := List.mem_map.mp hid
    obtain ⟨t, ht, hmt, hidt, -⟩ := original_of_mem_listedTargetGroups he
    rwa [List.inj_on_of_nodup_map hnodup ht₀ ht (hide.symm.trans hidt.symm)]

end Step

/-! ## 6. The cleanup -/

section Cleanup

variable (lb : Loadbalancer) (svc : Service) (keep : List (String × Nat)) (s₀ : State)

/-- During the cleanup's deletion loop over the listing taken in `s₀`, with the listed
    groups `rest` still to come: the listeners as they were, only groups of `s₀` left, those
    with a kept key or that the selector misses all left, the groups still to come the
    Service's, and every group of the Service with no listener and a key that is not kept
    still to come. -/
structure Deleting (rest : List VpcLoadbalancerTargetGroup) (s : State) : Prop where
  fresh : s.Fresh
  listeners : s.listeners = s₀.listeners
  sub : ∀ t ∈ s.targetGroups, t ∈ s₀.targetGroups
  kept : ∀ t ∈ s₀.targetGroups, (targetGroupKey t ∈ keep ∨ ¬ OfService lb svc t) →
    t ∈ s.targetGroups
  pending : ∀ e ∈ rest, ∃ t ∈ s₀.targetGroups, t.identity = e.identity ∧
    targetGroupKey t = targetGroupKey e ∧
    e.loadbalancerListeners = s₀.referencingListeners t.identity ∧ OfService lb svc t
  unused : ∀ t ∈ s.targetGroups, OfService lb svc t → targetGroupKey t ∉ keep →
    s₀.referencingListeners t.identity = [] → t.identity ∈ rest.map (·.identity)

variable {lb svc keep s₀}

/-- **The deletion loop** deletes every group of the Service with no listener and a key
    that is not kept, and no other. -/
theorem wp_deleteUnusedTargetGroups (hs₀ : s₀.Fresh) :
    ∀ (rest : List VpcLoadbalancerTargetGroup) {s : State}, Deleting lb svc keep s₀ rest s →
      Wp (fun _ => True) (fun _ _ => True) (deleteUnusedTargetGroups keep rest)
        (fun _ s' => Deleting lb svc keep s₀ [] s') (fun _ _ => True) s
  | [], _, hs => Wp.ret hs
  | e :: rest, s, hs => by
    obtain ⟨te, hte, hide, hke, hle, hof⟩ := hs.pending e (.head _)
    have hrest := fun e' (he' : e' ∈ rest) => hs.pending e' (.tail _ he')
    have hsame : ∀ {t}, t ∈ s.targetGroups → t.identity = e.identity → t = te := fun ht hid =>
      List.inj_on_of_nodup_map hs₀.targetGroups.1 (hs.sub _ ht) hte (hid.trans hide.symm)
    simp only [deleteUnusedTargetGroups, bind_eq, pure_eq, ret_bind]
    split
    next hdel =>
      refine Wp.bind_of (Wp.wrap_inv trivial (wp_deleteTargetGroup_ok _ hs.fresh))
        fun _ s₁ h₁ => ?_
      obtain ⟨hf₁, hT₁, hL₁⟩ := h₁
      refine wp_deleteUnusedTargetGroups hs₀ rest ⟨hf₁, hL₁.trans hs.listeners, fun t ht => ?_,
        fun t ht hk => ?_, hrest, fun t ht hm hk hr => ?_⟩
      · rw [hT₁] at ht
        exact hs.sub t (List.mem_filter.mp ht).1
      · have hts := hs.kept t ht hk
        rw [hT₁]
        refine List.mem_filter.mpr ⟨hts, decide_eq_true fun hid => ?_⟩
        have hte := hsame hts hid
        rcases hk with hk | hm
        · exact hdel.2 (by rw [← hke, ← hte]; exact hk)
        · exact hm (by rw [hte]; exact hof)
      · rw [hT₁] at ht
        obtain ⟨ht, hne⟩ := List.mem_filter.mp ht
        rcases List.mem_cons.mp (hs.unused t ht hm hk hr) with h | h
        · exact absurd h (of_decide_eq_true hne)
        · exact h
    next hskip =>
      refine wp_deleteUnusedTargetGroups hs₀ rest ⟨hs.fresh, hs.listeners, hs.sub, hs.kept, hrest,
        fun t ht hm hk hr => ?_⟩
      rcases List.mem_cons.mp (hs.unused t ht hm hk hr) with h | h
      · obtain rfl := hsame ht h
        exact absurd ⟨hle.trans hr, hke ▸ hk⟩ hskip
      · exact h

/-- **`cleanupUnusedTargetGroups`**, on success: only groups deleted, every group with a
    kept key or that the selector misses left, and every group of the Service left with an
    unkept key has a listener. -/
theorem wp_cleanupUnusedTargetGroups (desiredTargetGroups : List VpcLoadbalancerTargetGroup)
    {s : State} (hf : s.Fresh) :
    Wp (fun _ => True) (fun _ _ => True) (cleanupUnusedTargetGroups lb svc desiredTargetGroups)
      (fun _ s' => s'.Fresh ∧ s'.listeners = s.listeners ∧
        (∀ t ∈ s'.targetGroups, t ∈ s.targetGroups) ∧
        (∀ t ∈ s.targetGroups, (targetGroupKey t ∈ desiredTargetGroups.map targetGroupKey ∨
          ¬ OfService lb svc t) → t ∈ s'.targetGroups) ∧
        ∀ t ∈ s'.targetGroups, OfService lb svc t →
          targetGroupKey t ∉ desiredTargetGroups.map targetGroupKey →
          s'.referencingListeners t.identity ≠ [])
      (fun _ _ => True) s := by
  simp only [cleanupUnusedTargetGroups, bind_eq]
  refine Wp.bind_of (Wp.wrap_inv trivial (wp_listTargetGroups_ok lb svc hf))
    fun existing s₁ h₁ => ?_
  obtain ⟨hf₁, rfl, hT₁, hL₁⟩ := h₁
  have hd₁ : Deleting lb svc (desiredTargetGroups.map targetGroupKey) s
      (listedTargetGroups lb svc s) s₁ := by
    refine ⟨hf₁, hL₁, fun t ht => hT₁ ▸ ht, fun t ht _ => hT₁ ▸ ht, fun e he => ?_,
      fun t ht hm _ _ => ?_⟩
    · obtain ⟨t, ht, hm, rfl⟩ := mem_listedTargetGroups.mp he
      exact ⟨t, ht, rfl, rfl, rfl, hm⟩
    · exact List.mem_map.mpr ⟨_, mem_listedTargetGroups.mpr ⟨t, hT₁ ▸ ht, hm, rfl⟩, rfl⟩
  refine (wp_deleteUnusedTargetGroups hf _ hd₁).mono (fun _ s' h => ⟨h.fresh, h.listeners,
    h.sub, h.kept, fun t ht hm hk hr => ?_⟩) fun _ _ _ => trivial
  have href : s'.referencingListeners t.identity = s.referencingListeners t.identity := by
    simp only [State.referencingListeners, h.listeners]
  exact absurd (h.unused t ht hm hk (href ▸ hr)) (List.not_mem_nil _)

end Cleanup

/-! ## 7. The reconcile step -/

/-- Calls that leave the target groups keep them through a run. -/
theorem wp_targetGroups_frame {α : Type} {p : Prog α} {Qc : Call → Prop} (hp : AllCalls Qc p)
    (hQ : ∀ c, Qc c → c.kind ≠ .targetGroup) {s : State} (hf : s.Fresh) :
    Wp (fun _ => True) (fun _ _ => True) p
      (fun _ s' => s'.Fresh ∧ s'.targetGroups = s.targetGroups) (fun _ _ => True) s :=
  have h : Wp (fun _ => True) (fun _ _ => True) p
      (fun _ s' => s'.Fresh ∧ s'.targetGroups = s.targetGroups)
      (fun _ s' => s'.Fresh ∧ s'.targetGroups = s.targetGroups) s :=
    Wp.of_allCalls hp (fun t e h => ⟨h.1.applyEnv e, by simp [h.2]⟩)
      (fun t c f hc h => ⟨h.1.respond c f, @State.respond_of_perform t c
        (fun u => u.targetGroups = s.targetGroups) h.2
        ((State.perform_targetGroups t c (hQ c hc)).trans h.2) f⟩)
      (fun _ _ _ _ => trivial) ⟨hf, rfl⟩
  h.mono (fun _ _ h => h) fun _ _ _ => trivial

theorem perform_updateLoadbalancer_listeners (s : State) (id : String)
    (req : UpdateLoadbalancer) :
    (s.perform (.updateLoadbalancer id req)).1.listeners = s.listeners := by
  simp only [State.perform]
  split <;> rfl

/-- `updateVpcLoadbalancer` leaves the target groups and the listeners. -/
theorem wp_updateVpcLoadbalancer_frame (lb : Loadbalancer) (svc : Service) (x : VpcLoadbalancer)
    (desired : List VpcLoadbalancerListener) {s : State} (hf : s.Fresh) :
    Wp (fun _ => True) (fun _ _ => True) (updateVpcLoadbalancer lb svc x desired)
      (fun _ s' => s'.Fresh ∧ s'.targetGroups = s.targetGroups ∧ s'.listeners = s.listeners)
      (fun _ _ => True) s :=
  have hperform : ∀ (t : State) c, (KindIn [.read, .securityGroup] c ∨ WritesBack x c) →
      (t.perform c).1.targetGroups = t.targetGroups ∧ (t.perform c).1.listeners = t.listeners := by
    rintro t c (hc | ⟨req, rfl, -⟩)
    · exact ⟨State.perform_targetGroups t c (hc.kind_ne (by decide)),
        State.perform_listeners t c (hc.kind_ne (by decide)) (hc.kind_ne (by decide))⟩
    · exact ⟨State.perform_targetGroups t _ (by simp [Call.kind]),
        perform_updateLoadbalancer_listeners t _ req⟩
  have h : Wp (fun _ => True) (fun _ _ => True) (updateVpcLoadbalancer lb svc x desired)
      (fun _ s' => s'.Fresh ∧ s'.targetGroups = s.targetGroups ∧ s'.listeners = s.listeners)
      (fun _ s' => s'.Fresh ∧ s'.targetGroups = s.targetGroups ∧ s'.listeners = s.listeners) s :=
    Wp.of_allCalls (calls_updateVpcLoadbalancer lb svc x desired)
      (fun t e h => ⟨h.1.applyEnv e, by simp [h.2.1], by simp [h.2.2]⟩)
      (fun t c f hc h => ⟨h.1.respond c f, @State.respond_of_perform t c
        (fun u => u.targetGroups = s.targetGroups ∧ u.listeners = s.listeners) h.2
        ⟨(hperform t c hc).1.trans h.2.1, (hperform t c hc).2.trans h.2.2⟩ f⟩)
      (fun _ _ _ _ => trivial) ⟨hf, rfl, rfl⟩
  h.mono (fun _ _ h => h) fun _ _ _ => trivial

/-- What a successful reconcile leaves of the Service's target groups, from a cloud whose
    groups were `T₀`. -/
structure TargetGroupsReconciled (lb : Loadbalancer) (svc : Service) (nodes : List Node)
    (ds T₀ : List VpcLoadbalancerTargetGroup) (s : State) : Prop where
  /-- A group of the Service for every desired key. -/
  present : ∀ d ∈ ds, ∃ t ∈ s.targetGroups, OfService lb svc t ∧ targetGroupKey t = targetGroupKey d
  /-- Every group of the Service with a desired key written and attached. -/
  served : ∀ t ∈ s.targetGroups, OfService lb svc t → targetGroupKey t ∈ ds.map targetGroupKey →
    Served lb svc nodes ds t
  /-- Every group of the Service that had a desired key still there. -/
  kept : ∀ t₀ ∈ T₀, OfService lb svc t₀ → targetGroupKey t₀ ∈ ds.map targetGroupKey →
    ∃ t ∈ s.targetGroups, t.identity = t₀.identity ∧ targetGroupKey t = targetGroupKey t₀
  /-- No new group for a key a group of the Service had. -/
  noDuplicate : ∀ t ∈ s.targetGroups, t.identity ∉ T₀.map (·.identity) →
    ∀ t₀ ∈ T₀, OfService lb svc t₀ → targetGroupKey t₀ ≠ targetGroupKey t
  /-- No group of the Service left with an undesired key and no listener. -/
  cleaned : ∀ t ∈ s.targetGroups, OfService lb svc t → targetGroupKey t ∉ ds.map targetGroupKey →
    s.referencingListeners t.identity ≠ []
  /-- Every group the Service's selector misses left as it was. -/
  spared : ∀ t₀ ∈ T₀, ¬ OfService lb svc t₀ → t₀ ∈ s.targetGroups

theorem TargetGroupsReconciled.of_frame {lb : Loadbalancer} {svc : Service} {nodes : List Node}
    {ds T₀ : List VpcLoadbalancerTargetGroup} {s s' : State}
    (h : TargetGroupsReconciled lb svc nodes ds T₀ s) (hT : s'.targetGroups = s.targetGroups)
    (hL : s'.listeners = s.listeners) : TargetGroupsReconciled lb svc nodes ds T₀ s' := by
  have href : s'.referencingListeners = s.referencingListeners := by
    funext id; simp only [State.referencingListeners, hL]
  obtain ⟨hp, hs, hk, hn, hc, hsp⟩ := h
  rw [← hT] at hp hs hk hn hc hsp
  rw [← href] at hc
  exact ⟨hp, hs, hk, hn, hc, hsp⟩

/-- **The reconcile step's target groups.** From a cloud whose identities are fresh, a
    successful `updateVpcLoadbalancerListenersAndTargetGroups` leaves the Service's target
    groups reconciled against the desired ones. -/
theorem wp_updateVpcLoadbalancerListenersAndTargetGroups_targetGroups (lb : Loadbalancer)
    (svc : Service) (nodes : List Node) (x : VpcLoadbalancer) {s : State} (hf : s.Fresh) :
    Wp (fun _ => True) (fun _ _ => True) (updateVpcLoadbalancerListenersAndTargetGroups lb svc nodes x)
      (fun _ s' => s'.Fresh ∧ ∀ ds, getDesiredVpcLoadbalancerTargetGroups lb svc = .ok ds →
        TargetGroupsReconciled lb svc nodes ds s.targetGroups s')
      (fun _ _ => True) s := by
  simp only [updateVpcLoadbalancerListenersAndTargetGroups, bind_eq, pure_eq, ret_bind, throw_bind]
  split
  next ds hds =>
    refine Wp.bind_of (Wp.wrap_inv trivial (wp_createOrUpdateTargetGroups
      (ofService_of_getDesired hds) hf)) fun tgs s₁ h₁ => ?_
    refine Wp.bind_of (Wp.wrap_inv trivial (wp_targetGroups_frame
      (calls_updateVpcLoadbalancerListener lb svc x _ tgs) (fun c hc => hc.kind_ne (by decide))
      h₁.fresh)) fun _ s₂ h₂ => ?_
    refine Wp.bind_of (Wp.wrap_inv trivial (wp_cleanupUnusedTargetGroups tgs h₂.1))
      fun _ s₃ h₃ => ?_
    obtain ⟨hf₃, -, hsub, hkeep, hused⟩ := h₃
    rw [h₂.2] at hsub hkeep
    have hin : ∀ t ∈ s₁.targetGroups, targetGroupKey t ∈ ds.map targetGroupKey →
        t ∈ s₃.targetGroups := fun t ht hk => by
      obtain ⟨d, hd, hkd⟩ := List.mem_map.mp hk
      exact hkeep t ht (.inl (hkd ▸ h₁.returnedAll d hd))
    have h₃' : TargetGroupsReconciled lb svc nodes ds s.targetGroups s₃ := by
      refine ⟨fun d hd => ?_, fun t ht => h₁.served t (hsub t ht), fun t₀ ht₀ _ hk => ?_,
        fun t ht => h₁.noDuplicate t (hsub t ht), fun t ht hm hk => hused t ht hm fun hu => hk ?_,
        fun t₀ ht₀ hm => hkeep t₀ (h₁.spared t₀ ht₀ hm) (.inr hm)⟩
      · obtain ⟨t, ht, hm, hkt⟩ := h₁.present d hd
        exact ⟨t, hin t ht (hkt ▸ List.mem_map_of_mem _ hd), hm, hkt⟩
      · obtain ⟨t, ht, hid, hkt⟩ := h₁.kept t₀ ht₀
        exact ⟨t, hin t ht (hkt ▸ hk), hid, hkt⟩
      · obtain ⟨u, hu, hku⟩ := List.mem_map.mp hu
        exact hku ▸ h₁.returned u hu
    refine Wp.bind_of (Wp.wrap_inv trivial (wp_updateVpcLoadbalancer_frame lb svc x _ hf₃))
      fun _ s₄ h₄ => Wp.ret ⟨h₄.1, fun ds' hds' => ?_⟩
    cases hds.symm.trans hds'
    exact h₃'.of_frame h₄.2.1 h₄.2.2
  next => exact Wp.throw trivial

/-! ## 8. Distinct ports -/

theorem toLower_protocol_injective : Function.Injective fun p : Protocol => Go.toLower p.toString := by
  intro a b h
  cases a <;> cases b <;> first | rfl | exact absurd h (by decide)

/-- Distinct `(protocol, nodePort)` pairs give distinct desired keys. -/
theorem nodup_desiredKeys {lb : Loadbalancer} {svc : Service} {ds : List VpcLoadbalancerTargetGroup}
    (hports : (svc.ports.map fun p => (p.protocol, p.nodePort)).Nodup)
    (h : getDesiredVpcLoadbalancerTargetGroups lb svc = .ok ds) : (ds.map targetGroupKey).Nodup := by
  unfold getDesiredVpcLoadbalancerTargetGroups at h
  split at h
  · cases h
  · cases h
    have hinj : Function.Injective fun q : Protocol × Nat => (Go.toLower q.1.toString, q.2) :=
      fun a b hab => by
        simp only [Prod.mk.injEq] at hab
        exact Prod.ext (toLower_protocol_injective hab.1) hab.2
    simpa only [List.map_map] using hports.map hinj

theorem calls_createVpcLoadbalancer (lb : Loadbalancer) (n : String) (svc : Service) :
    AllCalls (KindIn [.read, .securityGroup, .loadbalancer]) (createVpcLoadbalancer lb n svc) :=
  ((calls_createVpcLoadbalancerRequest lb n svc).kinds (by decide)).bind fun _ =>
    .api (by simp [KindIn, Call.kind])

end Engine
end ThalassaCcm
