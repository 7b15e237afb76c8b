import ThalassaCcm.Proof.Ownership

/-!
# References: every listener forwards to a target group that exists

A listener names its target group by identity, and the cloud checks nothing about that
identity once the listener is made: deleting a group leaves its listeners forwarding to
nothing (`RefOk` is what that would break). The controller keeps the references itself. A
reconcile points a listener only at a group it has just created or updated, and it deletes
a group only when its own listing showed the group without listeners
(`cleanupUnusedTargetGroups`, `deleteTargetGroupsWithoutListeners`).

Both decisions rest on a listing taken earlier, so they hold only while nobody else changes
the Service's groups and listeners. Operations for other UIDs never do: they point listeners
at their own groups only, and delete only their own groups (`RefSafe` with `Own`). An
operation for the same Service would, and the per-Service queue of the service controller
keeps those apart while the resync worker's `UpdateLoadBalancer` runs beside them
(`serialRun` says which interleavings keep them apart).

The result is the rely-guarantee composition of `Proof/Threads.lean` once more: the
guarantee of an operation is `Own` and `RefSafe`, the invariant is `OwnInv` and `RefOk`,
and an operation relies on the operations of other UIDs only
(`serial_interleaving_keeps_listener_targets`). Where two operations of one Service
overlap, the invariant fails (`updateLoadBalancer_race_dangling_listener`).

What this module does not prove: that the reconcile points each listener at the *right*
group (see `Proof/Listeners.lean`), or anything about operations that overlap for one
Service beyond the race.
-/

set_option autoImplicit false

namespace ThalassaCcm
namespace Engine

open Cloud Prog StrMap

/-! ## 1. The invariant and the guarantee -/

/-- Every listener forwards to a target group that exists. -/
def RefOk (s : State) : Prop :=
  ∀ l ∈ s.listeners, l.listener.targetGroup.identity ∈ s.targetGroups.map (·.identity)

/-- A group with the identity exists, and every group with it has the UID `u`. -/
def TgLive (u id : String) (s : State) : Prop :=
  TgIdOf u id s ∧ id ∈ s.targetGroups.map (·.identity)

/-- No listener forwards to the identity, and every group with it has the UID `u`. -/
def TgUnused (u id : String) (s : State) : Prop :=
  TgIdOf u id s ∧ ∀ l ∈ s.listeners, l.listener.targetGroup.identity ≠ id

/-- What an operation for `svc` adds to `Own`: a listener it creates or rewrites forwards
    to a live group of `svc`'s, and a group it deletes has no listener. -/
def RefSafe (svc : Service) (s : State) : Call → Prop
  | .createListener _ req | .updateListener _ _ req => TgLive svc.uid req.targetGroup s
  | .deleteTargetGroup id => ∀ l ∈ s.listeners, l.listener.targetGroup.identity ≠ id
  | _ => True

/-- The invariant of the serial runs. -/
structure RefInv (s : State) : Prop where
  own : OwnInv s
  refs : RefOk s

/-- The guarantee of an operation. -/
def RefGuar (svc : Service) (s : State) (c : Call) : Prop := Own svc s c ∧ RefSafe svc s c

/-- What an operation for `svc` puts up with in a serial run: the cloud's progress, and the
    calls of operations for other UIDs. -/
def RefRely (svc : Service) : State → State → Prop :=
  Rely RefInv RefGuar (fun svc svc' => svc.uid ≠ svc'.uid) svc

end Engine

namespace Cloud

/-- The target group a call makes a listener forward to. -/
def Call.forwardsTo : Call → Option String
  | .createListener _ req | .updateListener _ _ req => some req.targetGroup
  | _ => none

end Cloud

namespace Engine

open Cloud Prog StrMap

/-! ## 2. What a call does to references -/

section Calls

variable {s : State} {c : Call}

/-- Identities of target groups survive every call but their deletion. -/
theorem mem_tgIds_perform {id : String} (h : id ∈ s.targetGroups.map (·.identity))
    (hc : c ≠ .deleteTargetGroup id) : id ∈ (s.perform c).1.targetGroups.map (·.identity) := by
  by_cases hk : c.kind = .targetGroup
  swap
  · rwa [State.perform_targetGroups s c hk]
  cases c <;> simp only [Call.kind, reduceCtorEq] at hk <;> simp only [State.perform]
  next req => exact List.map_append _ _ _ ▸ List.mem_append_left _ h
  next id' req =>
    split
    · exact h
    · rwa [map_map_of_keeps fun x _ => by split <;> simp_all [State.targetGroupOf]]
  next id' =>
    split
    · obtain ⟨tg, htg, rfl⟩ := List.mem_map.mp h
      exact List.mem_map_of_mem _ (List.mem_filter.mpr
        ⟨htg, by simpa using fun he : tg.identity = id' => hc (by rw [he])⟩)
    · exact h
  next id' servers =>
    split
    · rwa [map_map_of_keeps fun x _ => by split <;> rfl]
    · exact h

/-- A listener after a call was there before, or the call made it forward where it asked. -/
theorem listener_mem_perform {l : LbListener} (hl : l ∈ (s.perform c).1.listeners) :
    l ∈ s.listeners ∨ c.forwardsTo = some l.listener.targetGroup.identity := by
  by_cases hk : c.kind = .listener ∨ c.kind = .loadbalancer
  swap
  · push_neg at hk
    rw [State.perform_listeners s c hk.1 hk.2] at hl
    exact .inl hl
  rcases hk with hk | hk <;> cases c <;> simp only [Call.kind, reduceCtorEq] at hk <;>
    simp only [State.perform] at hl
  next lbId req =>
    split at hl
    · rcases List.mem_append.mp hl with hl | hl
      · exact .inl hl
      · exact .inr (by rw [List.mem_singleton.mp hl]; rfl)
    · exact .inl hl
  next lbId id req =>
    split at hl
    · obtain ⟨r, hr, rfl⟩ := List.mem_map.mp hl
      split
      · exact .inr rfl
      · exact .inl hr
    · exact .inl hl
  next lbId id =>
    split at hl
    · exact .inl (List.mem_filter.mp hl).1
    · exact .inl hl
  next => exact .inl hl
  next id req => split at hl <;> exact .inl hl
  next id =>
    split at hl
    · exact .inl (List.mem_filter.mp hl).1
    · exact .inl hl

theorem tgLive_of_forwardsTo {svc : Service} {t : String} (hc : RefSafe svc s c)
    (h : c.forwardsTo = some t) : TgLive svc.uid t s := by
  cases c <;> simp only [Call.forwardsTo, reduceCtorEq, Option.some.injEq] at h <;> subst h <;>
    exact hc

theorem ne_deleteTargetGroup_of_forwardsTo {t id : String} (h : c.forwardsTo = some t) :
    c ≠ .deleteTargetGroup id := by
  rintro rfl; cases h

/-- **The invariant, one call.** A call the guarantee allows keeps every listener on an
    existing group. -/
theorem refOk_perform {svc : Service} (h : RefOk s) (hc : RefSafe svc s c) :
    RefOk (s.perform c).1 := fun l hl => by
  rcases listener_mem_perform hl with hold | hf
  · refine mem_tgIds_perform (h l hold) ?_
    rintro rfl
    exact hc l hold rfl
  · exact mem_tgIds_perform (tgLive_of_forwardsTo hc hf).2 (ne_deleteTargetGroup_of_forwardsTo hf)

theorem RefInv.respond {svc : Service} (h : RefInv s) (hc : RefGuar svc s c) (f : Fault) :
    RefInv (s.respond c f).1 :=
  ⟨h.own.respond hc.1 f, State.respond_of_perform s c h.refs (refOk_perform h.refs hc.2) f⟩

theorem RefInv.applyEnv (h : RefInv s) (e : EnvEvent) : RefInv (s.applyEnv e) :=
  ⟨h.own.applyEnv e, fun l hl => by simpa using h.refs l (by simpa using hl)⟩

theorem refInv_empty (subnets : List Subnet) : RefInv (State.empty subnets) :=
  ⟨ownInv_empty subnets, fun _ h => by simp [State.empty] at h⟩

/-- A call keeps a live group live unless it deletes it or rewrites it with another UID. -/
theorem TgLive.respond {u id : String} (h : TgLive u id s)
    (hupd : ∀ id' req, c = .updateTargetGroup id' req → id' = id →
      id ∈ s.targetGroups.map (·.identity) → req.labels.get labelKubernetesServiceUID = u)
    (hdel : c ≠ .deleteTargetGroup id) (f : Fault) : TgLive u id (s.respond c f).1 :=
  State.respond_of_perform s c h ⟨h.1.perform_of_tg hupd, mem_tgIds_perform h.2 hdel⟩ f

/-- Two UIDs own one existing identity only if they agree. -/
theorem uid_eq_of_tgIdOf {u u' id : String} (h : TgIdOf u id s) (h' : TgIdOf u' id s)
    (hex : id ∈ s.targetGroups.map (·.identity)) : u = u' := by
  obtain ⟨tg, htg, rfl⟩ := List.mem_map.mp hex
  exact (h.2 tg htg rfl).symm.trans (h'.2 tg htg rfl)

end Calls

/-! ## 3. What the other UIDs keep -/

section Stability

variable {svc : Service}

theorem ownRely_of_refRely {s s' : State} (h : RefRely svc s s') : OwnRely svc s s' :=
  ⟨h.1.own, h.2.imp id fun ⟨svc', c, f, _, hc, he⟩ => ⟨svc', c, f, trivial, hc.1, he⟩⟩

theorem Stable.of_ownRely {K : State → Prop} (h : Stable (OwnRely svc) K) :
    Stable (RefRely svc) K :=
  fun s s' hr => h s s' (ownRely_of_refRely hr)

theorem fresh_stable : Stable (RefRely svc) State.Fresh := by
  rintro s s' ⟨-, ⟨e, rfl⟩ | ⟨-, c, f, -, -, rfl⟩⟩ h
  exacts [h.applyEnv e, h.respond c f]

/-- A live group of `svc`'s stays live: another UID deletes only its own groups. -/
theorem TgLive.stable (id : String) : Stable (RefRely svc) (TgLive svc.uid id) := by
  intro s s' hr h
  refine ⟨Stable.of_ownRely (TgIdOf.stable svc.uid id) s s' hr h.1, ?_⟩
  rcases hr with ⟨-, ⟨e, rfl⟩ | ⟨svc', c, f, hne, hc, rfl⟩⟩
  · simpa using h.2
  · refine @State.respond_of_perform s c (fun t => id ∈ t.targetGroups.map (·.identity)) h.2
      (mem_tgIds_perform h.2 ?_) f
    rintro rfl
    exact hne (uid_eq_of_tgIdOf h.1 hc.1 h.2)

/-- An unused group of `svc`'s stays unused: another UID forwards only to its own groups. -/
theorem TgUnused.stable (id : String) : Stable (RefRely svc) (TgUnused svc.uid id) := by
  intro s s' hr h
  refine ⟨Stable.of_ownRely (TgIdOf.stable svc.uid id) s s' hr h.1, ?_⟩
  rcases hr with ⟨-, ⟨e, rfl⟩ | ⟨svc', c, f, hne, hc, rfl⟩⟩
  · simpa using h.2
  · refine @State.respond_of_perform s c
      (fun t => ∀ l ∈ t.listeners, l.listener.targetGroup.identity ≠ id) h.2 (fun l hl he => ?_) f
    rcases listener_mem_perform hl with hl | hf
    · exact h.2 l hl he
    · rw [he] at hf
      have hlive := tgLive_of_forwardsTo hc.2 hf
      exact hne (uid_eq_of_tgIdOf h.1 hlive.1 hlive.2)

theorem tgLives_stable (tgs : List VpcLoadbalancerTargetGroup) :
    Stable (RefRely svc) fun s => ∀ tg ∈ tgs, TgLive svc.uid tg.identity s :=
  Stable.forall_mem tgs fun tg => TgLive.stable tg.identity

end Stability

/-! ## 4. The target-group phase -/

/-- The calls of a reconcile's target-group phase for the UID `u`: listings, creations,
    attachments, and updates that keep the UID. -/
def TgPhaseCall (u : String) : Call → Prop
  | .listTargetGroups _ | .createTargetGroup _ | .setTargetGroupServerAttachments _ _ => True
  | .updateTargetGroup _ req => req.labels.get labelKubernetesServiceUID = u
  | _ => False

section TargetGroupPhase

variable (lb : Loadbalancer) (svc : Service) (nodes : List Node)

theorem refSafe_of_tgPhaseCall {s : State} {c : Call} (h : TgPhaseCall svc.uid c) :
    RefSafe svc s c := by
  cases c <;> simp only [TgPhaseCall] at h <;> trivial

theorem TgLive.respond_of_tgPhaseCall {s : State} {c : Call} {id : String}
    (h : TgLive svc.uid id s) (hc : TgPhaseCall svc.uid c) (f : Fault) :
    TgLive svc.uid id (s.respond c f).1 :=
  h.respond (fun _ _ he _ _ => by subst he; exact hc) (by rintro rfl; exact hc) f

/-- Knowledge of live groups is kept along the phase. -/
theorem Safe.frame_tgLive {α : Type} {Q : α → State → Prop} {P : State → Prop} {p : Prog α}
    (tgs : List VpcLoadbalancerTargetGroup)
    (h : Safe (RefRely svc) (fun _ c => TgPhaseCall svc.uid c) Q (fun _ _ => True) P p) :
    Safe (RefRely svc) (fun _ c => TgPhaseCall svc.uid c)
      (fun a s => Q a s ∧ ∀ tg ∈ tgs, TgLive svc.uid tg.identity s) (fun _ _ => True)
      (fun s => P s ∧ ∀ tg ∈ tgs, TgLive svc.uid tg.identity s) p :=
  (h.frame_of_guar (tgLives_stable tgs) fun _ _ f hc h tg htg =>
    (h tg htg).respond_of_tgPhaseCall svc hc f).post (fun _ _ h => h) fun _ _ _ => trivial

/-- A listing of the Service's groups: each listed group is live, and unused if listed
    without listeners. -/
theorem ref_listTargetGroups :
    Safe (RefRely svc) (fun _ c => TgPhaseCall svc.uid c)
      (fun (tgs : List VpcLoadbalancerTargetGroup) s => s.Fresh ∧ ∀ tg ∈ tgs,
        TgLive svc.uid tg.identity s ∧
          (tg.loadbalancerListeners = [] → TgUnused svc.uid tg.identity s))
      (fun _ _ => True) State.Fresh
      (api (.listTargetGroups (getLabelsForVpcLoadbalancer lb svc))) := by
  refine Safe.api (.listTargetGroups _) (fun _ _ => trivial) (fun s f v hs hr => ⟨fresh_stable.and
    (Stable.forall_mem v fun tg => (TgLive.stable _).and (Stable.imp _ (TgUnused.stable _))), ?_⟩)
    fun _ _ _ _ _ => ⟨Stable.const _ _, trivial⟩
  obtain ⟨h1, h2⟩ := respond_read hr rfl
  rw [h1]
  refine ⟨hs, fun tg htg => ?_⟩
  obtain ⟨hid, hmem, hnone⟩ := listTargetGroups_spec lb svc hs h2 tg htg
  exact ⟨⟨hid, hmem⟩, fun he => ⟨hid, hnone he⟩⟩

theorem ref_createTargetGroup {req : TargetGroupRequest}
    (hreq : req.labels.get labelKubernetesServiceUID = svc.uid) :
    Safe (RefRely svc) (fun _ c => TgPhaseCall svc.uid c)
      (fun r s => s.Fresh ∧ ∀ tg, r = some tg → TgLive svc.uid tg.identity s)
      (fun _ _ => True) State.Fresh (api (.createTargetGroup req)) := by
  refine Safe.api (.createTargetGroup req) (fun _ _ => trivial) (fun s f v hs hr => ⟨fresh_stable.and
    (Stable.forall_eq_some v fun tg => TgLive.stable tg.identity), hs.respond _ f, ?_⟩)
    fun _ _ _ _ _ => ⟨Stable.const _ _, trivial⟩
  rintro tg rfl
  obtain ⟨hid, hmem⟩ := tgIdOf_created hs hr
  exact ⟨hreq ▸ hid, List.mem_map_of_mem _ hmem⟩

theorem ref_updateTargetGroup {id : String} {req : TargetGroupRequest}
    (hreq : req.labels.get labelKubernetesServiceUID = svc.uid) :
    Safe (RefRely svc) (fun _ c => TgPhaseCall svc.uid c)
      (fun r s => s.Fresh ∧ ∀ tg, r = some tg → TgLive svc.uid tg.identity s)
      (fun _ _ => True) (fun s => s.Fresh ∧ TgIdOf svc.uid id s)
      (api (.updateTargetGroup id req)) := by
  refine Safe.api (.updateTargetGroup id req) (fun _ _ => hreq) (fun s f v hs hr =>
    ⟨fresh_stable.and (Stable.forall_eq_some v fun tg => TgLive.stable tg.identity),
      hs.1.respond _ f, ?_⟩) fun _ _ _ _ _ => ⟨Stable.const _ _, trivial⟩
  rintro tg rfl
  obtain ⟨hid, hmem⟩ := identity_of_updateTargetGroup hr
  refine ⟨hid ▸ State.respond_of_perform s _ hs.2 (hs.2.perform_of_tg ?_) f,
    List.mem_map_of_mem _ hmem⟩
  intro _ _ he _ _
  cases he
  exact hreq

theorem ref_upgradeTargetGroupAttachments (tg : VpcLoadbalancerTargetGroup) :
    Safe (RefRely svc) (fun _ c => TgPhaseCall svc.uid c) (fun _ => State.Fresh)
      (fun _ _ => True) State.Fresh (upgradeTargetGroupAttachments tg nodes) :=
  have h : Safe (RefRely svc) (fun _ c => TgPhaseCall svc.uid c) (fun _ => State.Fresh)
      (fun _ => State.Fresh) State.Fresh
      (api (.setTargetGroupServerAttachments tg.identity (nodes.filterMap serverIdentity))) :=
    Safe.api_inv fresh_stable (fun _ f h => h.respond _ f) fun _ _ => trivial
  Safe.wrap_inv (h.post (fun _ _ h => h) fun _ _ _ => trivial)

theorem ref_createMissingTargetGroups (keys : List (String × Nat)) :
    ∀ desired : List VpcLoadbalancerTargetGroup,
      (∀ tg ∈ desired, tg.labels.get labelKubernetesServiceUID = svc.uid) →
      Safe (RefRely svc) (fun _ c => TgPhaseCall svc.uid c)
        (fun created s => s.Fresh ∧ ∀ tg ∈ created, TgLive svc.uid tg.identity s)
        (fun _ _ => True) State.Fresh (createMissingTargetGroups nodes keys desired)
  | [], _ => .ret fun _ h => ⟨h, List.forall_mem_nil _⟩
  | tg :: rest, hdes => by
    have ih := ref_createMissingTargetGroups keys rest fun t ht => hdes t (.tail _ ht)
    simp only [createMissingTargetGroups, bind_eq, pure_eq, ret_bind]
    split
    · exact ih
    refine (Safe.wrap_inv (ref_createTargetGroup svc
      (hdes tg (.head _) : (targetGroupRequest tg).labels.get _ = _))).bind fun r => ?_
    cases r with
    | none => exact Safe.throw fun _ _ => trivial
    | some created =>
      refine (Safe.wrap_inv ((Safe.frame_tgLive svc [created]
        (ref_upgradeTargetGroupAttachments svc nodes created)).pre
          fun s h => ⟨h.1, fun t ht => by rw [List.mem_singleton.mp ht]; exact h.2 created rfl⟩)).bind
        fun _ => ?_
      refine (Safe.frame_tgLive svc [created] ih).bind fun more => .ret fun s h => ⟨h.1.1, ?_⟩
      rintro t (_ | ⟨_, ht⟩)
      exacts [h.2 created (.head _), h.1.2 t ht]

theorem ref_updateExistingTargetGroups (desired : List VpcLoadbalancerTargetGroup)
    (hdes : ∀ tg ∈ desired, tg.labels.get labelKubernetesServiceUID = svc.uid) :
    ∀ existing : List VpcLoadbalancerTargetGroup,
      Safe (RefRely svc) (fun _ c => TgPhaseCall svc.uid c)
        (fun updated s => s.Fresh ∧ ∀ tg ∈ updated, TgLive svc.uid tg.identity s)
        (fun _ _ => True) (fun s => s.Fresh ∧ ∀ tg ∈ existing, TgLive svc.uid tg.identity s)
        (updateExistingTargetGroups nodes desired existing)
  | [] => .ret fun _ h => ⟨h.1, List.forall_mem_nil _⟩
  | tg :: rest => by
    have ih := ref_updateExistingTargetGroups desired hdes rest
    have hpre : ∀ s, (s.Fresh ∧ ∀ t ∈ tg :: rest, TgLive svc.uid t.identity s) →
        s.Fresh ∧ ∀ t ∈ rest, TgLive svc.uid t.identity s :=
      fun _ h => ⟨h.1, fun t ht => h.2 t (.tail _ ht)⟩
    simp only [updateExistingTargetGroups, bind_eq, pure_eq, ret_bind]
    split
    · exact ih.pre hpre
    next want hwant =>
    split
    · exact ih.pre hpre
    have hreq : (targetGroupRequest want).labels.get labelKubernetesServiceUID = svc.uid :=
      hdes want (mem_of_lastWithKey hwant)
    refine ((Safe.wrap_inv (Safe.frame_tgLive svc rest (ref_updateTargetGroup svc hreq))).pre
      fun s h => ⟨⟨h.1, (h.2 tg (.head _)).1⟩, (hpre s h).2⟩).bind fun r => ?_
    cases r with
    | none => exact Safe.throw fun _ _ => trivial
    | some updated =>
      refine (Safe.wrap_inv ((Safe.frame_tgLive svc (updated :: rest)
        (ref_upgradeTargetGroupAttachments svc nodes updated)).pre fun s h => ⟨h.1.1, ?_⟩)).bind
          fun _ => ?_
      · rintro t (_ | ⟨_, ht⟩)
        exacts [h.1.2 updated rfl, h.2 t ht]
      refine (Safe.frame_tgLive svc [updated] (ih.pre fun s h => h)).pre
        (fun s h => ⟨⟨h.1, fun t ht => h.2 t (.tail _ ht)⟩, fun t ht => ?_⟩) |>.bind
          fun more => .ret fun s h => ⟨h.1.1, ?_⟩
      · rw [List.mem_singleton.mp ht]; exact h.2 updated (.head _)
      · rintro t (_ | ⟨_, ht⟩)
        exacts [h.2 updated (.head _), h.1.2 t ht]

theorem ref_createOrUpdateTargetGroups (desired : List VpcLoadbalancerTargetGroup)
    (hdes : ∀ tg ∈ desired, tg.labels.get labelKubernetesServiceUID = svc.uid) :
    Safe (RefRely svc) (fun _ c => TgPhaseCall svc.uid c)
      (fun tgs s => s.Fresh ∧ ∀ tg ∈ tgs, TgLive svc.uid tg.identity s)
      (fun _ _ => True) State.Fresh (createOrUpdateTargetGroups lb svc desired nodes) := by
  refine (Safe.wrap_inv (ref_listTargetGroups lb svc)).bind fun existing => ?_
  refine ((Safe.frame_tgLive svc existing (ref_createMissingTargetGroups svc nodes _ desired
    hdes)).pre fun s h => ⟨h.1, fun tg htg => (h.2 tg htg).1⟩).bind fun created => ?_
  refine ((Safe.frame_tgLive svc created (ref_updateExistingTargetGroups svc nodes desired hdes
    existing)).pre fun s h => ⟨⟨h.1.1, h.2⟩, h.1.2⟩).bind fun updated => .ret fun s h => ⟨h.1.1, ?_⟩
  intro tg htg
  rcases List.mem_append.mp htg with htg | htg
  exacts [h.2 tg htg, h.1.2 tg htg]

end TargetGroupPhase

/-! ## 5. The listener step and the deletions -/

/-- The listener calls forward only to the identity of a group of the list. -/
def ForwardsIn (tgs : List VpcLoadbalancerTargetGroup) (c : Call) : Prop :=
  ∀ t, c.forwardsTo = some t → t ∈ tgs.map (·.identity)

section ListenerStep

variable (lb : Loadbalancer) (svc : Service)

theorem mem_of_getTargetGroupIdentityForListener {l : VpcLoadbalancerListener}
    {tgs : List VpcLoadbalancerTargetGroup} (h : getTargetGroupIdentityForListener lb svc l tgs ≠ "") :
    getTargetGroupIdentityForListener lb svc l tgs ∈ tgs.map (·.identity) := by
  simp only [getTargetGroupIdentityForListener] at h ⊢
  split
  · next tg htg => exact List.mem_map_of_mem _ (List.mem_of_find?_eq_some htg)
  · next hn => simp only [hn] at h; exact absurd rfl h

theorem calls_updateOrDeleteListeners_forwards (lbId : String)
    (desired : List VpcLoadbalancerListener) (tgs : List VpcLoadbalancerTargetGroup) :
    ∀ existing : List VpcLoadbalancerListener,
      AllCalls (ForwardsIn tgs) (updateOrDeleteListeners lb svc lbId desired tgs existing)
  | [] => .ret ()
  | l :: rest => by
    have ih := calls_updateOrDeleteListeners_forwards lbId desired tgs rest
    simp only [updateOrDeleteListeners, bind_eq, pure_eq, ret_bind]
    split
    · exact (AllCalls.wrap _ (.api fun _ h => by cases h)).bind fun _ => ih
    · split
      · next hne =>
        refine (AllCalls.wrap _ (.api fun t h => ?_)).bind fun _ => ih
        cases h
        exact mem_of_getTargetGroupIdentityForListener lb svc hne
      · exact ih

theorem calls_createMissingListeners_forwards (lbId : String) (ports : List Nat)
    (tgs : List VpcLoadbalancerTargetGroup) :
    ∀ desired : List VpcLoadbalancerListener,
      AllCalls (ForwardsIn tgs) (createMissingListeners lb svc lbId ports tgs desired)
  | [] => .ret ()
  | l :: rest => by
    have ih := calls_createMissingListeners_forwards lbId ports tgs rest
    simp only [createMissingListeners, bind_eq, pure_eq, ret_bind]
    split
    · split
      · next hne =>
        refine (AllCalls.wrap _ (.api fun t h => ?_)).bind fun _ => ih
        cases h
        exact mem_of_getTargetGroupIdentityForListener lb svc hne
      · exact ih
    · exact ih

theorem calls_updateVpcLoadbalancerListener_forwards (x : VpcLoadbalancer)
    (desired : List VpcLoadbalancerListener) (tgs : List VpcLoadbalancerTargetGroup) :
    AllCalls (ForwardsIn tgs) (updateVpcLoadbalancerListener lb svc x desired tgs) := by
  simp only [updateVpcLoadbalancerListener, bind_eq, pure_eq, ret_bind]
  refine (AllCalls.wrap _ (.api fun _ h => by cases h)).bind fun existing => ?_
  have hcreate := calls_createMissingListeners_forwards lb svc x.identity
    (existing.map (·.port)) tgs desired
  split
  · exact (calls_updateOrDeleteListeners_forwards lb svc _ desired tgs existing).bind fun _ => hcreate
  · exact hcreate

/-- The listener step points listeners only at live groups of the list it was given, which
    it keeps live. -/
theorem ref_updateVpcLoadbalancerListener (x : VpcLoadbalancer)
    (desired : List VpcLoadbalancerListener) (tgs : List VpcLoadbalancerTargetGroup) :
    Safe (RefRely svc) (RefSafe svc) (fun _ => State.Fresh) (fun _ _ => True)
      (fun s => s.Fresh ∧ ∀ tg ∈ tgs, TgLive svc.uid tg.identity s)
      (updateVpcLoadbalancerListener lb svc x desired tgs) := by
  have hp := (calls_updateVpcLoadbalancerListener_on lb svc x desired tgs).and
    (calls_updateVpcLoadbalancerListener_forwards lb svc x desired tgs)
  refine (Safe.of_allCalls hp (fresh_stable.and (tgLives_stable tgs)) (fun s c f hc h =>
    ⟨h.1.respond c f, fun tg htg => (h.2 tg htg).respond ?_ ?_ f⟩) fun s c hc h => ?_).post
      (fun _ _ h => h.1) fun _ _ _ => trivial
  · rintro _ _ rfl; exact hc.1.elim
  · rintro rfl; exact hc.1.elim
  · cases c <;> simp only [ListenerCallOn, false_and] at hc <;> try trivial
    all_goals
      obtain ⟨tg, htg, he⟩ := List.mem_map.mp (hc.2 _ rfl)
      simp only [RefSafe, ← he]
      exact h.2 tg htg

end ListenerStep

section Deletions

variable (lb : Loadbalancer) (svc : Service)

/-- A deletion keeps another group unused. -/
theorem TgUnused.respond_deleteTargetGroup {s : State} {u id : String} (h : TgUnused u id s)
    (id' : String) (f : Fault) : TgUnused u id (s.respond (.deleteTargetGroup id') f).1 := by
  refine State.respond_of_perform s _ h ⟨h.1.perform_of_tg (fun _ _ he => by cases he), ?_⟩ f
  rw [State.perform_listeners s _ (by simp [Call.kind]) (by simp [Call.kind])]
  exact h.2

/-- Deleting groups of a listing that were listed without listeners. -/
theorem ref_deleteListed {p : Prog Unit} (tgs : List VpcLoadbalancerTargetGroup)
    (hp : AllCalls (fun c => ∃ tg ∈ tgs, tg.loadbalancerListeners = [] ∧
      c = .deleteTargetGroup tg.identity) p) :
    Safe (RefRely svc) (RefSafe svc) (fun _ => State.Fresh) (fun _ _ => True)
      (fun s => s.Fresh ∧
        ∀ tg ∈ tgs, tg.loadbalancerListeners = [] → TgUnused svc.uid tg.identity s) p :=
  (Safe.of_allCalls hp (fresh_stable.and
    (Stable.forall_mem tgs fun _ => Stable.imp _ (TgUnused.stable _)))
    (fun _ c f ⟨_, _, _, hc⟩ h => ⟨h.1.respond c f, fun tg htg he =>
      hc ▸ (h.2 tg htg he).respond_deleteTargetGroup _ f⟩)
    fun _ _ ⟨tg, htg, he, hc⟩ h => hc ▸ (h.2 tg htg he).2).post
      (fun _ _ h => h.1) fun _ _ _ => trivial

theorem calls_deleteUnusedTargetGroups_listed (keep : List (String × Nat)) :
    ∀ tgs : List VpcLoadbalancerTargetGroup,
      AllCalls (fun c => ∃ tg ∈ tgs, tg.loadbalancerListeners = [] ∧
        c = .deleteTargetGroup tg.identity) (deleteUnusedTargetGroups keep tgs)
  | [] => .ret ()
  | tg :: rest => by
    have ih : AllCalls (fun c => ∃ t ∈ tg :: rest, t.loadbalancerListeners = [] ∧
        c = .deleteTargetGroup t.identity) (deleteUnusedTargetGroups keep rest) :=
      (calls_deleteUnusedTargetGroups_listed keep rest).mono fun c ⟨t, ht, h⟩ => ⟨t, .tail _ ht, h⟩
    simp only [deleteUnusedTargetGroups, bind_eq, pure_eq, ret_bind]
    exact AllCalls.ite (fun h => (AllCalls.wrap _ (.api ⟨tg, .head _, h.1, rfl⟩)).bind fun _ => ih)
      fun _ => ih

theorem calls_deleteTargetGroupsWithoutListeners_listed :
    ∀ tgs : List VpcLoadbalancerTargetGroup,
      AllCalls (fun c => ∃ tg ∈ tgs, tg.loadbalancerListeners = [] ∧
        c = .deleteTargetGroup tg.identity) (deleteTargetGroupsWithoutListeners tgs)
  | [] => .ret ()
  | tg :: rest => by
    have ih : AllCalls (fun c => ∃ t ∈ tg :: rest, t.loadbalancerListeners = [] ∧
        c = .deleteTargetGroup t.identity) (deleteTargetGroupsWithoutListeners rest) :=
      (calls_deleteTargetGroupsWithoutListeners_listed rest).mono fun c ⟨t, ht, h⟩ =>
        ⟨t, .tail _ ht, h⟩
    simp only [deleteTargetGroupsWithoutListeners, bind_eq, pure_eq, ret_bind]
    exact AllCalls.ite (fun h => (AllCalls.api ⟨tg, .head _, h, rfl⟩).bind fun _ => ih) fun _ => ih

/-- A listing under the guarantee of the whole operation. -/
theorem ref_listTargetGroups_guar :
    Safe (RefRely svc) (RefSafe svc)
      (fun (tgs : List VpcLoadbalancerTargetGroup) s => s.Fresh ∧ ∀ tg ∈ tgs,
        tg.loadbalancerListeners = [] → TgUnused svc.uid tg.identity s)
      (fun _ _ => True) State.Fresh
      (api (.listTargetGroups (getLabelsForVpcLoadbalancer lb svc))) :=
  ((ref_listTargetGroups lb svc).guar fun _ _ h => refSafe_of_tgPhaseCall svc h).post
    (fun _ _ h => ⟨h.1, fun tg htg => (h.2 tg htg).2⟩) fun _ _ _ => trivial

theorem ref_cleanupUnusedTargetGroups (desired : List VpcLoadbalancerTargetGroup) :
    Safe (RefRely svc) (RefSafe svc) (fun _ => State.Fresh) (fun _ _ => True) State.Fresh
      (cleanupUnusedTargetGroups lb svc desired) :=
  (Safe.wrap_inv (ref_listTargetGroups_guar lb svc)).bind fun existing =>
    ref_deleteListed svc existing (calls_deleteUnusedTargetGroups_listed _ existing)

end Deletions

/-! ## 6. The entry points -/

section Entry

variable (lb : Loadbalancer) (svc : Service)

theorem refSafe_of_kind {s : State} {c : Call}
    (hk : c.kind ∈ [.read, .loadbalancer, .securityGroup]) : RefSafe svc s c := by
  cases c <;> simp [Call.kind] at hk <;> trivial

/-- A program without listener or target-group writes. -/
theorem ref_of_kinds {α : Type} {p : Prog α} {Qc : Call → Prop} (hp : AllCalls Qc p)
    (hq : ∀ c, Qc c → c.kind ∈ [.read, .loadbalancer, .securityGroup]) :
    Safe (RefRely svc) (RefSafe svc) (fun _ => State.Fresh) (fun _ _ => True) State.Fresh p :=
  (Safe.of_allCalls hp fresh_stable (fun _ c f _ h => h.respond c f)
    fun _ c hc _ => refSafe_of_kind svc (hq c hc)).post (fun _ _ h => h) fun _ _ _ => trivial

theorem kind_of_kindIn {ks : List CallKind}
    (h : ∀ k ∈ ks, k ∈ [CallKind.read, .loadbalancer, .securityGroup]) (c : Call)
    (hc : KindIn ks c) : c.kind ∈ [.read, .loadbalancer, .securityGroup] :=
  h _ hc

theorem ref_updateVpcLoadbalancerListenersAndTargetGroups (nodes : List Node)
    (x : VpcLoadbalancer) :
    Safe (RefRely svc) (RefSafe svc) (fun _ => State.Fresh) (fun _ _ => True) State.Fresh
      (updateVpcLoadbalancerListenersAndTargetGroups lb svc nodes x) := by
  simp only [updateVpcLoadbalancerListenersAndTargetGroups, bind_eq, pure_eq, ret_bind,
    throw_bind]
  split
  next desiredTgs hdes =>
    refine (Safe.wrap_inv ((ref_createOrUpdateTargetGroups lb svc nodes desiredTgs
      (get_uid_of_getDesiredVpcLoadbalancerTargetGroups lb svc hdes)).guar
        fun _ _ h => refSafe_of_tgPhaseCall svc h)).bind fun tgs => ?_
    refine (Safe.wrap_inv (ref_updateVpcLoadbalancerListener lb svc x _ tgs)).bind fun _ => ?_
    refine (Safe.wrap_inv (ref_cleanupUnusedTargetGroups lb svc tgs)).bind fun _ => ?_
    refine (Safe.wrap_inv (ref_of_kinds svc (calls_updateVpcLoadbalancer lb svc x _)
      fun c hc => ?_)).bind fun _ => .ret fun _ h => h
    rcases hc with hc | ⟨_, rfl, -⟩
    · exact kind_of_kindIn (by decide) c hc
    · exact .tail _ (.head _)
  next => exact Safe.throw fun _ _ => trivial

theorem ref_ensureLoadBalancer (slices : List EndpointSlice) (nodes : List Node) :
    Safe (RefRely svc) (RefSafe svc) (fun _ _ => True) (fun _ _ => True) State.Fresh
      (ensureLoadBalancer lb slices svc nodes) := by
  simp only [ensureLoadBalancer, bind_eq, pure_eq, ret_bind]
  refine (ref_of_kinds svc (calls_fetchVpcLoadbalancerFromCloud lb svc)
    (kind_of_kindIn (by decide))).bind fun found => ?_
  cases found with
  | some x =>
    exact (ref_updateVpcLoadbalancerListenersAndTargetGroups lb svc _ x).post
      (fun _ _ _ => trivial) fun _ _ _ => trivial
  | none =>
    have hcreate : AllCalls (fun c => c.kind ∈ [.read, .loadbalancer, .securityGroup])
        (createVpcLoadbalancer lb (getLoadBalancerName svc) svc) :=
      ((calls_createVpcLoadbalancerRequest lb _ svc).mono (kind_of_kindIn (by decide))).bind
        fun _ => .api (.tail _ (.head _))
    refine (ref_of_kinds svc hcreate fun _ h => h).bind fun created => ?_
    refine (ref_updateVpcLoadbalancerListenersAndTargetGroups lb svc _ created).bind fun _ => ?_
    exact (ref_of_kinds svc (calls_pollUntilContextTimeout (calls_readyCondition lb svc created) _)
      (kind_of_kindIn (by decide))).bind fun _ => .ret fun _ _ => trivial

theorem ref_updateLoadBalancer (slices : List EndpointSlice) (nodes : List Node) :
    Safe (RefRely svc) (RefSafe svc) (fun _ _ => True) (fun _ _ => True) State.Fresh
      (updateLoadBalancer lb slices svc nodes) := by
  simp only [updateLoadBalancer, bind_eq, pure_eq, ret_bind]
  refine (Safe.wrap_inv (ref_of_kinds svc (calls_fetchVpcLoadbalancerFromCloud lb svc)
    (kind_of_kindIn (by decide)))).bind fun found => ?_
  cases found with
  | none => exact Safe.throw fun _ _ => trivial
  | some x =>
    exact (Safe.wrap_inv (ref_updateVpcLoadbalancerListenersAndTargetGroups lb svc _ x)).bind
      fun _ => .ret fun _ _ => trivial

theorem ref_ensureLoadBalancerDeleted :
    Safe (RefRely svc) (RefSafe svc) (fun _ _ => True) (fun _ _ => True) State.Fresh
      (ensureLoadBalancerDeleted lb svc) := by
  simp only [ensureLoadBalancerDeleted, bind_eq, pure_eq, ret_bind]
  refine (ref_of_kinds svc (calls_fetchVpcLoadbalancerFromCloud lb svc)
    (kind_of_kindIn (by decide))).bind fun found => ?_
  cases found with
  | none => exact .ret fun _ _ => trivial
  | some x =>
    refine (ref_cleanupUnusedTargetGroups lb svc []).bind fun _ => ?_
    have hdelete : AllCalls (fun c => c.kind ∈ [.read, .loadbalancer, .securityGroup])
        (api (.deleteLoadbalancer x.identity)) := .api (.tail _ (.head _))
    refine (ref_of_kinds svc hdelete fun _ h => h).bind fun _ => ?_
    refine (ref_of_kinds svc (calls_pollUntilContextTimeout (calls_deletedCondition lb svc) _)
      (kind_of_kindIn (by decide))).bind fun _ => ?_
    refine (ref_listTargetGroups_guar lb svc).bind fun tgs => ?_
    refine (ref_deleteListed svc tgs (calls_deleteTargetGroupsWithoutListeners_listed tgs)).bind
      fun _ => ?_
    exact (ref_of_kinds svc (calls_deleteManagedSecurityGroup lb svc)
      (kind_of_kindIn (by decide))).post (fun _ _ _ => trivial) fun _ _ _ => trivial

end Entry

/-- Every operation keeps the references, among the operations of other UIDs. -/
theorem ref_prog (op : Op) :
    Safe (RefRely op.svc) (RefSafe op.svc) (fun _ _ => True) (fun _ _ => True) State.Fresh
      op.prog := by
  obtain ⟨lb, svc, kind⟩ := op
  cases kind with
  | ensure slices nodes =>
    exact (ref_ensureLoadBalancer lb svc slices nodes).bind fun _ => .ret fun _ _ => trivial
  | update slices nodes => exact ref_updateLoadBalancer lb svc slices nodes
  | delete => exact ref_ensureLoadBalancerDeleted lb svc

/-! ## 7. Every serial interleaving -/

theorem threadOk_ref (op : Op) (s : State) (hs : RefInv s) :
    ThreadOk RefInv RefGuar (fun svc svc' => svc.uid ≠ svc'.uid) ⟨op.svc, op.prog⟩ s :=
  ⟨fun s => OwnInv s ∧ s.Fresh, (Stable.of_ownRely OwnInv.stable).and fresh_stable,
    ⟨hs.own, hs.own.fresh⟩, (((own_prog op).rely fun _ _ => ownRely_of_refRely).and
      (ref_prog op)).post (fun _ _ _ => trivial) fun _ _ _ => trivial⟩

theorem distinctInFlight_init (subnets : List Subnet) : (Sys.init subnets).DistinctInFlight :=
  fun _ _ _ _ _ h => by simp [Sys.init] at h

/-- Along every interleaving from an empty VPC in which a Service's operations do not
    overlap, the cloud keeps the invariant and every operation in flight makes only calls
    its guarantee allows. -/
theorem sysOk_ref (subnets : List Subnet) (ls : List Label)
    (hs : serialRun (Sys.init subnets) ls = true) :
    SysOk RefInv RefGuar (fun svc svc' => svc.uid ≠ svc'.uid) (runLabels (Sys.init subnets) ls) :=
  sysOk_runLabels (fun _ e h => h.applyEnv e) (fun _ _ _ f h hc => h.respond hc f) threadOk_ref
    ⟨refInv_empty subnets, fun _ _ h => by simp [Sys.init] at h⟩ ls
    (admissible_of_serialRun (distinctInFlight_init subnets) ls hs)

/-- From an empty VPC, along every interleaving of operations in which no operation starts
    while one for a Service with its UID is in flight: every listener forwards to a target
    group that exists, and a target group an operation is about to delete has no listener,
    whatever progress the cloud makes first. -/
theorem serial_interleaving_keeps_listener_targets (subnets : List Subnet) (ls : List Label)
    (hs : serialRun (Sys.init subnets) ls = true) :
    RefOk (runLabels (Sys.init subnets) ls).cloud ∧
    ∀ (i : Nat) (th : Thread) (id : String) (es : List EnvEvent),
      (runLabels (Sys.init subnets) ls).threads[i]? = some th →
      th.pending = some (.deleteTargetGroup id) →
      ∀ l ∈ ((runLabels (Sys.init subnets) ls).cloud.evolve es).listeners,
        l.listener.targetGroup.identity ≠ id :=
  ⟨(sysOk_ref subnets ls hs).1.refs, fun _ _ _ es hi hc =>
    ((sysOk_ref subnets ls hs).guarantee (fun _ e h => h.applyEnv e) hi hc es).2⟩

/-- `EnsureLoadBalancer` of the web Service and of the DNS Service, step by step in turn. -/
def serialLabels : List Label :=
  [.start ⟨configWithLabels [], webService, .ensure [] []⟩,
   .start ⟨configWithLabels [], dnsService, .ensure [] []⟩] ++
    (List.replicate 8 [Label.step 0 {}, .step 1 {}]).flatten

theorem serial_interleaving_keeps_listener_targets_web :
    serialRun (Sys.init [⟨"subnet-1", "main"⟩]) serialLabels = true ∧
    RefOk (runLabels (Sys.init [⟨"subnet-1", "main"⟩]) serialLabels).cloud :=
  have hs : serialRun (Sys.init [⟨"subnet-1", "main"⟩]) serialLabels = true := by
    set_option maxRecDepth 8000 in decide
  ⟨hs, (serial_interleaving_keeps_listener_targets _ _ hs).1⟩

/-! ## 8. Two updates of one Service -/

/-- The web Service with its HTTP port only, on node port 30080. -/
def webV1 : Service := { webService with ports := [⟨"http", .TCP, 80, 30080⟩] }

/-- The same Service after its node port moved to 30081. -/
def webV2 : Service := { webService with ports := [⟨"http", .TCP, 80, 30081⟩] }

/-- `EnsureLoadBalancer` of the first version runs to its end, the load balancer turning
    ready on the way. Then the service controller's `UpdateLoadBalancer` sees the second
    version and the resync worker's sees the first. The controller's creates the group
    for 30081, repoints the listener to it and lists the groups, in which the old group is
    unreferenced. The resync worker's runs to its end: it points the listener back to the
    old group and deletes the new one. Last, the controller's deletes the old group. -/
def raceLabels : List Label :=
  [.start ⟨configWithLabels [], webV1, .ensure [] []⟩] ++ List.replicate 9 (.step 0 {}) ++
    [.env (.provision (freshId 0) "ready" ["192.0.2.10"] ""), .step 0 {},
     .start ⟨configWithLabels [], webV2, .update [] []⟩,
     .start ⟨configWithLabels [], webV1, .update [] []⟩] ++
    List.replicate 7 (.step 1 {}) ++ List.replicate 8 (.step 2 {}) ++ [.step 1 {}]

/-- The system after those labels. -/
def raceRun : Sys := runLabels (Sys.init [⟨"subnet-1", "main"⟩]) raceLabels

/-- All three operations return without error, and the listener forwards to a target group
    that no longer exists. -/
theorem updateLoadBalancer_race_dangling_listener :
    serialRun (Sys.init [⟨"subnet-1", "main"⟩]) raceLabels = false ∧
    raceRun.threads.all Thread.succeeded = true ∧
    ∃ l ∈ raceRun.cloud.listeners, ∀ tg ∈ raceRun.cloud.targetGroups,
      tg.identity ≠ l.listener.targetGroup.identity := by
  set_option maxRecDepth 8000 in decide

end Engine
end ThalassaCcm
