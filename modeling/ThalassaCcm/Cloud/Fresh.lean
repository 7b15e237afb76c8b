import ThalassaCcm.Cloud.Prog

/-!
# What each call can change, and the cloud's identities

Two facts about the honest cloud that every argument about runs uses.

* **Frames.** A call changes only the collection it is about (`perform_loadbalancers`
  and its siblings): load balancers change only under the three load-balancer calls,
  security groups only under the three security-group calls, and so on;
  `DeleteLoadbalancer` also removes the load balancer's listeners. The cloud's own
  progress changes only a load balancer's status, addresses and hostname.
* **Fresh identities.** Every identity in the cloud was handed out by `freshId` below
  the counter, and no two objects of one kind share one (`State.Fresh`). The cloud keeps
  this whatever it is asked (`State.Fresh.perform`), so it holds in every state any run
  reaches from the empty VPC. It is what makes "the load balancer with this identity" a
  single object.
-/

set_option autoImplicit false

namespace ThalassaCcm
namespace Cloud

/-! ## 1. Which calls touch what -/

/-- What a call is about. -/
inductive CallKind where
  /-- A listing, or `GetVpc`: the call changes nothing. -/
  | read
  | loadbalancer
  | listener
  | targetGroup
  | securityGroup
  deriving DecidableEq, Repr

/-- What a call is about. -/
def Call.kind : Call → CallKind
  | .listLoadbalancers | .getVpc | .listListeners _ | .listTargetGroups _
  | .listSecurityGroups _ => .read
  | .createLoadbalancer _ | .updateLoadbalancer _ _ | .deleteLoadbalancer _ => .loadbalancer
  | .createListener _ _ | .updateListener _ _ _ | .deleteListener _ _ => .listener
  | .createTargetGroup _ | .updateTargetGroup _ _ | .deleteTargetGroup _
  | .setTargetGroupServerAttachments _ _ => .targetGroup
  | .createSecurityGroup _ | .updateSecurityGroup _ _ | .deleteSecurityGroup _ => .securityGroup

/-- A call of one of the kinds. -/
def KindIn (ks : List CallKind) (c : Call) : Prop := c.kind ∈ ks

instance (ks : List CallKind) : DecidablePred (KindIn ks) :=
  fun c => inferInstanceAs (Decidable (c.kind ∈ ks))

theorem KindIn.kind_ne {ks : List CallKind} {k : CallKind} {c : Call} (hk : k ∉ ks)
    (hc : KindIn ks c) : c.kind ≠ k := fun he => hk (he ▸ hc)

theorem AllCalls.kinds {α : Type} {ks ks' : List CallKind} {p : Prog α}
    (h : ∀ k ∈ ks, k ∈ ks') (hp : AllCalls (KindIn ks) p) : AllCalls (KindIn ks') p :=
  hp.mono fun _ hc => h _ hc

namespace State

variable (s : State) (c : Call)

theorem perform_subnets : (s.perform c).1.subnets = s.subnets := by
  cases c <;> dsimp only [perform] <;> (try split) <;> rfl

theorem perform_of_read (h : c.kind = .read) : (s.perform c).1 = s := by
  cases c <;> first | rfl | cases h

theorem perform_loadbalancers (h : c.kind ≠ .loadbalancer) :
    (s.perform c).1.loadbalancers = s.loadbalancers := by
  cases c <;> first | exact absurd rfl h | (simp only [perform] <;> (try split) <;> rfl)

/-- Listeners change under the listener calls, and when their load balancer is
    deleted. -/
theorem perform_listeners (h : c.kind ≠ .listener) (h' : c.kind ≠ .loadbalancer) :
    (s.perform c).1.listeners = s.listeners := by
  cases c <;> first | exact absurd rfl h | exact absurd rfl h' |
    (simp only [perform] <;> (try split) <;> rfl)

theorem perform_targetGroups (h : c.kind ≠ .targetGroup) :
    (s.perform c).1.targetGroups = s.targetGroups := by
  cases c <;> first | exact absurd rfl h | (simp only [perform] <;> (try split) <;> rfl)

theorem perform_securityGroups (h : c.kind ≠ .securityGroup) :
    (s.perform c).1.securityGroups = s.securityGroups := by
  cases c <;> first | exact absurd rfl h | (simp only [perform] <;> (try split) <;> rfl)

theorem le_perform_nextId : s.nextId ≤ (s.perform c).1.nextId := by
  cases c <;> dsimp only [perform] <;> (try split) <;> simp

/-- A call that fails before taking effect changes nothing; one that fails after, or
    succeeds, is the call. -/
theorem respond_state (f : Fault) :
    (s.respond c f).1 = s ∨ (s.respond c f).1 = (s.perform c).1 := by
  cases f <;> simp [respond]

/-- What holds before a call and after it took effect holds after it, whatever the
    fault. -/
theorem respond_of_perform {P : State → Prop} (h0 : P s) (h1 : P (s.perform c).1) (f : Fault) :
    P (s.respond c f).1 := by
  rcases respond_state s c f with h | h <;> rw [h] <;> assumption

/-- What the cloud's progress leaves alone. -/
@[simp] theorem applyEnv_listeners (e : EnvEvent) : (s.applyEnv e).listeners = s.listeners := by
  cases e; rfl
@[simp] theorem applyEnv_targetGroups (e : EnvEvent) :
    (s.applyEnv e).targetGroups = s.targetGroups := by cases e; rfl
@[simp] theorem applyEnv_securityGroups (e : EnvEvent) :
    (s.applyEnv e).securityGroups = s.securityGroups := by cases e; rfl
@[simp] theorem applyEnv_subnets (e : EnvEvent) : (s.applyEnv e).subnets = s.subnets := by
  cases e; rfl
@[simp] theorem applyEnv_nextId (e : EnvEvent) : (s.applyEnv e).nextId = s.nextId := by
  cases e; rfl

end State

/-! ## 2. Fresh identities -/

/-- Identities handed out below `n`, each at most once. -/
def FreshIds (ids : List String) (n : Nat) : Prop :=
  ids.Nodup ∧ ∀ i ∈ ids, ∃ m < n, i = freshId m

namespace FreshIds

variable {ids ids' : List String} {n : Nat}

theorem mono {n' : Nat} (h : FreshIds ids n) (hn : n ≤ n') : FreshIds ids n' :=
  ⟨h.1, fun i hi => let ⟨m, hm, he⟩ := h.2 i hi; ⟨m, by omega, he⟩⟩

theorem sublist (h : FreshIds ids n) (hs : ids'.Sublist ids) : FreshIds ids' n :=
  ⟨h.1.sublist hs, fun i hi => h.2 i (hs.subset hi)⟩

theorem not_mem (h : FreshIds ids n) : freshId n ∉ ids := fun hi =>
  let ⟨m, hm, he⟩ := h.2 _ hi
  absurd (freshId_injective he) (by omega)

theorem snoc (h : FreshIds ids n) : FreshIds (ids ++ [freshId n]) (n + 1) := by
  refine ⟨List.nodup_append.mpr ⟨h.1, List.nodup_singleton _, ?_⟩, fun i hi => ?_⟩
  · simpa [List.disjoint_singleton] using h.not_mem
  · rcases List.mem_append.mp hi with hi | hi
    · obtain ⟨m, hm, rfl⟩ := h.2 i hi
      exact ⟨m, by omega, rfl⟩
    · exact ⟨n, by omega, List.mem_singleton.mp hi⟩

end FreshIds

/-- The identities of a list after a map that keeps them. -/
theorem map_map_of_keeps {β : Type} {l : List β} {f : β → β} {g : β → String}
    (h : ∀ x ∈ l, g (f x) = g x) : (l.map f).map g = l.map g := by
  rw [List.map_map]; exact List.map_congr_left h

/-- The identities of a filtered list are a sublist of the identities. -/
theorem map_filter_sublist {β : Type} (l : List β) (p : β → Bool) (g : β → String) :
    ((l.filter p).map g).Sublist (l.map g) :=
  (List.filter_sublist l).map g

/-- Every identity in the cloud was handed out, and no two objects of one kind share
    one. -/
structure State.Fresh (s : State) : Prop where
  loadbalancers : FreshIds (s.loadbalancers.map (·.identity)) s.nextId
  listeners : FreshIds (s.listeners.map (·.listener.identity)) s.nextId
  targetGroups : FreshIds (s.targetGroups.map (·.identity)) s.nextId
  securityGroups : FreshIds (s.securityGroups.map (·.identity)) s.nextId

namespace State.Fresh

variable {s : State}

theorem empty (subnets : List Subnet) : (State.empty subnets).Fresh :=
  ⟨⟨List.nodup_nil, nofun⟩, ⟨List.nodup_nil, nofun⟩, ⟨List.nodup_nil, nofun⟩,
    ⟨List.nodup_nil, nofun⟩⟩

/-- A step that hands out the next identity, for whichever kind it creates. -/
theorem bump (h : s.Fresh) : FreshIds (s.loadbalancers.map (·.identity)) (s.nextId + 1) ∧
    FreshIds (s.listeners.map (·.listener.identity)) (s.nextId + 1) ∧
    FreshIds (s.targetGroups.map (·.identity)) (s.nextId + 1) ∧
    FreshIds (s.securityGroups.map (·.identity)) (s.nextId + 1) :=
  ⟨h.1.mono (by omega), h.2.mono (by omega), h.3.mono (by omega), h.4.mono (by omega)⟩

/-- **The cloud keeps its identities fresh**, whatever it is asked. -/
theorem perform (h : s.Fresh) (c : Call) : (s.perform c).1.Fresh := by
  obtain ⟨hl, hli, ht, hs⟩ := h.bump
  cases c with
  | createLoadbalancer req =>
    exact ⟨by simpa [State.perform] using h.1.snoc, hli, ht, hs⟩
  | updateLoadbalancer id req =>
    simp only [State.perform]; split
    · exact h
    · refine ⟨?_, h.2, h.3, h.4⟩
      rw [map_map_of_keeps fun x _ => by split <;> rfl]; exact h.1
  | deleteLoadbalancer id =>
    simp only [State.perform]; split
    · exact ⟨h.1.sublist (map_filter_sublist _ _ _), h.2.sublist (map_filter_sublist _ _ _),
        h.3, h.4⟩
    · exact h
  | createListener lbId req =>
    simp only [State.perform]; split
    · exact ⟨hl, by simpa [listenerOf] using h.2.snoc, ht, hs⟩
    · exact h
  | updateListener lbId id req =>
    simp only [State.perform]; split
    · refine ⟨h.1, ?_, h.3, h.4⟩
      rw [map_map_of_keeps fun r _ => by split <;> simp_all [listenerOf]]; exact h.2
    · exact h
  | deleteListener lbId id =>
    simp only [State.perform]; split
    · exact ⟨h.1, h.2.sublist (map_filter_sublist _ _ _), h.3, h.4⟩
    · exact h
  | createTargetGroup req =>
    exact ⟨hl, hli, by simpa [State.perform, targetGroupOf] using h.3.snoc, hs⟩
  | updateTargetGroup id req =>
    simp only [State.perform]; split
    · exact h
    · refine ⟨h.1, h.2, ?_, h.4⟩
      rw [map_map_of_keeps fun x _ => by split <;> simp_all [targetGroupOf]]
      exact h.3
  | deleteTargetGroup id =>
    simp only [State.perform]; split
    · exact ⟨h.1, h.2, h.3.sublist (map_filter_sublist _ _ _), h.4⟩
    · exact h
  | setTargetGroupServerAttachments id servers =>
    simp only [State.perform]; split
    · refine ⟨h.1, h.2, ?_, h.4⟩
      rw [map_map_of_keeps fun x _ => by split <;> rfl]; exact h.3
    · exact h
  | createSecurityGroup req =>
    exact ⟨hl, hli, ht, by simpa [State.perform, securityGroupOf] using h.4.snoc⟩
  | updateSecurityGroup id req =>
    simp only [State.perform]; split
    · refine ⟨h.1, h.2, h.3, ?_⟩
      rw [map_map_of_keeps fun x _ => by split <;> simp_all [securityGroupOf]]
      exact h.4
    · exact h
  | deleteSecurityGroup id =>
    simp only [State.perform]; split
    · exact ⟨h.1, h.2, h.3, h.4.sublist (map_filter_sublist _ _ _)⟩
    · exact h
  | listLoadbalancers | getVpc | listListeners _ | listTargetGroups _
  | listSecurityGroups _ => exact h

theorem applyEnv (h : s.Fresh) (e : EnvEvent) : (s.applyEnv e).Fresh := by
  cases e
  refine ⟨?_, h.2, h.3, h.4⟩
  simp only [State.applyEnv]
  rw [map_map_of_keeps fun x _ => by split <;> rfl]; exact h.1

theorem respond (h : s.Fresh) (c : Call) (f : Fault) : (s.respond c f).1.Fresh :=
  State.respond_of_perform s c h (h.perform c) f

end State.Fresh

end Cloud
end ThalassaCcm
