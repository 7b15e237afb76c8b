import ThalassaCcm.Proof.Threads
import ThalassaCcm.Proof.Uniqueness

/-!
# Ownership: an operation touches only its Service's objects

Every object the controller creates for a Service carries the Service's UID label, and
its load balancer is named after that UID (`LbNamed`). An operation for `svc` changes or
deletes only objects it reached through `svc`'s label selector, through a creation of its
own, or through the lookup's fallback by name (`Own`): target groups and security groups
with `svc`'s UID, and load balancers, with their listeners, whose UID gives `svc`'s
name. A UID label never changes, a load balancer's name and labels are only written back
as they were read (`Known`), and identities are never reused: so what an operation
learned about an identity survives the calls of every other operation, whichever Service
they are for and however they interleave.

Two Services whose names differ therefore never touch each other's objects
(`ownedBy_respond_of_own`), along every interleaving from an empty VPC
(`interleaving_respects_ownership`). Names differ unless the UIDs agree on their first 31
characters without dashes; where they agree, one Service's deletion removes the other's
load balancer (`ensureLoadBalancerDeleted_name_collision`).
-/

set_option autoImplicit false

namespace ThalassaCcm
namespace Engine

open Cloud Prog StrMap

/-! ## 1. Who owns what -/

/-- A load balancer named after the UID it is labelled with. -/
def LbNamed (x : VpcLoadbalancer) : Prop :=
  x.name = defaultLoadBalancerName (x.labels.get labelKubernetesServiceUID)

/-- The cloud's identities are fresh, and every load balancer is named after its UID. -/
structure OwnInv (s : State) : Prop where
  fresh : s.Fresh
  named : ∀ x ∈ s.loadbalancers, LbNamed x

/-- `x`'s UID gives `svc`'s name: the lookup for `svc` may return `x`. -/
def LbFor (svc : Service) (x : VpcLoadbalancer) : Prop :=
  defaultLoadBalancerName (x.labels.get labelKubernetesServiceUID) = getLoadBalancerName svc

/-- Every load balancer with the identity may be `svc`'s. -/
def LbIdFor (svc : Service) (id : String) (s : State) : Prop :=
  ∀ x ∈ s.loadbalancers, x.identity = id → LbFor svc x

/-- The identity was handed out. -/
def Issued (id : String) (s : State) : Prop := ∃ m < s.nextId, id = freshId m

/-- The identity was handed out, and every target group with it has the UID `u`. -/
def TgIdOf (u id : String) (s : State) : Prop :=
  Issued id s ∧ ∀ tg ∈ s.targetGroups, tg.identity = id → tg.labels.get labelKubernetesServiceUID = u

/-- The identity was handed out, and every security group with it has the UID `u`. -/
def SgIdOf (u id : String) (s : State) : Prop :=
  Issued id s ∧
    ∀ sg ∈ s.securityGroups, sg.identity = id → sg.labels.get labelKubernetesServiceUID = u

/-- The calls an operation for `svc` may make: it creates objects with `svc`'s UID (a
    load balancer also with `svc`'s name), writes a load balancer back as it knows it,
    and changes or deletes only target groups and security groups with `svc`'s UID and
    load balancers, or their listeners, that may be `svc`'s. -/
def Own (svc : Service) (s : State) : Call → Prop
  | .createLoadbalancer req =>
    req.labels.get labelKubernetesServiceUID = svc.uid ∧ req.name = getLoadBalancerName svc
  | .updateLoadbalancer id req =>
    ∃ x, Known x s ∧ LbFor svc x ∧ WritesBack x (.updateLoadbalancer id req)
  | .deleteLoadbalancer id | .createListener id _ | .updateListener id _ _
  | .deleteListener id _ => LbIdFor svc id s
  | .createTargetGroup req | .createSecurityGroup req =>
    req.labels.get labelKubernetesServiceUID = svc.uid
  | .updateTargetGroup id req =>
    TgIdOf svc.uid id s ∧ req.labels.get labelKubernetesServiceUID = svc.uid
  | .deleteTargetGroup id | .setTargetGroupServerAttachments id _ => TgIdOf svc.uid id s
  | .updateSecurityGroup id req =>
    SgIdOf svc.uid id s ∧ req.labels.get labelKubernetesServiceUID = svc.uid
  | .deleteSecurityGroup id => SgIdOf svc.uid id s
  | .listLoadbalancers | .getVpc | .listListeners _ | .listTargetGroups _
  | .listSecurityGroups _ => True

/-- What an operation for `svc` puts up with: the cloud's progress, and the calls of every
    operation, its own Service's included, each as `Own` allows. -/
def OwnRely (svc : Service) : State → State → Prop :=
  Rely OwnInv Own (fun _ _ => True) svc

/-! ## 2. What survives a call -/

section Survival

variable {s : State} {svc : Service} {c : Call}

theorem Issued.mono {id : String} {s' : State} (h : Issued id s) (hn : s.nextId ≤ s'.nextId) :
    Issued id s' :=
  let ⟨m, hm, he⟩ := h
  ⟨m, by omega, he⟩

theorem Issued.ne_fresh {id : String} (h : Issued id s) : id ≠ freshId s.nextId := by
  obtain ⟨m, hm, rfl⟩ := h
  exact fun he => absurd (freshId_injective he) (by omega)

/-- A call answered without error is the honest cloud's answer. -/
theorem respond_eq_perform {f : Fault} {v : Resp c} (h : (s.respond c f).2 = .ok v) :
    s.respond c f = s.perform c := by
  cases f <;> simp_all [State.respond]

theorem lbNamed_of_keys {s' : State} (h : ∀ x ∈ s.loadbalancers, LbNamed x)
    (hk : loadbalancerKeys s' = loadbalancerKeys s) : ∀ x ∈ s'.loadbalancers, LbNamed x :=
  fun x hx => by
    obtain ⟨y, hy, -, hn, hl⟩ := exists_of_loadbalancerKeys_eq hk hx
    rw [LbNamed, ← hn, ← hl]
    exact h y hy

theorem Known.of_keys {x : VpcLoadbalancer} {s' : State} (h : Known x s)
    (hk : loadbalancerKeys s' = loadbalancerKeys s) (hn : s.nextId ≤ s'.nextId) : Known x s' where
  issued := Issued.mono h.issued hn
  agrees := fun y hy he => by
    obtain ⟨y₀, hy₀, hi, hn, hl⟩ := exists_of_loadbalancerKeys_eq hk hy
    rw [← hn, ← hl]
    exact h.agrees y₀ hy₀ (hi.trans he)

/-- An owned call leaves the keys of the load balancers as they were, but for a creation
    or a deletion. -/
theorem loadbalancerKeys_perform_of_own (hc : Own svc s c)
    (hcreate : ∀ req, c ≠ .createLoadbalancer req) (hdelete : ∀ id, c ≠ .deleteLoadbalancer id) :
    loadbalancerKeys (s.perform c).1 = loadbalancerKeys s := by
  by_cases hkind : c.kind = .loadbalancer
  · cases c <;> simp only [Call.kind, reduceCtorEq] at hkind
    · exact absurd rfl (hcreate _)
    · obtain ⟨x, hx, -, hw⟩ := hc
      exact perform_loadbalancerKeys_writeBack hx hw
    · exact absurd rfl (hdelete _)
  · exact loadbalancerKeys_perform s hkind

theorem OwnInv.applyEnv (h : OwnInv s) (e : EnvEvent) : OwnInv (s.applyEnv e) :=
  ⟨h.fresh.applyEnv e, lbNamed_of_keys h.named (loadbalancerKeys_applyEnv s e)⟩

theorem OwnInv.perform (h : OwnInv s) (hc : Own svc s c) : OwnInv (s.perform c).1 := by
  refine ⟨h.fresh.perform c, ?_⟩
  cases c
  case createLoadbalancer req =>
    intro x hx
    simp only [State.perform, List.mem_append, List.mem_singleton] at hx
    rcases hx with hx | rfl
    · exact h.named x hx
    · simp only [LbNamed, hc.1, hc.2, getLoadBalancerName]
  case deleteLoadbalancer id =>
    simp only [State.perform]
    split
    · exact fun x hx => h.named x (List.mem_filter.mp hx).1
    · exact h.named
  all_goals
    exact lbNamed_of_keys h.named
      (loadbalancerKeys_perform_of_own hc (fun _ => nofun) fun _ => nofun)

theorem OwnInv.respond (h : OwnInv s) (hc : Own svc s c) (f : Fault) :
    OwnInv (s.respond c f).1 :=
  State.respond_of_perform s c h (h.perform hc) f

theorem Known.perform_of_own {x : VpcLoadbalancer} (h : Known x s) (hc : Own svc s c) :
    Known x (s.perform c).1 := by
  cases c
  case updateLoadbalancer id req =>
    exact h.of_keys
      (loadbalancerKeys_perform_of_own hc (fun _ => nofun) fun _ => nofun)
      (s.le_perform_nextId _)
  all_goals exact h.perform (.inl fun _ _ => nofun)

/-- A call keeps what is known of a target-group identity, unless it rewrites the group
    with another UID. -/
theorem TgIdOf.perform_of_tg {u id : String} (h : TgIdOf u id s)
    (hupd : ∀ id' req, c = .updateTargetGroup id' req → id' = id →
      id ∈ s.targetGroups.map (·.identity) → req.labels.get labelKubernetesServiceUID = u) :
    TgIdOf u id (s.perform c).1 := by
  refine ⟨h.1.mono (s.le_perform_nextId c), ?_⟩
  by_cases hkind : c.kind = .targetGroup
  swap
  · rw [State.perform_targetGroups s c hkind]; exact h.2
  cases c <;> simp only [Call.kind, reduceCtorEq] at hkind
  next req =>
    intro tg htg he
    simp only [State.perform, List.mem_append, List.mem_singleton] at htg
    rcases htg with htg | rfl
    · exact h.2 tg htg he
    · exact absurd he.symm h.1.ne_fresh
  next id' req =>
    simp only [State.perform]
    split
    · exact h.2
    intro tg htg he
    obtain ⟨tg', htg', rfl⟩ := List.mem_map.mp htg
    by_cases hid : tg'.identity = id'
    · rw [if_pos hid] at he ⊢
      exact hupd id' req rfl he (List.mem_map.mpr ⟨tg', htg', hid.trans he⟩)
    · rw [if_neg hid] at he ⊢; exact h.2 tg' htg' he
  next id' =>
    simp only [State.perform]
    split
    · exact fun tg htg => h.2 tg (List.mem_filter.mp htg).1
    · exact h.2
  next id' servers =>
    simp only [State.perform]
    split
    · intro tg htg he
      obtain ⟨tg', htg', rfl⟩ := List.mem_map.mp htg
      by_cases hid : tg'.identity = id'
      · rw [if_pos hid] at he ⊢; exact h.2 tg' htg' he
      · rw [if_neg hid] at he ⊢; exact h.2 tg' htg' he
    · exact h.2

theorem TgIdOf.perform_of_own {u id : String} (h : TgIdOf u id s) (hc : Own svc s c) :
    TgIdOf u id (s.perform c).1 :=
  h.perform_of_tg fun id' req he hid hmem => by
    subst he hid
    obtain ⟨tg, htg, hid⟩ := List.mem_map.mp hmem
    rw [hc.2, ← hc.1.2 tg htg hid]
    exact h.2 tg htg hid

theorem SgIdOf.perform_of_own {u id : String} (h : SgIdOf u id s) (hc : Own svc s c) :
    SgIdOf u id (s.perform c).1 := by
  refine ⟨h.1.mono (s.le_perform_nextId c), ?_⟩
  by_cases hkind : c.kind = .securityGroup
  swap
  · rw [State.perform_securityGroups s c hkind]; exact h.2
  cases c <;> simp only [Call.kind, reduceCtorEq] at hkind
  next req =>
    intro sg hsg he
    simp only [State.perform, List.mem_append, List.mem_singleton] at hsg
    rcases hsg with hsg | rfl
    · exact h.2 sg hsg he
    · exact absurd he.symm h.1.ne_fresh
  next id' req =>
    simp only [State.perform]
    split
    · next hany =>
      obtain ⟨sg₀, hsg₀, hid₀⟩ := List.any_eq_true.mp hany
      intro sg hsg he
      obtain ⟨sg', hsg', rfl⟩ := List.mem_map.mp hsg
      by_cases hid : sg'.identity = id'
      · rw [if_pos hid] at he ⊢
        show req.labels.get labelKubernetesServiceUID = u
        rw [hc.2, ← hc.1.2 sg₀ hsg₀ (of_decide_eq_true hid₀)]
        exact h.2 sg₀ hsg₀ ((of_decide_eq_true hid₀).trans he)
      · rw [if_neg hid] at he ⊢; exact h.2 sg' hsg' he
    · exact h.2
  next id' =>
    simp only [State.perform]
    split
    · exact fun sg hsg => h.2 sg (List.mem_filter.mp hsg).1
    · exact h.2

end Survival

/-! ## 3. What an operation knows survives the others -/

section Stability

variable {svc : Service}

theorem ownRely_stable {K : State → Prop} (henv : ∀ s e, OwnInv s → K s → K (s.applyEnv e))
    (hcall : ∀ svc' s c f, OwnInv s → Own svc' s c → K s → K (s.respond c f).1) :
    Stable (OwnRely svc) K := by
  rintro s s' ⟨hs, ⟨e, rfl⟩ | ⟨svc', c, f, -, hc, rfl⟩⟩ hK
  · exact henv s e hs hK
  · exact hcall svc' s c f hs hc hK

/-- An operation's own call is a step the others put up with too. -/
theorem ownRely_of_own {s : State} {svc' : Service} {c : Call} (hs : OwnInv s)
    (hc : Own svc' s c) (f : Fault) : OwnRely svc s (s.respond c f).1 :=
  ⟨hs, .inr ⟨svc', c, f, trivial, hc, rfl⟩⟩

theorem OwnInv.stable : Stable (OwnRely svc) OwnInv :=
  ownRely_stable (fun _ e _ h => h.applyEnv e) fun _ _ _ f _ hc h => h.respond hc f

theorem Known.stable (x : VpcLoadbalancer) : Stable (OwnRely svc) (Known x) :=
  ownRely_stable (fun _ e _ h => h.applyEnv e) fun _ s c f _ hc h =>
    State.respond_of_perform s c h (h.perform_of_own hc) f

theorem TgIdOf.stable (u id : String) : Stable (OwnRely svc) (TgIdOf u id) :=
  ownRely_stable (fun s e _ h => by simpa [TgIdOf, Issued] using h) fun _ s c f _ hc h =>
    State.respond_of_perform s c h (h.perform_of_own hc) f

theorem SgIdOf.stable (u id : String) : Stable (OwnRely svc) (SgIdOf u id) :=
  ownRely_stable (fun s e _ h => by simpa [SgIdOf, Issued] using h) fun _ s c f _ hc h =>
    State.respond_of_perform s c h (h.perform_of_own hc) f

/-- What an operation knows of its load balancer `x`. -/
theorem knownFor_stable (x : VpcLoadbalancer) :
    Stable (OwnRely svc) fun s => OwnInv s ∧ Known x s ∧ LbFor svc x :=
  OwnInv.stable.and ((Known.stable x).and (Stable.const _ _))

/-- Knowledge the others keep is kept along an operation, whose own calls they would put
    up with. -/
theorem Safe.frame_own {α : Type} {Q : α → State → Prop} {P K : State → Prop} {p : Prog α}
    (hK : Stable (OwnRely svc) K) (hP : ∀ s, P s → OwnInv s)
    (h : Safe (OwnRely svc) (Own svc) Q (fun _ => OwnInv) P p) :
    Safe (OwnRely svc) (Own svc) (fun a s => Q a s ∧ K s) (fun _ => OwnInv)
      (fun s => P s ∧ K s) p :=
  ((h.frame_of_guar (OwnInv.stable.and hK) fun _ _ f hc hK' =>
    ⟨hK'.1.respond hc f, hK _ _ (ownRely_of_own hK'.1 hc f) hK'.2⟩).pre
      fun s hs => ⟨hs.1, hP s hs.1, hs.2⟩).post (fun _ _ h => ⟨h.1, h.2.2⟩) fun _ _ h => h.1

end Stability

/-! ## 4. The answers of the listings -/

section Answers

variable {s : State} {c : Call} {f : Fault}

theorem Known.lbIdFor {svc : Service} {x : VpcLoadbalancer} (hk : Known x s) (hx : LbFor svc x) :
    LbIdFor svc x.identity s :=
  fun y hy he => by rw [LbFor, (hk.agrees y hy he).2]; exact hx

theorem tgIdOf_of_mem (hf : s.Fresh) {tg : VpcLoadbalancerTargetGroup} (htg : tg ∈ s.targetGroups) :
    TgIdOf (tg.labels.get labelKubernetesServiceUID) tg.identity s :=
  ⟨hf.targetGroups.2 _ (List.mem_map_of_mem _ htg), fun tg' htg' he => by
    rw [List.inj_on_of_nodup_map hf.targetGroups.1 htg' htg he]⟩

theorem sgIdOf_of_mem (hf : s.Fresh) {sg : SecurityGroup} (hsg : sg ∈ s.securityGroups) :
    SgIdOf (sg.labels.get labelKubernetesServiceUID) sg.identity s :=
  ⟨hf.securityGroups.2 _ (List.mem_map_of_mem _ hsg), fun sg' hsg' he => by
    rw [List.inj_on_of_nodup_map hf.securityGroups.1 hsg' hsg he]⟩

/-- A listing answered without error changed nothing and answered from the cloud. -/
theorem respond_read {v : Resp c} (h : (s.respond c f).2 = .ok v) (hk : c.kind = .read) :
    (s.respond c f).1 = s ∧ (s.perform c).2 = .ok v := by
  have he := respond_eq_perform h
  rw [he] at h ⊢
  exact ⟨State.perform_of_read s c hk, h⟩

theorem own_of_read {svc : Service} (hk : c.kind = .read) : Own svc s c := by
  cases c <;> trivial

/-- A listing keeps the invariant, whatever its answer. -/
theorem OwnInv.respond_read (h : OwnInv s) (hk : c.kind = .read) : OwnInv (s.respond c f).1 :=
  State.respond_of_perform s c h (by rw [State.perform_of_read s c hk]; exact h) f

end Answers

/-! ## 5. Calls under an invariant -/

section Calls

variable {svc : Service} {K : State → Prop}

/-- One owned call, under knowledge the others keep: the call keeps it too. -/
theorem own_api_inv (c : Call) (hK : Stable (OwnRely svc) K) (hinv : ∀ s, K s → OwnInv s)
    (hc : ∀ s, K s → Own svc s c) :
    Safe (OwnRely svc) (Own svc) (fun _ => K) (fun _ => OwnInv) K (api c) :=
  (Safe.api_inv hK (fun s f hs => hK _ _ (ownRely_of_own (hinv s hs) (hc s hs) f) hs) hc).post
    (fun _ _ h => h) fun _ s h => hinv s h

theorem own_attempt_inv (c : Call) (hK : Stable (OwnRely svc) K) (hinv : ∀ s, K s → OwnInv s)
    (hc : ∀ s, K s → Own svc s c) :
    Safe (OwnRely svc) (Own svc) (fun _ => K) (fun _ => OwnInv) K (attempt c) :=
  Safe.attempt hc fun s f hs => ⟨hK, hK _ _ (ownRely_of_own (hinv s hs) (hc s hs) f) hs⟩

/-- A program whose every call `Qc` allows, under knowledge that the others keep and that
    makes those calls owned. -/
theorem own_of_allCalls {α : Type} {p : Prog α} {Qc : Call → Prop} (hp : AllCalls Qc p)
    (hK : Stable (OwnRely svc) K) (hinv : ∀ s, K s → OwnInv s)
    (hc : ∀ s c, Qc c → K s → Own svc s c) :
    Safe (OwnRely svc) (Own svc) (fun _ => K) (fun _ => OwnInv) K p :=
  (Safe.of_allCalls hp hK
    (fun s c f hq hs => hK _ _ (ownRely_of_own (hinv s hs) (hc s c hq hs) f) hs) hc).post
      (fun _ _ h => h) fun _ s h => hinv s h

/-- A program that only lists. -/
theorem own_of_reads {α : Type} {p : Prog α} (hp : AllCalls (KindIn [.read]) p) :
    Safe (OwnRely svc) (Own svc) (fun _ => OwnInv) (fun _ => OwnInv) OwnInv p :=
  own_of_allCalls hp OwnInv.stable (fun _ h => h) fun _ _ hc _ =>
    own_of_read (List.mem_singleton.mp hc)

end Calls

/-! ## 6. The lookup, the security groups and the creation -/

section Lookup

variable (lb : Loadbalancer) (svc : Service)

/-- The lookup's choice may be `svc`'s: found by labels it carries `svc`'s UID, found by
    name it is named as `svc`'s, so labelled with a UID of that name. -/
theorem lbFor_of_findVpcLoadbalancer {lbs : List VpcLoadbalancer} {x : VpcLoadbalancer}
    (hx : findVpcLoadbalancer lb svc lbs = some x) (hn : LbNamed x) : LbFor svc x := by
  unfold findVpcLoadbalancer at hx
  split at hx
  · cases hx
  · split at hx
    · rename_i y hy
      obtain rfl : y = x := Option.some.inj hx
      have hm : matchLabels (getLabelsForVpcLoadbalancer lb svc) y.labels = true := by
        simpa using List.find?_some hy
      rw [LbFor, get_uid_of_matchLabels hm]; rfl
    · have hname : x.name = getLoadBalancerName svc := by simpa using List.find?_some hx
      rw [LbFor, ← hn, hname]

theorem own_fetchVpcLoadbalancerFromCloud :
    Safe (OwnRely svc) (Own svc)
      (fun r s => OwnInv s ∧ ∀ x, r = some x → Known x s ∧ LbFor svc x)
      (fun _ => OwnInv) OwnInv (fetchVpcLoadbalancerFromCloud lb svc) := by
  have hlist : Safe (OwnRely svc) (Own svc)
      (fun (lbs : List VpcLoadbalancer) s => OwnInv s ∧ ∀ x ∈ lbs, Known x s ∧ LbNamed x)
      (fun _ => OwnInv) OwnInv
      (api .listLoadbalancers) := by
    refine Safe.api .listLoadbalancers (fun _ _ => trivial) (fun s f v hs hr => ⟨OwnInv.stable.and
      (Stable.forall_mem v fun x => (Known.stable x).and (Stable.const _ _)), ?_⟩)
      fun s f e hs _ => ⟨OwnInv.stable, hs.respond_read rfl⟩
    obtain ⟨h1, h2⟩ := respond_read hr rfl
    simp only [State.perform, Except.ok.injEq] at h2
    subst h2
    rw [h1]
    exact ⟨hs, fun x hx => ⟨Known.of_mem hs.fresh hx, hs.named x hx⟩⟩
  exact hlist.bind fun lbs => .ret fun s hs => ⟨hs.1, fun x hx =>
    have hm := hs.2 x (mem_of_findVpcLoadbalancer_eq_some hx)
    ⟨hm.1, lbFor_of_findVpcLoadbalancer lb svc hx hm.2⟩⟩

theorem own_findManagedSecurityGroup :
    Safe (OwnRely svc) (Own svc)
      (fun r s => OwnInv s ∧ ∀ sg, r = some sg → SgIdOf svc.uid sg.identity s)
      (fun _ => OwnInv) OwnInv (findManagedSecurityGroup lb svc) := by
  have hlist : Safe (OwnRely svc) (Own svc)
      (fun (sgs : List SecurityGroup) s => OwnInv s ∧ ∀ sg ∈ sgs, SgIdOf svc.uid sg.identity s)
      (fun _ => OwnInv) OwnInv
      (api (.listSecurityGroups (some (getLabelsForVpcLoadbalancer lb svc)))) := by
    refine Safe.api (.listSecurityGroups (some (getLabelsForVpcLoadbalancer lb svc)))
      (fun _ _ => trivial) (fun s f v hs hr => ⟨OwnInv.stable.and
        (Stable.forall_mem v fun sg => SgIdOf.stable _ _), ?_⟩)
      fun s f e hs _ => ⟨OwnInv.stable, hs.respond_read rfl⟩
    obtain ⟨h1, h2⟩ := respond_read hr rfl
    simp only [State.perform, Except.ok.injEq] at h2
    subst h2
    rw [h1]
    refine ⟨hs, fun sg hsg => ?_⟩
    obtain ⟨hmem, hm⟩ := List.mem_filter.mp hsg
    rw [← get_uid_of_matchLabels hm]
    exact sgIdOf_of_mem hs.fresh hmem
  exact (Safe.wrap_inv hlist).bind fun sgs => .ret fun s hs =>
    ⟨hs.1, fun sg hsg => hs.2 sg (List.mem_of_find?_eq_some hsg)⟩

theorem own_ensureManagedSecurityGroup (ls : List VpcLoadbalancerListener) :
    Safe (OwnRely svc) (Own svc) (fun _ => OwnInv) (fun _ => OwnInv) OwnInv
      (ensureManagedSecurityGroup lb svc ls) := by
  refine (Safe.wrap_inv (own_findManagedSecurityGroup lb svc)).bind fun sg => ?_
  have huid := get_uid_getLabelsForVpcLoadbalancer lb svc
  cases sg with
  | none =>
    refine Safe.wrap_inv ((own_api_inv (.createSecurityGroup _) OwnInv.stable (fun _ h => h)
      fun _ _ => ?_).pre
      fun s hs => ?_)
    exacts [huid, hs.1]
  | some sg =>
    refine Safe.wrap_inv (((own_api_inv (.updateSecurityGroup _ _)
      (OwnInv.stable.and (SgIdOf.stable svc.uid sg.identity))
      (fun _ h => h.1) fun _ h => ?_).pre fun s hs => ?_).post
      (fun _ _ h => h.1) fun _ _ h => h)
    exacts [⟨h.2, huid⟩, ⟨hs.1, hs.2 sg rfl⟩]

theorem own_deleteManagedSecurityGroup :
    Safe (OwnRely svc) (Own svc) (fun _ => OwnInv) (fun _ => OwnInv) OwnInv
      (deleteManagedSecurityGroup lb svc) := by
  have hres : Safe (OwnRely svc) (Own svc)
      (fun r s => OwnInv s ∧ ∀ sg, r = .ok (some sg) → SgIdOf svc.uid sg.identity s)
      (fun _ => OwnInv) OwnInv (findManagedSecurityGroup lb svc).result :=
    Safe.result ((own_findManagedSecurityGroup lb svc).post
      (fun _ _ h => ⟨h.1, fun sg he => h.2 sg (by cases he; rfl)⟩)
      fun f _ h => by cases f <;> first | exact h | exact ⟨h, fun _ he => by cases he⟩)
  refine hres.bind fun r => ?_
  rcases r with e | (_ | sg)
  · exact .ret fun _ h => h.1
  · exact .ret fun _ h => h.1
  · refine Safe.bind (((own_attempt_inv (.deleteSecurityGroup _)
      (OwnInv.stable.and (SgIdOf.stable svc.uid sg.identity))
      (fun _ h => h.1) fun _ h => ?_).pre fun s hs => ?_).post
      (fun _ _ h => h.1) fun _ _ h => h) fun _ => .ret fun _ h => h
    exacts [h.2, ⟨hs.1, hs.2 sg rfl⟩]

theorem own_createVpcLoadbalancerRequest (n : String) :
    Safe (OwnRely svc) (Own svc)
      (fun req s => OwnInv s ∧ req.name = n ∧ req.labels = getLabelsForVpcLoadbalancer lb svc)
      (fun _ => OwnInv) OwnInv (createVpcLoadbalancerRequest lb n svc) := by
  simp only [createVpcLoadbalancerRequest, bind_eq, pure_eq, ret_bind, throw_bind]
  refine (Safe.wrap_inv (own_api_inv .getVpc OwnInv.stable (fun _ h => h) fun _ _ => trivial)).bind
    fun vpc => ?_
  split
  · exact Safe.throw fun _ h => h
  split
  · exact Safe.throw fun _ h => h
  refine (Safe.wrap_inv (own_of_reads (calls_verifySecurityGroupsExist lb _))).bind fun _ => ?_
  exact Safe.ite (fun _ => (own_ensureManagedSecurityGroup lb svc _).bind fun _ =>
    .ret fun _ h => ⟨h, rfl, rfl⟩) fun _ => .ret fun _ h => ⟨h, rfl, rfl⟩

theorem own_createVpcLoadbalancer :
    Safe (OwnRely svc) (Own svc) (fun x s => OwnInv s ∧ Known x s ∧ LbFor svc x)
      (fun _ => OwnInv) OwnInv (createVpcLoadbalancer lb (getLoadBalancerName svc) svc) := by
  refine (own_createVpcLoadbalancerRequest lb svc _).bind fun req => ?_
  have hG : ∀ s, (OwnInv s ∧ req.name = getLoadBalancerName svc ∧
      req.labels = getLabelsForVpcLoadbalancer lb svc) → Own svc s (.createLoadbalancer req) :=
    fun s hs => ⟨by rw [hs.2.2]; exact get_uid_getLabelsForVpcLoadbalancer lb svc, hs.2.1⟩
  refine Safe.api (.createLoadbalancer req) hG (fun s f v hs hr => ⟨knownFor_stable v, ?_⟩)
    fun s f e hs _ => ⟨OwnInv.stable, hs.1.respond (hG s hs) f⟩
  have hinv := hs.1.respond (hG s hs) f
  have he := respond_eq_perform hr
  rw [he] at hr hinv ⊢
  simp only [State.perform, Except.ok.injEq] at hr
  subst hr
  refine ⟨hinv, Known.of_mem hinv.fresh (by simp [State.perform]), ?_⟩
  show defaultLoadBalancerName (req.labels.get labelKubernetesServiceUID) = _
  rw [hs.2.2, get_uid_getLabelsForVpcLoadbalancer]; rfl

end Lookup

/-! ## 7. Target groups -/

section TargetGroups

variable (lb : Loadbalancer) (svc : Service) (nodes : List Node)

/-- A created target group is in the cloud, with the identity's UID the request's. -/
theorem tgIdOf_created {s : State} (hf : s.Fresh) {req : TargetGroupRequest} {f : Fault}
    {tg : VpcLoadbalancerTargetGroup}
    (h : (s.respond (.createTargetGroup req) f).2 = .ok (some tg)) :
    TgIdOf (req.labels.get labelKubernetesServiceUID) tg.identity
      (s.respond (.createTargetGroup req) f).1 ∧
    tg ∈ (s.respond (.createTargetGroup req) f).1.targetGroups := by
  have he := respond_eq_perform h
  rw [he] at h ⊢
  simp only [State.perform, Except.ok.injEq] at h
  cases h
  have hmem := List.mem_append_right s.targetGroups (List.mem_singleton_self
    (State.targetGroupOf (freshId s.nextId) [] req))
  exact ⟨tgIdOf_of_mem (hf.perform _) hmem, hmem⟩

/-- An updated target group keeps its identity and is in the cloud as returned. -/
theorem identity_of_updateTargetGroup {s : State} {id : String} {req : TargetGroupRequest}
    {f : Fault} {tg : VpcLoadbalancerTargetGroup}
    (h : (s.respond (.updateTargetGroup id req) f).2 = .ok (some tg)) :
    tg.identity = id ∧ tg ∈ (s.respond (.updateTargetGroup id req) f).1.targetGroups := by
  have he := respond_eq_perform h
  rw [he] at h ⊢
  simp only [State.perform] at h ⊢
  split at h
  · cases h
  next tg₀ hfind =>
    simp only [Except.ok.injEq] at h
    cases h
    refine ⟨rfl, List.mem_map.mpr ⟨tg₀, List.mem_of_find?_eq_some hfind, ?_⟩⟩
    rw [if_pos (by simpa using List.find?_some hfind)]

/-- The desired target groups carry the Service's UID: the port labels are only added
    where the key is absent. -/
theorem get_uid_of_getDesiredVpcLoadbalancerTargetGroups {tgs : List VpcLoadbalancerTargetGroup}
    (h : getDesiredVpcLoadbalancerTargetGroups lb svc = .ok tgs) :
    ∀ tg ∈ tgs, tg.labels.get labelKubernetesServiceUID = svc.uid := by
  unfold getDesiredVpcLoadbalancerTargetGroups at h
  split at h
  · cases h
  · cases h
    simp only [List.mem_map]
    rintro _ ⟨p, -, rfl⟩
    exact get_uid_of_matchLabels (matchLabels_getLabelsForVpcLoadbalancerTargetGroup lb svc _ _)

theorem mem_of_lastWithKey {desired : List VpcLoadbalancerTargetGroup} {key : String × Nat}
    {tg : VpcLoadbalancerTargetGroup} (h : lastWithKey desired key = some tg) : tg ∈ desired :=
  (List.mem_filter.mp (List.mem_of_getLast?_eq_some h)).1

/-- What a listing of the Service's target groups answers: each group is the Service's and
    is in the cloud, and a group listed without listeners has none. -/
theorem listTargetGroups_spec {s : State} (hf : s.Fresh) {tgs : List VpcLoadbalancerTargetGroup}
    (h : (s.perform (.listTargetGroups (getLabelsForVpcLoadbalancer lb svc))).2 = .ok tgs) :
    ∀ tg ∈ tgs, TgIdOf svc.uid tg.identity s ∧ tg.identity ∈ s.targetGroups.map (·.identity) ∧
      (tg.loadbalancerListeners = [] →
        ∀ l ∈ s.listeners, l.listener.targetGroup.identity ≠ tg.identity) := by
  simp only [State.perform, Except.ok.injEq] at h
  subst h
  intro tg htg
  obtain ⟨x, hx, rfl⟩ := List.mem_map.mp htg
  obtain ⟨hmem, hm⟩ := List.mem_filter.mp hx
  refine ⟨?_, List.mem_map.mpr ⟨x, hmem, rfl⟩, fun he l hl hid => ?_⟩
  · rw [← get_uid_of_matchLabels hm]
    exact tgIdOf_of_mem hf hmem
  · simp only [State.referencingListeners, List.map_eq_nil_iff, List.filter_eq_nil_iff,
      decide_eq_true_eq] at he
    exact he l hl hid

/-- Listing the Service's target groups: each listed group is the Service's. -/
theorem own_listTargetGroups :
    Safe (OwnRely svc) (Own svc)
      (fun (tgs : List VpcLoadbalancerTargetGroup) s =>
        OwnInv s ∧ ∀ tg ∈ tgs, TgIdOf svc.uid tg.identity s)
      (fun _ => OwnInv) OwnInv (api (.listTargetGroups (getLabelsForVpcLoadbalancer lb svc))) := by
  refine Safe.api (.listTargetGroups _) (fun _ _ => trivial) (fun s f v hs hr => ⟨OwnInv.stable.and
    (Stable.forall_mem v fun tg => TgIdOf.stable _ _), ?_⟩)
    fun s f e hs _ => ⟨OwnInv.stable, hs.respond_read rfl⟩
  obtain ⟨h1, h2⟩ := respond_read hr rfl
  rw [h1]
  exact ⟨hs, fun tg htg => (listTargetGroups_spec lb svc hs.fresh h2 tg htg).1⟩

theorem own_createTargetGroup {req : TargetGroupRequest}
    (hreq : req.labels.get labelKubernetesServiceUID = svc.uid) :
    Safe (OwnRely svc) (Own svc)
      (fun r s => OwnInv s ∧ ∀ tg, r = some tg → TgIdOf svc.uid tg.identity s)
      (fun _ => OwnInv) OwnInv (api (.createTargetGroup req)) := by
  have hG : ∀ s, OwnInv s → Own svc s (.createTargetGroup req) := fun _ _ => hreq
  refine Safe.api (.createTargetGroup req) hG (fun s f v hs hr => ⟨OwnInv.stable.and
    (Stable.forall_eq_some v fun _ => TgIdOf.stable _ _), hs.respond (hG s hs) f, ?_⟩)
    fun s f e hs _ => ⟨OwnInv.stable, hs.respond (hG s hs) f⟩
  rintro tg rfl
  rw [← hreq]
  exact (tgIdOf_created hs.fresh hr).1

theorem own_updateTargetGroup {id : String} {req : TargetGroupRequest}
    (hreq : req.labels.get labelKubernetesServiceUID = svc.uid) :
    Safe (OwnRely svc) (Own svc)
      (fun r s => OwnInv s ∧ ∀ tg, r = some tg → TgIdOf svc.uid tg.identity s)
      (fun _ => OwnInv) (fun s => OwnInv s ∧ TgIdOf svc.uid id s)
      (api (.updateTargetGroup id req)) := by
  have hG : ∀ s, OwnInv s ∧ TgIdOf svc.uid id s → Own svc s (.updateTargetGroup id req) :=
    fun _ hs => ⟨hs.2, hreq⟩
  refine Safe.api (.updateTargetGroup id req) hG (fun s f v hs hr => ⟨OwnInv.stable.and
    (Stable.forall_eq_some v fun _ => TgIdOf.stable _ _), hs.1.respond (hG s hs) f, ?_⟩)
    fun s f e hs _ => ⟨OwnInv.stable, hs.1.respond (hG s hs) f⟩
  rintro tg rfl
  rw [(identity_of_updateTargetGroup hr).1]
  exact (TgIdOf.stable svc.uid id : Stable (OwnRely svc) _) _ _ (ownRely_of_own hs.1 (hG s hs) f)
    hs.2

theorem own_upgradeTargetGroupAttachments (tg : VpcLoadbalancerTargetGroup) :
    Safe (OwnRely svc) (Own svc) (fun _ => OwnInv) (fun _ => OwnInv)
      (fun s => OwnInv s ∧ TgIdOf svc.uid tg.identity s) (upgradeTargetGroupAttachments tg nodes) :=
  (Safe.wrap_inv (own_api_inv (.setTargetGroupServerAttachments _ _)
    (OwnInv.stable.and (TgIdOf.stable _ _)) (fun _ h => h.1) fun _ h => h.2)).post
      (fun _ _ h => h.1) fun _ _ h => h

theorem own_createMissingTargetGroups (keys : List (String × Nat)) :
    ∀ desired : List VpcLoadbalancerTargetGroup,
      (∀ tg ∈ desired, tg.labels.get labelKubernetesServiceUID = svc.uid) →
      Safe (OwnRely svc) (Own svc) (fun _ => OwnInv) (fun _ => OwnInv) OwnInv
        (createMissingTargetGroups nodes keys desired)
  | [], _ => .ret fun _ h => h
  | tg :: rest, hdes => by
    have ih := own_createMissingTargetGroups keys rest fun t ht => hdes t (.tail _ ht)
    simp only [createMissingTargetGroups, bind_eq, pure_eq, ret_bind]
    split
    · exact ih
    refine (Safe.wrap_inv (own_createTargetGroup svc
      (hdes tg (.head _) : (targetGroupRequest tg).labels.get _ = _))).bind fun r => ?_
    cases r with
    | none => exact Safe.throw fun _ h => h.1
    | some created =>
      refine (Safe.wrap_inv ((own_upgradeTargetGroupAttachments svc nodes created).pre
        fun s hs => ⟨hs.1, hs.2 created rfl⟩)).bind fun _ => ?_
      exact ih.bind fun _ => .ret fun _ h => h

theorem own_updateExistingTargetGroups (desired : List VpcLoadbalancerTargetGroup)
    (hdes : ∀ tg ∈ desired, tg.labels.get labelKubernetesServiceUID = svc.uid) :
    ∀ existing : List VpcLoadbalancerTargetGroup,
      Safe (OwnRely svc) (Own svc) (fun _ => OwnInv) (fun _ => OwnInv)
        (fun s => OwnInv s ∧ ∀ tg ∈ existing, TgIdOf svc.uid tg.identity s)
        (updateExistingTargetGroups nodes desired existing)
  | [] => .ret fun _ h => h.1
  | tg :: rest => by
    have ih := own_updateExistingTargetGroups desired hdes rest
    have hrest : Stable (OwnRely svc) fun s => ∀ t ∈ rest, TgIdOf svc.uid t.identity s :=
      Stable.forall_mem rest fun _ => TgIdOf.stable _ _
    have hpre : ∀ s, (OwnInv s ∧ ∀ t ∈ tg :: rest, TgIdOf svc.uid t.identity s) →
        OwnInv s ∧ ∀ t ∈ rest, TgIdOf svc.uid t.identity s :=
      fun _ hs => ⟨hs.1, fun t ht => hs.2 t (.tail _ ht)⟩
    simp only [updateExistingTargetGroups, bind_eq, pure_eq, ret_bind]
    split
    · exact ih.pre hpre
    next want hwant =>
    split
    · exact ih.pre hpre
    have hreq : (targetGroupRequest want).labels.get labelKubernetesServiceUID = svc.uid :=
      hdes want (mem_of_lastWithKey hwant)
    refine ((Safe.frame_own hrest (fun _ h => h.1) (Safe.wrap_inv (own_updateTargetGroup svc hreq))).pre
      fun s hs => ⟨⟨hs.1, hs.2 tg (.head _)⟩, (hpre s hs).2⟩).bind fun r => ?_
    cases r with
    | none => exact Safe.throw fun _ h => h.1.1
    | some updated =>
      refine ((Safe.frame_own hrest (fun _ h => h.1)
        (Safe.wrap_inv (own_upgradeTargetGroupAttachments svc nodes updated))).pre
          fun s hs => ⟨⟨hs.1.1, hs.1.2 updated rfl⟩, hs.2⟩).bind fun _ => ?_
      exact (ih.pre fun s hs => ⟨hs.1, hs.2⟩).bind fun _ => .ret fun _ h => h

theorem own_createOrUpdateTargetGroups (desired : List VpcLoadbalancerTargetGroup)
    (hdes : ∀ tg ∈ desired, tg.labels.get labelKubernetesServiceUID = svc.uid) :
    Safe (OwnRely svc) (Own svc) (fun _ => OwnInv) (fun _ => OwnInv) OwnInv
      (createOrUpdateTargetGroups lb svc desired nodes) := by
  refine (Safe.wrap_inv (own_listTargetGroups lb svc)).bind fun existing => ?_
  refine (Safe.frame_own (Stable.forall_mem existing fun _ => TgIdOf.stable _ _) (fun _ h => h)
    (own_createMissingTargetGroups svc nodes _ desired hdes)).bind fun _ => ?_
  exact ((own_updateExistingTargetGroups svc nodes desired hdes existing).pre
    fun s hs => ⟨hs.1, hs.2⟩).bind fun _ => .ret fun _ h => h

theorem own_deleteUnusedTargetGroups (keep : List (String × Nat)) :
    ∀ tgs : List VpcLoadbalancerTargetGroup,
      Safe (OwnRely svc) (Own svc) (fun _ => OwnInv) (fun _ => OwnInv)
        (fun s => OwnInv s ∧ ∀ tg ∈ tgs, TgIdOf svc.uid tg.identity s)
        (deleteUnusedTargetGroups keep tgs)
  | [] => .ret fun _ h => h.1
  | tg :: rest => by
    have ih := own_deleteUnusedTargetGroups keep rest
    have hK : Stable (OwnRely svc) fun s => OwnInv s ∧ ∀ t ∈ tg :: rest, TgIdOf svc.uid t.identity s :=
      OwnInv.stable.and (Stable.forall_mem _ fun _ => TgIdOf.stable _ _)
    simp only [deleteUnusedTargetGroups, bind_eq, pure_eq, ret_bind]
    have hrest := ih.pre fun s (hs : OwnInv s ∧ ∀ t ∈ tg :: rest, TgIdOf svc.uid t.identity s) =>
      ⟨hs.1, fun t ht => hs.2 t (.tail _ ht)⟩
    exact Safe.ite (fun _ => (Safe.wrap_inv (own_api_inv (.deleteTargetGroup _) hK
      (fun _ h => h.1) fun _ h => h.2 tg (.head _))).bind fun _ => hrest) fun _ => hrest

theorem own_cleanupUnusedTargetGroups (desired : List VpcLoadbalancerTargetGroup) :
    Safe (OwnRely svc) (Own svc) (fun _ => OwnInv) (fun _ => OwnInv) OwnInv
      (cleanupUnusedTargetGroups lb svc desired) :=
  (Safe.wrap_inv (own_listTargetGroups lb svc)).bind fun existing =>
    own_deleteUnusedTargetGroups svc _ existing

theorem own_deleteTargetGroupsWithoutListeners :
    ∀ tgs : List VpcLoadbalancerTargetGroup,
      Safe (OwnRely svc) (Own svc) (fun _ => OwnInv) (fun _ => OwnInv)
        (fun s => OwnInv s ∧ ∀ tg ∈ tgs, TgIdOf svc.uid tg.identity s)
        (deleteTargetGroupsWithoutListeners tgs)
  | [] => .ret fun _ h => h.1
  | tg :: rest => by
    have ih := own_deleteTargetGroupsWithoutListeners rest
    have hK : Stable (OwnRely svc) fun s => OwnInv s ∧ ∀ t ∈ tg :: rest, TgIdOf svc.uid t.identity s :=
      OwnInv.stable.and (Stable.forall_mem _ fun _ => TgIdOf.stable _ _)
    simp only [deleteTargetGroupsWithoutListeners, bind_eq, pure_eq, ret_bind]
    have hrest := ih.pre fun s (hs : OwnInv s ∧ ∀ t ∈ tg :: rest, TgIdOf svc.uid t.identity s) =>
      ⟨hs.1, fun t ht => hs.2 t (.tail _ ht)⟩
    exact Safe.ite (fun _ => (own_api_inv (.deleteTargetGroup _) hK (fun _ h => h.1)
      fun _ h => h.2 tg (.head _)).bind fun _ => hrest) fun _ => hrest

end TargetGroups

/-! ## 8. The reconcile step and the entry points -/

section Reconcile

variable (lb : Loadbalancer) (svc : Service)

theorem own_updateVpcLoadbalancerListener (x : VpcLoadbalancer)
    (desired : List VpcLoadbalancerListener) (tgs : List VpcLoadbalancerTargetGroup) :
    Safe (OwnRely svc) (Own svc) (fun _ s => OwnInv s ∧ Known x s ∧ LbFor svc x)
      (fun _ => OwnInv) (fun s => OwnInv s ∧ Known x s ∧ LbFor svc x)
      (updateVpcLoadbalancerListener lb svc x desired tgs) :=
  own_of_allCalls (calls_updateVpcLoadbalancerListener_on lb svc x desired tgs) (knownFor_stable x)
    (fun _ h => h.1) fun s c hc hs => by
      cases c <;> simp only [ListenerCallOn] at hc <;> first
        | trivial
        | (subst hc; exact hs.2.1.lbIdFor hs.2.2)

theorem own_updateVpcLoadbalancer (x : VpcLoadbalancer) (desired : List VpcLoadbalancerListener) :
    Safe (OwnRely svc) (Own svc) (fun _ => OwnInv) (fun _ => OwnInv)
      (fun s => OwnInv s ∧ Known x s ∧ LbFor svc x) (updateVpcLoadbalancer lb svc x desired) := by
  have hK : Stable (OwnRely svc) fun s => OwnInv s ∧ Known x s ∧ LbFor svc x := knownFor_stable x
  have hwrite : ∀ req : UpdateLoadbalancer, req.name = x.name → req.labels = x.labels →
      Safe (OwnRely svc) (Own svc) (fun _ => OwnInv) (fun _ => OwnInv)
        (fun s => OwnInv s ∧ Known x s ∧ LbFor svc x)
        ((wrap "failed to update loadbalancer: " (api (.updateLoadbalancer x.identity req))).bind
          fun _ => .ret ()) := fun req hn hl =>
    (Safe.wrap_inv (own_api_inv (.updateLoadbalancer _ _) hK (fun _ h => h.1)
      fun _ h => ⟨x, h.2.1, h.2.2, req, rfl, hn, hl⟩)).bind fun _ => .ret fun _ h => h.1
  simp only [updateVpcLoadbalancer, bind_eq, pure_eq, ret_bind]
  refine (Safe.wrap_inv (own_of_allCalls (calls_verifySecurityGroupsExist lb _) hK (fun _ h => h.1)
    fun _ _ hc _ => own_of_read (List.mem_singleton.mp hc))).bind fun _ => ?_
  have hsg : Safe (OwnRely svc) (Own svc) (fun _ s => OwnInv s ∧ Known x s ∧ LbFor svc x)
      (fun _ => OwnInv) (fun s => OwnInv s ∧ Known x s ∧ LbFor svc x)
      (wrap "failed to ensure managed security group: " (ensureManagedSecurityGroup lb svc desired)) :=
    Safe.wrap_inv (((Safe.frame_own hK (fun _ h => h) (own_ensureManagedSecurityGroup lb svc _)).pre
      fun s h => ⟨h.1, h⟩).post (fun _ _ h => h.2) fun _ _ h => h)
  refine Safe.ite (fun _ => hsg.bind fun _ => ?_) fun _ => ?_ <;>
  exact Safe.ite (fun _ => hwrite _ rfl rfl) fun _ => .ret fun _ h => h.1

theorem own_updateVpcLoadbalancerListenersAndTargetGroups (nodes : List Node)
    (x : VpcLoadbalancer) :
    Safe (OwnRely svc) (Own svc) (fun _ => OwnInv) (fun _ => OwnInv)
      (fun s => OwnInv s ∧ Known x s ∧ LbFor svc x)
      (updateVpcLoadbalancerListenersAndTargetGroups lb svc nodes x) := by
  have hK : Stable (OwnRely svc) fun s => OwnInv s ∧ Known x s ∧ LbFor svc x := knownFor_stable x
  simp only [updateVpcLoadbalancerListenersAndTargetGroups, bind_eq, pure_eq, ret_bind,
    throw_bind]
  split
  next desiredTgs hdes =>
    refine (Safe.wrap_inv ((Safe.frame_own hK (fun _ h => h) (own_createOrUpdateTargetGroups lb svc
      nodes desiredTgs (get_uid_of_getDesiredVpcLoadbalancerTargetGroups lb svc hdes))).pre
        fun s h => ⟨h.1, h⟩)).bind fun tgs => ?_
    refine (Safe.wrap_inv ((own_updateVpcLoadbalancerListener lb svc x _ tgs).pre
      fun s h => h.2)).bind fun _ => ?_
    refine (Safe.wrap_inv ((Safe.frame_own hK (fun _ h => h)
      (own_cleanupUnusedTargetGroups lb svc tgs)).pre fun s h => ⟨h.1, h⟩)).bind fun _ => ?_
    exact (Safe.wrap_inv ((own_updateVpcLoadbalancer lb svc x _).pre fun s h => h.2)).bind
      fun _ => .ret fun _ h => h
  next => exact Safe.throw fun _ h => h.1

theorem own_ensureLoadBalancer (slices : List EndpointSlice) (nodes : List Node) :
    Safe (OwnRely svc) (Own svc) (fun _ => OwnInv) (fun _ => OwnInv) OwnInv
      (ensureLoadBalancer lb slices svc nodes) := by
  simp only [ensureLoadBalancer, bind_eq, pure_eq, ret_bind]
  refine (own_fetchVpcLoadbalancerFromCloud lb svc).bind fun found => ?_
  cases found with
  | some x =>
    exact (own_updateVpcLoadbalancerListenersAndTargetGroups lb svc _ x).pre
      fun s h => ⟨h.1, h.2 x rfl⟩
  | none =>
    refine ((own_createVpcLoadbalancer lb svc).pre fun s h => h.1).bind fun created => ?_
    refine (own_updateVpcLoadbalancerListenersAndTargetGroups lb svc _ created).bind fun _ => ?_
    exact (own_of_reads (calls_pollUntilContextTimeout (calls_readyCondition lb svc created)
      _)).bind fun _ => .ret fun _ h => h

theorem own_updateLoadBalancer (slices : List EndpointSlice) (nodes : List Node) :
    Safe (OwnRely svc) (Own svc) (fun _ => OwnInv) (fun _ => OwnInv) OwnInv
      (updateLoadBalancer lb slices svc nodes) := by
  simp only [updateLoadBalancer, bind_eq, pure_eq, ret_bind]
  refine (Safe.wrap_inv (own_fetchVpcLoadbalancerFromCloud lb svc)).bind fun found => ?_
  cases found with
  | none => exact Safe.throw fun _ h => h.1
  | some x =>
    exact (Safe.wrap_inv ((own_updateVpcLoadbalancerListenersAndTargetGroups lb svc _ x).pre
      fun s h => ⟨h.1, h.2 x rfl⟩)).bind fun _ => .ret fun _ h => h

theorem own_ensureLoadBalancerDeleted :
    Safe (OwnRely svc) (Own svc) (fun _ => OwnInv) (fun _ => OwnInv) OwnInv
      (ensureLoadBalancerDeleted lb svc) := by
  simp only [ensureLoadBalancerDeleted, bind_eq, pure_eq, ret_bind]
  refine (own_fetchVpcLoadbalancerFromCloud lb svc).bind fun found => ?_
  cases found with
  | none => exact .ret fun _ h => h.1
  | some x =>
    have hK : Stable (OwnRely svc) fun s => OwnInv s ∧ Known x s ∧ LbFor svc x :=
      knownFor_stable x
    refine ((Safe.frame_own hK (fun _ h => h) (own_cleanupUnusedTargetGroups lb svc [])).pre
      fun s h => ⟨h.1, h.1, h.2 x rfl⟩).bind fun _ => ?_
    refine (own_api_inv (.deleteLoadbalancer _) (OwnInv.stable.and hK) (fun _ h => h.1)
      fun _ h => h.2.2.1.lbIdFor h.2.2.2).bind fun _ => ?_
    refine ((own_of_reads (calls_pollUntilContextTimeout (calls_deletedCondition lb svc) _)).pre
      fun _ h => h.1).bind fun _ => ?_
    refine (own_listTargetGroups lb svc).bind fun tgs => ?_
    exact (own_deleteTargetGroupsWithoutListeners svc tgs).bind fun _ =>
      own_deleteManagedSecurityGroup lb svc

end Reconcile

/-- Every operation makes only owned calls, under the calls of every other. -/
theorem own_prog (op : Op) :
    Safe (OwnRely op.svc) (Own op.svc) (fun _ => OwnInv) (fun _ => OwnInv) OwnInv op.prog := by
  obtain ⟨lb, svc, kind⟩ := op
  cases kind with
  | ensure slices nodes =>
    exact (own_ensureLoadBalancer lb svc slices nodes).bind fun _ => .ret fun _ h => h
  | update slices nodes => exact own_updateLoadBalancer lb svc slices nodes
  | delete => exact own_ensureLoadBalancerDeleted lb svc

/-! ## 9. What an operation leaves alone -/

/-- Objects of the cloud, by kind. -/
structure Owned where
  loadbalancers : List VpcLoadbalancer
  listeners : List LbListener
  targetGroups : List VpcLoadbalancerTargetGroup
  securityGroups : List SecurityGroup
  deriving DecidableEq

/-- The load balancers labelled with the UID `u`. -/
def ownedLoadbalancers (u : String) (s : State) : List VpcLoadbalancer :=
  s.loadbalancers.filter (·.labels.get labelKubernetesServiceUID = u)

/-- The objects of the Service with UID `u`: the load balancers labelled with it, their
    listeners, and the target groups and security groups labelled with it. -/
def ownedBy (u : String) (s : State) : Owned where
  loadbalancers := ownedLoadbalancers u s
  listeners := s.listeners.filter (·.loadbalancer ∈ (ownedLoadbalancers u s).map (·.identity))
  targetGroups := s.targetGroups.filter (·.labels.get labelKubernetesServiceUID = u)
  securityGroups := s.securityGroups.filter (·.labels.get labelKubernetesServiceUID = u)

section Filters

variable {β : Type} {p q : β → Bool} {l : List β}

theorem filter_map_of_fixes {g : β → β} (hp : ∀ y ∈ l, p (g y) = p y)
    (hg : ∀ y ∈ l, p y → g y = y) : (l.map g).filter p = l.filter p := by
  induction l with
  | nil => rfl
  | cons y l ih =>
    have ih := ih (fun z hz => hp z (.tail _ hz)) fun z hz => hg z (.tail _ hz)
    rw [List.map_cons, List.filter_cons, List.filter_cons, hp y (.head _)]
    split
    · rw [hg y (.head _) ‹_›, ih]
    · exact ih

theorem filter_filter_of_imp (h : ∀ y ∈ l, p y → q y) : (l.filter q).filter p = l.filter p := by
  rw [List.filter_filter]
  exact List.filter_congr fun y hy => by cases hpy : p y <;> simp [hpy, h y hy]

theorem filter_append_singleton_of_false {a : β} (ha : p a = false) :
    (l ++ [a]).filter p = l.filter p := by
  simp [List.filter_append, ha]

end Filters

section Frame

variable {svc : Service} {u : String} {s : State} {c : Call}

theorem uid_ne_of_lbFor (hn : getLoadBalancerName svc ≠ defaultLoadBalancerName u)
    {x : VpcLoadbalancer} (hx : LbFor svc x) : x.labels.get labelKubernetesServiceUID ≠ u :=
  fun he => hn (by rw [← hx, he])

theorem uid_ne_of_names (hn : getLoadBalancerName svc ≠ defaultLoadBalancerName u) :
    svc.uid ≠ u :=
  fun he => hn (by rw [← he]; rfl)

theorem not_mem_owned_of_lbIdFor (hn : getLoadBalancerName svc ≠ defaultLoadBalancerName u)
    {id : String} (h : LbIdFor svc id s) : id ∉ (ownedLoadbalancers u s).map (·.identity) := by
  simp only [ownedLoadbalancers, List.mem_map, List.mem_filter, decide_eq_true_eq, not_exists,
    not_and]
  exact fun y ⟨hy, hu⟩ he => uid_ne_of_lbFor hn (h y hy he) hu

variable (hn : getLoadBalancerName svc ≠ defaultLoadBalancerName u)
include hn

theorem ownedLoadbalancers_perform_of_own (hc : Own svc s c) :
    ownedLoadbalancers u (s.perform c).1 = ownedLoadbalancers u s := by
  by_cases hk : c.kind = .loadbalancer
  · cases c <;> simp only [Call.kind, reduceCtorEq] at hk
    next req =>
      exact filter_append_singleton_of_false (by simpa [hc.1] using uid_ne_of_names hn)
    next id req =>
      obtain ⟨x, hx, hfor, req', he, -, hl⟩ := hc
      cases he
      simp only [ownedLoadbalancers, State.perform]
      split
      · rfl
      refine filter_map_of_fixes (fun y hy => ?_) fun y hy hp => ?_
      · split
        · simp only [hl, (hx.agrees y hy ‹_›).2]
        · rfl
      · rw [if_neg fun hid => uid_ne_of_lbFor hn hfor (by
          simpa [(hx.agrees y hy hid).2] using hp)]
    next id =>
      simp only [ownedLoadbalancers, State.perform]
      split
      · exact filter_filter_of_imp fun y hy hp => by
          simpa using fun hid => uid_ne_of_lbFor hn (hc y hy hid) (by simpa using hp)
      · rfl
  · simp only [ownedLoadbalancers, State.perform_loadbalancers s c hk]

theorem listeners_perform_of_own (hc : Own svc s c) :
    (s.perform c).1.listeners.filter (·.loadbalancer ∈ (ownedLoadbalancers u s).map (·.identity)) =
      s.listeners.filter (·.loadbalancer ∈ (ownedLoadbalancers u s).map (·.identity)) := by
  by_cases hk : c.kind = .listener ∨ c.kind = .loadbalancer
  · have hid := fun id (h : LbIdFor svc id s) => not_mem_owned_of_lbIdFor hn h
    rcases hk with hk | hk <;> cases c <;> simp only [Call.kind, reduceCtorEq] at hk <;>
      simp only [State.perform]
    next lbId req =>
      split
      · exact filter_append_singleton_of_false (by simpa using hid lbId hc)
      · rfl
    next lbId id req =>
      split
      · refine filter_map_of_fixes (fun r _ => ?_) fun r _ hp => if_neg fun hr => ?_
        · split
          · next hr => rw [hr.1]
          · rfl
        · exact hid lbId hc (by simpa [hr.1] using hp)
      · rfl
    next lbId id =>
      split
      · exact filter_filter_of_imp fun r _ hp => by
          simpa using .inl fun (he : r.loadbalancer = lbId) => hid lbId hc (by simpa [he] using hp)
      · rfl
    next => split <;> rfl
    next id =>
      split
      · exact filter_filter_of_imp fun r _ hp => by
          simpa using fun (he : r.loadbalancer = id) => hid id hc (by simpa [he] using hp)
      · rfl
  · push_neg at hk
    rw [State.perform_listeners s c hk.1 hk.2]

theorem targetGroups_perform_of_own (hc : Own svc s c) :
    (s.perform c).1.targetGroups.filter (·.labels.get labelKubernetesServiceUID = u) =
      s.targetGroups.filter (·.labels.get labelKubernetesServiceUID = u) := by
  have hu := uid_ne_of_names hn
  by_cases hk : c.kind = .targetGroup
  · cases c <;> simp only [Call.kind, reduceCtorEq] at hk <;> simp only [State.perform]
    next req =>
      have hreq : req.labels.get labelKubernetesServiceUID = svc.uid := hc
      exact filter_append_singleton_of_false (by simpa [State.targetGroupOf, hreq] using hu)
    next id req =>
      split
      · rfl
      refine filter_map_of_fixes (fun y hy => ?_) fun y hy hp => if_neg fun hid => ?_
      · split
        · next hid => simp [State.targetGroupOf, hc.2, hc.1.2 y hy hid, hu]
        · rfl
      · exact hu (by simpa [hc.1.2 y hy hid] using hp)
    next id =>
      split
      · exact filter_filter_of_imp fun y hy hp => by
          simpa using fun hid => hu (by simpa [hc.2 y hy hid] using hp)
      · rfl
    next id servers =>
      split
      · exact filter_map_of_fixes (fun y _ => by split <;> rfl) fun y hy hp => if_neg fun hid =>
          hu (by simpa [hc.2 y hy hid] using hp)
      · rfl
  · rw [State.perform_targetGroups s c hk]

theorem securityGroups_perform_of_own (hc : Own svc s c) :
    (s.perform c).1.securityGroups.filter (·.labels.get labelKubernetesServiceUID = u) =
      s.securityGroups.filter (·.labels.get labelKubernetesServiceUID = u) := by
  have hu := uid_ne_of_names hn
  by_cases hk : c.kind = .securityGroup
  · cases c <;> simp only [Call.kind, reduceCtorEq] at hk <;> simp only [State.perform]
    next req =>
      have hreq : req.labels.get labelKubernetesServiceUID = svc.uid := hc
      exact filter_append_singleton_of_false (by simpa [State.securityGroupOf, hreq] using hu)
    next id req =>
      split
      · refine filter_map_of_fixes (fun y hy => ?_) fun y hy hp => if_neg fun hid => ?_
        · split
          · next hid => simp [State.securityGroupOf, hc.2, hc.1.2 y hy hid, hu]
          · rfl
        · exact hu (by simpa [hc.1.2 y hy hid] using hp)
      · rfl
    next id =>
      split
      · exact filter_filter_of_imp fun y hy hp => by
          simpa using fun hid => hu (by simpa [hc.2 y hy hid] using hp)
      · rfl
  · rw [State.perform_securityGroups s c hk]

/-- **Frame.** A call an operation for `svc` may make leaves the objects of a Service whose
    load-balancer name differs from `svc`'s as they are. -/
theorem ownedBy_perform_of_own (hc : Own svc s c) : ownedBy u (s.perform c).1 = ownedBy u s := by
  simp only [ownedBy, ownedLoadbalancers_perform_of_own hn hc, listeners_perform_of_own hn hc,
    targetGroups_perform_of_own hn hc, securityGroups_perform_of_own hn hc]

theorem ownedBy_respond_of_own (hc : Own svc s c) (f : Fault) :
    ownedBy u (s.respond c f).1 = ownedBy u s := by
  rcases State.respond_state s c f with h | h <;> rw [h]
  exact ownedBy_perform_of_own hn hc

end Frame

/-! ## 10. Every interleaving -/

theorem ownInv_empty (subnets : List Subnet) : OwnInv (State.empty subnets) :=
  ⟨State.Fresh.empty subnets, fun _ h => by simp [State.empty] at h⟩

theorem threadOk_own (op : Op) (s : State) (hs : OwnInv s) :
    ThreadOk OwnInv Own (fun _ _ => True) ⟨op.svc, op.prog⟩ s :=
  ⟨OwnInv, OwnInv.stable, hs, (own_prog op).post (fun _ _ _ => trivial) fun _ _ _ => trivial⟩

/-- Along every interleaving from an empty VPC, the cloud keeps the invariant and every
    operation in flight makes only owned calls, whichever Services the others are for. -/
theorem sysOk_own (subnets : List Subnet) (ls : List Label) :
    SysOk OwnInv Own (fun _ _ => True) (runLabels (Sys.init subnets) ls) :=
  sysOk_runLabels (fun _ e h => h.applyEnv e) (fun _ _ _ f h hc => h.respond hc f) threadOk_own
    ⟨ownInv_empty subnets, fun _ _ h => by simp [Sys.init] at h⟩ ls
    (admissible_of_forall (fun _ _ => trivial) _ ls)

/-- Two Services whose load-balancer names differ, along every interleaving of any
    operations from an empty VPC: every reached cloud is in the invariant; from such a
    cloud, and whatever the other operations do meanwhile, the lookup for `S` never returns
    a load balancer labelled with `S'`'s UID; and every call an operation for `S` makes
    leaves `S'`'s load balancers, their listeners, and `S'`'s target groups and security
    groups as the cloud's own progress left them. -/
theorem interleaving_respects_ownership (lb : Loadbalancer) (S S' : Service)
    (hn : getLoadBalancerName S ≠ getLoadBalancerName S') :
    (∀ (subnets : List Subnet) (ls : List Label), OwnInv (runLabels (Sys.init subnets) ls).cloud) ∧
    Safe (OwnRely S) (Own S)
      (fun r _ => ∀ x, r = some x → x.labels.get labelKubernetesServiceUID ≠ S'.uid)
      (fun _ _ => True) OwnInv (fetchVpcLoadbalancerFromCloud lb S) ∧
    ∀ (subnets : List Subnet) (ls : List Label) (i : Nat) (t : Tick) (th : Thread),
      (runLabels (Sys.init subnets) ls).threads[i]? = some th → th.svc = S → th.pending.isSome →
      ownedBy S'.uid ((runLabels (Sys.init subnets) ls).apply (.step i t)).cloud =
        ownedBy S'.uid ((runLabels (Sys.init subnets) ls).cloud.evolve t.env) := by
  refine ⟨fun subnets ls => (sysOk_own subnets ls).1, (own_fetchVpcLoadbalancerFromCloud lb S).post
    (fun _ _ h x hx => uid_ne_of_lbFor hn (h.2 x hx).2) fun _ _ _ => trivial, ?_⟩
  intro subnets ls i t th hi hS hp
  obtain ⟨c, hc⟩ := Option.isSome_iff_exists.mp hp
  rw [Sys.apply_step_cloud hi hc t]
  exact ownedBy_respond_of_own (hS ▸ hn)
    ((sysOk_own subnets ls).guarantee (fun _ e h => h.applyEnv e) hi hc t.env) t.fault

/-- The web Service's first call leaves the DNS Service's objects alone. -/
theorem interleaving_respects_ownership_web :
    getLoadBalancerName webService ≠ getLoadBalancerName dnsService ∧
    ownedBy dnsService.uid ((runLabels (Sys.init [⟨"subnet-1", "main"⟩])
      [.start ⟨configWithLabels [], webService, .ensure [] []⟩]).apply (.step 0 {})).cloud =
    ownedBy dnsService.uid ((runLabels (Sys.init [⟨"subnet-1", "main"⟩])
      [.start ⟨configWithLabels [], webService, .ensure [] []⟩]).cloud.evolve []) :=
  ⟨by decide, (interleaving_respects_ownership (configWithLabels []) webService dnsService
    (by decide)).2.2 _ _ 0 {} _ rfl rfl rfl⟩

/-- A Service whose UID differs from the web Service's in its last hex digit only. -/
def apiService : Service where
  name := "api"
  ns := "default"
  uid := "6f1c2d3e-4a5b-4c6d-8e7f-9a0b1c2d3e40"
  annotations := []
  serviceType := .LoadBalancer
  ports := [⟨"http", .TCP, 80, 30090⟩]
  externalTrafficPolicy := .Cluster
  healthCheckNodePort := 0

/-- After `EnsureLoadBalancer` of the web Service, the lookup for the API Service returns
    the web Service's load balancer, found by name, and `EnsureLoadBalancerDeleted` of the
    API Service succeeds and deletes it. -/
theorem ensureLoadBalancerDeleted_name_collision :
    SeqReachable [⟨"subnet-1", "main"⟩] webEnsured ∧ apiService.uid ≠ webService.uid ∧
    (webEnsured.loadbalancers.map fun x =>
      matchLabels (canonicalLabels (configWithLabels []) webService) x.labels) = [true] ∧
    findVpcLoadbalancer (configWithLabels []) apiService webEnsured.loadbalancers =
      webEnsured.loadbalancers.head? ∧
    (exec (ensureLoadBalancerDeleted (configWithLabels []) apiService) []
      webEnsured).value.isOk ∧
    (exec (ensureLoadBalancerDeleted (configWithLabels []) apiService) []
      webEnsured).state.loadbalancers = [] :=
  ⟨SeqReachable.step _ _ SeqReachable.init, by decide, by decide, by decide, by decide,
    by decide⟩

end Engine
end ThalassaCcm
