import ThalassaCcm.Proof.Calls
import ThalassaCcm.Cloud.Wp

/-!
# A Service's load balancer: the lookup, and what a reconcile knows of it

`fetchVpcLoadbalancerFromCloud` reads only the identity, name and labels of the listed
load balancers (`loadbalancerKeys`), and it finds nothing exactly when no load balancer
matches the Service's selector or has its name (`findVpcLoadbalancer_eq_none_iff`).
Every call but the three load-balancer calls leaves those keys alone, and so does the
cloud's progress. The poll loop, which both waits use, returns only a value its condition
answered (`wp_pollUntilContextTimeout`).

A reconcile works on the load balancer `x` it fetched or created, and writes it back with
`x`'s own name and labels (`WritesBack`). `Known x s` is what makes that write harmless:
whatever load balancer has `x`'s identity has `x`'s name and labels, and the identity was
handed out before. It holds when `x` was just read from a fresh cloud, and every call
other than a foreign `UpdateLoadbalancer` keeps it (`Known.respond`): a create hands out
a new identity, a delete only removes. Under it, the write-back leaves the keys as they
were (`perform_loadbalancerKeys_writeBack`).
-/

set_option autoImplicit false

namespace ThalassaCcm
namespace Engine

open Cloud Prog StrMap

/-! ## 1. The lookup -/

/-- What the lookup reads of the cloud's load balancers. -/
def loadbalancerKeys (s : State) : List (String × String × StrMap) :=
  s.loadbalancers.map fun x => (x.identity, x.name, x.labels)

@[simp] theorem loadbalancerKeys_applyEnv (s : State) (e : EnvEvent) :
    loadbalancerKeys (s.applyEnv e) = loadbalancerKeys s := by
  cases e
  simp only [loadbalancerKeys, State.applyEnv, List.map_map]
  exact List.map_congr_left fun x _ => by simp only [Function.comp]; split <;> rfl

theorem loadbalancerKeys_perform (s : State) {c : Call} (h : c.kind ≠ .loadbalancer) :
    loadbalancerKeys (s.perform c).1 = loadbalancerKeys s := by
  rw [loadbalancerKeys, State.perform_loadbalancers s c h, loadbalancerKeys]

theorem loadbalancerKeys_respond (s : State) {c : Call} (h : c.kind ≠ .loadbalancer)
    (f : Fault) : loadbalancerKeys (s.respond c f).1 = loadbalancerKeys s :=
  @State.respond_of_perform s c (fun t => loadbalancerKeys t = loadbalancerKeys s) rfl
    (loadbalancerKeys_perform s h) f

/-- A load balancer of a cloud with the keys of another has a twin there. -/
theorem exists_of_loadbalancerKeys_eq {s s' : State}
    (h : loadbalancerKeys s' = loadbalancerKeys s) {y : VpcLoadbalancer}
    (hy : y ∈ s'.loadbalancers) :
    ∃ y₀ ∈ s.loadbalancers, y₀.identity = y.identity ∧ y₀.name = y.name ∧ y₀.labels = y.labels := by
  have : (y.identity, y.name, y.labels) ∈ loadbalancerKeys s :=
    h ▸ List.mem_map_of_mem (fun x => (x.identity, x.name, x.labels)) hy
  obtain ⟨y₀, hy₀, he⟩ := List.mem_map.mp this
  simp only [Prod.mk.injEq] at he
  exact ⟨y₀, hy₀, he⟩

/-- No load balancer of the cloud is the Service's, by labels or by name. -/
def NoLoadbalancerFor (lb : Loadbalancer) (svc : Service) (s : State) : Prop :=
  ∀ y ∈ s.loadbalancers,
    matchLabels (getLabelsForVpcLoadbalancer lb svc) y.labels = false ∧
      y.name ≠ getLoadBalancerName svc

theorem findVpcLoadbalancer_eq_none_iff (lb : Loadbalancer) (svc : Service)
    (lbs : List VpcLoadbalancer) :
    findVpcLoadbalancer lb svc lbs = none ↔
      ∀ y ∈ lbs, matchLabels (getLabelsForVpcLoadbalancer lb svc) y.labels = false ∧
        y.name ≠ getLoadBalancerName svc := by
  unfold findVpcLoadbalancer
  split
  · simp_all
  · split
    · rename_i x hx
      have := List.find?_some hx
      simp only [reduceCtorEq, false_iff, not_forall]
      exact ⟨x, List.mem_of_find?_eq_some hx, fun h => by simp [h.1] at this⟩
    · simp_all

theorem mem_of_findVpcLoadbalancer_eq_some {lb : Loadbalancer} {svc : Service}
    {lbs : List VpcLoadbalancer} {x : VpcLoadbalancer}
    (h : findVpcLoadbalancer lb svc lbs = some x) : x ∈ lbs := by
  unfold findVpcLoadbalancer at h
  split at h
  · cases h
  · split at h <;> rename_i hx
    · cases h; exact List.mem_of_find?_eq_some hx
    · exact List.mem_of_find?_eq_some h

theorem NoLoadbalancerFor.of_keys {lb : Loadbalancer} {svc : Service} {s s' : State}
    (h : NoLoadbalancerFor lb svc s) (hk : loadbalancerKeys s' = loadbalancerKeys s) :
    NoLoadbalancerFor lb svc s' := fun y hy => by
  obtain ⟨y₀, hy₀, -, hn, hl⟩ := exists_of_loadbalancerKeys_eq hk hy
  rw [← hn, ← hl]
  exact h y₀ hy₀

/-- The lookup lists the load balancers and chooses among them; the cloud is left as its
    own progress made it. -/
theorem wp_fetchVpcLoadbalancerFromCloud {G : State → Call → Prop} {P : State → Prop}
    (lb : Loadbalancer) (svc : Service) (hP : EnvStable P)
    (hG : ∀ s, P s → G s .listLoadbalancers) {s : State} (hs : P s) :
    Wp (fun _ => True) G (fetchVpcLoadbalancerFromCloud lb svc)
      (fun r s' => P s' ∧ r = findVpcLoadbalancer lb svc s'.loadbalancers) (fun _ => P) s := by
  refine Wp.bind (Wp.api trivial fun es f _ => ⟨hG _ (hP.evolve hs es), ?_⟩)
  cases f <;> simp only [State.respond, State.perform]
  · exact Wp.ret ⟨hP.evolve hs es, rfl⟩
  all_goals exact hP.evolve hs es

/-- The poll loop returns only a value its condition returned, so only in a cloud its
    condition vouched for, and only a value it vouched for. -/
theorem wp_pollUntilContextTimeout {β : Type} {G : State → Call → Prop} {P : State → Prop}
    {R : β → State → Prop} {cond : Prog (Option β)}
    (hcond : ∀ s, P s → Wp (fun _ => True) G cond (fun r s' => P s' ∧ ∀ b, r = some b → R b s')
      (fun _ => P) s) (n : Nat) {s : State} (hs : P s) :
    Wp (fun _ => True) G (pollUntilContextTimeout cond n) (fun b s' => P s' ∧ R b s')
      (fun _ => P) s := by
  induction n generalizing s with
  | zero =>
    refine Wp.bind ((hcond s hs).mono (fun r s' h => ?_) fun _ _ h => h)
    rcases r with _ | b
    · exact Wp.throw h.1
    · exact Wp.ret ⟨h.1, h.2 b rfl⟩
  | succ n ih =>
    refine Wp.bind ((hcond s hs).mono (fun r s' h => ?_) fun _ _ h => h)
    rcases r with _ | b
    · exact ih h.1
    · exact Wp.ret ⟨h.1, h.2 b rfl⟩

/-! ## 2. What a reconcile knows of its load balancer -/

/-- `x`'s identity was handed out, and whatever load balancer has it has `x`'s name and
    labels. -/
structure Known (x : VpcLoadbalancer) (s : State) : Prop where
  issued : ∃ m < s.nextId, x.identity = freshId m
  agrees : ∀ y ∈ s.loadbalancers, y.identity = x.identity → y.name = x.name ∧ y.labels = x.labels

namespace Known

variable {x : VpcLoadbalancer} {s : State}

/-- A load balancer read from a fresh cloud is known. -/
theorem of_mem (hf : s.Fresh) (hx : x ∈ s.loadbalancers) : Known x s where
  issued := hf.loadbalancers.2 _ (List.mem_map_of_mem _ hx)
  agrees := fun y hy he => by
    rw [List.inj_on_of_nodup_map hf.loadbalancers.1 hy hx he]
    exact ⟨rfl, rfl⟩

theorem applyEnv (hk : Known x s) (e : EnvEvent) : Known x (s.applyEnv e) := by
  cases e with
  | provision id st ips host =>
    refine ⟨hk.issued, fun y hy he => ?_⟩
    obtain ⟨y₀, hy₀, rfl⟩ := List.mem_map.mp hy
    by_cases h : y₀.identity = id
    · rw [if_pos h] at he ⊢; exact hk.agrees y₀ hy₀ he
    · rw [if_neg h] at he ⊢; exact hk.agrees y₀ hy₀ he

theorem envStable (x : VpcLoadbalancer) : EnvStable (Known x) := fun _ e hk => hk.applyEnv e

/-- Every call but an `UpdateLoadbalancer` that is not a write-back of `x` keeps what is
    known of `x`. -/
theorem perform (hk : Known x s) {c : Call}
    (hc : (∀ id req, c ≠ .updateLoadbalancer id req) ∨ WritesBack x c) :
    Known x (s.perform c).1 := by
  by_cases hkind : c.kind = .loadbalancer
  swap
  · exact ⟨let ⟨m, hm, he⟩ := hk.issued; ⟨m, by have := s.le_perform_nextId c; omega, he⟩,
      by rw [State.perform_loadbalancers s c hkind]; exact hk.agrees⟩
  obtain ⟨m, hm, hx⟩ := hk.issued
  cases c <;> simp only [Call.kind, reduceCtorEq] at hkind
  next req =>
    refine ⟨⟨m, by simp only [State.perform]; omega, hx⟩, fun y hy hyx => ?_⟩
    simp only [State.perform, List.mem_append, List.mem_singleton] at hy
    rcases hy with hy | rfl
    · exact hk.agrees y hy hyx
    · exact absurd (freshId_injective (hyx.trans hx)) (by omega)
  next id req =>
    obtain ⟨req', he, hn, hl⟩ := hc.resolve_left fun h => h id req rfl
    cases he
    simp only [State.perform]
    split
    · exact hk
    · refine ⟨⟨m, hm, hx⟩, fun y hy hyx => ?_⟩
      obtain ⟨y₀, hy₀, rfl⟩ := List.mem_map.mp hy
      by_cases h : y₀.identity = x.identity
      · rw [if_pos h]; exact ⟨hn, hl⟩
      · rw [if_neg h] at hyx ⊢; exact hk.agrees y₀ hy₀ hyx
  next id =>
    simp only [State.perform]
    split
    · exact ⟨⟨m, hm, hx⟩, fun y hy => hk.agrees y (List.mem_filter.mp hy).1⟩
    · exact hk

theorem respond (hk : Known x s) {c : Call}
    (hc : (∀ id req, c ≠ .updateLoadbalancer id req) ∨ WritesBack x c) (f : Fault) :
    Known x (s.respond c f).1 :=
  State.respond_of_perform s c hk (hk.perform hc) f

/-- A call that is not about load balancers, or a write-back of `x`, keeps what is known
    of `x`. -/
theorem respond_of_calls {ks : List CallKind} (hks : CallKind.loadbalancer ∉ ks) (hk : Known x s)
    {c : Call} (hc : KindIn ks c ∨ WritesBack x c) (f : Fault) : Known x (s.respond c f).1 :=
  hk.respond (hc.imp_left fun h id req he => hks (by subst he; exact h)) f

end Known

/-- Under what is known of `x`, its write-back leaves the keys of the load balancers as
    they were. -/
theorem perform_loadbalancerKeys_writeBack {x : VpcLoadbalancer} {s : State} (hk : Known x s)
    {c : Call} (hc : WritesBack x c) :
    loadbalancerKeys (s.perform c).1 = loadbalancerKeys s := by
  obtain ⟨req, rfl, hn, hl⟩ := hc
  simp only [State.perform]
  split
  · rfl
  · simp only [loadbalancerKeys, List.map_map]
    refine List.map_congr_left fun y hy => ?_
    simp only [Function.comp]
    split
    · rename_i he
      obtain ⟨h1, h2⟩ := hk.agrees y hy he
      simp only [he, hn, hl, h1, h2]
    · rfl

end Engine
end ThalassaCcm
