import ThalassaCcm.Proof.TargetGroupKeys

/-!
# One listener per port of a load balancer

`updateVpcLoadbalancerListener` keys both the desired listeners and the load balancer's
listing by port. It rewrites a listed listener only from the last desired listener on that
listener's port, so the port stays; it deletes listed listeners; and it creates a listener
only for a desired port the listing lacks, walking the desired listeners in order. No other
call of the entry points creates or rewrites a listener. So every call meets `LsGuard`: a
create on a port the load balancer has no listener on, and a rewrite that keeps the
listener's port (`Op.wp_lsGuard`). Each such call keeps `PortsUnique`, and the cloud's
progress leaves listeners alone.

Hence an empty VPC has no load balancer with two listeners on one port, and every
operation for a Service with distinct port numbers, from a cloud where none has, failing
wherever it may, leaves a cloud where none has (`listenerPorts_unique`). The creation loop
creates every port the listing lacks once per desired listener on it, which is why the
Service's port numbers must be distinct.
-/

set_option autoImplicit false

namespace ThalassaCcm
namespace Engine

open Cloud Prog

/-! ## 1. The ports of a load balancer -/

/-- No load balancer has two listeners on one port; identities are fresh. -/
structure PortsUnique (s : State) : Prop where
  fresh : s.Fresh
  ports : ∀ lbId, ((lbListeners s lbId).map (·.port)).Nodup

/-- What a call must meet to keep ports apart: a create on a port the load balancer has
    no listener on, and a rewrite that keeps the rewritten listener's port. -/
def LsGuard (s : State) : Call → Prop
  | .createListener lbId req => req.port ∉ (lbListeners s lbId).map (·.port)
  | .updateListener lbId id req => ∀ l ∈ lbListeners s lbId, l.identity = id → l.port = req.port
  | _ => True

/-- A call that neither creates nor rewrites a listener. -/
def ListenerQuiet : Call → Prop
  | .createListener _ _ | .updateListener _ _ _ => False
  | _ => True

theorem lsGuard_of_quiet {s : State} {c : Call} (h : ListenerQuiet c) : LsGuard s c := by
  cases c <;> first | exact h.elim | trivial

theorem listenerQuiet_of_kindIn {ks : List CallKind} (hks : CallKind.listener ∉ ks) {c : Call}
    (hc : KindIn ks c) : ListenerQuiet c := by
  have h := hc.kind_ne hks
  cases c <;> trivial

/-- A program without listener writes meets the guarantee. -/
theorem wp_listenerQuiet {α : Type} {p : Prog α} (hp : AllCalls ListenerQuiet p) {s : State} :
    Wp (fun _ => True) LsGuard p (fun _ _ => True) (fun _ _ => True) s :=
  (Wp.of_forall (fun _ _ => trivial) (fun _ _ => trivial) fun _ _ => trivial).guar_of_allCalls
    hp fun _ _ hc => lsGuard_of_quiet hc

/-- A rewrite that keeps the rewritten listener's port keeps every load balancer's
    ports. -/
theorem map_port_lbListeners_update (rs : List LbListener) (lbId id lbQ : String)
    (L : VpcLoadbalancerListener)
    (h : ∀ r ∈ rs, r.loadbalancer = lbId → r.listener.identity = id → r.listener.port = L.port) :
    (((rs.map fun r => if r.loadbalancer = lbId ∧ r.listener.identity = id then
        (⟨lbId, L⟩ : LbListener) else r).filter (·.loadbalancer = lbQ)).map
        (·.listener)).map (·.port) =
      ((rs.filter (·.loadbalancer = lbQ)).map (·.listener)).map (·.port) := by
  have hP : (fun r : LbListener => decide (r.loadbalancer = lbQ)) ∘ (fun r =>
      if r.loadbalancer = lbId ∧ r.listener.identity = id then (⟨lbId, L⟩ : LbListener) else r) =
      fun r => decide (r.loadbalancer = lbQ) := funext fun r => by
    simp only [Function.comp]
    split <;> simp_all
  rw [List.filter_map, hP, List.map_map, List.map_map, List.map_map]
  refine List.map_congr_left fun r hr => ?_
  simp only [Function.comp]
  split
  next hc => exact (h r (List.mem_filter.mp hr).1 hc.1 hc.2).symm
  next => rfl

namespace PortsUnique

variable {s : State}

theorem envStable : EnvStable PortsUnique := fun s e h =>
  ⟨h.fresh.applyEnv e, fun lbId => by simpa [lbListeners] using h.ports lbId⟩

theorem empty (subnets : List Subnet) : PortsUnique (State.empty subnets) :=
  ⟨State.Fresh.empty subnets, fun _ => List.nodup_nil⟩

/-- A call the guard allows keeps the ports apart. -/
theorem perform (h : PortsUnique s) {c : Call} (hg : LsGuard s c) :
    PortsUnique (s.perform c).1 := by
  refine ⟨h.fresh.perform c, fun lbQ => ?_⟩
  have hsub : ∀ {rs : List LbListener}, rs.Sublist s.listeners →
      (((rs.filter (·.loadbalancer = lbQ)).map (·.listener)).map (·.port)).Nodup :=
    fun hs => (h.ports lbQ).sublist (((hs.filter _).map _).map _)
  cases c
  case createListener lbId req =>
    simp only [State.perform]
    split
    · by_cases hq : lbId = lbQ
      · subst hq
        simpa [lbListeners, List.filter_append] using
          List.nodup_append.mpr ⟨h.ports lbId, List.nodup_singleton _,
            List.disjoint_singleton.mpr hg⟩
      · simpa [lbListeners, List.filter_append, hq] using h.ports lbQ
    · exact h.ports lbQ
  case updateListener lbId id req =>
    simp only [State.perform]
    split
    · unfold lbListeners
      rw [map_port_lbListeners_update _ _ _ _ _ fun r hr hl hi => hg r.listener
        (List.mem_map_of_mem _ (List.mem_filter.mpr ⟨hr, decide_eq_true hl⟩)) hi]
      exact h.ports lbQ
    · exact h.ports lbQ
  case deleteListener lbId id =>
    simp only [State.perform]
    split
    · exact hsub (List.filter_sublist _)
    · exact h.ports lbQ
  case deleteLoadbalancer id =>
    simp only [State.perform]
    split
    · exact hsub (List.filter_sublist _)
    · exact h.ports lbQ
  case createLoadbalancer => exact h.ports lbQ
  case updateLoadbalancer =>
    simp only [State.perform]
    split <;> exact h.ports lbQ
  all_goals
    rw [lbListeners, State.perform_listeners]
    · exact h.ports lbQ
    all_goals simp [Call.kind]

theorem respond (h : PortsUnique s) {c : Call} (hg : LsGuard s c) (f : Fault) :
    PortsUnique (s.respond c f).1 :=
  State.respond_of_perform s c h (h.perform hg) f

end PortsUnique

/-! ## 2. The listener step -/

section Step

variable {lb : Loadbalancer} {svc : Service} {tgs : List VpcLoadbalancerTargetGroup}
  {desired : List VpcLoadbalancerListener}

/-- During the rewrite loop, with the listed listeners `rest` still to come: the load
    balancer's ports are among the listing's `ports`, and a listener still to come has its
    listed port. -/
structure Listed (ports : List Nat) (rest ls : List VpcLoadbalancerListener) : Prop where
  within : ∀ l ∈ ls, l.port ∈ ports
  pending : ∀ e ∈ rest, ∀ l ∈ ls, l.identity = e.identity → l.port = e.port
  nodup : (rest.map (·.identity)).Nodup

namespace Listed

variable {ports : List Nat} {e : VpcLoadbalancerListener} {rest ls : List VpcLoadbalancerListener}

/-- The loop starts on the listing of the listeners it is given. -/
theorem init {E : List VpcLoadbalancerListener}
    (hE : E.map (fun l => (l.identity, l.port)) = ls.map fun l => (l.identity, l.port))
    (hnodup : (ls.map (·.identity)).Nodup) : Listed (E.map (·.port)) E ls := by
  have hid : E.map (·.identity) = ls.map (·.identity) := by
    simpa [List.map_map, Function.comp_def] using congrArg (List.map Prod.fst) hE
  have hport : E.map (·.port) = ls.map (·.port) := by
    simpa [List.map_map, Function.comp_def] using congrArg (List.map Prod.snd) hE
  refine ⟨fun l hl => hport ▸ List.mem_map_of_mem _ hl, fun e he l hl hle => ?_, hid ▸ hnodup⟩
  obtain ⟨l', hl', he'⟩ := List.mem_map.mp (hE ▸ List.mem_map_of_mem
    (fun l : VpcLoadbalancerListener => (l.identity, l.port)) he)
  simp only [Prod.mk.injEq] at he'
  rw [List.inj_on_of_nodup_map hnodup hl hl' (hle.trans he'.1.symm), he'.2]

theorem skip (h : Listed ports (e :: rest) ls) : Listed ports rest ls :=
  ⟨h.within, fun e' he' => h.pending e' (.tail _ he'), (List.nodup_cons.mp h.nodup).2⟩

/-- A rewrite of the next listed listener, keeping its identity and its port. -/
theorem update {L : VpcLoadbalancerListener} (h : Listed ports (e :: rest) ls)
    (hLi : L.identity = e.identity) (hLp : L.port = e.port) :
    Listed ports rest (ls.map fun l => if l.identity = e.identity then L else l) := by
  have hne : e.identity ∉ rest.map (·.identity) := (List.nodup_cons.mp h.nodup).1
  refine ⟨fun l' hl' => ?_, fun e' he' l' hl' hle => ?_, (List.nodup_cons.mp h.nodup).2⟩
  · obtain ⟨l, hl, rfl⟩ := List.mem_map.mp hl'
    split
    next hli => exact hLp ▸ h.pending e (.head _) l hl hli ▸ h.within l hl
    next => exact h.within l hl
  · obtain ⟨l, hl, rfl⟩ := List.mem_map.mp hl'
    by_cases hli : l.identity = e.identity
    · rw [if_pos hli] at hle
      exact absurd ((hLi.symm.trans hle) ▸ List.mem_map_of_mem (·.identity) he') hne
    · rw [if_neg hli] at hle ⊢
      exact h.pending e' (.tail _ he') l hl hle

theorem delete (h : Listed ports (e :: rest) ls) :
    Listed ports rest (ls.filter (·.identity ≠ e.identity)) :=
  ⟨fun l hl => h.within l (List.mem_filter.mp hl).1,
    fun e' he' l hl => h.pending e' (.tail _ he') l (List.mem_filter.mp hl).1,
    (List.nodup_cons.mp h.nodup).2⟩

end Listed

/-- **The rewrite loop** rewrites a listed listener only into one on its own port, and
    leaves the load balancer's ports among the listing's. -/
theorem wp_updateOrDeleteListeners_guard (lbId : String) (ports : List Nat) :
    ∀ (rest : List VpcLoadbalancerListener) {s : State}, s.Fresh →
      Listed ports rest (lbListeners s lbId) →
      Wp (fun _ => True) LsGuard (updateOrDeleteListeners lb svc lbId desired tgs rest)
        (fun _ s' => s'.Fresh ∧ ∀ l ∈ lbListeners s' lbId, l.port ∈ ports) (fun _ _ => True) s
  | [], _, hf, h => Wp.ret ⟨hf, h.within⟩
  | e :: rest, s, hf, h => by
    simp only [updateOrDeleteListeners, bind_eq, pure_eq, ret_bind]
    split
    next =>
      refine Wp.bind_of (Wp.wrap_inv trivial (Wp.api_guar trivial (fun _ => trivial)
        (wp_deleteListener_ok lbId e.identity hf))) fun _ s₁ h₁ =>
          wp_updateOrDeleteListeners_guard lbId ports rest h₁.1 ?_
      rw [h₁.2]
      exact h.delete
    next d hd =>
      split
      next =>
        have hguard : ∀ es, LsGuard (s.evolve es) (.updateListener lbId e.identity
            (listenerRequest d (getTargetGroupIdentityForListener lb svc d tgs))) :=
          fun es l hl hi => by
            rw [lbListeners_evolve] at hl
            exact (h.pending e (.head _) l hl hi).trans (mem_of_lastOnPort hd).2.symm
        refine Wp.bind_of (Wp.wrap_inv trivial (Wp.api_guar trivial hguard
          (wp_updateListener_ok lbId e.identity _ hf))) fun _ s₁ h₁ =>
            wp_updateOrDeleteListeners_guard lbId ports rest h₁.1 ?_
        rw [h₁.2]
        exact h.update rfl (mem_of_lastOnPort hd).2
      next => exact wp_updateOrDeleteListeners_guard lbId ports rest hf h.skip

/-- **The creation loop** creates a listener only on a port the load balancer has none
    on: not among the listing's, and not created before, the desired ports being
    distinct. -/
theorem wp_createMissingListeners_guard (lbId : String) (ports : List Nat) :
    ∀ (todo : List VpcLoadbalancerListener), (todo.map (·.port)).Nodup → ∀ {s : State},
      s.Fresh → (∀ l ∈ lbListeners s lbId, l.port ∈ ports ∨ l.port ∉ todo.map (·.port)) →
      Wp (fun _ => True) LsGuard (createMissingListeners lb svc lbId ports tgs todo)
        (fun _ _ => True) (fun _ _ => True) s
  | [], _, _, _, _ => Wp.ret trivial
  | d :: todo, hnd, s, hf, h => by
    rw [List.map_cons, List.nodup_cons] at hnd
    have hrest : ∀ l ∈ lbListeners s lbId, l.port ∈ ports ∨ l.port ∉ todo.map (·.port) :=
      fun l hl => (h l hl).imp_right fun hn hm => hn (.tail _ hm)
    simp only [createMissingListeners, bind_eq, pure_eq, ret_bind]
    split
    next hnp =>
      split
      next =>
        have hguard : ∀ es, LsGuard (s.evolve es) (.createListener lbId
            (listenerRequest d (getTargetGroupIdentityForListener lb svc d tgs))) :=
          fun es hm => by
            rw [lbListeners_evolve] at hm
            obtain ⟨l, hl, hlp⟩ := List.mem_map.mp hm
            have hlp : l.port = d.port := hlp
            rcases h l hl with hp | hp
            · exact hnp (hlp ▸ hp)
            · exact hp (hlp ▸ .head _)
        refine Wp.bind_of (Wp.wrap_inv trivial (Wp.api_guar trivial hguard
          (wp_createListener_ok lbId _ hf))) fun _ s₁ ⟨hf₁, _, hls⟩ =>
            wp_createMissingListeners_guard lbId ports todo hnd.2 hf₁ fun l hl => ?_
        rw [hls, List.mem_append, List.mem_singleton] at hl
        rcases hl with hl | rfl
        · exact hrest l hl
        · exact .inr hnd.1
      next => exact wp_createMissingListeners_guard lbId ports todo hnd.2 hf hrest
    next => exact wp_createMissingListeners_guard lbId ports todo hnd.2 hf hrest

/-- **The listener step** of a Service with distinct port numbers makes only listener
    writes the guard allows. -/
theorem wp_updateVpcLoadbalancerListener_guard (x : VpcLoadbalancer)
    (hnums : (svc.ports.map (·.port)).Nodup) {s : State} (hf : s.Fresh) :
    Wp (fun _ => True) LsGuard
      (updateVpcLoadbalancerListener lb svc x (desiredVpcLoadbalancerListener lb svc) tgs)
      (fun _ _ => True) (fun _ _ => True) s := by
  have hdnd : ((desiredVpcLoadbalancerListener lb svc).map (·.port)).Nodup :=
    map_port_desiredVpcLoadbalancerListener lb svc ▸ hnums
  simp only [updateVpcLoadbalancerListener, bind_eq, pure_eq, ret_bind]
  refine Wp.bind_of (Wp.wrap_inv trivial (Wp.api_guar trivial (fun _ => trivial)
    (wp_listListeners_ok x.identity hf))) fun existing s₁ ⟨hf₁, hls₁, hE⟩ => ?_
  have hlisted : Listed (existing.map (·.port)) existing (lbListeners s₁ x.identity) :=
    hls₁ ▸ Listed.init hE (nodup_lbListeners_identity hf x.identity)
  have hcreate : ∀ t : State, t.Fresh →
      (∀ l ∈ lbListeners t x.identity, l.port ∈ existing.map (·.port)) →
      Wp (fun _ => True) LsGuard (createMissingListeners lb svc x.identity
        (existing.map (·.port)) tgs (desiredVpcLoadbalancerListener lb svc))
        (fun _ _ => True) (fun _ _ => True) t :=
    fun t ht hw => wp_createMissingListeners_guard _ _ _ hdnd ht fun l hl => .inl (hw l hl)
  split
  · exact Wp.bind_of (wp_updateOrDeleteListeners_guard x.identity _ existing hf₁ hlisted)
      fun _ t h => hcreate t h.1 h.2
  · exact hcreate s₁ hf₁ hlisted.within

end Step

/-! ## 3. Runs -/

/-- **The reconcile step** makes only listener writes the guard allows: the listener step
    is guarded, and the target-group, cleanup and write-back steps write no listener. -/
theorem wp_updateVpcLoadbalancerListenersAndTargetGroups_lsGuard (lb : Loadbalancer)
    (svc : Service) (nodes : List Node) (x : VpcLoadbalancer)
    (hnums : (svc.ports.map (·.port)).Nodup) {s : State} (hf : s.Fresh) :
    Wp (fun _ => True) LsGuard (updateVpcLoadbalancerListenersAndTargetGroups lb svc nodes x)
      (fun _ _ => True) (fun _ _ => True) s :=
  wp_updateVpcLoadbalancerListenersAndTargetGroups_of
    (fun ds _ => ((wp_listenerQuiet ((calls_createOrUpdateTargetGroups lb svc ds nodes).mono
      fun _ => listenerQuiet_of_kindIn (by decide))).frame_of_guar State.Fresh.envStable
      (fun _ c f _ h => h.respond c f) hf).mono (fun _ _ h => h.2) fun _ _ _ => trivial)
    (fun _ _ hf₂ => wp_updateVpcLoadbalancerListener_guard x hnums hf₂)
    (fun tgs _ _ => wp_listenerQuiet ((calls_cleanupUnusedTargetGroups lb svc tgs).mono
      fun _ => listenerQuiet_of_kindIn (by decide)))
    (fun _ _ _ => wp_listenerQuiet ((calls_updateVpcLoadbalancer_kinds lb svc x _).mono
      fun _ => listenerQuiet_of_kindIn (by decide)))

/-- Every operation for a Service with distinct port numbers makes only listener writes
    the guard allows, however it ends. -/
theorem Op.wp_lsGuard (op : Op) (hnums : (op.svc.ports.map (·.port)).Nodup) {s : State}
    (hf : s.Fresh) :
    Wp (fun _ => True) LsGuard op.prog (fun _ _ => True) (fun _ _ => True) s :=
  @Op.wp_of_reconcile LsGuard ListenerQuiet op (fun _ _ hc => lsGuard_of_quiet hc)
    (fun _ => listenerQuiet_of_kindIn (by decide))
    ((calls_ensureLoadBalancerDeleted op.lb op.svc).mono fun _ hc => by
      rcases hc with hc | ⟨_, rfl⟩
      · exact listenerQuiet_of_kindIn (by decide) hc
      · trivial)
    (fun nodes x _ ht => wp_updateVpcLoadbalancerListenersAndTargetGroups_lsGuard _ _ nodes x
      hnums ht) _ hf

/-- Every operation keeps the ports apart, however it ends. -/
theorem Op.wp_portsUnique (op : Op) (hnums : (op.svc.ports.map (·.port)).Nodup) {s : State}
    (hs : PortsUnique s) :
    Wp (fun _ => True) LsGuard op.prog (fun _ => PortsUnique) (fun _ => PortsUnique) s :=
  ((op.wp_lsGuard hnums hs.fresh).frame_of_guar PortsUnique.envStable
    (fun _ _ f hg h => h.respond hg f) hs).mono (fun _ _ h => h.2) fun _ _ h => h.2

/-- **One listener per port.** No load balancer of an empty VPC has two listeners on one
    port. From every cloud where none has and whose identities are fresh, every operation
    for a Service with distinct port numbers, under any schedule and failing wherever it
    may, leaves a cloud where none has; on the way it creates a listener only on a port its
    load balancer has none on, and rewrites one only keeping its port. -/
theorem listenerPorts_unique (subnets : List Subnet) :
    PortsUnique (State.empty subnets) ∧
    ∀ (op : Op) (s : State) (ts : List Tick), (op.svc.ports.map (·.port)).Nodup →
      PortsUnique s →
      PortsUnique (exec op.prog ts s).state ∧ ∀ x ∈ issued op.prog ts s, LsGuard x.1 x.2 :=
  ⟨PortsUnique.empty subnets, fun op _ ts hnums hs =>
    ⟨(op.wp_portsUnique hnums hs).state ts fun _ _ => trivial,
      ((op.wp_portsUnique hnums hs) ts fun _ _ => trivial).1⟩⟩

theorem listenerPorts_unique_web :
    (webService.ports.map (·.port)).Nodup ∧
    PortsUnique (State.empty [⟨"subnet-1", "main"⟩]) ∧
    PortsUnique (exec (Op.prog ⟨configWithLabels [], webService, .ensure [] []⟩) []
      (State.empty [⟨"subnet-1", "main"⟩])).state :=
  ⟨by decide, PortsUnique.empty _,
    ((listenerPorts_unique [⟨"subnet-1", "main"⟩]).2 ⟨configWithLabels [], webService,
      .ensure [] []⟩ _ [] (by decide) (PortsUnique.empty _)).1⟩

end Engine
end ThalassaCcm
