import ThalassaCcm.Proof.TargetGroups

/-!
# What the listener step leaves

`updateVpcLoadbalancerListener` lists the load balancer's listeners once. Unless the listing
equals the desired list, it rewrites every listed listener from the last desired listener on
its port, or deletes it when no desired listener has the port; then it creates a listener for
every desired listener whose port the listing did not have. Nothing in it checks three things
its result depends on:

* **distinct desired ports.** The port maps keep the last desired listener on a port, and the
  creation loop walks the desired list, so two desired listeners on one port end as two
  listeners with one request, or one listener for the two;
* **every desired listener resolves to a target group.** One that does not is skipped with a
  warning, and the listed listener it should rewrite keeps its old request;
* **a desired listener has no identity**, so that the listing, whose identities the cloud
  handed out, equals the desired list only when both are empty.

Under those three, a successful run leaves every listener of the load balancer built from the
request of a desired listener, with its resolved target group, and a listener on every desired
port; when the load balancer's listeners had distinct ports, it then has exactly one listener
per desired listener (`updateVpcLoadbalancerListener_reconciles`).

The argument reads the step on the list of the load balancer's own listeners
(`lbListeners`): each call changes that list in one way (`wp_updateListener_ok` and its
siblings), the rewrite loop keeps `Rewriting`, and the creation loop appends.

In a reconcile the three hold for a Service with distinct ports and distinct
`(protocol, nodePort)` pairs, when the operator's labels leave the port key to the Service:
the desired listeners come without identity, one per port, and each resolves against the
groups `createOrUpdateTargetGroups` returned (sections 6 and 7). Every listener of the load
balancer then forwards to a target group of the cloud with its port's protocol and node port
(`updateVpcLoadbalancerListenersAndTargetGroups_forwards`). `Proof/Listeners.lean` shows the
run that breaks when the operator sets the port key.
-/

set_option autoImplicit false

namespace ThalassaCcm
namespace Engine

open Cloud Prog StrMap

/-! ## 1. The listeners of one load balancer -/

/-- The listeners of the load balancer `lbId`, in the cloud's order. -/
def lbListeners (s : State) (lbId : String) : List VpcLoadbalancerListener :=
  (s.listeners.filter (·.loadbalancer = lbId)).map (·.listener)

@[simp] theorem lbListeners_evolve (s : State) (es : List EnvEvent) (lbId : String) :
    lbListeners (s.evolve es) lbId = lbListeners s lbId := by
  simp [lbListeners]

/-- A rewrite of one listener, seen from its load balancer. -/
theorem lbListeners_map_update (rs : List LbListener) (lbId id : String)
    (L : VpcLoadbalancerListener) :
    ((rs.map fun r => if r.loadbalancer = lbId ∧ r.listener.identity = id then
        (⟨lbId, L⟩ : LbListener) else r).filter (·.loadbalancer = lbId)).map (·.listener) =
      ((rs.filter (·.loadbalancer = lbId)).map (·.listener)).map fun l =>
        if l.identity = id then L else l := by
  induction rs with
  | nil => rfl
  | cons r rs ih =>
    by_cases hl : r.loadbalancer = lbId <;> by_cases hi : r.listener.identity = id <;>
      simp [hl, hi, ih]

/-- A deletion of one listener, seen from its load balancer. -/
theorem lbListeners_filter_delete (rs : List LbListener) (lbId id : String) :
    ((rs.filter fun r => ¬ (r.loadbalancer = lbId ∧ r.listener.identity = id)).filter
        (·.loadbalancer = lbId)).map (·.listener) =
      ((rs.filter (·.loadbalancer = lbId)).map (·.listener)).filter (·.identity ≠ id) := by
  induction rs with
  | nil => rfl
  | cons r rs ih =>
    by_cases hl : r.loadbalancer = lbId <;> by_cases hi : r.listener.identity = id <;>
      simp only [List.filter_cons, hl, hi, and_self, and_true, and_false, not_true_eq_false,
        not_false_eq_true, decide_True, decide_False, if_true, if_false, List.map_cons, ih,
        ne_eq, Bool.false_eq_true]

section Calls

variable {s : State}

theorem wp_listListeners_ok (lbId : String) (hf : s.Fresh) :
    Wp (fun _ => True) (fun _ _ => True) (api (.listListeners lbId))
      (fun r s' => s'.Fresh ∧ lbListeners s' lbId = lbListeners s lbId ∧
        r.map (fun l => (l.identity, l.port)) =
          (lbListeners s lbId).map fun l => (l.identity, l.port))
      (fun _ _ => True) s :=
  wp_api_ok fun es v hv => by
    simp only [State.perform, Except.ok.injEq] at hv ⊢
    subst hv
    refine ⟨State.Fresh.envStable.evolve hf es, lbListeners_evolve s es lbId, ?_⟩
    rw [← lbListeners_evolve s es lbId, lbListeners]
    simp [State.listenerView]

theorem wp_updateListener_ok (lbId id : String) (req : ListenerRequest) (hf : s.Fresh) :
    Wp (fun _ => True) (fun _ _ => True) (api (.updateListener lbId id req))
      (fun _ s' => s'.Fresh ∧ lbListeners s' lbId =
        (lbListeners s lbId).map fun l => if l.identity = id then State.listenerOf id req else l)
      (fun _ _ => True) s :=
  wp_api_ok fun es v hv => by
    refine ⟨(State.Fresh.envStable.evolve hf es).perform _, ?_⟩
    simp only [State.perform] at hv ⊢
    split at hv
    next hany =>
      rw [if_pos hany, ← lbListeners_evolve s es lbId]
      exact lbListeners_map_update _ lbId id _
    next => cases hv

theorem wp_deleteListener_ok (lbId id : String) (hf : s.Fresh) :
    Wp (fun _ => True) (fun _ _ => True) (api (.deleteListener lbId id))
      (fun _ s' => s'.Fresh ∧ lbListeners s' lbId = (lbListeners s lbId).filter (·.identity ≠ id))
      (fun _ _ => True) s :=
  wp_api_ok fun es v hv => by
    refine ⟨(State.Fresh.envStable.evolve hf es).perform _, ?_⟩
    simp only [State.perform] at hv ⊢
    split at hv
    next hany =>
      rw [if_pos hany, ← lbListeners_evolve s es lbId]
      exact lbListeners_filter_delete _ lbId id
    next => cases hv

theorem wp_createListener_ok (lbId : String) (req : ListenerRequest) (hf : s.Fresh) :
    Wp (fun _ => True) (fun _ _ => True) (api (.createListener lbId req))
      (fun _ s' => s'.Fresh ∧
        ∃ id, lbListeners s' lbId = lbListeners s lbId ++ [State.listenerOf id req])
      (fun _ _ => True) s :=
  wp_api_ok fun es v hv => by
    refine ⟨(State.Fresh.envStable.evolve hf es).perform _, ?_⟩
    simp only [State.perform] at hv ⊢
    split at hv
    next hany =>
      rw [if_pos hany, ← lbListeners_evolve s es lbId]
      exact ⟨freshId (s.evolve es).nextId, by simp [lbListeners]⟩
    next => cases hv

end Calls

/-! ## 2. The last desired listener on a port -/

theorem mem_of_lastOnPort {desired : List VpcLoadbalancerListener} {port : Nat}
    {d : VpcLoadbalancerListener} (h : lastOnPort desired port = some d) :
    d ∈ desired ∧ d.port = port := by
  have hm := List.mem_filter.mp (List.mem_of_getLast?_eq_some h)
  exact ⟨hm.1, of_decide_eq_true hm.2⟩

theorem lastOnPort_eq_none_iff {desired : List VpcLoadbalancerListener} {port : Nat} :
    lastOnPort desired port = none ↔ port ∉ desired.map (·.port) := by
  simp [lastOnPort, List.getLast?_eq_none_iff, List.filter_eq_nil_iff]

/-! ## 3. The rewrite loop -/

section Rewrite

variable (lb : Loadbalancer) (svc : Service) (tgs : List VpcLoadbalancerTargetGroup)
  (desired : List VpcLoadbalancerListener)

/-- The request the step sends for a desired listener, with its resolved target group. -/
def desiredRequest (d : VpcLoadbalancerListener) : ListenerRequest :=
  listenerRequest d (getTargetGroupIdentityForListener lb svc d tgs)

/-- A listener built from the request of a desired listener. -/
def FromDesired (l : VpcLoadbalancerListener) : Prop :=
  ∃ d ∈ desired, l = State.listenerOf l.identity (desiredRequest lb svc tgs d)

/-- During the rewrite loop over a listing `ls₀`, with the listed listeners `rest` still to
    come and the load balancer's listeners now `ls`: each is rewritten or still to come,
    their ports are the listing's less the deleted ones, a listed listener on a desired port
    still has its port, and a listener still to come has its listed port. -/
structure Rewriting (ls₀ rest ls : List VpcLoadbalancerListener) : Prop where
  written : ∀ l ∈ ls, FromDesired lb svc tgs desired l ∨ l.identity ∈ rest.map (·.identity)
  ports : (ls.map (·.port)).Sublist (ls₀.map (·.port))
  kept : ∀ l₀ ∈ ls₀, l₀.port ∈ desired.map (·.port) → l₀.port ∈ ls.map (·.port)
  pending : ∀ e ∈ rest, ∀ l ∈ ls, l.identity = e.identity → l.port = e.port
  nodup : (rest.map (·.identity)).Nodup

variable {lb svc tgs desired}

/-- The loop starts on the listing of the listeners it is given. -/
theorem Rewriting.init {ls₀ E : List VpcLoadbalancerListener}
    (hE : E.map (fun l => (l.identity, l.port)) = ls₀.map fun l => (l.identity, l.port))
    (hnodup : (ls₀.map (·.identity)).Nodup) : Rewriting lb svc tgs desired ls₀ E ls₀ := by
  have hid : E.map (·.identity) = ls₀.map (·.identity) := by
    simpa [List.map_map, Function.comp_def] using congrArg (List.map Prod.fst) hE
  refine ⟨fun l hl => .inr (hid ▸ List.mem_map_of_mem _ hl), List.Sublist.refl _,
    fun l₀ hl₀ _ => List.mem_map_of_mem _ hl₀, fun e he l hl hle => ?_, hid ▸ hnodup⟩
  obtain ⟨l', hl', he'⟩ := List.mem_map.mp (hE ▸ List.mem_map_of_mem
    (fun l : VpcLoadbalancerListener => (l.identity, l.port)) he)
  simp only [Prod.mk.injEq] at he'
  rw [List.inj_on_of_nodup_map hnodup hl hl' (hle.trans he'.1.symm), he'.2]

/-- A rewrite keeps the invariant: the rewritten listener keeps its identity and port. -/
theorem Rewriting.update {ls₀ rest ls : List VpcLoadbalancerListener}
    {e d : VpcLoadbalancerListener} (h : Rewriting lb svc tgs desired ls₀ (e :: rest) ls)
    (hd : lastOnPort desired e.port = some d) :
    Rewriting lb svc tgs desired ls₀ rest (ls.map fun l =>
      if l.identity = e.identity then State.listenerOf e.identity (desiredRequest lb svc tgs d)
      else l) := by
  obtain ⟨hdm, hdp⟩ := mem_of_lastOnPort hd
  have hne : e.identity ∉ rest.map (·.identity) := (List.nodup_cons.mp h.nodup).1
  have hport : ∀ l ∈ ls, (if l.identity = e.identity then
      State.listenerOf e.identity (desiredRequest lb svc tgs d) else l).port = l.port := by
    intro l hl
    split
    next hle => exact hdp.trans (h.pending e (.head _) l hl hle).symm
    next => rfl
  have hports : (ls.map fun l => if l.identity = e.identity then
      State.listenerOf e.identity (desiredRequest lb svc tgs d) else l).map (·.port) =
      ls.map (·.port) := by
    rw [List.map_map]; exact List.map_congr_left hport
  refine ⟨fun l' hl' => ?_, hports ▸ h.ports, fun l₀ hl₀ hp => hports ▸ h.kept l₀ hl₀ hp,
    fun e' he' l' hl' hle => ?_, (List.nodup_cons.mp h.nodup).2⟩
  · obtain ⟨l, hl, rfl⟩ := List.mem_map.mp hl'
    split
    next => exact .inl ⟨d, hdm, rfl⟩
    next hle =>
      rcases h.written l hl with hw | hw
      · exact .inl hw
      · exact .inr ((List.mem_cons.mp hw).resolve_left hle)
  · obtain ⟨l, hl, rfl⟩ := List.mem_map.mp hl'
    by_cases hli : l.identity = e.identity
    · rw [if_pos hli] at hle
      have hee : e.identity = e'.identity := hle
      exact absurd (hee ▸ List.mem_map_of_mem (·.identity) he') hne
    · rw [if_neg hli] at hle ⊢
      exact h.pending e' (.tail _ he') l hl hle

/-- A deletion keeps the invariant: the deleted listener is on a port no desired listener
    has. -/
theorem Rewriting.delete {ls₀ rest ls : List VpcLoadbalancerListener}
    {e : VpcLoadbalancerListener} (h : Rewriting lb svc tgs desired ls₀ (e :: rest) ls)
    (hd : lastOnPort desired e.port = none) :
    Rewriting lb svc tgs desired ls₀ rest (ls.filter (·.identity ≠ e.identity)) := by
  have hnot := lastOnPort_eq_none_iff.mp hd
  refine ⟨fun l hl => ?_, ((List.filter_sublist ls).map _).trans h.ports,
    fun l₀ hl₀ hp => ?_, fun e' he' l hl => h.pending e' (.tail _ he') l
      (List.mem_filter.mp hl).1, (List.nodup_cons.mp h.nodup).2⟩
  · obtain ⟨hl, hne⟩ := List.mem_filter.mp hl
    rcases h.written l hl with hw | hw
    · exact .inl hw
    · exact .inr ((List.mem_cons.mp hw).resolve_left (of_decide_eq_true hne))
  · obtain ⟨l, hl, hlp⟩ := List.mem_map.mp (h.kept l₀ hl₀ hp)
    refine List.mem_map.mpr ⟨l, List.mem_filter.mpr ⟨hl, decide_eq_true fun hle => ?_⟩, hlp⟩
    exact hnot ((h.pending e (.head _) l hl hle) ▸ hlp ▸ hp)

/-- **The rewrite loop**, on success, with every desired listener resolving. -/
theorem wp_updateOrDeleteListeners
    (hres : ∀ d ∈ desired, getTargetGroupIdentityForListener lb svc d tgs ≠ "")
    (lbId : String) (ls₀ : List VpcLoadbalancerListener) :
    ∀ (rest : List VpcLoadbalancerListener) {s : State}, s.Fresh →
      Rewriting lb svc tgs desired ls₀ rest (lbListeners s lbId) →
      Wp (fun _ => True) (fun _ _ => True) (updateOrDeleteListeners lb svc lbId desired tgs rest)
        (fun _ s' => s'.Fresh ∧ Rewriting lb svc tgs desired ls₀ [] (lbListeners s' lbId))
        (fun _ _ => True) s
  | [], _, hf, h => Wp.ret ⟨hf, h⟩
  | e :: rest, s, hf, h => by
    simp only [updateOrDeleteListeners, bind_eq, pure_eq, ret_bind]
    split
    next hd =>
      refine Wp.bind_of (Wp.wrap_inv trivial (wp_deleteListener_ok lbId e.identity hf))
        fun _ s₁ h₁ => wp_updateOrDeleteListeners hres lbId ls₀ rest h₁.1 ?_
      rw [h₁.2]; exact h.delete hd
    next d hd =>
      split
      next =>
        refine Wp.bind_of (Wp.wrap_inv trivial (wp_updateListener_ok lbId e.identity _ hf))
          fun _ s₁ h₁ => wp_updateOrDeleteListeners hres lbId ls₀ rest h₁.1 ?_
        rw [h₁.2]; exact h.update hd
      next hskip => exact absurd (not_not.mp hskip) (hres d (mem_of_lastOnPort hd).1)

end Rewrite

/-! ## 4. The creation loop -/

section Create

variable {lb : Loadbalancer} {svc : Service} {tgs : List VpcLoadbalancerTargetGroup}
  {desired : List VpcLoadbalancerListener}

/-- **The creation loop**, on success, with every desired listener resolving: it appends one
    listener built from each desired listener whose port is not listed. -/
theorem wp_createMissingListeners
    (hres : ∀ d ∈ desired, getTargetGroupIdentityForListener lb svc d tgs ≠ "")
    (lbId : String) (ports : List Nat) :
    ∀ (todo : List VpcLoadbalancerListener) {s : State}, (∀ d ∈ todo, d ∈ desired) → s.Fresh →
      Wp (fun _ => True) (fun _ _ => True) (createMissingListeners lb svc lbId ports tgs todo)
        (fun _ s' => s'.Fresh ∧
          (lbListeners s' lbId).map (·.port) =
            (lbListeners s lbId).map (·.port) ++ (todo.filter (·.port ∉ ports)).map (·.port) ∧
          ∀ l ∈ lbListeners s' lbId, l ∈ lbListeners s lbId ∨ FromDesired lb svc tgs desired l)
        (fun _ _ => True) s
  | [], _, _, hf => Wp.ret ⟨hf, by simp, fun _ h => .inl h⟩
  | d :: todo, s, hds, hf => by
    have htodo : ∀ d' ∈ todo, d' ∈ desired := fun d' h => hds d' (.tail _ h)
    simp only [createMissingListeners, bind_eq, pure_eq, ret_bind]
    split
    next hnew =>
      split
      next =>
        refine Wp.bind_of (Wp.wrap_inv trivial (wp_createListener_ok lbId _ hf))
          fun _ s₁ ⟨hf₁, id, hl₁⟩ =>
            (wp_createMissingListeners hres lbId ports todo htodo hf₁).mono
              (fun _ s₂ ⟨hf₂, hp₂, hw₂⟩ => ⟨hf₂, ?_, fun l hl => ?_⟩) fun _ _ _ => trivial
        · rw [hp₂, hl₁]
          simp [List.filter_cons, hnew, State.listenerOf, listenerRequest]
        · rcases hw₂ l hl with hl' | hl'
          · rw [hl₁] at hl'
            rcases List.mem_append.mp hl' with hl' | hl'
            · exact .inl hl'
            · exact .inr ⟨d, hds d (.head _), by rw [List.mem_singleton.mp hl']; rfl⟩
          · exact .inr hl'
      next hskip => exact absurd (not_not.mp hskip) (hres d (hds d (.head _)))
    next hold =>
      refine (wp_createMissingListeners hres lbId ports todo htodo hf).mono
        (fun _ s₂ ⟨hf₂, hp₂, hw₂⟩ => ⟨hf₂, ?_, hw₂⟩) fun _ _ _ => trivial
      rw [hp₂, List.filter_cons_of_neg (by simpa using hold)]

end Create

/-! ## 5. The listener step -/

theorem nodup_lbListeners_identity {s : State} (hf : s.Fresh) (lbId : String) :
    ((lbListeners s lbId).map (·.identity)).Nodup := by
  rw [lbListeners, List.map_map]
  exact hf.listeners.1.sublist ((List.filter_sublist _).map _)

/-- The cloud names a listener with an identity it handed out, never `""`. -/
theorem identity_ne_empty_of_mem_lbListeners {s : State} (hf : s.Fresh) {lbId : String}
    {l : VpcLoadbalancerListener} (hl : l ∈ lbListeners s lbId) : l.identity ≠ "" := by
  obtain ⟨r, hr, rfl⟩ := List.mem_map.mp hl
  obtain ⟨m, -, hm⟩ := hf.listeners.2 _ (List.mem_map_of_mem _ (List.mem_filter.mp hr).1)
  rw [hm]
  exact freshId_ne_empty m

variable (lb : Loadbalancer) (svc : Service) (tgs : List VpcLoadbalancerTargetGroup)
  (desired : List VpcLoadbalancerListener)

/-- What the listener step leaves of the load balancer `lbId`'s listeners, from `s` to `s'`:
    each built from a desired listener's request, one on every desired port, and, when the
    ports were distinct in `s`, exactly the desired ports. -/
structure ListenersReconciled (lbId : String) (s s' : State) : Prop where
  fromDesired : ∀ l ∈ lbListeners s' lbId, FromDesired lb svc tgs desired l
  covered : ∀ d ∈ desired, d.port ∈ (lbListeners s' lbId).map (·.port)
  onePerPort : ((lbListeners s lbId).map (·.port)).Nodup →
    ((lbListeners s' lbId).map (·.port)).Perm (desired.map (·.port))

variable {lb svc tgs desired}

/-- After the rewrite loop, the creation loop leaves every listener built from a desired
    one, and a listener on every desired port; with distinct ports before, one per desired
    listener. -/
theorem wp_createMissingListeners_reconciles (hports : (desired.map (·.port)).Nodup)
    (hres : ∀ d ∈ desired, getTargetGroupIdentityForListener lb svc d tgs ≠ "")
    (lbId : String) {ls₀ : List VpcLoadbalancerListener} {s : State} (hf : s.Fresh)
    (h : Rewriting lb svc tgs desired ls₀ [] (lbListeners s lbId)) :
    Wp (fun _ => True) (fun _ _ => True)
      (createMissingListeners lb svc lbId (ls₀.map (·.port)) tgs desired)
      (fun _ s' => (∀ l ∈ lbListeners s' lbId, FromDesired lb svc tgs desired l) ∧
        (∀ d ∈ desired, d.port ∈ (lbListeners s' lbId).map (·.port)) ∧
        ((ls₀.map (·.port)).Nodup →
          ((lbListeners s' lbId).map (·.port)).Perm (desired.map (·.port))))
      (fun _ _ => True) s := by
  refine (wp_createMissingListeners hres lbId _ desired (fun _ h => h) hf).mono
    (fun _ s' ⟨_, hp, hw⟩ => ?_) fun _ _ _ => trivial
  have hfrom : ∀ l ∈ lbListeners s' lbId, FromDesired lb svc tgs desired l := fun l hl =>
    (hw l hl).elim (fun hl => (h.written l hl).resolve_right (List.not_mem_nil _)) id
  have hcover : ∀ d ∈ desired, d.port ∈ (lbListeners s' lbId).map (·.port) := by
    intro d hd
    rw [hp]
    by_cases hin : d.port ∈ ls₀.map (·.port)
    · obtain ⟨l₀, hl₀, hp₀⟩ := List.mem_map.mp hin
      exact List.mem_append_left _ (hp₀ ▸ h.kept l₀ hl₀ (hp₀ ▸ List.mem_map_of_mem _ hd))
    · exact List.mem_append_right _
        (List.mem_map_of_mem _ (List.mem_filter.mpr ⟨hd, decide_eq_true hin⟩))
  refine ⟨hfrom, hcover, fun hn => ?_⟩
  have hnd : ((lbListeners s' lbId).map (·.port)).Nodup := by
    rw [hp]
    refine (hn.sublist h.ports).append (hports.sublist ((List.filter_sublist _).map _))
      fun a ha hb => ?_
    obtain ⟨d, hd, rfl⟩ := List.mem_map.mp hb
    exact of_decide_eq_true (List.mem_filter.mp hd).2 (h.ports.subset ha)
  refine (List.perm_ext_iff_of_nodup hnd hports).mpr fun p => ⟨fun hp' => ?_, fun hp' => ?_⟩
  · obtain ⟨l, hl, rfl⟩ := List.mem_map.mp hp'
    obtain ⟨d, hd, hld⟩ := hfrom l hl
    rw [show l.port = d.port from congrArg (·.port) hld]
    exact List.mem_map_of_mem _ hd
  · obtain ⟨d, hd, rfl⟩ := List.mem_map.mp hp'
    exact hcover d hd

/-- **The listener step.** From a cloud whose identities are fresh, for desired listeners
    with no identity and distinct ports that all resolve to a target group, a successful
    `updateVpcLoadbalancerListener` leaves every listener of the load balancer built from
    the request of a desired listener, with its resolved group, and a listener on every
    desired port; when the load balancer's listeners had distinct ports, their ports are
    then the desired ports, each once. -/
theorem updateVpcLoadbalancerListener_reconciles (lb : Loadbalancer) (svc : Service)
    (x : VpcLoadbalancer) (desired : List VpcLoadbalancerListener)
    (tgs : List VpcLoadbalancerTargetGroup) {s : State} (hf : s.Fresh)
    (hnoid : ∀ d ∈ desired, d.identity = "") (hports : (desired.map (·.port)).Nodup)
    (hres : ∀ d ∈ desired, getTargetGroupIdentityForListener lb svc d tgs ≠ "") :
    Wp (fun _ => True) (fun _ _ => True) (updateVpcLoadbalancerListener lb svc x desired tgs)
      (fun _ s' => ListenersReconciled lb svc tgs desired x.identity s s') (fun _ _ => True) s := by
  simp only [updateVpcLoadbalancerListener, bind_eq, pure_eq, ret_bind]
  refine Wp.bind_of (Wp.wrap_inv trivial (wp_listListeners_ok x.identity hf))
    fun existing s₁ ⟨hf₁, hl₁, hE⟩ => ?_
  have hEport : existing.map (·.port) = (lbListeners s x.identity).map (·.port) := by
    simpa [List.map_map, Function.comp_def] using congrArg (List.map Prod.snd) hE
  have hinit : Rewriting lb svc tgs desired (lbListeners s x.identity) existing
      (lbListeners s₁ x.identity) := by
    rw [hl₁]; exact Rewriting.init hE (nodup_lbListeners_identity hf _)
  rw [hEport]
  split
  next =>
    exact Wp.bind_of (wp_updateOrDeleteListeners hres x.identity _ existing hf₁ hinit)
      fun _ s₂ h₂ => (wp_createMissingListeners_reconciles hports hres _ h₂.1 h₂.2).mono
        (fun _ _ h => ⟨h.1, h.2.1, h.2.2⟩) fun _ _ _ => trivial
  next heq =>
    -- the listing equals the desired list, so the load balancer had no listener
    have hidE : existing.map (·.identity) = (lbListeners s x.identity).map (·.identity) := by
      simpa [List.map_map, Function.comp_def] using congrArg (List.map Prod.fst) hE
    have h0 : lbListeners s x.identity = [] := List.eq_nil_iff_forall_not_mem.mpr fun l hl => by
      have hmem : l.identity ∈ existing.map (·.identity) :=
        hidE ▸ List.mem_map_of_mem (·.identity) hl
      obtain ⟨e, he, hle⟩ := List.mem_map.mp hmem
      have he' : e ∈ desired := (not_not.mp heq) ▸ he
      exact identity_ne_empty_of_mem_lbListeners hf hl (hle.symm.trans (hnoid e he'))
    refine (wp_createMissingListeners_reconciles hports hres _ hf₁ ?_).mono
      (fun _ _ h => ⟨h.1, h.2.1, h.2.2⟩) fun _ _ _ => trivial
    rw [hl₁, h0]
    exact ⟨nofun, .slnil, nofun, nofun, List.nodup_nil⟩

/-! ## 6. What the target-group step returns

The listener step resolves a desired listener against the groups `createOrUpdateTargetGroups`
returned, not against the cloud. A returned group has an identity the cloud handed out, the
labels and key of a desired group, and is in the cloud under its identity and key
(`ReturnedIn`); the two loops keep every group's identity and key (`KeysKept`), so a group
returned early stays so. -/

section Returned

variable {ds : List VpcLoadbalancerTargetGroup}

/-- The cloud `s` has a group under the identity `id` with the key `key`. -/
def HasGroup (s : State) (id : String) (key : String × Nat) : Prop :=
  ∃ t ∈ s.targetGroups, t.identity = id ∧ targetGroupKey t = key

/-- Every group of `s` is in `s'` under its identity and key. -/
def KeysKept (s s' : State) : Prop :=
  ∀ t ∈ s.targetGroups, HasGroup s' t.identity (targetGroupKey t)

theorem KeysKept.hasGroup {s s' : State} (hk : KeysKept s s') {id : String}
    {key : String × Nat} (h : HasGroup s id key) : HasGroup s' id key := by
  obtain ⟨t, ht, rfl, rfl⟩ := h
  exact hk t ht

theorem KeysKept.refl (s : State) : KeysKept s s := fun t ht => ⟨t, ht, rfl, rfl⟩

theorem KeysKept.trans {s₁ s₂ s₃ : State} (h₁ : KeysKept s₁ s₂) (h₂ : KeysKept s₂ s₃) :
    KeysKept s₁ s₃ := fun t ht => h₂.hasGroup (h₁ t ht)

theorem keysKept_of_append {s s' : State} {new : List VpcLoadbalancerTargetGroup}
    (h : s'.targetGroups = s.targetGroups ++ new) : KeysKept s s' :=
  fun t ht => ⟨t, h ▸ List.mem_append_left _ ht, rfl, rfl⟩

/-- Attaching servers keeps every group's identity and key. -/
theorem keysKept_of_attach {s s' : State} {id : String} {servers : List String}
    (h : s'.targetGroups = s.targetGroups.map fun x =>
      if x.identity = id then { x with attachments := servers } else x) : KeysKept s s' := by
  intro t ht
  unfold HasGroup
  rw [h]
  exact ⟨_, List.mem_map_of_mem _ ht, by split <;> rfl, by split <;> rfl⟩

/-- A group the target-group step returned, seen in the cloud `s`. -/
structure ReturnedIn (ds : List VpcLoadbalancerTargetGroup) (s : State)
    (u : VpcLoadbalancerTargetGroup) : Prop where
  identity : u.identity ≠ ""
  desired : ∃ d ∈ ds, u.labels = d.labels ∧ targetGroupKey u = targetGroupKey d
  present : HasGroup s u.identity (targetGroupKey u)

theorem ReturnedIn.of_keysKept {s s' : State} {u : VpcLoadbalancerTargetGroup}
    (h : ReturnedIn ds s u) (hk : KeysKept s s') : ReturnedIn ds s' u :=
  ⟨h.identity, h.desired, hk.hasGroup h.present⟩

/-- **The creation loop** returns groups it created from desired ones, one for every desired
    group whose key was not listed. -/
theorem wp_createMissingTargetGroups_returned (nodes : List Node) (keys : List (String × Nat)) :
    ∀ (rest : List VpcLoadbalancerTargetGroup), (∀ d ∈ rest, d ∈ ds) → ∀ {s : State}, s.Fresh →
      Wp (fun _ => True) (fun _ _ => True) (createMissingTargetGroups nodes keys rest)
        (fun created s' => s'.Fresh ∧ s'.listeners = s.listeners ∧ KeysKept s s' ∧
          (∀ u ∈ created, ReturnedIn ds s' u) ∧
          ∀ d ∈ rest, targetGroupKey d ∉ keys → ∃ u ∈ created, u.labels = d.labels)
        (fun _ _ => True) s
  | [], _, _, hf => Wp.ret ⟨hf, rfl, .refl _, List.forall_mem_nil _, List.forall_mem_nil _⟩
  | d :: rest, hds, s, hf => by
    have hrest : ∀ d' ∈ rest, d' ∈ ds := fun d' hd' => hds d' (.tail _ hd')
    simp only [createMissingTargetGroups, bind_eq, pure_eq, ret_bind]
    split
    next hin =>
      refine (wp_createMissingTargetGroups_returned nodes keys rest hrest hf).mono
        (fun _ _ h => ⟨h.1, h.2.1, h.2.2.1, h.2.2.2.1, ?_⟩) fun _ _ _ => trivial
      rintro d' (_ | ⟨_, hd'⟩) hk
      exacts [absurd hin hk, h.2.2.2.2 d' hd' hk]
    next =>
      refine Wp.bind_of (Wp.wrap_inv trivial (wp_createTargetGroup_ok _ hf)) fun r s₁ h₁ => ?_
      obtain ⟨hf₁, rfl, htg₁, hl₁⟩ := h₁
      refine Wp.bind_of (Wp.wrap_inv trivial (wp_upgradeTargetGroupAttachments _ nodes hf₁))
        fun _ s₂ ⟨hf₂, htg₂, hl₂⟩ => ?_
      have hk₂ : KeysKept s₁ s₂ := keysKept_of_attach htg₂
      have hmem : State.targetGroupOf (freshId s.nextId) [] (targetGroupRequest d) ∈
          s₁.targetGroups := htg₁ ▸ List.mem_append_right _ (List.mem_singleton_self _)
      have hu : ReturnedIn ds s₂
          (State.targetGroupOf (freshId s.nextId) [] (targetGroupRequest d)) :=
        ⟨freshId_ne_empty _, ⟨d, hds d (.head _), rfl, rfl⟩, hk₂ _ hmem⟩
      refine Wp.bind_of (wp_createMissingTargetGroups_returned nodes keys rest hrest hf₂)
        fun more s' h => Wp.ret ⟨h.1, h.2.1.trans (hl₂.trans hl₁),
          ((keysKept_of_append htg₁).trans hk₂).trans h.2.2.1, ?_, ?_⟩
      · rintro u (_ | ⟨_, hu'⟩)
        exacts [hu.of_keysKept h.2.2.1, h.2.2.2.1 u hu']
      · rintro d' (_ | ⟨_, hd'⟩) hk
        exacts [⟨_, .head _, rfl⟩, (h.2.2.2.2 d' hd' hk).imp fun u hu => ⟨.tail _ hu.1, hu.2⟩]

/-- **The update loop**, over listed groups that are in the cloud under their identity and
    key, returns the groups it rewrote, one for every listed group with a desired key. -/
theorem wp_updateExistingTargetGroups_returned (nodes : List Node) :
    ∀ (rest : List VpcLoadbalancerTargetGroup) {s : State}, s.Fresh →
      (∀ e ∈ rest, HasGroup s e.identity (targetGroupKey e)) →
      Wp (fun _ => True) (fun _ _ => True) (updateExistingTargetGroups nodes ds rest)
        (fun updated s' => s'.Fresh ∧ s'.listeners = s.listeners ∧ KeysKept s s' ∧
          (∀ u ∈ updated, ReturnedIn ds s' u) ∧
          ∀ e ∈ rest, ∀ want, lastWithKey ds (targetGroupKey e) = some want →
            ∃ u ∈ updated, u.labels = want.labels)
        (fun _ _ => True) s
  | [], _, hf, _ => Wp.ret ⟨hf, rfl, .refl _, List.forall_mem_nil _, List.forall_mem_nil _⟩
  | e :: rest, s, hf, hpend => by
    have hrest : ∀ e' ∈ rest, HasGroup s e'.identity (targetGroupKey e') :=
      fun e' he' => hpend e' (.tail _ he')
    obtain ⟨t₀, ht₀, hid₀, hk₀⟩ := hpend e (.head _)
    simp only [updateExistingTargetGroups, bind_eq, pure_eq, ret_bind]
    split
    next hnone =>
      refine (wp_updateExistingTargetGroups_returned nodes rest hf hrest).mono
        (fun _ _ h => ⟨h.1, h.2.1, h.2.2.1, h.2.2.2.1, ?_⟩) fun _ _ _ => trivial
      rintro e' (_ | ⟨_, he'⟩) want hw
      exacts [Option.noConfusion (hnone.symm.trans hw), h.2.2.2.2 e' he' want hw]
    next want hwant =>
      split
      next hempty =>
        obtain ⟨m, -, hm⟩ := hf.targetGroups.2 _ (List.mem_map_of_mem _ ht₀)
        exact absurd (hm.symm.trans (hid₀.trans hempty)) (freshId_ne_empty m)
      next hne =>
        refine Wp.bind_of (Wp.wrap_inv trivial (wp_updateTargetGroup_ok _ _ hf))
          fun r s₁ h₁ => ?_
        obtain ⟨hf₁, ⟨tg, -, -, rfl⟩, htg₁, hl₁⟩ := h₁
        refine Wp.bind_of (Wp.wrap_inv trivial (wp_upgradeTargetGroupAttachments _ nodes hf₁))
          fun _ s₂ ⟨hf₂, htg₂, hl₂⟩ => ?_
        have heq := htg₂.trans (htg₁ ▸ map_update_attach _ _ _ _)
        -- the rewritten group keeps its identity, and its key, which is `want`'s
        have hk₂ : KeysKept s s₂ := fun t ht => by
          unfold HasGroup
          rw [heq]
          refine ⟨_, List.mem_map_of_mem _ ht, ?_⟩
          split
          next hid =>
            obtain rfl := List.inj_on_of_nodup_map hf.targetGroups.1 ht ht₀ (hid.trans hid₀.symm)
            exact ⟨hid.symm, (key_of_lastWithKey hwant).trans hk₀.symm⟩
          next => exact ⟨rfl, rfl⟩
        have hmem : State.targetGroupOf e.identity (nodes.filterMap serverIdentity)
            (targetGroupRequest want) ∈ s₂.targetGroups := by
          rw [heq]
          exact List.mem_map.mpr ⟨t₀, ht₀, if_pos hid₀⟩
        have hu : ReturnedIn ds s₂
            (State.targetGroupOf e.identity tg.attachments (targetGroupRequest want)) :=
          ⟨hne, ⟨want, mem_of_lastWithKey hwant, rfl, rfl⟩, _, hmem, rfl, rfl⟩
        refine Wp.bind_of (wp_updateExistingTargetGroups_returned nodes rest hf₂
          fun e' he' => hk₂.hasGroup (hrest e' he'))
          fun more s' h => Wp.ret ⟨h.1, h.2.1.trans (hl₂.trans hl₁), hk₂.trans h.2.2.1, ?_, ?_⟩
        · rintro u (_ | ⟨_, hu'⟩)
          exacts [hu.of_keysKept h.2.2.1, h.2.2.2.1 u hu']
        · rintro e' (_ | ⟨_, he'⟩) want' hw
          · obtain rfl : want' = want := Option.some.inj (hw.symm.trans hwant)
            exact ⟨_, .head _, rfl⟩
          · exact (h.2.2.2.2 e' he' want' hw).imp fun u hu => ⟨.tail _ hu.1, hu.2⟩

/-- With distinct keys, a desired group is the last one with its key. -/
theorem lastWithKey_of_nodup (hkeys : (ds.map targetGroupKey).Nodup)
    {d : VpcLoadbalancerTargetGroup} (hd : d ∈ ds) : lastWithKey ds (targetGroupKey d) = some d := by
  cases h : lastWithKey ds (targetGroupKey d) with
  | none => exact absurd (List.mem_map_of_mem _ hd) (lastWithKey_eq_none_iff.mp h)
  | some w =>
    exact congrArg some
      (List.inj_on_of_nodup_map hkeys (mem_of_lastWithKey h) hd (key_of_lastWithKey h))

/-- **What `createOrUpdateTargetGroups` returns.** From a cloud whose identities are fresh,
    every returned group is `ReturnedIn` the cloud it leaves, and, for desired groups with
    distinct keys, every desired group's labels are those of a returned group. The listeners
    stay. -/
theorem wp_createOrUpdateTargetGroups_returned (lb : Loadbalancer) (svc : Service)
    (nodes : List Node) (hkeys : (ds.map targetGroupKey).Nodup) {s : State} (hf : s.Fresh) :
    Wp (fun _ => True) (fun _ _ => True) (createOrUpdateTargetGroups lb svc ds nodes)
      (fun tgs s' => s'.Fresh ∧ s'.listeners = s.listeners ∧ (∀ u ∈ tgs, ReturnedIn ds s' u) ∧
        ∀ d ∈ ds, ∃ u ∈ tgs, u.labels = d.labels)
      (fun _ _ => True) s := by
  simp only [createOrUpdateTargetGroups, bind_eq, pure_eq]
  refine Wp.bind_of (Wp.wrap_inv trivial (wp_listTargetGroups_ok lb svc hf))
    fun existing s₁ h₁ => ?_
  obtain ⟨hf₁, rfl, hT₁, hL₁⟩ := h₁
  refine Wp.bind_of (wp_createMissingTargetGroups_returned nodes _ ds (fun _ h => h) hf₁)
    fun created s₂ ⟨hf₂, hL₂, hk₂, hret₂, hnew₂⟩ => ?_
  have hpend : ∀ e ∈ listedTargetGroups lb svc s, HasGroup s₂ e.identity (targetGroupKey e) :=
    fun e he => by
      obtain ⟨t, ht, -, hid, hk⟩ := original_of_mem_listedTargetGroups he
      exact hk₂.hasGroup ⟨t, hT₁ ▸ ht, hid, hk⟩
  refine Wp.bind_of (wp_updateExistingTargetGroups_returned nodes _ hf₂ hpend)
    fun updated s₃ ⟨hf₃, hL₃, hk₃, hret₃, hup₃⟩ =>
      Wp.ret ⟨hf₃, hL₃.trans (hL₂.trans hL₁), fun u hu => ?_, fun d hd => ?_⟩
  · exact (List.mem_append.mp hu).elim (fun hu => (hret₂ u hu).of_keysKept hk₃) (hret₃ u)
  · by_cases hk : targetGroupKey d ∈ (listedTargetGroups lb svc s).map targetGroupKey
    · obtain ⟨e, he, hke⟩ := List.mem_map.mp hk
      obtain ⟨u, hu, hl⟩ := hup₃ e he d (by rw [hke]; exact lastWithKey_of_nodup hkeys hd)
      exact ⟨u, List.mem_append_right _ hu, hl⟩
    · obtain ⟨u, hu, hl⟩ := hnew₂ d hd hk
      exact ⟨u, List.mem_append_left _ hu, hl⟩

end Returned

/-! ## 7. The listeners of a reconcile

A desired listener selects its target group by the labels of its port and protocol. When the
operator's labels leave the port key to the Service, those labels match only a group labelled
for the same port (`port_eq_of_matchLabels`), so with distinct ports the listener of a Service
port resolves to a returned group with that port's protocol and node port. The step's three
side conditions then hold, and every listener of the load balancer forwards to its port's
backends. -/

theorem getDesiredVpcLoadbalancerTargetGroups_eq_ok {lb : Loadbalancer} {svc : Service}
    {ds : List VpcLoadbalancerTargetGroup}
    (h : getDesiredVpcLoadbalancerTargetGroups lb svc = .ok ds) :
    ∃ enableProxyProtocol policy, ds = svc.ports.map
      (desiredTargetGroupForPort lb svc enableProxyProtocol policy (healthCheckSettings svc)) := by
  unfold getDesiredVpcLoadbalancerTargetGroups at h
  split at h
  · cases h
  · cases h
    exact ⟨_, _, rfl⟩

theorem map_port_desiredVpcLoadbalancerListener (lb : Loadbalancer) (svc : Service) :
    (desiredVpcLoadbalancerListener lb svc).map (·.port) = svc.ports.map (·.port) := by
  simp only [desiredVpcLoadbalancerListener, List.map_map]
  rfl

theorem has_port_getLabelsForVpcLoadbalancerTargetGroup (lb : Loadbalancer) (svc : Service)
    (port : Nat) (protocol : String) :
    (getLabelsForVpcLoadbalancerTargetGroup lb svc port protocol).has
      labelKubernetesServicePort = true := by
  simp [getLabelsForVpcLoadbalancerTargetGroup, has_mergeAbsent, has_cons]

theorem unique_getLabelsForVpcLoadbalancerTargetGroup (lb : Loadbalancer) (svc : Service)
    (port : Nat) (protocol : String) :
    (getLabelsForVpcLoadbalancerTargetGroup lb svc port protocol).Unique :=
  unique_mergeAbsent (unique_getLabelsForVpcLoadbalancer lb svc) _

/-- When the operator's labels leave the port key to the Service, the labels of one port
    match only the labels of that port. -/
theorem port_eq_of_matchLabels {lb : Loadbalancer}
    (hport : lb.additionalLabels.has labelKubernetesServicePort = false) {svc : Service}
    {a b : Nat} {pa pb : String}
    (h : matchLabels (getLabelsForVpcLoadbalancerTargetGroup lb svc a pa)
      (getLabelsForVpcLoadbalancerTargetGroup lb svc b pb) = true) : a = b := by
  have hget := (matchLabels_iff_get (unique_getLabelsForVpcLoadbalancerTargetGroup lb svc a pa)
    _).mp h _ (has_port_getLabelsForVpcLoadbalancerTargetGroup lb svc a pa)
  simp only [get_port_getLabelsForVpcLoadbalancerTargetGroup, hport] at hget
  exact Go.toString_injective (by simpa using hget.symm)

theorem toLower_toLower_protocol (p : Protocol) :
    Go.toLower (Go.toLower p.toString) = Go.toLower p.toString := by
  cases p <;> rfl

/-- The listener of a port selects the labels of that port's target group. -/
theorem labels_desiredListenerForPort (lb : Loadbalancer) (svc : Service)
    (globalSources : List String) (connectionTimeout maxConnections : Int) (p : ServicePort) :
    getLabelsForVpcLoadbalancerTargetGroup lb svc
        (desiredListenerForPort lb svc globalSources connectionTimeout maxConnections p).port
        (desiredListenerForPort lb svc globalSources connectionTimeout maxConnections p).protocol =
      getLabelsForVpcLoadbalancerTargetGroup lb svc p.port p.protocol.toString := by
  simp only [getLabelsForVpcLoadbalancerTargetGroup, desiredListenerForPort,
    toLower_toLower_protocol]

/-- **Resolution.** When the operator's labels leave the port key to the Service and its
    ports are distinct, against groups each labelled and keyed for a Service port, one of them
    for the port `p`, the listener of `p` resolves to a group with `p`'s protocol and node
    port. -/
theorem getTargetGroupIdentityForListener_desired {lb : Loadbalancer} {svc : Service}
    (hport : lb.additionalLabels.has labelKubernetesServicePort = false)
    (hnums : (svc.ports.map (·.port)).Nodup) {tgs : List VpcLoadbalancerTargetGroup}
    (htgs : ∀ u ∈ tgs, ∃ q ∈ svc.ports,
      u.labels = getLabelsForVpcLoadbalancerTargetGroup lb svc q.port q.protocol.toString ∧
      targetGroupKey u = (Go.toLower q.protocol.toString, q.nodePort))
    {p : ServicePort} (hp : p ∈ svc.ports)
    (hex : ∃ u ∈ tgs, u.labels = getLabelsForVpcLoadbalancerTargetGroup lb svc p.port p.protocol.toString)
    (globalSources : List String) (connectionTimeout maxConnections : Int) :
    ∃ u ∈ tgs, getTargetGroupIdentityForListener lb svc
        (desiredListenerForPort lb svc globalSources connectionTimeout maxConnections p) tgs =
          u.identity ∧
      targetGroupKey u = (Go.toLower p.protocol.toString, p.nodePort) := by
  simp only [getTargetGroupIdentityForListener, labels_desiredListenerForPort]
  split
  next u hfind =>
    have hmem := List.mem_of_find?_eq_some hfind
    obtain ⟨q, hq, hlq, hkq⟩ := htgs u hmem
    have hm := List.find?_some hfind
    simp only [hlq] at hm
    obtain rfl := List.inj_on_of_nodup_map hnums hp hq (port_eq_of_matchLabels hport hm)
    exact ⟨u, hmem, rfl, hkq⟩
  next hfind =>
    obtain ⟨u, hmem, hl⟩ := hex
    have hself := matchLabels_self
      (unique_getLabelsForVpcLoadbalancerTargetGroup lb svc p.port p.protocol.toString)
    exact absurd (by simpa only [hl] using hself)
      (List.find?_eq_none.mp hfind u hmem)

/-- Two readings of one run, on success. -/
theorem wp_and_ok {α : Type} {p : Prog α} {Q Q' : α → State → Prop} {s : State}
    (h : Wp (fun _ => True) (fun _ _ => True) p Q (fun _ _ => True) s)
    (h' : Wp (fun _ => True) (fun _ _ => True) p Q' (fun _ _ => True) s) :
    Wp (fun _ => True) (fun _ _ => True) p (fun a s' => Q a s' ∧ Q' a s') (fun _ _ => True) s :=
  ((h.and h').guar fun _ _ _ => trivial).mono (fun _ _ h => h) fun _ _ _ => trivial

/-- What a reconcile leaves of the load balancer `lbId`'s listeners, from `s` to `s'`. -/
structure ListenersForward (lb : Loadbalancer) (svc : Service) (lbId : String) (s s' : State) :
    Prop where
  /-- Every listener is the request of a desired listener, naming a group of the cloud with
      the protocol and node port of the Service port the listener is on. -/
  forward : ∀ l ∈ lbListeners s' lbId, ∃ d ∈ desiredVpcLoadbalancerListener lb svc,
    l = State.listenerOf l.identity (listenerRequest d l.targetGroup.identity) ∧
    ∃ p ∈ svc.ports, d.port = p.port ∧
      HasGroup s' l.targetGroup.identity (Go.toLower p.protocol.toString, p.nodePort)
  /-- A listener on every port of the Service. -/
  covered : ∀ p ∈ svc.ports, p.port ∈ (lbListeners s' lbId).map (·.port)
  /-- With distinct ports before, one listener per port of the Service. -/
  onePerPort : ((lbListeners s lbId).map (·.port)).Nodup →
    ((lbListeners s' lbId).map (·.port)).Perm (svc.ports.map (·.port))

/-- The listener facts of a reconcile, for the reconcile and for what follows it. -/
theorem wp_listenersForward (lb : Loadbalancer)
    (svc : Service) (nodes : List Node) (x : VpcLoadbalancer) {s : State} (hf : s.Fresh)
    (hnums : (svc.ports.map (·.port)).Nodup)
    (hkeys : (svc.ports.map fun p => (p.protocol, p.nodePort)).Nodup)
    (hport : lb.additionalLabels.has labelKubernetesServicePort = false) :
    Wp (fun _ => True) (fun _ _ => True) (updateVpcLoadbalancerListenersAndTargetGroups lb svc nodes x)
      (fun _ s' => ListenersForward lb svc x.identity s s') (fun _ _ => True) s := by
  simp only [updateVpcLoadbalancerListenersAndTargetGroups, bind_eq, pure_eq, ret_bind, throw_bind]
  split
  next ds hds =>
    have hdk := nodup_desiredKeys hkeys hds
    obtain ⟨epp, policy, rfl⟩ := getDesiredVpcLoadbalancerTargetGroups_eq_ok hds
    refine Wp.bind_of (Wp.wrap_inv trivial (wp_createOrUpdateTargetGroups_returned lb svc nodes
      hdk hf)) fun tgs s₁ ⟨hf₁, hL₁, hret, hall⟩ => ?_
    have htgs : ∀ u ∈ tgs, ∃ q ∈ svc.ports,
        u.labels = getLabelsForVpcLoadbalancerTargetGroup lb svc q.port q.protocol.toString ∧
        targetGroupKey u = (Go.toLower q.protocol.toString, q.nodePort) := fun u hu => by
      obtain ⟨d, hd, hl, hk⟩ := (hret u hu).desired
      obtain ⟨q, hq, rfl⟩ := List.mem_map.mp hd
      exact ⟨q, hq, hl, hk⟩
    have hresolve := fun p (hp : p ∈ svc.ports) =>
      getTargetGroupIdentityForListener_desired hport hnums htgs hp
        (hall _ (List.mem_map_of_mem _ hp))
    have hres : ∀ d ∈ desiredVpcLoadbalancerListener lb svc,
        getTargetGroupIdentityForListener lb svc d tgs ≠ "" := fun d hd => by
      obtain ⟨p, hp, rfl⟩ := mem_desiredVpcLoadbalancerListener.mp hd
      obtain ⟨u, hu, hid, -⟩ := hresolve p hp _ _ _
      rw [hid]
      exact (hret u hu).identity
    have hnoid : ∀ d ∈ desiredVpcLoadbalancerListener lb svc, d.identity = "" := fun d hd => by
      obtain ⟨p, -, rfl⟩ := mem_desiredVpcLoadbalancerListener.mp hd
      rfl
    refine Wp.bind_of (Wp.wrap_inv trivial (wp_and_ok
      (updateVpcLoadbalancerListener_reconciles lb svc x _ tgs hf₁ hnoid
        (map_port_desiredVpcLoadbalancerListener lb svc ▸ hnums) hres)
      (wp_targetGroups_frame (calls_updateVpcLoadbalancerListener lb svc x _ tgs)
        (fun c hc => hc.kind_ne (by decide)) hf₁))) fun _ s₂ ⟨hrec, hf₂, hT₂⟩ => ?_
    refine Wp.bind_of (Wp.wrap_inv trivial (wp_cleanupUnusedTargetGroups tgs hf₂))
      fun _ s₃ ⟨hf₃, hL₃, _, hkept, _⟩ => ?_
    refine Wp.bind_of (Wp.wrap_inv trivial (wp_updateVpcLoadbalancer_frame lb svc x _ hf₃))
      fun _ s₄ ⟨_, hT₄, hL₄⟩ => Wp.ret ?_
    have hls : lbListeners s₄ x.identity = lbListeners s₂ x.identity := by
      simp only [lbListeners, hL₄, hL₃]
    have hls₁ : lbListeners s₁ x.identity = lbListeners s x.identity := by
      simp only [lbListeners, hL₁]
    refine ⟨fun l hl => ?_, fun p hp => ?_, fun hn => ?_⟩
    · rw [hls] at hl
      obtain ⟨d, hd, hld⟩ := hrec.fromDesired l hl
      obtain ⟨p, hp, rfl⟩ := mem_desiredVpcLoadbalancerListener.mp hd
      obtain ⟨u, hu, hid, hku⟩ := hresolve p hp _ _ _
      have htg : l.targetGroup.identity = u.identity :=
        (congrArg (·.targetGroup.identity) hld).trans hid
      obtain ⟨t, ht, hti, htk⟩ := (hret u hu).present
      have ht₄ : t ∈ s₄.targetGroups := by
        rw [hT₄]
        exact hkept t (hT₂ ▸ ht) (.inl (by rw [htk]; exact List.mem_map_of_mem _ hu))
      refine ⟨_, hd, by rw [htg, ← hid]; exact hld, p, hp, rfl, t, ht₄, hti.trans htg.symm,
        htk.trans hku⟩
    · rw [hls]
      exact hrec.covered _ (mem_desiredVpcLoadbalancerListener.mpr ⟨p, hp, rfl⟩)
    · rw [hls, ← map_port_desiredVpcLoadbalancerListener]
      exact hrec.onePerPort (hls₁ ▸ hn)
  next => exact Wp.throw trivial

/-- **The listeners of a reconcile.** From a cloud whose identities are fresh, for a Service
    with distinct ports and distinct `(protocol, nodePort)` pairs, and operator labels that
    leave the port key to the Service, a successful
    `updateVpcLoadbalancerListenersAndTargetGroups` leaves every listener of the load
    balancer built from the desired listener of a Service port and forwarding to a target
    group of the cloud with that port's protocol and node port, a listener on every port, and,
    when the listeners' ports were distinct before, exactly one per port. -/
theorem updateVpcLoadbalancerListenersAndTargetGroups_forwards (lb : Loadbalancer)
    (svc : Service) (nodes : List Node) (x : VpcLoadbalancer) {s : State} (hf : s.Fresh)
    (hnums : (svc.ports.map (·.port)).Nodup)
    (hkeys : (svc.ports.map fun p => (p.protocol, p.nodePort)).Nodup)
    (hport : lb.additionalLabels.has labelKubernetesServicePort = false) :
    Wp (fun _ => True) (fun _ _ => True) (updateVpcLoadbalancerListenersAndTargetGroups lb svc nodes x)
      (fun _ s' => ListenersForward lb svc x.identity s s') (fun _ _ => True) s :=
  wp_listenersForward lb svc nodes x hf hnums hkeys hport

theorem fresh_vpcWith {x : VpcLoadbalancer} (h : x.identity = freshId 0) : (vpcWith x).Fresh :=
  ⟨⟨List.nodup_singleton _, fun _ hi => ⟨0, Nat.one_pos, (List.mem_singleton.mp hi).trans h⟩⟩,
    ⟨List.nodup_nil, nofun⟩, ⟨List.nodup_nil, nofun⟩, ⟨List.nodup_nil, nofun⟩⟩

theorem updateVpcLoadbalancerListenersAndTargetGroups_forwards_web :
    (vpcWith (provisionedLoadbalancer (configWithLabels []) webService)).Fresh ∧
    (webService.ports.map (·.port)).Nodup ∧
    (webService.ports.map fun p => (p.protocol, p.nodePort)).Nodup ∧
    (configWithLabels []).additionalLabels.has labelKubernetesServicePort = false ∧
    Wp (fun _ => True) (fun _ _ => True)
      (updateVpcLoadbalancerListenersAndTargetGroups (configWithLabels []) webService []
        (provisionedLoadbalancer (configWithLabels []) webService))
      (fun _ s' => ListenersForward (configWithLabels []) webService
        (provisionedLoadbalancer (configWithLabels []) webService).identity
        (vpcWith (provisionedLoadbalancer (configWithLabels []) webService)) s')
      (fun _ _ => True) (vpcWith (provisionedLoadbalancer (configWithLabels []) webService)) :=
  ⟨fresh_vpcWith rfl, by decide, by decide, rfl,
    updateVpcLoadbalancerListenersAndTargetGroups_forwards _ _ _ _ (fresh_vpcWith rfl)
      (by decide) (by decide) rfl⟩

end Engine
end ThalassaCcm
