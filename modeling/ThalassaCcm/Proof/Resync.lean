import ThalassaCcm.Engine.Resync
import ThalassaCcm.Cloud.Wp
import ThalassaCcm.Kube.Watcher
import ThalassaCcm.Proof.Listeners

/-!
# What the resync worker does with a key

Over any run of the worker, whatever the API server and the cloud answer, the waiting keys
stay distinct and the rate limiter's count of every key only grows
(`wp_processServiceQueue`): the worker never calls `Forget`, so a key's backoff after a
success starts from its count of earlier failures. A turn whose `Get` or node listing fails
drops its key without a requeue (`processNext_drops`), as does a malformed key or a
Service of another type. `processServiceQueue_drops_and_never_forgets` runs both on the
web Service.
-/

set_option autoImplicit false

namespace ThalassaCcm
namespace Engine

open Cloud Prog

/-! ## 1. The queue operations -/

namespace WorkQueue

variable (q : WorkQueue) (key k : String)

theorem find?_filter_ne {l : List (String × Nat)} (h : k ≠ key) :
    (l.filter (·.1 ≠ key)).find? (·.1 = k) = l.find? (·.1 = k) := by
  induction l with
  | nil => rfl
  | cons x l ih =>
    rw [List.filter_cons]
    by_cases hx : x.1 = key
    · have hk : x.1 ≠ k := fun e => h (e ▸ hx)
      rw [if_neg (by simpa using hx), ih, List.find?_cons_of_neg _ (by simpa using hk)]
    · rw [if_pos (by simpa using hx), List.find?_cons, List.find?_cons, ih]

@[simp] theorem numRequeues_addRateLimited_self :
    (q.addRateLimited key).numRequeues key = q.numRequeues key + 1 := by
  simp [numRequeues, addRateLimited]

theorem numRequeues_addRateLimited_of_ne (h : k ≠ key) :
    (q.addRateLimited key).numRequeues k = q.numRequeues k := by
  simp only [numRequeues, addRateLimited]
  rw [List.find?_cons_of_neg _ (by simpa using Ne.symm h), find?_filter_ne key k h]

/-- `AddRateLimited` only adds to the counts. -/
theorem numRequeues_le_addRateLimited : q.numRequeues k ≤ (q.addRateLimited key).numRequeues k := by
  by_cases h : k = key
  · subst h; simp
  · rw [numRequeues_addRateLimited_of_ne q key k h]

theorem nodup_add (h : q.queue.Nodup) : (q.add key).queue.Nodup := by
  unfold add
  split
  · exact h
  · exact h.append (List.nodup_singleton key) (List.disjoint_singleton.mpr ‹_›)

theorem nodup_addRateLimited (h : q.queue.Nodup) : (q.addRateLimited key).queue.Nodup :=
  q.nodup_add key h

end WorkQueue

/-! ## 2. A turn, and a run -/

/-- What a turn keeps of the queue: distinct keys stay distinct, and no count goes down. -/
def QueueKept (q q' : WorkQueue) : Prop :=
  (q.queue.Nodup → q'.queue.Nodup) ∧ ∀ k, q.numRequeues k ≤ q'.numRequeues k

theorem QueueKept.refl (q : WorkQueue) : QueueKept q q := ⟨id, fun _ => le_refl _⟩

theorem QueueKept.trans {q₁ q₂ q₃ : WorkQueue} (h₁ : QueueKept q₁ q₂) (h₂ : QueueKept q₂ q₃) :
    QueueKept q₁ q₃ :=
  ⟨h₂.1 ∘ h₁.1, fun k => (h₁.2 k).trans (h₂.2 k)⟩

/-- Taking the first key off, and re-adding it or not, keeps the queue. -/
theorem queueKept_take (key : String) (rest : List String) (requeues : List (String × Nat))
    (requeue : Bool) :
    QueueKept ⟨key :: rest, requeues⟩
      (if requeue then WorkQueue.addRateLimited ⟨rest, requeues⟩ key else ⟨rest, requeues⟩) := by
  have hrest : QueueKept ⟨key :: rest, requeues⟩ ⟨rest, requeues⟩ :=
    ⟨fun h => (List.nodup_cons.mp h).2, fun _ => le_refl _⟩
  cases requeue with
  | false => exact hrest
  | true =>
    exact hrest.trans ⟨WorkQueue.nodup_addRateLimited _ key,
      fun k => WorkQueue.numRequeues_le_addRateLimited _ key k⟩

theorem wp_processNext (lb : Loadbalancer) (slices : List EndpointSlice)
    (answers : ApiServerAnswers) (q : WorkQueue) (s : State) :
    Wp (fun _ => True) (fun _ _ => True) (processNext lb slices answers q)
      (fun q' _ => QueueKept q q') (fun _ _ => True) s := by
  rcases q with ⟨_ | ⟨key, rest⟩, requeues⟩
  · exact Wp.ret (QueueKept.refl _)
  · simp only [processNext, bind_eq, pure_eq]
    exact Wp.bind_of (Wp.of_forall (fun _ _ => trivial) (fun _ _ => trivial)
      (fun _ _ => trivial)) fun requeue _ _ => Wp.ret (queueKept_take key rest requeues requeue)

/-- **Any run of the worker** keeps the waiting keys distinct and never lowers the rate
    limiter's count of a key, whatever the API server and the cloud answer. -/
theorem wp_processServiceQueue (lb : Loadbalancer) (slices : List EndpointSlice) :
    ∀ (answers : List ApiServerAnswers) (q : WorkQueue) (s : State),
      Wp (fun _ => True) (fun _ _ => True) (processServiceQueue lb slices answers q)
        (fun q' _ => QueueKept q q') (fun _ _ => True) s
  | [], q, _ => Wp.ret (QueueKept.refl q)
  | answers :: rest, q, s => by
    simp only [processServiceQueue, bind_eq]
    exact Wp.bind_of (wp_processNext lb slices answers q s) fun q₁ s₁ h₁ =>
      (wp_processServiceQueue lb slices rest q₁ s₁).mono (fun _ _ => h₁.trans)
        fun _ _ _ => trivial

/-! ## 3. Dropped keys -/

theorem processServiceResync_of_service_error (lb : Loadbalancer) (slices : List EndpointSlice)
    {answers : ApiServerAnswers} {e : String} (h : answers.service = .error e)
    (serviceKey : String) : processServiceResync lb slices answers serviceKey = pure false := by
  unfold processServiceResync
  split <;> simp only [h]

theorem processServiceResync_of_nodes_error (lb : Loadbalancer) (slices : List EndpointSlice)
    {answers : ApiServerAnswers} {e : String} (h : answers.nodes = .error e)
    (serviceKey : String) : processServiceResync lb slices answers serviceKey = pure false := by
  unfold processServiceResync
  split
  · split
    · rfl
    · split
      · rfl
      · simp only [h]
  · rfl

/-- A turn whose key the resync does not re-add drops it: the rest waits, and the counts
    stay. -/
theorem processNext_drops (lb : Loadbalancer) (slices : List EndpointSlice)
    {answers : ApiServerAnswers} {key : String}
    (h : processServiceResync lb slices answers key = pure false) (rest : List String)
    (requeues : List (String × Nat)) :
    processNext lb slices answers ⟨key :: rest, requeues⟩ = pure ⟨rest, requeues⟩ := by
  simp only [processNext, h, bind_eq, pure_eq, ret_bind]
  rfl

/-- A turn whose `Get` of the Service or listing of the nodes fails drops its key. -/
theorem processNext_of_error (lb : Loadbalancer) (slices : List EndpointSlice)
    {answers : ApiServerAnswers}
    (h : (∃ e, answers.service = .error e) ∨ ∃ e, answers.nodes = .error e) (key : String)
    (rest : List String) (requeues : List (String × Nat)) :
    processNext lb slices answers ⟨key :: rest, requeues⟩ = pure ⟨rest, requeues⟩ :=
  processNext_drops lb slices (h.elim
    (fun ⟨_, he⟩ => processServiceResync_of_service_error lb slices he key)
    fun ⟨_, he⟩ => processServiceResync_of_nodes_error lb slices he key) rest requeues

/-- The web Service's key. -/
def webKey : String := serviceKey webService.ns webService.name

/-- Every turn whose `Get` of the Service or listing of the nodes fails drops its key with
    no requeue, and no run of the worker lowers a key's count. On the web Service's key: a
    `Get` that fails, and a node listing that fails, each drop the key; an update that fails
    re-adds it, and the success that follows leaves its count at one. -/
theorem processServiceQueue_drops_and_never_forgets :
    (∀ (lb : Loadbalancer) (slices : List EndpointSlice) (answers : ApiServerAnswers),
      ((∃ e, answers.service = .error e) ∨ ∃ e, answers.nodes = .error e) →
      ∀ (key : String) (rest : List String) (requeues : List (String × Nat)),
        processNext lb slices answers ⟨key :: rest, requeues⟩ = pure ⟨rest, requeues⟩) ∧
    (∀ (lb : Loadbalancer) (slices : List EndpointSlice) (answers : List ApiServerAnswers)
      (q : WorkQueue) (s : State),
      Wp (fun _ => True) (fun _ _ => True) (processServiceQueue lb slices answers q)
        (fun q' _ => ∀ k, q.numRequeues k ≤ q'.numRequeues k) (fun _ _ => True) s) ∧
    (exec (processServiceQueue (configWithLabels []) []
      [⟨.error "connection refused", .ok []⟩] ⟨[webKey], []⟩) []
      (vpcWith (provisionedLoadbalancer (configWithLabels []) webService))).value.toOption =
      some ⟨[], []⟩ ∧
    (exec (processServiceQueue (configWithLabels []) []
      [⟨.ok webService, .error "connection refused"⟩] ⟨[webKey], []⟩) []
      (vpcWith (provisionedLoadbalancer (configWithLabels []) webService))).value.toOption =
      some ⟨[], []⟩ ∧
    (exec (processServiceQueue (configWithLabels []) []
      [⟨.ok webService, .ok []⟩, ⟨.ok webService, .ok []⟩] ⟨[webKey], []⟩)
      [{ fault := .fail "service unavailable" }]
      (vpcWith (provisionedLoadbalancer (configWithLabels []) webService))).value.toOption =
      some ⟨[], [(webKey, 1)]⟩ :=
  ⟨fun lb slices _ h => processNext_of_error lb slices h,
    fun lb slices answers q s => (wp_processServiceQueue lb slices answers q s).mono
      (fun _ _ h => h.2) fun _ _ _ => trivial,
    by decide⟩

end Engine
end ThalassaCcm
