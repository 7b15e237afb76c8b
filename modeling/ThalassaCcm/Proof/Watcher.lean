import ThalassaCcm.Kube.Watcher
import Mathlib.Logic.Function.Basic

/-!
# The keys the watcher tracks as `Local`

The watcher's `localTrafficServices` is meant to be the keys of the Services the informer
holds with the `Local` policy (`TracksLocal`). Each handler keeps that, for a notification
that carries the object (`TracksLocal.onService`): an add inserts a `Local` key, an update
inserts or removes the key when the policy crosses `Local`, a delete removes the key. So
along any sequence of notifications the informer can deliver without a tombstone, from an
empty store and an empty watcher, the watcher tracks exactly those keys
(`tracksLocal_of_deliversAll`). The endpoint-slice handlers read only that set, so after such
a run a slice event asks for a resync exactly when the informer holds the slice's Service with
the `Local` policy, and for an update when its ready nodes changed as well
(`endpointSlice_resync_of_deliversAll`).

`handleServiceDelete` drops a tombstone, which its type assertion rejects: the key of a
Service deleted while the watch was down stays tracked, and stays tracked when a Service
with the `Cluster` policy later takes the key (`handleServiceDelete_tombstone_stale`).
-/

set_option autoImplicit false

namespace ThalassaCcm

/-- The watcher tracks exactly the stored Services with the `Local` policy. -/
def TracksLocal (w : EndpointSliceWatcher) (store : String → Option Service) : Prop :=
  ∀ key, key ∈ w.localTrafficServices ↔
    ∃ svc, store key = some svc ∧ svc.externalTrafficPolicy = .Local

namespace TracksLocal

variable {w : EndpointSliceWatcher} {store : String → Option Service}

theorem empty : TracksLocal ⟨[]⟩ fun _ => none := by
  simp [TracksLocal]

/-- A change of one key's entry keeps the watcher tracking the store when the key's
    membership follows the new entry and no other key's membership changes. -/
theorem update (h : TracksLocal w store) {w' : EndpointSliceWatcher} {key : String}
    {v : Option Service}
    (hkey : key ∈ w'.localTrafficServices ↔ ∃ svc, v = some svc ∧ svc.externalTrafficPolicy = .Local)
    (hother : ∀ k, k ≠ key → (k ∈ w'.localTrafficServices ↔ k ∈ w.localTrafficServices)) :
    TracksLocal w' (Function.update store key v) := by
  intro k
  by_cases hk : k = key
  · subst hk
    rw [Function.update_same]
    exact hkey
  · rw [Function.update_noteq hk, hother k hk]
    exact h k

theorem mem_insert_of_ne {l : List String} {k key : String} (hk : k ≠ key) :
    k ∈ l.insert key ↔ k ∈ l := by
  simp [List.mem_insert_iff, hk]

theorem mem_filter_ne_of_ne {l : List String} {k key : String} (hk : k ≠ key) :
    k ∈ l.filter (· ≠ key) ↔ k ∈ l := by
  simp [List.mem_filter, hk]

/-- **One notification.** A delivered notification that carries its object keeps the
    watcher tracking exactly the stored `Local` Services. -/
theorem onService (h : TracksLocal w store) {n : ServiceNotification}
    {store' : String → Option Service} (hd : Delivers store n store') (hn : n.NoTombstone) :
    TracksLocal (w.onService n) store' := by
  cases hd with
  | add svc hnone =>
    simp only [EndpointSliceWatcher.onService, EndpointSliceWatcher.handleServiceAdd]
    split
    · exact h.update (by simp [List.mem_insert_iff, Service.key, *]) fun _ hk => mem_insert_of_ne hk
    · refine h.update ?_ fun _ _ => Iff.rfl
      rw [h svc.key, hnone]
      simp [*]
  | update oldSvc newSvc hold hkey =>
    simp only [EndpointSliceWatcher.onService, EndpointSliceWatcher.handleServiceUpdate]
    have hnew : serviceKey newSvc.ns newSvc.name = oldSvc.key := hkey
    rw [hnew]
    split
    next => exact h.update (by simp [List.mem_insert_iff, Service.key, *]) fun _ hk => mem_insert_of_ne hk
    next hto =>
      split
      next => exact h.update (by simp [List.mem_filter, *]) fun _ hk => mem_filter_ne_of_ne hk
      next hfrom =>
        refine h.update ?_ fun _ _ => Iff.rfl
        rw [h oldSvc.key, hold]
        simp only [Option.some.injEq, exists_eq_left']
        exact ⟨fun hl => not_not.mp fun hne => hfrom ⟨hl, hne⟩,
          fun hl => not_not.mp fun hne => hto ⟨hne, hl⟩⟩
  | delete svc hsome =>
    exact h.update (by simp [EndpointSliceWatcher.onService,
      EndpointSliceWatcher.handleServiceDelete, List.mem_filter, Service.key])
      fun _ hk => mem_filter_ne_of_ne hk
  | deleteTombstone svc _ => exact hn.elim

/-- **Every run without a tombstone.** -/
theorem deliversAll {ns : List ServiceNotification} {store' : String → Option Service}
    (h : TracksLocal w store) (hd : DeliversAll store ns store')
    (hn : ∀ n ∈ ns, n.NoTombstone) : TracksLocal (ns.foldl EndpointSliceWatcher.onService w) store' := by
  induction hd generalizing w with
  | nil => exact h
  | cons hd₁ _ ih =>
    exact ih (h.onService hd₁ (hn _ (.head _))) fun n hn' => hn n (.tail _ hn')

end TracksLocal

/-- From an empty store and an empty watcher, along any sequence of notifications the
    informer can deliver without a tombstone, the watcher tracks exactly the keys of the
    stored `Local` Services. -/
theorem tracksLocal_of_deliversAll {ns : List ServiceNotification}
    {store : String → Option Service} (hd : DeliversAll (fun _ => none) ns store)
    (hn : ∀ n ∈ ns, n.NoTombstone) :
    TracksLocal (ns.foldl EndpointSliceWatcher.onService ⟨[]⟩) store :=
  TracksLocal.empty.deliversAll hd hn

/-- The web Service with the `Cluster` policy. -/
def clusterWebService : Service := { localWebService with externalTrafficPolicy := .Cluster }

/-- The `Local` web Service is added and deleted by a tombstone: its key stays tracked with
    no Service stored. A `Cluster` Service then takes the key, and the key stays tracked. -/
theorem handleServiceDelete_tombstone_stale :
    (∃ store, DeliversAll (fun _ => none)
        [.add (.obj localWebService),
          .delete (.deletedFinalStateUnknown localWebService.key localWebService)] store ∧
      store localWebService.key = none) ∧
    localWebService.key ∈ ([ServiceNotification.add (.obj localWebService),
      .delete (.deletedFinalStateUnknown localWebService.key localWebService)].foldl
        EndpointSliceWatcher.onService ⟨[]⟩).localTrafficServices ∧
    (∃ store, DeliversAll (fun _ => none)
        [.add (.obj localWebService),
          .delete (.deletedFinalStateUnknown localWebService.key localWebService),
          .add (.obj clusterWebService)] store ∧
      store localWebService.key = some clusterWebService) ∧
    clusterWebService.externalTrafficPolicy = .Cluster ∧
    localWebService.key ∈ ([ServiceNotification.add (.obj localWebService),
      .delete (.deletedFinalStateUnknown localWebService.key localWebService),
      .add (.obj clusterWebService)].foldl
        EndpointSliceWatcher.onService ⟨[]⟩).localTrafficServices := by
  refine ⟨⟨_, .cons (.add _ rfl) (.cons (.deleteTombstone _ (by simp)) (.nil _)), by simp⟩,
    by decide, ⟨_, .cons (.add _ rfl) (.cons (.deleteTombstone _ (by simp))
      (.cons (.add clusterWebService (by simp [clusterWebService, Service.key])) (.nil _))),
      by simp [clusterWebService, Service.key]⟩, rfl, by decide⟩

/-! ## The slice handlers over a run -/

/-- A slice's resync is wanted for `k`: `k` is the key of the Service the slice is labelled
    with, and the informer holds a Service under it with the `Local` policy. -/
def LocalSliceKey (store : String → Option Service) (sl : EndpointSlice) (k : String) : Prop :=
  k = getServiceKeyFromEndpointSlice sl ∧ k ≠ "" ∧
    ∃ svc, store k = some svc ∧ svc.externalTrafficPolicy = .Local

namespace TracksLocal

variable {w : EndpointSliceWatcher} {store : String → Option Service}

theorem mem_resyncForSlice (h : TracksLocal w store) (sl : EndpointSlice) (k : String) :
    k ∈ w.resyncForSlice sl ↔ LocalSliceKey store sl k := by
  unfold EndpointSliceWatcher.resyncForSlice LocalSliceKey
  by_cases hk : getServiceKeyFromEndpointSlice sl = ""
  · simp only [hk, if_true, List.not_mem_nil, false_iff]
    rintro ⟨rfl, hne, -⟩
    exact hne rfl
  · by_cases ht : w.hasLocalTrafficPolicy (getServiceKeyFromEndpointSlice sl) = true
    · have hl := (h _).mp (of_decide_eq_true ht)
      simp only [hk, ht, if_false, if_true, List.mem_singleton]
      exact ⟨fun hk' => ⟨hk', hk' ▸ hk, hk' ▸ hl⟩, And.left⟩
    · have hl : ¬ ∃ svc, store (getServiceKeyFromEndpointSlice sl) = some svc ∧
          svc.externalTrafficPolicy = .Local := fun hl => ht (decide_eq_true ((h _).mpr hl))
      simp only [hk, ht, if_false, Bool.false_eq_true, List.not_mem_nil, false_iff]
      rintro ⟨rfl, -, hl'⟩
      exact hl hl'

end TracksLocal

/-- **Slice events after any run.** After any sequence of Service notifications the informer
    can deliver without a tombstone, from an empty store and an empty watcher, an added or
    deleted endpoint slice asks for a resync of `k` exactly when `k` is the key of its Service
    and the informer holds that Service with the `Local` policy; an updated slice asks for it
    exactly when, besides, `hasNodeAssignmentChanged` holds of the two slices. -/
theorem endpointSlice_resync_of_deliversAll {ns : List ServiceNotification}
    {store : String → Option Service} (hd : DeliversAll (fun _ => none) ns store)
    (hn : ∀ n ∈ ns, n.NoTombstone) (oldSlice sl : EndpointSlice) (k : String) :
    (k ∈ (ns.foldl EndpointSliceWatcher.onService ⟨[]⟩).handleEndpointSliceAdd (.obj sl) ↔
      LocalSliceKey store sl k) ∧
    (k ∈ (ns.foldl EndpointSliceWatcher.onService ⟨[]⟩).handleEndpointSliceDelete (.obj sl) ↔
      LocalSliceKey store sl k) ∧
    (k ∈ (ns.foldl EndpointSliceWatcher.onService ⟨[]⟩).handleEndpointSliceUpdate
        (.obj oldSlice) (.obj sl) ↔
      LocalSliceKey store sl k ∧ hasNodeAssignmentChanged oldSlice sl = true) := by
  have h := tracksLocal_of_deliversAll hd hn
  refine ⟨h.mem_resyncForSlice sl k, h.mem_resyncForSlice sl k, ?_⟩
  have hr := h.mem_resyncForSlice sl k
  unfold EndpointSliceWatcher.resyncForSlice at hr
  simp only [EndpointSliceWatcher.handleEndpointSliceUpdate, Bool.not_eq_true']
  split_ifs at hr ⊢ <;> simp_all

/-- The `Local` web Service added, then its slice updated from a ready endpoint to one of
    unknown readiness. -/
theorem endpointSlice_resync_of_deliversAll_web :
    DeliversAll (fun _ => none) [.add (.obj localWebService)]
      (Function.update (fun _ => none) localWebService.key (some localWebService)) ∧
    (∀ n ∈ [ServiceNotification.add (.obj localWebService)], n.NoTombstone) ∧
    ((localWebService.key ∈ ([ServiceNotification.add (.obj localWebService)].foldl
        EndpointSliceWatcher.onService ⟨[]⟩).handleEndpointSliceAdd (.obj (webSlice none)) ↔
      LocalSliceKey (Function.update (fun _ => none) localWebService.key (some localWebService))
        (webSlice none) localWebService.key) ∧
    (localWebService.key ∈ ([ServiceNotification.add (.obj localWebService)].foldl
        EndpointSliceWatcher.onService ⟨[]⟩).handleEndpointSliceDelete (.obj (webSlice none)) ↔
      LocalSliceKey (Function.update (fun _ => none) localWebService.key (some localWebService))
        (webSlice none) localWebService.key) ∧
    (localWebService.key ∈ ([ServiceNotification.add (.obj localWebService)].foldl
        EndpointSliceWatcher.onService ⟨[]⟩).handleEndpointSliceUpdate
          (.obj (webSlice (some true))) (.obj (webSlice none)) ↔
      LocalSliceKey (Function.update (fun _ => none) localWebService.key (some localWebService))
        (webSlice none) localWebService.key ∧
        hasNodeAssignmentChanged (webSlice (some true)) (webSlice none) = true)) :=
  have hd : DeliversAll (fun _ => none) [.add (.obj localWebService)]
      (Function.update (fun _ => none) localWebService.key (some localWebService)) :=
    .cons (.add _ rfl) (.nil _)
  have hn : ∀ n ∈ [ServiceNotification.add (.obj localWebService)], n.NoTombstone :=
    fun _ h => by rw [List.mem_singleton.mp h]; trivial
  ⟨hd, hn, endpointSlice_resync_of_deliversAll hd hn (webSlice (some true)) (webSlice none)
    localWebService.key⟩

end ThalassaCcm
