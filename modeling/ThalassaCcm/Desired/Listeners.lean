import Mathlib.Data.List.Sort
import ThalassaCcm.Core.Identity
import ThalassaCcm.Cloud.Objects

/-!
# The desired listeners (`loadbalancer_listeners.go`)

`desiredVpcLoadbalancerListener` turns a Service into one listener per port: its name,
its lowercased protocol, the port's target-group labels, the idle timeout and connection
cap (narrowed with `uint32(·)`), and the allowed sources, which are the global ACL
followed by the port's own, without repeats. The per-port ACL reads the annotation keyed
by the port's name (when it has one) and then the one keyed by its number.

Each list of sources is parsed by `parseAclSources`: split on commas, trimmed, and kept
only when non-empty and accepted by `net.ParseCIDR`. Its result is a normal form: a list
of sources comes back from its comma-joined text exactly when each source is one the parser
keeps as it is, which every parsed source is (`parseAclSources_aclSourcesText_iff`).

`removeDuplicateStrings` keeps each string of its input once, in the order of first
occurrence, and removing repeats from a tail first changes nothing
(`removeDuplicateStrings_first_occurrences`); the first two properties pin its result
(`eq_removeDuplicateStrings`).
-/

set_option autoImplicit false

namespace ThalassaCcm

open Cloud

/-! ## 1. Sources -/

/-- `parseAclSources`. -/
def parseAclSources (lb : Loadbalancer) (sourcesStr : String) : List String :=
  (Go.split sourcesStr ",").filterMap fun source =>
    let source := Go.trimSpace source
    if source = "" then none
    else if (lb.parseCIDR source).isNone then none
    else some source

/-- `strings.Join(sources, ",")`: the annotation text of a list of sources. -/
def aclSourcesText (sources : List String) : String :=
  ⟨[','].intercalate (sources.map String.data)⟩

/-- A source `parseAclSources` keeps as it is: non-empty, with no comma and no surrounding
    space, and accepted by `net.ParseCIDR`. -/
def AclSource (lb : Loadbalancer) (source : String) : Prop :=
  source ≠ "" ∧ ',' ∉ source.data ∧ Go.trimSpace source = source ∧ (lb.parseCIDR source).isSome

theorem aclSource_of_mem_parseAclSources {lb : Loadbalancer} {sourcesStr source : String}
    (h : source ∈ parseAclSources lb sourcesStr) : AclSource lb source := by
  simp only [parseAclSources, Go.split, List.filterMap_map, List.mem_filterMap,
    Function.comp_apply] at h
  obtain ⟨piece, hpiece, hsome⟩ := h
  split_ifs at hsome with h0 hnone
  cases hsome
  refine ⟨h0, fun hc => ?_, Go.trimSpace_trimSpace _, by simpa [Option.isSome_iff_ne_none] using hnone⟩
  exact Go.not_mem_of_mem_splitAux_single ',' _ piece hpiece ((Go.trimSpace_sublist _).subset hc)

/-- Sources that are kept as they are come back from their annotation text. -/
theorem parseAclSources_aclSourcesText {lb : Loadbalancer} {sources : List String}
    (h : ∀ x ∈ sources, AclSource lb x) : parseAclSources lb (aclSourcesText sources) = sources := by
  by_cases hne : sources = []
  · subst hne; rfl
  have hsplit : Go.split (aclSourcesText sources) "," = sources := by
    rw [Go.split, aclSourcesText, show ",".data = [','] from rfl,
      Go.splitAux_intercalate (show [','].head? = some ',' from rfl) _ (by simpa using hne)
        (by simpa using fun x hx => (h x hx).2.1), List.map_map]
    exact List.map_id'' (fun _ => rfl) sources
  rw [parseAclSources, hsplit]
  conv_rhs => rw [← List.filterMap_some sources]
  refine List.filterMap_congr fun x hx => ?_
  obtain ⟨h0, -, htrim, hcidr⟩ := h x hx
  simp [htrim, h0, Option.isNone_iff_eq_none, Option.isSome_iff_ne_none.mp hcidr]

/-- **The parsed sources are a normal form.** Every source the parser returns is kept as it
    is; and a list of sources comes back from its annotation text exactly when each is kept
    as it is, so writing the parsed sources back to the annotation changes no listener. -/
theorem parseAclSources_aclSourcesText_iff (lb : Loadbalancer) :
    (∀ sourcesStr, ∀ x ∈ parseAclSources lb sourcesStr, AclSource lb x) ∧
    ∀ sources, parseAclSources lb (aclSourcesText sources) = sources ↔
      ∀ x ∈ sources, AclSource lb x :=
  ⟨fun _ _ hx => aclSource_of_mem_parseAclSources hx, fun _ =>
    ⟨fun h _ hx => aclSource_of_mem_parseAclSources (h.symm ▸ hx), parseAclSources_aclSourcesText⟩⟩

/-- The loop of `removeDuplicateStrings`, with the set of strings already kept. -/
def removeDuplicateStringsAux : List String → List String → List String
  | _, [] => []
  | keys, item :: input =>
    if item ∈ keys then removeDuplicateStringsAux keys input
    else item :: removeDuplicateStringsAux (item :: keys) input

/-- `removeDuplicateStrings`: the first occurrence of every string, in order. -/
def removeDuplicateStrings (input : List String) : List String :=
  removeDuplicateStringsAux [] input

/-- The loop keeps the strings of its input it had not kept before. -/
theorem mem_removeDuplicateStringsAux {keys input : List String} {x : String} :
    x ∈ removeDuplicateStringsAux keys input ↔ x ∈ input ∧ x ∉ keys := by
  induction input generalizing keys with
  | nil => simp only [removeDuplicateStringsAux, List.not_mem_nil, false_and]
  | cons item input ih =>
    by_cases hx : x = item
    · subst hx
      by_cases h : x ∈ keys <;> simp [removeDuplicateStringsAux, h, ih]
    · simp only [removeDuplicateStringsAux]
      split <;> simp [ih, hx]

/-- ... and keeps each of them once. -/
theorem nodup_removeDuplicateStringsAux (keys input : List String) :
    (removeDuplicateStringsAux keys input).Nodup := by
  induction input generalizing keys with
  | nil => exact List.nodup_nil
  | cons item input ih =>
    simp only [removeDuplicateStringsAux]
    split
    · exact ih keys
    · exact List.nodup_cons.mpr
        ⟨fun h => (mem_removeDuplicateStringsAux.mp h).2 (List.mem_cons_self _ _), ih _⟩

/-- ... in the order of their first index in the input. -/
theorem pairwise_removeDuplicateStringsAux (keys input : List String) :
    (removeDuplicateStringsAux keys input).Pairwise
      fun x y => input.indexOf x < input.indexOf y := by
  induction input generalizing keys with
  | nil => exact List.Pairwise.nil
  | cons item input ih =>
    -- what the rest keeps once `item` is kept is not `item`: its indices shift by one
    have shift : ∀ keys', item ∈ keys' → (removeDuplicateStringsAux keys' input).Pairwise
        fun x y => (item :: input).indexOf x < (item :: input).indexOf y := by
      intro keys' hk
      refine (ih keys').imp_of_mem fun hx hy hxy => ?_
      have hne : ∀ {z}, z ∈ removeDuplicateStringsAux keys' input → item ≠ z :=
        fun hz e => (mem_removeDuplicateStringsAux.mp hz).2 (e ▸ hk)
      rw [List.indexOf_cons_ne _ (hne hx), List.indexOf_cons_ne _ (hne hy)]
      exact Nat.succ_lt_succ hxy
    simp only [removeDuplicateStringsAux]
    split
    · exact shift keys ‹_›
    · refine List.Pairwise.cons (fun y hy => ?_) (shift _ (List.mem_cons_self _ _))
      have hne : item ≠ y := fun e =>
        (mem_removeDuplicateStringsAux.mp hy).2 (e ▸ List.mem_cons_self _ _)
      rw [List.indexOf_cons_self, List.indexOf_cons_ne _ hne]
      exact Nat.succ_pos _

@[simp] theorem mem_removeDuplicateStrings {input : List String} {x : String} :
    x ∈ removeDuplicateStrings input ↔ x ∈ input := by
  simp only [removeDuplicateStrings, mem_removeDuplicateStringsAux, List.not_mem_nil,
    not_false_eq_true, and_true]

theorem nodup_removeDuplicateStrings (input : List String) :
    (removeDuplicateStrings input).Nodup :=
  nodup_removeDuplicateStringsAux [] input

/-- The loop reads the strings already kept only through membership. -/
theorem removeDuplicateStringsAux_congr (input : List String) {keys keys' : List String}
    (h : ∀ x, x ∈ keys ↔ x ∈ keys') :
    removeDuplicateStringsAux keys input = removeDuplicateStringsAux keys' input := by
  induction input generalizing keys keys' with
  | nil => rfl
  | cons item input ih =>
    simp only [removeDuplicateStringsAux, h item]
    split
    · exact ih h
    · exact congrArg (item :: ·) (ih fun x => by simp only [List.mem_cons, h x])

/-- Two passes keep, in one, what neither pass had kept. -/
theorem removeDuplicateStringsAux_removeDuplicateStringsAux (input : List String)
    (keys keys' : List String) :
    removeDuplicateStringsAux keys (removeDuplicateStringsAux keys' input) =
      removeDuplicateStringsAux (keys ++ keys') input := by
  induction input generalizing keys keys' with
  | nil => rfl
  | cons item input ih =>
    by_cases h' : item ∈ keys'
    · simp only [removeDuplicateStringsAux, h', if_true, List.mem_append, or_true, ih]
    by_cases h : item ∈ keys
    · simp only [removeDuplicateStringsAux, h, h', if_true, if_false, List.mem_append, true_or, ih]
      refine removeDuplicateStringsAux_congr input fun x => ?_
      by_cases hx : x = item <;> simp [hx, h]
    · simp only [removeDuplicateStringsAux, h, h', if_false, List.mem_append, or_self, ih,
        List.cons_append]
      refine congrArg (item :: ·) (removeDuplicateStringsAux_congr input fun x => ?_)
      by_cases hx : x = item <;> simp [hx]

/-- Removing repeats from a tail first changes nothing. -/
theorem removeDuplicateStrings_append_dedup (front back : List String) :
    removeDuplicateStrings (front ++ removeDuplicateStrings back) =
      removeDuplicateStrings (front ++ back) := by
  suffices h : ∀ keys, removeDuplicateStringsAux keys (front ++ removeDuplicateStrings back) =
      removeDuplicateStringsAux keys (front ++ back) from h []
  induction front with
  | nil =>
    intro keys
    simp only [List.nil_append, removeDuplicateStrings,
      removeDuplicateStringsAux_removeDuplicateStringsAux, List.append_nil]
  | cons item front ih =>
    intro keys
    simp only [List.cons_append, removeDuplicateStringsAux]
    split
    · exact ih keys
    · exact congrArg (item :: ·) (ih _)

/-- `removeDuplicateStrings` keeps every string of its input exactly once, in the order
    of first occurrence; and removing repeats from a tail first changes nothing. -/
theorem removeDuplicateStrings_first_occurrences (xs a b : List String) :
    (∀ x, (removeDuplicateStrings xs).count x = if x ∈ xs then 1 else 0) ∧
    (removeDuplicateStrings xs).Pairwise (fun x y => xs.indexOf x < xs.indexOf y) ∧
    removeDuplicateStrings (a ++ removeDuplicateStrings b) = removeDuplicateStrings (a ++ b) := by
  refine ⟨fun x => ?_, pairwise_removeDuplicateStringsAux [] xs,
    removeDuplicateStrings_append_dedup a b⟩
  simp only [List.count_eq_of_nodup (nodup_removeDuplicateStrings xs), mem_removeDuplicateStrings]

/-- Those two properties pin the list: any list that has each string of the input once, in
    the order of first occurrence, is `removeDuplicateStrings`'s. -/
theorem eq_removeDuplicateStrings {xs r : List String} (hr : r.Nodup)
    (hmem : ∀ x, x ∈ r ↔ x ∈ xs) (horder : r.Pairwise fun x y => xs.indexOf x < xs.indexOf y) :
    r = removeDuplicateStrings xs := by
  have : IsAntisymm String fun x y => xs.indexOf x < xs.indexOf y :=
    ⟨fun _ _ h h' => absurd (h.trans h') (lt_irrefl _)⟩
  exact List.eq_of_perm_of_sorted ((List.perm_ext_iff_of_nodup hr
    (nodup_removeDuplicateStrings xs)).mpr fun x => (hmem x).trans mem_removeDuplicateStrings.symm)
    horder (pairwise_removeDuplicateStringsAux [] xs)

/-- The annotation value at `key`, parsed as sources, or nothing when absent. -/
def aclSourcesAt (lb : Loadbalancer) (svc : Service) (key : String) : List String :=
  match svc.annotations.find? key with
  | some val => parseAclSources lb val
  | none => []

/-- `getPerPortAclAllowedSources`: the name-keyed annotation (for a named port), then
    the number-keyed one, without repeats. -/
def getPerPortAclAllowedSources (lb : Loadbalancer) (svc : Service) (port : ServicePort) :
    List String :=
  let byName :=
    if port.name ≠ "" then
      aclSourcesAt lb svc (loadbalancerAnnotationAclAllowedSourcesPort ++ "-" ++ port.name)
    else []
  let byNumber :=
    aclSourcesAt lb svc (loadbalancerAnnotationAclAllowedSourcesPort ++ "-" ++ toString port.port)
  removeDuplicateStrings (byName ++ byNumber)

/-! ## 2. Listeners -/

/-- The listener `desiredVpcLoadbalancerListener` builds for one port, given the global
    sources and the decoded timeout and connection cap. -/
def desiredListenerForPort (lb : Loadbalancer) (svc : Service) (globalSources : List String)
    (connectionTimeout maxConnections : Int) (port : ServicePort) : VpcLoadbalancerListener where
  identity := ""
  name := getPortName (getLoadBalancerName svc) port
  description := "Listener for Kubernetes service " ++ svc.name
  labels := getLabelsForVpcLoadbalancerTargetGroup lb svc port.port port.protocol.toString
  port := port.port
  protocol := Go.toLower port.protocol.toString
  targetGroup := ⟨"", port.name⟩
  allowedSources := removeDuplicateStrings (globalSources ++ getPerPortAclAllowedSources lb svc port)
  connectionIdleTimeout := some (Go.toUInt32 connectionTimeout)
  maxConnections := some (Go.toUInt32 maxConnections)

/-- `desiredVpcLoadbalancerListener`: one listener per port, in port order. The decode
    errors of the two integer annotations are only logged. -/
def desiredVpcLoadbalancerListener (lb : Loadbalancer) (svc : Service) :
    List VpcLoadbalancerListener :=
  let globalSources := aclSourcesAt lb svc loadbalancerAnnotationAclAllowedSources
  let connectionTimeout :=
    ( getIntAnnotation svc loadbalancerAnnotationIdleConnectionTimeout
      defaultIdleConnectionTimeout).1
  let maxConnections :=
    ( getIntAnnotation svc loadbalancerAnnotationMaxConnections defaultMaxConnections).1
  svc.ports.map (desiredListenerForPort lb svc globalSources connectionTimeout maxConnections)

theorem length_desiredVpcLoadbalancerListener (lb : Loadbalancer) (svc : Service) :
    (desiredVpcLoadbalancerListener lb svc).length = svc.ports.length := by
  simp [desiredVpcLoadbalancerListener]

theorem mem_desiredVpcLoadbalancerListener {lb : Loadbalancer} {svc : Service}
    {l : VpcLoadbalancerListener} :
    l ∈ desiredVpcLoadbalancerListener lb svc ↔
      ∃ p ∈ svc.ports, desiredListenerForPort lb svc
        (aclSourcesAt lb svc loadbalancerAnnotationAclAllowedSources)
        ( getIntAnnotation svc loadbalancerAnnotationIdleConnectionTimeout
          defaultIdleConnectionTimeout).1
        ( getIntAnnotation svc loadbalancerAnnotationMaxConnections defaultMaxConnections).1 p = l := by
  simp [desiredVpcLoadbalancerListener]

end ThalassaCcm
