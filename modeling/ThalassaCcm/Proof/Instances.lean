import ThalassaCcm.Engine.Instances
import ThalassaCcm.Engine.TargetGroups

/-!
# The node controller's questions: provider ids, a node's machine, its addresses

Three properties of `instancesV2`, each about more than one call.

* **The provider-id round trip.** `instanceIDFromProviderID` accepts exactly the ids that
  `getProviderID` builds from an identity of the regexp's group characters, and gives that
  identity back (`instanceIDFromProviderID_eq_ok_iff`). The load balancer's
  `serverIdentity` reads the same identity from every id the node controller accepts
  (`serverIdentity_of_instanceIDFromProviderID`).
* **Metadata, then the lifecycle questions.** The provider id `InstanceMetadata` stamps on a
  node is that of a machine of the VPC named after the node. Whatever machines the cloud
  holds when the controllers ask again, `InstanceExists` answers `true` while that machine
  is there; once it is gone, `InstanceExists` fails with the cloud's not-found error and
  `InstanceShutdown` reports the node shut down. The target-group attachment of the node
  names the same machine (`InstanceMetadata_then_lifecycle`), and over a node list the
  attachments are the nodes' machines, one per node, in order
  (`serverIdentities_of_InstanceMetadata`).
* **Addresses over a run of syncs.** Each call reads the node's addresses, which hold the
  previous answer and whatever else the node controller keeps beside it (never an internal
  IP). After any run the node's internal IPs are those of the last observation of the
  machine with a `default` interface, or, if there was none, the first call's fallback:
  the fallback is sticky, and no address flaps (`getNodeAddresses_run`).
-/

set_option autoImplicit false

namespace ThalassaCcm
namespace Instances

open Cloud

/-! ## 1. Provider ids -/

/-- An identity that `providerIDRegexp`'s group matches: one or more of `[0-9A-Za-z_-]`. -/
def IsInstanceID (id : String) : Prop := id ≠ "" ∧ ∀ c ∈ id.data, isInstanceIdChar c = true

instance : DecidablePred IsInstanceID := fun _ => inferInstanceAs (Decidable (_ ∧ _))

theorem getProviderID_data (id : String) :
    (getProviderID id).data = (ProviderName ++ "://").data ++ id.data := rfl

/-- `pfx` starts `l`, and `g` is what follows it. -/
theorem isPrefixOf_and_drop_iff {pfx l g : List Char} :
    pfx.isPrefixOf l = true ∧ l.drop pfx.length = g ↔ l = pfx ++ g := by
  constructor
  · rintro ⟨hp, rfl⟩
    exact (List.prefix_iff_eq_append.mp (List.isPrefixOf_iff_prefix.mp hp)).symm
  · rintro rfl
    exact ⟨List.isPrefixOf_iff_prefix.mpr (List.prefix_append _ _), List.drop_left _ _⟩

/-- The regexp matches exactly the provider ids of instance ids. -/
theorem findStringSubmatch_cases (providerID : String) :
    findStringSubmatch providerID = [] ∨
      ∃ id, IsInstanceID id ∧ providerID = getProviderID id ∧
        findStringSubmatch providerID = [providerID, id] := by
  simp only [findStringSubmatch]
  split_ifs with hc
  · simp only [Bool.and_eq_true, Bool.not_eq_true', List.isEmpty_eq_false, List.all_eq_true] at hc
    obtain ⟨⟨hpre, hne⟩, hall⟩ := hc
    refine .inr ⟨⟨_⟩, ⟨fun h => hne (congrArg String.data h), hall⟩,
      String.ext ((isPrefixOf_and_drop_iff.mp ⟨hpre, rfl⟩).trans (getProviderID_data _).symm), rfl⟩
  · exact .inl rfl

theorem findStringSubmatch_getProviderID {id : String} (hid : IsInstanceID id) :
    findStringSubmatch (getProviderID id) = [getProviderID id, id] := by
  have hg := isPrefixOf_and_drop_iff.mpr (getProviderID_data id)
  have hne : id.data.isEmpty = false := List.isEmpty_eq_false.mpr fun h => hid.1 (String.ext h)
  simp only [findStringSubmatch, hg.1, hg.2, hne, List.all_eq_true.mpr hid.2, Bool.not_false,
    Bool.and_self, if_true]

theorem instanceIDFromProviderID_getProviderID {id : String} (hid : IsInstanceID id) :
    instanceIDFromProviderID (getProviderID id) = .ok id := by
  rw [instanceIDFromProviderID, findStringSubmatch_getProviderID hid]

/-- **The provider-id round trip.** The node controller accepts a provider id exactly when it
    is the one `getProviderID` builds from an instance id, and then answers that id. -/
theorem instanceIDFromProviderID_eq_ok_iff (providerID instanceID : String) :
    instanceIDFromProviderID providerID = .ok instanceID ↔
      providerID = getProviderID instanceID ∧ IsInstanceID instanceID := by
  constructor
  · intro h
    rcases findStringSubmatch_cases providerID with h0 | ⟨id, hid, rfl, -⟩
    · simp [instanceIDFromProviderID, h0] at h
    · rw [instanceIDFromProviderID_getProviderID hid, Except.ok.injEq] at h
      exact h ▸ ⟨rfl, hid⟩
  · rintro ⟨rfl, hid⟩
    exact instanceIDFromProviderID_getProviderID hid

/-- `serverIdentity` reads an instance id back from its provider id: neither the provider
    name nor an instance id holds a `':'`, so the id splits in two at `"://"`. -/
theorem serverIdentity_getProviderID {node : Node} {id : String} (hid : IsInstanceID id)
    (hp : node.providerID = getProviderID id) : Engine.serverIdentity node = some id := by
  have hc : "://".data.head? = some ':' := rfl
  have hcolon : ':' ∉ id.data := fun h => by simpa [isInstanceIdChar] using hid.2 _ h
  have hsplit : Go.split node.providerID "://" = [ProviderName, id] := by
    rw [Go.split, hp, getProviderID_data, String.data_append, List.append_assoc,
      Go.splitAux_append_of_not_mem hc _ _ (by decide), Go.splitAux_sep_append (by decide),
      Go.splitAux_of_not_mem hc _ hcolon, Go.foldr_consHead_nil]
    rfl
  have hne : node.providerID ≠ "" := by
    rw [hp]; exact fun h => by simpa [getProviderID_data] using congrArg String.data h
  simp only [Engine.serverIdentity, hne, if_false, hsplit]

/-- **The two provider-id parsers agree.** Every provider id the node controller accepts, the
    target-group step reads to the same server identity, so a node's attachment names the
    machine `InstanceExists` asks about. -/
theorem serverIdentity_of_instanceIDFromProviderID {node : Node} {instanceID : String}
    (h : instanceIDFromProviderID node.providerID = .ok instanceID) :
    Engine.serverIdentity node = some instanceID :=
  have h' := (instanceIDFromProviderID_eq_ok_iff _ _).mp h
  serverIdentity_getProviderID h'.2 h'.1

theorem serverIdentity_of_instanceIDFromProviderID_vm :
    instanceIDFromProviderID "thalassacloud://vm-1" = .ok "vm-1" ∧
      Engine.serverIdentity ⟨"worker-1", "thalassacloud://vm-1", []⟩ = some "vm-1" :=
  ⟨rfl, serverIdentity_of_instanceIDFromProviderID rfl⟩

/-! ## 2. The node's machine across the lifecycle questions -/

theorem findVirtualMachine_eq_ok {vpcIdentity : String} {listed : List Machine} {node : Node}
    {vm : Machine} (h : findVirtualMachine vpcIdentity (.ok listed) node = .ok vm) :
    vm ∈ listed ∧ vm.vpc = some vpcIdentity ∧ vm.slug = node.name := by
  simp only [findVirtualMachine] at h
  split at h
  · next hf =>
    cases h
    have hp := List.find?_some hf
    simp only [Bool.and_eq_true, beq_iff_eq] at hp
    exact ⟨List.mem_of_find?_eq_some hf, hp⟩
  · cases h

theorem InstanceMetadata_eq_ok {vpcIdentity : String} {listed : List Machine}
    {getVpcRegion : Except String String} {node : Node} {prevAddrs : List NodeAddress}
    {md : Metadata} (h : InstanceMetadata vpcIdentity (.ok listed) getVpcRegion node prevAddrs = .ok md) :
    ∃ vm, findVirtualMachine vpcIdentity (.ok listed) node = .ok vm ∧
      md.providerID = getProviderID vm.identity := by
  simp only [InstanceMetadata] at h
  split at h
  · cases h
  · next vm hvm =>
    split at h
    · cases h
    · cases h; exact ⟨vm, hvm, rfl⟩

theorem getMachineOf_of_mem {machines : List Machine} {id : String}
    (h : id ∈ machines.map (·.identity)) : ∃ m, getMachineOf machines id = .ok (some m) := by
  obtain ⟨m, hm, rfl⟩ := List.mem_map.mp h
  cases hf : machines.find? (·.identity == m.identity) with
  | none => exact absurd (List.find?_eq_none.mp hf m hm) (by simp)
  | some m' => exact ⟨m', by simp [getMachineOf, hf]⟩

theorem getMachineOf_of_not_mem {machines : List Machine} {id : String}
    (h : id ∉ machines.map (·.identity)) : getMachineOf machines id = .error notFound := by
  have hn : machines.find? (·.identity == id) = none :=
    List.find?_eq_none.mpr fun m hm he => h (List.mem_map.mpr ⟨m, hm, by simpa using he⟩)
  simp [getMachineOf, hn]

/-- **Metadata, then the lifecycle questions.** The machine `InstanceMetadata` finds by name
    is the one the node's provider id names from then on: whatever machines the cloud holds
    later, `InstanceExists` answers `true` while it is there, and once it is gone
    `InstanceExists` fails with the cloud's not-found error and `InstanceShutdown` reports
    the node shut down; the node's target-group attachment names the same machine. The
    listed machines' identities must be instance ids, or the id does not parse back. -/
theorem InstanceMetadata_then_lifecycle {vpcIdentity : String} {listed : List Machine}
    {getVpcRegion : Except String String} {node : Node} {prevAddrs : List NodeAddress}
    {md : Metadata} (hvalid : ∀ m ∈ listed, IsInstanceID m.identity)
    (hmd : InstanceMetadata vpcIdentity (.ok listed) getVpcRegion node prevAddrs = .ok md)
    (node' : Node) (hp : node'.providerID = md.providerID) (machines : List Machine) :
    ∃ vm ∈ listed, vm.vpc = some vpcIdentity ∧ vm.slug = node.name ∧
      md.providerID = getProviderID vm.identity ∧
      Engine.serverIdentity node' = some vm.identity ∧
      (vm.identity ∈ machines.map (·.identity) →
        InstanceExists (getMachineOf machines) node' = .ok true) ∧
      (vm.identity ∉ machines.map (·.identity) →
        InstanceExists (getMachineOf machines) node' = .error (.error notFound) ∧
        InstanceShutdown (getMachineOf machines) node' = .ok true) := by
  obtain ⟨vm, hvm, hpid⟩ := InstanceMetadata_eq_ok hmd
  obtain ⟨hmem, hvpc, hslug⟩ := findVirtualMachine_eq_ok hvm
  have hid : instanceIDFromProviderID node'.providerID = .ok vm.identity := by
    rw [hp, hpid]; exact instanceIDFromProviderID_getProviderID (hvalid vm hmem)
  refine ⟨vm, hmem, hvpc, hslug, hpid, serverIdentity_getProviderID (hvalid vm hmem) (hp.trans hpid),
    fun hin => ?_, fun hout => ?_⟩
  · obtain ⟨m, hm⟩ := getMachineOf_of_mem hin
    simp [InstanceExists, hid, hm]
  · have hm := getMachineOf_of_not_mem hout
    simp [InstanceExists, InstanceShutdown, hid, hm, IsNotFound]

/-- A machine of the VPC named after its node, with one `default` interface. -/
def workerMachine : Machine where
  identity := "vm-1"
  name := "worker-1"
  slug := "worker-1"
  vpc := some "vpc-1"
  status := "running"
  availabilityZone := some "nl-1a"
  machineType := some "pgp-small"
  interfaces := [⟨"default", ["10.0.0.5"]⟩]

theorem InstanceMetadata_then_lifecycle_worker :
    (∀ m ∈ [workerMachine], IsInstanceID m.identity) ∧
      InstanceMetadata "vpc-1" (.ok [workerMachine]) (.ok "nl-1") ⟨"worker-1", "", []⟩ [] =
        .ok ⟨"thalassacloud://vm-1", [⟨.InternalIP, "10.0.0.5"⟩], "pgp-small", "nl-1", "nl-1a"⟩ ∧
      ∃ vm ∈ [workerMachine], vm.vpc = some "vpc-1" ∧ vm.slug = "worker-1" ∧
        "thalassacloud://vm-1" = getProviderID vm.identity ∧
        Engine.serverIdentity ⟨"worker-1", "thalassacloud://vm-1", []⟩ = some vm.identity ∧
        (vm.identity ∈ ([] : List Machine).map (·.identity) →
          InstanceExists (getMachineOf []) ⟨"worker-1", "thalassacloud://vm-1", []⟩ = .ok true) ∧
        (vm.identity ∉ ([] : List Machine).map (·.identity) →
          InstanceExists (getMachineOf []) ⟨"worker-1", "thalassacloud://vm-1", []⟩ =
            .error (.error notFound) ∧
          InstanceShutdown (getMachineOf []) ⟨"worker-1", "thalassacloud://vm-1", []⟩ = .ok true) :=
  have hmd : InstanceMetadata "vpc-1" (.ok [workerMachine]) (.ok "nl-1") ⟨"worker-1", "", []⟩ [] =
      .ok ⟨"thalassacloud://vm-1", [⟨.InternalIP, "10.0.0.5"⟩], "pgp-small", "nl-1", "nl-1a"⟩ := rfl
  have hvalid : ∀ m ∈ [workerMachine], IsInstanceID m.identity := by decide
  ⟨hvalid, hmd, InstanceMetadata_then_lifecycle hvalid hmd _ rfl []⟩

/-- **The load balancer attaches the nodes' machines.** For nodes whose provider ids the
    node controller set from `InstanceMetadata`, the server identities
    `upgradeTargetGroupAttachments` sends are those of machines of the VPC named after the
    nodes, one per node, in node order. -/
theorem serverIdentities_of_InstanceMetadata {vpcIdentity : String} {listed : List Machine}
    (hvalid : ∀ m ∈ listed, IsInstanceID m.identity) (nodes : List Node)
    (hinit : ∀ node ∈ nodes, ∃ getVpcRegion prevAddrs md,
      InstanceMetadata vpcIdentity (.ok listed) getVpcRegion node prevAddrs = .ok md ∧
        node.providerID = md.providerID) :
    ∃ vms : List Machine,
      List.Forall₂ (fun node vm => vm ∈ listed ∧ vm.vpc = some vpcIdentity ∧ vm.slug = node.name)
        nodes vms ∧
      nodes.filterMap Engine.serverIdentity = vms.map (·.identity) := by
  induction nodes with
  | nil => exact ⟨[], .nil, rfl⟩
  | cons node nodes ih =>
    obtain ⟨_, _, md, hmd, hp⟩ := hinit node (List.mem_cons_self _ _)
    obtain ⟨vm, hvm, hpid⟩ := InstanceMetadata_eq_ok hmd
    obtain ⟨hmem, hvpc, hslug⟩ := findVirtualMachine_eq_ok hvm
    obtain ⟨vms, hF, hids⟩ := ih fun n hn => hinit n (List.mem_cons_of_mem _ hn)
    refine ⟨vm :: vms, .cons ⟨hmem, hvpc, hslug⟩ hF, ?_⟩
    simp only [List.filterMap_cons, serverIdentity_getProviderID (hvalid vm hmem) (hp.trans hpid),
      hids, List.map_cons]

/-- The node of `workerMachine`, once the node controller has set its provider id. -/
def workerNode : Node := ⟨"worker-1", "thalassacloud://vm-1", []⟩

theorem serverIdentities_of_InstanceMetadata_worker :
    (∀ m ∈ [workerMachine], IsInstanceID m.identity) ∧
      (∀ node ∈ [workerNode], ∃ getVpcRegion prevAddrs md,
        InstanceMetadata "vpc-1" (.ok [workerMachine]) getVpcRegion node prevAddrs = .ok md ∧
          node.providerID = md.providerID) ∧
      ∃ vms : List Machine,
        List.Forall₂ (fun node vm => vm ∈ [workerMachine] ∧ vm.vpc = some "vpc-1" ∧
          vm.slug = node.name) [workerNode] vms ∧
        [workerNode].filterMap Engine.serverIdentity = vms.map (·.identity) :=
  have hvalid : ∀ m ∈ [workerMachine], IsInstanceID m.identity := by decide
  have hinit : ∀ node ∈ [workerNode], ∃ getVpcRegion prevAddrs md,
      InstanceMetadata "vpc-1" (.ok [workerMachine]) getVpcRegion node prevAddrs = .ok md ∧
        node.providerID = md.providerID := by
    simp only [List.mem_singleton, forall_eq]
    exact ⟨.ok "nl-1", [], _, rfl, rfl⟩
  ⟨hvalid, hinit, serverIdentities_of_InstanceMetadata hvalid [workerNode] hinit⟩

/-! ## 3. Node addresses -/

theorem AddToNodeAddresses_eq (addresses : List NodeAddress) (add : NodeAddress) :
    AddToNodeAddresses addresses add =
      if add ∈ addresses then addresses else addresses ++ [add] := by
  have hany : (addresses.any fun e => e.address == add.address && e.type == add.type) = true ↔
      add ∈ addresses := by
    simp only [List.any_eq_true, Bool.and_eq_true, beq_iff_eq]
    exact ⟨fun ⟨e, he, ha, ht⟩ => by cases e; cases add; simp_all, fun h => ⟨add, h, rfl, rfl⟩⟩
  by_cases h : add ∈ addresses
  · rw [AddToNodeAddresses, if_pos (hany.mpr h), if_pos h]
  · rw [AddToNodeAddresses, if_neg (mt hany.mp h), if_neg h]

theorem mem_foldl_AddToNodeAddresses (l : List NodeAddress) :
    ∀ (acc : List NodeAddress) (a : NodeAddress),
      a ∈ l.foldl AddToNodeAddresses acc ↔ a ∈ acc ∨ a ∈ l := by
  induction l with
  | nil => simp
  | cons x l ih =>
    intro acc a
    rw [List.foldl_cons, ih, AddToNodeAddresses_eq]
    by_cases hx : x ∈ acc
    · rw [if_pos hx, List.mem_cons]
      exact ⟨fun h => h.imp_right .inr, fun h => by rcases h with h | rfl | h <;> simp [*]⟩
    · simp [hx, or_assoc]

theorem nodup_foldl_AddToNodeAddresses (l : List NodeAddress) :
    ∀ (acc : List NodeAddress), acc.Nodup → (l.foldl AddToNodeAddresses acc).Nodup := by
  induction l with
  | nil => exact fun _ h => h
  | cons x l ih =>
    intro acc hacc
    rw [List.foldl_cons, AddToNodeAddresses_eq]
    split_ifs with hx
    · exact ih acc hacc
    · exact ih _ (hacc.append (List.nodup_singleton x) (List.disjoint_singleton.mpr hx))

/-- Over addresses none of which is there or repeated, the fold appends them all. -/
theorem foldl_AddToNodeAddresses_of_nodup (l : List NodeAddress) :
    ∀ (acc : List NodeAddress), (acc ++ l).Nodup → l.foldl AddToNodeAddresses acc = acc ++ l := by
  induction l with
  | nil => simp
  | cons x l ih =>
    intro acc h
    have hx : x ∉ acc := fun hx => (List.nodup_append.mp h).2.2 hx (List.mem_cons_self _ _)
    rw [List.foldl_cons, AddToNodeAddresses_eq, if_neg hx, ih _ (by simpa using h)]
    simp

/-- The addresses `getNodeAddresses` answers: internal IPs, none twice. -/
structure AddressesWf (addrs : List NodeAddress) : Prop where
  nodup : addrs.Nodup
  internal : ∀ a ∈ addrs, a.type = .InternalIP

theorem getNodeAddresses_wf (vmi : Machine) (prevAddrs : List NodeAddress) :
    AddressesWf (getNodeAddresses vmi prevAddrs) := by
  unfold getNodeAddresses
  split
  · refine ⟨nodup_foldl_AddToNodeAddresses _ _ List.nodup_nil, fun a ha => ?_⟩
    obtain ⟨ip, -, rfl⟩ : ∃ ip, _ ∧ _ := by simpa [mem_foldl_AddToNodeAddresses] using ha
    rfl
  · refine ⟨nodup_foldl_AddToNodeAddresses _ _ List.nodup_nil, fun a ha => ?_⟩
    exact (by simpa [mem_foldl_AddToNodeAddresses] using ha : a ∈ prevAddrs ∧ _).2

/-- Addresses the node controller keeps beside an answer: none is an internal IP. -/
def KeptAddresses (kept : List NodeAddress) : Prop := ∀ a ∈ kept, a.type ≠ .InternalIP

theorem filter_internal_append {addrs kept : List NodeAddress} (hw : AddressesWf addrs)
    (hkept : KeptAddresses kept) :
    (addrs ++ kept).filter (·.type == .InternalIP) = addrs := by
  rw [List.filter_append, List.filter_eq_self.mpr fun a ha => by simp [hw.internal a ha],
    List.filter_eq_nil_iff.mpr fun a ha => by simpa using hkept a ha, List.append_nil]

/-- With a `default` interface, the node's previous addresses are not read. -/
theorem getNodeAddresses_of_any {vmi : Machine} (h : vmi.interfaces.any isDefaultInterface = true)
    (prevAddrs : List NodeAddress) : getNodeAddresses vmi prevAddrs = getNodeAddresses vmi [] := by
  obtain ⟨i, hi⟩ := Option.isSome_iff_exists.mp
    (List.find?_isSome.mpr (List.any_eq_true.mp h))
  simp only [getNodeAddresses, hi]

/-- Without one, an earlier answer comes back unchanged, whatever was kept beside it. -/
theorem getNodeAddresses_of_not_any {vmi : Machine}
    (h : vmi.interfaces.any isDefaultInterface = false) {addrs kept : List NodeAddress}
    (hw : AddressesWf addrs) (hkept : KeptAddresses kept) :
    getNodeAddresses vmi (addrs ++ kept) = addrs := by
  have hnone : vmi.interfaces.find? isDefaultInterface = none :=
    List.find?_eq_none.mpr (List.any_eq_false.mp h)
  simp only [getNodeAddresses, hnone, filter_internal_append hw hkept]
  simpa using foldl_AddToNodeAddresses_of_nodup addrs [] hw.nodup

/-- One call, read as a run of one: with a `default` interface its previous addresses are
    not read. -/
theorem getNodeAddresses_eq_match (vmi : Machine) (prevAddrs : List NodeAddress) :
    getNodeAddresses vmi prevAddrs =
      match [vmi].find? (·.interfaces.any isDefaultInterface) with
      | some m => getNodeAddresses m []
      | none => getNodeAddresses vmi prevAddrs := by
  cases hd : vmi.interfaces.any isDefaultInterface
  · simp [hd]
  · simp [hd, getNodeAddresses_of_any hd]

/-- A run of the node controller's syncs of one node: each call reads the node's addresses,
    which hold the previous answer and, beside it, what the controller kept of the node's
    own addresses. -/
def syncNodeAddresses (prevAddrs : List NodeAddress) :
    List (Machine × List NodeAddress) → List NodeAddress
  | [] => prevAddrs
  | (vmi, kept) :: rest => syncNodeAddresses (getNodeAddresses vmi prevAddrs ++ kept) rest

/-- After any run, the node's internal IPs are those of the last observation of its machine
    with a `default` interface, or, if there was none, the first call's fallback to the
    node's own: no later call changes them. -/
theorem filter_syncNodeAddresses (prevAddrs : List NodeAddress) (vmi : Machine)
    (kept : List NodeAddress) (rest : List (Machine × List NodeAddress))
    (hkept : ∀ p ∈ (vmi, kept) :: rest, KeptAddresses p.2) :
    (syncNodeAddresses prevAddrs ((vmi, kept) :: rest)).filter (·.type == .InternalIP) =
      match (((vmi, kept) :: rest).map Prod.fst).reverse.find?
          (·.interfaces.any isDefaultInterface) with
      | some m => getNodeAddresses m []
      | none => getNodeAddresses vmi prevAddrs := by
  induction rest generalizing prevAddrs vmi kept with
  | nil =>
    rw [syncNodeAddresses, syncNodeAddresses,
      filter_internal_append (getNodeAddresses_wf _ _) (hkept _ (List.mem_singleton_self _))]
    exact getNodeAddresses_eq_match vmi prevAddrs
  | cons q rest ih =>
    obtain ⟨w, kept'⟩ := q
    have hk : KeptAddresses kept := hkept _ (List.mem_cons_self _ _)
    have hR : (((vmi, kept) :: (w, kept') :: rest).map Prod.fst).reverse.find?
          (fun m : Machine => m.interfaces.any isDefaultInterface) =
        ((((w, kept') :: rest).map Prod.fst).reverse.find?
          (fun m : Machine => m.interfaces.any isDefaultInterface)).or
          ([vmi].find? fun m : Machine => m.interfaces.any isDefaultInterface) := by
      rw [List.map_cons Prod.fst (vmi, kept), List.reverse_cons (vmi, kept).1, List.find?_append]
    rw [syncNodeAddresses, ih _ w kept' fun p hp => hkept p (List.mem_cons_of_mem _ hp), hR]
    cases hl : (((w, kept') :: rest).map Prod.fst).reverse.find?
        (fun m : Machine => m.interfaces.any isDefaultInterface) with
    | some m => rfl
    | none =>
      have hw : w.interfaces.any isDefaultInterface = false := by
        simpa using List.find?_eq_none.mp hl w (by simp)
      rw [getNodeAddresses_of_not_any hw (getNodeAddresses_wf _ _) hk]
      exact getNodeAddresses_eq_match vmi prevAddrs

/-- **Addresses over a run of syncs.** Every answer is duplicate-free and holds only
    internal IPs; and after any run, the node's internal IPs are those of the last
    observation of its machine with a `default` interface, or, if there was none, the first
    call's fallback to the node's own: no later call changes them. -/
theorem getNodeAddresses_run (prevAddrs : List NodeAddress) (vmi : Machine)
    (kept : List NodeAddress) (rest : List (Machine × List NodeAddress))
    (hkept : ∀ p ∈ (vmi, kept) :: rest, KeptAddresses p.2) :
    (∀ m prev, AddressesWf (getNodeAddresses m prev)) ∧
    (syncNodeAddresses prevAddrs ((vmi, kept) :: rest)).filter (·.type == .InternalIP) =
      match (((vmi, kept) :: rest).map Prod.fst).reverse.find?
          (·.interfaces.any isDefaultInterface) with
      | some m => getNodeAddresses m []
      | none => getNodeAddresses vmi prevAddrs :=
  ⟨getNodeAddresses_wf, filter_syncNodeAddresses prevAddrs vmi kept rest hkept⟩

/-- The same machine without its interface. -/
def detachedMachine : Machine := { workerMachine with interfaces := [] }

theorem getNodeAddresses_run_worker :
    (∀ p ∈ [(workerMachine, [⟨.Hostname, "worker-1"⟩]), (detachedMachine, [])], KeptAddresses p.2) ∧
      (syncNodeAddresses [⟨.InternalIP, "10.0.0.9"⟩]
          [(workerMachine, [⟨.Hostname, "worker-1"⟩]), (detachedMachine, [])]).filter
            (·.type == .InternalIP) = [⟨.InternalIP, "10.0.0.5"⟩] :=
  have hk : ∀ p ∈ [(workerMachine, [⟨.Hostname, "worker-1"⟩]), (detachedMachine, [])],
      KeptAddresses p.2 := by
    simp [KeptAddresses]
  ⟨hk, (getNodeAddresses_run _ _ _ _ hk).2.trans rfl⟩

end Instances
end ThalassaCcm
