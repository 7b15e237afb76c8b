import ThalassaCcm.Cloud.Prog
import ThalassaCcm.Core.Service

/-!
# The node controller's questions (`instancesV2`)

The cloud-node controllers ask the provider three things about a Kubernetes node: whether
its machine exists (`InstanceExists`), whether it is shut down (`InstanceShutdown`), and
its metadata (`InstanceMetadata`: provider id, addresses, instance type, region, zone).
A node meets its machine in two ways. The metadata is read first, by name:
`findVirtualMachine` lists the VPC's machines and takes the first whose slug is the node's
name. Its answer stamps the node with the provider id `thalassacloud://<identity>`, and
the other two questions parse that id back with `providerIDRegexp`.

The iaas answers are arguments: `GetMachine` answers a machine, no machine, or an error;
`ListMachines` a list or an error; `GetVpc` the slug of the VPC's region or an error.
`IsNotFound` recognises the cloud's `notFound`. A Go error is `Failure.error` and a nil
dereference `Failure.panic`, as in `Cloud/Prog.lean`. `InstanceShutdown` returns `true`
beside the error of a machine in the `unknown` state; the controllers read the value only
when the error is nil, so only the error is kept.

The node's `Status.Addresses` is passed beside the node.
-/

set_option autoImplicit false

namespace ThalassaCcm
namespace Instances

open Cloud

/-! ## 1. Machines and node addresses -/

/-- `iaas.MachineInterface`: its name and addresses. -/
structure MachineInterface where
  name : String
  ipAddresses : List String
  deriving DecidableEq, Repr

/-- `iaas.Machine`: the fields the node controller reads. A nil `Vpc` or `MachineType` is
    `none`; `status` is `Status.Status`. -/
structure Machine where
  identity : String
  name : String
  slug : String
  vpc : Option String
  status : String
  availabilityZone : Option String
  machineType : Option String
  interfaces : List MachineInterface
  deriving DecidableEq, Repr

/-- `corev1.NodeAddressType`. -/
inductive NodeAddressType where
  | Hostname
  | InternalIP
  | ExternalIP
  | InternalDNS
  | ExternalDNS
  deriving DecidableEq, Repr

/-- `corev1.NodeAddress`. -/
structure NodeAddress where
  type : NodeAddressType
  address : String
  deriving DecidableEq, Repr

/-- `cloudprovider.InstanceMetadata`; `AdditionalLabels` is always the empty map. -/
structure Metadata where
  providerID : String
  nodeAddresses : List NodeAddress
  instanceType : String
  region : String
  zone : String
  deriving DecidableEq, Repr

/-! ## 2. Provider ids -/

/-- `ProviderName`. -/
def ProviderName : String := "thalassacloud"

/-- `getProviderID`: `fmt.Sprintf("%s://%s", ProviderName, machineIdentity)`. -/
def getProviderID (machineIdentity : String) : String := ProviderName ++ "://" ++ machineIdentity

/-- The characters of `providerIDRegexp`'s group, `[0-9A-Za-z_-]`. -/
def isInstanceIdChar (c : Char) : Bool := c.isAlphanum || c == '_' || c == '-'

/-- `providerIDRegexp.FindStringSubmatch`, for ``^thalassacloud://([0-9A-Za-z_-]+)$``: the
    whole text and its group when the text is the prefix followed by one or more group
    characters up to its end (Go's `$` is the end of the text), and nothing otherwise. -/
def findStringSubmatch (providerID : String) : List String :=
  let pfx := (ProviderName ++ "://").data
  let group := providerID.data.drop pfx.length
  if pfx.isPrefixOf providerID.data && !group.isEmpty && group.all isInstanceIdChar then
    [providerID, ⟨group⟩]
  else []

/-- `instanceIDFromProviderID`. -/
def instanceIDFromProviderID (providerID : String) : Except String String :=
  match findStringSubmatch providerID with
  | [_, instanceID] => .ok instanceID
  | _ => .error ("mismatched ProviderID \"" ++ providerID ++
      "\" didn't match expected format \"" ++ ProviderName ++ "://<instance-id>\"")

example : instanceIDFromProviderID "thalassacloud://vm-1" = .ok "vm-1" := rfl

/-! ## 3. The three questions -/

/-- `cloudprovider.InstanceNotFound`. -/
def InstanceNotFound : String := "instance not found"

/-- `thalassaclient.IsNotFound`. -/
def IsNotFound (err : String) : Bool := err == notFound

/-- `InstanceExists`. -/
def InstanceExists (getMachine : String → Except String (Option Machine)) (node : Node) :
    Except Failure Bool :=
  match instanceIDFromProviderID node.providerID with
  | .error err => .error (.error err)
  | .ok instanceID =>
    match getMachine instanceID with
    | .error err => .error (.error err)
    | .ok none => .ok false
    | .ok (some _) => .ok true

/-- `InstanceShutdown`. A nil machine with a nil error is dereferenced. -/
def InstanceShutdown (getMachine : String → Except String (Option Machine)) (node : Node) :
    Except Failure Bool :=
  match instanceIDFromProviderID node.providerID with
  | .error err => .error (.error err)
  | .ok instanceID =>
    match getMachine instanceID with
    | .error err => if IsNotFound err then .ok true else .error (.error err)
    | .ok none => .error (.panic "runtime error: invalid memory address or nil pointer dereference")
    | .ok (some vmi) =>
      if vmi.status = "deleted" then .ok true
      else if vmi.status = "unknown" then .error (.error "instance is in unknown state")
      else .ok false

/-- `getInstanceType` (its argument is `instance` in the source, a keyword here). -/
def getInstanceType (machine : Machine) : String := machine.machineType.getD ""

/-- `findVirtualMachine`: the first listed machine of the VPC whose slug is the node's name. -/
def findVirtualMachine (vpcIdentity : String) (listMachines : Except String (List Machine))
    (node : Node) : Except Failure Machine :=
  match listMachines with
  | .error err => .error (.error err)
  | .ok machines =>
    match machines.find? (fun machine => machine.vpc == some vpcIdentity && machine.slug == node.name) with
    | some machine => .ok machine
    | none => .error (.error InstanceNotFound)

/-- `v1helper.AddToNodeAddresses` for one address: append it unless an address of its
    type and text is there. -/
def AddToNodeAddresses (addresses : List NodeAddress) (add : NodeAddress) : List NodeAddress :=
  if addresses.any (fun existing => existing.address == add.address && existing.type == add.type)
  then addresses
  else addresses ++ [add]

/-- The interface `getNodeAddresses` takes its addresses from. -/
def isDefaultInterface (i : MachineInterface) : Bool := i.name == "default" && !i.ipAddresses.isEmpty

/-- `getNodeAddresses`: the internal IPs of the first interface named `default` that has
    any, and otherwise the node's previous internal IPs. -/
def getNodeAddresses (vmi : Machine) (prevAddrs : List NodeAddress) : List NodeAddress :=
  match vmi.interfaces.find? isDefaultInterface with
  | some i => (i.ipAddresses.map fun ip => ⟨.InternalIP, ip⟩).foldl AddToNodeAddresses []
  | none => (prevAddrs.filter (·.type == .InternalIP)).foldl AddToNodeAddresses []

/-- `InstanceMetadata`, with the answers of `ListMachines` and `GetVpc` and the node's
    previous addresses. -/
def InstanceMetadata (vpcIdentity : String) (listMachines : Except String (List Machine))
    (getVpcRegion : Except String String) (node : Node) (prevAddrs : List NodeAddress) :
    Except Failure Metadata :=
  match findVirtualMachine vpcIdentity listMachines node with
  | .error f => .error f
  | .ok vm =>
    match getVpcRegion with
    | .error err => .error (.error err)
    | .ok region =>
      .ok { providerID := getProviderID vm.identity
            nodeAddresses := getNodeAddresses vm prevAddrs
            instanceType := getInstanceType vm
            region := region
            zone := vm.availabilityZone.getD "" }

/-! ## 4. The honest cloud's answers

What `GetMachine` and `ListMachines` answer for a cloud whose machines are `machines`: the
machine of an identity, or `notFound`; and the machines of the filter's VPC. -/

/-- `GetMachine` of the honest cloud. -/
def getMachineOf (machines : List Machine) (identity : String) : Except String (Option Machine) :=
  match machines.find? (·.identity == identity) with
  | some m => .ok (some m)
  | none => .error notFound

/-- `ListMachines` of the honest cloud, filtered by VPC. -/
def listMachinesOf (machines : List Machine) (vpcIdentity : String) : Except String (List Machine) :=
  .ok (machines.filter (·.vpc == some vpcIdentity))

end Instances
end ThalassaCcm
