import ThalassaCcm.Engine.Lookup
import ThalassaCcm.Desired.TargetGroups

/-!
# Target-group reconciliation

`createOrUpdateTargetGroups` lists the Service's target groups by its selector and keys
both sides by protocol and target port. It first creates every desired group whose key
no listed group has (reading the listing taken before the loop, so two desired groups
with one key are both created), then updates every listed group whose key is desired,
in place and in listing order, from the *last* desired group with that key (a Go map
keeps the last write). Each created or updated group gets the node attachments at once.
The groups it returns, created ones first, are what the listener step resolves against.

`cleanupUnusedTargetGroups` lists the groups again and deletes those that no listener
references and whose key is not among the groups the reconcile returned.
-/

set_option autoImplicit false

namespace ThalassaCcm
namespace Engine

open Cloud Prog

/-! ## 1. Attachments -/

/-- The server identity of a node: the part after `"://"` of a non-empty provider id with
    exactly one separator. -/
def serverIdentity (node : Node) : Option String :=
  if node.providerID = "" then none
  else
    match Go.split node.providerID "://" with
    | [_, machineIdentity] => some machineIdentity
    | _ => none

/-- `upgradeTargetGroupAttachments`: replace the group's attachments by the nodes'
    server identities, in node order, skipping malformed provider ids. -/
def upgradeTargetGroupAttachments (targetGroup : VpcLoadbalancerTargetGroup)
    (nodes : List Node) : Prog Unit :=
  wrap "failed to update target group attachments: "
    (api (.setTargetGroupServerAttachments targetGroup.identity (nodes.filterMap serverIdentity)))

/-! ## 2. Create or update -/

/-- The request a desired group makes. -/
def targetGroupRequest (tg : VpcLoadbalancerTargetGroup) : TargetGroupRequest where
  name := tg.name
  description := tg.description
  protocol := tg.protocol
  targetPort := tg.targetPort
  labels := tg.labels
  healthCheck := tg.healthCheck
  enableProxyProtocol := tg.enableProxyProtocol
  loadbalancingPolicy := tg.loadbalancingPolicy

/-- `desiredTargetGroupsMap[key]`: the last desired group with the key. -/
def lastWithKey (desired : List VpcLoadbalancerTargetGroup) (key : String × Nat) :
    Option VpcLoadbalancerTargetGroup :=
  (desired.filter (targetGroupKey · = key)).getLast?

/-- The creation loop of `createOrUpdateTargetGroups`. -/
def createMissingTargetGroups (nodes : List Node) (existingKeys : List (String × Nat)) :
    List VpcLoadbalancerTargetGroup → Prog (List VpcLoadbalancerTargetGroup)
  | [] => pure []
  | tg :: rest => do
    if targetGroupKey tg ∈ existingKeys then createMissingTargetGroups nodes existingKeys rest
    else
      match ← wrap "failed to create target group: "
          (api (.createTargetGroup (targetGroupRequest tg))) with
      | none => throw "failed to create target group: <nil>"
      | some created =>
        wrap "failed to upgrade target group attachments: "
          (upgradeTargetGroupAttachments created nodes)
        let more ← createMissingTargetGroups nodes existingKeys rest
        pure (created :: more)

/-- The update loop of `createOrUpdateTargetGroups`. -/
def updateExistingTargetGroups (nodes : List Node) (desired : List VpcLoadbalancerTargetGroup) :
    List VpcLoadbalancerTargetGroup → Prog (List VpcLoadbalancerTargetGroup)
  | [] => pure []
  | tg :: rest => do
    match lastWithKey desired (targetGroupKey tg) with
    | none => updateExistingTargetGroups nodes desired rest
    | some want =>
      if tg.identity = "" then updateExistingTargetGroups nodes desired rest
      else
        match ← wrap "failed to update target group: "
            (api (.updateTargetGroup tg.identity (targetGroupRequest want))) with
        | none => throw "failed to update target group: <nil>"
        | some updated =>
          wrap "failed to upgrade target group attachments: "
            (upgradeTargetGroupAttachments updated nodes)
          let more ← updateExistingTargetGroups nodes desired rest
          pure (updated :: more)

/-- `createOrUpdateTargetGroups`. -/
def createOrUpdateTargetGroups (lb : Loadbalancer) (svc : Service)
    (desired : List VpcLoadbalancerTargetGroup) (nodes : List Node) :
    Prog (List VpcLoadbalancerTargetGroup) := do
  let existing ← wrap "failed to list target groups: "
    (api (.listTargetGroups (getLabelsForVpcLoadbalancer lb svc)))
  let created ← createMissingTargetGroups nodes (existing.map targetGroupKey) desired
  let updated ← updateExistingTargetGroups nodes desired existing
  pure (created ++ updated)

/-! ## 3. Cleanup -/

/-- The deletion loop of `cleanupUnusedTargetGroups`: skip a group with listeners, delete
    one whose key is not kept. -/
def deleteUnusedTargetGroups (keep : List (String × Nat)) :
    List VpcLoadbalancerTargetGroup → Prog Unit
  | [] => pure ()
  | tg :: rest => do
    if tg.loadbalancerListeners = [] ∧ targetGroupKey tg ∉ keep then
      wrap "failed to delete target group: " (api (.deleteTargetGroup tg.identity))
    deleteUnusedTargetGroups keep rest

/-- `cleanupUnusedTargetGroups`. -/
def cleanupUnusedTargetGroups (lb : Loadbalancer) (svc : Service)
    (desiredTargetGroups : List VpcLoadbalancerTargetGroup) : Prog Unit := do
  let existing ← wrap "failed to list target groups: "
    (api (.listTargetGroups (getLabelsForVpcLoadbalancer lb svc)))
  deleteUnusedTargetGroups (desiredTargetGroups.map targetGroupKey) existing

end Engine
end ThalassaCcm
