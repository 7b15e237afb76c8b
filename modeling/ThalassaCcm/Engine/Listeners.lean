import ThalassaCcm.Engine.Lookup

/-!
# Listener reconciliation (`loadbalancer_listeners.go`)

`updateVpcLoadbalancerListener` lists the load balancer's listeners and indexes both
sides **by port number alone**. Unless the desired list equals the listed one, every
listed listener is deleted when no desired listener has its port, and otherwise
rewritten in place from the *last* desired listener with its port; then every desired
listener whose port no listed listener had (in the listing taken at the start) is
created. Both steps resolve the target group by label: the first returned group whose
labels the listener's target-group labels match. A listener whose group does not
resolve is skipped with a warning.
-/

set_option autoImplicit false

namespace ThalassaCcm
namespace Engine

open Cloud Prog StrMap

/-- `getTargetGroupIdentityForListener`: the first group matched by the listener's
    port and protocol labels, or `""`. -/
def getTargetGroupIdentityForListener (lb : Loadbalancer) (svc : Service)
    (listener : VpcLoadbalancerListener) (targetGroups : List VpcLoadbalancerTargetGroup) :
    String :=
  let desiredLabels :=
    getLabelsForVpcLoadbalancerTargetGroup lb svc listener.port listener.protocol
  match targetGroups.find? (fun tg => matchLabels desiredLabels tg.labels) with
  | some tg => tg.identity
  | none => ""

/-- The request a desired listener makes, with its resolved target group. -/
def listenerRequest (l : VpcLoadbalancerListener) (targetGroup : String) : ListenerRequest where
  name := l.name
  description := l.description
  labels := l.labels
  port := l.port
  protocol := l.protocol
  targetGroup := targetGroup
  allowedSources := l.allowedSources
  connectionIdleTimeout := l.connectionIdleTimeout
  maxConnections := l.maxConnections

/-- `desiredListenersPortMap[port]`: the last desired listener on the port. -/
def lastOnPort (desired : List VpcLoadbalancerListener) (port : Nat) :
    Option VpcLoadbalancerListener :=
  (desired.filter (·.port = port)).getLast?

/-- The first loop of `updateVpcLoadbalancerListener`, over the listed listeners. -/
def updateOrDeleteListeners (lb : Loadbalancer) (svc : Service) (lbId : String)
    (desired : List VpcLoadbalancerListener) (targetGroups : List VpcLoadbalancerTargetGroup) :
    List VpcLoadbalancerListener → Prog Unit
  | [] => pure ()
  | listener :: rest => do
    match lastOnPort desired listener.port with
    | none =>
      wrap "failed to delete listener: " (api (.deleteListener lbId listener.identity))
    | some listenerToUpdate =>
      let tgId := getTargetGroupIdentityForListener lb svc listenerToUpdate targetGroups
      if tgId ≠ "" then
        let _ ← wrap "failed to update listener: "
          (api (.updateListener lbId listener.identity (listenerRequest listenerToUpdate tgId)))
    updateOrDeleteListeners lb svc lbId desired targetGroups rest

/-- The second loop of `updateVpcLoadbalancerListener`, over the desired listeners. -/
def createMissingListeners (lb : Loadbalancer) (svc : Service) (lbId : String)
    (existingPorts : List Nat) (targetGroups : List VpcLoadbalancerTargetGroup) :
    List VpcLoadbalancerListener → Prog Unit
  | [] => pure ()
  | listener :: rest => do
    if listener.port ∉ existingPorts then
      let tgId := getTargetGroupIdentityForListener lb svc listener targetGroups
      if tgId ≠ "" then
        let _ ← wrap "failed to create listener: "
          (api (.createListener lbId (listenerRequest listener tgId)))
    createMissingListeners lb svc lbId existingPorts targetGroups rest

/-- `updateVpcLoadbalancerListener`. -/
def updateVpcLoadbalancerListener (lb : Loadbalancer) (svc : Service)
    (loadbalancer : VpcLoadbalancer) (desiredListeners : List VpcLoadbalancerListener)
    (targetGroups : List VpcLoadbalancerTargetGroup) : Prog Unit := do
  let existing ← wrap "failed to list listeners: " (api (.listListeners loadbalancer.identity))
  if desiredListeners ≠ existing then
    updateOrDeleteListeners lb svc loadbalancer.identity desiredListeners targetGroups existing
  createMissingListeners lb svc loadbalancer.identity (existing.map (·.port)) targetGroups
    desiredListeners

end Engine
end ThalassaCcm
