import ThalassaCcm.Cloud.Fresh
import ThalassaCcm.Cloud.Objects
import ThalassaCcm.Cloud.Prog
import ThalassaCcm.Cloud.Rely
import ThalassaCcm.Cloud.State
import ThalassaCcm.Cloud.Wp
import ThalassaCcm.Core.Identity
import ThalassaCcm.Core.Service
import ThalassaCcm.Core.StrMap
import ThalassaCcm.Desired.Listeners
import ThalassaCcm.Desired.SecurityGroup
import ThalassaCcm.Desired.TargetGroups
import ThalassaCcm.Engine.Instances
import ThalassaCcm.Engine.Listeners
import ThalassaCcm.Engine.Lookup
import ThalassaCcm.Engine.Reconcile
import ThalassaCcm.Engine.Resync
import ThalassaCcm.Engine.Runs
import ThalassaCcm.Engine.TargetGroups
import ThalassaCcm.Go.Net
import ThalassaCcm.Go.Text
import ThalassaCcm.Kube.Endpoints
import ThalassaCcm.Kube.Watcher
import ThalassaCcm.Proof.Calls
import ThalassaCcm.Proof.Convergence
import ThalassaCcm.Proof.Creation
import ThalassaCcm.Proof.Deletion
import ThalassaCcm.Proof.Ingress
import ThalassaCcm.Proof.Instances
import ThalassaCcm.Proof.LabelChange
import ThalassaCcm.Proof.ListenerPorts
import ThalassaCcm.Proof.ListenerReconcile
import ThalassaCcm.Proof.Listeners
import ThalassaCcm.Proof.Lookup
import ThalassaCcm.Proof.Narrowing
import ThalassaCcm.Proof.Ownership
import ThalassaCcm.Proof.References
import ThalassaCcm.Proof.Resync
import ThalassaCcm.Proof.SecurityGroups
import ThalassaCcm.Proof.Selector
import ThalassaCcm.Proof.TargetGroupKeys
import ThalassaCcm.Proof.TargetGroups
import ThalassaCcm.Proof.Threads
import ThalassaCcm.Proof.Uniqueness
import ThalassaCcm.Proof.Watcher
