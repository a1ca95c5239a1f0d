import Resilience.Cluster.Scripted
/-! # Setting up a scripted cluster

What a scripted cluster holds is set up piece by piece, before calls and between them. What is set
for a key once more replaces what was set before.
-/
namespace Resilience

inductive Setup where
  | registerKind (mapping : Mapping)
  /-- A workload with unchanging counters. -/
  | addWorkload (workload : WorkloadRef) (readiness : Readiness) (labels : Dict String String)
  | scriptReadiness (workload : WorkloadRef) (script : Script (Except ClusterError Readiness))
  | addPod (workload : WorkloadRef) (name node : String)
  | addNodePod (pod : Pod)
  | failCordon (node : String)
  | failUncordon (node : String)
  | failNodePods (node : String)
  | failPodDelete (name : String)
  | failCreate (kind : String) (error : ClusterError)
  | failDelete (kind : String) (error : ClusterError)
  | scriptList (kind : String) (script : Script (Except ClusterError (List Json)))
  | scriptGet (kind name : String) (script : Script (Except ClusterError Json))
  | insertObject (kind : String) (namespaceName : Option String) (object : Json)

namespace Setup

open ScriptedCluster (set)

def apply (c : ScriptedCluster) : Setup → ScriptedCluster
  | .registerKind m => c.registerKind m
  | .addWorkload w r labels => c.addWorkload w r labels
  | .scriptReadiness w script => c.scriptReadiness w script
  | .addPod w name node => c.addPod w name node
  | .addNodePod p => c.addNodePod p
  | .failCordon node => { c with cordonFailures := node :: c.cordonFailures }
  | .failUncordon node => { c with uncordonFailures := node :: c.uncordonFailures }
  | .failNodePods node => { c with nodePodFailures := node :: c.nodePodFailures }
  | .failPodDelete name => { c with podDeleteFailures := name :: c.podDeleteFailures }
  | .failCreate kind e => { c with createFailures := set c.createFailures kind e }
  | .failDelete kind e => { c with deleteFailures := set c.deleteFailures kind e }
  | .scriptList kind script => { c with listScripts := set c.listScripts kind script }
  | .scriptGet kind name script => { c with getScripts := set c.getScripts (kind, name) script }
  | .insertObject kind ns object => c.insertObject kind ns object

end Setup

namespace ScriptedCluster

inductive Step where
  | setup (s : Setup)
  | call (call : Call)

def step (c : ScriptedCluster) : Step → ScriptedCluster
  | .setup s => s.apply c
  | .call call => (client.perform call c).2

def run (c : ScriptedCluster) (steps : List Step) : ScriptedCluster := steps.foldl step c

end ScriptedCluster
end Resilience
