import Resilience.Cluster.Schema.Pod
import Resilience.Workload
/-! # Schemas of workloads and nodes -/
namespace Resilience.Schema

def deployment : Schema := .record <|
  typed "apps/v1" "Deployment" ++ field "metadata" objectMetadata ++
  part "spec" (
    ints ["minReadySeconds", "progressDeadlineSeconds", "replicas", "revisionHistoryLimit"] ++
    flags ["paused"] ++ field "selector" labelSelector ++
    part "strategy" (texts ["type"] ++
      part "rollingUpdate" (fields .textOrInt ["maxSurge", "maxUnavailable"])) ++
    part "template" podTemplate) ++
  part "status" (
    ints ["availableReplicas", "collisionCount", "readyReplicas", "replicas",
      "unavailableReplicas", "updatedReplicas"] ++
    records "conditions" (times ["lastUpdateTime"] ++ condition) ++
    longs ["observedGeneration"])

def statefulSet : Schema := .record <|
  typed "apps/v1" "StatefulSet" ++ field "metadata" objectMetadata ++
  part "spec" (
    ints ["minReadySeconds", "replicas", "revisionHistoryLimit"] ++
    part "ordinals" (ints ["start"]) ++
    part "persistentVolumeClaimRetentionPolicy" (texts ["whenDeleted", "whenScaled"]) ++
    texts ["podManagementPolicy", "serviceName"] ++ field "selector" labelSelector ++
    part "template" podTemplate ++
    part "updateStrategy" (texts ["type"] ++
      part "rollingUpdate" (field "maxUnavailable" .textOrInt ++ ints ["partition"])) ++
    records "volumeClaimTemplates" storageClaim) ++
  part "status" (
    ints ["availableReplicas", "collisionCount", "currentReplicas", "readyReplicas", "replicas",
      "updatedReplicas"] ++
    records "conditions" condition ++ texts ["currentRevision", "updateRevision"] ++
    longs ["observedGeneration"])

def workload : WorkloadKind → Schema
  | .deployment => deployment
  | .statefulSet => statefulSet

def nodeConfigSource : List (String × Presence × Schema) :=
  part "configMap" (texts ["kubeletConfigKey", "name", "namespace", "resourceVersion", "uid"])

def node : Schema := .record <|
  typed "v1" "Node" ++ field "metadata" objectMetadata ++
  part "spec" (
    part "configSource" nodeConfigSource ++ texts ["externalID", "podCIDR", "providerID"] ++
    textLists ["podCIDRs"] ++
    records "taints" (texts ["effect", "key", "value"] ++ times ["timeAdded"]) ++
    flags ["unschedulable"]) ++
  part "status" (
    records "addresses" (texts ["address", "type"]) ++ textDicts ["allocatable", "capacity"] ++
    records "conditions" (times ["lastHeartbeatTime"] ++ condition) ++
    part "config" (part "active" nodeConfigSource ++ part "assigned" nodeConfigSource ++
      texts ["error"] ++ part "lastKnownGood" nodeConfigSource) ++
    part "daemonEndpoints" (part "kubeletEndpoint" (ints ["Port"])) ++
    part "features" (flags ["supplementalGroupsPolicy"]) ++
    records "images" (textLists ["names"] ++ longs ["sizeBytes"]) ++
    part "nodeInfo" (texts ["architecture", "bootID", "containerRuntimeVersion",
      "kernelVersion", "kubeProxyVersion", "kubeletVersion", "machineID", "operatingSystem",
      "osImage", "systemUUID"]) ++
    texts ["phase"] ++
    records "runtimeHandlers" (texts ["name"] ++
      part "features" (flags ["recursiveReadOnlyMounts", "userNamespaces"])) ++
    records "volumesAttached" (texts ["devicePath", "name"]) ++ textLists ["volumesInUse"])

end Resilience.Schema
