import Resilience.Cluster.Schema.Container
/-! # Schemas of pods -/
namespace Resilience.Schema

def nodeChoice : List (String × Presence × Schema) :=
  records "matchExpressions" keyRequirement ++ records "matchFields" keyRequirement

def podChoice : List (String × Presence × Schema) :=
  field "labelSelector" labelSelector ++ field "namespaceSelector" labelSelector ++
  textLists ["matchLabelKeys", "mismatchLabelKeys", "namespaces"] ++ texts ["topologyKey"]

def podAffinity : List (String × Presence × Schema) :=
  records "preferredDuringSchedulingIgnoredDuringExecution"
    (part "podAffinityTerm" podChoice ++ ints ["weight"]) ++
  records "requiredDuringSchedulingIgnoredDuringExecution" podChoice

def affinity : List (String × Presence × Schema) :=
  part "nodeAffinity" (
    records "preferredDuringSchedulingIgnoredDuringExecution"
      (part "preference" nodeChoice ++ ints ["weight"]) ++
    part "requiredDuringSchedulingIgnoredDuringExecution"
      (records "nodeSelectorTerms" nodeChoice)) ++
  part "podAffinity" podAffinity ++ part "podAntiAffinity" podAffinity

def podRestrictions : List (String × Presence × Schema) :=
  sharedRestrictions ++ longs ["fsGroup"] ++
  texts ["fsGroupChangePolicy", "seLinuxChangePolicy", "supplementalGroupsPolicy"] ++
  field "supplementalGroups" (.list (.int 64)) ++ records "sysctls" (texts ["name", "value"])

def podSpec : List (String × Presence × Schema) :=
  longs ["activeDeadlineSeconds", "terminationGracePeriodSeconds"] ++
  part "affinity" affinity ++
  flags ["automountServiceAccountToken", "enableServiceLinks", "hostIPC", "hostNetwork",
    "hostPID", "hostUsers", "setHostnameAsFQDN", "shareProcessNamespace"] ++
  records "containers" container ++ records "initContainers" container ++
  records "ephemeralContainers" (container ++ texts ["targetContainerName"]) ++
  part "dnsConfig" (textLists ["nameservers", "searches"] ++
    records "options" (texts ["name", "value"])) ++
  texts ["dnsPolicy", "hostname", "nodeName", "preemptionPolicy", "priorityClassName",
    "restartPolicy", "runtimeClassName", "schedulerName", "serviceAccount",
    "serviceAccountName", "subdomain"] ++
  records "hostAliases" (textLists ["hostnames"] ++ texts ["ip"]) ++
  records "imagePullSecrets" localReference ++
  textDicts ["nodeSelector", "overhead"] ++ part "os" (texts ["name"]) ++ ints ["priority"] ++
  records "readinessGates" (texts ["conditionType"]) ++
  records "resourceClaims"
    (texts ["name", "resourceClaimName", "resourceClaimTemplateName"]) ++
  part "resources" resources ++ records "schedulingGates" (texts ["name"]) ++
  part "securityContext" podRestrictions ++
  records "tolerations" (texts ["effect", "key", "operator", "value"] ++
    longs ["tolerationSeconds"]) ++
  records "topologySpreadConstraints" (field "labelSelector" labelSelector ++
    textLists ["matchLabelKeys"] ++ ints ["maxSkew", "minDomains"] ++
    texts ["nodeAffinityPolicy", "nodeTaintsPolicy", "topologyKey", "whenUnsatisfiable"]) ++
  records "volumes" volume

def podStatus : List (String × Presence × Schema) :=
  records "conditions" (times ["lastProbeTime"] ++ condition) ++
  records "containerStatuses" containerStatus ++
  records "ephemeralContainerStatuses" containerStatus ++
  records "initContainerStatuses" containerStatus ++
  texts ["hostIP", "message", "nominatedNodeName", "phase", "podIP", "qosClass", "reason",
    "resize"] ++
  records "hostIPs" (texts ["ip"]) ++ records "podIPs" (texts ["ip"]) ++
  records "resourceClaimStatuses" (texts ["name", "resourceClaimName"]) ++ times ["startTime"]

def pod : Schema := .record <|
  typed "v1" "Pod" ++ field "metadata" objectMetadata ++ part "spec" podSpec ++
  part "status" podStatus

def podTemplate : List (String × Presence × Schema) :=
  field "metadata" objectMetadata ++ part "spec" podSpec

end Resilience.Schema
