import Resilience.Cluster.Schema
/-! # Schemas of metadata -/
namespace Resilience.Schema

def ownerReference : List (String × Presence × Schema) :=
  filledTexts ["apiVersion", "kind", "name", "uid"] ++ flags ["blockOwnerDeletion", "controller"]

def managedFields : List (String × Presence × Schema) :=
  texts ["apiVersion", "fieldsType", "manager", "operation", "subresource"] ++
    field "fieldsV1" .any ++ times ["time"]

def objectMetadata : Schema := .record <|
  textDicts ["annotations", "labels"] ++
  times ["creationTimestamp", "deletionTimestamp"] ++
  longs ["deletionGracePeriodSeconds", "generation"] ++
  textLists ["finalizers"] ++
  texts ["generateName", "name", "namespace", "resourceVersion", "selfLink", "uid"] ++
  records "managedFields" managedFields ++
  records "ownerReferences" ownerReference

def listMetadata : Schema := .record <|
  texts ["continue", "resourceVersion", "selfLink"] ++ longs ["remainingItemCount"]

def keyRequirement : List (String × Presence × Schema) :=
  texts ["key", "operator"] ++ textLists ["values"]

def labelSelector : Schema := .record <|
  records "matchExpressions" keyRequirement ++ textDicts ["matchLabels"]

def condition : List (String × Presence × Schema) :=
  times ["lastTransitionTime"] ++ texts ["message", "reason", "status", "type"]

def resourceList : Schema := .record <|
  typed "v1" "APIResourceList" ++ filledTexts ["groupVersion"] ++
  [("resources", .filled (.array []), .list <| .record <|
    textLists ["categories", "shortNames", "verbs"] ++
    texts ["group", "singularName", "storageVersionHash", "version"] ++
    filledTexts ["kind", "name"] ++ [("namespaced", .filled (.bool false), .bool)])]

end Resilience.Schema
