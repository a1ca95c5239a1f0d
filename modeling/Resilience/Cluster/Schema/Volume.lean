import Resilience.Cluster.Schema.Metadata
/-! # Schemas of volumes -/
namespace Resilience.Schema

def localReference : List (String × Presence × Schema) := texts ["name"]

def keyFiles : List (String × Presence × Schema) :=
  records "items" (texts ["key", "path"] ++ ints ["mode"])

def fieldReference : List (String × Presence × Schema) := texts ["apiVersion", "fieldPath"]

def resourceReference : List (String × Presence × Schema) :=
  texts ["containerName", "divisor", "resource"]

def podFactFiles : List (String × Presence × Schema) :=
  records "items" (part "fieldRef" fieldReference ++ ints ["mode"] ++ texts ["path"] ++
    part "resourceFieldRef" resourceReference)

def claimSpec : List (String × Presence × Schema) :=
  textLists ["accessModes"] ++
  part "dataSource" (texts ["apiGroup", "kind", "name"]) ++
  part "dataSourceRef" (texts ["apiGroup", "kind", "name", "namespace"]) ++
  part "resources" (textDicts ["limits", "requests"]) ++
  field "selector" labelSelector ++
  texts ["storageClassName", "volumeAttributesClassName", "volumeMode", "volumeName"]

def storageClaim : List (String × Presence × Schema) :=
  typed "v1" "PersistentVolumeClaim" ++ field "metadata" objectMetadata ++
  part "spec" claimSpec ++
  part "status" (
    textLists ["accessModes"] ++
    textDicts ["allocatedResourceStatuses", "allocatedResources", "capacity"] ++
    records "conditions" (times ["lastProbeTime"] ++ condition) ++
    texts ["currentVolumeAttributesClassName", "phase"] ++
    part "modifyVolumeStatus" (texts ["status", "targetVolumeAttributesClassName"]))

def projectedSource : List (String × Presence × Schema) :=
  part "clusterTrustBundle" (field "labelSelector" labelSelector ++
    texts ["name", "path", "signerName"] ++ flags ["optional"]) ++
  part "configMap" (keyFiles ++ texts ["name"] ++ flags ["optional"]) ++
  part "downwardAPI" podFactFiles ++
  part "secret" (keyFiles ++ texts ["name"] ++ flags ["optional"]) ++
  part "serviceAccountToken" (texts ["audience", "path"] ++ longs ["expirationSeconds"])

def clusterVolume : List (String × Presence × Schema) :=
  part "configMap" (ints ["defaultMode"] ++ keyFiles ++ texts ["name"] ++ flags ["optional"]) ++
  part "downwardAPI" (ints ["defaultMode"] ++ podFactFiles) ++
  part "emptyDir" (texts ["medium", "sizeLimit"]) ++
  part "ephemeral" (part "volumeClaimTemplate" (field "metadata" objectMetadata ++
    part "spec" claimSpec)) ++
  part "hostPath" (texts ["path", "type"]) ++
  part "image" (texts ["pullPolicy", "reference"]) ++
  part "persistentVolumeClaim" (texts ["claimName"] ++ flags ["readOnly"]) ++
  part "projected" (ints ["defaultMode"] ++ records "sources" projectedSource) ++
  part "secret" (ints ["defaultMode"] ++ keyFiles ++ texts ["secretName"] ++ flags ["optional"])

def externalVolume : List (String × Presence × Schema) :=
  part "awsElasticBlockStore" (texts ["fsType", "volumeID"] ++ ints ["partition"] ++
    flags ["readOnly"]) ++
  part "azureDisk" (texts ["cachingMode", "diskName", "diskURI", "fsType", "kind"] ++
    flags ["readOnly"]) ++
  part "azureFile" (texts ["secretName", "shareName"] ++ flags ["readOnly"]) ++
  part "cephfs" (textLists ["monitors"] ++ texts ["path", "secretFile", "user"] ++
    flags ["readOnly"] ++ part "secretRef" localReference) ++
  part "cinder" (texts ["fsType", "volumeID"] ++ flags ["readOnly"] ++
    part "secretRef" localReference) ++
  part "csi" (texts ["driver", "fsType"] ++ flags ["readOnly"] ++
    part "nodePublishSecretRef" localReference ++ textDicts ["volumeAttributes"]) ++
  part "fc" (texts ["fsType"] ++ ints ["lun"] ++ flags ["readOnly"] ++
    textLists ["targetWWNs", "wwids"]) ++
  part "flexVolume" (texts ["driver", "fsType"] ++ textDicts ["options"] ++ flags ["readOnly"] ++
    part "secretRef" localReference) ++
  part "flocker" (texts ["datasetName", "datasetUUID"]) ++
  part "gcePersistentDisk" (texts ["fsType", "pdName"] ++ ints ["partition"] ++
    flags ["readOnly"]) ++
  part "gitRepo" (texts ["directory", "repository", "revision"]) ++
  part "glusterfs" (texts ["endpoints", "path"] ++ flags ["readOnly"]) ++
  part "iscsi" (flags ["chapAuthDiscovery", "chapAuthSession", "readOnly"] ++
    texts ["fsType", "initiatorName", "iqn", "iscsiInterface", "targetPortal"] ++ ints ["lun"] ++
    textLists ["portals"] ++ part "secretRef" localReference) ++
  part "nfs" (texts ["path", "server"] ++ flags ["readOnly"]) ++
  part "photonPersistentDisk" (texts ["fsType", "pdID"]) ++
  part "portworxVolume" (texts ["fsType", "volumeID"] ++ flags ["readOnly"]) ++
  part "quobyte" (texts ["group", "registry", "tenant", "user", "volume"] ++ flags ["readOnly"]) ++
  part "rbd" (texts ["fsType", "image", "keyring", "pool", "user"] ++ textLists ["monitors"] ++
    flags ["readOnly"] ++ part "secretRef" localReference) ++
  part "scaleIO" (texts ["fsType", "gateway", "protectionDomain", "storageMode", "storagePool",
    "system", "volumeName"] ++ flags ["readOnly", "sslEnabled"] ++
    part "secretRef" localReference) ++
  part "storageos" (texts ["fsType", "volumeName", "volumeNamespace"] ++ flags ["readOnly"] ++
    part "secretRef" localReference) ++
  part "vsphereVolume" (texts ["fsType", "storagePolicyID", "storagePolicyName", "volumePath"])

def volume : List (String × Presence × Schema) :=
  texts ["name"] ++ clusterVolume ++ externalVolume

end Resilience.Schema
