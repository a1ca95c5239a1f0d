import Resilience.Cluster.Schema.Volume
/-! # Schemas of containers -/
namespace Resilience.Schema

def keyReference : List (String × Presence × Schema) :=
  texts ["key", "name"] ++ flags ["optional"]

def containerVariable : List (String × Presence × Schema) :=
  texts ["name", "value"] ++
  part "valueFrom" (part "configMapKeyRef" keyReference ++ part "fieldRef" fieldReference ++
    part "resourceFieldRef" resourceReference ++ part "secretKeyRef" keyReference)

def variableSet : List (String × Presence × Schema) :=
  part "configMapRef" (texts ["name"] ++ flags ["optional"]) ++ texts ["prefix"] ++
  part "secretRef" (texts ["name"] ++ flags ["optional"])

def action : List (String × Presence × Schema) :=
  part "exec" (textLists ["command"]) ++
  part "httpGet" (texts ["host", "path", "scheme"] ++
    records "httpHeaders" (texts ["name", "value"]) ++ field "port" .textOrInt) ++
  part "tcpSocket" (texts ["host"] ++ field "port" .textOrInt)

def lifecycleStep : List (String × Presence × Schema) :=
  action ++ part "sleep" (longs ["seconds"])

def probe : List (String × Presence × Schema) :=
  action ++ part "grpc" (ints ["port"] ++ texts ["service"]) ++
  ints ["failureThreshold", "initialDelaySeconds", "periodSeconds", "successThreshold",
    "timeoutSeconds"] ++ longs ["terminationGracePeriodSeconds"]

def resources : List (String × Presence × Schema) :=
  records "claims" (texts ["name", "request"]) ++ textDicts ["limits", "requests"]

def confinement : List (String × Presence × Schema) := texts ["localhostProfile", "type"]

def sharedRestrictions : List (String × Presence × Schema) :=
  part "appArmorProfile" confinement ++
  longs ["runAsGroup", "runAsUser"] ++ flags ["runAsNonRoot"] ++
  part "seLinuxOptions" (texts ["level", "role", "type", "user"]) ++
  part "seccompProfile" confinement ++
  part "windowsOptions" (texts ["gmsaCredentialSpec", "gmsaCredentialSpecName",
    "runAsUserName"] ++ flags ["hostProcess"])

def containerRestrictions : List (String × Presence × Schema) :=
  sharedRestrictions ++
  flags ["allowPrivilegeEscalation", "privileged", "readOnlyRootFilesystem"] ++
  part "capabilities" (textLists ["add", "drop"]) ++ texts ["procMount"]

def container : List (String × Presence × Schema) :=
  textLists ["args", "command"] ++
  records "env" containerVariable ++ records "envFrom" variableSet ++
  texts ["image", "imagePullPolicy", "name", "restartPolicy", "terminationMessagePath",
    "terminationMessagePolicy", "workingDir"] ++
  part "lifecycle" (part "postStart" lifecycleStep ++ part "preStop" lifecycleStep) ++
  part "livenessProbe" probe ++ part "readinessProbe" probe ++ part "startupProbe" probe ++
  records "ports" (ints ["containerPort", "hostPort"] ++ texts ["hostIP", "name", "protocol"]) ++
  records "resizePolicy" (texts ["resourceName", "restartPolicy"]) ++
  part "resources" resources ++
  part "securityContext" containerRestrictions ++
  flags ["stdin", "stdinOnce", "tty"] ++
  records "volumeDevices" (texts ["devicePath", "name"]) ++
  records "volumeMounts" (texts ["mountPath", "mountPropagation", "name", "recursiveReadOnly",
    "subPath", "subPathExpr"] ++ flags ["readOnly"])

def containerState : List (String × Presence × Schema) :=
  part "running" (times ["startedAt"]) ++
  part "terminated" (texts ["containerID", "message", "reason"] ++ ints ["exitCode", "signal"] ++
    times ["finishedAt", "startedAt"]) ++
  part "waiting" (texts ["message", "reason"])

def containerStatus : List (String × Presence × Schema) :=
  textDicts ["allocatedResources"] ++
  records "allocatedResourcesStatus" (texts ["name"] ++
    records "resources" (texts ["health", "resourceID"])) ++
  texts ["containerID", "image", "imageID", "name"] ++
  part "lastState" containerState ++ part "state" containerState ++
  flags ["ready", "started"] ++ part "resources" resources ++ ints ["restartCount"] ++
  part "user" (part "linux" (longs ["gid", "uid"] ++
    field "supplementalGroups" (.list (.int 64)))) ++
  records "volumeMounts" (texts ["mountPath", "name", "recursiveReadOnly"] ++ flags ["readOnly"])

end Resilience.Schema
