/-! # The error catalog

Every failure that reaches an operator has a stable code, a message and steps that remedy it.
Codes are numbered in ranges of a hundred by category.
-/
namespace Resilience

inductive ErrorCode where
  | configNotFound
  | configReadError
  | configParseError
  | configValidationError
  | configEnvError
  | configNoTargets
  | clusterUnreachable
  | clusterApiError
  | clusterResourceNotFound
  | clusterDiscoveryFailed
  | clusterDecodeError
  | workloadNotReady
  | nodeCordonFailed
  | nodeUncordonFailed
  | podDeleteFailed
  | recoveryTimeout
  | templateRenderFailed
  | resourceCreateFailed
  | chaosEngineTimeout
  | chaosMultipleInstances
  | chaosNoResult
  | chaosStatusParse
  | chaosVerdictFail
  | chaosCleanupFailed
  | operatorPhaseFailed
  | operatorPhaseTimeout
  | operatorFetchFailed
  | operatorPhaseParse
  | snapshotReadError
  | snapshotParseError
  | snapshotWriteError
  | junitParseError
  | internalError
  | internalLoggingError
deriving DecidableEq, Repr, Inhabited

inductive ErrorCategory where
  | config
  | cluster
  | disruption
  | faultInjection
  | operator
  | snapshot
  | internal
deriving DecidableEq, Repr, Inhabited

namespace ErrorCategory

def title : ErrorCategory → String
  | .config => "Configuration"
  | .cluster => "Cluster"
  | .disruption => "Disruption"
  | .faultInjection => "Fault Injection"
  | .operator => "Operator"
  | .snapshot => "Snapshot"
  | .internal => "Internal"

def name : ErrorCategory → String
  | .config => "config"
  | .cluster => "cluster"
  | .disruption => "disruption"
  | .faultInjection => "fault_injection"
  | .operator => "operator"
  | .snapshot => "snapshot"
  | .internal => "internal"

end ErrorCategory

namespace ErrorCode

def all : List ErrorCode :=
  [.configNotFound,
   .configReadError,
   .configParseError,
   .configValidationError,
   .configEnvError,
   .configNoTargets,
   .clusterUnreachable,
   .clusterApiError,
   .clusterResourceNotFound,
   .clusterDiscoveryFailed,
   .clusterDecodeError,
   .workloadNotReady,
   .nodeCordonFailed,
   .nodeUncordonFailed,
   .podDeleteFailed,
   .recoveryTimeout,
   .templateRenderFailed,
   .resourceCreateFailed,
   .chaosEngineTimeout,
   .chaosMultipleInstances,
   .chaosNoResult,
   .chaosStatusParse,
   .chaosVerdictFail,
   .chaosCleanupFailed,
   .operatorPhaseFailed,
   .operatorPhaseTimeout,
   .operatorFetchFailed,
   .operatorPhaseParse,
   .snapshotReadError,
   .snapshotParseError,
   .snapshotWriteError,
   .junitParseError,
   .internalError,
   .internalLoggingError]

def number : ErrorCode → Nat
  | .configNotFound => 1
  | .configReadError => 2
  | .configParseError => 3
  | .configValidationError => 4
  | .configEnvError => 5
  | .configNoTargets => 6
  | .clusterUnreachable => 100
  | .clusterApiError => 101
  | .clusterResourceNotFound => 102
  | .clusterDiscoveryFailed => 103
  | .clusterDecodeError => 104
  | .workloadNotReady => 200
  | .nodeCordonFailed => 201
  | .nodeUncordonFailed => 202
  | .podDeleteFailed => 203
  | .recoveryTimeout => 204
  | .templateRenderFailed => 300
  | .resourceCreateFailed => 301
  | .chaosEngineTimeout => 302
  | .chaosMultipleInstances => 303
  | .chaosNoResult => 304
  | .chaosStatusParse => 305
  | .chaosVerdictFail => 306
  | .chaosCleanupFailed => 307
  | .operatorPhaseFailed => 400
  | .operatorPhaseTimeout => 401
  | .operatorFetchFailed => 402
  | .operatorPhaseParse => 403
  | .snapshotReadError => 500
  | .snapshotParseError => 501
  | .snapshotWriteError => 502
  | .junitParseError => 503
  | .internalError => 900
  | .internalLoggingError => 901

def name : ErrorCode → String
  | .configNotFound => "CONFIG_NOT_FOUND"
  | .configReadError => "CONFIG_READ_ERROR"
  | .configParseError => "CONFIG_PARSE_ERROR"
  | .configValidationError => "CONFIG_VALIDATION_ERROR"
  | .configEnvError => "CONFIG_ENV_ERROR"
  | .configNoTargets => "CONFIG_NO_TARGETS"
  | .clusterUnreachable => "CLUSTER_UNREACHABLE"
  | .clusterApiError => "CLUSTER_API_ERROR"
  | .clusterResourceNotFound => "CLUSTER_RESOURCE_NOT_FOUND"
  | .clusterDiscoveryFailed => "CLUSTER_DISCOVERY_FAILED"
  | .clusterDecodeError => "CLUSTER_DECODE_ERROR"
  | .workloadNotReady => "WORKLOAD_NOT_READY"
  | .nodeCordonFailed => "NODE_CORDON_FAILED"
  | .nodeUncordonFailed => "NODE_UNCORDON_FAILED"
  | .podDeleteFailed => "POD_DELETE_FAILED"
  | .recoveryTimeout => "RECOVERY_TIMEOUT"
  | .templateRenderFailed => "TEMPLATE_RENDER_FAILED"
  | .resourceCreateFailed => "RESOURCE_CREATE_FAILED"
  | .chaosEngineTimeout => "CHAOS_ENGINE_TIMEOUT"
  | .chaosMultipleInstances => "CHAOS_MULTIPLE_INSTANCES"
  | .chaosNoResult => "CHAOS_NO_RESULT"
  | .chaosStatusParse => "CHAOS_STATUS_PARSE"
  | .chaosVerdictFail => "CHAOS_VERDICT_FAIL"
  | .chaosCleanupFailed => "CHAOS_CLEANUP_FAILED"
  | .operatorPhaseFailed => "OPERATOR_PHASE_FAILED"
  | .operatorPhaseTimeout => "OPERATOR_PHASE_TIMEOUT"
  | .operatorFetchFailed => "OPERATOR_FETCH_FAILED"
  | .operatorPhaseParse => "OPERATOR_PHASE_PARSE"
  | .snapshotReadError => "SNAPSHOT_READ_ERROR"
  | .snapshotParseError => "SNAPSHOT_PARSE_ERROR"
  | .snapshotWriteError => "SNAPSHOT_WRITE_ERROR"
  | .junitParseError => "JUNIT_PARSE_ERROR"
  | .internalError => "INTERNAL_ERROR"
  | .internalLoggingError => "INTERNAL_LOGGING_ERROR"

def ofName? (s : String) : Option ErrorCode := all.find? fun c => c.name = s

def message : ErrorCode → String
  | .configNotFound => "Configuration file not found"
  | .configReadError => "Failed to read configuration file"
  | .configParseError => "Configuration file contains invalid TOML syntax"
  | .configValidationError => "Configuration contains invalid values"
  | .configEnvError => "Environment variable has an invalid value"
  | .configNoTargets => "No workloads configured for disruption"
  | .clusterUnreachable => "Could not connect to the Kubernetes API server"
  | .clusterApiError => "Kubernetes API server rejected the request"
  | .clusterResourceNotFound => "Requested cluster object does not exist"
  | .clusterDiscoveryFailed => "Resource kind could not be resolved via discovery"
  | .clusterDecodeError => "Cluster object could not be decoded"
  | .workloadNotReady => "Workload is not in a good starting state"
  | .nodeCordonFailed => "Failed to cordon node"
  | .nodeUncordonFailed => "Failed to uncordon node; node left unschedulable"
  | .podDeleteFailed => "Failed to delete pod during drain"
  | .recoveryTimeout => "Workload did not recover after node drain"
  | .templateRenderFailed => "Fault-injection template could not be rendered"
  | .resourceCreateFailed => "Fault-injection resource could not be created"
  | .chaosEngineTimeout => "Chaos engine did not complete in time"
  | .chaosMultipleInstances => "More than one chaos engine or result instance found"
  | .chaosNoResult => "No chaos result instance found"
  | .chaosStatusParse => "Chaos engine or result status is malformed"
  | .chaosVerdictFail => "Chaos experiment verdict was not Pass"
  | .chaosCleanupFailed => "Some fault-injection resources could not be deleted"
  | .operatorPhaseFailed => "Operator installation reached a failed phase"
  | .operatorPhaseTimeout => "Operator installation did not finish in time"
  | .operatorFetchFailed => "Operator lifecycle object could not be read"
  | .operatorPhaseParse => "Operator lifecycle object has a malformed status.phase"
  | .snapshotReadError => "Failed to read snapshot file"
  | .snapshotParseError => "Snapshot file is not a valid claim document"
  | .snapshotWriteError => "Failed to write claim file"
  | .junitParseError => "JUnit XML report could not be converted"
  | .internalError => "Unexpected internal error"
  | .internalLoggingError => "Failed to initialise logging"

def remediation : ErrorCode → List String
  | .configNotFound =>
    ["Pass --config with the path to a kcert.toml file",
     "Run without --config to use built-in defaults"]
  | .configReadError => ["Check file permissions on the configuration file"]
  | .configParseError =>
    ["Check the TOML syntax near the reported line",
     "Durations must be quoted strings such as \"90s\" or \"7m\""]
  | .configValidationError =>
    ["Poll intervals must be non-zero and shorter than their deadline",
     "Each [[targets]] entry must be unique"]
  | .configEnvError =>
    ["Check KCERT_* environment variables for typos",
     "Durations use humantime syntax, e.g. KCERT_READY_TIMEOUT=7m"]
  | .configNoTargets =>
    ["Add [[targets]] entries to the configuration file",
     "Or pass --target namespace/kind/name on the command line"]
  | .clusterUnreachable =>
    ["Check KUBECONFIG or in-cluster service account credentials",
     "Verify the API server is reachable: kubectl cluster-info"]
  | .clusterApiError =>
    ["Check that the service account has RBAC for the requested verb",
     "Inspect the API server message included in the error"]
  | .clusterResourceNotFound => ["Verify namespace and object name"]
  | .clusterDiscoveryFailed =>
    ["Check that the CRD for the kind is installed: kubectl api-resources"]
  | .clusterDecodeError => ["Check that the API server version is supported"]
  | .workloadNotReady =>
    ["Wait for the workload to become ready before certifying it",
     "kubectl rollout status on the workload shows what is pending"]
  | .nodeCordonFailed => ["Check RBAC for patching nodes"]
  | .nodeUncordonFailed =>
    ["Uncordon the node manually: kubectl uncordon <node>",
     "Check RBAC for patching nodes"]
  | .podDeleteFailed => ["Check RBAC for deleting pods in the workload namespace"]
  | .recoveryTimeout =>
    ["Check that other nodes have capacity for the rescheduled pods",
     "Increase disruption.per_pod_timeout for slow-starting workloads"]
  | .templateRenderFailed => ["Check custom templates in fault_injection.templates_dir"]
  | .resourceCreateFailed =>
    ["Check that the litmus CRDs are installed",
     "Remove leftovers from a previous run: kubectl delete chaosengine engine-test"]
  | .chaosEngineTimeout =>
    ["Increase fault_injection.wait_timeout",
     "Inspect the chaos runner pod logs"]
  | .chaosMultipleInstances => ["Delete stale ChaosEngine and ChaosResult objects in the namespace"]
  | .chaosNoResult => ["Inspect the chaos runner pod logs"]
  | .chaosStatusParse => ["Check that the installed litmus version is supported"]
  | .chaosVerdictFail => ["See the reported fail step for the cause"]
  | .chaosCleanupFailed => ["Delete the listed resources manually before the next run"]
  | .operatorPhaseFailed => ["Inspect the ClusterServiceVersion status conditions"]
  | .operatorPhaseTimeout =>
    ["Increase operator.timeout",
     "Inspect the ClusterServiceVersion status conditions"]
  | .operatorFetchFailed => ["Verify the ClusterServiceVersion name and namespace"]
  | .operatorPhaseParse => ["Check that the installed OLM version is supported"]
  | .snapshotReadError => ["Check the snapshot path"]
  | .snapshotParseError =>
    ["Snapshots must be claim JSON documents with a top-level \"claim\" object"]
  | .snapshotWriteError => ["Check write permissions on the claim file"]
  | .junitParseError =>
    ["Check that every *.xml file in the report directory is well-formed",
     "Move non-JUnit XML files out of the report directory"]
  | .internalError => ["Re-run with --verbose and report the log"]
  | .internalLoggingError => ["Check the RUST_LOG filter syntax"]

/-- The code as text: at least three digits behind the mark. -/
def text (c : ErrorCode) : String :=
  let digits := toString c.number
  "KCERT-E" ++ "".pushn '0' (3 - digits.length) ++ digits

def category (c : ErrorCode) : ErrorCategory :=
  if c.number < 100 then .config
  else if c.number < 200 then .cluster
  else if c.number < 300 then .disruption
  else if c.number < 400 then .faultInjection
  else if c.number < 500 then .operator
  else if c.number < 600 then .snapshot
  else .internal

def summary (c : ErrorCode) : String := s!"{c.text}: {c.message}"

def headline (c : ErrorCode) : String := s!"[{c.text}] {c.message}"

def numbered : Nat → List String → String
  | _, [] => ""
  | n, step :: steps => s!"  {n}. {step}\n" ++ numbered (n + 1) steps

def explanation (c : ErrorCode) : String :=
  c.headline ++ "\n" ++
    (if c.remediation.isEmpty then "" else "\nRemediation steps:\n" ++ numbered 1 c.remediation)

end ErrorCode
end Resilience
