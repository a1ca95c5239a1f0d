import Resilience.Duration
import Resilience.Settings.Source
import Resilience.Workload
/-! # Settings

The limits and names that the scenarios run with, where each of the overridable ones comes from,
and what a run demands of them.
-/
namespace Resilience

structure DisruptionSettings where
  /-- How long the workload may take to be ready before any node is touched. -/
  readyTimeout : Duration := .ofMinutes 7
  /-- How long each deleted pod may take to recover. -/
  perPodTimeout : Duration := .ofMinutes 1
  pollInterval : Duration := .ofSeconds 1
  /-- Pods that belong to their node are left alone. -/
  skipNodeBound : Bool := true
deriving DecidableEq, Repr, Inhabited

structure FaultInjectionSettings where
  waitTimeout : Duration := .ofMinutes 3
  pollInterval : Duration := .ofSeconds 1
  experiment : String := "pod-delete"
  /-- A directory with templates that take the place of the built-in ones. -/
  templatesDir : Option String := none
deriving DecidableEq, Repr, Inhabited

structure OperatorSettings where
  timeout : Duration := .ofMinutes 5
  pollInterval : Duration := .ofSeconds 1
deriving DecidableEq, Repr, Inhabited

inductive Setting where
  | logLevel
  | readyTimeout
  | perPodTimeout
  | drainInterval
  | waitTimeout
  | chaosInterval
  | templatesDir
  | operatorTimeout
  | operatorInterval
deriving DecidableEq, Repr, Inhabited

namespace Setting

def all : List Setting :=
  [.logLevel, .readyTimeout, .perPodTimeout, .drainInterval, .waitTimeout, .chaosInterval,
    .templatesDir, .operatorTimeout, .operatorInterval]

/-- The table of a setting in a file, if it is in one, and its name there. -/
def place : Setting → Option String × String
  | .logLevel => (none, "log_level")
  | .readyTimeout => (some "disruption", "ready_timeout")
  | .perPodTimeout => (some "disruption", "per_pod_timeout")
  | .drainInterval => (some "disruption", "poll_interval")
  | .waitTimeout => (some "fault_injection", "wait_timeout")
  | .chaosInterval => (some "fault_injection", "poll_interval")
  | .templatesDir => (some "fault_injection", "templates_dir")
  | .operatorTimeout => (some "operator", "timeout")
  | .operatorInterval => (some "operator", "poll_interval")

def key (s : Setting) : String :=
  match s.place with
  | (none, name) => name
  | (some table, name) => s!"{table}.{name}"

def ofKey? (key : String) : Option Setting := all.find? fun s => s.key = key

end Setting

structure Settings where
  logLevel : String := "info"
  disruption : DisruptionSettings := {}
  faultInjection : FaultInjectionSettings := {}
  operator : OperatorSettings := {}
  targets : List WorkloadRef := []
  targetLabels : List PodLabel := []
  /-- Where the settings come from, as far as that was noted. -/
  sources : List (Setting × Source) := []
deriving DecidableEq, Repr, Inhabited

namespace Settings

def source? (s : Settings) (k : Setting) : Option Source := Dict.find? s.sources k

def note (s : Settings) (k : Setting) (source : Source) : Settings :=
  { s with sources := (k, source) :: Dict.erase s.sources k }

/-- Every setting without a noted origin is built in. -/
def noteDefaults (s : Settings) : Settings :=
  Setting.all.foldl (fun s k => if (s.source? k).isSome then s else s.note k .default) s

/-- The workloads named on the command line, if there are any, take the place of the targets. -/
def withTargets (s : Settings) (targets : List WorkloadRef) : Settings :=
  if targets.isEmpty then s else { s with targets := targets }

/-- A complaint about one wait: an interval of zero, or one longer than the deadline. -/
def intervalProblem (name : String) (deadline interval : Duration) : List String :=
  if interval.nanos = 0 then [s!"poll interval for {name} must be non-zero"]
  else if deadline < interval then
    [s!"poll interval {interval.text} exceeds {name} {deadline.text}"]
  else []

def repeatedTargets (seen : List WorkloadRef) : List WorkloadRef → List String
  | [] => []
  | t :: ts =>
    (if t ∈ seen then [s!"duplicate target {t.text}"] else []) ++ repeatedTargets (t :: seen) ts

def problems (s : Settings) : List String :=
  intervalProblem "disruption.ready_timeout" s.disruption.readyTimeout s.disruption.pollInterval ++
  intervalProblem "disruption.per_pod_timeout" s.disruption.perPodTimeout
    s.disruption.pollInterval ++
  intervalProblem "fault_injection.wait_timeout" s.faultInjection.waitTimeout
    s.faultInjection.pollInterval ++
  intervalProblem "operator.timeout" s.operator.timeout s.operator.pollInterval ++
  (if Text.trim s.faultInjection.experiment = "" then
    ["fault_injection.experiment must not be empty"] else []) ++
  repeatedTargets [] s.targets ++
  s.targetLabels.flatMap fun l =>
    if Text.trim l.name = "" then ["target_pod_labels entry with empty name"] else []

def durationJson (d : Duration) : Json := .string d.text

def toJson (s : Settings) : Json :=
  .object [
    ("log_level", .string s.logLevel),
    ("disruption", .object [
      ("ready_timeout", durationJson s.disruption.readyTimeout),
      ("per_pod_timeout", durationJson s.disruption.perPodTimeout),
      ("poll_interval", durationJson s.disruption.pollInterval),
      ("skip_daemonset_pods", .bool s.disruption.skipNodeBound)]),
    ("fault_injection", .object ([
      ("wait_timeout", durationJson s.faultInjection.waitTimeout),
      ("poll_interval", durationJson s.faultInjection.pollInterval),
      ("experiment", .string s.faultInjection.experiment)] ++
      Json.optional "templates_dir" .string s.faultInjection.templatesDir)),
    ("operator", .object [
      ("timeout", durationJson s.operator.timeout),
      ("poll_interval", durationJson s.operator.pollInterval)]),
    ("targets", .array (s.targets.map WorkloadRef.toJson)),
    ("target_pod_labels", .array (s.targetLabels.map PodLabel.toJson))]

def sourcesJson (s : Settings) : Json :=
  .object (s.sources.map fun p => (p.1.key, p.2.toJson))

end Settings
end Resilience
