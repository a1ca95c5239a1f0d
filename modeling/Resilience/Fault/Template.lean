import Resilience.Fault.Document
import Resilience.Files
import Resilience.Text.Split
/-! # Templates of a fault injection

The objects of a fault injection are written as YAML with tokens for what depends on the target.
A file of the same name in the directory of templates stands in for a template.
-/
namespace Resilience

structure TemplateValues where
  namespaceName : String
  /-- The selector of the target's pods. -/
  appLabel : String
  appKind : String
deriving DecidableEq, Repr

namespace Template

def namespaceToken : String := "\x7b\x7bAPP_NAMESPACE\x7d\x7d"

def labelToken : String := "\x7b\x7bAPP_LABEL\x7d\x7d"

def kindToken : String := "\x7b\x7bAPP_KIND\x7d\x7d"

end Template

/-- A text with the tokens replaced, one kind of token after another. -/
def TemplateValues.substitute (v : TemplateValues) (text : String) : String :=
  Text.replace Template.kindToken v.appKind
    (Text.replace Template.labelToken v.appLabel
      (Text.replace Template.namespaceToken v.namespaceName text))

namespace Template

def serviceAccountLines : List String := [
  "apiVersion: v1",
  "kind: ServiceAccount",
  "metadata:",
  "  name: test-sa",
  "  namespace: " ++ namespaceToken,
  "  labels:",
  "    name: test-sa",
  "    app.kubernetes.io/part-of: litmus",
  "---",
  "apiVersion: rbac.authorization.k8s.io/v1",
  "kind: Role",
  "metadata:",
  "  name: test-sa",
  "  namespace: " ++ namespaceToken,
  "  labels:",
  "    name: test-sa",
  "    app.kubernetes.io/part-of: litmus",
  "rules:",
  "  - apiGroups: [\"\"]",
  "    resources: [\"pods\", \"events\", \"configmaps\", \"secrets\", \"services\"]",
  "    verbs: [\"create\", \"delete\", \"get\", \"list\", \"patch\", \"update\", \"deletecollection\"]",
  "  - apiGroups: [\"\"]",
  "    resources: [\"pods/log\", \"pods/exec\"]",
  "    verbs: [\"get\", \"list\", \"create\"]",
  "  - apiGroups: [\"apps\"]",
  "    resources: [\"deployments\", \"statefulsets\", \"replicasets\", \"daemonsets\"]",
  "    verbs: [\"list\", \"get\"]",
  "  - apiGroups: [\"batch\"]",
  "    resources: [\"jobs\"]",
  "    verbs: [\"create\", \"list\", \"get\", \"delete\", \"deletecollection\"]",
  "  - apiGroups: [\"litmuschaos.io\"]",
  "    resources: [\"chaosengines\", \"chaosexperiments\", \"chaosresults\"]",
  "    verbs: [\"create\", \"list\", \"get\", \"patch\", \"update\", \"delete\"]",
  "---",
  "apiVersion: rbac.authorization.k8s.io/v1",
  "kind: RoleBinding",
  "metadata:",
  "  name: test-sa",
  "  namespace: " ++ namespaceToken,
  "  labels:",
  "    name: test-sa",
  "    app.kubernetes.io/part-of: litmus",
  "roleRef:",
  "  apiGroup: rbac.authorization.k8s.io",
  "  kind: Role",
  "  name: test-sa",
  "subjects:",
  "  - kind: ServiceAccount",
  "    name: test-sa",
  "    namespace: " ++ namespaceToken]

def experimentLines : List String := [
  "apiVersion: litmuschaos.io/v1alpha1",
  "kind: ChaosExperiment",
  "metadata:",
  "  name: pod-delete",
  "  namespace: " ++ namespaceToken,
  "  labels:",
  "    name: pod-delete",
  "    app.kubernetes.io/part-of: litmus",
  "    app.kubernetes.io/component: chaosexperiment",
  "description:",
  "  message: \"Deletes pods of the target application and checks they are recreated\"",
  "spec:",
  "  definition:",
  "    scope: Namespaced",
  "    permissions:",
  "      - apiGroups: [\"\"]",
  "        resources: [\"pods\"]",
  "        verbs: [\"create\", \"delete\", \"get\", \"list\", \"patch\", \"update\", \"deletecollection\"]",
  "      - apiGroups: [\"\"]",
  "        resources: [\"events\"]",
  "        verbs: [\"create\", \"get\", \"list\", \"patch\", \"update\"]",
  "      - apiGroups: [\"apps\"]",
  "        resources: [\"deployments\", \"statefulsets\", \"replicasets\"]",
  "        verbs: [\"list\", \"get\"]",
  "      - apiGroups: [\"batch\"]",
  "        resources: [\"jobs\"]",
  "        verbs: [\"create\", \"list\", \"get\", \"delete\", \"deletecollection\"]",
  "      - apiGroups: [\"litmuschaos.io\"]",
  "        resources: [\"chaosengines\", \"chaosexperiments\", \"chaosresults\"]",
  "        verbs: [\"create\", \"list\", \"get\", \"patch\", \"update\", \"delete\"]",
  "    image: \"litmuschaos/go-runner:2.14.0\"",
  "    imagePullPolicy: Always",
  "    args:",
  "      - -c",
  "      - ./experiments -name pod-delete",
  "    command:",
  "      - /bin/bash",
  "    env:",
  "      - name: TOTAL_CHAOS_DURATION",
  "        value: \"15\"",
  "      - name: RAMP_TIME",
  "        value: \"\"",
  "      - name: FORCE",
  "        value: \"true\"",
  "      - name: CHAOS_INTERVAL",
  "        value: \"5\"",
  "      - name: PODS_AFFECTED_PERC",
  "        value: \"\"",
  "      - name: LIB",
  "        value: \"litmus\"",
  "      - name: TARGET_PODS",
  "        value: \"\"",
  "      - name: SEQUENCE",
  "        value: \"parallel\"",
  "    labels:",
  "      name: pod-delete",
  "      app.kubernetes.io/part-of: litmus",
  "      app.kubernetes.io/component: experiment-job"]

def engineLines : List String := [
  "apiVersion: litmuschaos.io/v1alpha1",
  "kind: ChaosEngine",
  "metadata:",
  "  name: engine-test",
  "  namespace: " ++ namespaceToken,
  "spec:",
  "  appinfo:",
  "    appns: \"" ++ namespaceToken ++ "\"",
  "    applabel: \"" ++ labelToken ++ "\"",
  "    appkind: \"" ++ kindToken ++ "\"",
  "  engineState: \"active\"",
  "  chaosServiceAccount: test-sa",
  "  jobCleanUpPolicy: \"delete\"",
  "  experiments:",
  "    - name: pod-delete",
  "      spec:",
  "        components:",
  "          env:",
  "            - name: TOTAL_CHAOS_DURATION",
  "              value: \"30\"",
  "            - name: CHAOS_INTERVAL",
  "              value: \"10\"",
  "            - name: FORCE",
  "              value: \"false\""]

def ofLines (lines : List String) : String := String.join (lines.map (· ++ "\n"))

def serviceAccount : String := "service-account.yaml"

def experiment : String := "experiment-delete.yaml"

def engine : String := "chaos-engine.yaml"

def builtIn : List (String × List String) :=
  [(serviceAccount, serviceAccountLines), (experiment, experimentLines), (engine, engineLines)]

/-- The templates in the order in which their objects are created: the experiment, its account,
and the engine that refers to both. -/
def creationOrder : List String := [experiment, serviceAccount, engine]

end Template

structure TemplateSource where
  files : Files
  /-- The directory whose files come first. -/
  directory : Option String := none

inductive TemplateError where
  | unknown (name : String)
  | read (path : String) (error : FileError)
  | object (error : ObjectError)
deriving DecidableEq, Repr

namespace TemplateError

def message : TemplateError → String
  | .unknown name => s!"unknown template {name}"
  | .read path error => s!"failed to read template {path}: {error.message}"
  | .object error => error.message

end TemplateError

namespace TemplateSource

def file? (t : TemplateSource) (name : String) : Option String :=
  (t.directory.map (Path.join · name)).filter t.files.isFile

def text (t : TemplateSource) (name : String) : Except TemplateError String :=
  match t.file? name with
  | some path => (t.files.readText path).mapError (.read path)
  | none =>
    match Dict.find? Template.builtIn name with
    | some lines => .ok (Template.ofLines lines)
    | none => .error (.unknown name)

def render (t : TemplateSource) (name : String) (v : TemplateValues) :
    Except TemplateError (List Json) := do
  let text ← t.text name
  (decodeDocuments name (v.substitute text)).mapError .object

end TemplateSource
end Resilience
