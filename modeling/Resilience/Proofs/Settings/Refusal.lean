import Resilience.Proofs.Settings.Origin
/-! # What the environment refuses

Every variable is judged by itself. One that can be used sets its settings, one that cannot is
refused when its turn comes, and nothing else changes, whatever the other variables hold.
-/
namespace Resilience

variable {vars : Dict String String} {k : Setting} {name text : String}

def error? {ε α : Type} : Except ε α → Option ε
  | .ok _ => none
  | .error e => some e

namespace Setting

/-- A setting for each variable that may be refused, in the order in which these are read. -/
def refusable : List Setting :=
  [.readyTimeout, .perPodTimeout, .waitTimeout, .operatorTimeout, .drainInterval, .logLevel]

def complaint? (k : Setting) (text : String) : Option VariableError :=
  match k with
  | .logLevel =>
    if text.map Char.toLower ∈ Environment.logLevels then none
    else some (.logLevel k.variableName text)
  | .templatesDir => none
  | _ => (error? (Duration.read text)).map (.duration k.variableName text)

def refusal? (vars : Dict String String) (k : Setting) : Option VariableError :=
  (Dict.find? vars k.variableName).bind k.complaint?

/-- The variable for a setting is set, and to nothing that the setting can be. -/
def IsInvalid (vars : Dict String String) (k : Setting) : Prop :=
  ∃ text, Dict.find? vars k.variableName = some text ∧ k.usable? text = none

theorem IsDuration.complaint? (h : k.IsDuration) (text : String) :
    k.complaint? text = (error? (Duration.read text)).map (.duration k.variableName text) := by
  obtain ⟨level, directory⟩ := h
  cases k with
  | logLevel => exact absurd rfl level
  | templatesDir => exact absurd rfl directory
  | _ => rfl

theorem complaint?_isSome_iff (inside : k ∈ refusable) :
    (k.complaint? text).isSome ↔ k.usable? text = none := by
  have kinds : ∀ k ∈ refusable, k.IsDuration ∨ k = .logLevel := by decide
  rcases kinds k inside with duration | rfl
  · rw [duration.complaint?, duration.usable?]
    cases Duration.read text <;> simp [error?, Except.toOption]
  · by_cases known : text.map Char.toLower ∈ Environment.logLevels <;>
      simp [Setting.complaint?, Setting.usable?, known]

theorem refusal?_isSome_iff (inside : k ∈ refusable) :
    (k.refusal? vars).isSome ↔ k.IsInvalid vars := by
  unfold refusal? IsInvalid
  cases Dict.find? vars k.variableName with
  | none => simp
  | some text => simp [complaint?_isSome_iff inside]

end Setting

namespace Settings

variable {s : Settings} {env : Environment} {α : Type}
  {refused refused' : List VariableError}
  {part part' : Settings × Environment → Settings × Environment}

/-- What no variable has a say in. -/
def fixed (s : Settings) : Bool × String × List WorkloadRef × List PodLabel :=
  (s.disruption.skipNodeBound, s.faultInjection.experiment, s.targets, s.targetLabels)

theorem fixed_note {source : Source} : (s.note k source).fixed = s.fixed := rfl

theorem fixed_setDuration {d : Duration} : (s.setDuration d k).fixed = s.fixed := by
  cases k <;> rfl

theorem fixed_overrideDurations {d : Sourced Duration} (ks : List Setting) :
    (s.overrideDurations d ks).fixed = s.fixed := by
  unfold overrideDurations
  split
  · rfl
  · induction ks generalizing s with
    | nil => rfl
    | cons k ks ih => rw [List.foldl_cons, ih, fixed_note, fixed_setDuration]

/-! ## One part after another -/

/-- A part of the loading adds these refusals to those before it, and leaves alone what no variable
has a say in. -/
structure Collects (vars : Dict String String) (refused : List VariableError)
    (part : Settings × Environment → Settings × Environment) : Prop where
  reads : ∀ p, Reads vars p.2 → Reads vars (part p).2
  errors : ∀ p, Reads vars p.2 → (part p).2.errors = p.2.errors ++ refused
  fixed : ∀ p, (part p).1.fixed = p.1.fixed

theorem Collects.andThen (h : Collects vars refused part) (h' : Collects vars refused' part') :
    Collects vars (refused ++ refused') (fun p => part' (part p)) where
  reads p reads := h'.reads _ (h.reads p reads)
  errors p reads := by
    rw [h'.errors _ (h.reads p reads), h.errors p reads, List.append_assoc]
  fixed p := (h'.fixed _).trans (h.fixed p)

theorem Reads.errors_readWith {default : α} {read : String → String → Except VariableError α}
    {complaint? : String → Option VariableError} (h : Reads vars env)
    (judged : ∀ text, error? (read ("KCERT_" ++ name) text) = complaint? text) :
    (env.readWith name default read).2.errors =
      env.errors ++ ((Dict.find? vars ("KCERT_" ++ name)).bind complaint?).toList := by
  unfold Environment.readWith
  rw [h.value?, Environment.fullName, h.lead]
  cases Dict.find? vars ("KCERT_" ++ name) with
  | none => exact (List.append_nil _).symm
  | some text =>
    rw [Option.bind_some, ← judged]
    dsimp only
    cases read ("KCERT_" ++ name) text with
    | ok _ => exact (List.append_nil _).symm
    | error e => rfl

theorem applyDuration_collects (duration : k.IsDuration) (named : k.variableName = "KCERT_" ++ name)
    (ks : List Setting) : Collects vars (k.refusal? vars).toList (applyDuration name ks) where
  reads p reads := by
    have still : Reads vars (p.2.duration name .zero).2 := reads.readWith
    exact still
  errors p reads := by
    unfold applyDuration Environment.duration
    rw [Setting.refusal?, named]
    refine reads.errors_readWith fun text => ?_
    rw [duration.complaint?, named]
    cases Duration.read text <;> rfl
  fixed p := fixed_overrideDurations ks

theorem applyLogLevel_collects :
    Collects vars (Setting.logLevel.refusal? vars).toList applyLogLevel where
  reads p reads := (applyLogLevel_applies p reads).1
  errors p reads := by
    have collected : (p.2.logLevel "LOG_LEVEL" p.1.logLevel).2.errors =
        p.2.errors ++ (Setting.logLevel.refusal? vars).toList := by
      unfold Environment.logLevel
      refine reads.errors_readWith fun text => ?_
      by_cases known : text.map Char.toLower ∈ Environment.logLevels <;>
        simp [Setting.complaint?, Setting.variableName, error?, known]
    unfold applyLogLevel
    dsimp only
    split <;> exact collected
  fixed p := by
    unfold applyLogLevel
    dsimp only
    split <;> rfl

theorem applyTemplatesDir_collects : Collects vars [] applyTemplatesDir where
  reads p reads := (applyTemplatesDir_applies p reads).1
  errors p _ := by
    unfold applyTemplatesDir
    split <;> exact (List.append_nil _).symm
  fixed p := by
    unfold applyTemplatesDir
    split <;> rfl

/-! ## All of them -/

variable (vars s) in
/-- The refusals of all variables, in the order of reading. -/
theorem applyVariables_collects :
    (s.applyVariables vars).2 = Setting.refusable.filterMap (Setting.refusal? vars) ∧
      (s.applyVariables vars).1.fixed = s.fixed := by
  have ready : Collects vars _ (applyDuration "READY_TIMEOUT" [.readyTimeout]) :=
    applyDuration_collects (k := .readyTimeout) (by decide) (by decide) _
  have perPod : Collects vars _ (applyDuration "PER_POD_TIMEOUT" [.perPodTimeout]) :=
    applyDuration_collects (k := .perPodTimeout) (by decide) (by decide) _
  have chaos : Collects vars _ (applyDuration "CHAOS_TIMEOUT" [.waitTimeout]) :=
    applyDuration_collects (k := .waitTimeout) (by decide) (by decide) _
  have operator : Collects vars _ (applyDuration "OPERATOR_TIMEOUT" [.operatorTimeout]) :=
    applyDuration_collects (k := .operatorTimeout) (by decide) (by decide) _
  have interval : Collects vars _ (applyDuration "POLL_INTERVAL"
      [.drainInterval, .chaosInterval, .operatorInterval]) :=
    applyDuration_collects (k := .drainInterval) (by decide) (by decide) _
  have all := ready.andThen <| perPod.andThen <| chaos.andThen <| operator.andThen <|
    interval.andThen <| applyLogLevel_collects.andThen applyTemplatesDir_collects
  unfold applyVariables
  dsimp only
  refine ⟨?_, all.fixed _⟩
  rw [List.filterMap_eq_flatMap_toList]
  exact all.errors _ ⟨rfl, rfl⟩

/-- Loading fails by its environment if anything is refused, with all that is. -/
theorem load_eq_environment_iff {files : Files} {path : Option String}
    {errors : List VariableError} (started : start files path = .ok s) :
    load files vars path = .error (.environment errors) ↔
      errors = (s.applyVariables vars).2 ∧ errors ≠ [] := by
  unfold load
  rw [started]
  simp only [bind, Except.bind]
  generalize s.applyVariables vars = applied
  obtain ⟨s', refused⟩ := applied
  cases refused with
  | nil =>
    -- nothing is refused, and a complaint about the settings is no refusal
    have valid : ∀ e, s'.validate = .error e → e = .invalid s'.problems := by
      intro e failed
      unfold validate at failed
      split at failed
      · cases failed
      · cases failed
        rfl
    constructor
    · intro failed
      rcases bind_eq_error failed with failed | ⟨-, -, failed⟩
      · cases valid _ failed
      · cases failed
    · rintro ⟨rfl, some⟩
      exact absurd rfl some
  | cons e refused =>
    constructor
    · intro failed
      cases failed
      exact ⟨rfl, List.cons_ne_nil _ _⟩
    · rintro ⟨rfl, -⟩
      rfl

/-- Each setting whose variable is set to something that it can be is set to that, and nothing else
changes. Each variable that is set to something else is refused, once and in its turn, and if there
is one then loading fails by all of them. -/
theorem applyVariables_sets_or_refuses (s : Settings) (vars : Dict String String) :
    (∀ k, (s.applyVariables vars).1.report k = overrule vars k (s.report k)) ∧
      (s.applyVariables vars).1.fixed = s.fixed ∧
      (s.applyVariables vars).2 = Setting.refusable.filterMap (Setting.refusal? vars) ∧
      ((s.applyVariables vars).2 ≠ [] ↔ ∃ k ∈ Setting.refusable, k.IsInvalid vars) ∧
      ∀ files path errors, start files path = .ok s →
        (load files vars path = .error (.environment errors) ↔
          errors = (s.applyVariables vars).2 ∧ errors ≠ []) := by
  obtain ⟨refused, fixed⟩ := applyVariables_collects vars s
  refine ⟨fun k => report_applyVariables, fixed, refused, ?_,
    fun files path errors => load_eq_environment_iff⟩
  rw [refused, ne_eq, List.filterMap_eq_nil_iff]
  push Not
  refine exists_congr fun k => and_congr_right fun inside => ?_
  rw [← Setting.refusal?_isSome_iff inside, Option.isSome_iff_ne_none]

section Mixed

/-- Three variables that can be used, two that cannot, and an empty one. -/
def mixedVariables : Dict String String :=
  [("KCERT_CHAOS_TIMEOUT", "1h 30m"), ("KCERT_LOG_LEVEL", "chatty"), ("KCERT_OPERATOR_TIMEOUT", "90"),
    ("KCERT_PER_POD_TIMEOUT", "forever"), ("KCERT_POLL_INTERVAL", "5s"), ("KCERT_TEMPLATES_DIR", "")]

theorem applyVariables_sets_or_refuses_mixed :
    start ⟨[]⟩ none = .ok builtIn ∧
      load ⟨[]⟩ mixedVariables none = .error (.environment
        [.duration "KCERT_PER_POD_TIMEOUT" "forever" (.numberExpected 0),
          .logLevel "KCERT_LOG_LEVEL" "chatty"]) ∧
      (∀ k ∈ [.drainInterval, .chaosInterval, .operatorInterval],
        (builtIn.applyVariables mixedVariables).1.report k =
          (.duration (.ofSeconds 5), some .environment)) ∧
      ∀ k ∈ [.perPodTimeout, .logLevel, .templatesDir],
        (builtIn.applyVariables mixedVariables).1.report k = builtIn.report k := by
  obtain ⟨reports, -, refused, -, loads⟩ := applyVariables_sets_or_refuses builtIn mixedVariables
  have refusals : Setting.refusable.filterMap (Setting.refusal? mixedVariables) =
      [.duration "KCERT_PER_POD_TIMEOUT" "forever" (.numberExpected 0),
        .logLevel "KCERT_LOG_LEVEL" "chatty"] := by decide +kernel
  have started : start ⟨[]⟩ none = .ok builtIn := if_neg (by decide +kernel)
  refine ⟨started, ?_, fun k inside => ?_, fun k inside => ?_⟩
  · rw [loads ⟨[]⟩ none _ started, refused, refusals]
    exact ⟨rfl, List.cons_ne_nil _ _⟩
  · have set : k.override? mixedVariables = some (.duration (.ofSeconds 5)) := by
      revert k
      decide +kernel
    rw [reports, overrule, set]
  · have unset : k.override? mixedVariables = none := by
      revert k
      decide +kernel
    rw [reports, overrule, unset]

end Mixed

end Settings
end Resilience
