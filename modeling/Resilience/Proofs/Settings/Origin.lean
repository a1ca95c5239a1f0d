import Mathlib.Data.List.Nodup
import Resilience.Proofs.Settings.Shape
/-! # Where settings come from

Every setting of a run has an origin, and its value is the one that this origin gives: a variable
before the file, the file before what is built in. Only where a section is an array, or some integer
of the file is beyond the signed ones of 64 bits, a value of the file is reported as built in.
-/
namespace Resilience

namespace Setting

/-- The variable that overrides a setting. One of them overrides all intervals. -/
def variableName : Setting → String
  | .logLevel => "KCERT_LOG_LEVEL"
  | .readyTimeout => "KCERT_READY_TIMEOUT"
  | .perPodTimeout => "KCERT_PER_POD_TIMEOUT"
  | .waitTimeout => "KCERT_CHAOS_TIMEOUT"
  | .templatesDir => "KCERT_TEMPLATES_DIR"
  | .operatorTimeout => "KCERT_OPERATOR_TIMEOUT"
  | .drainInterval | .chaosInterval | .operatorInterval => "KCERT_POLL_INTERVAL"

def usable? (k : Setting) (text : String) : Option SettingValue :=
  match k with
  | .logLevel =>
    let level := text.map Char.toLower
    if level ∈ Environment.logLevels then some (.text level) else none
  | .templatesDir => if text = "" then none else some (.directory (some text))
  | _ => (Duration.read text).toOption.map .duration

def override? (vars : Dict String String) (k : Setting) : Option SettingValue :=
  (Dict.find? vars k.variableName).bind k.usable?

def IsDuration (k : Setting) : Prop := k ≠ .logLevel ∧ k ≠ .templatesDir

instance (k : Setting) : Decidable k.IsDuration := inferInstanceAs (Decidable (_ ∧ _))

theorem IsDuration.usable? {k : Setting} (h : k.IsDuration) (text : String) :
    k.usable? text = (Duration.read text).toOption.map .duration := by
  obtain ⟨level, directory⟩ := h
  cases k with
  | logLevel => exact absurd rfl level
  | templatesDir => exact absurd rfl directory
  | _ => rfl

theorem mem_all (k : Setting) : k ∈ all := by cases k <;> decide

end Setting

namespace Settings

variable {entries : Dict String Toml} {k k' : Setting} {ks ks' : List Setting} {d : Duration}
  {s s' s'' : Settings} {source : Source} {vars : Dict String String} {place name : String}

def report (s : Settings) (k : Setting) : SettingValue × Option Source := (s.value k, s.source? k)

theorem value_note : (s.note k source).value k' = s.value k' := by cases k' <;> rfl

theorem source?_note :
    (s.note k source).source? k' = if k' = k then some source else s.source? k' := by
  unfold source? note
  rw [Dict.find?]
  split
  · rfl
  · next other => exact Dict.find?_erase_of_ne _ other

theorem report_note : (s.note k source).report k' =
    if k' = k then (s.value k', some source) else s.report k' := by
  rw [report, value_note, source?_note]
  split <;> rfl

/-- Steps for different settings, each of which changes the report of its own setting only. -/
theorem report_foldl (ks : List Setting) {f : Settings → Setting → Settings}
    {g : Setting → SettingValue × Option Source → SettingValue × Option Source}
    (own : ∀ s, ∀ k ∈ ks, ∀ k',
      (f s k).report k' = if k' = k then g k (s.report k) else s.report k')
    (different : ks.Nodup) (k : Setting) :
    (ks.foldl f s).report k = if k ∈ ks then g k (s.report k) else s.report k := by
  induction ks generalizing s with
  | nil => rfl
  | cons a ks ih =>
    obtain ⟨apart, different⟩ := List.nodup_cons.mp different
    rw [List.foldl_cons, ih (fun s b hb => own s b (List.mem_cons_of_mem a hb)) different,
      own s a List.mem_cons_self]
    by_cases same : k = a
    · subst same
      simp [apart]
    · simp [same]

/-! ## Defaults and files -/

theorem report_noteDefaults :
    s.noteDefaults.report k = (s.value k, some ((s.source? k).getD .default)) := by
  have steps := report_foldl Setting.all (s := s)
    (f := fun s k => if (s.source? k).isSome then s else s.note k .default)
    (g := fun _ r => (r.1, some (r.2.getD .default))) ?_ (by decide) k
  · rw [if_pos k.mem_all] at steps
    exact steps
  · intro s a _ b
    by_cases same : b = a
    · subst same
      cases noted : s.source? b <;> simp [report, value_note, source?_note, noted]
    · cases s.source? a <;> simp [report_note, same]

theorem value_noteDefaults : s.noteDefaults.value k = s.value k := by
  simpa only [report] using congrArg Prod.fst (report_noteDefaults (s := s) (k := k))

theorem source?_noteDefaults :
    s.noteDefaults.source? k = some ((s.source? k).getD .default) := by
  simpa only [report] using congrArg Prod.snd (report_noteDefaults (s := s) (k := k))

theorem report_noteFile : (s.noteFile place entries).report k =
    if hasEntry entries k ∧ Toml.anyWideEntry entries = false then (s.value k, some (.file place))
    else s.report k := by
  unfold noteFile
  split
  · next wide => simp [wide]
  · next narrow =>
    have steps := report_foldl Setting.all (s := s)
      (f := fun s k => if hasEntry entries k then s.note k (.file place) else s)
      (g := fun k r => if hasEntry entries k then (r.1, some (.file place)) else r) ?_ (by decide) k
    · rw [if_pos k.mem_all] at steps
      simpa [narrow, report] using steps
    · intro s a _ b
      by_cases same : b = a
      · subst same
        cases hasEntry entries b <;> simp [report, value_note, source?_note]
      · cases hasEntry entries a <;> simp [report_note, same]

/-! ## The environment -/

/-- What a variable makes of the report of a setting. -/
def overrule (vars : Dict String String) (k : Setting) (r : SettingValue × Option Source) :
    SettingValue × Option Source :=
  match k.override? vars with
  | some v => (v, some .environment)
  | none => r

theorem overrule_overrule {r : SettingValue × Option Source} :
    overrule vars k (overrule vars k r) = overrule vars k r := by
  unfold overrule
  split <;> rfl

/-- The variables of some settings have taken effect, and nothing else has. -/
def Overridden (vars : Dict String String) (ks : List Setting) (s s' : Settings) : Prop :=
  ∀ k, s'.report k = if k ∈ ks then overrule vars k (s.report k) else s.report k

theorem Overridden.trans (h : Overridden vars ks s s') (h' : Overridden vars ks' s' s'') :
    Overridden vars (ks ++ ks') s s'' := by
  intro k
  rw [h' k, h k]
  by_cases first : k ∈ ks <;> by_cases second : k ∈ ks' <;>
    simp [first, second, overrule_overrule]

/-- Where no variable overrides the settings, nothing happens to them. -/
theorem Overridden.refl (unset : ∀ k ∈ ks, k.override? vars = none) : Overridden vars ks s s := by
  intro k
  split
  · next inside => rw [overrule, unset k inside]
  · rfl

structure Reads (vars : Dict String String) (env : Environment) : Prop where
  vars : env.vars = vars
  lead : env.lead = "KCERT_"

def Applies (vars : Dict String String) (ks : List Setting)
    (part : Settings × Environment → Settings × Environment) : Prop :=
  ∀ p, Reads vars p.2 → Reads vars (part p).2 ∧ Overridden vars ks p.1 (part p).1

theorem Reads.value? {env : Environment} (h : Reads vars env) :
    env.value? name = Dict.find? vars ("KCERT_" ++ name) := by
  rw [Environment.value?, Environment.fullName, h.vars, h.lead]

theorem Reads.readWith {α : Type} {env : Environment} {default : α}
    {read : String → String → Except VariableError α} (h : Reads vars env) :
    Reads vars (env.readWith name default read).2 := by
  unfold Environment.readWith
  split
  · exact h
  · split
    · exact h
    · exact ⟨h.vars, h.lead⟩

theorem value_setDuration (h : k.IsDuration) :
    (s.setDuration d k).value k' = if k' = k then .duration d else s.value k' := by
  obtain ⟨level, directory⟩ := h
  cases k with
  | logLevel => exact absurd rfl level
  | templatesDir => exact absurd rfl directory
  | _ => cases k' <;> rfl

theorem source?_setDuration : (s.setDuration d k).source? k' = s.source? k' := by
  cases k <;> rfl

/-- A duration takes the place of different settings. -/
theorem report_setDurations (durations : ∀ k ∈ ks, k.IsDuration) (different : ks.Nodup) :
    (ks.foldl (fun s k => (s.setDuration d k).note k source) s).report k =
      if k ∈ ks then (.duration d, some source) else s.report k := by
  refine report_foldl ks (g := fun _ _ => (.duration d, some source)) ?_ different k
  intro s a inside b
  rw [report_note, value_setDuration (durations a inside)]
  split
  · rfl
  · next other => rw [report, value_setDuration (durations a inside), if_neg other,
      source?_setDuration, report]

def duration? (vars : Dict String String) (name : String) : Option Duration :=
  (Dict.find? vars ("KCERT_" ++ name)).bind fun text => (Duration.read text).toOption

theorem Reads.duration {env : Environment} (h : Reads vars env) :
    (env.duration name d).1 = match duration? vars name with
      | some t => .ofVariable t ("KCERT_" ++ name)
      | none => .ofDefault d := by
  unfold Environment.duration Environment.readWith duration?
  rw [h.value?, Environment.fullName, h.lead]
  cases Dict.find? vars ("KCERT_" ++ name) with
  | none => rfl
  | some text =>
    dsimp only [Option.bind_some]
    cases Duration.read text <;> rfl

theorem override?_duration (duration : k.IsDuration) (named : k.variableName = "KCERT_" ++ name) :
    k.override? vars = (duration? vars name).map .duration := by
  rw [Setting.override?, named, duration?, Option.map_bind]
  exact Option.bind_congr fun text _ => duration.usable? text

theorem applyDuration_applies (name : String) (ks : List Setting)
    (named : ∀ k ∈ ks, k.variableName = "KCERT_" ++ name)
    (durations : ∀ k ∈ ks, k.IsDuration) (different : ks.Nodup) :
    Applies vars ks (applyDuration name ks) := by
  intro p reads
  have overridden : Overridden vars ks p.1
      (p.1.overrideDurations (p.2.duration name .zero).1 ks) := by
    have override : ∀ k ∈ ks, k.override? vars = (duration? vars name).map .duration :=
      fun k inside => override?_duration (durations k inside) (named k inside)
    rw [reads.duration]
    cases set : duration? vars name with
    | none =>
      refine Overridden.refl fun k inside => ?_
      rw [override k inside, set]
      rfl
    | some t =>
      intro k
      refine (report_setDurations durations different).trans ?_
      split
      · next inside =>
        rw [overrule, override k inside, set]
        rfl
      · rfl
  have still : Reads vars (p.2.duration name .zero).2 := reads.readWith
  exact ⟨still, overridden⟩

theorem Overridden.single {v : SettingValue} (set : k.override? vars = some v)
    (value : ∀ k', s'.value k' = if k' = k then v else s.value k')
    (sources : s'.sources = s.sources) : Overridden vars [k] s (s'.note k .environment) := by
  intro k'
  rw [report_note, value]
  by_cases same : k' = k
  · rw [if_pos same, if_pos same, if_pos (List.mem_singleton.mpr same), same, overrule, set]
  · rw [if_neg same, if_neg (same ∘ List.mem_singleton.mp), report, value, if_neg same, source?,
      sources, report, source?]

theorem applyLogLevel_applies : Applies vars [.logLevel] applyLogLevel := by
  intro p reads
  constructor
  · have still : Reads vars (p.2.logLevel "LOG_LEVEL" p.1.logLevel).2 := reads.readWith
    unfold applyLogLevel
    dsimp only
    split <;> exact still
  · have override : Setting.logLevel.override? vars =
        (Dict.find? vars ("KCERT_" ++ "LOG_LEVEL")).bind Setting.logLevel.usable? := rfl
    unfold applyLogLevel Environment.logLevel Environment.readWith
    rw [reads.value?]
    cases set : Dict.find? vars ("KCERT_" ++ "LOG_LEVEL") with
    | none =>
      refine Overridden.refl fun k inside => ?_
      rw [List.mem_singleton.mp inside, override, set]
      rfl
    | some text =>
      rw [set, Option.bind_some] at override
      by_cases usable : text.map Char.toLower ∈ Environment.logLevels
      · have taken : Setting.logLevel.override? vars = some (.text (text.map Char.toLower)) :=
          override.trans (if_pos usable)
        simp only [usable, if_true]
        refine Overridden.single taken (fun k' => ?_) rfl
        cases k' <;> rfl
      · have refused : Setting.logLevel.override? vars = none := override.trans (if_neg usable)
        simp only [usable, if_false]
        refine Overridden.refl fun k inside => ?_
        rw [List.mem_singleton.mp inside, refused]

theorem applyTemplatesDir_applies : Applies vars [.templatesDir] applyTemplatesDir := by
  intro p reads
  have override : Setting.templatesDir.override? vars =
      (Dict.find? vars ("KCERT_" ++ "TEMPLATES_DIR")).bind Setting.templatesDir.usable? := rfl
  unfold applyTemplatesDir Environment.optionalString
  rw [reads.value?]
  cases set : Dict.find? vars ("KCERT_" ++ "TEMPLATES_DIR") with
  | none =>
    refine ⟨reads, Overridden.refl fun k inside => ?_⟩
    rw [List.mem_singleton.mp inside, override, set]
    rfl
  | some text =>
    rw [set, Option.bind_some] at override
    by_cases empty : text = ""
    · subst empty
      refine ⟨reads, Overridden.refl fun k inside => ?_⟩
      rw [List.mem_singleton.mp inside, override]
      rfl
    · have taken : Setting.templatesDir.override? vars = some (.directory (some text)) :=
        override.trans (if_neg empty)
      simp only [empty, if_false]
      refine ⟨reads, Overridden.single taken (fun k' => ?_) rfl⟩
      cases k' <;> rfl

/-- The variables of the environment override every setting that they give a usable value. -/
theorem report_applyVariables :
    (s.applyVariables vars).1.report k = overrule vars k (s.report k) := by
  -- the parts in the order of the loading; every setting is in one of them
  have start : Reads vars { vars := vars : Environment } := ⟨rfl, rfl⟩
  obtain ⟨reads, ready⟩ := applyDuration_applies "READY_TIMEOUT" [.readyTimeout]
    (by simp [Setting.variableName]) (by decide) (by decide) (s, _) start
  obtain ⟨reads, perPod⟩ := applyDuration_applies "PER_POD_TIMEOUT" [.perPodTimeout]
    (by simp [Setting.variableName]) (by decide) (by decide) _ reads
  obtain ⟨reads, chaos⟩ := applyDuration_applies "CHAOS_TIMEOUT" [.waitTimeout]
    (by simp [Setting.variableName]) (by decide) (by decide) _ reads
  obtain ⟨reads, operator⟩ := applyDuration_applies "OPERATOR_TIMEOUT" [.operatorTimeout]
    (by simp [Setting.variableName]) (by decide) (by decide) _ reads
  obtain ⟨reads, interval⟩ := applyDuration_applies "POLL_INTERVAL"
    [.drainInterval, .chaosInterval, .operatorInterval]
    (by simp [Setting.variableName]) (by decide) (by decide) _ reads
  obtain ⟨reads, level⟩ := applyLogLevel_applies _ reads
  obtain ⟨-, directory⟩ := applyTemplatesDir_applies _ reads
  have all := ready.trans <| perPod.trans <| chaos.trans <| operator.trans <| interval.trans <|
    level.trans directory
  unfold applyVariables
  dsimp only
  rw [all k, if_pos]
  cases k <;> decide

/-! ## Loading -/

structure Document (files : Files) (path : Option String) where
  place : String
  text : String
  entries : Dict String Toml
  alone : Settings
  used : path.getD defaultFile = place ∧ files.has place
  read : files.readText place = .ok text
  parsed : parseDocument text = .ok entries
  shaped : ofText text = .ok alone

variable {files : Files} {path : Option String}

theorem Document.entries_eq (d d' : Document files path) : d.entries = d'.entries := by
  have place : d.place = d'.place := d.used.1.symm.trans d'.used.1
  have text : d.text = d'.text := by
    have read := d.read
    rw [place, d'.read] at read
    exact (Except.ok.inj read).symm
  have parsed := d.parsed
  rw [text, d'.parsed] at parsed
  exact (Except.ok.inj parsed).symm

theorem ofText_eq_ok_iff {text : String} : ofText text = .ok s ↔
    ∃ entries, parseDocument text = .ok entries ∧ ofDocument entries = .ok s := by
  constructor
  · intro h
    obtain ⟨entries, parsed, shaped⟩ := bind_eq_ok h
    refine ⟨entries, parsed, ?_⟩
    split at shaped
    · next found =>
      cases shaped
      exact found
    · cases shaped
  · rintro ⟨entries, parsed, shaped⟩
    simp only [ofText, parsed, shaped, bind, Except.bind, pure, Except.pure]

theorem Document.run (d : Document files path) :
    ∃ s, d.entries.foldlM setEntry {} = .ok s ∧ d.alone = s.noteDefaults := by
  obtain ⟨entries, parsed, shaped⟩ := ofText_eq_ok_iff.mp d.shaped
  rw [d.parsed] at parsed
  cases parsed
  obtain ⟨s, run, alone⟩ := map_eq_ok shaped
  exact ⟨s, run, alone.symm⟩

theorem Document.ascending (d : Document files path) : Dict.Ascending d.entries := by
  have parsed := d.parsed
  unfold parseDocument at parsed
  split at parsed
  · cases parsed
  · next found =>
    cases parsed
    exact Toml.parse?_ascending found

theorem Document.source?_alone (d : Document files path) :
    d.alone.source? k = some .default := by
  obtain ⟨s, run, alone⟩ := d.run
  rw [alone, source?_noteDefaults, source?, run_sources run]
  rfl

theorem Document.value_alone (d : Document files path) (ungiven : ¬Gives d.entries k) :
    d.alone.value k = builtIn.value k := by
  obtain ⟨s, run, alone⟩ := d.run
  calc d.alone.value k = s.noteDefaults.value k := by rw [alone]
    _ = s.value k := value_noteDefaults
    _ = ({} : Settings).value k := run_ungiven d.ascending ungiven run
    _ = builtIn.value k := by rw [builtIn, value_noteDefaults]

theorem document_of_ofFile {place : String} (loaded : ofFile files place = .ok s) (there : files.has place)
    (used : path.getD defaultFile = place) :
    ∃ d : Document files path, s = d.alone.noteFile d.place d.entries := by
  unfold ofFile at loaded
  split at loaded
  · cases loaded
  · next text read =>
    split at loaded
    · cases loaded
    · next entries parsed =>
      split at loaded
      · cases loaded
      · next alone shaped =>
        cases loaded
        have shaped : ofText text = .ok alone := ofText_eq_ok_iff.mpr ⟨entries, parsed, shaped⟩
        exact ⟨⟨place, text, entries, alone, ⟨used, there⟩, read, parsed, shaped⟩, rfl⟩

/-- Settings start from a document or, if there is none, built in. -/
theorem start_cases (started : start files path = .ok s) :
    (IsEmpty (Document files path) ∧ s = builtIn) ∨
      ∃ d : Document files path, s = d.alone.noteFile d.place d.entries := by
  unfold start at started
  split at started
  · split at started
    · next there => exact .inr (document_of_ofFile started there rfl)
    · cases started
  · split at started
    · next there => exact .inr (document_of_ofFile started there rfl)
    · next missing =>
      cases started
      refine .inl ⟨⟨fun d => missing ?_⟩, rfl⟩
      have used := d.used
      rw [← used.1] at used
      exact used.2

inductive Reported (files : Files) (vars : Dict String String) (path : Option String)
    (k : Setting) : Source → SettingValue → Prop
  | environment {v : SettingValue} (set : k.override? vars = some v) :
      Reported files vars path k .environment v
  | file (d : Document files path) (unset : k.override? vars = none)
      (named : hasEntry d.entries k) (narrow : Toml.anyWideEntry d.entries = false) :
      Reported files vars path k (.file d.place) (d.alone.value k)
  | default (unset : k.override? vars = none)
      (ungiven : ∀ d : Document files path, ¬Gives d.entries k) :
      Reported files vars path k .default (builtIn.value k)
  /-- A value of the file that counts as built in. -/
  | missed (d : Document files path) (unset : k.override? vars = none)
      (passedOver : Placed d.entries k ∨
        hasEntry d.entries k ∧ Toml.anyWideEntry d.entries = true) :
      Reported files vars path k .default (d.alone.value k)

theorem load_report (loaded : load files vars path = .ok s) :
    ∃ first, start files path = .ok first ∧
      ∀ k, s.report k = overrule vars k (first.report k) := by
  obtain ⟨first, started, loaded⟩ := bind_eq_ok loaded
  refine ⟨first, started, fun k => ?_⟩
  rw [← report_applyVariables]
  split at loaded
  · next applied =>
    obtain ⟨-, -, loaded⟩ := bind_eq_ok loaded
    cases loaded
    rw [applied]
  · cases loaded

/-- Whatever the file and the environment are, every setting of a run has an origin, which tells how
it came by its value. -/
theorem load_sources_truthful (loaded : load files vars path = .ok s) (k : Setting) :
    ∃ source, s.source? k = some source ∧ Reported files vars path k source (s.value k) := by
  obtain ⟨first, started, reported⟩ := load_report loaded
  have reported := reported k
  unfold overrule at reported
  cases set : k.override? vars with
  | some v =>
    rw [set] at reported
    obtain ⟨rfl, source⟩ := Prod.mk.inj reported
    exact ⟨.environment, source, .environment set⟩
  | none =>
    rw [set] at reported
    rcases start_cases started with ⟨unused, rfl⟩ | ⟨d, rfl⟩
    · obtain ⟨value, source⟩ := Prod.mk.inj reported
      rw [value]
      refine ⟨.default, source.trans ?_, .default set fun d => unused.elim d⟩
      rw [builtIn, source?_noteDefaults]
      rfl
    · rw [report_noteFile] at reported
      by_cases attributed : hasEntry d.entries k ∧ Toml.anyWideEntry d.entries = false
      · rw [if_pos attributed] at reported
        obtain ⟨value, source⟩ := Prod.mk.inj reported
        rw [value]
        exact ⟨.file d.place, source, .file d set attributed.1 attributed.2⟩
      · rw [if_neg attributed] at reported
        obtain ⟨value, source⟩ := Prod.mk.inj reported
        rw [value]
        refine ⟨.default, source.trans d.source?_alone, ?_⟩
        by_cases given : Gives d.entries k
        · refine .missed d set (given.symm.imp_right fun named => ⟨named, ?_⟩)
          exact Bool.of_not_eq_false fun narrow => attributed ⟨named, narrow⟩
        · rw [d.value_alone given]
          exact .default set fun d' => d'.entries_eq d ▸ given

section Timeout

def directoryWith (text : String) : Files := ⟨[([defaultFile], .text text)]⟩

def namedTimeout : Files := directoryWith "[operator]\ntimeout = \"2m\"\n"

def placedTimeout : Files := directoryWith "operator = [120]\n"

def everyTwoSeconds : Dict String String := [("KCERT_POLL_INTERVAL", "2s")]

theorem load_sources_truthful_namedTimeout :
    ∃ s, load namedTimeout everyTwoSeconds none = .ok s ∧
      s.report .operatorTimeout = (.duration (.ofMinutes 2), some (.file defaultFile)) ∧
      s.report .chaosInterval = (.duration (.ofSeconds 2), some .environment) ∧
      ∀ k, ∃ source, s.source? k = some source ∧
        Reported namedTimeout everyTwoSeconds none k source (s.value k) := by
  have evaluated : (load namedTimeout everyTwoSeconds none).toOption.map
      (fun s => (s.report .operatorTimeout, s.report .chaosInterval)) =
        some ((.duration (.ofMinutes 2), some (.file defaultFile)),
          (.duration (.ofSeconds 2), some .environment)) := by
    decide +kernel
  obtain ⟨s, loaded, reports⟩ := Option.map_eq_some_iff.mp evaluated
  have loaded := toOption_eq_some loaded
  obtain ⟨timeout, interval⟩ := Prod.mk.inj reports
  exact ⟨s, loaded, timeout, interval, load_sources_truthful loaded⟩

/-- Where the section is an array, its value counts as built in. -/
theorem source_may_miss_file :
    ∃ s, load placedTimeout [] none = .ok s ∧ s.source? .operatorTimeout = some .default ∧
      s.value .operatorTimeout ≠ builtIn.value .operatorTimeout := by
  have evaluated : (load placedTimeout [] none).toOption.map (fun s => s.report .operatorTimeout) =
      some (.duration (.ofMinutes 2), some .default) := by
    decide +kernel
  obtain ⟨s, loaded, reported⟩ := Option.map_eq_some_iff.mp evaluated
  obtain ⟨value, source⟩ := Prod.mk.inj reported
  refine ⟨s, toOption_eq_some loaded, source, ?_⟩
  rw [value]
  decide

end Timeout

end Settings
end Resilience
