import Resilience.Proofs.Except
import Resilience.Proofs.Toml.Document
import Resilience.Settings.Load
/-! # What a document sets

A document gives a setting a value by an entry of its name or, where its section is an array, by an
item at its place. A setting that it gives none keeps its built-in value.
-/
namespace Resilience

inductive SettingValue where
  | text (s : String)
  | duration (d : Duration)
  | directory (path : Option String)
deriving DecidableEq, Repr

namespace Settings

def value (s : Settings) : Setting → SettingValue
  | .logLevel => .text s.logLevel
  | .readyTimeout => .duration s.disruption.readyTimeout
  | .perPodTimeout => .duration s.disruption.perPodTimeout
  | .drainInterval => .duration s.disruption.pollInterval
  | .waitTimeout => .duration s.faultInjection.waitTimeout
  | .chaosInterval => .duration s.faultInjection.pollInterval
  | .templatesDir => .directory s.faultInjection.templatesDir
  | .operatorTimeout => .duration s.operator.timeout
  | .operatorInterval => .duration s.operator.pollInterval

/-- The fields of a section, in the order in which an array gives them. -/
def sectionFields : String → List String
  | "disruption" => disruptionFields
  | "fault_injection" => faultInjectionFields
  | "operator" => operatorFields
  | _ => []

/-- A section gives a field a value: under its name or, as an array, at its place. -/
def SectionGives (table field : String) : Toml → Prop
  | .table es => Dict.contains es field
  | .array items => field ∈ (sectionFields table).take items.length
  | _ => False

def Placed (entries : Dict String Toml) (k : Setting) : Prop :=
  ∃ table items, k.place.1 = some table ∧ Dict.find? entries table = some (.array items) ∧
    k.place.2 ∈ (sectionFields table).take items.length

def Gives (entries : Dict String Toml) (k : Setting) : Prop :=
  hasEntry entries k ∨ Placed entries k

variable {α β : Type} {entries es : Dict String Toml} {k : Setting} {s s' : Settings}
  {table field record : String} {v : Toml} {p : String × Toml}

/-! ## Sections -/

theorem mem_take_of_mem_zip {fields : List String} {items : List Toml}
    (inside : p ∈ fields.zip items) : p.1 ∈ fields.take items.length := by
  induction fields generalizing items with
  | nil => cases inside
  | cons field fields ih =>
    cases items with
    | nil => cases inside
    | cons item items =>
      rw [List.length_cons, List.take_succ_cons]
      rcases List.mem_cons.mp inside with rfl | inside
      · exact List.mem_cons_self
      · exact List.mem_cons_of_mem _ (ih inside)

theorem recordEntries_apart (read : recordEntries record (sectionFields table) v = .ok es)
    (ungiven : ¬SectionGives table field v) (plain : field ≠ datetimeKey) :
    ∀ p ∈ es, p.1 ≠ field := by
  rintro p inside rfl
  cases v with
  | table entries =>
    cases read
    exact ungiven (Dict.contains_of_mem inside)
  | array items =>
    cases read
    exact ungiven (mem_take_of_mem_zip inside)
  | datetime =>
    cases read
    rw [List.mem_singleton.mp inside] at plain
    exact plain rfl
  | string | int | float | bool => cases read

/-- What is seen of a record stays as it was at first, if only one field has a say in it and the
section does not give that field. -/
theorem record_ungiven {set : α → String × Toml → Shaped α} {g : α → β} {first a : α}
    (apart : ∀ a a' p, p.1 ≠ field → set a p = .ok a' → g a' = g a)
    (ungiven : ¬SectionGives table field v) (plain : field ≠ datetimeKey)
    (read : recordEntries record (sectionFields table) v >>= (fun es => es.foldlM set first) =
      .ok a) : g a = g first := by
  obtain ⟨es, entries, run⟩ := bind_eq_ok read
  have unnamed := recordEntries_apart entries ungiven plain
  exact foldlM_preserves (P := fun b => g b = g first)
    (fun b b' p inside kept step => (apart b b' p (unnamed p inside) step).trans kept) rfl run

theorem setDisruption_apart {d d' : DisruptionSettings} (inSection : k.place.1 = some "disruption")
    (other : p.1 ≠ k.place.2) (step : setDisruption d p = .ok d') :
    { s with disruption := d' }.value k = { s with disruption := d }.value k := by
  unfold setDisruption at step
  split at step
  case h_5 => cases step
  all_goals
    obtain ⟨t, -, rfl⟩ := map_eq_ok step
    cases k <;> simp [Setting.place, value] at inSection other ⊢

theorem setFaultInjection_apart {f f' : FaultInjectionSettings}
    (inSection : k.place.1 = some "fault_injection")
    (other : p.1 ≠ k.place.2) (step : setFaultInjection f p = .ok f') :
    { s with faultInjection := f' }.value k = { s with faultInjection := f }.value k := by
  unfold setFaultInjection at step
  split at step
  case h_5 => cases step
  all_goals
    obtain ⟨t, -, rfl⟩ := map_eq_ok step
    cases k <;> simp [Setting.place, value] at inSection other ⊢

theorem setOperator_apart {o o' : OperatorSettings} (inSection : k.place.1 = some "operator")
    (other : p.1 ≠ k.place.2) (step : setOperator o p = .ok o') :
    { s with operator := o' }.value k = { s with operator := o }.value k := by
  unfold setOperator at step
  split at step
  case h_3 => cases step
  all_goals
    obtain ⟨t, -, rfl⟩ := map_eq_ok step
    cases k <;> simp [Setting.place, value] at inSection other ⊢

theorem field_ne_datetimeKey : k.place.2 ≠ datetimeKey := by cases k <;> decide

theorem readDisruption_ungiven {d : DisruptionSettings}
    (inSection : k.place.1 = some "disruption")
    (ungiven : ¬SectionGives "disruption" k.place.2 v) (read : readDisruption v = .ok d) :
    { s with disruption := d }.value k = ({} : Settings).value k := by
  have kept := record_ungiven (g := fun d => { s with disruption := d }.value k)
    (fun _ _ _ => setDisruption_apart inSection) ungiven field_ne_datetimeKey read
  refine kept.trans ?_
  cases k <;> simp [Setting.place, value] at inSection ⊢

theorem readFaultInjection_ungiven {f : FaultInjectionSettings}
    (inSection : k.place.1 = some "fault_injection")
    (ungiven : ¬SectionGives "fault_injection" k.place.2 v) (read : readFaultInjection v = .ok f) :
    { s with faultInjection := f }.value k = ({} : Settings).value k := by
  have kept := record_ungiven (g := fun f => { s with faultInjection := f }.value k)
    (fun _ _ _ => setFaultInjection_apart inSection) ungiven field_ne_datetimeKey read
  refine kept.trans ?_
  cases k <;> simp [Setting.place, value] at inSection ⊢

theorem readOperator_ungiven {o : OperatorSettings} (inSection : k.place.1 = some "operator")
    (ungiven : ¬SectionGives "operator" k.place.2 v) (read : readOperator v = .ok o) :
    { s with operator := o }.value k = ({} : Settings).value k := by
  have kept := record_ungiven (g := fun o => { s with operator := o }.value k)
    (fun _ _ _ => setOperator_apart inSection) ungiven field_ne_datetimeKey read
  refine kept.trans ?_
  cases k <;> simp [Setting.place, value] at inSection ⊢

/-! ## Documents -/

/-- An entry sets the level, a section or a list. -/
theorem setEntry_cases (step : setEntry s p = .ok s') :
    (p.1 = "log_level" ∧ ∃ level, s' = { s with logLevel := level }) ∨
    (p.1 = "disruption" ∧ ∃ d, readDisruption p.2 = .ok d ∧ s' = { s with disruption := d }) ∨
    (p.1 = "fault_injection" ∧
      ∃ f, readFaultInjection p.2 = .ok f ∧ s' = { s with faultInjection := f }) ∨
    (p.1 = "operator" ∧ ∃ o, readOperator p.2 = .ok o ∧ s' = { s with operator := o }) ∨
    (∃ targets, s' = { s with targets := targets }) ∨
    (∃ labels, s' = { s with targetLabels := labels }) := by
  unfold setEntry at step
  split at step
  · obtain ⟨level, -, rfl⟩ := map_eq_ok step
    exact .inl ⟨rfl, level, rfl⟩
  · obtain ⟨d, read, rfl⟩ := map_eq_ok step
    exact .inr (.inl ⟨rfl, d, read, rfl⟩)
  · obtain ⟨f, read, rfl⟩ := map_eq_ok step
    exact .inr (.inr (.inl ⟨rfl, f, read, rfl⟩))
  · obtain ⟨o, read, rfl⟩ := map_eq_ok step
    exact .inr (.inr (.inr (.inl ⟨rfl, o, read, rfl⟩)))
  · obtain ⟨items, -, step⟩ := bind_eq_ok step
    obtain ⟨targets, -, step⟩ := bind_eq_ok step
    cases step
    exact .inr (.inr (.inr (.inr (.inl ⟨targets, rfl⟩))))
  · obtain ⟨items, -, step⟩ := bind_eq_ok step
    obtain ⟨labels, -, step⟩ := bind_eq_ok step
    cases step
    exact .inr (.inr (.inr (.inr (.inr ⟨labels, rfl⟩))))
  · cases step

/-- No entry says where a setting comes from. -/
theorem setEntry_sources (step : setEntry s p = .ok s') : s'.sources = s.sources := by
  rcases setEntry_cases step with ⟨-, level, rfl⟩ | ⟨-, d, -, rfl⟩ | ⟨-, f, -, rfl⟩ |
    ⟨-, o, -, rfl⟩ | ⟨targets, rfl⟩ | ⟨labels, rfl⟩ <;> rfl

def entryName (k : Setting) : String := k.place.1.getD k.place.2

theorem setEntry_apart (other : p.1 ≠ entryName k) (step : setEntry s p = .ok s') :
    s'.value k = s.value k := by
  rcases setEntry_cases step with ⟨named, level, rfl⟩ | ⟨named, d, -, rfl⟩ | ⟨named, f, -, rfl⟩ |
    ⟨named, o, -, rfl⟩ | ⟨targets, rfl⟩ | ⟨labels, rfl⟩
  · cases k with
    | logLevel => exact absurd named other
    | _ => rfl
  · cases k with
    | readyTimeout | perPodTimeout | drainInterval => exact absurd named other
    | _ => rfl
  · cases k with
    | waitTimeout | chaosInterval | templatesDir => exact absurd named other
    | _ => rfl
  · cases k with
    | operatorTimeout | operatorInterval => exact absurd named other
    | _ => rfl
  · cases k <;> rfl
  · cases k <;> rfl

theorem setEntry_ungiven (builtIn : s.value k = ({} : Settings).value k)
    (ungiven : p.1 = entryName k →
      ∃ table, k.place.1 = some table ∧ ¬SectionGives table k.place.2 p.2)
    (step : setEntry s p = .ok s') : s'.value k = ({} : Settings).value k := by
  by_cases named : p.1 = entryName k
  · obtain ⟨table, inSection, ungiven⟩ := ungiven named
    rw [entryName, inSection, Option.getD_some] at named
    rcases setEntry_cases step with ⟨same, level, rfl⟩ | ⟨same, d, read, rfl⟩ |
      ⟨same, f, read, rfl⟩ | ⟨same, o, read, rfl⟩ | ⟨targets, rfl⟩ | ⟨labels, rfl⟩
    · rw [← named, same] at inSection
      cases k <;> simp [Setting.place] at inSection
    · rw [← named, same] at inSection ungiven
      exact readDisruption_ungiven inSection ungiven read
    · rw [← named, same] at inSection ungiven
      exact readFaultInjection_ungiven inSection ungiven read
    · rw [← named, same] at inSection ungiven
      exact readOperator_ungiven inSection ungiven read
    · exact builtIn
    · exact builtIn
  · exact (setEntry_apart named step).trans builtIn

theorem gives_of_section (inSection : k.place.1 = some table)
    (found : Dict.find? entries table = some v) (given : SectionGives table k.place.2 v) :
    Gives entries k := by
  rcases place : k.place with ⟨_ | _, name⟩
  · rw [place] at inSection
    cases inSection
  · rw [place] at inSection given
    cases inSection
    cases v with
    | table es =>
      refine .inl ?_
      unfold hasEntry
      rw [place]
      simp only [found, Option.bind_some, Toml.entries?]
      exact given
    | array items => exact .inr ⟨table, items, by rw [place], found, by rwa [place]⟩
    | string | int | float | bool | datetime => cases given

/-- A setting that the entries of a document give no value keeps its built-in one. -/
theorem run_ungiven (ascending : Dict.Ascending entries) (ungiven : ¬Gives entries k)
    (run : entries.foldlM setEntry {} = .ok s) : s.value k = ({} : Settings).value k := by
  refine foldlM_preserves (P := fun s => s.value k = ({} : Settings).value k)
    (fun s s' p inside kept step => setEntry_ungiven kept ?_ step) rfl run
  intro named
  unfold entryName at named
  cases inSection : k.place.1 with
  | none =>
    rw [inSection] at named
    refine absurd (.inl ?_) ungiven
    have there := Dict.contains_of_mem inside
    rw [named] at there
    unfold hasEntry
    rwa [show k.place = (none, k.place.2) from Prod.ext inSection rfl]
  | some table =>
    rw [inSection] at named
    change p.1 = table at named
    subst named
    have found := ascending.find?_eq_some inside
    exact ⟨p.1, rfl, fun given => ungiven (gives_of_section inSection found given)⟩

theorem run_sources (run : entries.foldlM setEntry {} = .ok s) : s.sources = [] :=
  foldlM_preserves (P := fun s => s.sources = [])
    (fun _ _ _ _ kept step => (setEntry_sources step).trans kept) rfl run

end Settings
end Resilience
