import Mathlib.Logic.Function.Basic
import Mathlib.Order.Lattice
import Resilience.Proofs.Cluster.Scripts
import Resilience.Proofs.Cluster.Store
import Resilience.Proofs.Dict
/-! # The cluster as a store

Whatever is set up and called, the cluster answers as a plain store does: a map from kind, namespace
and name to an object, with the failures that were asked for and the scripts that stand before it.
-/
namespace Resilience

namespace ObjectKey

theorem parts_injective : Function.Injective parts := by
  rintro ⟨kind, ns, name⟩ ⟨kind', ns', name'⟩ same
  simp only [parts, List.cons.injEq, and_true] at same
  obtain ⟨rfl, names, rfl⟩ := same
  cases ns <;> cases ns' <;> simp_all

@[reducible] def linearOrder : LinearOrder ObjectKey where
  toPartialOrder := PartialOrder.lift parts parts_injective
  le_total a b := le_total a.parts b.parts
  toDecidableLE a b := inferInstanceAs (Decidable (a.parts ≤ b.parts))
  toDecidableEq := inferInstance
  toDecidableLT a b := inferInstanceAs (Decidable (a.parts < b.parts))

theorem ascending_insert {d : Dict ObjectKey Json} (h : d.Pairwise fun p q => p.1 < q.1)
    (key : ObjectKey) (object : Json) :
    (Dict.insert d key object).Pairwise fun p q => p.1 < q.1 :=
  @Dict.Ascending.insert ObjectKey Json linearOrder d h key object

theorem mem_iff_find? {d : Dict ObjectKey Json} (h : d.Pairwise fun p q => p.1 < q.1)
    {key : ObjectKey} {object : Json} : (key, object) ∈ d ↔ Dict.find? d key = some object :=
  ⟨@Dict.Ascending.find?_eq_some ObjectKey Json linearOrder d key object h, Dict.mem_of_find?⟩

end ObjectKey

def Call.changes : Call → Bool
  | .create _ _ _ | .delete _ _ _ | .deletePod _ _ | .setSchedulable _ _ => true
  | _ => false

/-- A store that is a map and no more, with the failures that were asked for and the scripts that
stand before it. -/
structure Reference where
  contents : ObjectKey → Option Json
  createFailures : String → Option ClusterError
  deleteFailures : String → Option ClusterError
  script : (call : Call) → Script (Except ClusterError call.Reply)

namespace Reference

def empty : Reference := ⟨fun _ => none, fun _ => none, fun _ => none, fun _ => []⟩

/-- Creating an object is made to fail, or something lies at its place. -/
def RefusesCreate (r : Reference) (m : Mapping) (ns : Option String) (object : Json) : Prop :=
  r.createFailures m.kind ≠ none ∨ r.contents ⟨m.kind, ns, objectName object⟩ ≠ none

def RefusesDelete (r : Reference) (m : Mapping) (ns : Option String) (name : String) : Prop :=
  r.deleteFailures m.kind ≠ none ∨ r.contents ⟨m.kind, ns, name⟩ = none

instance (r : Reference) (m : Mapping) (ns : Option String) (object : Json) :
    Decidable (r.RefusesCreate m ns object) := inferInstanceAs (Decidable (_ ∨ _))

instance (r : Reference) (m : Mapping) (ns : Option String) (name : String) :
    Decidable (r.RefusesDelete m ns name) := inferInstanceAs (Decidable (_ ∨ _))

def put (r : Reference) (key : ObjectKey) (object : Option Json) : Reference :=
  { r with contents := Function.update r.contents key object }

theorem contents_put (r : Reference) (key key' : ObjectKey) (object : Option Json) :
    (r.put key object).contents key' = if key' = key then object else r.contents key' :=
  Function.update_apply r.contents key object key'

def setUp (r : Reference) (s : Setup) : Reference :=
  let scripted := { r with script := fun call => (s.script? call).getD (r.script call) }
  match s with
  | .insertObject kind ns object => scripted.put ⟨kind, ns, objectName object⟩ (some object)
  | .failCreate kind e =>
    { scripted with createFailures := Function.update r.createFailures kind (some e) }
  | .failDelete kind e =>
    { scripted with deleteFailures := Function.update r.deleteFailures kind (some e) }
  | _ => scripted

/-- Only creating and deleting change the store. -/
def perform (r : Reference) : Call → Reference
  | .create m ns object =>
    if r.RefusesCreate m ns object then r else r.put ⟨m.kind, ns, objectName object⟩ (some object)
  | .delete m ns name =>
    if r.RefusesDelete m ns name then r else r.put ⟨m.kind, ns, name⟩ none
  | _ => r

theorem perform_eq (r : Reference) (call : Call) :
    r.perform call = { r with contents := (r.perform call).contents } := by
  cases call <;> simp only [perform] <;> split <;> rfl

def step (r : Reference) : ScriptedCluster.Step → Reference
  | .setup s => r.setUp s
  | .call call => r.perform call

def after (steps : List ScriptedCluster.Step) : Reference := steps.foldl step empty

end Reference

namespace ScriptedCluster

variable {c : ScriptedCluster} {r : Reference}

structure Represents (c : ScriptedCluster) (r : Reference) : Prop where
  ascending : c.objects.Pairwise fun p q => p.1 < q.1
  contents : ∀ key, c.object? key = r.contents key
  createFailures : ∀ kind, Dict.find? c.createFailures kind = r.createFailures kind
  deleteFailures : ∀ kind, Dict.find? c.deleteFailures kind = r.deleteFailures kind
  unscripted : ∀ call, r.script call = [] → c.remaining call = []

theorem represents_empty : Represents initial Reference.empty where
  ascending := List.Pairwise.nil
  contents _ := rfl
  createFailures _ := rfl
  deleteFailures _ := rfl
  unscripted call _ := by cases call <;> rfl

/-! ## What is set up -/

theorem object?_insert {key : ObjectKey} {object : Json} (h : Represents c r) (key' : ObjectKey) :
    Dict.find? (Dict.insert c.objects key object) key' =
      (r.put key (some object)).contents key' := by
  rw [Reference.contents_put]
  by_cases same : key' = key
  · subst same
    rw [Dict.find?_insert_self, if_pos rfl]
  · rw [Dict.find?_insert_of_ne _ _ same, if_neg same]
    exact h.contents key'

theorem find?_set_update {d : List (String × ClusterError)} {f : String → Option ClusterError}
    (h : ∀ kind, Dict.find? d kind = f kind) (kind : String) (e : ClusterError) (kind' : String) :
    Dict.find? (set d kind e) kind' = Function.update f kind (some e) kind' := by
  rw [find?_set, Function.update_apply, h]

theorem Represents.apply (h : Represents c r) (s : Setup) : Represents (s.apply c) (r.setUp s) where
  ascending := by
    cases s with
    | insertObject kind ns object => exact ObjectKey.ascending_insert h.ascending _ _
    | _ => exact h.ascending
  contents key := by
    cases s with
    | insertObject kind ns object => exact object?_insert h key
    | _ => exact h.contents key
  createFailures kind := by
    cases s with
    | failCreate kind' e => exact find?_set_update h.createFailures kind' e kind
    | _ => exact h.createFailures kind
  deleteFailures kind := by
    cases s with
    | failDelete kind' e => exact find?_set_update h.deleteFailures kind' e kind
    | _ => exact h.deleteFailures kind
  unscripted call none := by
    have script : (r.setUp s).script call = (s.script? call).getD (r.script call) := by
      cases s <;> rfl
    rw [script] at none
    rw [remaining_apply]
    cases given : s.script? call with
    | none =>
      rw [given] at none
      exact h.unscripted call none
    | some script =>
      rw [given] at none
      exact none

/-! ## What is called -/

/-- An object is created unless the store refuses it. -/
theorem Represents.create_cases (h : Represents c r) (m : Mapping) (ns : Option String)
    (object : Json) :
    (r.RefusesCreate m ns object ∧ ∃ e, client.perform (.create m ns object) c =
      (.error e, c.record (.create m ns object))) ∨
    (¬ r.RefusesCreate m ns object ∧ client.perform (.create m ns object) c =
      (.ok (), { c.record (.create m ns object) with
        objects := Dict.insert c.objects ⟨m.kind, ns, objectName object⟩ object })) := by
  have performed : client.perform (.create m ns object) c =
    (c.record (.create m ns object)).create m ns object := rfl
  rw [performed, Reference.RefusesCreate, ← h.createFailures, ← h.contents]
  unfold create
  split
  · next e failing =>
    left
    exact ⟨.inl (ne_of_eq_of_ne failing (by simp)), e, rfl⟩
  · next none =>
    dsimp only
    split
    · next there =>
      left
      exact ⟨.inr (Option.isSome_iff_ne_none.mp there), _, rfl⟩
    · next free =>
      right
      refine ⟨?_, rfl⟩
      rintro (failing | there)
      · exact failing none
      · exact free (Option.isSome_iff_ne_none.mpr there)

/-- An object is deleted unless the store refuses it. -/
theorem Represents.delete_cases (h : Represents c r) (m : Mapping) (ns : Option String)
    (name : String) :
    (r.RefusesDelete m ns name ∧ ∃ e, client.perform (.delete m ns name) c =
      (.error e, c.record (.delete m ns name))) ∨
    (¬ r.RefusesDelete m ns name ∧ client.perform (.delete m ns name) c =
      (.ok (), { c.record (.delete m ns name) with
        objects := Dict.erase c.objects ⟨m.kind, ns, name⟩ })) := by
  rw [Reference.RefusesDelete, ← h.deleteFailures, ← h.contents]
  rcases ScriptedCluster.delete_cases c m ns name with
    ⟨e, failing, performed⟩ | ⟨free, there, performed⟩ | ⟨free, absent, performed⟩
  · left
    exact ⟨.inl (ne_of_eq_of_ne failing (by simp)), e, performed⟩
  · right
    refine ⟨?_, performed⟩
    rintro (failing | absent)
    · exact failing free
    · exact Option.isSome_iff_ne_none.mp there absent
  · left
    exact ⟨.inr (Option.not_isSome_iff_eq_none.mp (Bool.eq_false_iff.mp absent)), _, performed⟩

theorem Represents.objects_perform (h : Represents c r) (call : Call) :
    (client.perform call c).2.objects.Pairwise (fun p q => p.1 < q.1) ∧
      ∀ key, (client.perform call c).2.object? key = (r.perform call).contents key := by
  cases call with
  | create m ns object =>
    rw [Reference.perform]
    rcases h.create_cases m ns object with ⟨refused, e, performed⟩ | ⟨accepted, performed⟩
    · rw [performed, if_pos refused]
      exact ⟨h.ascending, h.contents⟩
    · rw [performed, if_neg accepted]
      exact ⟨ObjectKey.ascending_insert h.ascending _ _, object?_insert h⟩
  | delete m ns name =>
    rw [Reference.perform]
    rcases h.delete_cases m ns name with ⟨refused, e, performed⟩ | ⟨accepted, performed⟩
    · rw [performed, if_pos refused]
      exact ⟨h.ascending, h.contents⟩
    · rw [performed, if_neg accepted]
      refine ⟨h.ascending.filter _, fun key => ?_⟩
      rw [Reference.contents_put]
      by_cases same : key = ⟨m.kind, ns, name⟩
      · subst same
        rw [if_pos rfl]
        exact Dict.find?_erase_self _ _
      · rw [if_neg same, ← h.contents]
        exact Dict.find?_erase_of_ne _ same
  | _ =>
    refine ⟨?_, fun key => ?_⟩
    · rw [ScriptedCluster.objects_perform (by simp) (by simp)]
      exact h.ascending
    · rw [object?, ScriptedCluster.objects_perform (by simp) (by simp)]
      exact h.contents key

theorem Represents.perform (h : Represents c r) (call : Call) :
    Represents (client.perform call c).2 (r.perform call) where
  ascending := (h.objects_perform call).1
  contents := (h.objects_perform call).2
  createFailures kind := by
    rw [(sameSetup_perform call c).createFailures, Reference.perform_eq]
    exact h.createFailures kind
  deleteFailures kind := by
    rw [(sameSetup_perform call c).deleteFailures, Reference.perform_eq]
    exact h.deleteFailures kind
  unscripted other none := by
    rw [Reference.perform_eq] at none
    rw [remaining_perform, h.unscripted other none]
    exact ite_self _

theorem represents_run (steps : List Step) :
    Represents (initial.run steps) (Reference.after steps) := by
  -- from any cluster and the store that it represents, since every step moves both
  have all : ∀ (c : ScriptedCluster) (r : Reference), Represents c r →
      Represents (c.run steps) (steps.foldl Reference.step r) := by
    induction steps with
    | nil => exact fun _ _ h => h
    | cons step steps ih =>
      intro c r h
      cases step with
      | setup s => exact ih _ _ (h.apply s)
      | call call => exact ih _ _ (h.perform call)
  exact all initial Reference.empty represents_empty

/-! ## Answers -/

def Fails (call : Call) (c : ScriptedCluster) : Prop := ∃ e, (client.perform call c).1 = .error e

theorem fails_iff {call : Call} {refused : Prop}
    (h : (refused ∧ ∃ e c', client.perform call c = (.error e, c')) ∨
      (¬ refused ∧ ∃ v c', client.perform call c = (.ok v, c'))) : Fails call c ↔ refused := by
  rcases h with ⟨holds, e, c', performed⟩ | ⟨fails, v, c', performed⟩
  · exact iff_of_true ⟨e, by rw [performed]⟩ holds
  · refine iff_of_false ?_ fails
    rintro ⟨e, failed⟩
    rw [performed] at failed
    cases failed

theorem Represents.fails_create_iff (h : Represents c r) (m : Mapping) (ns : Option String)
    (object : Json) : Fails (.create m ns object) c ↔ r.RefusesCreate m ns object := by
  apply fails_iff
  rcases h.create_cases m ns object with ⟨refused, e, performed⟩ | ⟨accepted, performed⟩
  · exact .inl ⟨refused, e, _, performed⟩
  · exact .inr ⟨accepted, _, _, performed⟩

theorem Represents.fails_delete_iff (h : Represents c r) (m : Mapping) (ns : Option String)
    (name : String) : Fails (.delete m ns name) c ↔ r.RefusesDelete m ns name := by
  apply fails_iff
  rcases h.delete_cases m ns name with ⟨refused, e, performed⟩ | ⟨accepted, performed⟩
  · exact .inl ⟨refused, e, _, performed⟩
  · exact .inr ⟨accepted, _, _, performed⟩

theorem Represents.answer_get (h : Represents c r) {m : Mapping} {ns : Option String}
    {name : String} (unscripted : r.script (.get m ns name) = []) :
    (client.perform (.get m ns name) c).1 = match r.contents ⟨m.kind, ns, name⟩ with
      | some object => .ok object
      | none => .error (.notFound m.kind name) := by
  rw [ScriptedCluster.answer_get c (h.unscripted _ unscripted), storedObject, h.contents]
  cases r.contents ⟨m.kind, ns, name⟩ <;> rfl

/-- A listing that is not scripted is of all matching objects, in the order of their keys. -/
theorem Represents.answer_list (h : Represents c r) {m : Mapping} {ns : Option String}
    (unscripted : r.script (.list m ns) = []) : ∃ found : Dict ObjectKey Json,
    (client.perform (.list m ns) c).1 = .ok found.values ∧
      found.Pairwise (fun p q => p.1 < q.1) ∧
      ∀ key object, (key, object) ∈ found ↔ r.contents key = some object ∧
        key.kind = m.kind ∧ (ns = none ∨ key.namespaceName = ns) := by
  refine ⟨_, answer_list_stored c (h.unscripted _ unscripted), h.ascending.filter _, ?_⟩
  intro key object
  rw [List.mem_filter, ObjectKey.mem_iff_find? h.ascending, ← h.contents]
  simp [object?]

/-- A change that fails is written down and changes nothing else. -/
theorem perform_of_fails {call : Call} (change : call.changes) (h : Fails call c) :
    (client.perform call c).2 = c.record call := by
  obtain ⟨e, failed⟩ := h
  cases call with
  | create m ns object =>
    rcases create_cases m ns object c with ⟨_, performed⟩ | ⟨-, performed⟩
    · rw [performed]
    · rw [performed] at failed
      cases failed
  | delete m ns name =>
    rcases delete_cases c m ns name with ⟨_, -, performed⟩ | ⟨-, -, performed⟩ | ⟨-, -, performed⟩
    · rw [performed]
    · rw [performed] at failed
      cases failed
    · rw [performed]
  | deletePod ns name =>
    rcases deletePod_cases c ns name with ⟨-, performed⟩ | ⟨-, -, performed⟩ | ⟨-, -, performed⟩
    · rw [performed]
    · rw [performed]
    · rw [performed] at failed
      cases failed
  | setSchedulable node schedulable =>
    by_cases refused : c.refuses node schedulable
    · rw [switch_refused refused]
    · rw [switch_accepted refused] at failed
      cases failed
  | _ => cases change

/-- A deletion of a pod that succeeds takes away the pods of these names and no others. -/
theorem perform_deletePod {ns name : String}
    (h : (client.perform (.deletePod ns name) c).1 = .ok ()) :
    (client.perform (.deletePod ns name) c).2 = { c.record (.deletePod ns name) with
      pods := c.pods.filter fun p => ¬ (p.2.namespaceName = ns ∧ p.2.name = name) } := by
  rcases deletePod_cases c ns name with ⟨-, performed⟩ | ⟨-, -, performed⟩ | ⟨-, -, performed⟩
  · rw [performed] at h
    cases h
  · rw [performed] at h
    cases h
  · rw [performed]
    simp only [Pod.id, ne_eq, Prod.mk.injEq]

/-- The script was the last one to be set up for the call, and was read so often since. -/
def Scripted (steps : List Step) (call : Call) (script : Script (Except ClusterError call.Reply))
    (k : Nat) : Prop :=
  ∃ before s later, steps = before ++ .setup s :: later ∧ s.script? call = some script ∧
    (∀ s', .setup s' ∈ later → s'.script? call = none) ∧ reads call later = k

def Step.call? : Step → Option Call
  | .setup _ => none
  | .call made => some made

/-- After these steps the cluster answers as the store does. -/
structure Answers (steps : List Step) (c : ScriptedCluster) (r : Reference) : Prop where
  logged : c.calls = steps.filterMap Step.call?
  recorded : ∀ call, (client.perform call c).2.calls = c.calls ++ [call]
  failed : ∀ call, call.changes → Fails call c → (client.perform call c).2 = c.record call
  stored : ∀ key, c.object? key = r.contents key
  created : ∀ m ns object, Fails (.create m ns object) c ↔ r.RefusesCreate m ns object
  deleted : ∀ m ns name, Fails (.delete m ns name) c ↔ r.RefusesDelete m ns name
  got : ∀ m ns name, r.script (.get m ns name) = [] →
    (client.perform (.get m ns name) c).1 = match r.contents ⟨m.kind, ns, name⟩ with
      | some object => .ok object
      | none => .error (.notFound m.kind name)
  listed : ∀ m ns, r.script (.list m ns) = [] → ∃ found : Dict ObjectKey Json,
    (client.perform (.list m ns) c).1 = .ok found.values ∧
      found.Pairwise (fun p q => p.1 < q.1) ∧
      ∀ key object, (key, object) ∈ found ↔ r.contents key = some object ∧
        key.kind = m.kind ∧ (ns = none ∨ key.namespaceName = ns)
  podDeleted : ∀ ns name, (client.perform (.deletePod ns name) c).1 = .ok () →
    (client.perform (.deletePod ns name) c).2 = { c.record (.deletePod ns name) with
      pods := c.pods.filter fun p => ¬ (p.2.namespaceName = ns ∧ p.2.name = name) }
  scripted : ∀ call script k, script ≠ [] → Scripted steps call script k →
    script[min k (script.length - 1)]? = some (client.perform call c).1 ∧
      (client.perform call c).2.objects = c.objects

theorem calls_run (steps : List Step) : (initial.run steps).calls = steps.filterMap Step.call? := by
  have all : ∀ c : ScriptedCluster,
      (c.run steps).calls = c.calls ++ steps.filterMap Step.call? := by
    induction steps with
    | nil => exact fun c => (List.append_nil _).symm
    | cons step steps ih =>
      intro c
      have next : (c.run (step :: steps)).calls = ((c.step step).run steps).calls := rfl
      rw [next, ih]
      cases step with
      | setup s =>
        have kept : (c.step (.setup s)).calls = c.calls := by cases s <;> rfl
        rw [kept]
        rfl
      | call call =>
        rw [ScriptedCluster.step, calls_perform, List.append_assoc]
        rfl
  exact all initial

/-- Whatever was set up and called, the cluster answers as the store does. -/
theorem run_answers (steps : List Step) :
    Answers steps (initial.run steps) (Reference.after steps) := by
  have h := represents_run steps
  constructor
  case logged => exact calls_run steps
  case recorded => exact fun call => calls_perform call _
  case failed => exact fun call change fails => perform_of_fails change fails
  case stored => exact h.contents
  case created => exact h.fails_create_iff
  case deleted => exact h.fails_delete_iff
  case got => exact fun m ns name => h.answer_get
  case listed => exact fun m ns => h.answer_list
  case podDeleted => exact fun ns name => perform_deletePod
  case scripted =>
    rintro call script k filled ⟨before, s, later, rfl, set_up, unset, rfl⟩
    refine ⟨answer_run initial set_up filled unset, objects_perform ?_ ?_ _⟩
    -- no script is ever set up for a call that changes the store
    · rintro m ns object rfl
      cases s <;> cases set_up
    · rintro m ns name rfl
      cases s <;> cases set_up

/-- The last entry of a script stays. -/
example (e : ClusterError) :
    let pods : Mapping := ⟨"", "v1", "Pod", "pods", true⟩
    (client.perform (.get pods none "a") (initial.run
      [.setup (.scriptGet "Pod" "a" [.ok .null, .error e]), .call (.get pods (some "shop") "a"),
        .call (.get pods none "a")])).1 = .error e := by
  rfl

end ScriptedCluster
end Resilience
