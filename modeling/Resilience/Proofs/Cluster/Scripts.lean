import Resilience.Cluster.Setup
import Resilience.Proofs.Cluster.Listing
/-! # Scripts that are read

Readings of counters, listings and readings of objects may follow scripts, each kept under a key of
its own. A script goes on by one entry whenever it is read. Nothing else but a new script moves it.
-/
namespace Resilience

def Call.sharesScript : Call → Call → Bool
  | .readiness w, .readiness w' => w = w'
  | .list m _, .list m' _ => m.kind = m'.kind
  | .get m _ name, .get m' _ name' => m.kind = m'.kind ∧ name = name'
  | _, _ => false

def Setup.script? (s : Setup) : (call : Call) → Option (Script (Except ClusterError call.Reply))
  | .readiness w =>
    match s with
    | .addWorkload w' r _ => if w = w' then some [.ok r] else none
    | .scriptReadiness w' script => if w = w' then some script else none
    | _ => none
  | .list m _ =>
    match s with
    | .scriptList kind script => if m.kind = kind then some script else none
    | _ => none
  | .get m _ name =>
    match s with
    | .scriptGet kind name' script => if (m.kind, name) = (kind, name') then some script else none
    | _ => none
  | .workloadPods _ | .podLabels _ | .nodePods _ | .setSchedulable _ _ | .deletePod _ _
  | .resolve _ _ | .create _ _ _ | .delete _ _ _ => none

theorem Script.next?_after {α : Type} (s : Script α) (k : Nat) :
    (s.after k).next? = s[min k (s.length - 1)]? := by
  induction k generalizing s with
  | zero => exact next?_eq s
  | succ k ih => rw [after, ih, getElem?_rest]

namespace ScriptedCluster

theorem find?_set {κ α : Type} [DecidableEq κ] (d : List (κ × α)) (k k' : κ) (a : α) :
    Dict.find? (set d k a) k' = if k' = k then some a else Dict.find? d k' := by
  rw [set, Dict.find?]
  split
  · rfl
  · next other => exact Dict.find?_erase_of_ne d other

def remaining (c : ScriptedCluster) : (call : Call) → Script (Except ClusterError call.Reply)
  | .readiness w => (Dict.find? c.readiness w).getD []
  | .list m _ => (Dict.find? c.listScripts m.kind).getD []
  | .get m _ name => (Dict.find? c.getScripts (m.kind, name)).getD []
  | .workloadPods _ | .podLabels _ | .nodePods _ | .setSchedulable _ _ | .deletePod _ _
  | .resolve _ _ | .create _ _ _ | .delete _ _ _ => []

variable (c : ScriptedCluster)

theorem remaining_apply (s : Setup) (call : Call) :
    (s.apply c).remaining call = (s.script? call).getD (c.remaining call) := by
  cases call with
  | readiness w =>
    cases s with
    | addWorkload w' r labels =>
      simp only [Setup.apply, addWorkload, scriptReadiness, remaining, Setup.script?, find?_set]
      split <;> rfl
    | scriptReadiness w' script =>
      simp only [Setup.apply, scriptReadiness, remaining, Setup.script?, find?_set]
      split <;> rfl
    | _ => rfl
  | list m ns =>
    cases s with
    | scriptList kind script =>
      simp only [Setup.apply, remaining, Setup.script?, find?_set]
      split <;> rfl
    | _ => rfl
  | get m ns name =>
    cases s with
    | scriptGet kind name' script =>
      simp only [Setup.apply, remaining, Setup.script?, find?_set]
      split <;> rfl
    | _ => rfl
  | _ => cases s <;> rfl

def storedObject (key : ObjectKey) : Except ClusterError Json :=
  match c.object? key with
  | some object => .ok object
  | none => .error (.notFound key.kind key.name)

/-- A reading of an object is answered by its script, which goes on by one, or from the store. -/
theorem get_cases (m : Mapping) (ns : Option String) (name : String) :
    (∃ s answer, Dict.find? c.getScripts (m.kind, name) = some s ∧ s.next? = some answer ∧
      client.perform (.get m ns name) c = (answer, { c.record (.get m ns name) with
        getScripts := set c.getScripts (m.kind, name) s.rest })) ∨
    ((Dict.find? c.getScripts (m.kind, name)).bind Script.next? = none ∧
      client.perform (.get m ns name) c =
        (c.storedObject ⟨m.kind, ns, name⟩, c.record (.get m ns name))) := by
  have performed : client.perform (.get m ns name) c =
    (c.record (.get m ns name)).get m ns name := rfl
  rw [performed]
  unfold get
  rcases Script.lookup_cases (c.record (.get m ns name)).getScripts (m.kind, name) with
    ⟨s, answer, scripted, next, looked⟩ | ⟨none, looked⟩
  · left
    rw [looked]
    exact ⟨s, answer, scripted, next, rfl⟩
  · right
    rw [looked]
    refine ⟨none, ?_⟩
    have same : (c.record (.get m ns name)).object? ⟨m.kind, ns, name⟩ =
      c.object? ⟨m.kind, ns, name⟩ := rfl
    rw [storedObject, same]
    cases c.object? ⟨m.kind, ns, name⟩ <;> rfl

theorem getD_eq_nil {α : Type} {s : Option (Script α)} (h : s.bind Script.next? = none) :
    s.getD [] = [] := by
  cases s with
  | none => rfl
  | some s => exact (Script.next?_eq_none_iff s).mp h

/-- A script that is kept is read by the first of its entries that are left. -/
theorem answer_remaining {call : Call} {a : Except ClusterError call.Reply}
    (h : (c.remaining call).next? = some a) : (client.perform call c).1 = a := by
  cases call with
  | readiness w =>
    rcases readiness_cases c w with ⟨absent, performed⟩ | ⟨s, found, performed⟩
    · rw [remaining, absent] at h
      cases h
    · rw [remaining, found, Option.getD_some] at h
      rw [performed]
      exact congrArg (fun next => next.getD (.error (missingWorkload w))) h
  | list m ns =>
    rcases list_cases c m ns with ⟨s, answer, found, next, performed⟩ | ⟨none, performed⟩
    · rw [remaining, found, Option.getD_some] at h
      rw [performed]
      exact Option.some.inj (next.symm.trans h)
    · rw [remaining, getD_eq_nil none] at h
      cases h
  | get m ns name =>
    rcases get_cases c m ns name with ⟨s, answer, found, next, performed⟩ | ⟨none, performed⟩
    · rw [remaining, found, Option.getD_some] at h
      rw [performed]
      exact Option.some.inj (next.symm.trans h)
    · rw [remaining, getD_eq_nil none] at h
      cases h
  | _ => cases h

/-- A reading that is not scripted is answered from the store. -/
theorem answer_get {m : Mapping} {ns : Option String} {name : String}
    (h : c.remaining (.get m ns name) = []) :
    (client.perform (.get m ns name) c).1 = c.storedObject ⟨m.kind, ns, name⟩ := by
  rcases get_cases c m ns name with ⟨s, answer, found, next, -⟩ | ⟨-, performed⟩
  · rw [remaining, found, Option.getD_some] at h
    rw [h] at next
    cases next
  · rw [performed]

theorem answer_list_stored {m : Mapping} {ns : Option String} (h : c.remaining (.list m ns) = []) :
    (client.perform (.list m ns) c).1 = .ok (c.storedObjects m.kind ns) := by
  rcases list_cases c m ns with ⟨s, answer, found, next, -⟩ | ⟨-, performed⟩
  · rw [remaining, found, Option.getD_some] at h
    rw [h] at next
    cases next
  · rw [performed]

/-- Calls that follow no script leave all of them as they are. -/
theorem scripts_perform {call : Call} (readiness : ∀ w, call ≠ .readiness w)
    (list : ∀ m ns, call ≠ .list m ns) (get : ∀ m ns name, call ≠ .get m ns name) :
    (client.perform call c).2.remaining = c.remaining := by
  funext other
  cases call with
  | readiness w => exact absurd rfl (readiness w)
  | list m ns => exact absurd rfl (list m ns)
  | get m ns name => exact absurd rfl (get m ns name)
  | _ =>
    simp only [client, record, answer, setSchedulable, deletePod, create, delete]
    (repeat' split) <;> cases other <;> rfl

/-- What is left of a script once it has been read, if it is kept, is put back in its place. -/
theorem getD_find?_set {κ α : Type} [DecidableEq κ] {d : List (κ × Script α)} {k : κ}
    {s : Script α} (found : Dict.find? d k = some s) (k' : κ) :
    (Dict.find? (set d k s.rest) k').getD [] =
      if k = k' then ((Dict.find? d k').getD []).rest else (Dict.find? d k').getD [] := by
  rw [find?_set]
  by_cases same : k = k'
  · subst same
    rw [if_pos rfl, if_pos rfl, found]
    rfl
  · rw [if_neg (Ne.symm same), if_neg same]

theorem getD_find?_of_none {κ α : Type} [DecidableEq κ] {d : List (κ × Script α)} {k : κ}
    (none : (Dict.find? d k).bind Script.next? = none) (k' : κ) :
    (Dict.find? d k').getD [] =
      if k = k' then ((Dict.find? d k').getD []).rest else (Dict.find? d k').getD [] := by
  split
  · next same =>
    subst same
    rw [getD_eq_nil none]
    rfl
  · rfl

/-- A call takes one entry from the script that it reads, and from no other. -/
theorem remaining_perform (call other : Call) : (client.perform call c).2.remaining other =
    if call.sharesScript other then (c.remaining other).rest else c.remaining other := by
  cases call with
  | readiness w =>
    cases other with
    | readiness w' =>
      simp only [Call.sharesScript, decide_eq_true_eq]
      rcases readiness_cases c w with ⟨absent, performed⟩ | ⟨s, found, performed⟩
      · have none : (Dict.find? c.readiness w).bind Script.next? = none := by
          rw [absent]
          rfl
        rw [performed]
        exact getD_find?_of_none none w'
      · rw [performed]
        exact getD_find?_set found w'
    | _ =>
      rcases readiness_cases c w with ⟨-, performed⟩ | ⟨_, -, performed⟩ <;>
        rw [performed] <;> rfl
  | list m ns =>
    cases other with
    | list m' ns' =>
      simp only [Call.sharesScript, decide_eq_true_eq]
      rcases list_cases c m ns with ⟨s, answer, found, -, performed⟩ | ⟨none, performed⟩
      · rw [performed]
        exact getD_find?_set found m'.kind
      · rw [performed]
        exact getD_find?_of_none none m'.kind
    | _ =>
      rcases list_cases c m ns with ⟨_, _, -, -, performed⟩ | ⟨-, performed⟩ <;>
        rw [performed] <;> rfl
  | get m ns name =>
    cases other with
    | get m' ns' name' =>
      simp only [Call.sharesScript, decide_eq_true_eq, ← Prod.mk.injEq]
      rcases get_cases c m ns name with ⟨s, answer, found, -, performed⟩ | ⟨none, performed⟩
      · rw [performed]
        exact getD_find?_set found (m'.kind, name')
      · rw [performed]
        exact getD_find?_of_none none (m'.kind, name')
    | _ =>
      rcases get_cases c m ns name with ⟨_, _, -, -, performed⟩ | ⟨-, performed⟩ <;>
        rw [performed] <;> rfl
  | _ =>
    rw [scripts_perform c (by simp) (by simp) (by simp)]
    rfl

def reads (call : Call) : List Step → Nat
  | [] => 0
  | .setup _ :: steps => reads call steps
  | .call other :: steps =>
    if other.sharesScript call then reads call steps + 1 else reads call steps

/-- While no script is set up for a call, its script goes on by one entry a reading. -/
theorem remaining_run {call : Call} {steps : List Step}
    (unset : ∀ s, .setup s ∈ steps → s.script? call = none) :
    (c.run steps).remaining call = (c.remaining call).after (reads call steps) := by
  induction steps generalizing c with
  | nil => rfl
  | cons step steps ih =>
    have later : ∀ s, .setup s ∈ steps → s.script? call = none :=
      fun s hs => unset s (List.mem_cons_of_mem _ hs)
    have next : (c.run (step :: steps)).remaining call = ((c.step step).run steps).remaining call :=
      rfl
    rw [next, ih _ later]
    cases step with
    | setup s =>
      have kept : (c.step (.setup s)).remaining call = c.remaining call := by
        rw [ScriptedCluster.step, remaining_apply, unset s List.mem_cons_self, Option.getD_none]
      rw [kept, reads]
    | call other =>
      rw [ScriptedCluster.step, remaining_perform, reads]
      by_cases shared : other.sharesScript call
      · rw [if_pos shared, if_pos shared, Script.after]
      · rw [if_neg shared, if_neg shared]

/-- A script that was set up is read entry by entry, the last one forever. -/
theorem answer_run {before later : List Step} {s : Setup} {call : Call}
    {script : Script (Except ClusterError call.Reply)} (set_up : s.script? call = some script)
    (filled : script ≠ []) (unset : ∀ s', .setup s' ∈ later → s'.script? call = none) :
    script[min (reads call later) (script.length - 1)]? =
      some (client.perform call (c.run (before ++ .setup s :: later))).1 := by
  have place : min (reads call later) (script.length - 1) < script.length := by
    have := List.length_pos_of_ne_nil filled
    omega
  have left : (c.run (before ++ .setup s :: later)).remaining call =
      script.after (reads call later) := by
    have split : c.run (before ++ .setup s :: later) = (s.apply (c.run before)).run later := by
      rw [run, List.foldl_append, List.foldl_cons]
      rfl
    rw [split, remaining_run _ unset, remaining_apply, set_up, Option.getD_some]
  have next : ((c.run (before ++ .setup s :: later)).remaining call).next? =
      some script[min (reads call later) (script.length - 1)] := by
    rw [left, Script.next?_after, List.getElem?_eq_getElem place]
  rw [List.getElem?_eq_getElem place, answer_remaining _ next]

end ScriptedCluster
end Resilience
