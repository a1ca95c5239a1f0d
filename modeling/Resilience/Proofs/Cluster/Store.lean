import Resilience.Proofs.Cluster.Answer
/-! # The store of objects

Only creating and deleting change the store. What lies in it stays there until it is deleted, and
an object is stored under the kind that serves it.
-/
namespace Resilience.ScriptedCluster

/-- Kinds are served under their own names, which is how every kind is registered. -/
def OwnNames (c : ScriptedCluster) : Prop :=
  ∀ apiVersion kind m, Dict.find? c.kinds (apiVersion, kind) = some m →
    m.apiVersion = apiVersion ∧ m.kind = kind

theorem ownNames_registerKind {c : ScriptedCluster} (h : c.OwnNames) (m : Mapping) :
    (c.registerKind m).OwnNames := by
  intro apiVersion kind m' found
  by_cases same : (apiVersion, kind) = (m.apiVersion, m.kind)
  · simp only [registerKind, set, Dict.find?, if_pos same, Option.some.injEq] at found
    obtain ⟨rfl, rfl⟩ := Prod.mk.inj same
    exact found ▸ ⟨rfl, rfl⟩
  · simp only [registerKind, set, Dict.find?, if_neg same] at found
    rw [Dict.find?_erase_of_ne _ same] at found
    exact h apiVersion kind m' found

theorem ownNames_initial : initial.OwnNames := by
  have all : ∀ (ms : List Mapping) (c : ScriptedCluster), c.OwnNames →
      (ms.foldl registerKind c).OwnNames := by
    intro ms
    induction ms with
    | nil => exact fun _ h => h
    | cons m ms ih => exact fun c h => ih _ (ownNames_registerKind h m)
  apply all
  intro apiVersion kind m found
  cases found

variable {c c' : ScriptedCluster}

theorem SameSetup.ownNames (h : SameSetup c c') (own : c.OwnNames) : c'.OwnNames := by
  rw [OwnNames, h.kinds]
  exact own

theorem resolve_found {apiVersion kind : String} {m : Mapping}
    (h : (client.perform (.resolve apiVersion kind) c).1 = .ok m) :
    Dict.find? c.kinds (apiVersion, kind) = some m := by
  change (c.record _).resolve apiVersion kind = .ok m at h
  unfold resolve at h
  split at h
  · next found =>
    cases h
    exact found
  · cases h

theorem resolve_kind (own : c.OwnNames) {apiVersion kind : String} {m : Mapping}
    (h : (client.perform (.resolve apiVersion kind) c).1 = .ok m) : m.kind = kind :=
  (own apiVersion kind m (resolve_found h)).2

/-- Everything that lay in the store still lies there. -/
structure Grown (c c' : ScriptedCluster) : Prop where
  setup : SameSetup c c'
  kept : ∀ key object, c.object? key = some object → c'.object? key = some object

instance : IsPreorder ScriptedCluster Grown where
  refl c := ⟨refl c, fun _ _ h => h⟩
  trans _ _ _ h k := ⟨IsTrans.trans _ _ _ h.setup k.setup, fun key object found =>
    k.kept key object (h.kept key object found)⟩

theorem objects_perform {call : Call} (created : ∀ m ns object, call ≠ .create m ns object)
    (deleted : ∀ m ns name, call ≠ .delete m ns name) (c : ScriptedCluster) :
    (client.perform call c).2.objects = c.objects := by
  cases call with
  | create m ns object => exact absurd rfl (created m ns object)
  | delete m ns name => exact absurd rfl (deleted m ns name)
  | _ => simp only [client, record, answer, readReadiness, setSchedulable, deletePod, list,
      get] <;> (repeat' split) <;> rfl

section Create

variable (m : Mapping) (ns : Option String) (object : Json)

/-- An object is created only where there is none. -/
theorem create_cases (c : ScriptedCluster) :
    (∃ e, client.perform (.create m ns object) c = (.error e, c.record (.create m ns object))) ∨
    c.object? ⟨m.kind, ns, objectName object⟩ = none ∧
      client.perform (.create m ns object) c =
        (.ok (), { c.record (.create m ns object) with
          objects := Dict.insert c.objects ⟨m.kind, ns, objectName object⟩ object }) := by
  change (∃ e, (c.record _).create m ns object = _) ∨ _ ∧ (c.record _).create m ns object = _
  unfold create
  split
  · exact Or.inl ⟨_, rfl⟩
  · dsimp only
    split
    · exact Or.inl ⟨_, rfl⟩
    · next free =>
      refine Or.inr ⟨?_, rfl⟩
      simpa [Dict.contains, record, object?] using free

theorem grown_create (c : ScriptedCluster) :
    Grown c (client.perform (.create m ns object) c).2 := by
  refine ⟨sameSetup_perform _ c, fun key held found => ?_⟩
  rcases create_cases m ns object c with ⟨e, answered⟩ | ⟨free, answered⟩
  · rw [answered]
    exact found
  · rw [answered]
    have other : key ≠ ⟨m.kind, ns, objectName object⟩ := by
      intro same
      rw [same, free] at found
      cases found
    exact (Dict.find?_insert_of_ne _ _ other).trans found

theorem object?_create {c : ScriptedCluster}
    (h : (client.perform (.create m ns object) c).1 = .ok ()) :
    (client.perform (.create m ns object) c).2.object? ⟨m.kind, ns, objectName object⟩ =
      some object := by
  rcases create_cases m ns object c with ⟨e, answered⟩ | ⟨free, answered⟩
  · rw [answered] at h
    cases h
  · rw [answered]
    exact Dict.find?_insert_self _ _ _

end Create

theorem grown_perform {call : Call} (h : ∀ m ns name, call ≠ .delete m ns name)
    (c : ScriptedCluster) : Grown c (client.perform call c).2 := by
  cases call with
  | create m ns object => exact grown_create m ns object c
  | delete m ns name => exact absurd rfl (h m ns name)
  | _ =>
    refine ⟨sameSetup_perform _ c, fun key held found => ?_⟩
    rw [object?, objects_perform (by simp) (by simp)]
    exact found

section Delete

variable (c : ScriptedCluster) (m : Mapping) (ns : Option String) (name : String)

/-- A deletion fails as it was asked to, and otherwise takes out what there is. -/
theorem delete_cases :
    (∃ e, Dict.find? c.deleteFailures m.kind = some e ∧
      client.perform (.delete m ns name) c = (.error e, c.record (.delete m ns name))) ∨
    (Dict.find? c.deleteFailures m.kind = none ∧ Dict.contains c.objects ⟨m.kind, ns, name⟩ = true ∧
      client.perform (.delete m ns name) c = (.ok (), { c.record (.delete m ns name) with
        objects := Dict.erase c.objects ⟨m.kind, ns, name⟩ })) ∨
    (Dict.find? c.deleteFailures m.kind = none ∧
      Dict.contains c.objects ⟨m.kind, ns, name⟩ = false ∧
      client.perform (.delete m ns name) c =
        (.error (.notFound m.kind name), c.record (.delete m ns name))) := by
  have performed : client.perform (.delete m ns name) c =
    (c.record (.delete m ns name)).delete m ns name := rfl
  rw [performed]
  unfold delete
  split
  · next e failing =>
    left
    exact ⟨e, failing, rfl⟩
  · next none =>
    right
    dsimp only
    split
    · next there =>
      left
      exact ⟨none, there, rfl⟩
    · next absent =>
      right
      exact ⟨none, Bool.eq_false_iff.mpr absent, rfl⟩

theorem object?_delete_of_ne {key : ObjectKey} (other : key ≠ ⟨m.kind, ns, name⟩) :
    (client.perform (.delete m ns name) c).2.object? key = c.object? key := by
  rcases delete_cases c m ns name with ⟨e, -, performed⟩ | ⟨-, -, performed⟩ | ⟨-, -, performed⟩
  · rw [performed]
    rfl
  · rw [performed]
    exact Dict.find?_erase_of_ne _ other
  · rw [performed]
    rfl

end Delete

/-- A deletion that was not made to fail takes out the object of its key and no other. -/
theorem object?_delete (free : c.deleteFailures = []) (m : Mapping) (ns : Option String)
    (name : String) (key : ObjectKey) :
    (client.perform (.delete m ns name) c).2.object? key =
      if key = ⟨m.kind, ns, name⟩ then none else c.object? key := by
  by_cases same : key = ⟨m.kind, ns, name⟩
  · rw [if_pos same, same]
    rcases delete_cases c m ns name with
      ⟨e, failing, -⟩ | ⟨-, -, performed⟩ | ⟨-, absent, performed⟩
    · rw [free] at failing
      cases failing
    · rw [performed]
      exact Dict.find?_erase_self _ _
    · rw [performed]
      exact Option.not_isSome_iff_eq_none.mp (Bool.eq_false_iff.mp absent)
  · rw [if_neg same, object?_delete_of_ne c m ns name same]

end Resilience.ScriptedCluster
