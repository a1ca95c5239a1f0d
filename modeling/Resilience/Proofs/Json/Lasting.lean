import Resilience.Proofs.Json.Typed
import Resilience.Proofs.Json.Whole
/-! # Typed readings of values that were written

What a typed reading takes from a text it still takes when the value of the text has been written
again, and it takes the same if that value is whole. Repeated keys, records given as arrays and parts
that nobody keeps make no difference.
-/
namespace Resilience

section Lists

variable {α β γ : Type}

theorem mapM_eq_some_iff {f : α → Option β} {as : List α} {bs : List β} :
    as.mapM f = some bs ↔ List.Forall₂ (fun a b => f a = some b) as bs := by
  induction as generalizing bs with
  | nil => simp [List.forall₂_nil_left_iff, eq_comm]
  | cons a as ih =>
    rw [List.mapM_cons, List.forall₂_cons_left_iff]
    simp only [Option.bind_eq_bind, Option.bind_eq_some_iff, ih, Option.pure_def,
      Option.some.injEq]
    constructor
    · rintro ⟨b, first, bs', rest, rfl⟩
      exact ⟨b, bs', first, rest, rfl⟩
    · rintro ⟨b, bs', first, rest, rfl⟩
      exact ⟨b, first, bs', rest, rfl⟩

/-- Results that are found one by one are found together, and are what they have to be if every one
of them is. -/
theorem exists_mapM {f : α → Option β} {P : α → Prop} {as : List α} {bs : List β}
    (h : List.Forall₂ (fun a b => ∃ b', f a = some b' ∧ (P a → b' = b)) as bs) :
    ∃ bs', as.mapM f = some bs' ∧ ((∀ a ∈ as, P a) → bs' = bs) := by
  induction h with
  | nil => exact ⟨[], rfl, fun _ => rfl⟩
  | cons first _ ih =>
    obtain ⟨b, found, same⟩ := first
    obtain ⟨bs, all, others⟩ := ih
    refine ⟨b :: bs, ?_, fun holds => ?_⟩
    · rw [List.mapM_cons, found, all]
      rfl
    · rw [List.forall_mem_cons] at holds
      rw [same holds.1, others holds.2]

/-- Lists that are related to the same list are related to each other. -/
theorem forall₂_join {R : α → β → Prop} {S : α → γ → Prop} {as : List α} {bs : List β}
    {cs : List γ} (h : List.Forall₂ R as bs) (h' : List.Forall₂ S as cs) :
    List.Forall₂ (fun b c => ∃ a, R a b ∧ S a c) bs cs := by
  induction h generalizing cs with
  | nil =>
    cases h'
    exact .nil
  | cons first _ ih =>
    cases h' with
    | cons second rest => exact .cons ⟨_, first, second⟩ (ih rest)

end Lists

namespace Dict

variable {κ α β : Type} [DecidableEq κ] [LT κ] [DecidableLT κ] {R : α → β → Prop}

def Alike (R : α → β → Prop) : Dict κ α → Dict κ β → Prop :=
  List.Forall₂ fun p q => p.1 = q.1 ∧ R p.2 q.2

theorem Alike.insert {d : Dict κ α} {e : Dict κ β} {v : α} {w : β} (h : Alike R d e) (k : κ)
    (values : R v w) : Alike R (Dict.insert d k v) (Dict.insert e k w) := by
  induction h with
  | nil => exact .cons ⟨rfl, values⟩ .nil
  | @cons p q d e first rest ih =>
    obtain ⟨k', a⟩ := p
    obtain ⟨k'', b⟩ := q
    obtain ⟨rfl, related⟩ : k' = k'' ∧ R a b := first
    rw [Dict.insert, Dict.insert]
    split
    · exact .cons ⟨rfl, values⟩ rest
    · split
      · exact .cons ⟨rfl, values⟩ (.cons ⟨rfl, related⟩ rest)
      · exact .cons ⟨rfl, related⟩ ih

/-- Pairs of related values are gathered to related values. -/
theorem Alike.ofList {ps : Dict κ α} {qs : Dict κ β} (h : Alike R ps qs) :
    Alike R (Dict.ofList ps) (Dict.ofList qs) := by
  have step : ∀ (d : Dict κ α) (e : Dict κ β), Alike R d e →
      Alike R (ps.foldl (fun d p => Dict.insert d p.1 p.2) d)
        (qs.foldl (fun d p => Dict.insert d p.1 p.2) e) := by
    induction h with
    | nil => exact fun _ _ same => same
    | @cons p q ps qs first _ ih =>
      intro d e same
      rw [List.foldl_cons, List.foldl_cons, ← first.1]
      exact ih _ _ (same.insert p.1 first.2)
  exact step [] [] .nil

end Dict

namespace Json.Tree

variable {α β γ : Type}

/-- What is taken of a tree is still taken when its value is written again, and is the same if that
is whole. -/
def Lasting (read : Reading α) : Prop :=
  ∀ d t j a, Denotes t j → read d t = some a → ∃ b, read d j.tree = some b ∧ (j.Whole → b = a)

def LastingField (read : Nat → Option Tree → Option α) : Prop :=
  ∀ d f v a, Option.Rel Denotes f v → read d f = some a →
    ∃ b, read d (v.map tree) = some b ∧ ((∀ j, v = some j → j.Whole) → b = a)

namespace Lasting

variable {read : Reading α}

theorem text : Lasting text? := by
  rintro d t j s ⟨D, value⟩ found
  cases t with
  | null | bool | numeral | array | object => cases found
  | string s' =>
    obtain ⟨v, again, rfl⟩ := Option.map_eq_some_iff.mp value
    cases again.symm.trans found
    exact ⟨s, rfl, fun _ => rfl⟩

theorem value : Lasting fun d t => t.value? d := by
  rintro d t j i ⟨D, value⟩ found
  obtain rfl := value?_agree value found
  obtain ⟨proper, low⟩ := value?_spec found
  obtain ⟨b, again⟩ := Option.isSome_iff_exists.mp ((value?_tree proper).mpr low)
  exact ⟨b, again, fun whole => eq_of_value?_tree proper whole again⟩

theorem list (h : Lasting read) : Lasting (list? read) := by
  rintro d t j as ⟨D, value⟩ found
  match d, t, D with
  | 0, _, _ | _ + 1, .null, _ | _ + 1, .bool _, _ | _ + 1, .numeral _, _ | _ + 1, .string _, _
  | _ + 1, .object _, _ => cases found
  | _ + 1, .array _, 0 => cases value
  | d + 1, .array items, D + 1 =>
    obtain ⟨js, values, rfl⟩ := Option.map_eq_some_iff.mp value
    have each := forall₂_join (itemValues?_forall values) (mapM_eq_some_iff.mp found)
    obtain ⟨bs, again, same⟩ := exists_mapM (f := fun j => read d j.tree) (P := Whole)
      (each.imp fun j a ⟨t, value, taken⟩ => h d t j a ⟨D, value⟩ taken)
    refine ⟨bs, ?_, fun whole => same (Whole.array_iff.mp whole)⟩
    rwa [tree, list?, itemTrees_eq, mapM_eq_some_iff, List.forall₂_map_left_iff,
      ← mapM_eq_some_iff]

theorem dict (h : Lasting read) : Lasting (dict? read) := by
  rintro d t j as ⟨D, value⟩ found
  match d, t, D with
  | 0, _, _ | _ + 1, .null, _ | _ + 1, .bool _, _ | _ + 1, .numeral _, _ | _ + 1, .string _, _
  | _ + 1, .array _, _ => cases found
  | _ + 1, .object _, 0 => cases value
  | d + 1, .object members, D + 1 =>
    obtain ⟨ps, values, rfl⟩ := Option.map_eq_some_iff.mp value
    obtain ⟨ms, all, valued⟩ := valued_of_memberValues? values
    rw [dict?, all, Option.bind_eq_bind, Option.bind_some] at found
    obtain ⟨qs, taken, rest⟩ := Option.bind_eq_some_iff.mp found
    cases rest
    -- of a repeated key both sides keep what comes last
    have each : Dict.Alike (fun v a => ∃ t, Denotes t v ∧ read d t = some a) ps qs := by
      refine (forall₂_join valued (mapM_eq_some_iff.mp taken)).imp fun p q ⟨m, same, again⟩ => ?_
      obtain ⟨a, read, rfl⟩ := Option.map_eq_some_iff.mp again
      exact ⟨same.1.symm, m.2, ⟨D, same.2⟩, read⟩
    obtain ⟨rs, again, same⟩ := exists_mapM
      (f := fun p : String × Json => (read d p.2.tree).map fun a => (p.1, a))
      (P := fun p => p.2.Whole) (each.ofList.imp fun p q ⟨key, t, value, taken⟩ => by
        obtain ⟨b, again, same⟩ := h d t p.2 q.2 value taken
        refine ⟨(p.1, b), by rw [again]; rfl, fun whole => ?_⟩
        rw [key, same whole])
    refine ⟨Dict.ofList rs, ?_, fun whole => ?_⟩
    · have written : ((Dict.ofList ps).map fun m => (m.1, m.2.tree)).mapM
          (fun m => (read d m.2).map fun a => (m.1, a)) = some rs := by
        rwa [mapM_eq_some_iff, List.forall₂_map_left_iff, ← mapM_eq_some_iff]
      rw [tree, dict?, wholeMembers?_memberTrees, Option.bind_eq_bind, Option.bind_some, written]
      rfl
    · rw [same (Whole.object_iff.mp whole)]
      exact Dict.ofList_eq (Dict.ofList_ascending qs)

theorem nullable (h : Lasting read) : Lasting (nullable? read) := by
  rintro d t j a value found
  have other : ∀ v : Tree, v ≠ .null → nullable? read d v = (read d v).map some := by
    intro v hv
    cases v <;> first | rfl | exact absurd rfl hv
  by_cases null : t = .null
  · subst null
    obtain ⟨D, value⟩ := value
    cases value
    exact ⟨a, found, fun _ => rfl⟩
  · have still : j.tree ≠ .null := by
      intro same
      obtain rfl : j = .null := by cases j <;> first | rfl | cases same
      exact null (eq_null_of_value? value.choose_spec)
    rw [other t null] at found
    obtain ⟨a, taken, rfl⟩ := Option.map_eq_some_iff.mp found
    obtain ⟨b, again, same⟩ := h d t j a value taken
    refine ⟨some b, by rw [other _ still, again]; rfl, fun whole => ?_⟩
    rw [same whole]

theorem defaulted (h : Lasting read) (default : α) :
    LastingField (Tree.defaulted default read) := by
  intro d f v a field found
  cases field with
  | none => exact ⟨a, found, fun _ => rfl⟩
  | some value =>
    obtain ⟨b, again, same⟩ := h d _ _ a value found
    exact ⟨b, again, fun whole => same (whole _ rfl)⟩

theorem required (h : Lasting read) : LastingField fun d f => f.bind (read d) := by
  intro d f v a field found
  cases field with
  | none => cases found
  | some value =>
    obtain ⟨b, again, same⟩ := h d _ _ a value found
    exact ⟨b, again, fun whole => same (whole _ rfl)⟩

theorem single (name : String) {field : Nat → Option Tree → Option α} (h : LastingField field)
    (shape : ∀ d t, read d t = (t.fields? [name] d).bind fun r =>
      match r with | (e, [f]) => field e f | _ => none) : Lasting read := by
  intro d t j a value taken
  rw [shape] at taken
  obtain ⟨⟨e, fs⟩, fields, found⟩ := Option.bind_eq_some_iff.mp taken
  clear taken
  obtain ⟨rfl, vs, given, each⟩ := fields?_value value fields
  rw [shape, fields?_tree value.proper given]
  match each, found with
  | .cons (b := v) first .nil, found =>
    obtain ⟨b, again, same⟩ := h e _ v a first found
    exact ⟨b, again, fun whole => same (Whole.inherited.fields? whole given v (by simp))⟩

theorem record (name name' : String) {field : Nat → Option Tree → Option β}
    {field' : Nat → Option Tree → Option γ} (h : LastingField field) (h' : LastingField field')
    (make : β → γ → α) (shape : ∀ d t, read d t = (t.fields? [name, name'] d).bind fun r =>
      match r with
      | (e, [f, g]) => (field e f).bind fun b => (field' e g).bind fun c => some (make b c)
      | _ => none) : Lasting read := by
  intro d t j a value taken
  rw [shape] at taken
  obtain ⟨⟨e, fs⟩, fields, found⟩ := Option.bind_eq_some_iff.mp taken
  clear taken
  obtain ⟨rfl, vs, given, each⟩ := fields?_value value fields
  rw [shape, fields?_tree value.proper given]
  match each, found with
  | .cons (b := v) first (.cons (b := w) second .nil), found =>
    obtain ⟨b, some_b, found⟩ := Option.bind_eq_some_iff.mp found
    obtain ⟨c, some_c, made⟩ := Option.bind_eq_some_iff.mp found
    cases made
    obtain ⟨b', again, same⟩ := h e _ v b first some_b
    obtain ⟨c', again', same'⟩ := h' e _ w c second some_c
    refine ⟨make b' c', by simp [again, again'], fun whole => ?_⟩
    have parts := Whole.inherited.fields? whole given
    rw [same (parts v (by simp)), same' (parts w (by simp))]

theorem wrapper (h : Lasting read) {name : String} {default : α} :
    Lasting (wrapper? name default read) :=
  single name (h.defaulted default) fun _ _ => rfl

end Lasting
end Json.Tree
end Resilience
