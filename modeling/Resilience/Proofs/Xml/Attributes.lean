import Resilience.Proofs.Except
import Resilience.Xml.Element
/-! # Attributes of parsed documents

A tag that gives one key twice is refused, so no element of a document that was parsed has two
attributes of one key.
-/
namespace Resilience.Xml

def Keyed (attributes : Attributes) : Prop := (attributes.map Prod.fst).Nodup

/-- A key that was seen before is not taken again. -/
theorem attributesFrom?_keyed {fuel : Nat} {seen : List String} {cs : List Char}
    {attributes : Attributes} (h : attributesFrom? fuel seen cs = some attributes) :
    Keyed attributes ∧ ∀ key ∈ seen, key ∉ attributes.map Prod.fst := by
  induction fuel generalizing seen cs attributes with
  | zero => cases h
  | succ fuel ih =>
    rw [attributesFrom?] at h
    split at h
    · cases h
      exact ⟨List.nodup_nil, fun _ _ => List.not_mem_nil⟩
    · dsimp only at h
      split at h
      · split at h
        · cases h
        -- only a key that was not seen goes on, and the rest is read as having seen it too
        · next new =>
          split at h
          · split at h
            · split at h
              · simp only [bind, Option.bind_eq_some_iff, pure] at h
                obtain ⟨value, -, more, later, same⟩ := h
                cases same
                obtain ⟨keyed, others⟩ := ih later
                refine ⟨List.nodup_cons.mpr ⟨others _ List.mem_cons_self, keyed⟩, ?_⟩
                intro key mem
                rw [List.map_cons, List.mem_cons, not_or]
                refine ⟨?_, others key (List.mem_cons_of_mem _ mem)⟩
                rintro rfl
                exact new mem
              · cases h
            · cases h
          · cases h
      · cases h

theorem tag?_keyed {body : List Char} {name : String} {attributes : Attributes}
    (h : tag? body = some (name, attributes)) : Keyed attributes := by
  rw [tag?, Option.map_eq_some_iff] at h
  obtain ⟨_, read, same⟩ := h
  cases same
  exact (attributesFrom?_keyed read).1

/-! ## Events -/

def Event.Keyed : Event → Prop
  | .opened _ attributes | .leaf _ attributes => Xml.Keyed attributes
  | _ => True

theorem openEvent_keyed (body : List Char) : (openEvent body).Keyed := by
  rw [openEvent]
  split
  · cases read : tag? body.dropLast with
    | none => trivial
    | some p => exact tag?_keyed read
  · cases read : tag? body with
    | none => trivial
    | some p => exact tag?_keyed read

theorem declaration?_keyed {cs rest : List Char} {e : Event}
    (h : declaration? cs = some (e, rest)) : e.Keyed := by
  unfold declaration? at h
  split at h
  · rw [Option.map_eq_some_iff] at h
    obtain ⟨_, -, same⟩ := h
    cases same
    trivial
  · simp only [bind, Option.bind_eq_some_iff, pure] at h
    obtain ⟨_, -, _, -, same⟩ := h
    cases same
    trivial
  · simp only [bind, Option.bind_eq_some_iff, pure] at h
    obtain ⟨_, -, _, -, same⟩ := h
    split at same
    · cases same
    · cases same
      trivial

theorem markup?_keyed {cs rest : List Char} {e : Event} (h : markup? cs = some (e, rest)) :
    e.Keyed := by
  unfold markup? at h
  split at h
  · cases h
  · exact declaration?_keyed h
  · rw [instruction?, Option.map_eq_some_iff] at h
    obtain ⟨_, -, same⟩ := h
    cases same
    trivial
  · rw [Option.map_eq_some_iff] at h
    obtain ⟨_, -, same⟩ := h
    cases same
    trivial
  · rw [Option.map_eq_some_iff] at h
    obtain ⟨_, -, same⟩ := h
    cases same
    exact openEvent_keyed _

theorem eventsFrom_keyed (fuel : Nat) (cs : List Char) : ∀ e ∈ eventsFrom fuel cs, e.Keyed := by
  induction fuel generalizing cs with
  | zero => simp [eventsFrom]
  | succ fuel ih =>
    unfold eventsFrom
    split
    · simp
    · split
      · intro e he
        rw [List.mem_singleton.mp he]
        trivial
      · next found =>
        intro e he
        rcases List.mem_cons.mp he with rfl | he
        · exact markup?_keyed found
        · exact ih _ e he
    · intro e he
      rcases List.mem_cons.mp he with rfl | he
      · trivial
      · exact ih _ e he

/-! ## Trees -/

inductive Element.Has : Element → Element → Prop
  | self (e : Element) : Has e e
  | child {e c x : Element} (h : c ∈ e.children) (below : Has c x) : Has e x

def Element.Keyed (e : Element) : Prop := ∀ x, e.Has x → Xml.Keyed x.attributes

theorem Element.Keyed.mk {e : Element} (own : Xml.Keyed e.attributes)
    (children : ∀ c ∈ e.children, c.Keyed) : e.Keyed := by
  rintro x (_ | ⟨h, below⟩)
  · exact own
  · exact children _ h x below

theorem Element.Keyed.child {e c : Element} (h : e.Keyed) (hc : c ∈ e.children) : c.Keyed :=
  fun x below => h x (.child hc below)

def OpenElement.Keyed (o : OpenElement) : Prop :=
  Xml.Keyed o.attributes ∧ ∀ c ∈ o.children, c.Keyed

theorem OpenElement.Keyed.close {o : OpenElement} (h : o.Keyed) : o.close.Keyed :=
  .mk h.1 fun c hc => h.2 c (List.mem_reverse.mp hc)

namespace TreeState

structure Keyed (t : TreeState) : Prop where
  stack : ∀ o ∈ t.stack, o.Keyed
  root : ∀ e ∈ t.root, e.Keyed

variable {t t' : TreeState} {e : Element} {event : Event}

theorem Keyed.attach (h : t.Keyed) (he : e.Keyed) (attached : t.attach e = .ok t') : t'.Keyed := by
  unfold TreeState.attach at attached
  split at attached
  · next top rest stack =>
    cases attached
    obtain ⟨own, others⟩ := List.forall_mem_cons.mp (stack ▸ h.stack)
    exact ⟨List.forall_mem_cons.mpr ⟨⟨own.1, List.forall_mem_cons.mpr ⟨he, own.2⟩⟩, others⟩, h.root⟩
  · split at attached
    · cases attached
    · cases attached
      exact ⟨h.stack, by rintro _ ⟨⟩; exact he⟩

/-- Every event keeps the keys of what is built different. -/
theorem Keyed.step (h : t.Keyed) (he : event.Keyed) (stepped : t.step event = .ok t') : t'.Keyed := by
  cases event with
  | opened name attributes =>
    cases stepped
    exact ⟨List.forall_mem_cons.mpr ⟨⟨he, by simp⟩, h.stack⟩, h.root⟩
  | leaf name attributes =>
    have keyed : (Element.mk name attributes [] "").Keyed := .mk he (by simp [Element.children])
    exact h.attach keyed stepped
  | closed name =>
    simp only [TreeState.step] at stepped
    split at stepped
    · cases stepped
    · next top rest stack =>
      obtain ⟨own, others⟩ := List.forall_mem_cons.mp (stack ▸ h.stack)
      split at stepped
      · have popped : TreeState.Keyed { t with stack := rest } := ⟨others, h.root⟩
        exact popped.attach own.close stepped
      · cases stepped
  | text content =>
    simp only [TreeState.step] at stepped
    split at stepped
    · cases stepped
      exact h
    · next top rest stack =>
      obtain ⟨own, others⟩ := List.forall_mem_cons.mp (stack ▸ h.stack)
      split at stepped
      · cases stepped
      · cases stepped
        exact ⟨List.forall_mem_cons.mpr ⟨own, others⟩, h.root⟩
  | aside =>
    cases stepped
    exact h
  | malformed => cases stepped

theorem Keyed.run {es : List Event} (h : t.Keyed) (hes : ∀ e ∈ es, e.Keyed)
    (built : es.foldlM TreeState.step t = .ok t') : t'.Keyed :=
  foldlM_preserves (fun _ _ event inside h stepped => h.step (hes event inside) stepped) h built

end TreeState

theorem Element.parse_keyed {s : String} {e : Element} (h : Element.parse s = .ok e) : e.Keyed := by
  rw [Element.parse, Element.ofEvents] at h
  cases built : (events s).foldlM TreeState.step {} with
  | error e =>
    rw [built] at h
    cases h
  | ok t =>
    rw [built] at h
    have keyed : t.Keyed := TreeState.Keyed.run ⟨by simp, by simp⟩ (eventsFrom_keyed _ _) built
    change t.finish = .ok e at h
    unfold TreeState.finish at h
    split at h
    · cases h
    · cases h
    · next root =>
      cases h
      exact keyed.root e root

end Resilience.Xml
