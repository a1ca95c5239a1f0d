import Resilience.Xml.Record
/-! # Balanced documents

A sequence of events is a document if every element in it is closed and one of them stands at its
top. Which defect is found in any other one depends on what is complete first: a second element at
the top is found as soon as it ends, whatever is still to come.
-/
namespace Resilience.Xml

/-! ## Sequences of whole elements -/

/-- Events in which every element is closed, with the names of the elements at their top. -/
inductive Balanced : List String → List Event → Prop
  | nil : Balanced [] []
  | text (content : Option String) {tops : List String} {es : List Event}
      (rest : Balanced tops es) : Balanced tops (.text content :: es)
  | aside {tops : List String} {es : List Event} (rest : Balanced tops es) :
      Balanced tops (.aside :: es)
  | leaf (name : String) (attributes : Attributes) {tops : List String} {es : List Event}
      (rest : Balanced tops es) : Balanced (name :: tops) (.leaf name attributes :: es)
  | element (name : String) (attributes : Attributes) {inside tops : List String}
      {inner es : List Event} (body : Balanced inside inner) (rest : Balanced tops es) :
      Balanced (name :: tops) (.opened name attributes :: (inner ++ .closed name :: es))

/-- Events that end inside an element of this name: behind its start every element is closed. -/
def Inside (es : List Event) (name : String) : Prop :=
  ∃ before attributes inner tops, es = before ++ .opened name attributes :: inner ∧
    Balanced tops inner

def Outside (es : List Event) : Prop := ∃ tops, Balanced tops es

def SecondRoot (es : List Event) : Prop :=
  ∃ first rest tops, es = first ++ rest ∧ Balanced tops first ∧ 2 ≤ tops.length

/-- What a reader may go on with: it closes the innermost element that is open, and inside of
elements it resolves all references. -/
def Allowed (es : List Event) : Event → Prop
  | .closed name => Inside es name
  | .text none => Outside es
  | .malformed => False
  | _ => True

inductive Sound : List Event → Prop
  | nil : Sound []
  | snoc {es : List Event} {x : Event} (before : Sound es) (allowed : Allowed es x) :
      Sound (es ++ [x])

def Event.Begins : Event → Prop
  | .opened _ _ | .leaf _ _ => True
  | _ => False

def Event.IsContent : Event → Prop
  | .text _ | .aside => True
  | _ => False

def converted (es : List Event) : Except DocumentError Json :=
  (Element.ofEvents es).map fun e => .object [(e.name, e.toJson)]

theorem Balanced.append {a b : List String} {es fs : List Event} (h : Balanced a es)
    (k : Balanced b fs) : Balanced (a ++ b) (es ++ fs) := by
  induction h with
  | nil => exact k
  | text content _ ih => exact .text content ih
  | aside _ ih => exact .aside ih
  | leaf name attributes _ ih => exact .leaf name attributes ih
  | element name attributes body _ _ ih =>
    rw [List.cons_append, List.cons_append, List.append_assoc, List.cons_append]
    exact .element name attributes body ih

theorem Sound.of_prefix {es first : List Event} (h : Sound es) (part : first <+: es) :
    Sound first := by
  induction h with
  | nil =>
    rw [List.prefix_nil.mp part]
    exact .nil
  | snoc before allowed ih =>
    rcases List.prefix_concat_iff.mp part with rfl | part
    · exact .snoc before allowed
    · exact ih part

/-! ## What is open and what is complete -/

/-- The elements that are open, innermost first, and those that are complete at the top. -/
structure Nesting where
  names : List String := []
  tops : List String := []

namespace Nesting

variable (n : Nesting)

/-- Behind more whole elements, which are at the top if nothing is open. -/
def past (tops : List String) : Nesting :=
  match n.names with
  | [] => { n with tops := n.tops ++ tops }
  | _ :: _ => n

def step : Event → Nesting
  | .opened name _ => { n with names := name :: n.names }
  | .leaf name _ => n.past [name]
  | .closed name => { n with names := n.names.tail }.past [name]
  | _ => n

theorem past_nil : n.past [] = n := by
  obtain ⟨names, tops⟩ := n
  cases names with
  | nil => rw [past, List.append_nil]
  | cons => rfl

theorem past_past (a b : List String) : (n.past a).past b = n.past (a ++ b) := by
  obtain ⟨names, tops⟩ := n
  cases names with
  | nil => simp only [past, List.append_assoc]
  | cons => rfl

theorem tops_grow_step (x : Event) : n.tops <+: (n.step x).tops := by
  have grows : ∀ (m : Nesting) a, m.tops <+: (m.past a).tops := by
    rintro ⟨names, tops⟩ a
    cases names with
    | nil => exact List.prefix_append _ _
    | cons => exact List.prefix_rfl
  cases x with
  | leaf name => exact grows n [name]
  | closed name => exact grows { n with names := n.names.tail } [name]
  | _ => exact List.prefix_rfl

theorem tops_grow (es : List Event) : n.tops <+: (es.foldl step n).tops := by
  induction es generalizing n with
  | nil => exact List.prefix_rfl
  | cons x es ih => exact (n.tops_grow_step x).trans (ih (n.step x))

end Nesting

def nest (es : List Event) : Nesting := es.foldl Nesting.step {}

theorem nest_snoc (es : List Event) (x : Event) : nest (es ++ [x]) = (nest es).step x := by
  rw [nest, List.foldl_append]
  rfl

theorem Balanced.foldl {tops : List String} {es : List Event} (h : Balanced tops es)
    (n : Nesting) : es.foldl Nesting.step n = n.past tops := by
  induction h generalizing n with
  | nil => exact n.past_nil.symm
  | text _ _ ih | aside _ ih => exact ih n
  | leaf name _ _ ih =>
    rw [List.foldl_cons, ih]
    exact n.past_past [name] _
  | element name _ _ _ inner rest =>
    rw [List.foldl_cons, List.foldl_append, inner, List.foldl_cons, rest]
    exact n.past_past [name] _

/-- The events with these elements open and these complete at the top. -/
inductive Opens : Nesting → List Event → Prop
  | top {tops : List String} {es : List Event} (h : Balanced tops es) : Opens ⟨[], tops⟩ es
  | inside {names tops inner : List String} {before es : List Event} (name : String)
      (attributes : Attributes) (outer : Opens ⟨names, tops⟩ before) (h : Balanced inner es) :
      Opens ⟨name :: names, tops⟩ (before ++ .opened name attributes :: es)

namespace Opens

variable {n : Nesting} {es : List Event}

theorem append {tops : List String} {fs : List Event} (h : Opens n es) (more : Balanced tops fs) :
    Opens (n.past tops) (es ++ fs) := by
  cases h with
  | top h => exact .top (h.append more)
  | inside name attributes outer h =>
    rw [List.append_assoc, List.cons_append]
    exact .inside name attributes outer (h.append more)

theorem balanced (h : Opens n es) (closed : n.names = []) : Balanced n.tops es := by
  cases h with
  | top h => exact h
  | inside => cases closed

theorem secondRoot (h : Opens n es) (many : 2 ≤ n.tops.length) : SecondRoot es := by
  induction h with
  | @top tops es h => exact ⟨es, [], tops, (List.append_nil es).symm, h, many⟩
  | inside name attributes outer h ih =>
    obtain ⟨first, rest, tops, rfl, balanced, many⟩ := ih many
    exact ⟨first, _, tops, List.append_assoc .., balanced, many⟩

end Opens

theorem Inside.names {es : List Event} {name : String} (h : Inside es name) :
    ∃ names, (nest es).names = name :: names := by
  obtain ⟨before, attributes, inner, tops, rfl, balanced⟩ := h
  refine ⟨(nest before).names, ?_⟩
  rw [nest, List.foldl_append, List.foldl_cons, balanced.foldl]
  rfl

theorem Balanced.nest {tops : List String} {es : List Event} (h : Balanced tops es) :
    Xml.nest es = ⟨[], tops⟩ := h.foldl {}

theorem SecondRoot.many {es : List Event} (h : SecondRoot es) : 2 ≤ (nest es).tops.length := by
  obtain ⟨first, rest, tops, rfl, balanced, many⟩ := h
  have grows := (nest first).tops_grow rest
  rw [balanced.nest] at grows
  rw [nest, List.foldl_append]
  change 2 ≤ (rest.foldl Nesting.step (nest first)).tops.length
  rw [balanced.nest]
  exact Nat.le_trans many grows.length_le

def Nesting.Allows (n : Nesting) : Event → Prop
  | .closed name => ∃ names, n.names = name :: names
  | .text none => n.names = []
  | .malformed => False
  | _ => True

theorem Allowed.allows {es : List Event} {x : Event} (h : Allowed es x) : (nest es).Allows x := by
  cases x with
  | closed name => exact Inside.names h
  | text content =>
    cases content with
    | none =>
      obtain ⟨tops, balanced⟩ := h
      rw [balanced.nest]
      rfl
    | some s => trivial
  | malformed => exact h
  | opened | leaf | aside => trivial

theorem Opens.step {n : Nesting} {es : List Event} {x : Event} (h : Opens n es)
    (allowed : n.Allows x) : Opens (n.step x) (es ++ [x]) := by
  cases x with
  | opened name attributes => exact .inside name attributes h .nil
  | leaf name attributes => exact h.append (.leaf name attributes .nil)
  | closed name =>
    obtain ⟨names, opened⟩ := allowed
    cases h with
    | top => cases opened
    | inside name attributes outer h =>
      cases opened
      rw [List.append_assoc, List.cons_append]
      exact outer.append (.element name attributes h .nil)
  | text content =>
    have more := h.append (.text content .nil)
    rwa [n.past_nil] at more
  | aside =>
    have more := h.append (.aside .nil)
    rwa [n.past_nil] at more
  | malformed => exact allowed.elim

theorem Sound.opens {es : List Event} (h : Sound es) : Opens (nest es) es := by
  induction h with
  | nil => exact .top .nil
  | snoc before allowed ih =>
    rw [nest_snoc]
    exact ih.step allowed.allows

/-! ## The tree -/

structure Fits (n : Nesting) (t : TreeState) : Prop where
  names : t.stack.map OpenElement.name = n.names
  tops : (t.root.map Element.name).toList = n.tops

/-- A tree fits, or has broken off at its second root. -/
inductive Stands (n : Nesting) : Except DocumentError TreeState → Prop
  | standing {t : TreeState} (fits : Fits n t) : Stands n (.ok t)
  | second (many : 2 ≤ n.tops.length) : Stands n (.error .multipleRoots)

namespace Fits

variable {n : Nesting} {t : TreeState}

theorem attach (h : Fits n t) (e : Element) : Stands (n.past [e.name]) (t.attach e) := by
  obtain ⟨names, tops⟩ := n
  obtain ⟨stack, root⟩ := t
  obtain ⟨rfl, rfl⟩ := h
  cases stack with
  | cons top rest => exact .standing ⟨rfl, rfl⟩
  | nil =>
    cases root with
    | none => exact .standing ⟨rfl, rfl⟩
    | some r => exact .second (by simp [Nesting.past])

theorem step {x : Event} (h : Fits n t) (allowed : n.Allows x) :
    Stands (n.step x) (t.step x) := by
  cases x with
  | opened name attributes => exact .standing ⟨congrArg (name :: ·) h.names, h.tops⟩
  | leaf name attributes => exact h.attach (.mk name attributes [] "")
  | closed name =>
    obtain ⟨names, opened⟩ := allowed
    obtain ⟨top, rest, stack, same, others⟩ := List.map_eq_cons_iff.mp (h.names.trans opened)
    have below : Fits { n with names := n.names.tail } { t with stack := rest } := by
      refine ⟨?_, h.tops⟩
      rw [opened]
      exact others
    rw [TreeState.step, stack]
    dsimp only
    rw [if_pos same]
    subst same
    exact below.attach top.close
  | text content =>
    cases stack : t.stack with
    | nil =>
      rw [TreeState.step, stack]
      exact .standing h
    | cons top rest =>
      cases content with
      | none =>
        have names := h.names.trans allowed
        rw [stack] at names
        cases names
      | some s =>
        have names := h.names
        rw [stack] at names
        rw [TreeState.step, stack]
        exact .standing ⟨names, h.tops⟩
  | aside => exact .standing h
  | malformed => exact allowed.elim

end Fits

theorem Sound.stands {es : List Event} (h : Sound es) :
    Stands (nest es) (es.foldlM TreeState.step {}) := by
  induction h with
  | nil => exact .standing ⟨rfl, rfl⟩
  | @snoc es x before allowed ih =>
    rw [nest_snoc, List.foldlM_append]
    generalize es.foldlM TreeState.step {} = r at ih
    cases ih with
    | @standing t fits =>
      have next := fits.step allowed.allows
      change Stands _ ((t.step x).bind pure)
      generalize t.step x = r at next
      cases r with
      | ok | error => exact next
    | second many =>
      exact .second (Nat.le_trans many ((nest es).tops_grow_step x).length_le)

inductive Ends (n : Nesting) : Except DocumentError Json → Prop
  | second (many : 2 ≤ n.tops.length) : Ends n (.error .multipleRoots)
  | unclosed {name : String} {names : List String} (opened : n.names = name :: names)
      (few : n.tops.length < 2) : Ends n (.error (.unclosed name))
  | empty (closed : n.names = []) (none : n.tops = []) : Ends n (.error .noRoot)
  | root {root : String} (value : Json) (closed : n.names = []) (one : n.tops = [root]) :
      Ends n (.ok (.object [(root, value)]))

namespace Ends

variable {n : Nesting} {r : Except DocumentError Json}

theorem eq_multipleRoots_iff (h : Ends n r) :
    r = .error .multipleRoots ↔ 2 ≤ n.tops.length := by
  cases h with
  | second many => exact iff_of_true rfl many
  | unclosed _ few => exact iff_of_false nofun (Nat.not_le.mpr few)
  | empty _ none => exact iff_of_false nofun (by simp [none])
  | root _ _ one => exact iff_of_false nofun (by simp [one])

theorem eq_noRoot_iff (h : Ends n r) : r = .error .noRoot ↔ n = ⟨[], []⟩ := by
  constructor
  · rintro rfl
    cases h with
    | empty closed none =>
      obtain ⟨names, tops⟩ := n
      cases closed
      cases none
      rfl
  · rintro rfl
    cases h with
    | second many => simp at many
    | unclosed opened => cases opened
    | empty => rfl
    | root _ _ one => cases one

theorem eq_root_iff (h : Ends n r) {root : String} :
    (∃ value, r = .ok (.object [(root, value)])) ↔ n = ⟨[], [root]⟩ := by
  constructor
  · rintro ⟨value, rfl⟩
    cases h with
    | root _ closed one =>
      obtain ⟨names, tops⟩ := n
      cases closed
      cases one
      rfl
  · rintro rfl
    cases h with
    | second many => simp at many
    | unclosed opened => cases opened
    | empty _ none => cases none
    | root value _ one =>
      cases one
      exact ⟨value, rfl⟩

theorem eq_unclosed (h : Ends n r) {name : String} {names : List String}
    (opened : n.names = name :: names) (few : n.tops.length < 2) :
    r = .error (.unclosed name) := by
  cases h with
  | second many => omega
  | unclosed opened' =>
    cases opened.symm.trans opened'
    rfl
  | empty closed | root _ closed => cases opened.symm.trans closed

theorem object {j : Json} (h : Ends n r) (read : r = .ok j) :
    ∃ root value, j = .object [(root, value)] := by
  cases h with
  | root value =>
    cases read
    exact ⟨_, value, rfl⟩
  | _ => cases read

end Ends

theorem Sound.ends {es : List Event} (h : Sound es) : Ends (nest es) (converted es) := by
  have stands := h.stands
  rw [converted, Element.ofEvents]
  generalize es.foldlM TreeState.step {} = r at stands
  cases stands with
  | second many => exact .second many
  | @standing t fits =>
    obtain ⟨stack, root⟩ := t
    obtain ⟨names, tops⟩ := fits
    cases stack with
    | cons top rest =>
      refine .unclosed names.symm ?_
      rw [← tops]
      cases root <;> simp
    | nil =>
      cases root with
      | none => exact .empty names.symm tops.symm
      | some e => exact .root e.toJson names.symm tops.symm

/-! ## Conversion -/

theorem Balanced.no_begins {tops : List String} {es : List Event} (h : Balanced tops es)
    (none : tops = []) : ∀ x ∈ es, ¬x.Begins := by
  induction h with
  | nil => simp
  | text _ _ ih | aside _ ih =>
    intro x hx
    rcases List.mem_cons.mp hx with rfl | hx
    · exact id
    · exact ih none x hx
  | leaf | element => cases none

theorem Sound.nest_eq {es : List Event} (h : Sound es) (none : ∀ x ∈ es, ¬x.Begins) :
    nest es = ⟨[], []⟩ := by
  induction h with
  | nil => rfl
  | @snoc es x before allowed ih =>
    rw [nest_snoc, ih fun y hy => none y (List.mem_append_left _ hy)]
    have last := none x (List.mem_append_right _ (List.mem_singleton_self x))
    cases x with
    | opened | leaf => exact absurd trivial last
    | closed name =>
      -- there is nothing that could be closed
      obtain ⟨first, attributes, inner, tops, rfl, -⟩ := allowed
      exact absurd trivial (none (.opened name attributes) (by simp))
    | text | aside | malformed => rfl

theorem Sound.balanced_iff {tops : List String} {es : List Event} (h : Sound es) :
    Balanced tops es ↔ nest es = ⟨[], tops⟩ := by
  refine ⟨Balanced.nest, fun same => ?_⟩
  have opens := h.opens
  rw [same] at opens
  exact opens.balanced rfl

theorem Sound.secondRoot_iff {es : List Event} (h : Sound es) :
    SecondRoot es ↔ 2 ≤ (nest es).tops.length :=
  ⟨SecondRoot.many, h.opens.secondRoot⟩

theorem Sound.no_begins_iff {es : List Event} (h : Sound es) :
    (∀ x ∈ es, ¬x.Begins) ↔ nest es = ⟨[], []⟩ :=
  ⟨h.nest_eq, fun same => (h.balanced_iff.mpr same).no_begins rfl⟩

/-- Behind an element at the top, or before it, text and asides are passed over. -/
theorem converted_outside {before after : List Event} {x : Event} (sound : Sound before)
    (outside : Outside before) (content : x.IsContent) :
    converted (before ++ x :: after) = converted (before ++ after) := by
  have stands := sound.stands
  obtain ⟨tops, balanced⟩ := outside
  rw [balanced.nest] at stands
  simp only [converted, Element.ofEvents, List.foldlM_append, List.foldlM_cons]
  generalize before.foldlM TreeState.step {} = r at stands
  cases stands with
  | second => rfl
  | @standing t fits =>
    have stack : t.stack = [] := List.map_eq_nil_iff.mp fits.names
    have passed : t.step x = .ok t := by
      cases x with
      | text content => rw [TreeState.step, stack]
      | aside => rfl
      | _ => exact content.elim
    simp only [passed, bind, Except.bind]

/-- Events of a reader that finds nothing wrong are converted exactly if every element in them is
closed and one stands at their top; the object has the name of that one as its only key. A second
element at the top is found as soon as it is complete. Otherwise the innermost element that is open
is named, or there is no element at all. What stands beside elements at the top does not matter. -/
theorem converted_iff_balanced {es : List Event} (sound : Sound es) :
    (∀ root, Balanced [root] es ↔ ∃ value, converted es = .ok (.object [(root, value)])) ∧
    (∀ j, converted es = .ok j → ∃ root value, j = .object [(root, value)]) ∧
    (∀ name, Inside es name → ¬SecondRoot es → converted es = .error (.unclosed name)) ∧
    (converted es = .error .multipleRoots ↔ SecondRoot es) ∧
    (converted es = .error .noRoot ↔ ∀ x ∈ es, ¬x.Begins) ∧
    (∀ before x after, es = before ++ x :: after → Outside before → x.IsContent →
      converted (before ++ after) = converted es) ∧
    ∀ s, events s = es → toJson s = converted es := by
  have ends := sound.ends
  refine ⟨fun root => sound.balanced_iff.trans ends.eq_root_iff.symm, fun j => ends.object,
    fun name inside single => ?_, ends.eq_multipleRoots_iff.trans sound.secondRoot_iff.symm,
    ends.eq_noRoot_iff.trans sound.no_begins_iff.symm, ?_, ?_⟩
  · obtain ⟨names, opened⟩ := inside.names
    exact ends.eq_unclosed opened (Nat.not_le.mp fun many => single (sound.secondRoot_iff.mpr many))
  · rintro before x after rfl outside content
    exact (converted_outside (sound.of_prefix (List.prefix_append _ _)) outside content).symm
  · rintro s rfl
    rfl

section Page

/-- A document with an instruction before its root and a text behind it that cannot be read. -/
def page : List Event :=
  [.aside, .opened "a" [], .leaf "b" [], .text (some "t"), .closed "a", .text none]

theorem balanced_page : Balanced ["a"] page :=
  .aside (.element "a" [] (.leaf "b" [] (.text (some "t") .nil)) (.text none .nil))

theorem sound_page : Sound page := by
  have start : Sound [.aside] := @Sound.snoc [] _ .nil trivial
  have opened : Sound [.aside, .opened "a" []] := @Sound.snoc [_] _ start trivial
  have leaf : Sound [.aside, .opened "a" [], .leaf "b" []] := @Sound.snoc [_, _] _ opened trivial
  have text : Sound [.aside, .opened "a" [], .leaf "b" [], .text (some "t")] :=
    @Sound.snoc [_, _, _] _ leaf trivial
  have inside : Inside [.aside, .opened "a" [], .leaf "b" [], .text (some "t")] "a" :=
    ⟨[.aside], [], _, _, rfl, .leaf "b" [] (.text (some "t") .nil)⟩
  have closed : Sound [.aside, .opened "a" [], .leaf "b" [], .text (some "t"), .closed "a"] :=
    @Sound.snoc [_, _, _, _] _ text inside
  have outside : Outside [.aside, .opened "a" [], .leaf "b" [], .text (some "t"), .closed "a"] :=
    ⟨_, .aside (.element "a" [] (.leaf "b" [] (.text (some "t") .nil)) .nil)⟩
  exact @Sound.snoc [_, _, _, _, _] _ closed outside

/-- An element that is open does not hide the second root before it. -/
def twoRoots : List Event := [.leaf "a" [], .leaf "b" [], .opened "c" []]

theorem sound_twoRoots : Sound twoRoots := by
  have first : Sound [.leaf "a" []] := @Sound.snoc [] _ .nil trivial
  have second : Sound [.leaf "a" [], .leaf "b" []] := @Sound.snoc [_] _ first trivial
  exact @Sound.snoc [_, _] _ second trivial

theorem converted_iff_balanced_page :
    (∃ value, converted page = .ok (.object [("a", value)])) ∧
      converted (page.drop 1) = converted page ∧
      converted twoRoots = .error .multipleRoots := by
  obtain ⟨accepted, -, -, -, -, outside, -⟩ := converted_iff_balanced sound_page
  obtain ⟨-, -, -, second, -⟩ := converted_iff_balanced sound_twoRoots
  exact ⟨(accepted "a").mp balanced_page, outside [] .aside (page.drop 1) rfl ⟨[], .nil⟩ trivial,
    second.mpr ⟨[.leaf "a" [], .leaf "b" []], [.opened "c" []], _, rfl,
      .leaf "a" [] (.leaf "b" [] .nil), Nat.le_refl 2⟩⟩

end Page

end Resilience.Xml
