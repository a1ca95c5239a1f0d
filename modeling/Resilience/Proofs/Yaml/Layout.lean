import Resilience.Proofs.Yaml.Block
/-! # Lines and their words

Whether lines can be read back is told by their words and their indentation, so a word may be put
in the place of another of its kind. What holds of a text part by part holds of lines if it holds
of their words.
-/
namespace Resilience.Yaml

section

variable {p : Char → Prop} [DecidablePred p]

-- What holds of the characters of a word is decided along the word, never over all characters.
instance (priority := 1100) decidableForallChars (w : List Char) : Decidable (∀ c ∈ w, p c) :=
  List.decidableBAll p w

instance (priority := 1100) decidableForallChar (o : Option Char) : Decidable (∀ c ∈ o, p c) :=
  Option.decidableForallMem o

instance (priority := 1100) decidableExistsChar (o : Option Char) : Decidable (∃ c ∈ o, p c) :=
  Option.decidableExistsMem o

end

instance (w : List Char) : Decidable (IsPlainText w) :=
  decidable_of_iff ((∃ c ∈ w.head?, isBlank c = false ∧
      Blocks.beginsPlain 1 c (w.tail.headD '\n') = true) ∧ (∀ c ∈ w, isPlain c = true) ∧
      ∀ c ∈ w.getLast?, isBlank c = false)
    ⟨fun ⟨begins, plain, last⟩ => ⟨begins, plain, last⟩, fun ⟨begins, plain, last⟩ =>
      ⟨begins, plain, last⟩⟩

instance (w : List Char) : Decidable (IsKey w) :=
  decidable_of_iff ((∃ c ∈ w.head?, Blocks.beginsPlain 0 c ' ' = true) ∧
      (∀ c ∈ w, isPlain c = true ∧ isBlank c = false) ∧ w.length ≤ 1024)
    ⟨fun ⟨begins, words, short⟩ => ⟨begins, words, short⟩, fun ⟨begins, words, short⟩ =>
      ⟨begins, words, short⟩⟩

instance (w : String) : Decidable (IsItem w) := inferInstanceAs (Decidable (_ ∧ _))

inductive Role where
  | key
  | plain
  | quoted
  | item
deriving DecidableEq, Repr

def Role.Fits : Role → String → Prop
  | .key, w => IsKey w.toList
  | .plain, w => IsPlainText w.toList
  | .quoted, w => ∀ c ∈ w.toList, isQuotable c = true
  | .item, w => IsItem w

instance : (role : Role) → (w : String) → Decidable (role.Fits w)
  | .key, w => inferInstanceAs (Decidable (IsKey w.toList))
  | .plain, w => inferInstanceAs (Decidable (IsPlainText w.toList))
  | .quoted, w => inferInstanceAs (Decidable (∀ c ∈ w.toList, isQuotable c = true))
  | .item, w => inferInstanceAs (Decidable (IsItem w))

variable {α : Type}

def Value.words : Value α → List (Role × α)
  | .none => []
  | .plain w => [(.plain, w)]
  | .quoted w => [(.quoted, w)]
  | .list w ws => (w :: ws).map (Prod.mk .item)

def Line.words : Line α → List (Role × α)
  | .entry _ _ key value => (.key, key) :: value.words
  | .item _ w => [(.plain, w)]
  | .separator => []

/-- A plain scalar at the end of the line does not go on in the next one, which is indented so
far. -/
def Line.isEnded (next : Option Nat) : Line α → Bool
  | .entry indent dash _ (.plain _) => next.all (· ≤ if dash then indent + 2 else indent)
  | .item indent _ => next.all (· ≤ indent)
  | _ => true

def allEnded (next : Option Nat) : List (Line α) → Bool
  | [] => true
  | l :: ls => l.isEnded ((ls.head?.map Line.indent).or next) && allEnded next ls

variable {val : α → String}

theorem Line.reads_of_fits (l : Line α) (fits : ∀ p ∈ l.words, p.1.Fits (val p.2))
    {next : Option Nat} (ended : l.isEnded next = true) {indent : Nat} {body : List Char}
    (follows : body = [] ∨ next = some indent) : l.Reads val indent body := by
  have outside : ∀ n, next.all (· ≤ n) = true → body = [] ∨ indent ≤ n := fun n h =>
    follows.imp_right fun here => by simpa [here] using h
  cases l with
  | entry here dash key value =>
    refine ⟨fits (.key, key) (by simp [words]), ?_⟩
    have values : ∀ p ∈ value.words, p.1.Fits (val p.2) := fun p hp => fits p (by simp [words, hp])
    cases value with
    | none => trivial
    | plain w => exact ⟨values (.plain, w) (by simp [Value.words]), outside _ ended⟩
    | quoted w => exact values (.quoted, w) (by simp [Value.words])
    | list w ws =>
      intro v hv
      exact values (.item, v) (List.mem_map.2 ⟨v, hv, rfl⟩)
  | item here w => exact ⟨fits (.plain, w) (by simp [words]), outside _ ended⟩
  | separator => trivial

theorem readsAll_of_fits {ls : List (Line α)} (fits : ∀ l ∈ ls, ∀ p ∈ l.words, p.1.Fits (val p.2))
    {next : Option Nat} (ended : allEnded next ls = true) {tail : Nat × List Char}
    (follows : tail.2 = [] ∨ next = some tail.1) : ReadsAll val tail ls := by
  induction ls with
  | nil => trivial
  | cons l ls ih =>
    simp only [allEnded, Bool.and_eq_true] at ended
    refine ⟨l.reads_of_fits (fits l (by simp)) ended.1 ?_,
      ih (fun m hm => fits m (by simp [hm])) ended.2⟩
    cases ls with
    | nil => simpa [layout] using follows
    | cons m ls => exact Or.inr rfl

def Line.chars (val : α → String) (l : Line α) : List Char :=
  List.replicate l.indent ' ' ++ (l.text val ++ ['\n'])

theorem layout_eq_flatMap (ls : List (Line α)) :
    List.replicate (layout val (0, []) ls).1 ' ' ++ (layout val (0, []) ls).2 =
      ls.flatMap (Line.chars val) := by
  induction ls with
  | nil => rfl
  | cons l ls ih =>
    rw [List.flatMap_cons, ← ih, layout, Line.chars, nextLine]
    simp only [List.append_assoc, List.cons_append, List.nil_append]

def marks : List Char := " -:\",[]\n".toList

structure PartByPart (R : List Char → List Char → Prop) : Prop where
  nil : R [] []
  append : ∀ v w v' w', R v w → R v' w' → R (v ++ v') (w ++ w')
  mark : ∀ c ∈ marks, R [c] [c]

namespace PartByPart

variable {R : List Char → List Char → Prop} (h : PartByPart R) {val' : α → String}
include h

theorem marked {w : List Char} (all : ∀ c ∈ w, c ∈ marks) : R w w := by
  induction w with
  | nil => exact h.nil
  | cons c w ih =>
    exact h.append [c] [c] w w (h.mark c (all c (by simp))) (ih fun d hd => all d (by simp [hd]))

theorem quote {v w : String} (word : R v.toList w.toList) : R (quote v) (quote w) :=
  h.append ['"'] ['"'] _ _ (h.mark '"' (by decide)) (h.append _ _ _ _ word (h.mark '"' (by decide)))

theorem items {ws : List α} (words : ∀ w ∈ ws, R (val w).toList (val' w).toList) :
    R (itemsText (ws.map val)) (itemsText (ws.map val')) := by
  induction ws with
  | nil => exact h.mark ']' (by decide)
  | cons w ws ih =>
    have first := h.append [',', ' '] [',', ' '] _ _ (h.marked (by decide))
      (h.quote (words w (by simp)))
    have both := h.append _ _ _ _ first (ih fun v hv => words v (by simp [hv]))
    simpa [itemsText] using both

theorem value (value : Value α) (words : ∀ p ∈ value.words, R (val p.2).toList (val' p.2).toList) :
    R (value.text val) (value.text val') := by
  cases value with
  | none => exact h.nil
  | plain w =>
    exact h.append [' '] [' '] _ _ (h.mark ' ' (by decide)) (words (.plain, w) (by simp [Value.words]))
  | quoted w =>
    exact h.append [' '] [' '] _ _ (h.mark ' ' (by decide))
      (h.quote (words (.quoted, w) (by simp [Value.words])))
  | list w ws =>
    have first := h.quote (words (.item, w) (by simp [Value.words]))
    have rest : R (itemsText (ws.map val)) (itemsText (ws.map val')) :=
      h.items fun v hv => words (.item, v) (by simp [Value.words, hv])
    exact h.append [' ', '['] [' ', '['] _ _ (h.marked (by decide)) (h.append _ _ _ _ first rest)

theorem line (l : Line α) (words : ∀ p ∈ l.words, R (val p.2).toList (val' p.2).toList) :
    R (l.chars val) (l.chars val') := by
  refine h.append _ _ _ _ (h.marked fun c hc => ?_)
    (h.append _ _ _ _ ?_ (h.mark '\n' (by decide)))
  · rw [List.eq_of_mem_replicate hc]
    decide
  · cases l with
    | entry indent dash key value =>
      have first := words (.key, key) (by simp [Line.words])
      have behind := h.value value fun p hp => words p (by simp [Line.words, hp])
      refine h.append _ _ _ _ (h.marked ?_) (h.append _ _ _ _ first
        (h.append [':'] [':'] _ _ (h.mark ':' (by decide)) behind))
      cases dash <;> decide
    | item indent w =>
      exact h.append ['-', ' '] ['-', ' '] _ _ (h.marked (by decide))
        (words (.plain, w) (by simp [Line.words]))
    | separator =>
      have dashes : ∀ c ∈ ['-', '-', '-'], c ∈ marks := by decide
      exact h.marked dashes

theorem lines (ls : List (Line α))
    (words : ∀ l ∈ ls, ∀ p ∈ l.words, R (val p.2).toList (val' p.2).toList) :
    R (ls.flatMap (Line.chars val)) (ls.flatMap (Line.chars val')) := by
  induction ls with
  | nil => exact h.nil
  | cons l ls ih =>
    exact h.append _ _ _ _ (h.line l (words l (by simp)))
      (ih fun m hm => words m (by simp [hm]))

end PartByPart

/-- A text is allowed if its parts are. -/
theorem partByPart_isAllowed : PartByPart fun v _ => v.all isAllowed = true where
  nil := rfl
  append v w v' w' h h' := by
    rw [List.all_append, h, h']
    rfl
  mark := by decide
end Resilience.Yaml
