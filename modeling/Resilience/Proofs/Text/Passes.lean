import Mathlib.Data.List.Infix
import Resilience.Proofs.Text.Replace
/-! # Replacing several marks

A text may be filled from a table of marks in a single pass, or one mark may be replaced after
another. The two come to the same as long as no value that is put in makes a later mark, by itself
or with what stands around it.
-/
namespace Resilience.Text

abbrev Table := List (List Char × List Char)

/-- The characters filled from a table, so many characters being part of a mark already. Marks are
found from the left, none begins inside another, and nothing is looked for in the values. -/
def fillFrom (table : Table) : Nat → List Char → List Char
  | _, [] => []
  | skip + 1, _ :: cs => fillFrom table skip cs
  | 0, c :: cs =>
    match table.find? fun p => p.1.isPrefixOf (c :: cs) with
    | some p => p.2 ++ fillFrom table (p.1.length - 1) cs
    | none => c :: fillFrom table 0 cs

structure PrefixFree (table : Table) : Prop where
  nonempty : ∀ p ∈ table, p.1 ≠ []
  apart : ∀ p ∈ table, ∀ q ∈ table, p.1 <+: q.1 → p = q

variable {table : Table} {p : List Char × List Char} {mark value : List Char} {c : Char}
  {cs r s w rest : List Char}

theorem PrefixFree.mono {table' : Table} (free : PrefixFree table) (fewer : table' ⊆ table) :
    PrefixFree table' :=
  ⟨fun p hp => free.nonempty p (fewer hp), fun p hp q hq => free.apart p (fewer hp) q (fewer hq)⟩

/-! ## A single pass -/

theorem fillFrom_length (w : List Char) :
    fillFrom table w.length (w ++ rest) = fillFrom table 0 rest := by
  induction w with
  | nil => rfl
  | cons c w ih => exact ih

theorem fillFrom_other (missed : ∀ p ∈ table, ¬p.1 <+: c :: cs) :
    fillFrom table 0 (c :: cs) = c :: fillFrom table 0 cs := by
  have none : (table.find? fun p => p.1.isPrefixOf (c :: cs)) = none := by
    rw [List.find?_eq_none]
    intro p inside
    rw [List.isPrefixOf_iff_prefix]
    exact missed p inside
  rw [fillFrom, none]

theorem PrefixFree.fillFrom_mark (free : PrefixFree table) (inside : p ∈ table)
    (rest : List Char) :
    fillFrom table 0 (p.1 ++ rest) = p.2 ++ fillFrom table 0 rest := by
  obtain ⟨c, w, shape⟩ := List.exists_cons_of_ne_nil (free.nonempty p inside)
  have begins : p.1.isPrefixOf (p.1 ++ rest) = true :=
    List.isPrefixOf_iff_prefix.mpr (List.prefix_append p.1 rest)
  obtain ⟨q, found⟩ : ∃ q, (table.find? fun q => q.1.isPrefixOf (p.1 ++ rest)) = some q :=
    Option.isSome_iff_exists.mp (List.find?_isSome.mpr ⟨p, inside, begins⟩)
  -- only one mark begins here
  have same : q = p := by
    have here : q.1 <+: p.1 ++ rest := by simpa using List.find?_some found
    have there : q ∈ table := List.mem_of_find?_eq_some found
    rcases List.prefix_or_prefix_of_prefix here (List.prefix_append p.1 rest) with h | h
    · exact free.apart q there p inside h
    · exact (free.apart p inside q there h).symm
  subst same
  rw [shape, List.cons_append] at found
  rw [shape, List.cons_append, fillFrom, found]
  dsimp only
  rw [shape, List.length_cons, Nat.add_sub_cancel, fillFrom_length]

/-- What holds of the empty text, and of a text with a mark or any other character in front, holds
of every text. -/
theorem PrefixFree.induction {P : List Char → Prop} (free : PrefixFree table) (nil : P [])
    (mark : ∀ p ∈ table, ∀ rest, P rest → P (p.1 ++ rest))
    (other : ∀ c cs, (∀ p ∈ table, ¬p.1 <+: c :: cs) → P cs → P (c :: cs)) (cs : List Char) :
    P cs := by
  -- on the length, since a mark takes several characters at once
  induction length : cs.length using Nat.strong_induction_on generalizing cs with
  | _ n ih =>
    subst length
    cases cs with
    | nil => exact nil
    | cons c cs =>
      by_cases missed : ∀ p ∈ table, ¬p.1 <+: c :: cs
      · exact other c cs missed (ih _ (Nat.lt_succ_self _) cs rfl)
      · push Not at missed
        obtain ⟨p, inside, rest, whole⟩ := missed
        have shorter : rest.length < (c :: cs).length := by
          have := List.length_pos_of_ne_nil (free.nonempty p inside)
          rw [← whole, List.length_append]
          omega
        rw [← whole]
        exact mark p inside rest (ih _ shorter rest rfl)

theorem fillFrom_nothing (cs : List Char) : fillFrom [] 0 cs = cs := by
  induction cs with
  | nil => rfl
  | cons c cs ih => rw [fillFrom_other (by simp), ih]

/-- Characters that no mark begins at stay. -/
theorem fillFrom_keeps
    (missed : ∀ s, s <:+ w → s ≠ [] → ∀ p ∈ table, ¬p.1 <+: s ++ rest) :
    fillFrom table 0 (w ++ rest) = w ++ fillFrom table 0 rest := by
  induction w with
  | nil => rfl
  | cons c w ih =>
    have here : ∀ p ∈ table, ¬p.1 <+: c :: (w ++ rest) :=
      missed (c :: w) (List.suffix_refl _) (List.cons_ne_nil _ _)
    rw [List.cons_append, fillFrom_other here, List.cons_append,
      ih fun s part => missed s (part.trans (List.suffix_cons c w))]

/-- Replacing a mark is filling from a table of one entry. -/
theorem replaceFrom_eq_fillFrom (skip : Nat) (cs : List Char) :
    replaceFrom mark value skip cs = fillFrom [(mark, value)] skip cs := by
  induction cs generalizing skip with
  | nil => cases skip <;> rfl
  | cons c cs ih =>
    cases skip with
    | succ skip => exact ih skip
    | zero =>
      by_cases begins : mark.isPrefixOf (c :: cs) = true
      · rw [replaceFrom, if_pos begins, ih, fillFrom]
        simp only [List.find?_cons, begins]
      · rw [replaceFrom, if_neg begins, ih, fillFrom]
        simp only [List.find?_cons, begins, List.find?_nil]

/-! ## Marks that nothing forms -/

def Agree (v w : List Char) : Prop := v <+: w ∨ w <+: v

instance (v w : List Char) : Decidable (Agree v w) := inferInstanceAs (Decidable (_ ∨ _))

theorem agree_of_prefix_append (h : mark <+: s ++ rest) : Agree mark s :=
  List.prefix_or_prefix_of_prefix h (List.prefix_append s rest)

/-- No mark begins in a text, whatever stands behind it. -/
def Closed (mark w : List Char) : Prop := ∀ s ∈ w.tails, s ≠ [] → ¬Agree mark s

instance (mark w : List Char) : Decidable (Closed mark w) :=
  inferInstanceAs (Decidable (∀ s ∈ w.tails, s ≠ [] → ¬Agree mark s))

/-- No mark begins in front of a text and reaches into it or beyond. -/
def Unreached (mark w : List Char) : Prop := ∀ r ∈ mark.tails, r ≠ [] → r ≠ mark → ¬Agree r w

instance (mark w : List Char) : Decidable (Unreached mark w) :=
  inferInstanceAs (Decidable (∀ r ∈ mark.tails, r ≠ [] → r ≠ mark → ¬Agree r w))

/-- Whatever stands around a text, no mark has a part in it or lies around it. -/
def Clear (mark w : List Char) : Prop := Closed mark w ∧ Unreached mark w

instance (mark w : List Char) : Decidable (Clear mark w) := inferInstanceAs (Decidable (_ ∧ _))

theorem fillFrom_closed (closed : ∀ p ∈ table, Closed p.1 w) (rest : List Char) :
    fillFrom table 0 (w ++ rest) = w ++ fillFrom table 0 rest := by
  apply fillFrom_keeps
  intro s part some p inside begins
  exact closed p inside s ((List.mem_tails s w).mpr part) some (agree_of_prefix_append begins)

/-- A mark that reaches no value and that a filled text has the rest of is in the text itself. -/
theorem PrefixFree.prefix_of_fillFrom (free : PrefixFree table)
    (unreached : ∀ p ∈ table, Unreached mark p.2) (cs : List Char) (part : r <:+ mark)
    (proper : r ≠ mark) (reached : r <+: fillFrom table 0 cs) : r <+: cs := by
  induction cs using free.induction generalizing r with
  | nil => exact reached
  | mark p inside rest ih =>
    by_cases some : r = []
    · exact some ▸ List.nil_prefix
    · rw [free.fillFrom_mark inside] at reached
      exact absurd (agree_of_prefix_append reached)
        (unreached p inside r ((List.mem_tails r mark).mpr part) some proper)
  | other c cs missed ih =>
    cases r with
    | nil => exact List.nil_prefix
    | cons d r =>
      rw [fillFrom_other missed, List.cons_prefix_cons] at reached
      have smaller : r <:+ mark := (List.suffix_cons d r).trans part
      have less : r ≠ mark := by
        rintro rfl
        exact absurd part.length_le (by simp)
      exact List.cons_prefix_cons.mpr ⟨reached.1, ih smaller less reached.2⟩

/-- One more mark may be replaced in a second pass, if no value of the first one can form it. -/
theorem PrefixFree.fillFrom_fillFrom (free : PrefixFree (table ++ [(mark, value)]))
    (closed : ∀ p ∈ table, Closed p.1 mark) (clear : ∀ p ∈ table, Clear mark p.2)
    (cs : List Char) :
    fillFrom [(mark, value)] 0 (fillFrom table 0 cs) =
      fillFrom (table ++ [(mark, value)]) 0 cs := by
  have first : PrefixFree table := free.mono (List.subset_append_left _ _)
  have second : PrefixFree [(mark, value)] := free.mono (List.subset_append_right _ _)
  have last : (mark, value) ∈ table ++ [(mark, value)] := by simp
  induction cs using free.induction with
  | nil => rfl
  | mark p inside rest ih =>
    rw [free.fillFrom_mark inside, ← ih]
    rcases List.mem_append.mp inside with inside | inside
    · rw [first.fillFrom_mark inside]
      exact fillFrom_closed (by simpa using (clear p inside).1) _
    · obtain rfl := List.mem_singleton.mp inside
      rw [fillFrom_closed closed]
      exact second.fillFrom_mark inside _
  | other c cs missed ih =>
    have here : ∀ p ∈ table, ¬p.1 <+: c :: cs := fun p hp =>
      missed p (List.mem_append_left _ hp)
    rw [fillFrom_other missed, ← ih, fillFrom_other here]
    refine fillFrom_other fun p hp formed => ?_
    obtain rfl := List.mem_singleton.mp hp
    -- a mark that is there behind the first pass was there before it
    obtain ⟨d, r, rfl⟩ := List.exists_cons_of_ne_nil (free.nonempty _ last)
    have formed := List.cons_prefix_cons.mp formed
    have unreached : ∀ p ∈ table, Unreached (d :: r) p.2 := fun p hp => (clear p hp).2
    have there := first.prefix_of_fillFrom unreached cs (List.suffix_cons d r)
      (List.cons_ne_self d r).symm formed.2
    exact missed _ last (List.cons_prefix_cons.mpr ⟨formed.1, there⟩)

/-- A mark that stands for itself need not be in the table. -/
theorem PrefixFree.fillFrom_own (free : PrefixFree (table ++ [(mark, mark)]))
    (closed : ∀ p ∈ table, Closed p.1 mark) (cs : List Char) :
    fillFrom (table ++ [(mark, mark)]) 0 cs = fillFrom table 0 cs := by
  have first : PrefixFree table := free.mono (List.subset_append_left _ _)
  induction cs using free.induction with
  | nil => rfl
  | mark p inside rest ih =>
    rw [free.fillFrom_mark inside, ih]
    rcases List.mem_append.mp inside with inside | inside
    · rw [first.fillFrom_mark inside]
    · obtain rfl := List.mem_singleton.mp inside
      exact (fillFrom_closed closed rest).symm
  | other c cs missed ih =>
    rw [fillFrom_other missed, ih, fillFrom_other fun p hp => missed p (List.mem_append_left _ hp)]

theorem PrefixFree.fillFrom_self (free : PrefixFree [(mark, mark)]) (cs : List Char) :
    fillFrom [(mark, mark)] 0 cs = cs := by
  have own : fillFrom ([] ++ [(mark, mark)]) 0 cs = fillFrom [] 0 cs :=
    PrefixFree.fillFrom_own free (by simp) cs
  exact own.trans (fillFrom_nothing cs)

/-! ## Marks that something forms -/

/-- A beginning and an end of a mark, neither of them the whole mark. -/
structure Parts (mark before behind : List Char) : Prop where
  first : before <+: mark
  short : before ≠ mark
  last : behind <:+ mark
  short' : behind ≠ mark

/-- Around a text that is not clear of a mark, parts of the mark make it whole. -/
theorem exists_formed (some : mark ≠ []) (formed : ¬Clear mark w) :
    ∃ before behind, Parts mark before behind ∧ mark <:+: before ++ w ++ behind := by
  by_cases closed : Closed mark w
  · -- the mark begins in front of the text
    have reached : ¬Unreached mark w := fun unreached => formed ⟨closed, unreached⟩
    unfold Unreached at reached
    push Not at reached
    obtain ⟨r, part, nonempty, proper, agree⟩ := reached
    obtain ⟨before, rfl⟩ := (List.mem_tails r mark).mp part
    have shorter : before ≠ before ++ r := fun same => nonempty (by simpa using same)
    rcases agree with ⟨behind, rfl⟩ | ⟨behind, rfl⟩
    · exact ⟨before, [], ⟨List.prefix_append _ _, shorter, List.nil_suffix, some.symm⟩,
        [], behind, by simp⟩
    · refine ⟨before, behind, ⟨List.prefix_append _ _, shorter, ?_, ?_⟩, [], [], by simp⟩
      · exact (List.suffix_append w behind).trans (List.suffix_append _ _)
      · intro same
        refine proper (List.Sublist.eq_of_length_le ((List.mem_tails _ _).mp part).sublist ?_)
        rw [← same]
        exact (List.suffix_append w behind).length_le
  · unfold Closed at closed
    push Not at closed
    obtain ⟨s, part, nonempty, agree⟩ := closed
    obtain ⟨front, rfl⟩ := (List.mem_tails s w).mp part
    rcases agree with ⟨behind, rfl⟩ | ⟨behind, rfl⟩
    · exact ⟨[], [], ⟨List.nil_prefix, some.symm, List.nil_suffix, some.symm⟩, front, behind,
        by simp⟩
    · refine ⟨[], behind, ⟨List.nil_prefix, some.symm, List.suffix_append _ _, ?_⟩, front, [],
        by simp⟩
      intro same
      exact nonempty (by simpa using same)

theorem length_fillFrom_le (second : PrefixFree [(mark, value)]) (cs : List Char) :
    (value.length ≤ mark.length → (fillFrom [(mark, value)] 0 cs).length ≤ cs.length) ∧
      (mark.length ≤ value.length → cs.length ≤ (fillFrom [(mark, value)] 0 cs).length) := by
  induction cs using second.induction with
  | nil => simp [fillFrom]
  | mark p inside rest ih =>
    obtain rfl := List.mem_singleton.mp inside
    rw [second.fillFrom_mark inside]
    dsimp only
    rw [List.length_append, List.length_append]
    omega
  | other c cs missed ih =>
    rw [fillFrom_other missed]
    simpa using ih

/-- A text that keeps its marks keeps them because they stand for themselves. -/
theorem eq_of_fillFrom_eq (second : PrefixFree [(mark, value)]) (cs : List Char)
    (kept : fillFrom [(mark, value)] 0 cs = cs) (there : mark <:+: cs) : value = mark := by
  have nonempty : mark ≠ [] := second.nonempty _ (List.mem_singleton_self _)
  induction cs using second.induction with
  | nil => exact absurd (List.infix_nil.mp there) nonempty
  | mark p inside rest ih =>
    obtain rfl := List.mem_singleton.mp inside
    rw [second.fillFrom_mark inside] at kept
    dsimp only at kept
    have lengths := congrArg List.length kept
    rw [List.length_append, List.length_append] at lengths
    obtain ⟨shrinks, grows⟩ := length_fillFrom_le second rest
    have same : value.length = mark.length := by omega
    exact (List.append_inj kept same).1
  | other c cs missed ih =>
    rw [fillFrom_other missed] at kept
    refine ih (List.tail_eq_of_cons_eq kept) ?_
    rcases List.infix_cons_iff.mp there with begins | inside
    · exact absurd begins (missed _ (List.mem_singleton_self _))
    · exact inside

end Resilience.Text
