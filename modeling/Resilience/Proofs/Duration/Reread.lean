import Resilience.Proofs.Duration.Amount
import Resilience.Proofs.Json.Numeral
import Resilience.Settings.Shape
/-! # Written durations are read again

The reader goes through a written amount digit by digit and letter by letter, and adds it where the
next blank or the end of the text is. Since the parts of a duration add up to it, every written
duration is read again as what it was.
-/
namespace Resilience

namespace Duration

open Decimal (digits digitChars valueFrom)

/-- A character that goes on with the name of a unit, and with nothing else. -/
structure IsLetter (c : Char) : Prop where
  letter : isUnitLetter c = true
  noDigit : Text.digit? 10 c = none
  noBlank : Text.isBlank c = false

instance (c : Char) : Decidable (IsLetter c) :=
  decidable_of_iff (isUnitLetter c = true ∧ Text.digit? 10 c = none ∧ Text.isBlank c = false)
    ⟨fun ⟨letter, noDigit, noBlank⟩ => ⟨letter, noDigit, noBlank⟩,
      fun ⟨letter, noDigit, noBlank⟩ => ⟨letter, noDigit, noBlank⟩⟩

theorem TimeUnit.name_letters {name : String} {u : TimeUnit} (named : ofName? name = some u) :
    name.toList ≠ [] ∧ ∀ c ∈ name.toList, IsLetter c := by
  have spelled : name.toList ≠ [] ∧ name.toList.all (IsLetter ·) = true := by
    unfold ofName? at named
    split at named <;> cases named <;> decide
  simpa using spelled

/-! ## Reading an amount -/

section Reading

variable {total t d : Duration} {first : Bool} {since n : Nat} {fraction : Option Fraction}
  {letters : List Char} {cs : List Char}

/-- From here on this is read, wherever in the text the reader stands. -/
def Reads (total : Duration) (state : ReadState) (cs : List Char) (d : Duration) : Prop :=
  ∀ position, readFrom total position state cs = .ok d

theorem le_valueFrom (n : Nat) (ds : List Nat) : n ≤ valueFrom n ds := by
  induction ds generalizing n with
  | nil => exact Nat.le_refl n
  | cons e ds ih => exact Nat.le_trans (by omega) (ih (n * 10 + e))

theorem reads_digits {ds : List Nat} (small : ∀ e ∈ ds, e < 10)
    (room : valueFrom n ds < twoTo 64) (rest : Reads total (.whole (valueFrom n ds)) cs d) :
    Reads total (.whole n) (ds.map Nat.digitChar ++ cs) d := by
  induction ds generalizing n with
  | nil => exact rest
  | cons e ds ih =>
    have count : n * 10 + e < twoTo 64 := Nat.lt_of_le_of_lt (le_valueFrom _ ds) room
    have digit : Text.digit? 10 e.digitChar = some e :=
      Json.NumeralState.digit?_digitChar (small e List.mem_cons_self)
    intro position
    simp only [List.map_cons, List.cons_append, readFrom, readChar, digit, bounded_of_lt count,
      bind, Except.bind, pure, Except.pure]
    exact ih (fun e inside => small e (List.mem_cons_of_mem _ inside)) room rest _

theorem reads_count (room : n < twoTo 64) (rest : Reads total (.whole n) cs d) :
    Reads total (.expecting first since) (digitChars n ++ cs) d := by
  have small := Decimal.digits_lt n
  have value := Decimal.valueFrom_digits n
  rw [Decimal.digitChars_eq]
  obtain ⟨e, ds, shape⟩ := List.exists_cons_of_ne_nil (Decimal.digits_ne_nil n)
  rw [shape] at small value ⊢
  have value : valueFrom (0 * 10 + e) ds = n := value
  rw [Nat.zero_mul, Nat.zero_add] at value
  have digit : Text.digit? 10 e.digitChar = some e :=
    Json.NumeralState.digit?_digitChar (small e List.mem_cons_self)
  intro position
  simp only [List.map_cons, List.cons_append, readFrom, readChar, digit]
  exact reads_digits (fun e inside => small e (List.mem_cons_of_mem _ inside))
    (value.symm ▸ room) (value.symm ▸ rest) _

theorem reads_letters {name : List Char} (named : ∀ c ∈ name, IsLetter c)
    (rest : Reads total (.unit n fraction (name.reverse ++ letters)) cs d) :
    Reads total (.unit n fraction letters) (name ++ cs) d := by
  induction name generalizing letters with
  | nil => exact rest
  | cons c name ih =>
    obtain ⟨letter, noDigit, noBlank⟩ := named c List.mem_cons_self
    intro position
    simp only [List.cons_append, readFrom, readChar, noDigit, noBlank, letter, if_true,
      Bool.false_eq_true, if_false]
    refine ih (fun c inside => named c (List.mem_cons_of_mem _ inside)) ?_ _
    rwa [List.reverse_cons, List.append_assoc] at rest

theorem reads_name {name : List Char} (some : name ≠ []) (named : ∀ c ∈ name, IsLetter c)
    (rest : Reads total (.unit n none name.reverse) cs d) :
    Reads total (.whole n) (name ++ cs) d := by
  obtain ⟨c, name, rfl⟩ := List.exists_cons_of_ne_nil some
  obtain ⟨letter, noDigit, noBlank⟩ := named c List.mem_cons_self
  intro position
  simp only [List.cons_append, readFrom, readChar, noDigit, noBlank, letter, if_true,
    Bool.false_eq_true, if_false]
  refine reads_letters (fun c inside => named c (List.mem_cons_of_mem _ inside)) ?_ _
  rwa [List.reverse_cons] at rest

theorem reads_end {name : String} (added : extendAmount total n fraction name = .ok d) :
    Reads total (.unit n fraction name.toList.reverse) [] d := by
  intro position
  rw [readFrom, readEnd, List.reverse_reverse, String.ofList_toList, added]

theorem reads_blank {name : String} (added : extendAmount total n fraction name = .ok t)
    (rest : ∀ since, Reads t (.expecting false since) cs d) :
    Reads total (.unit n fraction name.toList.reverse) (' ' :: cs) d := by
  have blank : Text.digit? 10 ' ' = none ∧ Text.isBlank ' ' = true := by decide
  intro position
  simp only [readFrom, readChar, blank, if_true, List.reverse_reverse, String.ofList_toList, added,
    bind, Except.bind, pure, Except.pure]
  exact rest _ _

theorem reads_amount (a : Amount) (room : a.nanos ≤ longest.nanos)
    (rest : Reads total (.unit a.count none a.name.toList.reverse) cs d) :
    Reads total (.expecting first since) (a.text.toList ++ cs) d := by
  obtain ⟨some, letters⟩ := TimeUnit.name_letters a.named
  rw [Amount.text, String.toList_append, List.append_assoc]
  exact reads_count (a.count_lt room) (reads_name some letters rest)

theorem reads_amounts (as : List Amount) (some : as ≠ [])
    (room : total.nanos + (as.map Amount.nanos).sum ≤ longest.nanos) :
    Reads total (.expecting first since) (" ".intercalate (as.map Amount.text)).toList
      ⟨total.nanos + (as.map Amount.nanos).sum⟩ := by
  induction as generalizing total first since with
  | nil => exact absurd rfl some
  | cons a as ih =>
    simp only [List.map_cons, List.sum_cons, ← Nat.add_assoc] at room ⊢
    have here : total.nanos + a.nanos ≤ longest.nanos := by omega
    have alone : a.nanos ≤ longest.nanos := by omega
    have added := a.extendAmount_eq here
    cases as with
    | nil =>
      rw [List.map_nil, String.intercalate_singleton, ← List.append_nil (String.toList _)]
      exact reads_amount a alone (reads_end added)
    | cons b as =>
      rw [List.map_cons, String.intercalate_cons_cons, String.toList_append,
        String.toList_append, List.append_assoc]
      exact reads_amount a alone (reads_blank added fun since => ih (List.cons_ne_nil b as) room)

end Reading

/-! ## The whole text -/

section Texts

variable {cs : List Char} {e : Nat}

theorem trimChars_eq (first : ∀ c ∈ cs.head?, Text.isBlank c = false)
    (last : ∀ c ∈ cs.getLast?, Text.isBlank c = false) : Text.trimChars cs = cs := by
  have keeps (bs : List Char) (h : ∀ c ∈ bs.head?, Text.isBlank c = false) :
      bs.dropWhile Text.isBlank = bs := by
    cases bs with
    | nil => rfl
    | cons b bs => exact List.dropWhile_cons_of_neg (by rw [h b rfl]; exact Bool.false_ne_true)
  rw [← List.head?_reverse] at last
  rw [Text.trimChars, keeps cs first, Text.trimEnd, keeps _ last, List.reverse_reverse]

theorem digitChar_noBlank (small : e < 10) : Text.isBlank e.digitChar = false := by
  revert e
  decide

def withDigit (n? : Option Nat) (c : Char) : Option Nat := do
  let n ← n?
  let d ← Text.digit? 10 c
  pure (n * 10 + d)

theorem foldl_withDigit_none (cs : List Char) : cs.foldl withDigit none = none := by
  induction cs with
  | nil => rfl
  | cons c cs ih => exact ih

theorem digits?_eq_none {c : Char} (inside : c ∈ cs) (noDigit : Text.digit? 10 c = none) :
    digits? cs = none := by
  obtain ⟨as, bs, rfl⟩ := List.append_of_mem inside
  have stuck (n? : Option Nat) : withDigit n? c = none := by
    cases n? <;> simp [withDigit, noDigit]
  have fold : (as ++ c :: bs).foldl withDigit (some 0) = none := by
    rw [List.foldl_append, List.foldl_cons, stuck, foldl_withDigit_none]
  exact (if_neg (List.append_ne_nil_of_right_ne_nil as (List.cons_ne_nil c bs))).trans fold

theorem foldl_withDigit_digits {ds : List Nat} (small : ∀ e ∈ ds, e < 10) (n : Nat) :
    (ds.map Nat.digitChar).foldl withDigit (some n) = some (valueFrom n ds) := by
  induction ds generalizing n with
  | nil => rfl
  | cons e ds ih =>
    have digit : withDigit (some n) e.digitChar = some (n * 10 + e) := by
      simp [withDigit, Json.NumeralState.digit?_digitChar (small e List.mem_cons_self)]
    rw [List.map_cons, List.foldl_cons, digit]
    exact ih (fun e inside => small e (List.mem_cons_of_mem _ inside)) _

theorem digits?_digitChars (n : Nat) : digits? (digitChars n) = some n := by
  have fold : (digitChars n).foldl withDigit (some 0) = some n := by
    rw [Decimal.digitChars_eq, foldl_withDigit_digits (Decimal.digits_lt n), Decimal.valueFrom_digits]
  have some : digitChars n ≠ [] := by
    rw [Decimal.digitChars_eq, ne_eq, List.map_eq_nil_iff]
    exact Decimal.digits_ne_nil n
  exact (if_neg some).trans fold

/-- Digits are read without a sign. -/
theorem count?_digitChar (small : e < 10) (bound : Nat) :
    count? bound (e.digitChar :: cs) = (digits? (e.digitChar :: cs)).filter (· < bound) := by
  have unsigned : e.digitChar ≠ '+' := by
    revert e
    decide
  unfold count?
  split
  · next signed => exact absurd (List.cons.inj signed).1 unsigned
  · rfl

theorem digitChars_shape (n : Nat) : ∃ e < 10, ∃ cs, digitChars n = e.digitChar :: cs := by
  obtain ⟨e, ds, shape⟩ := List.exists_cons_of_ne_nil (Decimal.digits_ne_nil n)
  rw [Decimal.digitChars_eq, shape]
  exact ⟨e, Decimal.digits_lt n e (shape ▸ List.mem_cons_self), _, rfl⟩

theorem Amount.text_first (a : Amount) : ∃ e < 10, ∃ cs, a.text.toList = e.digitChar :: cs := by
  obtain ⟨e, small, cs, shape⟩ := digitChars_shape a.count
  refine ⟨e, small, cs ++ a.name.toList, ?_⟩
  rw [Amount.text, String.toList_append, ← List.cons_append, ← shape]
  rfl

theorem Amount.text_last (a : Amount) : ∃ cs c, IsLetter c ∧ a.text.toList = cs ++ [c] := by
  obtain ⟨some, letters⟩ := TimeUnit.name_letters a.named
  refine ⟨digitChars a.count ++ a.name.toList.dropLast, _, letters _ (List.getLast_mem some), ?_⟩
  rw [List.append_assoc, List.dropLast_concat_getLast, Amount.text, String.toList_append]
  rfl

theorem amounts_first {as : List Amount} (some : as ≠ []) :
    ∃ e < 10, ∃ cs, (" ".intercalate (as.map Amount.text)).toList = e.digitChar :: cs := by
  obtain ⟨a, as, rfl⟩ := List.exists_cons_of_ne_nil some
  obtain ⟨e, small, cs, first⟩ := a.text_first
  cases as with
  | nil => exact ⟨e, small, cs, by simpa using first⟩
  | cons b as =>
    refine ⟨e, small, cs ++ " ".toList ++ (" ".intercalate ((b :: as).map Amount.text)).toList, ?_⟩
    rw [List.map_cons, List.map_cons, String.intercalate_cons_cons, String.toList_append,
      String.toList_append, first]
    rfl

theorem amounts_last {as : List Amount} (some : as ≠ []) :
    ∃ cs c, IsLetter c ∧ (" ".intercalate (as.map Amount.text)).toList = cs ++ [c] := by
  induction as with
  | nil => exact absurd rfl some
  | cons a as ih =>
    cases as with
    | nil =>
      obtain ⟨cs, c, letter, last⟩ := a.text_last
      exact ⟨cs, c, letter, by simpa using last⟩
    | cons b as =>
      obtain ⟨cs, c, letter, last⟩ := ih (List.cons_ne_nil b as)
      refine ⟨(a.text ++ " ").toList ++ cs, c, letter, ?_⟩
      rw [List.map_cons] at last ⊢
      rw [List.map_cons, String.intercalate_cons_cons, String.toList_append, last,
        List.append_assoc]

/-- Written amounts are read as their sum, if it is no longer than any time. -/
theorem read_amounts {as : List Amount} (some : as ≠ [])
    (room : (as.map Amount.nanos).sum ≤ longest.nanos) :
    read (" ".intercalate (as.map Amount.text)) = .ok ⟨(as.map Amount.nanos).sum⟩ := by
  have sum : zero.nanos + (as.map Amount.nanos).sum = (as.map Amount.nanos).sum := Nat.zero_add _
  have reads : Reads zero (.expecting true 0) _ _ := reads_amounts as some
    (Nat.le_trans (Nat.le_of_eq sum) room)
  rw [sum] at reads
  obtain ⟨e, small, cs, first⟩ := amounts_first some
  obtain ⟨ds, c, letter, last⟩ := amounts_last some
  unfold read
  generalize (" ".intercalate (as.map Amount.text)).toList = written at reads first last
  have trimmed : Text.trimChars written = written := by
    apply trimChars_eq
    · rw [first]
      rintro _ ⟨⟩
      exact digitChar_noBlank small
    · rw [last, List.getLast?_concat]
      rintro _ ⟨⟩
      exact letter.noBlank
  have noCount : count? (twoTo 64) written = none := by
    have inside : c ∈ written := last ▸ List.mem_append_right ds List.mem_cons_self
    have none := digits?_eq_none inside letter.noDigit
    rw [first] at none ⊢
    rw [count?_digitChar small, none]
    rfl
  dsimp only
  rw [trimmed, noCount]
  exact reads 0

theorem read_decimal {n : Nat} (room : n < twoTo 64) : read (toString n) = .ok (ofSeconds n) := by
  obtain ⟨e, small, cs, first⟩ := digitChars_shape n
  have blank : ∀ c ∈ digitChars n, Text.isBlank c = false := by
    rw [Decimal.digitChars_eq]
    intro c inside
    obtain ⟨e, digit, rfl⟩ := List.mem_map.mp inside
    exact digitChar_noBlank (Decimal.digits_lt n e digit)
  have trimmed : Text.trimChars (toString n).toList = digitChars n :=
    trimChars_eq (fun c h => blank c (List.mem_of_mem_head? h))
      fun c h => blank c (List.mem_of_getLast? h)
  have counted : count? (twoTo 64) (digitChars n) = some n := by
    rw [first, count?_digitChar small, ← first, digits?_digitChars]
    exact if_pos (decide_eq_true room)
  unfold read
  dsimp only
  rw [trimmed, counted]

theorem read_seconds {n : Nat} (small : n < twoTo 64) :
    read (toString n ++ "s") = .ok (ofSeconds n) := by
  have room : n * nanosPerSecond ≤ longest.nanos :=
    Nat.le_trans (Nat.mul_le_mul_right _ (Nat.le_pred_of_lt small)) (Nat.le_add_right _ _)
  have sum : ([⟨n, .second, "s", rfl, nofun⟩].map Amount.nanos).sum = n * nanosPerSecond := by
    simp [Amount.nanos, TimeUnit.nanos, TimeUnit.scale]
  have reads := read_amounts (List.cons_ne_nil _ []) (sum.symm ▸ room)
  rw [sum] at reads
  exact reads

theorem read_text {d : Duration} (room : d ≤ longest) : read d.text = .ok d := by
  unfold text
  split
  · next none =>
    have zero : d = .zero := congrArg Duration.mk none
    rw [zero]
    rfl
  · next some =>
    obtain ⟨as, written, sum⟩ := d.parts_addUp
    have amounts : as ≠ [] := by
      rintro rfl
      exact some sum.symm
    rw [written, read_amounts amounts (sum.symm ▸ room), sum]

end Texts

end Duration

namespace Settings

open Duration (longest)

/-- Every duration is read from what is written for it, and so are seconds from their number, its
text and that with the unit behind it. -/
theorem duration_reads_written :
    (∀ d ≤ longest, ∃ written, durationJson d = .string written ∧
      Duration.read written = .ok d ∧ duration (.string written) = .ok d) ∧
    ∀ n < twoTo 63, duration (.int n) = .ok (.ofSeconds n) ∧
      ∀ written ∈ [toString n, toString n ++ "s"],
        Duration.read written = .ok (.ofSeconds n) ∧
          duration (.string written) = .ok (.ofSeconds n) := by
  have through {s : String} {d : Duration} (reads : Duration.read s = .ok d) :
      Duration.read s = .ok d ∧ duration (.string s) = .ok d :=
    ⟨reads, by rw [duration, reads]⟩
  refine ⟨fun d room => ⟨d.text, rfl, through (Duration.read_text room)⟩, fun n small => ?_⟩
  have larger : twoTo 63 < twoTo 64 := by decide
  have count : n < twoTo 64 := Nat.lt_trans small larger
  constructor
  · have fits : ¬((n : Int) < -(twoTo 63 : Int) || (twoTo 64 : Int) ≤ n) = true := by
      simp only [Bool.or_eq_true, decide_eq_true_eq]
      omega
    have nonneg : ¬(n : Int) < 0 := by omega
    rw [duration, if_neg fits, if_neg nonneg, Int.toNat_natCast]
  · intro written inside
    simp only [List.mem_cons, List.not_mem_nil, or_false] at inside
    rcases inside with rfl | rfl
    · exact through (Duration.read_decimal count)
    · exact through (Duration.read_seconds count)

theorem duration_reads_written_longest :
    longest.text = "584542046090years 7months 15days 17h 5m 3s 999ms 999us 999ns" ∧
      Duration.read longest.text = .ok longest ∧
      duration (.int 9223372036854775807) = .ok (.ofSeconds 9223372036854775807) ∧
      duration (.string "9223372036854775807s") = .ok (.ofSeconds 9223372036854775807) := by
  have shown : longest.text =
      "584542046090years 7months 15days 17h 5m 3s 999ms 999us 999ns" := by decide +kernel
  obtain ⟨written, seconds⟩ := duration_reads_written
  obtain ⟨_, ⟨⟩, read, -⟩ := written longest (Nat.le_refl _)
  obtain ⟨number, texts⟩ := seconds 9223372036854775807 (by decide)
  obtain ⟨-, unit⟩ := texts "9223372036854775807s" (by decide +kernel)
  exact ⟨shown, read, number, unit⟩

end Settings
end Resilience
