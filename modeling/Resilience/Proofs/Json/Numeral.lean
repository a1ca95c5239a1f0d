import Resilience.Json.Printer
import Resilience.Json.Token
import Resilience.Proofs.Decimal.Digits
/-! # Numerals read back

A numeral is read off its own characters, whatever follows them that cannot belong to a number.
-/
namespace Resilience.Json

/-- No number goes on with what follows. -/
def Stops (rest : List Char) : Prop := ∀ c ∈ rest.head?, ∀ s : NumeralState, s.next? c = none

/-- In front of anything that ends a number, the characters are these tokens. -/
def Lexes (cs : List Char) (ts : List Token) : Prop :=
  ∀ rest, Stops rest →
    tokensFrom .between (cs ++ rest) = (tokensFrom .between rest).map (ts ++ ·)

namespace NumeralState

def run? (s : NumeralState) : List Char → Option NumeralState
  | [] => some s
  | c :: cs => (s.next? c).bind (·.run? cs)

theorem run?_append {s t : NumeralState} {cs ds : List Char} (h : s.run? cs = some t) :
    s.run? (cs ++ ds) = t.run? ds := by
  induction cs generalizing s with
  | nil =>
    cases h
    rfl
  | cons c cs ih =>
    obtain ⟨u, next, rest⟩ := Option.bind_eq_some_iff.mp h
    rw [List.cons_append, run?, next, Option.bind_some, ih rest]

theorem tokensFrom_run {s t : NumeralState} {cs rest : List Char} (h : s.run? cs = some t) :
    tokensFrom (.numeral s) (cs ++ rest) = tokensFrom (.numeral t) rest := by
  induction cs generalizing s with
  | nil =>
    cases h
    rfl
  | cons c cs ih =>
    obtain ⟨u, next, run⟩ := Option.bind_eq_some_iff.mp h
    rw [List.cons_append, tokensFrom, lexChar]
    simp only [next, List.nil_append, Option.map_id', ih run]

theorem tokensFrom_stops {s : NumeralState} {n : Numeral} {rest : List Char}
    (ended : s.finish? = some n) (h : Stops rest) :
    tokensFrom (.numeral s) rest = (tokensFrom .between rest).map (.numeral n :: ·) := by
  cases rest with
  | nil => simp [tokensFrom, ended]
  | cons c rest =>
    rw [tokensFrom, tokensFrom, lexChar, lexChar, h c rfl s, ended]
    cases lexBetween c with
    | none => rfl
    | some p => simp [Function.comp_def]

theorem digit?_digitChar {d : Nat} (h : d < 10) : Text.digit? 10 d.digitChar = some d := by
  revert d
  decide

/-- Digits are gathered where every digit is added in front of the others. -/
theorem run?_digits {f : List Nat → NumeralState}
    (step : ∀ d < 10, ∀ acc, (f acc).next? d.digitChar = some (f (d :: acc)))
    {ds : List Nat} (small : ∀ d ∈ ds, d < 10) (acc : List Nat) :
    (f acc).run? (ds.map Nat.digitChar) = some (f (ds.reverse ++ acc)) := by
  induction ds generalizing acc with
  | nil => rfl
  | cons d ds ih =>
    rw [List.map_cons, run?, step d (small d (by simp)), Option.bind_some,
      ih (fun e he => small e (by simp [he]))]
    simp

def first (negative : Bool) (d : Nat) : NumeralState :=
  if d = 0 then .zero negative else .whole negative [d]

def behindWhole (negative : Bool) (ds : List Nat) : NumeralState :=
  if ds = [0] then .zero negative else .whole negative ds.reverse

theorem lexBetween_digitChar {d : Nat} (h : d < 10) :
    lexBetween d.digitChar = some ([], .numeral (first false d)) := by
  revert d
  decide

theorem next?_sign {d : Nat} (h : d < 10) :
    NumeralState.sign.next? d.digitChar = some (first true d) := by
  revert d
  decide

variable {negative : Bool} {whole : List Nat}

theorem run?_whole {d : Nat} {ds : List Nat} (small : ∀ e ∈ d :: ds, e < 10)
    (leads : Decimal.Leads (d :: ds)) :
    (first negative d).run? (ds.map Nat.digitChar) = some (behindWhole negative (d :: ds)) := by
  cases ds with
  | nil =>
    by_cases zero : d = 0
    · subst zero
      rfl
    · simp [run?, first, behindWhole, zero]
  | cons e es =>
    have leading : d ≠ 0 := leads
    rw [first, if_neg leading, run?_digits (f := .whole negative) (fun c hc acc => by
      simp [next?, digit?_digitChar hc]) (fun c hc => small c (by simp [hc]))]
    simp [behindWhole]

/-- Behind what may end a number, or go on with a power. -/
structure Behind (s : NumeralState) (negative : Bool) (whole : List Nat)
    (fraction : Option (List Nat)) : Prop where
  ends : s.finish? = some ⟨negative, whole, fraction, none⟩
  goes : s.next? 'e' = some (.mark negative whole fraction)

theorem behind_whole (negative : Bool) (whole : List Nat) :
    Behind (behindWhole negative whole) negative whole none := by
  by_cases zero : whole = [0]
  · subst zero
    exact ⟨rfl, rfl⟩
  · rw [behindWhole, if_neg zero]
    exact ⟨by simp [finish?], by simp [next?, show Text.digit? 10 'e' = none from rfl]⟩

theorem next?_point (negative : Bool) (whole : List Nat) :
    (behindWhole negative whole).next? '.' = some (.point negative whole) := by
  by_cases zero : whole = [0]
  · subst zero
    rfl
  · rw [behindWhole, if_neg zero]
    simp [next?, show Text.digit? 10 '.' = none from rfl]

theorem run?_fraction {ds : List Nat} (small : ∀ d ∈ ds, d < 10) (some_digit : ds ≠ []) :
    (behindWhole negative whole).run? ('.' :: ds.map Nat.digitChar) =
      some (.fraction negative whole ds.reverse) := by
  obtain ⟨d, ds, rfl⟩ := List.exists_cons_of_ne_nil some_digit
  rw [run?, next?_point, Option.bind_some, List.map_cons, run?]
  simp only [next?, digit?_digitChar (small d (by simp)), Option.bind_some]
  rw [run?_digits (f := .fraction negative whole) (fun c hc acc => by
    simp [next?, digit?_digitChar hc]) (fun c hc => small c (by simp [hc]))]
  simp

theorem run?_power {s : NumeralState} {fraction : Option (List Nat)}
    (behind : Behind s negative whole fraction) {minus : Bool} {ds : List Nat}
    (small : ∀ d ∈ ds, d < 10) (some_digit : ds ≠ []) :
    s.run? ('e' :: (if minus then '-' else '+') :: ds.map Nat.digitChar) =
      some (.power negative whole fraction minus ds.reverse) := by
  obtain ⟨d, ds, rfl⟩ := List.exists_cons_of_ne_nil some_digit
  have sign : (mark negative whole fraction).next? (if minus then '-' else '+') =
      some (.powerSign negative whole fraction minus) := by
    cases minus <;> rfl
  rw [run?, behind.goes, Option.bind_some, run?, sign, Option.bind_some, List.map_cons, run?]
  simp only [next?, digit?_digitChar (small d (by simp)), Option.bind_some]
  rw [run?_digits (f := .power negative whole fraction minus) (fun c hc acc => by
    simp [next?, digit?_digitChar hc]) (fun c hc => small c (by simp [hc]))]
  simp

end NumeralState

namespace Numeral

def fractionChars : Option (List Nat) → List Char
  | none => []
  | some ds => '.' :: ds.map Nat.digitChar

def powerChars : Option (Bool × List Nat) → List Char
  | none => []
  | some (minus, ds) => 'e' :: (if minus then '-' else '+') :: ds.map Nat.digitChar

def chars (n : Numeral) : List Char :=
  (if n.negative then ['-'] else []) ++
    (n.whole.map Nat.digitChar ++ (fractionChars n.fraction ++ powerChars n.power))

def AreDigits (ds : List Nat) : Prop := ds ≠ [] ∧ ∀ d ∈ ds, d < 10

structure Wellformed (n : Numeral) : Prop where
  small : ∀ d ∈ n.whole, d < 10
  leads : Decimal.Leads n.whole
  fraction : ∀ ds ∈ n.fraction, AreDigits ds
  power : ∀ p ∈ n.power, AreDigits p.2

open NumeralState

theorem run?_tail {n : Numeral} (h : n.Wellformed) :
    ∃ s, (behindWhole n.negative n.whole).run? (fractionChars n.fraction ++ powerChars n.power) =
      some s ∧ s.finish? = some n := by
  obtain ⟨negative, whole, fraction, power⟩ := n
  have middle : ∃ s, (behindWhole negative whole).run? (fractionChars fraction) = some s ∧
      Behind s negative whole fraction := by
    cases fraction with
    | none => exact ⟨_, rfl, behind_whole negative whole⟩
    | some ds =>
      obtain ⟨some_digit, small⟩ := h.fraction ds rfl
      refine ⟨_, run?_fraction small some_digit, ?_, ?_⟩
      · simp [finish?]
      · simp [next?, show Text.digit? 10 'e' = none from rfl]
  obtain ⟨s, run, behind⟩ := middle
  cases power with
  | none => exact ⟨s, (run?_append run).trans rfl, behind.ends⟩
  | some p =>
    obtain ⟨some_digit, small⟩ := h.power p rfl
    refine ⟨_, (run?_append run).trans (run?_power behind small some_digit), ?_⟩
    simp [finish?]

theorem lexes {n : Numeral} (h : n.Wellformed) : Lexes n.chars [.numeral n] := by
  intro rest stops
  obtain ⟨s, run, ended⟩ := run?_tail h
  obtain ⟨negative, whole, fraction, power⟩ := n
  cases whole with
  | nil => exact h.leads.elim
  | cons d ds =>
    have small := h.small d List.mem_cons_self
    have body : (first negative d).run?
        (ds.map Nat.digitChar ++ (fractionChars fraction ++ powerChars power)) = some s :=
      (run?_append (run?_whole h.small h.leads)).trans run
    have finished := (tokensFrom_run body).trans (tokensFrom_stops ended stops)
    cases negative with
    | false =>
      rw [chars]
      simp only [Bool.false_eq_true, if_false, List.nil_append, List.map_cons, List.cons_append]
      rw [tokensFrom, lexChar, lexBetween_digitChar small]
      simp only [List.nil_append, Option.map_id', finished]
    | true =>
      rw [chars]
      simp only [if_true, List.map_cons, List.cons_append, List.nil_append]
      rw [tokensFrom, lexChar, show lexBetween '-' = some ([], .numeral .sign) from rfl]
      simp only [List.nil_append, Option.map_id']
      rw [tokensFrom, lexChar, next?_sign small]
      simp only [List.nil_append, Option.map_id', finished]

end Numeral
end Resilience.Json
