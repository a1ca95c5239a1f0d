import Resilience.Proofs.Yaml.Row
/-! # Tokens one after another

Outside of flows a reading is told by the blocks that are open, the tokens so far and what is left
of the text. Each kind of token takes such a reading to the next, and the tokens of a text are
those of the reading at its end.
-/
namespace Resilience.Yaml

namespace Reading

/-- Tokens can be read one after another until the second reading is reached, and each of them
takes part of the text. -/
inductive Leads : Reading → Reading → Prop where
  | refl (r : Reading) : Leads r r
  | step {r fresh next last : Reading} : r.rest ≠ [] → r.dropStale? = some fresh →
      fresh.next? = some next → next.rest.length < r.rest.length → Leads next last →
      Leads r last

theorem Leads.trans {r s t : Reading} (h : Leads r s) (k : Leads s t) : Leads r t := by
  induction h with
  | refl _ => exact k
  | step left fresh next shorter _ ih => exact .step left fresh next shorter (ih k)

theorem Leads.one {r fresh next : Reading} (left : r.rest ≠ []) (kept : r.dropStale? = some fresh)
    (read : fresh.next? = some next) (shorter : next.rest.length < r.rest.length) :
    Leads r next :=
  .step left kept read shorter (.refl next)

/-- As every token takes part of the text, there is fuel for as many as it has. -/
theorem Leads.tokensFrom {r last : Reading} (h : Leads r last) :
    ∀ fuel, r.rest.length < fuel →
      ∃ fuel', last.rest.length < fuel' ∧ tokensFrom fuel r = tokensFrom fuel' last := by
  induction h with
  | refl r => exact fun fuel enough => ⟨fuel, enough, rfl⟩
  | @step r fresh next last left kept read shorter _ ih =>
    intro fuel enough
    cases fuel with
    | zero => omega
    | succ fuel =>
      obtain ⟨fuel', enough', same⟩ := ih fuel (by omega)
      refine ⟨fuel', enough', ?_⟩
      rw [← same, Reading.tokensFrom, if_neg left, kept]
      simp only [read]

theorem tokensFrom_ended {r : Reading} (ended : r.rest = []) {fuel : Nat}
    (enough : r.rest.length < fuel) : tokensFrom fuel r = r.tokens.reverse := by
  cases fuel with
  | zero => omega
  | succ fuel => rw [tokensFrom, if_pos ended]

theorem tokensFrom_stuck {r fresh : Reading} (left : r.rest ≠ [])
    (kept : r.dropStale? = some fresh) (stuck : fresh.next? = none) {fuel : Nat}
    (enough : r.rest.length < fuel) : tokensFrom fuel r = fresh.broken := by
  cases fuel with
  | zero => omega
  | succ fuel =>
    rw [tokensFrom, if_neg left, kept]
    simp only [stuck]

theorem skipGap_length (inFlow : Bool) (spots : List Spot) : ∀ keyAllowed inComment,
    (skipGap inFlow keyAllowed inComment spots).2.length ≤ spots.length := by
  induction spots with
  | nil => exact fun _ _ => Nat.le_refl 0
  | cons s rest ih =>
    intro keyAllowed inComment
    simp only [skipGap, List.length_cons]
    repeat' split
    all_goals first
      | exact Nat.le_succ_of_le (ih _ _)
      | exact Nat.le_refl _

end Reading

/-- The blocks that are open and the tokens so far, the last one first. -/
structure Blocks where
  indents : List Nat := []
  tokens : List Token := []
deriving DecidableEq, Repr

namespace Blocks

def emit (b : Blocks) (t : Token) : Blocks := { b with tokens := t :: b.tokens }

def close (b : Blocks) (column : Nat) : Blocks :=
  let (indents, tokens) := Reading.closeBlocks column b.indents b.tokens
  ⟨indents, tokens⟩

/-- A block at a column, begun by this token unless it is open already. -/
def openAt (b : Blocks) (column : Nat) (t : Token) : Blocks :=
  if b.indents.head?.all (· < column) then ⟨column :: b.indents, t :: b.tokens⟩ else b

def closeAll (b : Blocks) : Blocks := ⟨[], b.indents.map (fun _ => Token.blockEnd) ++ b.tokens⟩

def reading (b : Blocks) (keyAllowed : Bool) (rest : List Spot) : Reading :=
  { rest := rest, tokens := b.tokens, indents := b.indents, keyAllowed := keyAllowed }

/-- After closing, no block is further right. -/
theorem head_close (b : Blocks) (column : Nat) :
    ∀ i, (b.close column).indents.head? = some i → i ≤ column := by
  obtain ⟨indents, tokens⟩ := b
  induction indents generalizing tokens with
  | nil => intro i h; cases h
  | cons i indents ih =>
    by_cases right : column < i
    · simpa [close, Reading.closeBlocks, right] using ih (.blockEnd :: tokens)
    · intro j h
      simp only [close, Reading.closeBlocks, right, if_false, List.head?_cons,
        Option.some.injEq] at h
      omega

theorem closeBlocks_of_head {indents : List Nat} {column : Nat}
    (h : ∀ i, indents.head? = some i → i ≤ column) (tokens : List Token) :
    Reading.closeBlocks column indents tokens = (indents, tokens) := by
  cases indents with
  | nil => rfl
  | cons i indents =>
    have left := h i rfl
    rw [Reading.closeBlocks, if_neg (by omega)]

theorem close_of_head {b : Blocks} {column : Nat}
    (h : ∀ i, b.indents.head? = some i → i ≤ column) : b.close column = b := by
  rw [close, closeBlocks_of_head h]

/-- After closing, a block that is opened at the same column is the innermost one. -/
theorem head_openAt_close (b : Blocks) (column : Nat) (t : Token) :
    ((b.close column).openAt column t).indents.head? = some column := by
  have left := head_close b column
  generalize b.close column = closed at left ⊢
  unfold openAt
  split
  · rfl
  · next h =>
    obtain ⟨_ | ⟨i, indents⟩, tokens⟩ := closed
    · exact absurd rfl h
    · have := left i rfl
      simp only [List.head?_cons, Option.all_some, decide_eq_true_eq] at h
      rw [List.head?_cons, show i = column by omega]

variable (b : Blocks) (keyAllowed : Bool) (rest : List Spot)

theorem dropStale?_reading : (b.reading keyAllowed rest).dropStale? =
    some (b.reading keyAllowed rest) :=
  rfl

/-- Nothing is lost where a reading cannot go on. -/
theorem broken_reading : (b.reading keyAllowed rest).broken = b.tokens.reverse ++ [.bad] := by
  change b.tokens.reverse.take b.tokens.length ++ [.bad] = _
  rw [← b.tokens.length_reverse, List.take_length]

/-- A reading goes on from the next token's first character, blocks further right closed. -/
theorem next?_reading {keyAllowed' : Bool} {s : Spot} {more : List Spot}
    (gap : Reading.skipGap false keyAllowed false rest = (keyAllowed', s :: more)) :
    (b.reading keyAllowed rest).next? =
      ((b.close s.column).reading keyAllowed' (s :: more)).token? := by
  have reached : (b.reading keyAllowed rest).toToken = b.reading keyAllowed' (s :: more) :=
    congrArg (fun p : Bool × List Spot => b.reading p.1 p.2) gap
  rw [Reading.next?, reached, dropStale?_reading]
  rfl

end Blocks

/-- The reading stands before the text that begins here: what lies between is a gap with a line's
end in it, and no key is waited for. -/
structure Reading.Standing (r : Reading) (rest : List Spot) (b : Blocks) : Prop where
  tokens : r.tokens = b.tokens
  indents : r.indents = b.indents
  outerKeys : r.outerKeys = []
  gap : Reading.skipGap false r.keyAllowed false r.rest = (true, rest)
  waiting : ∀ k, r.key = some k → k.required = false ∧ k.line < r.line

namespace Reading.Standing

variable {r : Reading} {rest : List Spot} {b : Blocks}

theorem dropStale? (h : Standing r rest b) :
    r.dropStale? = some (b.reading r.keyAllowed r.rest) := by
  obtain ⟨left, tokens, indents, keyAllowed, key, outerKeys⟩ := r
  obtain ⟨rfl, rfl, rfl, -, waiting⟩ := h
  cases key with
  | none => rfl
  | some k =>
    obtain ⟨free, passed⟩ := waiting k rfl
    have stale : ∀ column, k.isStale (Reading.line _) column = true := fun column => by
      rw [KeyPlace.isStale, decide_eq_true passed, Bool.true_or]
    simp only [Reading.dropStale?, liveKey?, stale, free, if_true]
    rfl

/-- A token is read from where the text begins. -/
theorem leads {s : Spot} {more : List Spot} (h : Standing r (s :: more) b) {next : Reading}
    (read : ((b.close s.column).reading true (s :: more)).token? = some next)
    (shorter : next.rest.length < (s :: more).length) : Leads r next := by
  have within := skipGap_length false r.rest r.keyAllowed false
  rw [h.gap] at within
  dsimp only at within
  refine .one ?_ h.dropStale? ?_ (by omega)
  · intro none
    rw [none] at within
    simp at within
  · rw [b.next?_reading r.keyAllowed r.rest h.gap, read]

end Reading.Standing

theorem Blocks.leads_space (b : Blocks) (keyAllowed : Bool) {line column m : Nat} (s : Spot)
    {more : List Spot} (solid : isSolid s.char = true) (head : b.indents.head? = some m)
    (right : m ≤ s.column) {next : Reading}
    (read : (b.reading keyAllowed (s :: more)).token? = some next)
    (shorter : next.rest.length < (s :: more).length) :
    (b.reading keyAllowed (⟨' ', line, column⟩ :: s :: more)).Leads next := by
  have gap : Reading.skipGap false keyAllowed false (⟨' ', line, column⟩ :: s :: more) =
      (keyAllowed, s :: more) := by
    rw [← Reading.skipGap_solid false keyAllowed s more solid]
    exact Reading.skipGap_spaces line column false keyAllowed 1 (s :: more)
  refine .one (List.cons_ne_nil _ _) (b.dropStale?_reading keyAllowed _) ?_ ?_
  · rw [b.next?_reading keyAllowed _ gap, close_of_head, read]
    intro i hi
    rw [head, Option.some.injEq] at hi
    omega
  · exact Nat.lt_succ_of_lt shorter

namespace Blocks

variable (b : Blocks) (keyAllowed : Bool) {line column : Nat} (rest : List Spot)

@[simp] theorem reading_rest : (b.reading keyAllowed rest).rest = rest := rfl

@[simp] theorem reading_inFlow : (b.reading keyAllowed rest).inFlow = false := rfl

@[simp] theorem reading_column (c : Char) :
    (b.reading keyAllowed (⟨c, line, column⟩ :: rest)).column = column := rfl

theorem atMark_of_ne {c mark : Char} (h : 0 < column ∨ c ≠ mark) :
    atMark mark (⟨c, line, column⟩ :: rest) = false := by
  have left : (column == 0 && c == mark) = false := by
    rcases h with h | h
    · rw [show (column == 0) = false by simp; omega, Bool.false_and]
    · rw [show (c == mark) = false by simpa using h, Bool.and_false]
  rcases rest with _ | ⟨t, _ | ⟨u, rest⟩⟩ <;> simp [atMark, left]

variable {rest}

/-- What a plain scalar begins with: no mark, or one that is none in its place. -/
def beginsPlain (column : Nat) (c next : Char) : Bool :=
  (!Reading.isIndicator c && !isGap c && (c != '.' || 0 < column)) ||
    (c == '-' && !isGap next && 0 < column)

theorem token?_plain {c : Char} (begins : beginsPlain column c (front rest) = true) :
    (b.reading keyAllowed (⟨c, line, column⟩ :: rest)).token? =
      (b.reading keyAllowed (⟨c, line, column⟩ :: rest)).plain? := by
  rw [beginsPlain, Bool.or_eq_true] at begins
  unfold Reading.token?
  simp only [reading_rest, reading_inFlow, reading_column, front_cons, second_cons]
  rcases begins with begins | begins
  · simp only [Bool.and_eq_true, Bool.not_eq_true', isGap, isLineEnd, Bool.or_eq_false_iff,
      beq_eq_false_iff_ne, Bool.or_eq_true, bne_iff_ne, decide_eq_true_eq] at begins
    obtain ⟨⟨plain, unblank, -, inText⟩, dot⟩ := begins
    have unmarked : atMark '.' (⟨c, line, column⟩ :: rest) = false := atMark_of_ne rest dot.symm
    have undashed : atMark '-' (⟨c, line, column⟩ :: rest) = false :=
      atMark_of_ne rest (Or.inr (by rintro rfl; exact absurd plain (by decide)))
    have marks := plain
    simp [Reading.isIndicator] at marks
    simp [inText, marks, plain, unblank, unmarked, undashed]
  · simp only [Bool.and_eq_true, beq_iff_eq, Bool.not_eq_true', decide_eq_true_eq] at begins
    obtain ⟨⟨rfl, word⟩, right⟩ := begins
    simp [atMark_of_ne rest (Or.inl right), word, endMark]

theorem indent_reading (s : Spot) (t : Token) :
    (b.reading keyAllowed (s :: rest)).indent t =
      (b.openAt s.column t).reading keyAllowed (s :: rest) := by
  change (if b.indents.head?.all (· < s.column) then _ else _) = _
  unfold openAt
  by_cases deeper : b.indents.head?.all (· < s.column) = true
  · rw [if_pos deeper, if_pos deeper]
    rfl
  · rw [if_neg deeper, if_neg deeper]

theorem token?_entry :
    (b.reading true (⟨'-', line, column⟩ :: ⟨' ', line, column + 1⟩ :: rest)).token? =
      some (((b.openAt column .blockSequence).emit .blockEntry).reading true
        (⟨' ', line, column + 1⟩ :: rest)) := by
  have unmarked : atMark '-' (⟨'-', line, column⟩ :: ⟨' ', line, column + 1⟩ :: rest) = false := by
    rcases rest with _ | ⟨t, rest⟩ <;> simp [atMark]
  have undotted := @atMark_of_ne line column (⟨' ', line, column + 1⟩ :: rest) '-' '.'
    (Or.inr (by decide))
  have entry : (b.reading true (⟨'-', line, column⟩ :: ⟨' ', line, column + 1⟩ :: rest)).token? =
      Reading.blockEntry?
        (b.reading true (⟨'-', line, column⟩ :: ⟨' ', line, column + 1⟩ :: rest)) := by
    unfold Reading.token?
    simp only [reading_rest, reading_inFlow, reading_column, front_cons, second_cons]
    simp [unmarked, undotted, endMark, isGap, isBlank]
  rw [entry, Reading.blockEntry?, indent_reading]
  rfl

def key (b : Blocks) (column : Nat) (w : String) : Blocks :=
  let b := (b.close column).openAt column .blockMapping
  { b with tokens := .value :: .scalar w true :: .key :: b.tokens }

def keyed (b : Blocks) (line column : Nat) (w : List Char) (rest : List Spot) : Reading :=
  { (b.emit (.scalar (String.ofList w) true)).reading false rest with
    key := some ⟨line, column, b.tokens.length, b.indents.head? == some column⟩ }

theorem token?_value {w : List Char} {here : Nat} (follows : isGap (front rest) = true) :
    (b.keyed line column w (⟨':', line, here⟩ :: rest)).token? =
      some (Blocks.reading
        ⟨(b.openAt column .blockMapping).indents, .value :: .scalar (String.ofList w) true ::
          .key :: (b.openAt column .blockMapping).tokens⟩ false rest) := by
  have value : (b.keyed line column w (⟨':', line, here⟩ :: rest)).token? =
      (b.keyed line column w (⟨':', line, here⟩ :: rest)).valueMark? := by
    unfold Reading.token?
    have unmarked := @atMark_of_ne line here rest ':' '-' (Or.inr (by decide))
    have undotted := @atMark_of_ne line here rest ':' '.' (Or.inr (by decide))
    simp [keyed, unmarked, undotted, endMark, follows]
  have one : (Token.scalar (String.ofList w) true :: b.tokens).length - b.tokens.length = 1 := by
    rw [List.length_cons]
    omega
  rw [value]
  simp only [Reading.valueMark?, keyed, Reading.markKey, reading, emit, one]
  by_cases deeper : b.indents.head?.all (· < column) = true
  · rw [openAt, if_pos deeper]
    simp [Reading.isDeeper, Reading.inFlow, deeper, Reading.emit, Reading.skip]
  · rw [openAt, if_neg deeper]
    simp [Reading.isDeeper, Reading.inFlow, deeper, Reading.emit, Reading.skip]

/-- A word in front of a colon is read as a scalar that may be a key. -/
theorem plain?_key {c : Char} {w : List Char} {here : Nat} (colon : isGap (front rest) = true)
    (words : ∀ d ∈ c :: w, isPlain d = true ∧ isBlank d = false) :
    (b.reading true (row line column (c :: w) ++ ⟨':', line, here⟩ :: rest)).plain? =
      some (b.keyed line column (c :: w) (⟨':', line, here⟩ :: rest)) := by
  have noted : (b.reading true (row line column (c :: w) ++ ⟨':', line, here⟩ :: rest)).noteKey? =
      some { b.reading true (row line column (c :: w) ++ ⟨':', line, here⟩ :: rest) with
        key := some ⟨line, column, b.tokens.length, b.indents.head? == some column⟩ } := rfl
  have read := plainFrom_key line column words (b.indents.head?.elim 0 (· + 1)) here colon
  rw [Reading.plain?, noted]
  simp only [Option.bind_eq_bind, Option.bind_some]
  simp only [Reading.inFlow, reading, List.isEmpty_nil, Bool.not_true]
  rw [read]
  rfl

theorem dropStale?_keyed {w : List Char} {here : Nat} (near : here ≤ column + 1024) :
    (b.keyed line column w (⟨':', line, here⟩ :: rest)).dropStale? =
      some (b.keyed line column w (⟨':', line, here⟩ :: rest)) := by
  have fresh : ¬ column + 1024 < here := by omega
  simp [Reading.dropStale?, Reading.liveKey?, keyed, reading, KeyPlace.isStale, Reading.line,
    Reading.column, fresh]

theorem next?_keyed {w : List Char} {here : Nat} (near : here ≤ column + 1024)
    (left : ∀ i, b.indents.head? = some i → i ≤ here) :
    (b.keyed line column w (⟨':', line, here⟩ :: rest)).next? =
      (b.keyed line column w (⟨':', line, here⟩ :: rest)).token? := by
  have reached : (b.keyed line column w (⟨':', line, here⟩ :: rest)).toToken =
      b.keyed line column w (⟨':', line, here⟩ :: rest) := by
    unfold Reading.toToken
    rw [show (b.keyed line column w (⟨':', line, here⟩ :: rest)).rest =
      ⟨':', line, here⟩ :: rest from rfl, Reading.skipGap_solid _ _ _ _ (by rfl)]
    rfl
  have kept : (b.keyed line column w (⟨':', line, here⟩ :: rest)).unindent here =
      b.keyed line column w (⟨':', line, here⟩ :: rest) := by
    unfold Reading.unindent
    rw [show Reading.closeBlocks here (b.keyed line column w (⟨':', line, here⟩ :: rest)).indents _
      = _ from closeBlocks_of_head left _]
    rfl
  rw [Reading.next?, reached, dropStale?_keyed b near]
  exact congrArg Reading.token? kept

end Blocks

theorem Reading.Standing.leads_key {r : Reading} {b : Blocks} {line column : Nat} {c : Char}
    {w : List Char} {rest : List Spot}
    (h : r.Standing (row line column (c :: w) ++
      ⟨':', line, column + (c :: w).length⟩ :: rest) b)
    (begins : ∀ next, Blocks.beginsPlain column c next = true)
    (words : ∀ d ∈ c :: w, isPlain d = true ∧ isBlank d = false)
    (short : (c :: w).length ≤ 1024) (colon : isGap (front rest) = true) :
    Leads r ((b.key column (String.ofList (c :: w))).reading false rest) := by
  have left := Blocks.head_close b column
  have first : Leads r ((b.close column).keyed line column (c :: w)
      (⟨':', line, column + (c :: w).length⟩ :: rest)) := by
    refine h.leads ?_ ?_
    · rw [← Blocks.plain?_key (b.close column) colon words]
      exact Blocks.token?_plain _ _ (begins _)
    · change rest.length + 1 < (row line column (c :: w) ++ _ :: rest).length
      rw [List.length_append, length_row, List.length_cons, List.length_cons]
      omega
  refine first.trans (.one (List.cons_ne_nil _ _) (Blocks.dropStale?_keyed _ (by omega)) ?_ ?_)
  · rw [Blocks.next?_keyed _ (by omega) fun i hi => by have := left i hi; omega,
      Blocks.token?_value _ colon]
    rfl
  · simp [Blocks.keyed, Blocks.reading]

end Resilience.Yaml
