import Resilience.Proofs.Yaml.Step
/-! # Values on a line

Behind a key or the dash of an item stands a plain scalar, a quoted one or a list of quoted ones.
Whatever it is, the reading stands before the next line when it is read.
-/
namespace Resilience.Yaml

open Reading (Leads Standing skipGap)

variable {line column : Nat}

/-- A text that a token begins with, or the end of all text. -/
def Opens (body : List Char) : Prop :=
  ∀ c ∈ body.head?, isSolid c = true ∧ isInLine c = true

theorem spotsFrom_opens {body : List Char} (h : Opens body) (line column : Nat) :
    ∃ c rest, spotsFrom line column body = ⟨c, line, column⟩ :: rest ∧ isSolid c = true ∧
      (c = endMark ∨ isGap c = false) := by
  cases body with
  | nil => exact ⟨endMark, [], rfl, by decide, Or.inl rfl⟩
  | cons c cs =>
    obtain ⟨solid, inLine⟩ := h c rfl
    refine ⟨c, spotsFrom line (column + 1) cs, spotsFrom_cons line column inLine cs, solid, ?_⟩
    obtain ⟨unbroken, inText, -⟩ := isInLine_spec inLine
    simp only [isSolid, Bool.and_eq_true, Bool.not_eq_true'] at solid
    exact Or.inr (by simp [isGap, isLineEnd, solid.1.1.2, unbroken, inText])

def nextLine (indent : Nat) (body : List Char) : List Char :=
  '\n' :: (List.replicate indent ' ' ++ body)

theorem spotsFrom_nextLine (indent : Nat) (body : List Char) :
    spotsFrom line column (nextLine indent body) = ⟨'\n', line, column⟩ ::
      (row (line + 1) 0 (List.replicate indent ' ') ++ spotsFrom (line + 1) indent body) := by
  rw [nextLine, spotsFrom_newline, spotsFrom_append, List.length_replicate, Nat.zero_add]
  intro c hc
  rw [List.eq_of_mem_replicate hc]
  decide

theorem skipGap_nextLine (keyAllowed : Bool) (indent : Nat) {body : List Char} (h : Opens body) :
    skipGap false keyAllowed false (spotsFrom line column (nextLine indent body)) =
      (true, spotsFrom (line + 1) indent body) := by
  obtain ⟨c, rest, opened, solid, -⟩ := spotsFrom_opens h (line + 1) indent
  rw [spotsFrom_nextLine, skipGap]
  simp only [show isBreak '\n' = true from rfl, if_true, Bool.not_false, Bool.or_true]
  rw [Reading.skipGap_spaces, opened, Reading.skipGap_solid _ _ ⟨c, line + 1, indent⟩ _ solid]

/-- At the end of a line a reading stands before the next one. -/
theorem standing_nextLine (b : Blocks) (keyAllowed : Bool) (indent : Nat) {body : List Char}
    (h : Opens body) :
    (b.reading keyAllowed (spotsFrom line column (nextLine indent body))).Standing
      (spotsFrom (line + 1) indent body) b :=
  ⟨rfl, rfl, rfl, skipGap_nextLine keyAllowed indent h, fun _ none => by cases none⟩

def behindPlain (b : Blocks) (keyAllowed : Bool) (line column : Nat) (w : List Char)
    (rest : List Spot) : Reading :=
  { (b.emit (.scalar (String.ofList w) true)).reading true rest with
    key := if keyAllowed then some ⟨line, column, b.tokens.length, false⟩ else none }

theorem plain?_line (b : Blocks) (keyAllowed : Bool) {m : Nat} (head : b.indents.head? = some m)
    (right : m < column) {c : Char} {w : List Char} {here : Nat}
    (plain : ∀ d ∈ c :: w, isPlain d = true)
    (last : ∀ d, (c :: w).getLast? = some d → isBlank d = false)
    (indent : Nat) {s : Spot} {more : List Spot}
    (solid : isBlank s.char = false ∧ isBreak s.char = false)
    (outside : s.char = endMark ∨ s.column < m + 1) :
    (b.reading keyAllowed (row line column (c :: w) ++ ⟨'\n', line, here⟩ ::
        (row (line + 1) 0 (List.replicate indent ' ') ++ s :: more))).plain? =
      some (behindPlain b keyAllowed line column (c :: w) (s :: more)) := by
  have read := @plainFrom_line line column (m + 1) (c :: w) plain last right
    (Nat.zero_lt_of_lt right) here indent s more solid outside
  have margin : b.indents.head?.elim 0 (· + 1) = m + 1 := by rw [head]; rfl
  have free : (some m == some column) = false := by
    simp only [beq_eq_false_iff_ne, ne_eq, Option.some.injEq]
    omega
  have noted : (b.reading keyAllowed (row line column (c :: w) ++ ⟨'\n', line, here⟩ ::
      (row (line + 1) 0 (List.replicate indent ' ') ++ s :: more))).noteKey? =
      some { b.reading keyAllowed (row line column (c :: w) ++ ⟨'\n', line, here⟩ ::
        (row (line + 1) 0 (List.replicate indent ' ') ++ s :: more)) with
        key := if keyAllowed then some ⟨line, column, b.tokens.length, false⟩ else none } := by
    rw [← free, ← head]
    cases keyAllowed <;> rfl
  generalize row line column (c :: w) ++ ⟨'\n', line, here⟩ ::
    (row (line + 1) 0 (List.replicate indent ' ') ++ s :: more) = spots at read noted ⊢
  rw [Reading.plain?, noted]
  simp only [Option.bind_eq_bind, Option.bind_some, Reading.inFlow, Blocks.reading,
    List.isEmpty_nil, Bool.not_true]
  rw [margin, read]
  rfl

/-- A plain scalar is read up to the end of its line, with the indentation behind it. -/
theorem plain_leads (b : Blocks) (keyAllowed : Bool) {m : Nat} (head : b.indents.head? = some m)
    (right : m < column) {c : Char} {w : List Char}
    (begins : Blocks.beginsPlain column c (w.headD '\n') = true)
    (plain : ∀ d ∈ c :: w, isPlain d = true) (first : isBlank c = false)
    (last : ∀ d, (c :: w).getLast? = some d → isBlank d = false)
    (indent : Nat) {body : List Char} (h : Opens body) (outside : body = [] ∨ indent ≤ m) :
    ∃ r, Leads (b.reading keyAllowed (⟨' ', line, column - 1⟩ ::
        spotsFrom line column (c :: w ++ nextLine indent body))) r ∧
      r.Standing (spotsFrom (line + 1) indent body)
        (b.emit (.scalar (String.ofList (c :: w)) true)) := by
  obtain ⟨d, more, opened, solid, ending⟩ := spotsFrom_opens h (line + 1) indent
  have inLine : ∀ d ∈ c :: w, isInLine d = true := fun d hd => by
    have := plain d hd
    simp only [isPlain, Bool.and_eq_true] at this
    exact this.1.1.1
  have next : front (row line (column + 1) w ++ ⟨'\n', line, column + (c :: w).length⟩ ::
      (row (line + 1) 0 (List.replicate indent ' ') ++ ⟨d, line + 1, indent⟩ :: more)) =
        w.headD '\n' := by
    cases w <;> rfl
  have bare := solid
  simp only [isSolid, Bool.and_eq_true, Bool.not_eq_true'] at bare
  have stops : d = endMark ∨ indent < m + 1 := by
    rcases outside with rfl | left
    · left
      simpa [spotsFrom] using congrArg (fun spots => front spots) opened.symm
    · exact Or.inr (by omega)
  have read := @plain?_line line column b keyAllowed m head right c w (column + (c :: w).length)
    plain last indent ⟨d, line + 1, indent⟩ more ⟨bare.1.1.2, bare.1.1.1⟩ stops
  rw [row, List.cons_append] at read
  rw [spotsFrom_append line column inLine, spotsFrom_nextLine, opened, row, List.cons_append]
  have start : isSolid c = true := isSolid_of_isPlain (plain c (by simp)) first
  rw [← next] at begins
  refine ⟨behindPlain b keyAllowed line column (c :: w) (⟨d, line + 1, indent⟩ :: more), ?_, ?_⟩
  · refine b.leads_space keyAllowed ⟨c, line, column⟩ start head (Nat.le_of_lt right) ?_ ?_
    · exact (Blocks.token?_plain b keyAllowed begins).trans read
    · simp only [behindPlain, Blocks.reading, List.length_cons, List.length_append, length_row]
      omega
  · refine ⟨rfl, rfl, rfl, Reading.skipGap_solid _ _ ⟨d, line + 1, indent⟩ _ solid, ?_⟩
    intro k waiting
    simp only [behindPlain] at waiting
    split at waiting
    · obtain rfl := Option.some.inj waiting
      exact ⟨rfl, Nat.lt_succ_self line⟩
    · cases waiting

theorem token?_quote (b : Blocks) (spots : List Spot) :
    (b.reading false (⟨'"', line, column⟩ :: spots)).token? =
      (b.reading false (⟨'"', line, column⟩ :: spots)).keyPart?
        (Reading.quoted (doubleFrom .words [] none spots)) := by
  unfold Reading.token?
  have undashed := @Blocks.atMark_of_ne line column spots '"' '-' (Or.inr (by decide))
  have undotted := @Blocks.atMark_of_ne line column spots '"' '.' (Or.inr (by decide))
  simp [undashed, undotted, endMark]

theorem quoted_leads (b : Blocks) {m : Nat} (head : b.indents.head? = some m) (right : m ≤ column)
    {spots rest : List Spot} {text : List Char}
    (read : doubleFrom .words [] none spots = some (text, rest))
    (shorter : rest.length ≤ spots.length) :
    Leads (b.reading false (⟨' ', line, column - 1⟩ :: ⟨'"', line, column⟩ :: spots))
      ((b.emit (.scalar (String.ofList text) false)).reading false rest) := by
  refine b.leads_space false ⟨'"', line, column⟩ (by rfl) head right ?_ (Nat.lt_succ_of_le shorter)
  rw [token?_quote, read]
  rfl

theorem quoted_stuck (b : Blocks) {m : Nat} (head : b.indents.head? = some m) (right : m ≤ column)
    {spots : List Spot} (unread : doubleFrom .words [] none spots = none) :
    (b.reading false (⟨' ', line, column - 1⟩ :: ⟨'"', line, column⟩ :: spots)).next? = none := by
  have gap : skipGap false false false (⟨' ', line, column - 1⟩ :: ⟨'"', line, column⟩ :: spots) =
      (false, ⟨'"', line, column⟩ :: spots) :=
    (Reading.skipGap_spaces line (column - 1) false false 1 _).trans
      (Reading.skipGap_solid false false ⟨'"', line, column⟩ spots (by rfl))
  rw [b.next?_reading false _ gap, Blocks.close_of_head, token?_quote, unread]
  · rfl
  · intro i hi
    rw [head, Option.some.injEq] at hi
    exact hi ▸ right

def Blocks.flow (b : Blocks) (keyAllowed : Bool) (key : Option KeyPlace) (rest : List Spot) :
    Reading :=
  { rest := rest, tokens := b.tokens, indents := b.indents, keyAllowed := keyAllowed, key := key,
    outerKeys := [none] }

def quote (w : String) : List Char := '"' :: (w.toList ++ ['"'])

def itemsText (ws : List String) : List Char :=
  ws.flatMap (fun w => ',' :: ' ' :: quote w) ++ [']']

def itemsTokens (ws : List String) : List Token :=
  ws.flatMap (fun w => [.flowEntry, .scalar w false]) ++ [.flowSequenceEnd]

/-- The text may be an item: it stands in quotes as it is and is not too long for a key. -/
def IsItem (w : String) : Prop := w.toList.length ≤ 1000 ∧ ∀ c ∈ w.toList, isQuotable c = true

theorem next?_flow (b : Blocks) {keyAllowed keyAllowed' : Bool} {key : Option KeyPlace}
    {gap rest : List Spot} (reached : skipGap true keyAllowed false gap = (keyAllowed', rest))
    (live : (b.flow keyAllowed' key rest).dropStale? = some (b.flow keyAllowed' key rest)) :
    (b.flow keyAllowed key gap).next? = (b.flow keyAllowed' key rest).token? := by
  have there : (b.flow keyAllowed key gap).toToken = b.flow keyAllowed' key rest :=
    congrArg (fun p : Bool × List Spot => b.flow p.1 key p.2) reached
  rw [Reading.next?, there, live]
  rfl

theorem row_quote (w : String) (rest : List Spot) :
    row line column (quote w) ++ rest = ⟨'"', line, column⟩ :: (row line (column + 1) w.toList ++
      ⟨'"', line, column + 1 + w.toList.length⟩ :: rest) := by
  rw [quote, row, row_append]
  simp [row]

theorem item_leads (b : Blocks) {w : String} (item : IsItem w) {gap rest : List Spot}
    (before : skipGap true true false gap = (true, row line column (quote w) ++ rest)) :
    Leads (b.flow true none gap) ((b.emit (.scalar w false)).flow false
      (some ⟨line, column, b.tokens.length, false⟩) rest) := by
  have within := Reading.skipGap_length true gap true false
  rw [before, row_quote] at within
  have read := doubleFrom_quoted line (column + 1) rest item.2 (Nat.succ_pos column)
  have quoted : (b.flow true none (row line column (quote w) ++ rest)).token? =
      (b.flow true none (row line column (quote w) ++ rest)).keyPart?
        (Reading.quoted (doubleFrom .words [] none (row line (column + 1) w.toList ++
          ⟨'"', line, column + 1 + w.toList.length⟩ :: rest))) := by
    rw [row_quote]
    unfold Reading.token?
    have undashed := @Blocks.atMark_of_ne line column (row line (column + 1) w.toList ++
      ⟨'"', line, column + 1 + w.toList.length⟩ :: rest) '"' '-' (Or.inr (by decide))
    have undotted := @Blocks.atMark_of_ne line column (row line (column + 1) w.toList ++
      ⟨'"', line, column + 1 + w.toList.length⟩ :: rest) '"' '.' (Or.inr (by decide))
    simp [Blocks.flow, Reading.inFlow, undashed, undotted, endMark]
  simp only [List.length_cons, List.length_append, length_row] at within
  refine @Leads.one _ (b.flow true none gap) _ ?_ rfl ?_ ?_
  · intro none
    rw [show gap = [] from none] at within
    simp at within
  · rw [next?_flow b before rfl, quoted, read, Reading.quoted, Option.map_some]
    dsimp only
    rw [String.ofList_toList]
    rfl
  · change rest.length < gap.length
    omega

/-- A list goes on behind an item with a comma or ends with a bracket. The item was no key. -/
theorem flowMark_leads (b : Blocks) {c : Char} {here before : Nat} {rest : List Spot}
    (near : here ≤ column + 1024) (solid : isSolid c = true) {next : Reading}
    (read : (b.flow false (some ⟨line, column, before, false⟩) (⟨c, line, here⟩ :: rest)).token? =
      some next) (same : next.rest = rest) :
    Leads (b.flow false (some ⟨line, column, before, false⟩) (⟨c, line, here⟩ :: rest)) next := by
  have fresh : ¬ column + 1024 < here := by omega
  have live : (b.flow false (some ⟨line, column, before, false⟩)
      (⟨c, line, here⟩ :: rest)).dropStale? =
        some (b.flow false (some ⟨line, column, before, false⟩) (⟨c, line, here⟩ :: rest)) := by
    simp [Reading.dropStale?, Reading.liveKey?, Blocks.flow, KeyPlace.isStale, Reading.line,
      Reading.column, fresh]
  refine .one (List.cons_ne_nil _ _) live ?_ ?_
  · rw [next?_flow b (Reading.skipGap_solid true false ⟨c, line, here⟩ rest solid) live, read]
  · rw [same]
    exact Nat.lt_succ_self _

theorem token?_flowStart (b : Blocks) {here : Nat} (rest : List Spot) :
    (b.reading false (⟨'[', line, here⟩ :: rest)).token? =
      some ((b.emit .flowSequence).flow true none rest) := by
  have opening : (b.reading false (⟨'[', line, here⟩ :: rest)).token? =
      (b.reading false (⟨'[', line, here⟩ :: rest)).openFlow? .flowSequence := by
    unfold Reading.token?
    have undashed := @Blocks.atMark_of_ne line here rest '[' '-' (Or.inr (by decide))
    have undotted := @Blocks.atMark_of_ne line here rest '[' '.' (Or.inr (by decide))
    simp [undashed, undotted, endMark]
  rw [opening]
  rfl

theorem token?_flowEnd (b : Blocks) {here : Nat} {key : Option KeyPlace}
    (free : key.any (·.required) = false) (rest : List Spot) :
    (b.flow false key (⟨']', line, here⟩ :: rest)).token? =
      some ((b.emit .flowSequenceEnd).reading false rest) := by
  have ending : (b.flow false key (⟨']', line, here⟩ :: rest)).token? =
      (b.flow false key (⟨']', line, here⟩ :: rest)).closeFlow? .flowSequenceEnd := by
    unfold Reading.token?
    have undashed := @Blocks.atMark_of_ne line here rest ']' '-' (Or.inr (by decide))
    have undotted := @Blocks.atMark_of_ne line here rest ']' '.' (Or.inr (by decide))
    simp [Blocks.flow, undashed, undotted, endMark]
  have forgot : (b.flow false key (⟨']', line, here⟩ :: rest)).forgetKey? =
      some (b.flow false none (⟨']', line, here⟩ :: rest)) := by
    unfold Reading.forgetKey?
    rw [show (b.flow false key (⟨']', line, here⟩ :: rest)).key.any (·.required) = false from free]
    rfl
  rw [ending, Reading.closeFlow?, forgot]
  rfl

theorem token?_comma (b : Blocks) {here : Nat} {key : Option KeyPlace}
    (free : key.any (·.required) = false) (rest : List Spot) :
    (b.flow false key (⟨',', line, here⟩ :: rest)).token? =
      some ((b.emit .flowEntry).flow true none rest) := by
  have comma : (b.flow false key (⟨',', line, here⟩ :: rest)).token? =
      Reading.flowEntry? (b.flow false key (⟨',', line, here⟩ :: rest)) := by
    unfold Reading.token?
    have undashed := @Blocks.atMark_of_ne line here rest ',' '-' (Or.inr (by decide))
    have undotted := @Blocks.atMark_of_ne line here rest ',' '.' (Or.inr (by decide))
    simp [Blocks.flow, undashed, undotted, endMark]
  have forgot : (b.flow false key (⟨',', line, here⟩ :: rest)).forgetKey? =
      some (b.flow false none (⟨',', line, here⟩ :: rest)) := by
    unfold Reading.forgetKey?
    rw [show (b.flow false key (⟨',', line, here⟩ :: rest)).key.any (·.required) = false from free]
    rfl
  rw [comma, Reading.flowEntry?, forgot]
  rfl

/-- Each further item is a comma, a space and a quoted text; then the list ends. -/
theorem items_leads (b : Blocks) {start here before : Nat} {ws : List String}
    (items : ∀ w ∈ ws, IsItem w) (near : here ≤ start + 1024) (rest : List Spot) :
    Leads (b.flow false (some ⟨line, start, before, false⟩)
        (row line here (itemsText ws) ++ rest))
      (Blocks.reading { b with tokens := (itemsTokens ws).reverse ++ b.tokens } false rest) := by
  induction ws generalizing b start here before with
  | nil => exact flowMark_leads b near (by rfl) (token?_flowEnd b rfl rest) rfl
  | cons w ws ih =>
    have item := items w (by simp)
    have parts : row line here (itemsText (w :: ws)) ++ rest =
        ⟨',', line, here⟩ :: ⟨' ', line, here + 1⟩ :: (row line (here + 2) (quote w) ++
          (row line (here + 2 + (quote w).length) (itemsText ws) ++ rest)) := by
      simp only [itemsText, List.flatMap_cons, List.cons_append, List.append_assoc, row,
        row_append]
    have reached : skipGap true true false (⟨' ', line, here + 1⟩ ::
        (row line (here + 2) (quote w) ++
          (row line (here + 2 + (quote w).length) (itemsText ws) ++ rest))) =
        (true, row line (here + 2) (quote w) ++
          (row line (here + 2 + (quote w).length) (itemsText ws) ++ rest)) := by
      rw [row_quote]
      exact (Reading.skipGap_spaces line (here + 1) true true 1 _).trans
        (Reading.skipGap_solid true true ⟨'"', line, here + 2⟩ _ (by rfl))
    have width : (quote w).length = w.toList.length + 2 := by simp [quote]
    have short := item.1
    rw [parts]
    refine (flowMark_leads b near (by rfl) (token?_comma b rfl _) rfl).trans ?_
    refine (item_leads (b.emit .flowEntry) item reached).trans ?_
    refine (ih _ (fun v hv => items v (by simp [hv])) (by omega)).trans ?_
    have same : (itemsTokens ws).reverse ++
        ((b.emit .flowEntry).emit (.scalar w false)).tokens =
        (itemsTokens (w :: ws)).reverse ++ b.tokens := by
      simp [itemsTokens, Blocks.emit]
    rw [same]
    exact .refl _

def listText (w : String) (ws : List String) : List Char :=
  '[' :: (quote w ++ itemsText ws)

def listTokens (w : String) (ws : List String) : List Token :=
  .flowSequence :: .scalar w false :: itemsTokens ws

theorem list_leads (b : Blocks) {m : Nat} (head : b.indents.head? = some m) (right : m ≤ column)
    {w : String} {ws : List String} (items : ∀ v ∈ w :: ws, IsItem v)
    (rest : List Spot) :
    Leads (b.reading false (⟨' ', line, column - 1⟩ :: (row line column (listText w ws) ++ rest)))
      (Blocks.reading { b with tokens := (listTokens w ws).reverse ++ b.tokens } false rest) := by
  have parts : row line column (listText w ws) ++ rest = ⟨'[', line, column⟩ ::
      (row line (column + 1) (quote w) ++
        (row line (column + 1 + (quote w).length) (itemsText ws) ++ rest)) := by
    simp only [listText, row, row_append, List.cons_append, List.append_assoc]
  generalize hitems : row line (column + 1 + (quote w).length) (itemsText ws) ++ rest = more at parts
  have reached : skipGap true true false (row line (column + 1) (quote w) ++ more) =
      (true, row line (column + 1) (quote w) ++ more) := by
    rw [row_quote]
    exact Reading.skipGap_solid true true ⟨'"', line, column + 1⟩ _ (by rfl)
  have item := items w (by simp)
  have width : (quote w).length = w.toList.length + 2 := by simp [quote]
  have short := item.1
  rw [parts]
  refine (b.leads_space false ⟨'[', line, column⟩ (by rfl) head right (token?_flowStart b _)
    (Nat.lt_succ_self _)).trans ?_
  refine (item_leads (b.emit .flowSequence) item reached).trans ?_
  rw [← hitems]
  refine (items_leads _ (fun v hv => items v (by simp [hv])) (by omega) rest).trans ?_
  have same : (itemsTokens ws).reverse ++
      ((b.emit .flowSequence).emit (.scalar w false)).tokens =
      (listTokens w ws).reverse ++ b.tokens := by
    simp [listTokens, Blocks.emit]
  rw [same]
  exact .refl _

end Resilience.Yaml
