import Resilience.Proofs.Yaml.Part
/-! # Lines of block style

A text in block style is a list of lines: a key with a value, possibly as the first one of an
item, an item that is a word, or the line between two documents. Its tokens can be told from the
lines alone, so words can be put in without looking at the text again.
-/
namespace Resilience.Yaml

open Reading (Leads Standing skipGap)

inductive Value (α : Type) where
  | none
  | plain (w : α)
  | quoted (w : α)
  | list (w : α) (ws : List α)

inductive Line (α : Type) where
  /-- A key with its value, behind the dash of an item or not. -/
  | entry (indent : Nat) (dash : Bool) (key : α) (value : Value α)
  | item (indent : Nat) (w : α)
  | separator

variable {α : Type} (val : α → String)

namespace Value

def text : Value α → List Char
  | none => []
  | plain w => ' ' :: (val w).toList
  | quoted w => ' ' :: quote (val w)
  | list w ws => ' ' :: listText (val w) (ws.map val)

def run (b : Blocks) : Value α → Blocks
  | none => b
  | plain w => b.emit (.scalar (val w) true)
  | quoted w => b.emit (.scalar (val w) false)
  | list w ws => { b with tokens := (listTokens (val w) (ws.map val)).reverse ++ b.tokens }

end Value

structure IsPlainText (w : List Char) : Prop where
  begins : ∃ c ∈ w.head?, isBlank c = false ∧ Blocks.beginsPlain 1 c (w.tail.headD '\n') = true
  plain : ∀ c ∈ w, isPlain c = true
  last : ∀ c ∈ w.getLast?, isBlank c = false

structure IsKey (w : List Char) : Prop where
  begins : ∃ c ∈ w.head?, Blocks.beginsPlain 0 c ' ' = true
  words : ∀ c ∈ w, isPlain c = true ∧ isBlank c = false
  short : w.length ≤ 1024

theorem IsPlainText.shape {w : List Char} (h : IsPlainText w) :
    ∃ c more, w = c :: more ∧ isBlank c = false ∧
      ∀ column, 0 < column → Blocks.beginsPlain column c (more.headD '\n') = true := by
  obtain ⟨c, hc, first, begins⟩ := h.begins
  cases w with
  | nil => cases hc
  | cons d more =>
    obtain rfl := Option.some.inj hc
    refine ⟨d, more, rfl, first, fun column right => ?_⟩
    simpa [Blocks.beginsPlain, right] using begins

/-- What begins a plain scalar on the first column does so in every place. -/
theorem Blocks.beginsPlain_everywhere {c d : Char} (h : beginsPlain 0 c d = true)
    (column : Nat) (next : Char) : beginsPlain column c next = true := by
  simp only [beginsPlain, Nat.lt_irrefl, decide_false, Bool.or_false, Bool.and_false,
    Bool.and_eq_true] at h
  simp [beginsPlain, h]

theorem IsKey.shape {w : List Char} (h : IsKey w) :
    ∃ c more, w = c :: more ∧ ∀ column next, Blocks.beginsPlain column c next = true := by
  obtain ⟨c, hc, begins⟩ := h.begins
  cases w with
  | nil => cases hc
  | cons d more =>
    obtain rfl := Option.some.inj hc
    exact ⟨d, more, rfl, Blocks.beginsPlain_everywhere begins⟩

/-- The value can be read back on its line, in front of a line that is indented so far. -/
def Value.Reads (column indent : Nat) (body : List Char) : Value α → Prop
  | .none => True
  | .plain w => IsPlainText (val w).toList ∧ (body = [] ∨ indent ≤ column)
  | .quoted w => ∀ c ∈ (val w).toList, isQuotable c = true
  | .list w ws => ∀ v ∈ w :: ws, IsItem (val v)

variable {val} {line column : Nat}

theorem isInLine_of_isQuotable {w : String} (h : ∀ c ∈ w.toList, isQuotable c = true) :
    ∀ c ∈ quote w, isInLine c = true := by
  intro c hc
  simp only [quote, List.mem_cons, List.mem_append, List.not_mem_nil, or_false] at hc
  rcases hc with rfl | hc | rfl
  · decide
  · have := h c hc
    simp only [isQuotable, Bool.and_eq_true] at this
    exact this.1.1
  · decide

theorem isInLine_listText {w : String} {ws : List String}
    (items : ∀ v ∈ w :: ws, IsItem v) : ∀ c ∈ listText w ws, isInLine c = true := by
  intro c hc
  simp only [listText, itemsText, List.mem_cons, List.mem_append, List.mem_flatMap,
    List.not_mem_nil, or_false] at hc
  rcases hc with rfl | hc | ⟨v, hv, rfl | rfl | hc⟩ | rfl
  · decide
  · exact isInLine_of_isQuotable (items w (by simp)).2 c hc
  · decide
  · decide
  · exact isInLine_of_isQuotable (items v (by simp [hv])).2 c hc
  · decide

theorem Value.leads (b : Blocks) {m : Nat} (head : b.indents.head? = some m) (right : m < column)
    (value : Value α) {indent : Nat} {body : List Char} (reads : value.Reads val m indent body)
    (h : Opens body) :
    ∃ r, Leads (b.reading false (spotsFrom line column
        (value.text val ++ nextLine indent body))) r ∧
      r.Standing (spotsFrom (line + 1) indent body) (value.run val b) := by
  cases value with
  | none => exact ⟨_, .refl _, standing_nextLine b false indent h⟩
  | plain w =>
    obtain ⟨isText, outside⟩ := reads
    obtain ⟨c, more, shape, first, begins⟩ := isText.shape
    have plain := isText.plain
    have last := isText.last
    rw [shape] at plain last
    have named : val w = String.ofList (c :: more) := by rw [← shape, String.ofList_toList]
    rw [Value.text, List.cons_append, spotsFrom_cons line column (by decide), shape, Value.run,
      named]
    exact @plain_leads line (column + 1) b false m head (Nat.lt_succ_of_lt right) c more
      (begins _ (Nat.succ_pos _)) plain first last indent body h outside
  | quoted w =>
    have read := doubleFrom_quoted line (column + 1 + 1)
      (spotsFrom line (column + 1 + (quote (val w)).length) (nextLine indent body)) reads
      (Nat.succ_pos _)
    have scalar := @quoted_leads line (column + 1) b m head
      (Nat.le_succ_of_le (Nat.le_of_lt right)) _ _ _ read
      (by rw [List.length_append, List.length_cons]; omega)
    rw [Value.text, List.cons_append, spotsFrom_cons line column (by decide),
      spotsFrom_append _ _ (isInLine_of_isQuotable reads), row_quote]
    rw [String.ofList_toList] at scalar
    exact ⟨_, scalar, standing_nextLine _ false indent h⟩
  | list w ws =>
    have items : ∀ v ∈ val w :: ws.map val, IsItem v := by
      simpa [Value.Reads] using reads
    have listed := @list_leads line (column + 1) b m head (Nat.le_succ_of_le (Nat.le_of_lt right))
      (val w) (ws.map val) items (spotsFrom line
        (column + 1 + (listText (val w) (ws.map val)).length) (nextLine indent body))
    rw [Value.text, List.cons_append, spotsFrom_cons line column (by decide),
      spotsFrom_append _ _ (isInLine_listText items)]
    exact ⟨_, listed, standing_nextLine _ false indent h⟩

/-- A key and its colon are read, up to what stands behind them. -/
theorem key_leads {r : Reading} {b : Blocks} {w : String} (key : IsKey w.toList)
    {rest : List Char} (stands : r.Standing (spotsFrom line column (w.toList ++ ':' :: rest)) b)
    (colon : isGap (front (spotsFrom line (column + w.toList.length + 1) rest)) = true) :
    Leads r ((b.key column w).reading false
      (spotsFrom line (column + w.toList.length + 1) rest)) := by
  obtain ⟨c, more, shape, begins⟩ := key.shape
  have words := key.words
  have short := key.short
  have inLine : ∀ d ∈ w.toList, isInLine d = true := fun d hd => by
    have := (words d hd).1
    simp only [isPlain, Bool.and_eq_true] at this
    exact this.1.1.1
  rw [spotsFrom_append line column inLine, spotsFrom_cons line _ (by decide)] at stands
  have named : w = String.ofList (c :: more) := by rw [← shape, String.ofList_toList]
  rw [shape] at stands words short colon ⊢
  rw [named]
  exact stands.leads_key (begins column) words short colon

def Blocks.entry (b : Blocks) (column : Nat) : Blocks :=
  ((b.close column).openAt column .blockSequence).emit .blockEntry

theorem entry_leads {r : Reading} {b : Blocks} {rest : List Char}
    (stands : r.Standing (spotsFrom line column ('-' :: ' ' :: rest)) b) :
    Leads r ((b.entry column).reading true
      (⟨' ', line, column + 1⟩ :: spotsFrom line (column + 2) rest)) := by
  rw [spotsFrom_cons line column (by decide), spotsFrom_cons line _ (by decide)] at stands
  exact stands.leads (Blocks.token?_entry _) (by simp [Blocks.reading])

theorem Blocks.closeAll_close (b : Blocks) (column : Nat) :
    (b.close column).closeAll = b.closeAll := by
  obtain ⟨indents, tokens⟩ := b
  induction indents generalizing tokens with
  | nil => rfl
  | cons i indents ih =>
    by_cases right : column < i
    · have closed : (Blocks.mk (i :: indents) tokens).close column =
          (Blocks.mk indents (.blockEnd :: tokens)).close column := by
        simp [close, Reading.closeBlocks, right]
      rw [closed, ih]
      simp only [closeAll, List.map_const', List.length_cons, Blocks.mk.injEq, true_and]
      rw [List.replicate_succ', List.append_assoc, List.singleton_append]
    · simp [close, Reading.closeBlocks, right]

theorem token?_separator (b : Blocks) {rest : List Spot} (gap : isGap (front rest) = true) :
    (b.reading true (⟨'-', line, 0⟩ :: ⟨'-', line, 1⟩ :: ⟨'-', line, 2⟩ :: rest)).token? =
      some ((b.closeAll.emit .documentStart).reading false rest) := by
  have mark : atMark '-' (⟨'-', line, 0⟩ :: ⟨'-', line, 1⟩ :: ⟨'-', line, 2⟩ :: rest) = true := by
    simp [atMark, gap]
  have separator : (b.reading true
      (⟨'-', line, 0⟩ :: ⟨'-', line, 1⟩ :: ⟨'-', line, 2⟩ :: rest)).token? =
      (b.reading true (⟨'-', line, 0⟩ :: ⟨'-', line, 1⟩ :: ⟨'-', line, 2⟩ :: rest)).documentMark?
        .documentStart := by
    unfold Reading.token?
    simp [mark, endMark]
  rw [separator]
  rfl

/-- The line between two documents closes all blocks. -/
theorem separator_leads {r : Reading} {b : Blocks} {rest : List Char}
    (stands : r.Standing (spotsFrom line 0 ('-' :: '-' :: '-' :: rest)) b)
    (gap : isGap (front (spotsFrom line 3 rest)) = true) :
    Leads r ((b.closeAll.emit .documentStart).reading false (spotsFrom line 3 rest)) := by
  rw [spotsFrom_cons line 0 (by decide), spotsFrom_cons line _ (by decide),
    spotsFrom_cons line _ (by decide)] at stands
  rw [← b.closeAll_close 0]
  exact stands.leads (token?_separator (b.close 0) gap) (by simp [Blocks.reading]; omega)

variable (val)

def Line.text : Line α → List Char
  | .entry _ dash key value =>
    (if dash then ['-', ' '] else []) ++ ((val key).toList ++ ':' :: value.text val)
  | .item _ w => '-' :: ' ' :: (val w).toList
  | .separator => ['-', '-', '-']

def Line.indent : Line α → Nat
  | .entry indent _ _ _ => indent
  | .item indent _ => indent
  | .separator => 0

def Line.run (b : Blocks) : Line α → Blocks
  | .entry indent dash key value =>
    if dash then value.run val ((b.entry indent).key (indent + 2) (val key))
    else value.run val (b.key indent (val key))
  | .item indent w => (b.entry indent).emit (.scalar (val w) true)
  | .separator => b.closeAll.emit .documentStart

def Line.Reads (indent : Nat) (body : List Char) : Line α → Prop
  | .entry here dash key value =>
    IsKey (val key).toList ∧ value.Reads val (if dash then here + 2 else here) indent body
  | .item here w => IsPlainText (val w).toList ∧ (body = [] ∨ indent ≤ here)
  | .separator => True

variable {val}

theorem front_nextLine (indent : Nat) (body : List Char) :
    isGap (front (spotsFrom line column (nextLine indent body))) = true := by
  rw [spotsFrom_nextLine]
  rfl

theorem front_text (value : Value α) (indent : Nat) (body : List Char) :
    isGap (front (spotsFrom line column (value.text val ++ nextLine indent body))) = true := by
  cases value with
  | none => exact front_nextLine indent body
  | _ =>
    rw [Value.text, List.cons_append, spotsFrom_cons line column (by decide)]
    rfl

theorem entry_value_leads {r : Reading} {b : Blocks} {w : String} {value : Value α}
    {indent : Nat} {body : List Char} (key : IsKey w.toList)
    (reads : value.Reads val column indent body) (h : Opens body)
    (stands : r.Standing
      (spotsFrom line column (w.toList ++ ':' :: (value.text val ++ nextLine indent body))) b) :
    ∃ r', Leads r r' ∧
      r'.Standing (spotsFrom (line + 1) indent body) (value.run val (b.key column w)) := by
  have first := key_leads key stands (front_text value indent body)
  have head : (b.key column w).indents.head? = some column :=
    Blocks.head_openAt_close b column .blockMapping
  obtain ⟨r', second, stands'⟩ := @Value.leads _ _ line (column + w.toList.length + 1)
    (b.key column w) column head (by omega) value indent body reads h
  exact ⟨r', first.trans second, stands'⟩

theorem IsKey.opens {w : List Char} (key : IsKey w) (rest : List Char) : Opens (w ++ rest) := by
  obtain ⟨c, more, rfl, -⟩ := key.shape
  intro d hd
  obtain rfl := Option.some.inj hd
  obtain ⟨plain, unblank⟩ := key.words c (by simp)
  refine ⟨isSolid_of_isPlain plain unblank, ?_⟩
  simp only [isPlain, Bool.and_eq_true] at plain
  exact plain.1.1.1

theorem standing_space (b : Blocks) {here : Nat} {body : List Char} (h : Opens body) :
    (b.reading true (⟨' ', line, here⟩ :: spotsFrom line column body)).Standing
      (spotsFrom line column body) b := by
  obtain ⟨c, rest, opened, solid, -⟩ := spotsFrom_opens h line column
  refine ⟨rfl, rfl, rfl, ?_, fun _ none => by cases none⟩
  rw [opened, ← Reading.skipGap_solid false true ⟨c, line, column⟩ rest solid]
  exact Reading.skipGap_spaces line here false true 1 _

/-- A line is read from its first character up to the first one of the next. -/
theorem Line.leads (l : Line α) {r : Reading} {b : Blocks} {indent : Nat} {body : List Char}
    (reads : l.Reads val indent body) (h : Opens body)
    (stands : r.Standing (spotsFrom line l.indent (l.text val ++ nextLine indent body)) b) :
    ∃ r', Leads r r' ∧ r'.Standing (spotsFrom (line + 1) indent body) (l.run val b) := by
  cases l with
  | entry here dash key value =>
    obtain ⟨isKey, reads⟩ := reads
    cases dash with
    | false =>
      simp only [Line.text, Line.run, Line.indent, List.append_assoc, List.cons_append,
        Bool.false_eq_true, if_false, List.nil_append] at stands reads ⊢
      exact entry_value_leads isKey reads h stands
    | true =>
      simp only [Line.text, Line.run, Line.indent, List.append_assoc, List.cons_append,
        if_true, List.nil_append] at stands reads ⊢
      obtain ⟨r', second, stands'⟩ := entry_value_leads isKey reads h
        (standing_space (b.entry here) (isKey.opens _))
      exact ⟨r', (entry_leads stands).trans second, stands'⟩
  | item here w =>
    obtain ⟨isText, outside⟩ := reads
    obtain ⟨c, more, shape, first, begins⟩ := isText.shape
    have plain := isText.plain
    have last := isText.last
    rw [shape] at plain last
    simp only [Line.text, Line.run, Line.indent, List.cons_append] at stands ⊢
    have head : (b.entry here).indents.head? = some here :=
      Blocks.head_openAt_close b here .blockSequence
    have led := entry_leads stands
    have named : val w = String.ofList (c :: more) := by rw [← shape, String.ofList_toList]
    rw [shape] at led
    rw [named]
    obtain ⟨r', second, stands'⟩ := @plain_leads line (here + 2) (b.entry here) true here head
      (by omega) c more (begins _ (by omega)) plain first last indent body h outside
    exact ⟨r', led.trans second, stands'⟩
  | separator =>
    have led := separator_leads stands (front_nextLine indent body)
    exact ⟨_, led, standing_nextLine _ false indent h⟩

variable (val)

/-- How far the first line is indented and all that stands from its first character on, in front
of a text that is given likewise. -/
def layout (tail : Nat × List Char) : List (Line α) → Nat × List Char
  | [] => tail
  | l :: ls => (l.indent, l.text val ++ nextLine (layout tail ls).1 (layout tail ls).2)

def ReadsAll (tail : Nat × List Char) : List (Line α) → Prop
  | [] => True
  | l :: ls => l.Reads val (layout val tail ls).1 (layout val tail ls).2 ∧ ReadsAll tail ls

variable {val}

theorem layout_append (tail : Nat × List Char) (ls ms : List (Line α)) :
    layout val tail (ls ++ ms) = layout val (layout val tail ms) ls := by
  induction ls with
  | nil => rfl
  | cons l ls ih => rw [List.cons_append, layout, layout, ih]

theorem Line.opens (l : Line α) {indent : Nat} {body : List Char}
    (reads : l.Reads val indent body) (rest : List Char) : Opens (l.text val ++ rest) := by
  cases l with
  | entry here dash key value =>
    cases dash with
    | false =>
      simp only [Line.text, Bool.false_eq_true, if_false, List.nil_append, List.append_assoc]
      exact reads.1.opens _
    | true =>
      intro c hc
      obtain rfl := Option.some.inj hc
      decide
  | item here w =>
    intro c hc
    obtain rfl := Option.some.inj hc
    decide
  | separator =>
    intro c hc
    obtain rfl := Option.some.inj hc
    decide

theorem layout_opens {tail : Nat × List Char} (h : Opens tail.2) (ls : List (Line α))
    (reads : ReadsAll val tail ls) : Opens (layout val tail ls).2 := by
  cases ls with
  | nil => exact h
  | cons l ls => exact l.opens reads.1 _

/-- Lines are read one after another, each leaving the blocks and tokens that it says. -/
theorem lines_lead {tail : Nat × List Char} (h : Opens tail.2) (ls : List (Line α))
    (reads : ReadsAll val tail ls) {r : Reading} {b : Blocks}
    (stands : r.Standing (spotsFrom line (layout val tail ls).1 (layout val tail ls).2) b) :
    ∃ r', Leads r r' ∧
      r'.Standing (spotsFrom (line + ls.length) tail.1 tail.2) (ls.foldl (Line.run val) b) := by
  induction ls generalizing line r b with
  | nil => exact ⟨r, .refl r, stands⟩
  | cons l ls ih =>
    obtain ⟨r', first, stands'⟩ := l.leads reads.1 (layout_opens h ls reads.2) stands
    obtain ⟨r'', rest, stands''⟩ := ih reads.2 stands'
    refine ⟨r'', first.trans rest, ?_⟩
    rw [show line + (l :: ls).length = line + 1 + ls.length by rw [List.length_cons]; omega]
    exact stands''

def Blocks.finish (b : Blocks) : List Token := (b.closeAll.emit .streamEnd).tokens.reverse

theorem end_leads {r : Reading} {b : Blocks} (stands : r.Standing (spotsFrom line column []) b) :
    ∃ last, Leads r last ∧ last.rest = [] ∧ last.tokens.reverse = b.finish := by
  have finish : ((b.close column).reading true [⟨endMark, line, column⟩]).token? =
      some { (b.closeAll.emit .streamEnd).reading true [] with rest := [] } := by
    rw [← b.closeAll_close column]
    rfl
  exact ⟨_, stands.leads finish (Nat.zero_lt_one), rfl, rfl⟩

/-- A text that begins with a token is read from its beginning. -/
theorem standing_start {body : List Char} (h : Opens body) :
    ({ rest := spotsFrom 0 0 body } : Reading).Standing (spotsFrom 0 0 body) {} := by
  obtain ⟨c, rest, opened, solid, -⟩ := spotsFrom_opens h 0 0
  refine ⟨rfl, rfl, rfl, ?_, fun _ none => by cases none⟩
  rw [opened]
  exact Reading.skipGap_solid false true ⟨c, 0, 0⟩ rest solid

theorem tokens_of_leads {cs : List Char} (allowed : cs.all isAllowed = true) {last : Reading}
    (led : Leads { rest := spotsFrom 0 0 cs } last) (ended : last.rest = []) :
    tokens (String.ofList cs) = last.tokens.reverse := by
  obtain ⟨fuel, enough, same⟩ := led.tokensFrom ((spotsFrom 0 0 cs).length + 1)
    (Nat.lt_succ_self _)
  rw [tokens, spots?, String.toList_ofList, if_pos allowed]
  exact same.trans (Reading.tokensFrom_ended ended enough)

/-- The tokens of a text that cannot be read on behind some blocks. -/
theorem tokens_of_stuck {cs : List Char} (allowed : cs.all isAllowed = true) {b : Blocks}
    {keyAllowed : Bool} {s : Spot} {rest : List Spot}
    (led : Leads { rest := spotsFrom 0 0 cs } (b.reading keyAllowed (s :: rest)))
    (stuck : (b.reading keyAllowed (s :: rest)).next? = none) :
    tokens (String.ofList cs) = b.tokens.reverse ++ [.bad] := by
  obtain ⟨fuel, enough, same⟩ := led.tokensFrom ((spotsFrom 0 0 cs).length + 1)
    (Nat.lt_succ_self _)
  rw [tokens, spots?, String.toList_ofList, if_pos allowed, ← b.broken_reading keyAllowed (s :: rest)]
  exact same.trans (Reading.tokensFrom_stuck (List.cons_ne_nil _ _) rfl stuck enough)

theorem tokens_layout (ls : List (Line α)) (reads : ReadsAll val (0, []) ls)
    (flush : (layout val (0, []) ls).1 = 0)
    (allowed : (layout val (0, []) ls).2.all isAllowed = true) :
    tokens (String.ofList (layout val (0, []) ls).2) = (ls.foldl (Line.run val) {}).finish := by
  have none : Opens [] := fun c hc => by cases hc
  have stands := standing_start (layout_opens none ls reads)
  have lined := @lines_lead α val 0 (0, []) none ls reads
    { rest := spotsFrom 0 0 (layout val (0, []) ls).2 } {}
  rw [flush] at lined
  obtain ⟨r, led, stands'⟩ := lined stands
  obtain ⟨last, led', ended, same⟩ := end_leads stands'
  rw [tokens_of_leads allowed (led.trans led') ended, same]

/-- A key with any text in quotes, of which only quotes and backslashes are kept out, either is
read up to the end of the line that the text ends on or stops the reading. -/
theorem anyQuote_leads {r : Reading} {b : Blocks} {key : String} {w : List Char}
    (isKey : IsKey key.toList) (free : ∀ c ∈ w, c ≠ '"' ∧ c ≠ '\\') {indent : Nat} {body : List Char} (h : Opens body)
    (stands : r.Standing (spotsFrom line column
      (key.toList ++ ':' :: ' ' :: '"' :: (w ++ '"' :: nextLine indent body))) b) :
    (∃ r' line' text, Leads r r' ∧ r'.Standing (spotsFrom line' indent body)
      ((b.key column key).emit (.scalar text false))) ∨
    ∃ s rest, Leads r ((b.key column key).reading false (s :: rest)) ∧
      ((b.key column key).reading false (s :: rest)).next? = none := by
  have head : (b.key column key).indents.head? = some column :=
    Blocks.head_openAt_close b column .blockMapping
  have first := key_leads isKey stands (by rw [spotsFrom_cons line _ (by decide)]; rfl)
  rw [spotsFrom_cons line _ (by decide), spotsFrom_cons line _ (by decide)] at first
  obtain ⟨spots, line', column', clean, placed⟩ :=
    spotsFrom_quote line (column + key.toList.length + 1 + 1 + 1) free (nextLine indent body)
  rw [placed] at first
  rcases doubleFrom_quote line' column' clean [] none
    (spotsFrom line' (column' + 1) (nextLine indent body)) with unread | ⟨text, read⟩
  · refine Or.inr ⟨_, _, first, ?_⟩
    exact @quoted_stuck line (column + key.toList.length + 1 + 1) _ column head (by omega) _ unread
  · have second := @quoted_leads line (column + key.toList.length + 1 + 1) _ column head (by omega) _ _ _
      read (by rw [List.length_append, List.length_cons]; omega)
    exact Or.inl ⟨_, line' + 1, String.ofList text, first.trans second,
      standing_nextLine _ false indent h⟩

/-- Lines around a key with any text in quotes are read with some text in its place, or the
tokens end at that text. -/
theorem tokens_anyQuote {before after : List (Line α)} {indent : Nat} {key w : α}
    (isKey : IsKey (val key).toList) (free : ∀ c ∈ (val w).toList, c ≠ '"' ∧ c ≠ '\\')
    (first : ReadsAll val (layout val (0, []) (.entry indent false key (.quoted w) :: after)) before)
    (rest : ReadsAll val (0, []) after) {cs : List Char}
    (laid : layout val (0, []) (before ++ .entry indent false key (.quoted w) :: after) = (0, cs))
    (allowed : cs.all isAllowed = true) :
    (∃ text, tokens (String.ofList cs) = (after.foldl (Line.run val)
      (((before.foldl (Line.run val) {}).key indent (val key)).emit (.scalar text false))).finish) ∨
    tokens (String.ofList cs) =
      ((before.foldl (Line.run val) {}).key indent (val key)).tokens.reverse ++ [.bad] := by
  have none : Opens [] := fun c hc => by cases hc
  have middle : Opens (layout val (0, []) (.entry indent false key (.quoted w) :: after)).2 := by
    rw [layout, Line.text]
    simp only [Bool.false_eq_true, if_false, List.nil_append, List.append_assoc]
    exact isKey.opens _
  have start := standing_start (layout_opens middle before first)
  rw [layout_append] at laid
  rw [laid] at start
  obtain ⟨r, led, stands⟩ := @lines_lead _ val 0 _ middle before first _ {} (by rw [laid]; exact start)
  have line : (Line.entry indent false key (.quoted w)).text val ++ nextLine
      (layout val (0, []) after).1 (layout val (0, []) after).2 = (val key).toList ++ ':' :: ' ' ::
        '"' :: ((val w).toList ++ '"' :: nextLine (layout val (0, []) after).1
          (layout val (0, []) after).2) := by
    simp [Line.text, Value.text, quote]
  rw [layout, line] at stands
  rcases anyQuote_leads isKey free (layout_opens none after rest) stands with
    ⟨r', line', text, led', stands'⟩ | ⟨s, more, led', stuck⟩
  · obtain ⟨r'', led'', stands''⟩ := lines_lead none after rest stands'
    obtain ⟨last, finish, ended, same⟩ := end_leads stands''
    refine Or.inl ⟨text, ?_⟩
    rw [tokens_of_leads allowed (((led.trans led').trans led'').trans finish) ended, same]
    rfl
  · exact Or.inr (tokens_of_stuck allowed (led.trans led') stuck)

end Resilience.Yaml
