import Resilience.Yaml.Token
/-! # Words on a line

Part of a line stands in one row, whatever comes behind it. A plain word is read up to the colon
or the end of the line behind it, a quoted one up to its closing quote.
-/
namespace Resilience.Yaml

def isInLine (c : Char) : Bool := !isLineEnd c && c != '\r' && c != '\u0085'

def row (line column : Nat) : List Char → List Spot
  | [] => []
  | c :: cs => ⟨c, line, column⟩ :: row line (column + 1) cs

@[simp] theorem length_row (line column : Nat) (w : List Char) :
    (row line column w).length = w.length := by
  induction w generalizing column with
  | nil => rfl
  | cons c w ih => simp [row, ih]

theorem row_append (line column : Nat) (v w : List Char) :
    row line column (v ++ w) = row line column v ++ row line (column + v.length) w := by
  induction v generalizing column with
  | nil => rfl
  | cons c v ih =>
    rw [List.cons_append, row, row, ih, List.length_cons, List.cons_append, Nat.add_assoc,
      Nat.add_comm 1]

theorem isInLine_spec {c : Char} (h : isInLine c = true) :
    isBreak c = false ∧ c ≠ endMark ∧ c ≠ '\r' ∧ c ≠ '\n' ∧ c ≠ '\u0085' := by
  simp only [isInLine, isLineEnd, Bool.and_eq_true, Bool.not_eq_true', Bool.or_eq_false_iff,
    bne_iff_ne, beq_eq_false_iff_ne] at h
  refine ⟨h.1.1.1, h.1.1.2, h.1.2, ?_, h.2⟩
  rintro rfl
  exact absurd h.1.1.1 (by decide)

@[simp] theorem front_cons (s : Spot) (rest : List Spot) : front (s :: rest) = s.char := rfl

@[simp] theorem second_cons (s : Spot) (rest : List Spot) : second (s :: rest) = front rest := rfl

variable (line column : Nat)

theorem spotsFrom_cons {c : Char} (h : isInLine c = true) (cs : List Char) :
    spotsFrom line column (c :: cs) = ⟨c, line, column⟩ :: spotsFrom line (column + 1) cs := by
  obtain ⟨unbroken, -, noReturn, noFeed, noNext⟩ := isInLine_spec h
  rw [spotsFrom.eq_3 line column c cs (fun _ h _ => noReturn h)]
  simp [noReturn, noFeed, noNext, unbroken]

theorem spotsFrom_newline (cs : List Char) :
    spotsFrom line column ('\n' :: cs) = ⟨'\n', line, column⟩ :: spotsFrom (line + 1) 0 cs := by
  rw [spotsFrom.eq_3 line column '\n' cs (fun _ h _ => absurd h (by decide))]
  simp

theorem spotsFrom_append {w : List Char} (h : ∀ c ∈ w, isInLine c = true) (cs : List Char) :
    spotsFrom line column (w ++ cs) =
      row line column w ++ spotsFrom line (column + w.length) cs := by
  induction w generalizing column with
  | nil => rfl
  | cons c w ih =>
    rw [List.cons_append, spotsFrom_cons line column (h c (by simp)),
      ih (column + 1) fun d hd => h d (by simp [hd]), List.length_cons]
    simp only [row, List.cons_append]
    congr 3
    omega

/-- The blanks since the last word, as a scalar keeps them. -/
def pending (blanks : List Char) : Option Gap :=
  if blanks = [] then none else some { blanks := blanks }

theorem pending_getD (blanks : List Char) : (pending blanks).getD {} = { blanks := blanks } := by
  unfold pending
  split
  · next h => rw [h]; rfl
  · rfl

theorem pending_addBlank (blanks : List Char) (c : Char) :
    some (((pending blanks).getD {}).addBlank c) = pending (blanks ++ [c]) := by
  rw [pending_getD]
  simp [Gap.addBlank, pending]

theorem behindGap_pending (back blanks : List Char) :
    behindGap back (pending blanks) = blanks.reverse ++ back := by
  unfold pending
  split
  · next h => rw [h]; rfl
  · rfl

theorem atDocumentMark_indented (h : 0 < column) (c : Char) (rest : List Spot) :
    atDocumentMark (⟨c, line, column⟩ :: rest) = false := by
  have right : (column == 0) = false := by simp; omega
  rcases rest with _ | ⟨s, _ | ⟨t, rest⟩⟩ <;> simp [atDocumentMark, atMark, right]

/-- The character may stand in a plain scalar wherever blanks are around it. -/
def isPlain (c : Char) : Bool := isInLine c && c != ':' && c != '#' && c != '\ufeff'

theorem isPlain_spec {c : Char} (h : isPlain c = true) :
    isBreak c = false ∧ c ≠ endMark ∧ c ≠ ':' ∧ c ≠ '#' := by
  simp only [isPlain, Bool.and_eq_true, bne_iff_ne] at h
  exact ⟨(isInLine_spec h.1.1.1).1, (isInLine_spec h.1.1.1).2.1, h.1.1.2, h.1.2⟩

theorem eq_nil_of_isBlank {cs : List Char} (blank : ∀ c ∈ cs, isBlank c = true)
    (last : ∀ c, cs.getLast? = some c → isBlank c = false) : cs = [] := by
  cases h : cs.getLast? with
  | none => simpa using h
  | some c =>
    have kept := last c h
    rw [blank c (List.mem_of_getLast? h)] at kept
    cases kept

/-- A word behind blanks ends no scalar if it stands inside the margin. -/
theorem goesOn_behind_blanks {margin column : Nat} {blanks : List Char} {c : Char}
    (noHash : c ≠ '#') (inside : blanks ≠ [] → margin ≤ column ∧ 0 < column) (rest : List Spot) :
    ((pending blanks).isSome && ((!false && decide (column < margin)) || c == '#' ||
      atDocumentMark (⟨c, line, column⟩ :: rest))) = false := by
  by_cases none : blanks = []
  · simp [pending, none]
  · obtain ⟨wide, right⟩ := inside none
    rw [atDocumentMark_indented line column right]
    simp [noHash, wide]

/-- A row of words is read whole, the blanks between them included, if a word that follows a blank
stands inside the margin. -/
theorem plainFrom_row (margin : Nat) {w : List Char} (back blanks : List Char) (rest : List Spot)
    (plain : ∀ c ∈ w, isPlain c = true)
    (inside : (blanks ≠ [] ∨ ∃ c ∈ w, isBlank c = true) → margin ≤ column ∧ 0 < column)
    (last : ∀ c, (blanks ++ w).getLast? = some c → isBlank c = false)
    (blank : ∀ c ∈ blanks, isBlank c = true) :
    plainFrom false margin back (pending blanks) (row line column w ++ rest) =
      plainFrom false margin (w.reverse ++ (blanks.reverse ++ back)) none rest := by
  induction w generalizing column back blanks with
  | nil =>
    rw [List.append_nil] at last
    rw [eq_nil_of_isBlank blank last]
    rfl
  | cons c w ih =>
    obtain ⟨unbroken, inText, noColon, noHash⟩ := isPlain_spec (plain c (by simp))
    have later : ∀ d ∈ w, isPlain d = true := fun d hd => plain d (by simp [hd])
    rw [row, List.cons_append, plainFrom]
    by_cases hb : isBlank c = true
    · have here := inside (Or.inr ⟨c, by simp, hb⟩)
      simp only [if_pos hb, pending_getD, Bool.false_and, Bool.false_eq_true, if_false]
      rw [← pending_getD, pending_addBlank, ih (column + 1) back (blanks ++ [c]) later
        (fun _ => ⟨by omega, by omega⟩) (by simpa using last)
        (by simpa using fun d hd => hd.elim (blank d) (fun e => e ▸ hb))]
      simp
    · have kept := goesOn_behind_blanks line noHash (fun some => inside (.inl some))
        (row line (column + 1) w ++ rest)
      have later' := ih (column + 1) (c :: (blanks.reverse ++ back)) [] later
        (fun h => by
          have := inside (h.elim (fun h => absurd rfl h)
            (fun ⟨d, hd, hdb⟩ => Or.inr ⟨d, by simp [hd], hdb⟩))
          omega)
        (fun d hd => last d (by
          rw [List.nil_append] at hd
          simp [List.getLast?_append, List.getLast?_cons, hd]))
        (by simp)
      simp only [Bool.not_eq_true] at hb
      simp only [hb, unbroken, inText, kept, Bool.false_eq_true, if_false, Bool.false_and]
      rw [if_neg (by simp [noColon]), behindGap_pending]
      simpa [pending] using later'

theorem plainFrom_key {w : List Char} (words : ∀ c ∈ w, isPlain c = true ∧ isBlank c = false)
    (margin here : Nat) {rest : List Spot} (gap : isGap (front rest) = true) :
    plainFrom false margin [] none (row line column w ++ ⟨':', line, here⟩ :: rest) =
      some ⟨w, false, ⟨':', line, here⟩ :: rest⟩ := by
  have read := plainFrom_row line column margin [] [] (⟨':', line, here⟩ :: rest)
    (fun c hc => (words c hc).1)
    (fun h => h.elim (fun h => absurd rfl h)
      (fun ⟨c, hc, blank⟩ => by rw [(words c hc).2] at blank; cases blank))
    (fun c hc => (words c (List.mem_of_getLast? hc)).2) (by simp)
  rw [show pending [] = none from rfl] at read
  rw [read, plainFrom]
  simp [isBlank, isBreak, endMark, gap, Plain.ending]

theorem plainFrom_spaces (margin n : Nat) (back : List Char) (firstBreak : Option Char)
    (rest : List Spot) :
    plainFrom false margin back (some { broken := true, firstBreak := firstBreak })
        (row line column (List.replicate n ' ') ++ rest) =
      plainFrom false margin back (some { broken := true, firstBreak := firstBreak }) rest := by
  induction n generalizing column with
  | zero => rfl
  | succ n ih =>
    rw [List.replicate_succ, row, List.cons_append, plainFrom]
    simpa [isBlank, Gap.addBlank] using ih (column + 1)

/-- Words up to the end of their line are a scalar, if the next line stands outside the margin. -/
theorem plainFrom_line {margin : Nat} {w : List Char} (plain : ∀ c ∈ w, isPlain c = true)
    (last : ∀ c, w.getLast? = some c → isBlank c = false) (inside : margin ≤ column)
    (right : 0 < column) {here : Nat} (indent : Nat) {s : Spot} {rest : List Spot}
    (solid : isBlank s.char = false ∧ isBreak s.char = false)
    (outside : s.char = endMark ∨ s.column < margin) :
    plainFrom false margin [] none (row line column w ++ ⟨'\n', line, here⟩ ::
        (row (line + 1) 0 (List.replicate indent ' ') ++ s :: rest)) =
      some ⟨w, true, s :: rest⟩ := by
  have read := plainFrom_row line column margin [] [] (⟨'\n', line, here⟩ ::
    (row (line + 1) 0 (List.replicate indent ' ') ++ s :: rest)) plain
    (fun _ => ⟨inside, right⟩) last (by simp)
  rw [show pending [] = none from rfl] at read
  have broken := plainFrom_spaces (line + 1) 0 margin indent w.reverse (some '\n')
    (s :: rest)
  rw [read, plainFrom]
  simp only [List.reverse_nil, List.append_nil, isBlank, isBreak, Gap.addBreak, Option.getD_none]
  simp only [show ('\n' == ' ' || '\n' == '\t') = false from rfl, Bool.false_eq_true, if_false]
  rw [if_pos (by decide), broken, plainFrom]
  simp only [solid, Bool.false_eq_true, if_false]
  rcases outside with ended | outside
  · simp [ended, Plain.ending]
  · simp [outside, Plain.ending]

/-- The character may stand in double quotes as it is. -/
def isQuotable (c : Char) : Bool := isInLine c && c != '"' && c != '\\'

theorem isQuotable_spec {c : Char} (h : isQuotable c = true) :
    isBreak c = false ∧ c ≠ endMark ∧ c ≠ '"' ∧ c ≠ '\\' := by
  simp only [isQuotable, Bool.and_eq_true, bne_iff_ne] at h
  exact ⟨(isInLine_spec h.1.1).1, (isInLine_spec h.1.1).2.1, h.1.2, h.2⟩

theorem doubleFrom_row {w : List Char} (back blanks : List Char) (rest : List Spot)
    (quotable : ∀ c ∈ w, isQuotable c = true) (right : 0 < column) :
    doubleFrom .words back (pending blanks)
        (row line column w ++ ⟨'"', line, column + w.length⟩ :: rest) =
      some ((w.reverse ++ (blanks.reverse ++ back)).reverse, rest) := by
  induction w generalizing column back blanks with
  | nil =>
    rw [row, List.nil_append, doubleFrom, atDocumentMark_indented line _ (by simpa using right)]
    simp [isBlank, isBreak, endMark, behindGap_pending]
  | cons c w ih =>
    obtain ⟨unbroken, inText, noQuote, noSlash⟩ := isQuotable_spec (quotable c (by simp))
    have later : ∀ d ∈ w, isQuotable d = true := fun d hd => quotable d (by simp [hd])
    have width : column + (c :: w).length = column + 1 + w.length := by
      rw [List.length_cons]
      omega
    rw [row, List.cons_append, doubleFrom, atDocumentMark_indented line column right, width]
    by_cases hb : isBlank c = true
    · simp only [if_pos hb]
      rw [pending_addBlank, ih (column + 1) back (blanks ++ [c]) later (by omega)]
      simp
    · have next := ih (column + 1) (c :: (blanks.reverse ++ back)) [] later (by omega)
      simp only [hb, unbroken, inText, noQuote, noSlash, behindGap_pending, Bool.false_eq_true,
        if_false, or_self]
      simpa [pending] using next

theorem doubleFrom_quoted {w : List Char} (rest : List Spot)
    (quotable : ∀ c ∈ w, isQuotable c = true) (right : 0 < column) :
    doubleFrom .words [] none (row line column w ++ ⟨'"', line, column + w.length⟩ :: rest) =
      some (w, rest) := by
  have read := doubleFrom_row line column [] [] rest quotable right
  simpa [pending] using read

/-- Whatever stands in quotes, the quote behind it has its own place, and what follows it goes on
from there. -/
theorem spotsFrom_quote {w : List Char} (free : ∀ c ∈ w, c ≠ '"' ∧ c ≠ '\\') (rest : List Char) :
    ∃ spots line' column', (∀ s ∈ spots, s.char ≠ '"' ∧ s.char ≠ '\\') ∧
      spotsFrom line column (w ++ '"' :: rest) =
        spots ++ ⟨'"', line', column'⟩ :: spotsFrom line' (column' + 1) rest := by
  have alone : ∀ c cs, (∀ ds, c = '\r' → cs = '\n' :: ds → False) →
      ∀ ds, c = '\r' → cs ++ '"' :: rest = '\n' :: ds → False := by
    intro c cs single ds hc same
    cases cs with
    | nil => exact absurd (List.cons.inj same).1 (by decide)
    | cons d cs =>
      obtain ⟨rfl, -⟩ := List.cons.inj same
      exact single cs hc rfl
  induction line, column, w using spotsFrom.induct with
  | case1 line column =>
    exact ⟨[], line, column, by simp, spotsFrom_cons line column (by decide) rest⟩
  | case2 line column cs ih =>
    obtain ⟨spots, line', column', clean, same⟩ := ih fun c hc => free c (by simp [hc])
    refine ⟨⟨'\n', line, column⟩ :: spots, line', column', by simpa using clean, ?_⟩
    rw [List.cons_append, List.cons_append, spotsFrom.eq_2, same, List.cons_append]
  | case3 line column c cs single ends ih =>
    obtain ⟨spots, line', column', clean, same⟩ := ih fun c hc => free c (by simp [hc])
    refine ⟨⟨'\n', line, column⟩ :: spots, line', column', by simpa using clean, ?_⟩
    rw [List.cons_append, spotsFrom.eq_3 _ _ _ _ (alone c cs single), if_pos ends, same,
      List.cons_append]
  | case4 line column c cs single ends breaks ih =>
    obtain ⟨spots, line', column', clean, same⟩ := ih fun c hc => free c (by simp [hc])
    refine ⟨⟨c, line, column⟩ :: spots, line', column', ?_, ?_⟩
    · simpa using ⟨free c (by simp), clean⟩
    · rw [List.cons_append, spotsFrom.eq_3 _ _ _ _ (alone c cs single), if_neg ends,
        if_pos breaks, same, List.cons_append]
  | case5 line column c cs single ends unbroken ih =>
    obtain ⟨spots, line', column', clean, same⟩ := ih fun c hc => free c (by simp [hc])
    refine ⟨⟨c, line, column⟩ :: spots, line', column', ?_, ?_⟩
    · simpa using ⟨free c (by simp), clean⟩
    · rw [List.cons_append, spotsFrom.eq_3 _ _ _ _ (alone c cs single), if_neg ends,
        if_neg unbroken, same, List.cons_append]

/-- A text without quotes and backslashes is read up to its closing quote or not at all. -/
theorem doubleFrom_quote {spots : List Spot} (clean : ∀ s ∈ spots, s.char ≠ '"' ∧ s.char ≠ '\\')
    (back : List Char) (gap : Option Gap) (rest : List Spot) :
    doubleFrom .words back gap (spots ++ ⟨'"', line, column⟩ :: rest) = none ∨
      ∃ text, doubleFrom .words back gap (spots ++ ⟨'"', line, column⟩ :: rest) =
        some (text, rest) := by
  induction spots generalizing back gap with
  | nil =>
    rw [List.nil_append, doubleFrom]
    dsimp only
    rw [if_neg (by decide), if_neg (by decide)]
    split
    · exact Or.inl rfl
    · exact Or.inr ⟨_, rfl⟩
  | cons s spots ih =>
    obtain ⟨noQuote, noSlash⟩ := clean s (by simp)
    have later := ih fun t ht => clean t (by simp [ht])
    rw [List.cons_append, doubleFrom]
    dsimp only
    split
    · exact later _ _
    · split
      · exact later _ _
      · split
        · exact Or.inl rfl
        · have more := later (s.char :: behindGap back gap) none
          simpa only [if_neg noQuote, if_neg noSlash] using more

/-- A token begins at this character: it is neither skipped nor the start of a comment. -/
def isSolid (c : Char) : Bool := !isBreak c && !isBlank c && c != '\ufeff' && c != '#'

theorem isSolid_of_isPlain {c : Char} (plain : isPlain c = true) (unblank : isBlank c = false) :
    isSolid c = true := by
  obtain ⟨unbroken, -, -, noHash⟩ := isPlain_spec plain
  simp only [isPlain, Bool.and_eq_true] at plain
  simp [isSolid, unbroken, unblank, noHash, plain.2]

namespace Reading

variable (inFlow keyAllowed : Bool)

theorem skipGap_solid (s : Spot) (rest : List Spot) (h : isSolid s.char = true) :
    skipGap inFlow keyAllowed false (s :: rest) = (keyAllowed, s :: rest) := by
  simp only [isSolid, isBlank, Bool.and_eq_true, Bool.not_eq_true', Bool.or_eq_false_iff,
    bne_iff_ne, beq_eq_false_iff_ne] at h
  obtain ⟨⟨⟨unbroken, noSpace, noTab⟩, noMark⟩, noHash⟩ := h
  simp [skipGap, unbroken, noSpace, noTab, noMark, noHash]

theorem skipGap_spaces (n : Nat) (rest : List Spot) :
    skipGap inFlow keyAllowed false (row line column (List.replicate n ' ') ++ rest) =
      skipGap inFlow keyAllowed false rest := by
  induction n generalizing column with
  | zero => rfl
  | succ n ih =>
    rw [List.replicate_succ, row, List.cons_append, skipGap]
    simp only [show isBreak ' ' = false from rfl, Bool.false_eq_true, if_false, Bool.false_and,
      true_or, if_true]
    exact ih (column + 1)

end Reading

end Resilience.Yaml
