import Resilience.Json.Tree
import Resilience.Proofs.Json.Number
import Resilience.Proofs.Json.Proper
/-! # Written values read back

A value spread over lines is cut into the tokens of its structure, and these build its tree.
-/
namespace Resilience.Json

mutual

def tree : Json → Tree
  | .null => .null
  | .bool b => .bool b
  | .number n => .numeral (Numeral.ofNumber n)
  | .string s => .string (some s)
  | .array items => .array (itemTrees items)
  | .object members => .object (memberTrees members)

def itemTrees : List Json → List Tree
  | [] => []
  | j :: js => j.tree :: itemTrees js

def memberTrees : List (String × Json) → List (Option String × Tree)
  | [] => []
  | (key, j) :: ms => (some key, j.tree) :: memberTrees ms

end

mutual

def tokensOf : Json → List Token
  | .null => [.null]
  | .bool b => [.bool b]
  | .number n => [.numeral (Numeral.ofNumber n)]
  | .string s => [.string (some s)]
  | .array [] => [.openBracket, .closeBracket]
  | .array (item :: items) => .openBracket :: (tokensOf item ++ itemTokens items)
  | .object [] => [.openBrace, .closeBrace]
  | .object ((key, value) :: members) =>
    .openBrace :: .string (some key) :: .colon :: (tokensOf value ++ memberTokens members)

def itemTokens : List Json → List Token
  | [] => [.closeBracket]
  | item :: items => .comma :: (tokensOf item ++ itemTokens items)

def memberTokens : List (String × Json) → List Token
  | [] => [.closeBrace]
  | (key, value) :: members =>
    .comma :: .string (some key) :: .colon :: (tokensOf value ++ memberTokens members)

end

section Lexing

theorem tokensFrom_between {c : Char} {ts : List Token} (h : lexBetween c = some (ts, .between))
    (rest : List Char) :
    tokensFrom .between (c :: rest) = (tokensFrom .between rest).map (ts ++ ·) := by
  rw [tokensFrom, lexChar, h]

theorem tokensFrom_newLine (level : Nat) (rest : List Char) :
    tokensFrom .between (newLine level ++ rest) = tokensFrom .between rest := by
  have blanks : ∀ n, tokensFrom .between (List.replicate n ' ' ++ rest) =
      tokensFrom .between rest := by
    intro n
    induction n with
    | zero => rfl
    | succ n ih =>
      rw [List.replicate_succ, List.cons_append, tokensFrom_between rfl, ih]
      exact Option.map_id'
  rw [newLine, List.cons_append, tokensFrom_between rfl, blanks]
  exact Option.map_id'

theorem digit?_hexDigit {d : Nat} (h : d < 16) : Text.digit? 16 (Text.hexDigit d) = some d := by
  revert d
  decide

variable {acc : List Char}

theorem tokensFrom_escape {c d : Char} (h : escaped? c = some d) (other : c ≠ 'u')
    (rest : List Char) :
    tokensFrom (.string ⟨some acc, none⟩) ('\\' :: c :: rest) =
      tokensFrom (.string ⟨some (d :: acc), none⟩) rest := by
  have back : lexChar '\\' (.string ⟨some acc, none⟩) = some ([], .escape ⟨some acc, none⟩) := rfl
  rw [tokensFrom, back]
  simp only [List.nil_append, Option.map_id']
  rw [tokensFrom, lexChar, if_neg other, h]
  simp [Spelling.push]

theorem tokensFrom_hex {d e : Nat} (hd : d < 2) (he : e < 16) (rest : List Char) :
    tokensFrom (.string ⟨some acc, none⟩)
        ('\\' :: 'u' :: '0' :: '0' :: Text.hexDigit d :: Text.hexDigit e :: rest) =
      tokensFrom (.string ⟨some (Char.ofNat (d * 16 + e) :: acc), none⟩) rest := by
  have zero : Text.digit? 16 '0' = some 0 := rfl
  have code : Spelling.pushUnit ⟨some acc, none⟩ (d * 16 + e) =
      ⟨some (Char.ofNat (d * 16 + e) :: acc), none⟩ := by
    simp only [Spelling.pushUnit]
    rw [if_neg (by omega), if_neg (by omega)]
    rfl
  simp [tokensFrom, lexChar, zero, digit?_hexDigit (show d < 16 by omega), digit?_hexDigit he, code]

theorem tokensFrom_escapeChar (c : Char) (rest : List Char) :
    tokensFrom (.string ⟨some acc, none⟩) (escapeChar c ++ rest) =
      tokensFrom (.string ⟨some (c :: acc), none⟩) rest := by
  have special : ∀ {d : Char}, c.toNat = d.toNat → c = d := fun h => Char.toNat_inj.mp h
  unfold escapeChar
  split
  · exact tokensFrom_escape rfl (by decide) rest
  · exact tokensFrom_escape rfl (by decide) rest
  · exact tokensFrom_escape rfl (by decide) rest
  · exact tokensFrom_escape rfl (by decide) rest
  · exact tokensFrom_escape rfl (by decide) rest
  · next quote back _ _ _ =>
    split_ifs with eight twelve control
    · rw [show c = Char.ofNat 8 from special eight]
      exact tokensFrom_escape rfl (by decide) rest
    · rw [show c = Char.ofNat 12 from special twelve]
      exact tokensFrom_escape rfl (by decide) rest
    · have value : c.toNat / 16 * 16 + c.toNat % 16 = c.toNat := Nat.div_add_mod' _ _
      have := @tokensFrom_hex acc (c.toNat / 16) (c.toNat % 16) (by omega) (by omega) rest
      rwa [value, Char.ofNat_toNat] at this
    · rw [List.cons_append, List.nil_append, tokensFrom, lexChar, if_neg quote, if_neg back,
        if_neg control]
      simp [Spelling.push]

theorem tokensFrom_quoted (s : String) (rest : List Char) :
    tokensFrom .between (quoted s ++ rest) =
      (tokensFrom .between rest).map (.string (some s) :: ·) := by
  have inside : ∀ (cs acc : List Char), tokensFrom (.string ⟨some acc, none⟩)
      (cs.flatMap escapeChar ++ '"' :: rest) =
        (tokensFrom .between rest).map (.string (some (String.ofList (acc.reverse ++ cs))) :: ·) := by
    intro cs
    induction cs with
    | nil =>
      intro acc
      rw [List.flatMap_nil, List.nil_append, List.append_nil]
      rfl
    | cons c cs ih =>
      intro acc
      rw [List.flatMap_cons, List.append_assoc, tokensFrom_escapeChar, ih]
      simp
  have start : lexBetween '"' = some ([], .string ⟨some [], none⟩) := rfl
  rw [quoted, List.cons_append, List.append_assoc, tokensFrom, lexChar, start]
  simp only [List.nil_append, Option.map_id', List.cons_append]
  rw [inside, List.reverse_nil, List.nil_append, String.ofList_toList]

theorem stops_cons {c : Char} (h : ∀ s : NumeralState, s.next? c = none) (rest : List Char) :
    Stops (c :: rest) := by
  intro d hd
  cases hd
  exact h

theorem stops_comma (rest : List Char) : Stops (',' :: rest) :=
  stops_cons (fun s => by cases s <;> rfl) rest

theorem stops_line (rest : List Char) : Stops ('\n' :: rest) :=
  stops_cons (fun s => by cases s <;> rfl) rest

theorem stops_prettyItems (level : Nat) (js : List Json) (rest : List Char) :
    Stops (prettyItems level js ++ rest) := by
  cases js with
  | nil => exact stops_line _
  | cons j js => exact stops_comma _

theorem stops_prettyMembers (level : Nat) (ms : List (String × Json)) (rest : List Char) :
    Stops (prettyMembers level ms ++ rest) := by
  cases ms with
  | nil => exact stops_line _
  | cons m ms => exact stops_comma _

theorem tokensFrom_word {c d : Char} {cs : List Char} {t : Token}
    (start : lexBetween c = some ([], .word (d :: cs) t)) (rest : List Char) :
    tokensFrom .between (c :: d :: (cs ++ rest)) = (tokensFrom .between rest).map (t :: ·) := by
  have inside : ∀ (d : Char) (cs : List Char), tokensFrom (.word (d :: cs) t)
      (d :: (cs ++ rest)) = (tokensFrom .between rest).map (t :: ·) := by
    intro d cs
    induction cs generalizing d with
    | nil =>
      rw [tokensFrom, lexChar, if_pos rfl]
      rfl
    | cons e cs ih =>
      rw [tokensFrom, lexChar, if_pos rfl, List.cons_append]
      simp only [List.nil_append, Option.map_id', ih]
  rw [tokensFrom, lexChar, start]
  simp only [List.nil_append, Option.map_id', inside]

theorem lexes_member {level : Nat} {key : String} {value : List Char} {ts : List Token}
    (h : Lexes value ts) {more : List Char} (stops : Stops more) :
    tokensFrom .between (newLine level ++ quoted key ++ ':' :: ' ' :: value ++ more) =
      (tokensFrom .between more).map (.string (some key) :: .colon :: ts ++ ·) := by
  rw [List.append_assoc, List.append_assoc, tokensFrom_newLine, tokensFrom_quoted,
    List.cons_append, List.cons_append, tokensFrom_between (c := ':') rfl,
    tokensFrom_between (c := ' ') rfl, h more stops]
  simp [Function.comp_def]

mutual

theorem lexes_pretty (level : Nat) : ∀ {j : Json}, j.Proper →
    Lexes (prettyChars level j) (tokensOf j)
  | .null, _ => fun rest _ => @tokensFrom_word 'n' 'u' ['l', 'l'] _ rfl rest
  | .bool true, _ => fun rest _ => @tokensFrom_word 't' 'r' ['u', 'e'] _ rfl rest
  | .bool false, _ => fun rest _ => @tokensFrom_word 'f' 'a' ['l', 's', 'e'] _ rfl rest
  | .number n, h => by
    rw [prettyChars, tokensOf, ← Numeral.chars_ofNumber]
    exact Numeral.lexes (Numeral.wellformed_ofNumber h)
  | .string s, _ => fun rest _ => tokensFrom_quoted s rest
  | .array [], _ => fun rest _ => by
    simp [prettyChars, tokensOf, tokensFrom_between (c := '[') rfl,
      tokensFrom_between (c := ']') rfl, Function.comp_def]
  | .array (item :: items), h => fun rest _ => by
    have head := lexes_pretty (level + 1) h.1 _ (stops_prettyItems level items rest)
    have tail := lexes_items level h.2 rest
    rw [prettyChars, tokensOf, List.cons_append, tokensFrom_between (c := '[') rfl,
      List.append_assoc, List.append_assoc, tokensFrom_newLine, head, tail]
    simp [Function.comp_def]
  | .object [], _ => fun rest _ => by
    simp [prettyChars, tokensOf, tokensFrom_between (c := '\x7b') rfl,
      tokensFrom_between (c := '\x7d') rfl, Function.comp_def]
  | .object ((key, value) :: members), h => fun rest _ => by
    have head := lexes_pretty (level + 1) h.2.1
    have tail := lexes_members level h.2.2 rest
    rw [prettyChars, tokensOf, List.cons_append, tokensFrom_between (c := '\x7b') rfl,
      List.append_assoc, lexes_member head (stops_prettyMembers level members rest), tail]
    simp [Function.comp_def]

theorem lexes_items (level : Nat) : ∀ {js : List Json}, ItemsProper js → ∀ rest,
    tokensFrom .between (prettyItems level js ++ rest) =
      (tokensFrom .between rest).map (itemTokens js ++ ·)
  | [], _, rest => by
    rw [prettyItems, List.append_assoc, tokensFrom_newLine, List.singleton_append,
      tokensFrom_between (c := ']') rfl]
    rfl
  | j :: js, h, rest => by
    have head := lexes_pretty (level + 1) h.1 _ (stops_prettyItems level js rest)
    have tail := lexes_items level h.2 rest
    rw [prettyItems, itemTokens, List.cons_append, tokensFrom_between (c := ',') rfl,
      List.append_assoc, List.append_assoc, tokensFrom_newLine, head, tail]
    simp [Function.comp_def]

theorem lexes_members (level : Nat) : ∀ {ms : List (String × Json)}, MembersProper ms → ∀ rest,
    tokensFrom .between (prettyMembers level ms ++ rest) =
      (tokensFrom .between rest).map (memberTokens ms ++ ·)
  | [], _, rest => by
    rw [prettyMembers, List.append_assoc, tokensFrom_newLine, List.singleton_append,
      tokensFrom_between (c := '\x7d') rfl]
    rfl
  | (key, j) :: ms, h, rest => by
    have head := lexes_pretty (level + 1) h.1
    have tail := lexes_members level h.2 rest
    rw [prettyMembers, memberTokens, List.cons_append, tokensFrom_between (c := ',') rfl,
      List.append_assoc, lexes_member head (stops_prettyMembers level ms rest), tail]
    simp [Function.comp_def]

end

end Lexing

section Building

/-- A value may begin where an array may end. -/
theorem run_firstItem (frames : List Frame) (j : Json) (ts : List Token) :
    Builder.run ⟨.array [] :: frames, .firstItem⟩ (tokensOf j ++ ts) =
      Builder.run ⟨.array [] :: frames, .value⟩ (tokensOf j ++ ts) := by
  match j with
  | .null | .bool _ | .number _ | .string _ | .array [] | .array (_ :: _) | .object []
  | .object (_ :: _) => rfl

mutual

/-- The tokens of a value put its tree where a value is expected. -/
theorem run_tokensOf : ∀ (j : Json) (frames : List Frame) (ts : List Token),
    Builder.run ⟨frames, .value⟩ (tokensOf j ++ ts) = Builder.run (place j.tree frames) ts
  | .null, _, _ | .bool _, _, _ | .number _, _, _ | .string _, _, _ => rfl
  | .array [], _, _ => rfl
  | .array (item :: items), frames, ts => by
    have opened : Builder.run ⟨frames, .value⟩ (tokensOf (.array (item :: items)) ++ ts) =
        Builder.run ⟨.array [] :: frames, .firstItem⟩ (tokensOf item ++ (itemTokens items ++ ts)) := by
      rw [tokensOf, List.cons_append, List.append_assoc]
      rfl
    rw [opened, run_firstItem, run_tokensOf item]
    exact run_itemTokens items [item.tree] frames ts
  | .object [], _, _ => rfl
  | .object ((key, value) :: members), frames, ts => by
    have opened : Builder.run ⟨frames, .value⟩ (tokensOf (.object ((key, value) :: members)) ++ ts) =
        Builder.run ⟨.object [] (some key) :: frames, .value⟩
          (tokensOf value ++ (memberTokens members ++ ts)) := by
      rw [tokensOf, List.cons_append, List.cons_append, List.cons_append, List.append_assoc]
      rfl
    rw [opened, run_tokensOf value]
    exact run_memberTokens members [(some key, value.tree)] frames ts

theorem run_itemTokens : ∀ (js : List Json) (done : List Tree) (frames : List Frame)
    (ts : List Token), Builder.run ⟨.array done :: frames, .afterValue⟩ (itemTokens js ++ ts) =
      Builder.run (place (.array (done.reverse ++ itemTrees js)) frames) ts
  | [], done, frames, ts => by
    rw [itemTrees, List.append_nil]
    rfl
  | j :: js, done, frames, ts => by
    have next : Builder.run ⟨.array done :: frames, .afterValue⟩ (itemTokens (j :: js) ++ ts) =
        Builder.run ⟨.array done :: frames, .value⟩ (tokensOf j ++ (itemTokens js ++ ts)) := by
      rw [itemTokens, List.cons_append, List.append_assoc]
      rfl
    rw [next, run_tokensOf j, place, run_itemTokens js, itemTrees, List.reverse_cons,
      List.append_assoc, List.singleton_append]

theorem run_memberTokens : ∀ (ms : List (String × Json)) (done : List (Option String × Tree))
    (frames : List Frame) (ts : List Token),
    Builder.run ⟨.object done none :: frames, .afterValue⟩ (memberTokens ms ++ ts) =
      Builder.run (place (.object (done.reverse ++ memberTrees ms)) frames) ts
  | [], done, frames, ts => by
    rw [memberTrees, List.append_nil]
    rfl
  | (key, j) :: ms, done, frames, ts => by
    have next : Builder.run ⟨.object done none :: frames, .afterValue⟩
        (memberTokens ((key, j) :: ms) ++ ts) =
        Builder.run ⟨.object done (some key) :: frames, .value⟩
          (tokensOf j ++ (memberTokens ms ++ ts)) := by
      rw [memberTokens, List.cons_append, List.cons_append, List.cons_append, List.append_assoc]
      rfl
    rw [next, run_tokensOf j, place, run_memberTokens ms, memberTrees, List.reverse_cons,
      List.append_assoc, List.singleton_append]

end

end Building

section Values

mutual

/-- The structure of a value is read wherever the value is not too deep. -/
theorem value?_tree {d : Nat} : ∀ {j : Json}, j.Proper →
    ((j.tree.value? d).isSome ↔ j.height ≤ d)
  | .null, _ | .bool _, _ | .string _, _ => by simp [tree, Tree.value?, height]
  | .number n, h => by
    rw [tree, Tree.value?, Option.isSome_map, height]
    simp [Numeral.ofNumber_isSome h]
  | .array items, h => by
    cases d with
    | zero => simp [tree, Tree.value?, height]
    | succ d =>
      rw [tree, Tree.value?, Option.isSome_map, height, itemValues?_tree h, Nat.succ_le_succ_iff]
  | .object members, h => by
    cases d with
    | zero => simp [tree, Tree.value?, height]
    | succ d =>
      rw [tree, Tree.value?, Option.isSome_map, height, memberValues?_tree h.2,
        Nat.succ_le_succ_iff]

theorem itemValues?_tree {d : Nat} : ∀ {js : List Json}, ItemsProper js →
    ((itemValues? d (itemTrees js)).isSome ↔ itemsHeight js ≤ d)
  | [], _ => by simp [itemTrees, itemValues?, itemsHeight]
  | j :: js, h => by
    rw [itemTrees, itemValues?, itemsHeight, Nat.max_le, ← value?_tree h.1,
      ← itemValues?_tree h.2]
    cases j.tree.value? d <;> cases itemValues? d (itemTrees js) <;> simp

theorem memberValues?_tree {d : Nat} : ∀ {ms : List (String × Json)}, MembersProper ms →
    ((memberValues? d (memberTrees ms)).isSome ↔ membersHeight ms ≤ d)
  | [], _ => by simp [memberTrees, memberValues?, membersHeight]
  | (key, j) :: ms, h => by
    rw [memberTrees, memberValues?, membersHeight, Nat.max_le, ← value?_tree h.1,
      ← memberValues?_tree h.2]
    cases j.tree.value? d <;> cases memberValues? d (memberTrees ms) <;> simp

end

end Values

/-- Characters that are cut into the tokens of a value have its structure. -/
theorem ofChars?_of_tokens {cs : List Char} {j : Json} (lexed : tokens cs = some (tokensOf j)) :
    Tree.ofChars? cs = some j.tree := by
  have built : Builder.run ⟨[], .value⟩ (tokensOf j) = some ⟨[], .nothing j.tree⟩ := by
    have := run_tokensOf j [] []
    rwa [List.append_nil] at this
  rw [Tree.ofChars?, lexed]
  simp [built, Builder.result?]

theorem ofChars?_pretty {j : Json} (h : j.Proper) :
    Tree.ofChars? (prettyChars 0 j ++ ['\n']) = some j.tree := by
  apply ofChars?_of_tokens
  rw [tokens, lexes_pretty 0 h _ (stops_line []), tokensFrom_between (c := '\n') rfl]
  simp [tokensFrom]

/-- A value that was written on lines of its own is read with its structure. -/
theorem ofChars?_line {j : Json} (h : j.Proper) :
    Tree.ofChars? (j.pretty ++ "\n").toList = some j.tree := by
  rw [String.toList_append, pretty, String.toList_ofList]
  exact ofChars?_pretty h

end Resilience.Json
