import Resilience.Proofs.Json.Whole
/-! # Values on one line

A value on one line holds no line end, whatever its texts hold, and is cut into the tokens of its
structure, in whatever order its members stand.
-/
namespace Resilience.Json

def Ranged (j : Json) : Prop := ∀ n ∈ j.numbers, n.Proper

namespace Ranged

theorem array_iff {js : List Json} : (array js).Ranged ↔ ∀ j ∈ js, j.Ranged := by
  simp only [Ranged, numbers, mem_itemsNumbers]
  exact ⟨fun h j hj n hn => h n ⟨j, hj, hn⟩, fun h n ⟨j, hj, hn⟩ => h j hj n hn⟩

theorem object_iff {ms : List (String × Json)} : (object ms).Ranged ↔ ∀ m ∈ ms, m.2.Ranged := by
  simp only [Ranged, numbers, mem_membersNumbers]
  exact ⟨fun h m hm n hn => h n ⟨m, hm, hn⟩, fun h n ⟨m, hm, hn⟩ => h m hm n hn⟩

theorem number {n : Number} (h : n.Proper) : (number n).Ranged := by
  intro m hm
  rw [List.mem_singleton.mp hm]
  exact h

theorem string (s : String) : (string s).Ranged := by simp [Ranged, numbers]

mutual

theorem of_proper : ∀ {j : Json}, j.Proper → j.Ranged
  | .null, _ | .bool _, _ | .string _, _ => by simp [Ranged, numbers]
  | .number _, h => number h
  | .array _, h => array_iff.mpr (items_of_proper h)
  | .object _, h => object_iff.mpr (members_of_proper h.2)

theorem items_of_proper : ∀ {js : List Json}, ItemsProper js → ∀ j ∈ js, j.Ranged
  | [], _ => by simp
  | _ :: _, h => List.forall_mem_cons.mpr ⟨of_proper h.1, items_of_proper h.2⟩

theorem members_of_proper : ∀ {ms : List (String × Json)}, MembersProper ms →
    ∀ m ∈ ms, m.2.Ranged
  | [], _ => by simp
  | (_, _) :: _, h => List.forall_mem_cons.mpr ⟨of_proper h.1, members_of_proper h.2⟩

end

end Ranged

/-! ## No line ends -/

def IsPrinted (cs : List Char) : Prop := ∀ c ∈ cs, 32 ≤ c.toNat

namespace IsPrinted

variable {cs ds : List Char} {c : Char}

theorem append (h : IsPrinted cs) (k : IsPrinted ds) : IsPrinted (cs ++ ds) :=
  List.forall_mem_append.mpr ⟨h, k⟩

theorem cons (h : 32 ≤ c.toNat) (k : IsPrinted cs) : IsPrinted (c :: cs) :=
  List.forall_mem_cons.mpr ⟨h, k⟩

theorem nil : IsPrinted [] := by simp [IsPrinted]

theorem notMem (h : IsPrinted cs) (control : c.toNat < 32) : c ∉ cs := by
  intro inside
  have := h c inside
  omega

end IsPrinted

theorem isPrinted_digits {ds : List Nat} (small : ∀ d ∈ ds, d < 10) :
    IsPrinted (ds.map Nat.digitChar) := by
  have each : ∀ d < 10, 32 ≤ d.digitChar.toNat := by decide
  intro c hc
  obtain ⟨d, hd, rfl⟩ := List.mem_map.mp hc
  exact each d (small d hd)

theorem isPrinted_numeral {n : Numeral} (h : n.Wellformed) : IsPrinted n.chars := by
  have sign : IsPrinted (if n.negative then ['-'] else []) := by
    split <;> simp [IsPrinted]
  have fraction : IsPrinted (Numeral.fractionChars n.fraction) := by
    cases places : n.fraction with
    | none => exact .nil
    | some ds => exact .cons (by decide) (isPrinted_digits (h.fraction ds places).2)
  have power : IsPrinted (Numeral.powerChars n.power) := by
    cases exponent : n.power with
    | none => exact .nil
    | some p =>
      have digits := isPrinted_digits (h.power p exponent).2
      cases minus : p.1 <;> simpa [Numeral.powerChars, minus, IsPrinted] using digits
  exact sign.append ((isPrinted_digits h.small).append (fraction.append power))

theorem isPrinted_hexDigit {d : Nat} (h : d < 16) : 32 ≤ (Text.hexDigit d).toNat := by
  revert d
  decide

theorem isPrinted_escapeChar (c : Char) : IsPrinted (escapeChar c) := by
  unfold escapeChar
  split
  · simp [IsPrinted]
  · simp [IsPrinted]
  · simp [IsPrinted]
  · simp [IsPrinted]
  · simp [IsPrinted]
  · split_ifs with eight twelve control
    · simp [IsPrinted]
    · simp [IsPrinted]
    · have high := isPrinted_hexDigit (show c.toNat / 16 < 16 by omega)
      have low := isPrinted_hexDigit (show c.toNat % 16 < 16 by omega)
      simp [IsPrinted, high, low]
    · exact .cons (by omega) .nil

theorem isPrinted_quoted (s : String) : IsPrinted (quoted s) := by
  refine .cons (by decide) (.append ?_ (.cons (by decide) .nil))
  intro c hc
  obtain ⟨d, -, hd⟩ := List.mem_flatMap.mp hc
  exact isPrinted_escapeChar d c hd

mutual

theorem isPrinted_compact : ∀ {j : Json}, j.Ranged → IsPrinted (compactChars j)
  | .null, _ | .bool true, _ | .bool false, _ => by simp [compactChars, IsPrinted]
  | .number n, h => by
    rw [compactChars, ← Numeral.chars_ofNumber]
    exact isPrinted_numeral (Numeral.wellformed_ofNumber (h n (by simp [numbers])))
  | .string s, _ => isPrinted_quoted s
  | .array [], _ | .object [], _ => by simp [compactChars, IsPrinted]
  | .array (_ :: _), h => by
    obtain ⟨first, rest⟩ := List.forall_mem_cons.mp (Ranged.array_iff.mp h)
    exact .cons (by decide) ((isPrinted_compact first).append (isPrinted_compactItems rest))
  | .object ((key, _) :: _), h => by
    obtain ⟨first, rest⟩ := List.forall_mem_cons.mp (Ranged.object_iff.mp h)
    rw [compactChars]
    exact .cons (by decide) (((isPrinted_quoted key).append
      (.cons (by decide) (isPrinted_compact first))).append (isPrinted_compactMembers rest))

theorem isPrinted_compactItems : ∀ {js : List Json}, (∀ j ∈ js, j.Ranged) →
    IsPrinted (compactItems js)
  | [], _ => by simp [compactItems, IsPrinted]
  | _ :: _, h => by
    obtain ⟨first, rest⟩ := List.forall_mem_cons.mp h
    exact .cons (by decide) ((isPrinted_compact first).append (isPrinted_compactItems rest))

theorem isPrinted_compactMembers : ∀ {ms : List (String × Json)}, (∀ m ∈ ms, m.2.Ranged) →
    IsPrinted (compactMembers ms)
  | [], _ => by simp [compactMembers, IsPrinted]
  | (key, _) :: _, h => by
    obtain ⟨first, rest⟩ := List.forall_mem_cons.mp h
    rw [compactMembers]
    exact .cons (by decide) (((isPrinted_quoted key).append
      (.cons (by decide) (isPrinted_compact first))).append (isPrinted_compactMembers rest))

end

/-! ## Read back -/

theorem stops_compactItems (js : List Json) (rest : List Char) :
    Stops (compactItems js ++ rest) := by
  cases js with
  | nil => exact stops_cons (fun s => by cases s <;> rfl) _
  | cons j js => exact stops_comma _

theorem stops_compactMembers (ms : List (String × Json)) (rest : List Char) :
    Stops (compactMembers ms ++ rest) := by
  cases ms with
  | nil => exact stops_cons (fun s => by cases s <;> rfl) _
  | cons m ms => exact stops_comma _

theorem lexes_compactMember {key : String} {value : List Char} {ts : List Token}
    (h : Lexes value ts) {more : List Char} (stops : Stops more) :
    tokensFrom .between (quoted key ++ ':' :: value ++ more) =
      (tokensFrom .between more).map (.string (some key) :: .colon :: ts ++ ·) := by
  rw [List.append_assoc, tokensFrom_quoted, List.cons_append,
    tokensFrom_between (c := ':') rfl, h more stops]
  simp [Function.comp_def]

mutual

theorem lexes_compact : ∀ {j : Json}, j.Ranged → Lexes (compactChars j) (tokensOf j)
  | .null, _ => fun rest _ => @tokensFrom_word 'n' 'u' ['l', 'l'] _ rfl rest
  | .bool true, _ => fun rest _ => @tokensFrom_word 't' 'r' ['u', 'e'] _ rfl rest
  | .bool false, _ => fun rest _ => @tokensFrom_word 'f' 'a' ['l', 's', 'e'] _ rfl rest
  | .number n, h => by
    rw [compactChars, tokensOf, ← Numeral.chars_ofNumber]
    exact Numeral.lexes (Numeral.wellformed_ofNumber (h n (by simp [numbers])))
  | .string s, _ => fun rest _ => tokensFrom_quoted s rest
  | .array [], _ => fun rest _ => by
    simp [compactChars, tokensOf, tokensFrom_between (c := '[') rfl,
      tokensFrom_between (c := ']') rfl, Function.comp_def]
  | .array (item :: items), h => fun rest _ => by
    obtain ⟨first, others⟩ := List.forall_mem_cons.mp (Ranged.array_iff.mp h)
    have head := lexes_compact first _ (stops_compactItems items rest)
    have tail := lexes_compactItems others rest
    rw [compactChars, tokensOf, List.cons_append, tokensFrom_between (c := '[') rfl,
      List.append_assoc, head, tail]
    simp [Function.comp_def]
  | .object [], _ => fun rest _ => by
    simp [compactChars, tokensOf, tokensFrom_between (c := '\x7b') rfl,
      tokensFrom_between (c := '\x7d') rfl, Function.comp_def]
  | .object ((key, value) :: members), h => fun rest _ => by
    obtain ⟨first, others⟩ := List.forall_mem_cons.mp (Ranged.object_iff.mp h)
    have head := lexes_compact first
    have tail := lexes_compactMembers others rest
    rw [compactChars, tokensOf, List.cons_append, tokensFrom_between (c := '\x7b') rfl,
      List.append_assoc, lexes_compactMember head (stops_compactMembers members rest), tail]
    simp [Function.comp_def]

theorem lexes_compactItems : ∀ {js : List Json}, (∀ j ∈ js, j.Ranged) → ∀ rest,
    tokensFrom .between (compactItems js ++ rest) =
      (tokensFrom .between rest).map (itemTokens js ++ ·)
  | [], _, rest => by
    rw [compactItems, List.singleton_append, tokensFrom_between (c := ']') rfl]
    rfl
  | j :: js, h, rest => by
    obtain ⟨first, others⟩ := List.forall_mem_cons.mp h
    have head := lexes_compact first _ (stops_compactItems js rest)
    have tail := lexes_compactItems others rest
    rw [compactItems, itemTokens, List.cons_append, tokensFrom_between (c := ',') rfl,
      List.append_assoc, head, tail]
    simp [Function.comp_def]

theorem lexes_compactMembers : ∀ {ms : List (String × Json)}, (∀ m ∈ ms, m.2.Ranged) → ∀ rest,
    tokensFrom .between (compactMembers ms ++ rest) =
      (tokensFrom .between rest).map (memberTokens ms ++ ·)
  | [], _, rest => by
    rw [compactMembers, List.singleton_append, tokensFrom_between (c := '\x7d') rfl]
    rfl
  | (key, j) :: ms, h, rest => by
    obtain ⟨first, others⟩ := List.forall_mem_cons.mp h
    have head := lexes_compact first
    have tail := lexes_compactMembers others rest
    rw [compactMembers, memberTokens, List.cons_append, tokensFrom_between (c := ',') rfl,
      List.append_assoc, lexes_compactMember head (stops_compactMembers ms rest), tail]
    simp [Function.comp_def]

end

theorem ofChars?_compact {j : Json} (h : j.Ranged) :
    Tree.ofChars? j.compact.toList = some j.tree := by
  have alone := lexes_compact h [] (by simp [Stops])
  rw [List.append_nil] at alone
  rw [compact, String.toList_ofList]
  apply ofChars?_of_tokens
  rw [tokens, alone]
  simp [tokensFrom]

end Resilience.Json
