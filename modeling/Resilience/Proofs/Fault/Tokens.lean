import Resilience.Proofs.Fault.BuiltIn
/-! # Tokens of filled templates

Whatever target a built-in template is filled for, its tokens are those that its lines say. Only
the selector may end them early.
-/
namespace Resilience.Template

open Yaml (Line Role)

/-- The values of a target in a named namespace, whose selector holds no double quotes, backslashes
and opening braces. -/
structure Fillable (v : TemplateValues) : Prop where
  namespaceName : IsDnsLabel v.namespaceName
  appLabel : ∀ c ∈ v.appLabel.toList, c ≠ '"' ∧ c ≠ '\\' ∧ c ≠ '{'
  appKind : ∀ c ∈ v.appKind.toList, Yaml.isQuotable c = true ∧ Yaml.isAllowed c = true

section Tokens

variable {v : TemplateValues} (fillable : Fillable v)
include fillable

theorem fits_of_isSound {p : Role × Word} (h : isSound p = true) : p.1.Fits (p.2.fill v) := by
  obtain ⟨role, s | _ | _ | _⟩ := p
  · simp only [isSound, Bool.and_eq_true, decide_eq_true_eq] at h
    exact h.1.1
  · simp only [isSound, Bool.or_eq_true, decide_eq_true_eq] at h
    rcases h with rfl | rfl
    · exact fillable.namespaceName.fits_plain
    · exact fillable.namespaceName.fits_quoted
  · cases h
  · simp only [isSound, decide_eq_true_eq] at h
    subst h
    exact fun c hc => (fillable.appKind c hc).1

theorem isAllowed_of_isSound {p : Role × Word} (h : isSound p = true) :
    (p.2.fill v).toList.all Yaml.isAllowed = true := by
  obtain ⟨role, s | _ | _ | _⟩ := p
  · simp only [isSound, Bool.and_eq_true] at h
    exact h.1.2
  · exact fillable.namespaceName.isAllowed
  · cases h
  · exact List.all_eq_true.2 fun c hc => (fillable.appKind c hc).2

omit fillable in
theorem isTokenFree_of_isSound {p : Role × Word} (h : isSound p = true) :
    p.2.isTokenFree = true := by
  obtain ⟨role, s | _ | _ | _⟩ := p
  · simp only [isSound, Bool.and_eq_true] at h
    exact h.2
  · rfl
  · rfl
  · rfl

theorem Fillable.appLabel_isTokenFree : isTokenFree v.appLabel = true := by
  refine List.all_eq_true.2 fun c hc => ?_
  simpa using (fillable.appLabel c hc).2.2

omit fillable in
/-- Lines that begin on the first column are laid out as they are filled. -/
theorem layout_eq_filled {ls : List (Line Word)} (flush : ls.head?.all (·.indent == 0) = true) :
    Yaml.layout (Word.fill v) (0, []) ls = (0, filled v ls) := by
  have whole := @Yaml.layout_eq_flatMap _ (Word.fill v) ls
  have left : (Yaml.layout (Word.fill v) (0, []) ls).1 = 0 := by
    cases ls with
    | nil => rfl
    | cons l ls => simpa [Yaml.layout] using flush
  rw [left] at whole
  exact Prod.ext left whole

theorem readsAll_of_areSound {ls : List (Line Word)} (sound : areSound ls = true)
    {next : Option Nat} (ended : Yaml.allEnded next ls = true) {tail : Nat × List Char}
    (follows : tail.2 = [] ∨ next = some tail.1) : Yaml.ReadsAll (Word.fill v) tail ls :=
  Yaml.readsAll_of_fits (fun l hl p hp =>
    fits_of_isSound fillable (areSound_spec sound l hl p hp)) ended follows

omit fillable in
theorem filled_isAllowed {ls : List (Line Word)}
    (words : ∀ l ∈ ls, ∀ p ∈ l.words, (p.2.fill v).toList.all Yaml.isAllowed = true) :
    (filled v ls).all Yaml.isAllowed = true :=
  @Yaml.PartByPart.lines _ _ _ Yaml.partByPart_isAllowed (Word.fill v) ls words

theorem substitute_unfilled {ls : List (Line Word)}
    (clean : ∀ l ∈ ls, ∀ p ∈ l.words, p.2.isTokenFree = true) :
    v.substitute (ofLines (unfilledLines ls)) = String.ofList (filled v ls) := by
  rw [← substitute_filled clean (ofLines_unfilledLines ls) fillable.namespaceName.isTokenFree
    fillable.appLabel_isTokenFree, String.ofList_toList]

/-- The tokens of lines without the selector are those that the lines say. -/
theorem tokens_of_areSound {ls : List (Line Word)} (sound : areSound ls = true)
    (ended : Yaml.allEnded none ls = true) (flush : ls.head?.all (·.indent == 0) = true) :
    Yaml.tokens (v.substitute (ofLines (unfilledLines ls))) =
      (ls.foldl (Line.run (Word.fill v)) {}).finish := by
  have spec := areSound_spec sound
  have laid := layout_eq_filled (v := v) flush
  have allowed := filled_isAllowed fun l hl p hp =>
    isAllowed_of_isSound fillable (spec l hl p hp)
  have read := Yaml.tokens_layout ls (readsAll_of_areSound fillable sound ended (Or.inl rfl))
    (by rw [laid]) (by rwa [laid])
  rw [laid] at read
  rw [substitute_unfilled fillable fun l hl p hp => isTokenFree_of_isSound (spec l hl p hp)]
  exact read

theorem tokens_experiment : Yaml.tokens (v.substitute (ofLines experimentLines)) =
    (experimentLayout.foldl (Line.run (Word.fill v)) {}).finish := by
  rw [experimentLines_eq]
  exact tokens_of_areSound fillable experiment_sound (by decide) (by decide)

theorem tokens_account : Yaml.tokens (v.substitute (ofLines serviceAccountLines)) =
    (accountLayout.foldl (Line.run (Word.fill v)) {}).finish := by
  rw [serviceAccountLines_eq]
  exact tokens_of_areSound fillable account_sound (by decide) (by decide)

def engineCut (v : TemplateValues) : List Yaml.Token :=
  ((engineHead.foldl (Line.run (Word.fill v)) {}).key 4 "applabel").tokens.reverse

/-- The engine is read with some selector, or its tokens end in front of it or at once. -/
theorem tokens_engine :
    (∃ text, Yaml.tokens (v.substitute (ofLines engineLines)) =
      (engineLayout.foldl (Line.run (Word.fill { v with appLabel := text })) {}).finish) ∨
    ∃ ts, (ts = [] ∨ ts = engineCut v) ∧
      Yaml.tokens (v.substitute (ofLines engineLines)) = ts ++ [.bad] := by
  have clean : ∀ l ∈ engineLayout, ∀ p ∈ l.words, p.2.isTokenFree = true := by
    intro l hl
    rcases List.mem_append.1 hl with hl | hl
    · exact fun p hp => isTokenFree_of_isSound (areSound_spec engineHead_sound l hl p hp)
    rcases List.mem_cons.1 hl with rfl | hl
    · decide
    · exact fun p hp => isTokenFree_of_isSound (areSound_spec engineRest_sound l hl p hp)
  have laid := @layout_eq_filled v engineLayout (by decide)
  rw [engineLines_eq, substitute_unfilled fillable clean]
  by_cases allowed : (filled v engineLayout).all Yaml.isAllowed = true
  · have headEnded : Yaml.allEnded (some 4) engineHead = true := by decide
    have restEnded : Yaml.allEnded none engineRest = true := by decide
    have rest : Yaml.ReadsAll (Word.fill v) (0, []) engineRest :=
      readsAll_of_areSound fillable engineRest_sound restEnded (Or.inl rfl)
    have first : Yaml.ReadsAll (Word.fill v)
        (Yaml.layout (Word.fill v) (0, []) (selectorLine :: engineRest)) engineHead :=
      readsAll_of_areSound fillable engineHead_sound headEnded (Or.inr rfl)
    have isKey : Yaml.IsKey "applabel".toList := by decide
    have free : ∀ c ∈ v.appLabel.toList, c ≠ '"' ∧ c ≠ '\\' := fun c hc =>
      ⟨(fillable.appLabel c hc).1, (fillable.appLabel c hc).2.1⟩
    rcases @Yaml.tokens_anyQuote _ (Word.fill v) engineHead engineRest 4 "applabel" .appLabel
      isKey free first rest _ laid allowed with
      ⟨text, read⟩ | cut
    · refine Or.inl ⟨text, read.trans ?_⟩
      rw [engineLayout, List.foldl_append, List.foldl_cons]
      rfl
    · exact Or.inr ⟨_, Or.inr rfl, cut⟩
  · refine Or.inr ⟨[], Or.inl rfl, ?_⟩
    rw [Yaml.tokens, Yaml.spots?, String.toList_ofList, if_neg allowed]
    rfl

end Tokens
end Resilience.Template
