import Resilience.Fault.Template
import Resilience.Proofs.Text.Replace
import Resilience.Proofs.Yaml.Layout
/-! # Templates filled for a target

A template is lines whose words are texts or tokens. Filling the tokens leaves the lines as they
are, so what a filled template reads as can be told from its lines.
-/
namespace Resilience

open Yaml (Line Value Role marks)
open Text (Becomes Stays)

namespace Template

inductive Word where
  | text (s : String)
  | namespaceName
  | appLabel
  | appKind
deriving DecidableEq, Repr

instance : Coe String Word := ⟨.text⟩

def Word.fill (v : TemplateValues) : Word → String
  | .text s => s
  | .namespaceName => v.namespaceName
  | .appLabel => v.appLabel
  | .appKind => v.appKind

/-- The tokens in their own places. -/
def unfilled : TemplateValues := ⟨namespaceToken, labelToken, kindToken⟩

def isTokenFree (s : String) : Bool := s.toList.all (· ≠ '{')

def Word.isTokenFree : Word → Bool
  | .text s => Template.isTokenFree s
  | _ => true

def token (name : List Char) : List Char := '{' :: '{' :: name

theorem namespaceToken_toList :
    namespaceToken.toList = token "APP_NAMESPACE\x7d\x7d".toList := by decide

theorem labelToken_toList : labelToken.toList = token "APP_LABEL\x7d\x7d".toList := by decide

theorem kindToken_toList : kindToken.toList = token "APP_KIND\x7d\x7d".toList := by decide

variable {name value : List Char}

theorem stays_of_isTokenFree {s : String} (h : Template.isTokenFree s = true) :
    Stays (token name) value s.toList := by
  refine Becomes.others fun c hc => ?_
  simpa using List.all_eq_true.1 h c hc

theorem token_replaced {mark : String} (shape : mark.toList = token name) :
    Becomes (token name) value mark.toList value := by
  rw [shape]
  exact Becomes.replaced

/-- A token stays if it is another one and its name does not begin with a brace. -/
theorem token_stays {other : List Char} {c : Char} (brace : ∀ d ∈ c :: other, d ≠ '{')
    (missed : ∀ rest, name.isPrefixOf (c :: (other ++ rest)) = false) :
    Stays (token name) value (token (c :: other)) := by
  intro rest
  have first : (token name).isPrefixOf (token (c :: (other ++ rest))) = false := by
    simpa [token, List.isPrefixOf] using missed rest
  have second : (token name).isPrefixOf ('{' :: c :: (other ++ rest)) = false := by
    have no := brace c (by simp)
    simp [token, List.isPrefixOf, no.symm]
  have behind := (Becomes.others brace : Stays (token name) value (c :: other)) rest
  simp only [token, List.cons_append] at first second behind ⊢
  rw [Text.replaceFrom, first, if_neg Bool.false_ne_true, Text.replaceFrom, second,
    if_neg Bool.false_ne_true, behind]

theorem labelToken_stays : Stays (token "APP_NAMESPACE\x7d\x7d".toList) value labelToken.toList := by
  rw [labelToken_toList]
  exact token_stays (by decide) fun rest => rfl

theorem kindToken_stays
    (missed : ∀ rest, name.isPrefixOf ("APP_KIND\x7d\x7d".toList ++ rest) = false) :
    Stays (token name) value kindToken.toList := by
  rw [kindToken_toList]
  exact token_stays (by decide) missed

/-- Whatever replaces a token leaves what stands around words. -/
theorem partByPart_becomes : Yaml.PartByPart (Becomes (token name) value) where
  nil := Becomes.nil
  append _ _ _ _ h h' := h.append h'
  mark c hc := Becomes.other fun same => by
    subst same
    exact absurd hc (by decide)

def filled (v : TemplateValues) (ls : List (Line Word)) : List Char :=
  ls.flatMap (Line.chars (Word.fill v))

variable {ls : List (Line Word)} (clean : ∀ l ∈ ls, ∀ p ∈ l.words, p.2.isTokenFree = true)
include clean

theorem replace_filled {mark result text : String} (shape : mark.toList = token name)
    {v w : TemplateValues} (lines : text.toList = filled v ls)
    (namespaceName : Becomes (token name) result.toList v.namespaceName.toList w.namespaceName.toList)
    (appLabel : Becomes (token name) result.toList v.appLabel.toList w.appLabel.toList)
    (appKind : Becomes (token name) result.toList v.appKind.toList w.appKind.toList) :
    (Text.replace mark result text).toList = filled w ls := by
  have whole : Becomes mark.toList result.toList text.toList (filled w ls) := by
    rw [shape, lines]
    refine partByPart_becomes.lines ls fun l hl p hp => ?_
    have free := clean l hl p hp
    obtain ⟨role, s | _ | _ | _⟩ := p
    · exact stays_of_isTokenFree free
    · exact namespaceName
    · exact appLabel
    · exact appKind
  rw [← String.toList_ofList (l := filled w ls)] at whole
  rw [whole.replace, String.toList_ofList]

/-- Substituting fills the words of the lines. -/
theorem substitute_filled {text : String} (lines : text.toList = filled unfilled ls)
    {v : TemplateValues} (namespaceName : Template.isTokenFree v.namespaceName = true)
    (appLabel : Template.isTokenFree v.appLabel = true) :
    (v.substitute text).toList = filled v ls := by
  have first : (Text.replace namespaceToken v.namespaceName text).toList =
      filled ⟨v.namespaceName, labelToken, kindToken⟩ ls := by
    refine replace_filled clean namespaceToken_toList lines ?_ labelToken_stays
      (kindToken_stays fun rest => rfl)
    exact token_replaced namespaceToken_toList
  have second : (Text.replace labelToken v.appLabel
      (Text.replace namespaceToken v.namespaceName text)).toList =
      filled ⟨v.namespaceName, v.appLabel, kindToken⟩ ls := by
    refine replace_filled clean labelToken_toList first (stays_of_isTokenFree namespaceName) ?_
      (kindToken_stays fun rest => rfl)
    exact token_replaced labelToken_toList
  refine replace_filled clean kindToken_toList second (stays_of_isTokenFree namespaceName)
    (stays_of_isTokenFree appLabel) ?_
  exact token_replaced kindToken_toList

end Template
end Resilience
