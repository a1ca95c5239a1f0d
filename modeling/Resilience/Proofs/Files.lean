import Mathlib.Data.List.Lex
import Resilience.Files
import Resilience.Proofs.Dict
/-! # What a directory lists

In well-formed files the names that a directory lists are those under which a file lies in it, each
of them once and in order. Writing over a file changes no listing.
-/
namespace Resilience

namespace Text

variable {sep : Char} {cs ds : List Char}

theorem splitChars_ne_nil (sep : Char) (cs : List Char) : splitChars sep cs ≠ [] := by
  cases cs with
  | nil => simp [splitChars]
  | cons c cs =>
    rw [splitChars]
    split
    · simp
    · split <;> simp

theorem splitChars_append (cs ds : List Char) :
    splitChars sep (cs ++ sep :: ds) = splitChars sep cs ++ splitChars sep ds := by
  induction cs with
  | nil => simp [splitChars]
  | cons c cs ih =>
    rw [List.cons_append, splitChars, splitChars, ih]
    split
    · rfl
    · cases parts : splitChars sep cs with
      | nil => exact absurd parts (splitChars_ne_nil sep cs)
      | cons part parts => rfl

theorem splitChars_of_notMem (h : sep ∉ cs) : splitChars sep cs = [cs] := by
  induction cs with
  | nil => rfl
  | cons c cs ih =>
    rw [List.mem_cons, not_or] at h
    rw [splitChars, if_neg (Ne.symm h.1), ih h.2]

theorem notMem_of_mem_splitChars : ∀ {cs part : List Char}, part ∈ splitChars sep cs → sep ∉ part
  | [], part, h => by
    rw [List.mem_singleton.mp h]
    simp
  | c :: cs, part, h => by
    rw [splitChars] at h
    split at h
    · rcases List.mem_cons.mp h with rfl | h
      · simp
      · exact notMem_of_mem_splitChars h
    · next other =>
      split at h
      · next none => exact absurd none (splitChars_ne_nil sep cs)
      · next first rest parts =>
        rcases List.mem_cons.mp h with rfl | h
        · have inner : sep ∉ first := notMem_of_mem_splitChars (by rw [parts]; simp)
          simp [Ne.symm other, inner]
        · have later : part ∈ splitChars sep cs := by simp [parts, h]
          exact notMem_of_mem_splitChars later

theorem split_append (sep : Char) (s t : String) :
    split sep (s ++ String.singleton sep ++ t) = split sep s ++ split sep t := by
  simp [split, splitChars_append]

theorem split_of_notMem {s : String} (h : sep ∉ s.toList) : split sep s = [s] := by
  simp [split, splitChars_of_notMem h]

end Text

namespace Files

variable {fs after : Files} {place : List String} {path dir name : String}

/-! ## Places -/

theorem follow_append (place : List String) (parts more : List String) :
    follow place (parts ++ more) = follow (follow place parts) more := by
  induction parts generalizing place with
  | nil => rfl
  | cons part parts ih =>
    rw [List.cons_append, follow, follow]
    split
    · exact ih place
    · split
      · exact ih (above place)
      · exact ih (place ++ [part])

structure IsName (name : String) : Prop where
  plain : '/' ∉ name.toList
  filled : name ≠ ""
  other : name ≠ "." ∧ name ≠ ".."

theorem IsName.follow (h : IsName name) (place : List String) :
    follow place [name] = place ++ [name] := by
  simp [Files.follow, h.filled, h.other.1, h.other.2]

theorem IsName.not_startsWith (h : IsName name) : name.startsWith "/" = false := by
  rw [String.startsWith_string_eq_false_iff]
  intro slash
  exact h.plain (slash.subset (by simp))

theorem endsWith_iff {s mark : String} : s.endsWith mark ↔ mark.toList <:+ s.toList := by
  rw [String.endsWith_eq_endsWith_toSlice, String.Slice.endsWith_string_iff, String.copy_toSlice]

theorem IsName.not_endsWith (h : IsName name) (dir : String) :
    ¬(dir ++ name).endsWith "/" := by
  rw [endsWith_iff, String.toList_append]
  rintro ⟨front, same⟩
  have slash : "/".toList = ['/'] := rfl
  have last : name.toList.getLast? = some '/' := by
    have nonempty : name.toList ≠ [] := by simpa using h.filled
    have ends := congrArg List.getLast? same
    rwa [slash, List.getLast?_concat, List.getLast?_append_of_ne_nil _ nonempty, eq_comm] at ends
  exact h.plain (List.mem_of_getLast? last)

theorem IsName.join_not_endsWith (h : IsName name) (dir : String) :
    ¬(Path.join dir name).endsWith "/" := by
  unfold Path.join
  split
  · simpa using h.not_endsWith ""
  · split
    · exact h.not_endsWith dir
    · exact h.not_endsWith (dir ++ "/")

theorem startsWith_append (some_dir : dir ≠ "") (rest : String) :
    (dir ++ rest).startsWith "/" = dir.startsWith "/" := by
  rw [Bool.eq_iff_iff, String.startsWith_string_iff, String.startsWith_string_iff,
    String.toList_append]
  obtain ⟨c, cs, chars⟩ := List.exists_cons_of_ne_nil (l := dir.toList) (by simpa using some_dir)
  simp [chars]

theorem split_slash (dir name : String) (h : '/' ∉ name.toList) :
    Text.split '/' (dir ++ "/" ++ name) = Text.split '/' dir ++ [name] := by
  rw [← Text.split_of_notMem h]
  exact Text.split_append '/' dir name

/-- Where a name in a directory leads to. -/
theorem place?_join (h : IsName name) (hd : place? dir = some place) :
    place? (Path.join dir name) = some (place ++ [name]) := by
  unfold place? at hd
  split at hd
  · cases hd
  · next some_dir =>
    cases hd
    rw [Path.join, if_neg (by simp [h.not_startsWith, some_dir])]
    split
    · next slash =>
      obtain ⟨front, same⟩ := endsWith_iff.mp slash
      -- a slash at the end leaves an empty part, which is passed over
      obtain rfl : dir = String.ofList front ++ "/" := by
        rw [← String.toList_inj, ← same]
        simp
      have closed := split_slash (String.ofList front) "" (by simp)
      rw [String.append_empty] at closed
      rw [place?, if_neg (by simp), startsWith_append some_dir, split_slash _ _ h.plain, closed,
        follow_append, follow_append, h.follow]
      rfl
    · rw [place?, if_neg (by simp), String.append_assoc, startsWith_append some_dir,
        ← String.append_assoc, split_slash _ _ h.plain, follow_append, h.follow]

theorem write_eq {s : String} (h : fs.write path s = .ok after) :
    ∃ place, place? path = some place ∧ after = ⟨Dict.insert fs.entries place (.text s)⟩ := by
  unfold write at h
  split at h
  · cases h
  · next place found =>
    refine ⟨place, found, ?_⟩
    split at h
    · cases h
    · split at h <;> cases h
      rfl
    · split at h
      · split at h <;> cases h
        rfl
      · cases h
      · cases h

/-! ## Well-formed files -/

/-- A part of a path: the root, or a name without a slash. -/
def IsPart (part : String) : Prop := part = rootPart ∨ '/' ∉ part.toList

structure WellFormed (fs : Files) : Prop where
  ascending : Dict.Ascending fs.entries
  parted : ∀ e ∈ fs.entries, ∀ part ∈ e.1, IsPart part

theorem above_parted (h : ∀ part ∈ place, IsPart part) : ∀ part ∈ above place, IsPart part := by
  have dots : IsPart ".." := .inr (by decide)
  unfold above
  split
  · simpa using dots
  · split
    · exact h
    · split
      · intro part hp
        rcases List.mem_append.mp hp with hp | hp
        · exact h part hp
        · rw [List.mem_singleton.mp hp]
          exact dots
      · exact fun part hp => h part (List.dropLast_subset place hp)

theorem follow_parted {parts : List String} (hs : ∀ part ∈ parts, '/' ∉ part.toList)
    (h : ∀ part ∈ place, IsPart part) : ∀ part ∈ follow place parts, IsPart part := by
  induction parts generalizing place with
  | nil => exact h
  | cons part parts ih =>
    have rest := fun p hp => hs p (List.mem_cons_of_mem part hp)
    rw [follow]
    split
    · exact ih rest h
    · split
      · exact ih rest (above_parted h)
      · refine ih rest fun p hp => ?_
        rcases List.mem_append.mp hp with hp | hp
        · exact h p hp
        · rw [List.mem_singleton.mp hp]
          exact .inr (hs part List.mem_cons_self)

theorem place?_parted (h : place? path = some place) : ∀ part ∈ place, IsPart part := by
  unfold place? at h
  split at h
  · cases h
  · cases h
    refine follow_parted (fun part hp => ?_) ?_
    · obtain ⟨cs, hcs, rfl⟩ := List.mem_map.mp hp
      simpa using Text.notMem_of_mem_splitChars hcs
    · split
      · simp [IsPart]
      · simp

namespace WellFormed

theorem empty : WellFormed Files.empty := ⟨.nil, by simp [Files.empty]⟩

theorem find?_eq_some {content : FileContent} (h : WellFormed fs)
    (hm : (place, content) ∈ fs.entries) : Dict.find? fs.entries place = some content := by
  convert h.ascending.find?_eq_some hm

theorem insert (h : WellFormed fs) (hp : ∀ part ∈ place, IsPart part) (content : FileContent) :
    WellFormed ⟨Dict.insert fs.entries place content⟩ where
  ascending := by
    -- places are compared by the order of lists, which is the linear one once unfolded
    convert h.ascending.insert place content
    rfl
  parted e he := by
    rcases Dict.mem_insert he with rfl | he
    · exact hp
    · exact h.parted e he

theorem put (h : WellFormed fs) (path : String) (content : FileContent) :
    WellFormed (fs.put path content) := by
  unfold Files.put
  split
  · exact h
  · next found => exact h.insert (place?_parted found) content

theorem write {s : String} (h : WellFormed fs) (hw : fs.write path s = .ok after) :
    WellFormed after := by
  obtain ⟨place, found, rfl⟩ := write_eq hw
  exact h.insert (place?_parted found) (.text s)

theorem remove (h : WellFormed fs) (path : String) : WellFormed (fs.remove path) := by
  unfold Files.remove
  split
  · exact h
  · next place found =>
    have rest : WellFormed ⟨Dict.erase fs.entries place⟩ :=
      ⟨h.ascending.filter _, fun e he => h.parted e (List.mem_of_mem_filter he)⟩
    dsimp only
    split
    · exact rest
    · next parent _ _ =>
      refine rest.insert (fun part hp => ?_) .directory
      exact place?_parted found part (List.dropLast_subset place hp)

end WellFormed

/-! ## Listings -/

theorem isFile_iff : fs.isFile path ↔ ¬path.endsWith "/" ∧ ∃ place content,
    place? path = some place ∧ Dict.find? fs.entries place = some content ∧
      content ≠ .directory := by
  unfold isFile get? at?
  cases place? path with
  | none => simp
  | some place =>
    cases here : Dict.find? fs.entries place with
    | none => by_cases below : place = [] ∨ fs.holdsSomething place <;> simp [below, here]
    | some content => cases content <;> by_cases slash : path.endsWith "/" <;> simp [slash, here]

def nameBelow? (place : List String) (e : List String × FileContent) : Option String :=
  match e.2 with
  | .directory => none
  | _ => if e.1.dropLast = place then e.1.getLast? else none

theorem nameBelow?_eq_some {e : List String × FileContent} :
    nameBelow? place e = some name ↔ e.1 = place ++ [name] ∧ e.2 ≠ .directory := by
  have below : (if e.1.dropLast = place then e.1.getLast? else none) = some name ↔
      e.1 = place ++ [name] := by
    constructor
    · intro h
      split at h
      · next front =>
        rw [← front]
        exact (List.dropLast_append_getLast? name h).symm
      · cases h
    · intro h
      simp [h]
  obtain ⟨k, content⟩ := e
  cases content <;> simp [nameBelow?, below]

theorem nameBelow?_file {k : List String} {c c' : FileContent} (hc : c ≠ .directory)
    (hc' : c' ≠ .directory) : nameBelow? place (k, c) = nameBelow? place (k, c') := by
  cases c <;> cases c' <;> first | rfl | contradiction

theorem read_of_readText {s : String} (h : fs.readText path = .ok s) :
    fs.read path = .ok (.text s) := by
  unfold readText at h
  split at h
  · next read =>
    cases h
    exact read
  · cases h
  · cases h

theorem isFile_of_read {content : FileContent} (h : fs.read path = .ok content) :
    fs.isFile path := by
  unfold Files.read at h
  unfold isFile
  split at h
  · cases h
  · next file =>
    rw [h]
    cases content <;> simp_all

theorem filesIn_eq_ok {names : List String} : fs.filesIn dir = .ok names ↔
    fs.get? dir = .ok .directory ∧
      names = fs.entries.filterMap (nameBelow? ((place? dir).getD [])) := by
  unfold filesIn
  split
  · next found => simp [found]
  · next found =>
    simp only [found, true_and, Except.ok.injEq]
    exact eq_comm
  · next found => simp_all

theorem place?_of_filesIn {names : List String} (h : fs.filesIn dir = .ok names) :
    ∃ place, place? dir = some place ∧ names = fs.entries.filterMap (nameBelow? place) := by
  obtain ⟨directory, rfl⟩ := filesIn_eq_ok.mp h
  unfold get? at directory
  split at directory
  · cases directory
  · next place leads => exact ⟨place, leads, by rw [leads]; rfl⟩

theorem mem_filesIn {names : List String} (wf : WellFormed fs) (h : fs.filesIn dir = .ok names)
    (hn : IsName name) : name ∈ names ↔ fs.isFile (Path.join dir name) := by
  obtain ⟨place, found, rfl⟩ := place?_of_filesIn h
  rw [isFile_iff, List.mem_filterMap, place?_join hn found]
  simp only [nameBelow?_eq_some]
  constructor
  · rintro ⟨⟨k, content⟩, listed, rfl, file⟩
    exact ⟨hn.join_not_endsWith dir, _, content, rfl, wf.find?_eq_some listed, file⟩
  · rintro ⟨-, _, content, leads, here, file⟩
    cases leads
    exact ⟨(place ++ [name], content), Dict.mem_of_find? here, rfl, file⟩

theorem isPart_of_mem_filesIn {names : List String} (wf : WellFormed fs)
    (h : fs.filesIn dir = .ok names) (hn : name ∈ names) : IsPart name := by
  obtain ⟨place, found, rfl⟩ := place?_of_filesIn h
  obtain ⟨e, listed, below⟩ := List.mem_filterMap.mp hn
  refine wf.parted e listed name ?_
  rw [(nameBelow?_eq_some.mp below).1]
  simp

theorem filesIn_ascending {names : List String} (wf : WellFormed fs)
    (h : fs.filesIn dir = .ok names) : names.Pairwise (· < ·) := by
  obtain ⟨place, found, rfl⟩ := place?_of_filesIn h
  refine List.pairwise_filterMap.mpr (wf.ascending.imp fun {e f} less a ha b hb => ?_)
  obtain ⟨at_a, -⟩ := nameBelow?_eq_some.mp ha
  obtain ⟨at_b, -⟩ := nameBelow?_eq_some.mp hb
  rw [at_a, at_b] at less
  rcases lt_trichotomy a b with ab | rfl | ba
  · exact ab
  · exact absurd less (lt_irrefl _)
  · have more : place ++ [b] < place ++ [a] := List.append_left_lt (List.Lex.rel ba)
    exact absurd more less.asymm

/-! ## Writing over a file -/

theorem write_over (file : fs.isFile path) (s : String) : ∃ after, fs.write path s = .ok after := by
  obtain ⟨open_end, place, content, found, here, no_directory⟩ := isFile_iff.mp file
  unfold write at?
  rw [found]
  dsimp only
  rw [here]
  cases content <;> simp_all

/-- Writing over a file changes what stands at its place, and nothing else. -/
theorem entries_write {s : String} (wf : WellFormed fs) (file : fs.isFile path)
    (hw : fs.write path s = .ok after) (hp : place? path = some place) :
    after.entries = fs.entries.map fun e => if e.1 = place then (place, .text s) else e := by
  obtain ⟨_, found, rfl⟩ := write_eq hw
  obtain ⟨-, _, content, again, here, -⟩ := isFile_iff.mp file
  cases hp.symm.trans found
  cases hp.symm.trans again
  convert wf.ascending.insert_eq_map (Dict.mem_of_find? here) (.text s)
  rfl

theorem holdsSomething_write {s : String} (wf : WellFormed fs) (file : fs.isFile path)
    (hw : fs.write path s = .ok after) (place : List String) :
    after.holdsSomething place = fs.holdsSomething place := by
  obtain ⟨-, at_path, content, found, -⟩ := isFile_iff.mp file
  rw [holdsSomething, entries_write wf file hw found, List.any_map]
  refine congrArg (List.any fs.entries) (funext fun e => ?_)
  rw [Function.comp_apply]
  split
  · next same => rw [same]
  · rfl

theorem liesUnderFile_write {s : String} (file : fs.isFile path)
    (hw : fs.write path s = .ok after) (place : List String) :
    after.liesUnderFile place = fs.liesUnderFile place := by
  obtain ⟨-, at_path, content, found, here, no_directory⟩ := isFile_iff.mp file
  obtain ⟨_, again, rfl⟩ := write_eq hw
  cases found.symm.trans again
  refine congrArg (List.any _) (funext fun n => ?_)
  by_cases same : place.take n = at_path
  · rw [same, Dict.find?_insert_self, here]
    cases content <;> simp_all
  · rw [Dict.find?_insert_of_ne _ _ same]

/-- Under a path that leads elsewhere nothing changes when a file is written over. -/
theorem get?_write {s other : String} (wf : WellFormed fs) (file : fs.isFile path)
    (hw : fs.write path s = .ok after) (elsewhere : place? other ≠ place? path) :
    after.get? other = fs.get? other := by
  have same_at : ∀ place, place? other = some place → after.at? place = fs.at? place := by
    intro place leads
    obtain ⟨at_path, found, rfl⟩ := write_eq hw
    have apart : place ≠ at_path := by
      rintro rfl
      exact elsewhere (leads.trans found.symm)
    rw [at?, Dict.find?_insert_of_ne _ _ apart, holdsSomething_write wf file hw, at?]
  unfold get? absence
  cases leads : place? other with
  | none => rfl
  | some place =>
    dsimp only
    rw [same_at place leads, liesUnderFile_write file hw]

/-- No listing changes when a file is written over. -/
theorem filesIn_write {s : String} {names : List String} (wf : WellFormed fs)
    (file : fs.isFile path) (hw : fs.write path s = .ok after)
    (h : fs.filesIn dir = .ok names) : after.filesIn dir = .ok names := by
  obtain ⟨directory, rfl⟩ := filesIn_eq_ok.mp h
  obtain ⟨-, at_path, content, found, here, no_directory⟩ := isFile_iff.mp file
  have elsewhere : place? dir ≠ place? path := by
    intro same
    rw [get?, same, found] at directory
    simp only [at?, here] at directory
    split at directory <;> simp_all
  rw [filesIn_eq_ok, get?_write wf file hw elsewhere, entries_write wf file hw found,
    List.filterMap_map]
  refine ⟨directory, List.filterMap_congr fun e he => ?_⟩
  rw [Function.comp_apply]
  split
  · next same =>
    subst same
    cases here.symm.trans (wf.find?_eq_some he)
    exact nameBelow?_file no_directory (by simp)
  · rfl

end Files
end Resilience
