import Mathlib.Data.Finset.Basic
import Mathlib.Data.Finset.SDiff
import Mathlib.Data.List.Forall2
import Resilience.Proofs.Dict
import Resilience.Proofs.Snapshot.Pairing
import Resilience.Snapshot.Claim
/-! # What a difference of snapshots reports

A difference reports an entry of the baseline by its place: what stands at the place of the same
name in the candidate decides whether it is gone or changed. The nodes of two snapshots fall into
those of one side, those of the other and those of both.
-/
namespace Resilience

section Order

variable {α β : Type} {reported : Nat → β → Prop} {reports : List β}

/-- The reports of all places that have one, each once, in the order of the places. -/
def InOrder (reported : Nat → β → Prop) (reports : List β) : Prop :=
  ∃ places : List Nat, places.Pairwise (· < ·) ∧ List.Forall₂ reported places reports ∧
    ∀ i r, reported i r → i ∈ places

theorem InOrder.congr {reported' : Nat → β → Prop} (h : InOrder reported reports)
    (same : ∀ i r, reported i r ↔ reported' i r) : InOrder reported' reports := by
  obtain ⟨places, ascending, each, all⟩ := h
  refine ⟨places, ascending, each.imp fun i r => (same i r).mp, ?_⟩
  intro i r here
  exact all i r ((same i r).mpr here)

theorem filterMap_inOrder (f : α → Option β) (items : List α) :
    InOrder (fun i r => items[i]?.bind f = some r) (items.filterMap f) := by
  induction items with
  | nil => exact ⟨[], .nil, .nil, by simp⟩
  | cons a items ih =>
    obtain ⟨places, ascending, each, all⟩ := ih
    -- the places of the tail, each one further on
    have later : (places.map (· + 1)).Pairwise (· < ·) :=
      List.pairwise_map.mpr (ascending.imp Nat.succ_lt_succ)
    have tail : List.Forall₂ (fun i r => (a :: items)[i]?.bind f = some r) (places.map (· + 1))
        (items.filterMap f) := by
      rw [List.forall₂_map_left_iff]
      exact each.imp fun i r here => here
    have inside : ∀ i r, (a :: items)[i + 1]?.bind f = some r → i + 1 ∈ places.map (· + 1) := by
      intro i r here
      exact List.mem_map_of_mem (all i r here)
    cases first : f a with
    | none =>
      rw [List.filterMap_cons_none first]
      refine ⟨_, later, tail, ?_⟩
      intro i r here
      cases i with
      | zero => exact absurd (first.symm.trans here) (by simp)
      | succ i => exact inside i r here
    | some b =>
      rw [List.filterMap_cons_some first]
      refine ⟨0 :: places.map (· + 1), ?_, .cons first tail, ?_⟩
      · refine List.pairwise_cons.mpr ⟨?_, later⟩
        intro i hi
        obtain ⟨j, -, rfl⟩ := List.mem_map.mp hi
        exact Nat.succ_pos j
      · intro i r here
        cases i with
        | zero => exact List.mem_cons_self
        | succ i => exact List.mem_cons_of_mem _ (inside i r here)

end Order

namespace PluginDifference

section Entries

variable (es other : List PluginEntry)

/-- The candidate has no more entries of the name than stand before the place. -/
def LostAt (i : Nat) (name : String) : Prop :=
  ∃ e, es[i]? = some e ∧
    (namesakes PluginEntry.name e.name other).length ≤
      (namesakes PluginEntry.name e.name (es.take i)).length ∧
    name = e.name

/-- The candidate's entry behind as many namesakes has a list, and it is of another length. -/
def ChangedAt (i : Nat) (change : ChangedPlugin) : Prop :=
  ∃ e c list, es[i]? = some e ∧
    (namesakes PluginEntry.name e.name other)[
      (namesakes PluginEntry.name e.name (es.take i)).length]? = some c ∧
    c.plugins = some list ∧ list.length ≠ e.count ∧ change = ⟨e.name, e.count, list.length⟩

variable {es other}

theorem change?_eq_some_iff {e c : PluginEntry} {change : ChangedPlugin} :
    e.change? c = some change ↔ ∃ list, c.plugins = some list ∧ list.length ≠ e.count ∧
      change = ⟨e.name, e.count, list.length⟩ := by
  unfold PluginEntry.change?
  cases c.plugins with
  | none => simp
  | some list =>
    dsimp only
    constructor
    · intro made
      split at made
      · next longer =>
        cases made
        exact ⟨list, rfl, longer, rfl⟩
      · cases made
    · rintro ⟨list, ⟨⟩, longer, rfl⟩
      exact if_pos longer

theorem missing_inOrder : InOrder (LostAt es other) (of es other).missing := by
  refine (filterMap_inOrder _ _).congr fun i name => ?_
  rw [pairByName_getElem?]
  unfold LostAt
  cases es[i]? with
  | none => simp
  | some e => simp [eq_comm (a := name)]

theorem changed_inOrder : InOrder (ChangedAt es other) (of es other).changed := by
  refine (filterMap_inOrder _ _).congr fun i change => ?_
  rw [pairByName_getElem?]
  unfold ChangedAt
  cases es[i]? with
  | none => simp
  | some e => simp [Option.bind_eq_some_iff, change?_eq_some_iff]

theorem isEmpty_iff {d : PluginDifference} : d.isEmpty = true ↔ d.changed = [] ∧ d.missing = [] := by
  simp [isEmpty]

/-- Every entry is matched with itself. -/
theorem of_self (es : List PluginEntry) : (of es es).isEmpty = true := by
  have itself : ∀ p ∈ pairByName PluginEntry.name es es, p.2 = some p.1 := by
    have agree : ∀ p ∈ pairByName PluginEntry.name es es, p.2.map id = some (id p.1) :=
      (pairByName_agree_iff id).mpr fun n => List.prefix_refl _
    intro p hp
    rw [← Option.map_id_apply (x := p.2)]
    exact agree p hp
  rw [isEmpty_iff]
  constructor
  · refine List.filterMap_eq_nil_iff.mpr fun p hp => ?_
    rw [itself p hp, Option.bind_some, Option.eq_none_iff_forall_ne_some]
    intro change found
    obtain ⟨list, here, longer, -⟩ := change?_eq_some_iff.mp found
    exact longer (by rw [PluginEntry.count, here, Option.getD_some])
  · refine List.filterMap_eq_nil_iff.mpr fun p hp => ?_
    rw [itself p hp]
    rfl

end Entries

end PluginDifference

section Nodes

variable {a b : List String} {node : String}

theorem mem_missingNames : node ∈ missingNames b a ↔ node ∈ a ∧ node ∉ b := by
  simp [missingNames]

theorem missingNames_ascending (h : a.Pairwise (· < ·)) : (missingNames b a).Pairwise (· < ·) :=
  h.filter _

structure NodeDifference.Partitions (d : NodeDifference) (a b : List String) : Prop where
  baseline_ascending : d.onlyBaseline.Pairwise (· < ·)
  candidate_ascending : d.onlyCandidate.Pairwise (· < ·)
  baseline : d.onlyBaseline.toFinset = a.toFinset \ b.toFinset
  candidate : d.onlyCandidate.toFinset = b.toFinset \ a.toFinset
  disjoint : Disjoint d.onlyBaseline.toFinset d.onlyCandidate.toFinset
  baseline_common : Disjoint d.onlyBaseline.toFinset (a.toFinset ∩ b.toFinset)
  candidate_common : Disjoint d.onlyCandidate.toFinset (a.toFinset ∩ b.toFinset)
  union : d.onlyBaseline.toFinset ∪ d.onlyCandidate.toFinset ∪ (a.toFinset ∩ b.toFinset) =
    a.toFinset ∪ b.toFinset

theorem NodeDifference.of_partitions (ha : a.Pairwise (· < ·)) (hb : b.Pairwise (· < ·)) :
    (NodeDifference.of a b).Partitions a b := by
  have baseline : (NodeDifference.of a b).onlyBaseline.toFinset = a.toFinset \ b.toFinset := by
    ext node
    simp [of, mem_missingNames]
  have candidate : (NodeDifference.of a b).onlyCandidate.toFinset = b.toFinset \ a.toFinset := by
    ext node
    simp [of, mem_missingNames]
  refine ⟨missingNames_ascending ha, missingNames_ascending hb, baseline, candidate, ?_, ?_, ?_, ?_⟩
  · rw [baseline, candidate]
    exact disjoint_sdiff_sdiff
  · rw [baseline]
    exact Finset.disjoint_sdiff_inter _ _
  · rw [candidate, Finset.inter_comm]
    exact Finset.disjoint_sdiff_inter _ _
  · rw [baseline, candidate]
    ext node
    simp only [Finset.mem_union, Finset.mem_sdiff, Finset.mem_inter]
    tauto

end Nodes

namespace Snapshot

structure Ordered (s : Snapshot) : Prop where
  plugins : Dict.Ascending s.plugins
  hardware : Dict.Ascending s.hardware

section Reading

open Json.Tree

theorem dict?_ascending {α : Type} {read : Json.Reading α} {d : Nat} {t : Json.Tree}
    {entries : Dict String α} (found : dict? read d t = some entries) : Dict.Ascending entries := by
  unfold dict? at found
  split at found
  · obtain ⟨ms, -, found⟩ := Option.bind_eq_some_iff.mp found
    obtain ⟨pairs, -, found⟩ := Option.bind_eq_some_iff.mp found
    cases found
    exact Dict.ofList_ascending _
  · cases found

theorem defaulted_ascending {α : Type} {read : Json.Reading α} {d : Nat} {f : Option Json.Tree}
    {entries : Dict String α} (found : defaulted [] (dict? read) d f = some entries) :
    Dict.Ascending entries := by
  cases f with
  | none =>
    cases found
    exact .nil
  | some t => exact dict?_ascending found

theorem nodes?_ascending {d : Nat} {t : Json.Tree} {plugins : Dict String (List PluginEntry)}
    {hardware : Dict String Json} (found : nodes? d t = some (plugins, hardware)) :
    Dict.Ascending plugins ∧ Dict.Ascending hardware := by
  obtain ⟨⟨e, fs⟩, -, found⟩ := Option.bind_eq_some_iff.mp found
  split at found
  · obtain ⟨plugins', first, found⟩ := Option.bind_eq_some_iff.mp found
    obtain ⟨hardware', second, found⟩ := Option.bind_eq_some_iff.mp found
    cases found
    exact ⟨defaulted_ascending first, defaulted_ascending second⟩
  · cases found

theorem claim?_ordered {d : Nat} {t : Json.Tree} {s : Snapshot} (found : claim? d t = some s) :
    s.Ordered := by
  obtain ⟨⟨e, fs⟩, -, found⟩ := Option.bind_eq_some_iff.mp found
  split at found
  · next nodes results _ =>
    obtain ⟨⟨plugins, hardware⟩, first, found⟩ := Option.bind_eq_some_iff.mp found
    obtain ⟨cases', -, found⟩ := Option.bind_eq_some_iff.mp found
    cases found
    cases nodes with
    | none =>
      cases first
      exact ⟨.nil, .nil⟩
    | some t =>
      obtain ⟨first, second⟩ := nodes?_ascending first
      exact ⟨first, second⟩
  · cases found

/-- A snapshot that was read from a claim is ordered, whatever the order in the claim. -/
theorem load_ordered {files : Files} {path : String} {s : Snapshot}
    (loaded : load files path = .ok s) : s.Ordered := by
  unfold load at loaded
  split at loaded
  · cases loaded
  · split at loaded
    · next s' found =>
      cases loaded
      obtain ⟨t, -, found⟩ := Option.bind_eq_some_iff.mp found
      obtain ⟨⟨e, fs⟩, -, found⟩ := Option.bind_eq_some_iff.mp found
      split at found
      · exact claim?_ordered found
      · cases found
    · cases loaded

end Reading

variable {A B : Snapshot}

theorem Ordered.nodeNames (h : A.Ordered) : A.nodeNames.Pairwise (· < ·) :=
  List.pairwise_map.mpr h.hardware

theorem mem_difference_plugins (hB : B.Ordered) {node : String} {d : PluginDifference} :
    (node, d) ∈ (A.difference B).plugins ↔ ∃ es other, (node, es) ∈ A.plugins ∧
      (node, other) ∈ B.plugins ∧ d = .of es other ∧ (d.changed ≠ [] ∨ d.missing ≠ []) := by
  have reported : ∀ d : PluginDifference, d.isEmpty = false ↔ d.changed ≠ [] ∨ d.missing ≠ [] := by
    intro d
    rw [← Bool.not_eq_true, PluginDifference.isEmpty_iff, not_and_or]
  constructor
  · intro mem
    obtain ⟨⟨node', es⟩, here, made⟩ := List.mem_filterMap.mp mem
    dsimp only at made
    cases found : Dict.find? B.plugins node' with
    | none => simp [found] at made
    | some other =>
      cases empty : (PluginDifference.of es other).isEmpty with
      | true => simp [found, empty] at made
      | false =>
        simp only [found, empty, Bool.false_eq_true, if_false, Option.some.injEq] at made
        cases made
        exact ⟨es, other, here, Dict.mem_of_find? found, rfl, (reported _).mp empty⟩
  · rintro ⟨es, other, here, there, rfl, differs⟩
    refine List.mem_filterMap.mpr ⟨(node, es), here, ?_⟩
    simp [hB.plugins.find?_eq_some there, (reported _).mpr differs]

theorem difference_ascending (hA : A.Ordered) : Dict.Ascending (A.difference B).plugins := by
  refine hA.plugins.filterMap ?_
  rintro ⟨node, es⟩ q made
  dsimp only at made
  split at made
  · cases made
  · split at made
    · cases made
    · cases made
      rfl

theorem difference_self (hA : A.Ordered) : (A.difference A).isEmpty = true := by
  have plugins : (A.difference A).plugins = [] := by
    refine List.eq_nil_iff_forall_not_mem.mpr ?_
    rintro ⟨node, d⟩ mem
    obtain ⟨es, other, here, there, rfl, differs⟩ := (mem_difference_plugins hA).mp mem
    cases (hA.plugins.find?_eq_some here).symm.trans (hA.plugins.find?_eq_some there)
    obtain ⟨changed, missing⟩ := PluginDifference.isEmpty_iff.mp (PluginDifference.of_self es)
    exact differs.elim (absurd changed) (absurd missing)
  have present : missingNames A.nodeNames A.nodeNames = [] := by
    refine List.eq_nil_iff_forall_not_mem.mpr fun node mem => ?_
    obtain ⟨here, absent⟩ := mem_missingNames.mp mem
    exact absent here
  have nodes : (A.difference A).nodes = ⟨[], []⟩ := by
    rw [difference, NodeDifference.of, present]
  have tests : (A.difference A).tests = ⟨[], []⟩ :=
    TestDifference.eq_empty_iff.mpr fun n => List.prefix_refl _
  rw [SnapshotDifference.isEmpty, plugins, nodes, tests]
  rfl

/-- Of two snapshots, an entry is reported by what the candidate has at the place of the same name,
a node if it has an entry to report, and the nodes of either side by themselves. -/
theorem difference_pairs_by_occurrence (hA : A.Ordered) (hB : B.Ordered) :
    (∀ es other, InOrder (PluginDifference.LostAt es other) (PluginDifference.of es other).missing ∧
      InOrder (PluginDifference.ChangedAt es other) (PluginDifference.of es other).changed) ∧
    Dict.Ascending (A.difference B).plugins ∧
    (∀ node d, (node, d) ∈ (A.difference B).plugins ↔ ∃ es other, (node, es) ∈ A.plugins ∧
      (node, other) ∈ B.plugins ∧ d = .of es other ∧ (d.changed ≠ [] ∨ d.missing ≠ [])) ∧
    (A.difference B).nodes.Partitions A.nodeNames B.nodeNames ∧
    (B.difference A).nodes =
      ⟨(A.difference B).nodes.onlyCandidate, (A.difference B).nodes.onlyBaseline⟩ ∧
    (A.difference A).isEmpty = true := by
  refine ⟨fun es other => ⟨PluginDifference.missing_inOrder, PluginDifference.changed_inOrder⟩,
    difference_ascending hA, fun node d => mem_difference_plugins hB,
    NodeDifference.of_partitions hA.nodeNames hB.nodeNames, rfl, difference_self hA⟩

section Workers

def earlierPlugins : List PluginEntry :=
  [⟨"cni0", some [.null, .null]⟩, ⟨"cni0", none⟩, ⟨"cni1", some []⟩]

def laterPlugins : List PluginEntry := [⟨"cni1", none⟩, ⟨"cni0", some [.null]⟩]

def earlierSnapshot : Snapshot where
  plugins := [("worker-1", earlierPlugins), ("worker-2", [])]
  hardware := [("worker-1", .null), ("worker-3", .null)]

def laterSnapshot : Snapshot where
  plugins := [("worker-1", laterPlugins), ("worker-2", [])]
  hardware := [("worker-1", .null), ("worker-2", .null)]

/-- Of two entries of one name the first lost a plugin and the second is gone; the third, which has
no list any more, is not reported. -/
theorem difference_pairs_by_occurrence_workers :
    earlierSnapshot.Ordered ∧ laterSnapshot.Ordered ∧
      ("worker-1", ⟨[⟨"cni0", 2, 1⟩], ["cni0"]⟩) ∈
        (earlierSnapshot.difference laterSnapshot).plugins ∧
      (earlierSnapshot.difference laterSnapshot).nodes.Partitions
        ["worker-1", "worker-3"] ["worker-1", "worker-2"] ∧
      (earlierSnapshot.difference earlierSnapshot).isEmpty = true := by
  have earlier : earlierSnapshot.Ordered :=
    ⟨List.pairwise_pair.mpr (by decide), List.pairwise_pair.mpr (by decide)⟩
  have later : laterSnapshot.Ordered :=
    ⟨List.pairwise_pair.mpr (by decide), List.pairwise_pair.mpr (by decide)⟩
  obtain ⟨-, -, listed, parts, -, same⟩ := difference_pairs_by_occurrence earlier later
  have worker : ⟨[⟨"cni0", 2, 1⟩], ["cni0"]⟩ = PluginDifference.of earlierPlugins laterPlugins := by
    decide
  exact ⟨earlier, later,
    (listed _ _).mpr ⟨earlierPlugins, laterPlugins, by simp [earlierSnapshot],
      by simp [laterSnapshot], worker, .inl (by simp)⟩, parts, same⟩

end Workers

end Snapshot
end Resilience
