import DesignGauge.Proofs.Store.Loading
import Mathlib.Data.List.Dedup

/-!
# The two indices of the store

The store leads from paths to components and from stems to paths. In every store that can be
reached from the empty one, the second index is determined by the first: it leads from the stem of
each path to that path, and no two paths share a stem.

Results:
1. `Indexed`: the invariant; `Reached.indexed`: it holds in every store that is reached by puts,
   removals, clearing, copies, replacement and loads.
2. `Indexed.entries_put`, `Indexed.entries_remove`: what the two mutators do to the entries, said
   without the index. A put drops the entries with the stem of its path and adds one at the end.
3. `Indexed.find?_eq_some_iff`: a lookup gives the components of the entry with its stem.
4. `reached_consistent`: the two indices agree in every reached store, a lookup never misses an
   entry that the index promises, and entries, stems and answers are counted alike.
-/

namespace DesignGauge.Store

/-- In a list with distinct keys, what a key leads to is what stands with it. -/
theorem lookup_eq_some_iff_mem {α β : Type} [BEq α] [LawfulBEq α] {l : List (α × β)}
    (distinct : (l.map Prod.fst).Nodup) {k : α} {b : β} : l.lookup k = some b ↔ (k, b) ∈ l := by
  induction l with
  | nil => simp
  | cons head rest ih =>
    obtain ⟨k', b'⟩ := head
    rw [List.map_cons, List.nodup_cons] at distinct
    by_cases hk : k = k'
    · subst hk
      have hrest : (k, b) ∉ rest := fun hm => distinct.1 (List.mem_map.mpr ⟨(k, b), hm, rfl⟩)
      simp [hrest, eq_comm]
    · have hb : (k == k') = false := beq_eq_false_iff_ne.mpr hk
      simp [List.lookup_cons, hb, ih distinct.2, hk]

/-- The entries of a store without those of a stem. -/
def others (s : Store) (stem : String) : List (String × FileComponents) :=
  s.entries.filter fun entry => SourceName.stem entry.1 != stem

/-- The index by stem is that of the entries, and no two entries share a stem. -/
structure Indexed (s : Store) : Prop where
  index : s.stems = s.entries.map fun entry => (SourceName.stem entry.1, entry.1)
  stems_nodup : (s.entries.map fun entry => SourceName.stem entry.1).Nodup

namespace Indexed

variable {s t : Store}

theorem keys_nodup (h : Indexed s) : (s.stems.map Prod.fst).Nodup := by
  rw [h.index, List.map_map]
  exact h.stems_nodup

theorem fileNames_nodup (h : Indexed s) : s.fileNames.Nodup := by
  have distinct : (s.fileNames.map SourceName.stem).Nodup := by
    rw [fileNames, List.map_map]
    exact h.stems_nodup
  exact distinct.of_map _

/-- The stem of a path leads to the path, and to nothing else. -/
theorem pathOf?_eq_some_iff (h : Indexed s) {stem path : String} :
    s.pathOf? stem = some path ↔ path ∈ s.fileNames ∧ SourceName.stem path = stem := by
  rw [pathOf?, lookup_eq_some_iff_mem h.keys_nodup, h.index]
  constructor
  · intro member
    obtain ⟨entry, present, equal⟩ := List.mem_map.mp member
    obtain ⟨rfl, rfl⟩ := Prod.mk.inj equal
    exact ⟨List.mem_map_of_mem present, rfl⟩
  · rintro ⟨member, rfl⟩
    obtain ⟨entry, present, rfl⟩ := List.mem_map.mp member
    exact List.mem_map.mpr ⟨entry, present, rfl⟩

theorem pathOf?_eq_none_iff (h : Indexed s) {stem : String} :
    s.pathOf? stem = none ↔ ∀ path ∈ s.fileNames, SourceName.stem path ≠ stem := by
  rw [Option.eq_none_iff_forall_ne_some]
  constructor
  · intro missing path member equal
    exact missing path (h.pathOf?_eq_some_iff.mpr ⟨member, equal⟩)
  · intro missing path found
    obtain ⟨member, equal⟩ := h.pathOf?_eq_some_iff.mp found
    exact missing path member equal

/-- Two entries with the same stem have the same path. -/
theorem path_unique (h : Indexed s) {a b : String} (ha : a ∈ s.fileNames) (hb : b ∈ s.fileNames)
    (same : SourceName.stem a = SourceName.stem b) : a = b := by
  have fa := h.pathOf?_eq_some_iff.mpr ⟨ha, same⟩
  have fb := h.pathOf?_eq_some_iff.mpr ⟨hb, rfl⟩
  exact Option.some.inj (fa.symm.trans fb)

/-- Dropping the path that a stem leads to drops the entries with that stem. -/
theorem dropPath_eq_others (h : Indexed s) {stem path : String}
    (found : s.pathOf? stem = some path) : dropPath path s.entries = s.others stem := by
  obtain ⟨member, rfl⟩ := h.pathOf?_eq_some_iff.mp found
  refine List.filter_congr fun entry present => ?_
  have present' : entry.1 ∈ s.fileNames := List.mem_map_of_mem present
  by_cases hp : entry.1 = path
  · rw [hp, bne_self_eq_false, bne_self_eq_false]
  · have hs : SourceName.stem entry.1 ≠ SourceName.stem path :=
      fun same => hp (h.path_unique present' member same)
    rw [bne_iff_ne.mpr hp, bne_iff_ne.mpr hs]

/-- A stem that leads nowhere has no entries. -/
theorem others_eq_entries (h : Indexed s) {stem : String} (missing : s.pathOf? stem = none) :
    s.others stem = s.entries := by
  refine List.filter_eq_self.mpr fun entry present => ?_
  exact bne_iff_ne.mpr (h.pathOf?_eq_none_iff.mp missing entry.1 (List.mem_map_of_mem present))

/-- A put drops the entries with the stem of its path and adds its own at the end. -/
theorem entries_put (h : Indexed s) (path : String) (components : FileComponents) :
    (s.put path components).entries = s.others (SourceName.stem path) ++ [(path, components)] := by
  unfold put
  cases found : s.pathOf? (SourceName.stem path) with
  | none => simp only [found, h.others_eq_entries found]
  | some previous => simp only [found, h.dropPath_eq_others found]

/-- A removal drops the entries with the stem of its file. -/
theorem entries_remove (h : Indexed s) (file : String) :
    (s.remove file).1.entries = s.others (SourceName.stem file) := by
  unfold remove
  cases found : s.pathOf? (SourceName.stem file) with
  | none => simp only [found, h.others_eq_entries found]
  | some path => simp only [found, h.dropPath_eq_others found]

theorem dropStem_eq (h : Indexed s) (stem : String) :
    dropStem stem s.stems = (s.others stem).map fun entry =>
      (SourceName.stem entry.1, entry.1) := by
  rw [dropStem, h.index, others, List.filter_map, Function.comp_def]

theorem others_stems_nodup (h : Indexed s) (stem : String) :
    ((s.others stem).map fun entry => SourceName.stem entry.1).Nodup :=
  (List.filter_sublist.map _).nodup h.stems_nodup

end Indexed

/-! ## Each mutator keeps the invariant -/

theorem indexed_empty : Indexed empty := ⟨rfl, List.nodup_nil⟩

theorem Indexed.put {s : Store} (h : Indexed s) (path : String) (components : FileComponents) :
    Indexed (s.put path components) := by
  constructor
  · have stems : (s.put path components).stems =
        dropStem (SourceName.stem path) s.stems ++ [(SourceName.stem path, path)] := rfl
    rw [stems, h.dropStem_eq, h.entries_put, List.map_append]
    rfl
  · rw [h.entries_put, List.map_append]
    refine List.Nodup.append (h.others_stems_nodup _) (List.nodup_singleton _) ?_
    -- the entries kept are those with another stem
    intro stem kept added
    obtain ⟨entry, member, rfl⟩ := List.mem_map.mp kept
    have differs := (List.mem_filter.mp member).2
    simp only [List.map_cons, List.map_nil, List.mem_singleton] at added
    simp [added] at differs

theorem Indexed.remove {s : Store} (h : Indexed s) (file : String) : Indexed (s.remove file).1 := by
  constructor
  · rw [h.entries_remove]
    unfold Store.remove
    cases found : s.pathOf? (SourceName.stem file) with
    | none => simp only [found, h.others_eq_entries found, h.index]
    | some path => simp only [found, h.dropStem_eq]
  · rw [h.entries_remove]
    exact h.others_stems_nodup _

theorem Indexed.putAll {s : Store} (h : Indexed s) (entries : List (String × FileComponents)) :
    Indexed (s.putAll entries) := by
  induction entries generalizing s with
  | nil => exact h
  | cons entry rest ih => exact ih (h.put entry.1 entry.2)

/-- The stores that can be reached from the empty one. A load may end with a fault; the store is
then the one that it leaves behind. -/
inductive Reached : Store → Prop
  | empty : Reached .empty
  | put {s : Store} (path : String) (components : FileComponents) :
      Reached s → Reached (s.put path components)
  | remove {s : Store} (file : String) : Reached s → Reached (s.remove file).1
  | clear {s : Store} : Reached s → Reached s.clear
  | snapshot {s : Store} : Reached s → Reached s.snapshot
  | replaceAll {s other : Store} : Reached s → Reached other → Reached (s.replaceAll other)
  | load {s : Store} (disk : Disk) (folder : Path) :
      Reached s → Reached (s.load disk folder).store

/-- Every reached store is indexed. -/
theorem Reached.indexed {s : Store} (h : Reached s) : Indexed s := by
  induction h with
  | empty => exact indexed_empty
  | put path components _ ih => exact ih.put path components
  | remove file _ ih => exact ih.remove file
  | clear _ _ => exact indexed_empty
  | snapshot _ ih => exact ih
  | replaceAll _ _ _ ih => exact ih
  | load disk folder _ ih =>
    rw [load_store]
    exact ih.putAll _

/-! ## Lookups -/

namespace Indexed

variable {s : Store}

/-- What the index leads to has an entry. -/
theorem lookup_of_pathOf? (h : Indexed s) {stem path : String}
    (found : s.pathOf? stem = some path) :
    ∃ components, s.entries.lookup path = some components ∧ (path, components) ∈ s.entries := by
  obtain ⟨member, _⟩ := h.pathOf?_eq_some_iff.mp found
  obtain ⟨⟨_, components⟩, present, rfl⟩ := List.mem_map.mp member
  exact ⟨components, (lookup_eq_some_iff_mem h.fileNames_nodup).mpr present, present⟩

/-- A lookup gives the components of the entry with the stem of the file. -/
theorem find?_eq_some_iff (h : Indexed s) {file : String} {components : FileComponents} :
    s.find? file = some components ↔
      ∃ path, (path, components) ∈ s.entries ∧ SourceName.stem path = SourceName.stem file := by
  have step : s.find? file = (s.pathOf? (SourceName.stem file)).bind fun path =>
      s.entries.lookup path := rfl
  rw [step, Option.bind_eq_some_iff]
  constructor
  · rintro ⟨path, found, given⟩
    exact ⟨path, (lookup_eq_some_iff_mem h.fileNames_nodup).mp given,
      (h.pathOf?_eq_some_iff.mp found).2⟩
  · rintro ⟨path, member, same⟩
    exact ⟨path, h.pathOf?_eq_some_iff.mpr ⟨List.mem_map_of_mem member, same⟩,
      (lookup_eq_some_iff_mem h.fileNames_nodup).mpr member⟩

/-- A lookup succeeds exactly when some entry has the stem of the file. -/
theorem find?_ne_none_iff (h : Indexed s) {file : String} :
    s.find? file ≠ none ↔ ∃ name ∈ s.fileNames, SourceName.stem name = SourceName.stem file := by
  rw [Option.ne_none_iff_exists']
  constructor
  · rintro ⟨components, found⟩
    obtain ⟨path, member, same⟩ := h.find?_eq_some_iff.mp found
    exact ⟨path, List.mem_map_of_mem member, same⟩
  · rintro ⟨name, member, same⟩
    obtain ⟨⟨_, components⟩, present, rfl⟩ := List.mem_map.mp member
    exact ⟨components, h.find?_eq_some_iff.mpr ⟨_, present, same⟩⟩

/-- A file is contained exactly when its lookup succeeds. -/
theorem contains_iff (h : Indexed s) {file : String} :
    s.contains file = true ↔ s.find? file ≠ none := by
  rw [h.find?_ne_none_iff, contains, Option.isSome_iff_exists]
  constructor
  · rintro ⟨path, found⟩
    exact ⟨path, h.pathOf?_eq_some_iff.mp found⟩
  · rintro ⟨path, present⟩
    exact ⟨path, h.pathOf?_eq_some_iff.mpr present⟩

/-- The size is the number of distinct stems. -/
theorem size_eq (h : Indexed s) : s.size = (s.fileNames.map SourceName.stem).dedup.length := by
  have distinct : (s.fileNames.map SourceName.stem).Nodup := by
    rw [fileNames, List.map_map]
    exact h.stems_nodup
  rw [distinct.dedup, fileNames, List.length_map, List.length_map, size]

end Indexed

/-- In every reached store the keys of both indices are distinct, and the index by stem leads
exactly from the stem of each path to that path. So a path that the index gives always has an
entry, a file is contained exactly when its lookup succeeds and exactly when some path has its
stem, and the size is the number of distinct stems. -/
theorem reached_consistent {s : Store} (h : Reached s) :
    s.fileNames.Nodup ∧ (s.stems.map Prod.fst).Nodup ∧
    (∀ stem path, s.pathOf? stem = some path ↔
      path ∈ s.fileNames ∧ SourceName.stem path = stem) ∧
    (∀ file path, s.pathOf? (SourceName.stem file) = some path →
      ∃ components, s.entries.lookup path = some components ∧ s.find? file = some components) ∧
    (∀ file, (s.contains file = true ↔ s.find? file ≠ none) ∧
      (s.find? file ≠ none ↔
        ∃ name ∈ s.fileNames, SourceName.stem name = SourceName.stem file)) ∧
    s.size = (s.fileNames.map SourceName.stem).dedup.length := by
  have hi := h.indexed
  refine ⟨hi.fileNames_nodup, hi.keys_nodup, fun _ _ => hi.pathOf?_eq_some_iff, ?_,
    fun _ => ⟨hi.contains_iff, hi.find?_ne_none_iff⟩, hi.size_eq⟩
  intro file path found
  obtain ⟨components, given, member⟩ := hi.lookup_of_pathOf? found
  exact ⟨components, given,
    hi.find?_eq_some_iff.mpr ⟨path, member, (hi.pathOf?_eq_some_iff.mp found).2⟩⟩

/-- A store in which one file was put under two spellings and another removed under an alias. -/
def aliasedStore : Store :=
  ((((empty.put "/src/Account.java" {}).put "Bank.java" {}).put "C:\\lib\\ACCOUNT.py" {}).remove
    "old/BANK").1

/-- One entry is left of the two files, under the later spelling, and every spelling finds it. -/
theorem aliasedStore_consistent :
    Reached aliasedStore ∧ aliasedStore.fileNames = ["C:\\lib\\ACCOUNT.py"] ∧
    aliasedStore.fileNames.Nodup ∧ aliasedStore.find? "./account.c" ≠ none ∧
    aliasedStore.contains "Bank.java" = false ∧
    aliasedStore.size = (aliasedStore.fileNames.map SourceName.stem).dedup.length := by
  have reached : Reached aliasedStore :=
    .remove _ (.put _ _ (.put _ _ (.put _ _ .empty)))
  obtain ⟨distinct, _, _, _, answers, size⟩ := reached_consistent reached
  refine ⟨reached, by decide +kernel, distinct, ?_, by decide +kernel, size⟩
  exact (answers "./account.c").2.mpr ⟨"C:\\lib\\ACCOUNT.py", by decide +kernel, by decide +kernel⟩

end DesignGauge.Store
