import DesignGauge.Proofs.Analysis.Exclusion
import DesignGauge.Proofs.Store.Index

/-!
# Reloading the store

A reload builds a fresh store beside the one in use and swaps it in when it is complete. So a
service has either all that the folder gives or all that it had, and its slot is as it was.

Results:
1. `Store.size_putAll`: entries that are put into the empty store leave one for each stem.
2. `Slot.Reached`: the states of a slot; `Slot.Reached.eq_of_free`: a free slot has no holder.
3. `Service.reload_all_or_nothing`: what a reload gives and what it leaves, on every disk.
-/

namespace DesignGauge

/-! ## The stems of what is put -/

namespace Store

/-- The stems of some entries, one for each entry. -/
def stemsOf (entries : List (String × FileComponents)) : List String :=
  entries.map fun entry => SourceName.stem entry.1

theorem mem_stemsOf_put {s : Store} (indexed : Indexed s) (path : String)
    (components : FileComponents) (stem : String) :
    stem ∈ stemsOf (s.put path components).entries ↔
      stem ∈ stemsOf s.entries ∨ stem = SourceName.stem path := by
  rw [indexed.entries_put]
  simp only [stemsOf, others, List.mem_map, List.mem_append, List.mem_filter, List.mem_singleton]
  constructor
  · rintro ⟨entry, ⟨member, _⟩ | rfl, rfl⟩
    · exact .inl ⟨entry, member, rfl⟩
    · exact .inr rfl
  · rintro (⟨entry, member, rfl⟩ | rfl)
    · -- an entry with the stem of the path gives way to the one that is put
      by_cases same : SourceName.stem entry.1 = SourceName.stem path
      · exact ⟨(path, components), .inr rfl, same.symm⟩
      · exact ⟨entry, .inl ⟨member, bne_iff_ne.mpr same⟩, rfl⟩
    · exact ⟨(path, components), .inr rfl, rfl⟩

/-- The stems of a store after some puts are those it had and those that were put. -/
theorem mem_stemsOf_putAll {s : Store} (indexed : Indexed s)
    (entries : List (String × FileComponents)) (stem : String) :
    stem ∈ stemsOf (s.putAll entries).entries ↔
      stem ∈ stemsOf s.entries ∨ stem ∈ stemsOf entries := by
  induction entries generalizing s with
  | nil => simp [putAll, stemsOf]
  | cons entry rest ih =>
    have split := ih (indexed.put entry.1 entry.2)
    rw [mem_stemsOf_put indexed, or_assoc] at split
    have here : stem ∈ stemsOf (entry :: rest) ↔
        stem = SourceName.stem entry.1 ∨ stem ∈ stemsOf rest := List.mem_cons
    rw [here]
    exact split

/-- Entries that are put into the empty store leave one for each stem. -/
theorem size_putAll (entries : List (String × FileComponents)) :
    (empty.putAll entries).size = (stemsOf entries).dedup.length := by
  have distinct : (stemsOf (empty.putAll entries).entries).Nodup :=
    (indexed_empty.putAll entries).stems_nodup
  have same : (stemsOf (empty.putAll entries).entries).Perm (stemsOf entries).dedup := by
    refine (List.perm_ext_iff_of_nodup distinct (List.nodup_dedup _)).mpr fun stem => ?_
    rw [mem_stemsOf_putAll indexed_empty, List.mem_dedup]
    simp [stemsOf, empty]
  rw [← same.length_eq, stemsOf, List.length_map]
  rfl

/-- A load that returns leaves one entry for each stem among the keys of the files it loads. -/
theorem size_of_load {disk : Disk} {folder : Path} {n : Nat}
    (returned : (Store.load disk empty folder).result = .ok n) :
    (Store.load disk empty folder).store.size =
      (stemsOf (entriesOf disk (componentFiles disk folder))).dedup.length := by
  have passing := ((load_returns_iff disk empty folder).mp ⟨n, returned⟩).2
  rw [load_store, passed_of_passes passing, size_putAll]

end Store

/-! ## The states of a slot -/

/-- The states that a slot can be in: it is made free, it is taken and it is given back. Giving back
a free slot is refused, and still forgets what it was held for. -/
inductive Slot.Reached : Slot → Prop
  | fresh : Reached {}
  | acquire {slot taken : Slot} (target : String) :
      Reached slot → slot.acquire target = .ok taken → Reached taken
  | release {slot freed : Slot} : Reached slot → slot.release = .ok freed → Reached freed
  | refused {slot : Slot} {fault : Fault} :
      Reached slot → slot.release = .error fault → Reached { slot with holder := none }

/-- A slot that is free is held for nothing. -/
theorem Slot.Reached.eq_of_free {slot : Slot} (reached : slot.Reached)
    (free : slot.isBusy = false) : slot = {} := by
  cases reached with
  | fresh => rfl
  | acquire target _ acquired =>
    unfold Slot.acquire at acquired
    split at acquired
    · cases acquired
    · cases acquired
      cases free
  | release _ released =>
    unfold Slot.release at released
    split at released
    · cases released
      rfl
    · cases released
  | @refused slot _ _ _ =>
    obtain ⟨locked, holder⟩ := slot
    cases free
    rfl

namespace Service

variable {s : Service}

/-! ## What a reload does -/

/-- On a free slot, a load that returns is swapped in. -/
theorem reload_of_returned (free : s.slot = {}) {disk : Disk} {folder : Path} {n : Nat}
    (returned : (Store.load disk .empty folder).result = .ok n) :
    s.reload disk folder =
      ⟨{ s with store := (Store.load disk .empty folder).store }, disk,
        .ok (Store.load disk .empty folder).store.size, (Store.load disk .empty folder).log⟩ := by
  rw [reload, hold_of_free free]
  · simp only [returned]
    have swapped : ({ s with store := (Store.load disk .empty folder).store } : Service).freed =
        { s with store := (Store.load disk .empty folder).store } := freed_of_free free
    exact congrArg (fun service => Step.mk service ..) swapped
  · intro held
    simp only [returned]

/-- On a free slot, a load that fails leaves the service as it was. -/
theorem reload_of_failed (free : s.slot = {}) {disk : Disk} {folder : Path} {fault : Fault}
    (failed : (Store.load disk .empty folder).result = .error fault) :
    s.reload disk folder =
      ⟨s, disk, .error fault, (Store.load disk .empty folder).log⟩ := by
  rw [reload, hold_of_free free]
  · simp only [failed]
    exact congrArg (fun service => Step.mk service ..) (freed_of_free free)
  · intro held
    simp only [failed]

/-- A reload returns exactly when the slot is free and the folder can be loaded. Then the store is
the one that the folder alone gives, and the number returned is its size and the number of distinct
stems among the keys of the files loaded. When a reload fails, the service is what it was. The slot
and the disk are as before in every case. -/
theorem reload_all_or_nothing (reached : s.slot.Reached) (disk : Disk) (folder : Path) :
    ((∃ n, (s.reload disk folder).result = .ok n) ↔
      s.slot.isBusy = false ∧ ∃ n, (Store.load disk .empty folder).result = .ok n) ∧
    (∀ n, (s.reload disk folder).result = .ok n →
      (s.reload disk folder).service =
        { s with store := (Store.load disk .empty folder).store } ∧
      n = (s.reload disk folder).service.store.size ∧
      n = (Store.stemsOf (Store.entriesOf disk (Store.componentFiles disk folder))).dedup.length) ∧
    (∀ fault, (s.reload disk folder).result = .error fault → (s.reload disk folder).service = s) ∧
    (s.reload disk folder).service.slot = s.slot ∧
    (s.reload disk folder).disk = disk := by
  cases busy : s.slot.isBusy with
  | true =>
    rw [reload, hold_of_busy busy]
    simp
  | false =>
    have free := reached.eq_of_free busy
    cases loaded : (Store.load disk .empty folder).result with
    | error fault =>
      rw [reload_of_failed free loaded]
      simp
    | ok count =>
      rw [reload_of_returned free loaded]
      refine ⟨⟨fun _ => ⟨rfl, count, rfl⟩, fun _ => ⟨_, rfl⟩⟩, ?_, ?_, rfl, rfl⟩
      · intro n result
        cases result
        exact ⟨rfl, rfl, Store.size_of_load loaded⟩
      · intro fault result
        cases result

/-- A folder with the components of one class under two spellings. -/
def twiceDisk : Disk where
  nodes := [
    (["d"], .folder 0),
    (["d", "a.json"], .file (Text.Utf8.encode
      "\x7b\"classes\": [\x7b\"fileName\": \"src/Account.java\"\x7d]\x7d".toList) 0),
    (["d", "b.json"], .file (Text.Utf8.encode
      "\x7b\"classes\": [\x7b\"fileName\": \"old/ACCOUNT.py\"\x7d]\x7d".toList) 0)]

/-- A service that knows one file and is free. -/
def bankService : Service := { store := Store.empty.put "Bank.java" {} }

theorem twiceDisk_files :
    Store.componentFiles twiceDisk ⟨"", ["d"]⟩ =
      [⟨"", ["d", "a.json"]⟩, ⟨"", ["d", "b.json"]⟩] := by
  have names : twiceDisk.childNames ["d"] ".json" = ["a.json", "b.json"] := by decide +kernel
  exact Store.componentFiles_of_sorted rfl (by decide +kernel) names (by decide)

/-- Two files with one stem give one entry, and the file that was known is gone. In a folder with a
file that ends the loading, the reload fails and the known file stays. -/
theorem bankService_reloaded :
    bankService.slot.Reached ∧
    (bankService.reload twiceDisk ⟨"", ["d"]⟩).result = .ok 1 ∧
    (bankService.reload twiceDisk ⟨"", ["d"]⟩).service.store.fileNames = ["old/ACCOUNT.py"] ∧
    (∃ fault, (bankService.reload Store.jammedDisk ⟨"", ["d"]⟩).result = .error fault) ∧
    (bankService.reload Store.jammedDisk ⟨"", ["d"]⟩).service.store.fileNames = ["Bank.java"] := by
  have reached : bankService.slot.Reached := .fresh
  have passing : ∀ path ∈ Store.componentFiles twiceDisk ⟨"", ["d"]⟩,
      Store.passes twiceDisk path = true := by
    rw [twiceDisk_files]
    decide +kernel
  have loads : ∃ n, (Store.load twiceDisk .empty ⟨"", ["d"]⟩).result = .ok n :=
    (Store.load_returns_iff ..).mpr ⟨⟨true, rfl⟩, passing⟩
  obtain ⟨returns, fresh, _⟩ := reload_all_or_nothing reached twiceDisk ⟨"", ["d"]⟩
  obtain ⟨n, result⟩ := returns.mpr ⟨rfl, loads⟩
  obtain ⟨swapped, sized, _⟩ := fresh n result
  have names : (bankService.reload twiceDisk ⟨"", ["d"]⟩).service.store.fileNames =
      ["old/ACCOUNT.py"] := by
    rw [swapped, Store.load_store, Store.passed_of_passes passing, twiceDisk_files]
    decide +kernel
  have one : n = 1 := by
    have length := congrArg List.length names
    rw [Store.fileNames, List.length_map] at length
    exact sized.trans length
  obtain ⟨returns', _, kept, _⟩ := reload_all_or_nothing reached Store.jammedDisk ⟨"", ["d"]⟩
  have jams : ¬ ∃ n, (bankService.reload Store.jammedDisk ⟨"", ["d"]⟩).result = .ok n := by
    rw [returns', Store.load_returns_iff, Store.componentFiles_jammedDisk]
    rintro ⟨_, _, passes⟩
    exact absurd (passes _ List.mem_cons_self) (by decide +kernel)
  obtain ⟨fault, failed⟩ :
      ∃ fault, (bankService.reload Store.jammedDisk ⟨"", ["d"]⟩).result = .error fault := by
    cases outcome : (bankService.reload Store.jammedDisk ⟨"", ["d"]⟩).result with
    | error fault => exact ⟨fault, rfl⟩
    | ok n => exact absurd ⟨n, outcome⟩ jams
  refine ⟨reached, by rw [result, one], names, ⟨fault, failed⟩, ?_⟩
  rw [kept fault failed]
  decide

end Service

end DesignGauge
