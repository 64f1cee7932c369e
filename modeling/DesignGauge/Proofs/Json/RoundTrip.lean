import DesignGauge.Proofs.Json.Spelling
import DesignGauge.Proofs.Text.Utf8

/-!
# JSON files read back

A tree of lists and of objects with distinct names, over scalars that a file holds exactly, is
written and read back to itself.

Results:
1. `exists_spelled`: what is written for such a tree spells it.
2. `Nested.exact_of_write`: what can be written has exact scalars only.
3. `exists_content`, `content_of_fileOctets`: an object in a file is what the file holds.
-/

/-- Two steps one after the other succeed exactly when each of them does. -/
theorem DesignGauge.bind_eq_ok_iff {ε α β : Type} {x : Except ε α} {f : α → Except ε β} {b : β} :
    (x >>= f) = .ok b ↔ ∃ a, x = .ok a ∧ f a = .ok b := by
  cases x with
  | error e => exact ⟨nofun, fun ⟨_, failed, _⟩ => nomatch failed⟩
  | ok a => exact ⟨fun done => ⟨a, rfl, done⟩, fun ⟨_, rfl, done⟩ => done⟩

namespace DesignGauge.Json

open Text

/-! ## Trees -/

/-- A scalar that a file holds as it is. -/
def Exact : Datum → Prop
  | .null => True
  | .bool _ => True
  | .int i => -signedBound ≤ i ∧ i < unsignedBound
  | .float x => x.isFinite = true
  | .text s => isWhole s = true
  | _ => False

/-- A scalar that has a JSON text of its own, if any. -/
def Plain : Datum → Prop
  | .null => True
  | .bool _ => True
  | .int _ => True
  | .float x => x.isFinite = true
  | .text _ => True
  | _ => False

/-- A tree of lists and of objects with distinct names over some scalars, with a bound on its
depth. -/
inductive Nested (leaf : Datum → Prop) : Nat → Datum → Prop where
  | leaf {levels : Nat} {value : Datum} : leaf value → Nested leaf levels value
  | list {levels : Nat} {items : List Datum} :
      (∀ item ∈ items, Nested leaf levels item) → Nested leaf (levels + 1) (.list items)
  | fields {levels : Nat} {fields : List (String × Datum)} :
      (fields.map Prod.fst).Nodup → (∀ field ∈ fields, leaf (.text field.1)) →
      (∀ field ∈ fields, Nested leaf levels field.2) → Nested leaf (levels + 1) (.ofFields fields)

theorem Nested.mono {leaf : Datum → Prop} {levels more : Nat} {value : Datum}
    (nested : Nested leaf levels value) (le : levels ≤ more) : Nested leaf more value := by
  induction nested generalizing more with
  | leaf here => exact .leaf here
  | list _ ih =>
    obtain ⟨more, rfl⟩ : ∃ n, more = n + 1 := ⟨more - 1, by omega⟩
    exact .list fun item member => ih item member (by omega)
  | fields distinct names _ ih =>
    obtain ⟨more, rfl⟩ : ∃ n, more = n + 1 := ⟨more - 1, by omega⟩
    exact .fields distinct names fun field member => ih field member (by omega)

theorem enclose_toList (depth : Nat) (left right : Char) (parts : List String) :
    (Style.file.enclose depth (String.ofList [left]) (String.ofList [right]) parts).toList =
      enclosed depth left right (parts.map String.toList) := by
  cases parts with
  | nil => simp [Style.enclose, enclosed]
  | cons part parts =>
    simp [Style.enclose, Style.file, enclosed, joined, gap, repeated, String.toList_intercalate]

theorem writeText_of_exact {s : String} (kept : Exact (.text s)) :
    writeText .file s = .ok (encodeText s) := by
  have whole : isWhole s = true := kept
  rw [writeText, whole, Bool.not_true, Bool.and_false, if_neg Bool.false_ne_true]

theorem whole_of_exact {s : String} (kept : Exact (.text s)) : Whole s.toList :=
  isWholeList_iff.mp kept

theorem writeInt_file (i : Int) : writeInt .file i =
    if -signedBound ≤ i && i < unsignedBound then .ok (toString i) else .error .integerRange :=
  if_pos rfl

/-- A scalar that a file holds as it is reads back. -/
theorem exists_spelled_of_exact {value : Datum} (kept : Exact value) (depth : Nat) :
    ∃ text, write .file depth value = .ok text ∧ Spelled depth text.toList value := by
  cases value with
  | null => exact ⟨"null", rfl, spelled_null depth⟩
  | bool b => exact ⟨if b then "true" else "false", rfl, spelled_bool depth b⟩
  | int i =>
    obtain ⟨low, high⟩ := kept
    refine ⟨toString i, ?_, spelled_int depth low high⟩
    rw [write, writeInt_file, if_pos (by simp [low, high])]
  | float x =>
    cases x with
    | finite x => exact ⟨_, rfl, spelled_float depth x _⟩
    | infinite negative => exact nomatch kept
    | nan => exact nomatch kept
  | text s =>
    refine ⟨encodeText s, ?_, spelled_text depth (whole_of_exact kept)⟩
    rw [write, writeText_of_exact kept]
  | _ => exact kept.elim

theorem exists_spelled_items {depth : Nat} {items : List Datum}
    (each : ∀ item ∈ items,
      ∃ text, write .file depth item = .ok text ∧ Spelled depth text.toList item) :
    ∃ parts, writeItems .file depth items = .ok parts ∧
      List.Forall₂ (Spelled depth) (parts.map String.toList) items := by
  induction items with
  | nil => exact ⟨[], rfl, .nil⟩
  | cons item items ih =>
    obtain ⟨text, written, spelled⟩ := each item List.mem_cons_self
    obtain ⟨parts, others, all⟩ := ih fun other member => each other (List.mem_cons_of_mem _ member)
    refine ⟨text :: parts, ?_, .cons spelled all⟩
    rw [writeItems, written, others]
    rfl

theorem exists_spelled_members {depth : Nat} {fields : List (String × Datum)}
    (names : ∀ field ∈ fields, Exact (.text field.1))
    (each : ∀ field ∈ fields,
      ∃ text, write .file depth field.2 = .ok text ∧ Spelled depth text.toList field.2) :
    ∃ parts, writeMembers .file depth (membersOf fields) = .ok parts ∧
      List.Forall₂ (SpelledField depth) (parts.map String.toList) fields := by
  induction fields with
  | nil => exact ⟨[], rfl, .nil⟩
  | cons field fields ih =>
    obtain ⟨text, written, spelled⟩ := each field List.mem_cons_self
    obtain ⟨parts, others, all⟩ :=
      ih (fun other member => names other (List.mem_cons_of_mem _ member))
        fun other member => each other (List.mem_cons_of_mem _ member)
    have kept := names field List.mem_cons_self
    have name : writeName .file (.text field.1) = .ok (encodeText field.1) :=
      writeText_of_exact kept
    refine ⟨(encodeText field.1 ++ Style.file.colon ++ text) :: parts, ?_, .cons ?_ all⟩
    · rw [membersOf_cons, writeMembers, name, written, others]
      rfl
    · refine ⟨whole_of_exact kept, text.toList, ?_, spelled⟩
      simp [Style.colon, Style.file]

/-- A tree over exact scalars that is not too deep is written to a text that reads back. -/
theorem exists_spelled {levels : Nat} {value : Datum} (nested : Nested Exact levels value)
    {depth : Nat} (fits : depth + levels ≤ 1024) :
    ∃ text, write .file depth value = .ok text ∧ Spelled depth text.toList value := by
  induction nested generalizing depth with
  | leaf kept => exact exists_spelled_of_exact kept depth
  | list _ ih =>
    obtain ⟨parts, written, all⟩ :=
      exists_spelled_items fun item member => ih item member (show depth + 1 + _ ≤ 1024 by omega)
    refine ⟨Style.file.enclose depth "[" "]" parts, ?_, ?_⟩
    · rw [write, written]
      rfl
    · have text := enclose_toList depth '[' ']' parts
      exact text ▸ spelled_list (by omega) all
  | fields distinct names _ ih =>
    obtain ⟨parts, written, all⟩ :=
      exists_spelled_members names fun field member =>
        ih field member (show depth + 1 + _ ≤ 1024 by omega)
    refine ⟨Style.file.enclose depth "\x7b" "\x7d" parts, ?_, ?_⟩
    · rw [Datum.ofFields, write, ← membersOf, written]
      rfl
    · have text := enclose_toList depth '\x7b' '\x7d' parts
      exact text ▸ spelled_fields (by omega) distinct all

/-! What can be written has exact scalars only. -/

theorem write_of_writeItems {style : Style} {depth : Nat} {items : List Datum}
    {parts : List String} (written : writeItems style depth items = .ok parts) :
    ∀ item ∈ items, ∃ text, write style depth item = .ok text := by
  induction items generalizing parts with
  | nil => exact nofun
  | cons item items ih =>
    obtain ⟨text, first, more⟩ := bind_eq_ok_iff.mp written
    obtain ⟨others, rest, _⟩ := bind_eq_ok_iff.mp more
    intro other member
    rcases List.mem_cons.mp member with rfl | member
    · exact ⟨text, first⟩
    · exact ih rest other member

theorem write_of_writeMembers {style : Style} {depth : Nat} {fields : List (String × Datum)}
    {parts : List String} (written : writeMembers style depth (membersOf fields) = .ok parts) :
    ∀ field ∈ fields, (∃ name, writeText style field.1 = .ok name) ∧
      ∃ text, write style depth field.2 = .ok text := by
  induction fields generalizing parts with
  | nil => exact nofun
  | cons field fields ih =>
    obtain ⟨name, first, more⟩ := bind_eq_ok_iff.mp written
    obtain ⟨text, second, more⟩ := bind_eq_ok_iff.mp more
    obtain ⟨others, rest, _⟩ := bind_eq_ok_iff.mp more
    intro other member
    rcases List.mem_cons.mp member with rfl | member
    · exact ⟨⟨name, first⟩, text, second⟩
    · exact ih rest other member

theorem exact_of_writeText {s text : String} (written : writeText .file s = .ok text) :
    Exact (.text s) := by
  unfold writeText at written
  split at written
  · exact nomatch written
  · next whole =>
    rw [Bool.and_eq_true, not_and, Bool.not_eq_true, Bool.not_eq_false'] at whole
    exact whole rfl

theorem exact_of_plain {value : Datum} (plain : Plain value) {depth : Nat} {text : String}
    (written : write .file depth value = .ok text) : Exact value := by
  cases value with
  | null => trivial
  | bool b => trivial
  | int i =>
    rw [write, writeInt_file] at written
    split at written
    · next inRange =>
      rw [Bool.and_eq_true, decide_eq_true_eq, decide_eq_true_eq] at inRange
      exact inRange
    · exact nomatch written
  | float x => exact plain
  | text s => exact exact_of_writeText written
  | _ => exact plain.elim

/-- A tree over plain scalars that can be written is one over exact scalars. -/
theorem Nested.exact_of_write {levels : Nat} {value : Datum} (nested : Nested Plain levels value)
    {depth : Nat} {text : String} (written : write .file depth value = .ok text) :
    Nested Exact levels value := by
  induction nested generalizing depth text with
  | leaf plain => exact .leaf (exact_of_plain plain written)
  | list _ ih =>
    obtain ⟨parts, items, _⟩ := bind_eq_ok_iff.mp written
    refine .list fun item member => ?_
    obtain ⟨text, here⟩ := write_of_writeItems items item member
    exact ih item member here
  | fields distinct _ _ ih =>
    obtain ⟨parts, members, _⟩ := bind_eq_ok_iff.mp written
    refine .fields distinct (fun field member => ?_) fun field member => ?_
    · obtain ⟨⟨name, named⟩, _⟩ := write_of_writeMembers members field member
      exact exact_of_writeText named
    · obtain ⟨_, text, here⟩ := write_of_writeMembers members field member
      exact ih field member here

/-! ## Files -/

theorem enclosed_braces (depth : Nat) (parts : List (List Char)) :
    ∃ inner, enclosed depth '\x7b' '\x7d' parts = '\x7b' :: (inner ++ ['\x7d']) := by
  cases parts with
  | nil => exact ⟨[], rfl⟩
  | cons part parts =>
    refine ⟨gap (depth + 1) ++ (joined (depth + 1) (part :: parts) ++ gap depth), ?_⟩
    simp [enclosed]

/-- A written object stands between braces. -/
theorem braces_of_write {depth : Nat} {entries : List (Datum × Datum)} {text : String}
    (written : write .file depth (.map entries) = .ok text) :
    ∃ inner, text.toList = '\x7b' :: (inner ++ ['\x7d']) := by
  obtain ⟨parts, _, done⟩ := bind_eq_ok_iff.mp written
  obtain rfl := Except.ok.inj done
  have text := enclose_toList depth '\x7b' '\x7d' parts
  exact text ▸ enclosed_braces depth (parts.map String.toList)

theorem encode_braces {inner : List Char} (whole : Whole inner) :
    Utf8.encode ('\x7b' :: (inner ++ ['\x7d'])) = 0x7b :: (Utf8.encode inner ++ [0x7d]) := by
  rw [Utf8.encode, codes_cons (by decide), codes_append whole, List.flatMap_cons,
    List.flatMap_append, ← Utf8.encode]
  rfl

/-- What stands between braces has no blanks at its ends. -/
theorem stripOctets_braces (octets : Octets) :
    stripOctets (0x7b :: (octets ++ [0x7d])) = 0x7b :: (octets ++ [0x7d]) := by
  have reversed : (0x7b :: (octets ++ [0x7d])).reverse = 0x7d :: (octets.reverse ++ [0x7b]) := by
    simp
  rw [stripOctets, List.dropWhile_cons_of_neg (by decide), reversed,
    List.dropWhile_cons_of_neg (by decide), ← reversed, List.reverse_reverse]

/-- A spelled value is read from its text. -/
theorem Spelled.read {text : List Char} {value : Datum} (spelled : Spelled 0 text value) :
    read .file text = .ok value := by
  have whole : readValue .file 0 (2 * text.length + 2) (text ++ []) = .ok (value, []) :=
    spelled.reads (by omega) follows_nil
  rw [List.append_nil] at whole
  rw [Json.read, spelled.opens.skipBlanks, whole]
  rfl

/-- An object over exact scalars is written to a file that holds it. -/
theorem exists_content {fields : List (String × Datum)}
    (nested : Nested Exact 1024 (.ofFields fields)) :
    ∃ octets, fileOctets (.ofFields fields) = .ok octets ∧
      contentOf (stripOctets octets) = .value (.ofFields fields) := by
  obtain ⟨text, written, spelled⟩ := exists_spelled nested (show 0 + 1024 ≤ 1024 by omega)
  obtain ⟨inner, braces⟩ := braces_of_write written
  refine ⟨Utf8.encode text.toList, ?_, ?_⟩
  · rw [fileOctets, fileText, written]
  · have decoded := Utf8.decode_encode spelled.whole
    have whole : Whole inner := by
      have all := isWholeList_iff.mpr spelled.whole
      rw [braces, isWholeList_cons (by decide), isWholeList_append_cons (by decide),
        Bool.and_eq_true] at all
      exact isWholeList_iff.mp all.1
    rw [braces, encode_braces whole] at decoded ⊢
    rw [stripOctets_braces, contentOf, List.isEmpty_cons, if_neg Bool.false_ne_true, decoded,
      ← braces]
    simp only [spelled.read]

theorem exists_write_of_fileOctets {value : Datum} {octets : Octets}
    (written : fileOctets value = .ok octets) : ∃ text, write .file 0 value = .ok text := by
  unfold fileOctets at written
  split at written
  · next text spelled => exact ⟨text, spelled⟩
  · exact nomatch written

/-- An object over plain scalars that has a JSON text is what this text holds. -/
theorem content_of_fileOctets {fields : List (String × Datum)} {levels : Nat}
    (nested : Nested Plain levels (.ofFields fields)) (shallow : levels ≤ 1024) {octets : Octets}
    (written : fileOctets (.ofFields fields) = .ok octets) :
    contentOf (stripOctets octets) = .value (.ofFields fields) := by
  obtain ⟨text, spelled⟩ := exists_write_of_fileOctets written
  obtain ⟨octets', written', holds⟩ := exists_content ((nested.exact_of_write spelled).mono shallow)
  obtain rfl : octets' = octets := Except.ok.inj (written'.symm.trans written)
  exact holds

theorem contentAt_of_read {disk : Disk} {path : Path} {octets : Octets}
    (read : disk.read path = .ok octets) :
    contentAt disk path = .ok (contentOf (stripOctets octets)) := by
  unfold contentAt
  rw [read]

end DesignGauge.Json
