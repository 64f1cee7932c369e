import DesignGauge.Proofs.Json.Spelling
import DesignGauge.Proofs.Yaml.Numbers
import DesignGauge.Proofs.Yaml.Sections

/-!
# Reading sections of numbers

The tokens of a text of sections are read to a mapping of mappings of scalars, and that to the
sections that were written.

Results:
1. `readDocument_sections`: the nodes of a text of sections.
2. `construct_mapping`: the value of a mapping with texts as keys.
3. `read_sections`: the value of a text of sections.
-/

namespace DesignGauge.Yaml

open Text Json

/-! ## Nodes -/

/-- A plain scalar as a node. -/
def plainNode (text : String) : Node := .scalar (Tag.ofPlain text) text

/-- The nodes of the entries of a section. -/
def entryNodes (entries : List (String × Number)) : List (Node × Node) :=
  entries.map fun e => (plainNode e.1, plainNode (e.2.render .thresholds))

/-- The tokens after which the value of an entry is empty. -/
def entryStops : List Token := [.key, .value, .blockEnd]

theorem readNodeUnless_plain (fuel : Nat) (text : String) (rest : List Token)
    (handles : List (String × String)) :
    readNodeUnless entryStops .loose (fuel + 2) ⟨.scalar text true :: rest, [], handles⟩ =
      .ok (plainNode text, ⟨rest, [], handles⟩) := rfl

/-- One entry of a mapping, with a plain scalar as its key. -/
theorem readEntries_cons (fuel : Nat) {key : String} {value : Node} {toks : List Token}
    {handles : List (String × String)} {after last : Remaining} {entries : List (Node × Node)}
    (here : readNodeUnless entryStops .loose (fuel + 2) ⟨toks, [], handles⟩ = .ok (value, after))
    (later : readEntries (fuel + 2) after = .ok (entries, last)) :
    readEntries (fuel + 3) ⟨.key :: .scalar key true :: .value :: toks, [], handles⟩ =
      .ok ((plainNode key, value) :: entries, last) := by
  have first : readEntries (fuel + 3) ⟨.key :: .scalar key true :: .value :: toks, [], handles⟩ =
      (readNodeUnless entryStops .loose (fuel + 2) ⟨toks, [], handles⟩ >>= fun read =>
        readEntries (fuel + 2) read.2 >>= fun more =>
          .ok ((plainNode key, read.1) :: more.1, more.2)) := rfl
  rw [first, here]
  show (readEntries (fuel + 2) after >>= fun more =>
    .ok ((plainNode key, value) :: more.1, more.2)) = _
  rw [later]
  rfl

theorem readEntries_entries {es : List (String × Number)} {fuel : Nat}
    (enough : es.length + 3 ≤ fuel) (rest : List Token) (handles : List (String × String)) :
    readEntries fuel ⟨es.flatMap entryTokens ++ .blockEnd :: rest, [], handles⟩ =
      .ok (entryNodes es, ⟨.blockEnd :: rest, [], handles⟩) := by
  obtain ⟨more, rfl⟩ := Nat.exists_eq_add_of_le' enough
  clear enough
  induction es with
  | nil => rfl
  | cons e es ih =>
    exact readEntries_cons (more + es.length + 1)
      (readNodeUnless_plain _ (e.2.render .thresholds)
        (es.flatMap entryTokens ++ .blockEnd :: rest) handles) ih

/-- The node of a section. -/
def IsSectionNode (part : String × List (String × Number)) (node : Node × Node) : Prop :=
  node.1 = plainNode part.1 ∧ ∃ place, node.2 = .mapping place .map (entryNodes part.2)

theorem readNode_mapping (place : Place) (block : place ≠ .flow) {entries : List (Node × Node)}
    {fuel : Nat} {toks rest : List Token} {handles : List (String × String)}
    (inside : readEntries fuel ⟨toks, [], handles⟩ =
      .ok (entries, ⟨.blockEnd :: rest, [], handles⟩)) :
    readNode place (fuel + 1) ⟨.blockMappingStart :: toks, [], handles⟩ =
      .ok (.mapping (toks.length + 1) .map entries, ⟨rest, [], handles⟩) := by
  rw [readNode]
  cases place with
  | flow => exact absurd rfl block
  | block =>
    show (readEntries fuel ⟨toks, [], handles⟩ >>= _) = _
    rw [inside]
    rfl
  | loose =>
    show (readEntries fuel ⟨toks, [], handles⟩ >>= _) = _
    rw [inside]
    rfl

theorem readEntries_sections {parts : List (String × List (String × Number))} {fuel : Nat}
    (enough : (parts.flatMap sectionTokens).length + 3 ≤ fuel) (rest : List Token)
    (handles : List (String × String)) :
    ∃ nodes, readEntries fuel ⟨parts.flatMap sectionTokens ++ .blockEnd :: rest, [], handles⟩ =
      .ok (nodes, ⟨.blockEnd :: rest, [], handles⟩) ∧ List.Forall₂ IsSectionNode parts nodes := by
  induction parts generalizing fuel with
  | nil =>
    obtain ⟨more, rfl⟩ := Nat.exists_eq_add_of_le' enough
    exact ⟨[], rfl, .nil⟩
  | cons part parts ih =>
    have length : (sectionTokens part).length = part.2.length * 4 + 5 := by
      simp [sectionTokens, List.length_flatMap, entryTokens]
    rw [List.flatMap_cons, List.length_append, length] at enough
    obtain ⟨more, rfl⟩ := Nat.exists_eq_add_of_le' (show 4 ≤ fuel by omega)
    obtain ⟨nodes, later, alike⟩ :=
      ih (show (parts.flatMap sectionTokens).length + 3 ≤ more + 3 by omega)
    have inside := readEntries_entries (show part.2.length + 3 ≤ more + 1 by omega)
      (parts.flatMap sectionTokens ++ .blockEnd :: rest) handles
    have node : readNodeUnless entryStops .loose (more + 3) ⟨.blockMappingStart ::
        (part.2.flatMap entryTokens ++ .blockEnd :: (parts.flatMap sectionTokens ++
          .blockEnd :: rest)), [], handles⟩ = _ := readNode_mapping .loose (by decide) inside
    have unfolded : (part :: parts).flatMap sectionTokens ++ .blockEnd :: rest =
        .key :: .scalar part.1 true :: .value :: .blockMappingStart ::
          (part.2.flatMap entryTokens ++ .blockEnd :: (parts.flatMap sectionTokens ++
            .blockEnd :: rest)) := by
      simp [sectionTokens]
    rw [unfolded]
    exact ⟨_, readEntries_cons (more + 1) node later, .cons ⟨rfl, _, rfl⟩ alike⟩

/-- The document of a text of sections is a mapping with a mapping for each of them. -/
theorem readDocument_sections (parts : List (String × List (String × Number))) :
    ∃ place nodes, readDocument (sectionsTokens parts) =
        .ok (some ⟨.mapping place .map nodes, [], (sectionsTokens parts).length⟩) ∧
      List.Forall₂ IsSectionNode parts nodes := by
  obtain ⟨nodes, inside, alike⟩ := readEntries_sections
    (show (parts.flatMap sectionTokens).length + 3 ≤ 2 * (sectionsTokens parts).length + 1 by
      simp only [sectionsTokens, List.length_append, List.length_cons]
      omega) [] commonHandles
  have root : readNode .block (2 * (sectionsTokens parts).length + 2)
      ⟨sectionsTokens parts, [], commonHandles⟩ = _ := readNode_mapping .block (by decide) inside
  have document : readDocument (sectionsTokens parts) =
      (readNode .block (2 * (sectionsTokens parts).length + 2)
        ⟨sectionsTokens parts, [], commonHandles⟩ >>= fun read =>
        if (read.2.tokens.dropWhile (· == .documentEnd)).isEmpty then
          .ok (some ⟨read.1, read.2.anchors.map Prod.snd, (sectionsTokens parts).length⟩)
        else malformed "expected a single document in the stream") := rfl
  refine ⟨(parts.flatMap sectionTokens ++ [Token.blockEnd]).length + 1, nodes, ?_, alike⟩
  rw [document, root]
  rfl

/-! ## Words of numbers -/

theorem wordChar_of_numeralChar {c : Char} (numeral : isNumeralChar c = true) :
    isWordChar c = true :=
  of_basic isNumeralChar isWordChar (by decide +kernel) (numeralChar_facts numeral).1 numeral

theorem isMark_digit {c : Char} (digit : isAsciiDigit c = true) : Scan.isMark c = false := by
  have numeral : isNumeralChar c = true := by
    rw [isNumeralChar, digit]
    rfl
  have ordinary := of_basic isAsciiDigit (fun c => !Scan.isMark c) (by decide +kernel)
    (numeralChar_facts numeral).1 digit
  rwa [Bool.not_eq_true'] at ordinary

theorem plainWord_spelled (negative : Bool) (n : Numeral) :
    isPlainWord (minusText negative ++ n.text) = true := by
  have inner : (minusText negative ++ n.text).all isWordChar = true :=
    List.all_eq_true.mpr fun c member =>
      wordChar_of_numeralChar (numeralChar_spelled negative n c member)
  obtain ⟨d, more, text, digit⟩ := numeral_first n
  rw [text] at inner ⊢
  cases negative with
  | true => exact Bool.and_eq_true_iff.mpr ⟨inner, rfl⟩
  | false =>
    refine Bool.and_eq_true_iff.mpr ⟨inner, ?_⟩
    rw [isMark_digit digit]
    rfl

theorem isWritten_of_repeatable {v : Number} (repeatable : isRepeatable v = true) :
    isWritten v = true := by
  cases v with
  | int i =>
    rw [isWritten, Number.render, toList_toString_int]
    exact plainWord_spelled (decide (i < 0)) (Numeral.ofNat i.natAbs)
  | float x =>
    cases x with
    | nan => cases repeatable
    | infinite negative =>
      cases negative with
      | false => decide +kernel
      | true => decide +kernel
    | finite x =>
      obtain ⟨n, text, _⟩ := exists_numeral_thresholds x
      rw [isWritten, Number.render, text]
      exact plainWord_spelled x.negative n

/-! ## Values -/

/-- Without merge keys a mapping has its own entries. -/
theorem merged_of_texts {doc : Document} (room : 0 < doc.size) (place : Nat)
    {entries : List (Node × Node)}
    (texts : ∀ entry ∈ entries, ∃ text, entry.1 = .scalar .text text) :
    merged doc [] place doc.size entries = .ok entries := by
  have ordinary : ∀ entry ∈ entries, isMergeKey entry.1 = false ∧ plainKey entry.1 = entry.1 := by
    intro entry member
    obtain ⟨text, key⟩ := texts entry member
    rw [key]
    exact ⟨rfl, rfl⟩
  have kept : entries.filter (!isMergeKey ·.1) = entries :=
    List.filter_eq_self.mpr fun entry member => by rw [(ordinary entry member).1]; rfl
  have same : entries.map (fun entry => (plainKey entry.1, entry.2)) = entries := by
    refine Eq.trans (List.map_congr_left fun entry member => ?_) (List.map_id' entries)
    exact Prod.ext (ordinary entry member).2 rfl
  have none : entries.filter (isMergeKey ·.1) = [] :=
    List.filter_eq_nil_iff.mpr fun entry member => by simp [(ordinary entry member).1]
  obtain ⟨size, eq⟩ := Nat.exists_eq_add_of_le' room
  rw [eq, merged]
  simp only [kept, none, List.contains_nil, Bool.false_eq_true, if_false]
  rw [same]
  rfl

theorem gather_ok {α : Type} (values : List α) : gather (values.map .ok) = .ok values := by
  induction values with
  | nil => rfl
  | cons a values ih =>
    rw [List.map_cons, gather, ih]
    rfl

/-- What an entry of a mapping stands for, inside the collections that are open. -/
def entryValue (doc : Document) (level fuel depth : Nat) (open_ : List Nat)
    (entry : Node × Node) : Except Located (Datum × Datum) := do
  let k ← match entry.1 with
    | .scalar _ _ => construct doc level fuel depth open_ entry.1
    | _ => .error (depth, .malformed "found unhashable key")
  return (k, ← construct doc level fuel depth open_ entry.2)

/-- A mapping whose keys are texts stands for the mapping of what its values stand for. -/
theorem construct_mapping {doc : Document} {level fuel depth place : Nat} (room : 0 < doc.size)
    (shallow : depth < level) {entries : List (Node × Node)} {fields : List (String × Datum)}
    (distinct : (fields.map Prod.fst).Nodup)
    (all : List.Forall₂ (fun (entry : Node × Node) (field : String × Datum) =>
      entry.1 = .scalar .text field.1 ∧
        construct doc level (fuel + 1) (depth + 1) [] entry.2 = .ok field.2) entries fields) :
    construct doc level (fuel + 2) depth [] (.mapping place .map entries) =
      .ok (.ofFields fields) := by
  have shape : construct doc level (fuel + 2) depth [] (.mapping place .map entries) =
      ((locatedAt (depth + 1) (merged doc [] place doc.size entries) >>= fun own =>
        gather (own.map (entryValue doc level (fuel + 1) (depth + 1)
          (if level ≤ depth then [place] else [])))) >>= fun pairs =>
        .ok (.map (Datum.mapOf pairs))) := rfl
  -- Above the level nothing is noted as open, so the parts are read in the same surroundings.
  rw [if_neg (Nat.not_le.mpr shallow)] at shape
  have parts : entries.map (entryValue doc level (fuel + 1) (depth + 1) []) =
      (membersOf fields).map .ok := by
    clear shape distinct
    induction all with
    | nil => rfl
    | @cons entry field _ _ here _ ih =>
      obtain ⟨key, value⟩ := here
      have read : entryValue doc level (fuel + 1) (depth + 1) [] entry =
          .ok (.text field.1, field.2) := by
        rw [entryValue, key, value]
        rfl
      rw [List.map_cons, read, ih]
      rfl
  have texts : ∀ entry ∈ entries, ∃ text, entry.1 = .scalar .text text := by
    clear shape distinct parts
    induction all with
    | nil => nofun
    | cons here _ ih => exact List.forall_mem_cons.mpr ⟨⟨_, here.1⟩, ih⟩
  rw [shape, merged_of_texts room place texts]
  show (gather (entries.map (entryValue doc level (fuel + 1) (depth + 1) [])) >>= fun pairs =>
    Except.ok (Datum.map (Datum.mapOf pairs))) = _
  rw [parts, gather_ok]
  show Except.ok (Datum.map (Datum.mapOf (membersOf fields))) = _
  rw [mapOf_membersOf distinct]
  rfl

theorem construct_entries {doc : Document} (room : 0 < doc.size) {fuel place : Nat}
    {part : String × List (String × Number)} (is : IsSection part)
    (repeatable : ∀ e ∈ part.2, isRepeatable e.2 = true) :
    construct doc 2 (fuel + 2) 1 [] (.mapping place .map (entryNodes part.2)) =
      .ok (.ofFields (part.2.map fun e => (e.1, .ofNumber e.2))) := by
  refine construct_mapping room (by decide) ?_ ?_
  · rw [List.map_map]
    exact is.distinct
  · rw [entryNodes, List.forall₂_map_left_iff, List.forall₂_map_right_iff, List.forall₂_same]
    intro e member
    refine ⟨?_, ?_⟩
    · rw [plainNode, (name_facts (is.names e member)).2.2.2.2]
    · exact congrArg (locatedAt 2) (scalarValue_number (repeatable e member))

theorem construct_sections {doc : Document} (room : 0 < doc.size) {fuel : Nat}
    {parts : List (String × List (String × Number))} {nodes : List (Node × Node)}
    (alike : List.Forall₂ IsSectionNode parts nodes)
    (sections : ∀ part ∈ parts, IsSection part)
    (repeatable : ∀ part ∈ parts, ∀ e ∈ part.2, isRepeatable e.2 = true) :
    List.Forall₂ (fun (node : Node × Node) (part : String × List (String × Number)) =>
      node.1 = .scalar .text part.1 ∧ construct doc 2 (fuel + 2) 1 [] node.2 =
        .ok (.ofFields (part.2.map fun e => (e.1, .ofNumber e.2)))) nodes parts := by
  induction alike with
  | nil => exact .nil
  | @cons part node _ _ here _ ih =>
    rw [List.forall_mem_cons] at sections repeatable
    obtain ⟨name, place, mapping⟩ := here
    refine .cons ⟨?_, ?_⟩ (ih sections.2 repeatable.2)
    · rw [name, plainNode, (name_facts sections.1.named).2.2.2.2]
    · rw [mapping]
      exact construct_entries room sections.1 repeatable.1

/-- A text of sections stands for the mapping of its sections. -/
theorem read_sections {parts : List (String × List (String × Number))} (some : parts ≠ [])
    (sections : ∀ part ∈ parts, IsSection part) (distinct : (parts.map Prod.fst).Nodup)
    (repeatable : ∀ part ∈ parts, ∀ e ∈ part.2, isRepeatable e.2 = true) :
    read 2 (sectionsText parts).toList = .ok (.ofFields (parts.map fun part =>
      (part.1, .ofFields (part.2.map fun e => (e.1, .ofNumber e.2))))) := by
  obtain ⟨place, nodes, document, alike⟩ := readDocument_sections parts
  have value : construct ⟨.mapping place .map nodes, [], (sectionsTokens parts).length⟩ 2
      ((sectionsTokens parts).length + 4) 0 [] (.mapping place .map nodes) =
      .ok (.ofFields (parts.map fun part =>
        (part.1, .ofFields (part.2.map fun e => (e.1, .ofNumber e.2))))) := by
    refine construct_mapping (Nat.succ_pos _) (by decide) ?_ ?_
    · rw [List.map_map]
      exact distinct
    · rw [List.forall₂_map_right_iff]
      exact construct_sections (Nat.succ_pos _) alike sections repeatable
  rw [read, tokens_sections some sections]
  show (readDocument (sectionsTokens parts) >>= _) = _
  rw [document]
  simp only [bind, Except.bind]
  rw [value]
  rfl

end DesignGauge.Yaml
