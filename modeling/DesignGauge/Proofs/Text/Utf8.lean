import DesignGauge.Proofs.Text.Surrogate
import DesignGauge.Text.Utf8

/-!
# UTF-8 reads back

A text without halves of surrogate pairs can be encoded, and decoding what was encoded gives the
text again. The reader takes the octets one at a time and skips those that belong to the character
just read, so the argument is one equation for a character, `scan_encodeCode`, and an induction over
the code points of the text.

Results:
1. `decode_encode`: decoding an encoded text.
2. `whole_of_decode`: what is decoded is a text without halves.
3. `decodeFile_encode`: reading a text file that holds basic characters.
-/

namespace DesignGauge.Text.Utf8

theorem toNat_toUInt8 {n : Nat} (small : n < 256) : n.toUInt8.toNat = n :=
  UInt8.toNat_ofNat_of_lt' small

/-- Octets that are to be skipped are passed over. -/
theorem scan_skip (keep : Bool) (acc : List Char) (position : Nat) (front rest : Octets) :
    scan keep acc position front.length (front ++ rest) =
      scan keep acc (position + front.length) 0 rest := by
  induction front generalizing position with
  | nil => rfl
  | cons b front ih =>
    rw [List.cons_append, List.length_cons, scan, ih, Nat.add_assoc, Nat.add_comm 1]

/-- A continuation octet adds six bits. -/
theorem readTail_cons {code taken least greatest n d : Nat} {rest : Octets}
    (low : least ≤ 0x80 + d) (high : 0x80 + d ≤ greatest) (small : d < 64) :
    readTail code taken least greatest (n + 1) ((0x80 + d).toUInt8 :: rest) =
      readTail (code * 64 + d) (taken + 1) 0x80 0xBF n rest := by
  rw [readTail, toNat_toUInt8 (by omega), if_pos (by simp [low, high]), Nat.add_sub_cancel_left]

/-- A first octet with the continuation octets that it promises is a character. -/
theorem scan_lead {b : UInt8} {tail rest : Octets} {lead : Lead} {code : Nat}
    (starts : lead? b.toNat = some lead) (following : lead.following = tail.length)
    (complete : readTail lead.bits 1 lead.least lead.greatest lead.following (tail ++ rest) =
      .complete code) (acc : List Char) (position : Nat) :
    scan false acc position 0 (b :: tail ++ rest) =
      scan false ((spell code).reverse ++ acc) (position + (b :: tail).length) 0 rest := by
  rw [List.cons_append, scan, starts]
  simp only [Bool.false_eq_true, if_false, complete]
  rw [following, scan_skip, List.length_cons, Nat.add_assoc, Nat.add_comm 1]

/-! ## First octets -/

theorem lead?_one {n : Nat} (small : n < 0x80) : lead? n = some ⟨0, 0, 0, n⟩ := by
  rw [lead?, if_pos small]

theorem lead?_two : ∀ k < 32, 2 ≤ k → lead? (0xC0 + k) = some ⟨1, 0x80, 0xBF, k⟩ := by
  decide

theorem lead?_three : ∀ k < 16, lead? (0xE0 + k) =
    some ⟨2, if k = 0 then 0xA0 else 0x80, if k = 13 then 0x9F else 0xBF, k⟩ := by
  decide

theorem lead?_four : ∀ k < 5, lead? (0xF0 + k) =
    some ⟨3, if k = 0 then 0x90 else 0x80, if k = 4 then 0x8F else 0xBF, k⟩ := by
  decide

/-! ## Texts -/

/-- Reading the octets of a character gives that character. -/
theorem scan_encodeCode (c : Char) (acc : List Char) (position : Nat) (rest : Octets) :
    scan false acc position 0 (encodeCode c.toNat ++ rest) =
      scan false ((spell c.toNat).reverse ++ acc) (position + (encodeCode c.toNat).length) 0
        rest := by
  have bounds := code_bounds c
  generalize c.toNat = n at bounds
  unfold encodeCode
  split
  · next one =>
    have starts := lead?_one one
    rw [← toNat_toUInt8 (show n < 256 by omega)] at starts
    exact scan_lead starts rfl (by rw [toNat_toUInt8 (by omega)]; rfl) acc position
  split
  · next two =>
    have starts := lead?_two (n / 64) (by omega) (by omega)
    rw [← toNat_toUInt8 (show 0xC0 + n / 64 < 256 by omega)] at starts
    refine scan_lead starts rfl ?_ acc position
    simp only [List.cons_append]
    rw [readTail_cons (by omega) (by omega) (by omega), readTail]
    congr 1
    omega
  split
  · next three =>
    -- the range of the second octet leaves out longer spellings and halves of pairs
    have starts := lead?_three (n / 4096) (by omega)
    rw [← toNat_toUInt8 (show 0xE0 + n / 4096 < 256 by omega)] at starts
    refine scan_lead starts rfl ?_ acc position
    simp only [List.cons_append]
    rw [readTail_cons (by split <;> omega) (by split <;> omega) (by omega),
      readTail_cons (by omega) (by omega) (by omega), readTail]
    congr 1
    omega
  · next four =>
    have starts := lead?_four (n / 262144) (by omega)
    rw [← toNat_toUInt8 (show 0xF0 + n / 262144 < 256 by omega)] at starts
    refine scan_lead starts rfl ?_ acc position
    simp only [List.cons_append]
    rw [readTail_cons (by split <;> omega) (by split <;> omega) (by omega),
      readTail_cons (by omega) (by omega) (by omega),
      readTail_cons (by omega) (by omega) (by omega), readTail]
    congr 1
    omega

/-- Reading the octets of characters gives what is kept for them. -/
theorem scan_codes {codes : List Nat} (characters : ∀ code ∈ codes, ∃ c : Char, code = c.toNat)
    (acc : List Char) (position : Nat) :
    scan false acc position 0 (codes.flatMap encodeCode) =
      .ok (acc.reverse ++ codes.flatMap spell, []) := by
  induction codes generalizing acc position with
  | nil => exact congrArg (fun text => Except.ok (text, [])) (List.append_nil _).symm
  | cons code codes ih =>
    obtain ⟨⟨c, rfl⟩, later⟩ := List.forall_mem_cons.mp characters
    rw [List.flatMap_cons, scan_encodeCode, ih later, List.reverse_append, List.reverse_reverse,
      List.append_assoc, List.flatMap_cons]

theorem scan_encode {text : List Char} (whole : Whole text) (acc : List Char) (position : Nat) :
    scan false acc position 0 (encode text) = .ok (acc.reverse ++ text, []) := by
  rw [encode, scan_codes whole.code_bounds, whole.spell_codes]

/-- Decoding an encoded text gives the text. -/
theorem decode_encode {text : List Char} (whole : Whole text) :
    decode (encode text) = .ok text := by
  rw [decode, decodeWhole, scan_encode whole]
  rfl

/-! ## What is decoded -/

theorem encode_of_basic {text : List Char} (basic : ∀ c ∈ text, c.toNat < 0x80) :
    encode text = text.map fun c => c.toNat.toUInt8 := by
  rw [encode, codes_of_basic basic, List.flatMap_map]
  induction text with
  | nil => rfl
  | cons c text ih =>
    rw [List.forall_mem_cons] at basic
    rw [List.flatMap_cons, ih basic.2, encodeCode, if_pos basic.1]
    rfl

/-- Every block of a text of basic characters ends between two of them. -/
theorem decodeBlocks_encode {text : List Char} (basic : ∀ c ∈ text, c.toNat < 0x80) {fuel : Nat}
    (enough : text.length < fuel) : decodeBlocks fuel [] (encode text) = .ok text := by
  induction fuel generalizing text with
  | zero => exact absurd enough (Nat.not_lt_zero _)
  | succ fuel ih =>
    cases text with
    | nil => rfl
    | cons c text =>
      have front : ∀ d ∈ (c :: text).take blockSize, d.toNat < 0x80 :=
        fun d member => basic d (List.mem_of_mem_take member)
      have back : ∀ d ∈ (c :: text).drop blockSize, d.toNat < 0x80 :=
        fun d member => basic d (List.mem_of_mem_drop member)
      have shorter : ((c :: text).drop blockSize).length < fuel := by
        rw [List.length_cons] at enough
        rw [List.length_drop, List.length_cons, blockSize]
        omega
      have filled : (encode (c :: text)).isEmpty = false := by
        rw [encode_of_basic basic]
        rfl
      have taken : (encode (c :: text)).take blockSize = encode ((c :: text).take blockSize) := by
        rw [encode_of_basic front, encode_of_basic basic, List.map_take]
      have dropped : (encode (c :: text)).drop blockSize = encode ((c :: text).drop blockSize) := by
        rw [encode_of_basic back, encode_of_basic basic, List.map_drop]
      rw [decodeBlocks, filled, if_neg Bool.false_ne_true, List.nil_append, taken,
        scan_encode (whole_of_basic front), dropped]
      show (decodeBlocks fuel [] (encode ((c :: text).drop blockSize)) >>= _) = _
      rw [ih back shorter]
      exact congrArg Except.ok (List.take_append_drop blockSize (c :: text))

theorem unifyLineEnds_of_none {text : List Char} (none : ∀ c ∈ text, c ≠ '\r') :
    unifyLineEnds text = text := by
  induction text with
  | nil => rfl
  | cons c text ih =>
    rw [List.forall_mem_cons] at none
    unfold unifyLineEnds
    split
    · next same => exact absurd (List.cons.inj same).1 none.1
    · next same => exact absurd (List.cons.inj same).1 none.1
    · next same =>
      obtain ⟨rfl, rfl⟩ := List.cons.inj same
      rw [ih none.2]
    · next same => cases same

/-- A text of basic characters without carriage returns is read from its file. -/
theorem decodeFile_encode {text : List Char} (basic : ∀ c ∈ text, c.toNat < 0x80)
    (none : ∀ c ∈ text, c ≠ '\r') : decodeFile (encode text) = .ok text := by
  have length : (encode text).length = text.length := by
    rw [encode_of_basic basic, List.length_map]
  rw [decodeFile, decodeBlocks_encode basic (by omega)]
  exact congrArg Except.ok (unifyLineEnds_of_none none)

end DesignGauge.Text.Utf8
