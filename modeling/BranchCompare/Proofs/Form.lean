import BranchCompare.Form
import BranchCompare.Proofs.Text.Utf8

/-!
# Reading back what form encoding writes

An encoded text consists of unreserved characters, plus signs and percent signs, and decodes to the
text it was made from (`decodeText_encodeText`): plus signs are read as spaces first, which no
escape holds, then each escape gives back its octet, and the octets their characters.  Neither mark
that sets names and values apart stands in an encoded text, so that all names and values are read
back (`decode_encode`).
-/

namespace BranchCompare.Form

open BranchCompare.Text

def isEncoded (c : Char) : Bool := isUnreserved c || c == '+' || c == '%'

def readPlus (c : Char) : Char := if c = '+' then ' ' else c

/-! ## Characters -/

/-- Characters that stand for themselves are ASCII. -/
theorem isUnreserved_ascii {c : Char} (h : isUnreserved c = true) : c.toNat < 0x80 := by
  unfold isUnreserved Char.isAlphanum Char.isAlpha Char.isUpper Char.isLower Char.isDigit at h
  simp only [Bool.or_eq_true, Bool.and_eq_true, decide_eq_true_eq, beq_iff_eq, ge_iff_le,
    UInt32.le_iff_toNat_le] at h
  rcases h with ((((((⟨-, h⟩ | ⟨-, h⟩) | ⟨-, h⟩) | rfl) | rfl) | rfl) | rfl)
  · exact Nat.lt_of_le_of_lt h (by decide)
  · exact Nat.lt_of_le_of_lt h (by decide)
  · exact Nat.lt_of_le_of_lt h (by decide)
  all_goals decide

theorem upperHexDigit_cases (value : Nat) (h : value < 16) :
    Json.hexDigit? (upperHexDigit value) = some value ∧
      isUnreserved (upperHexDigit value) = true := by
  have hall : ∀ v ∈ List.range 16, Json.hexDigit? (upperHexDigit v) = some v ∧
      isUnreserved (upperHexDigit v) = true := by decide
  exact hall value (List.mem_range.mpr h)

theorem not_isEncoded {c d : Char} (hd : isEncoded d = false) (hc : isEncoded c = true) :
    c ≠ d := by
  rintro rfl
  rw [hd] at hc
  cases hc

/-- An escape consists of encoded characters. -/
theorem isEncoded_escapeOctet {b : UInt8} {c : Char} (h : c ∈ escapeOctet b) :
    isEncoded c = true := by
  have hb : b.toNat < 0x100 := b.toNat_lt
  unfold escapeOctet at h
  simp only [List.mem_cons, List.not_mem_nil, or_false] at h
  unfold isEncoded
  rcases h with rfl | rfl | rfl
  · rfl
  · simp [(upperHexDigit_cases (b.toNat / 16) (by omega)).2]
  · simp [(upperHexDigit_cases (b.toNat % 16) (by omega)).2]

theorem isEncoded_encodeChar {c d : Char} (h : d ∈ encodeChar c) : isEncoded d = true := by
  unfold encodeChar at h
  split at h
  · next hc =>
    rw [List.mem_singleton.mp h]
    simp [isEncoded, hc]
  · split at h
    · rw [List.mem_singleton.mp h]
      rfl
    · obtain ⟨b, -, hb⟩ := List.mem_flatMap.mp h
      exact isEncoded_escapeOctet hb

/-- The characters of an encoded text are encoded ones. -/
theorem isEncoded_encodeText {text : List Char} {c : Char} (h : c ∈ encodeText text) :
    isEncoded c = true := by
  obtain ⟨d, -, hd⟩ := List.mem_flatMap.mp h
  exact isEncoded_encodeChar hd

/-! ## Pieces -/

theorem piecesFrom_skip (text : List Char) (rest : List Char) :
    piecesFrom text.length (text ++ rest) = piecesFrom 0 rest := by
  induction text with
  | nil => rfl
  | cons c text ih => exact ih

theorem piecesFrom_plain {c : Char} (h : c ≠ '%') (rest : List Char) :
    piecesFrom 0 (c :: rest) = .plain c :: piecesFrom 0 rest := by
  rw [piecesFrom]
  intro a b tail heq
  exact absurd heq h

/-- An escape is read as its octet. -/
theorem piecesFrom_escapeOctet (b : UInt8) (rest : List Char) :
    piecesFrom 0 (escapeOctet b ++ rest) = .octet b :: piecesFrom 0 rest := by
  have hb : b.toNat < 0x100 := b.toNat_lt
  have hvalue : b.toNat / 16 * 16 + b.toNat % 16 = b.toNat := by omega
  unfold escapeOctet
  simp only [List.cons_append, List.nil_append]
  rw [piecesFrom]
  simp only [(upperHexDigit_cases (b.toNat / 16) (by omega)).1,
    (upperHexDigit_cases (b.toNat % 16) (by omega)).1, hvalue, UInt8.ofNat_toNat]
  exact congrArg _ (piecesFrom_skip [_, _] rest)

theorem piecesFrom_escapes (octets : List UInt8) (rest : List Char) :
    piecesFrom 0 (octets.flatMap escapeOctet ++ rest) =
      octets.map .octet ++ piecesFrom 0 rest := by
  induction octets with
  | nil => rfl
  | cons b octets ih =>
    rw [List.flatMap_cons, List.append_assoc, piecesFrom_escapeOctet, ih]
    rfl

theorem readPlus_of_ne {c : Char} (h : c ≠ '+') : readPlus c = c := if_neg h

/-- No escape holds a plus, so that reading pluses as blanks leaves escapes alone. -/
theorem plus_not_mem_escapeOctet (b : UInt8) : '+' ∉ escapeOctet b := by
  have hb : b.toNat < 0x100 := b.toNat_lt
  have hdigit : ∀ value, value < 16 → '+' ≠ upperHexDigit value := by
    intro value hlt heq
    have hdigit := (upperHexDigit_cases value hlt).2
    rw [← heq] at hdigit
    cases hdigit
  unfold escapeOctet
  simp [hdigit (b.toNat / 16) (by omega), hdigit (b.toNat % 16) (by omega)]

theorem map_readPlus_escapes (octets : List UInt8) :
    (octets.flatMap escapeOctet).map readPlus = octets.flatMap escapeOctet := by
  have hsame : ∀ c ∈ octets.flatMap escapeOctet, readPlus c = c := by
    intro c hc
    obtain ⟨b, -, hb⟩ := List.mem_flatMap.mp hc
    exact readPlus_of_ne fun heq => plus_not_mem_escapeOctet b (heq ▸ hb)
  exact (List.map_congr_left hsame).trans (List.map_id' _)

/-! ## Texts -/

/-- The octets of a character are the pieces of its encoded form. -/
theorem piecesFrom_encodeChar (c : Char) (rest : List Char) :
    piecesFrom 0 ((encodeChar c).map readPlus ++ rest) =
      (Utf8.encodeChar c).map .octet ++ piecesFrom 0 rest := by
  unfold encodeChar
  by_cases hc : isUnreserved c = true
  · have hascii := isUnreserved_ascii hc
    have hplus : c ≠ '+' := by
      rintro rfl
      cases hc
    have hpercent : c ≠ '%' := by
      rintro rfl
      cases hc
    rw [if_pos hc, List.map_singleton, readPlus_of_ne hplus, Utf8.encodeChar_ascii hascii,
      List.cons_append, List.nil_append, piecesFrom_plain hpercent, Piece.plain, if_pos hascii]
    rfl
  by_cases hspace : c = ' '
  · subst hspace
    exact piecesFrom_plain (by decide) rest
  · rw [if_neg hc, if_neg hspace, map_readPlus_escapes, piecesFrom_escapes]

/-- An encoded text is read as its octets. -/
theorem piecesFrom_encodeText (text : List Char) :
    piecesFrom 0 ((encodeText text).map readPlus) = (Utf8.encode text).map .octet := by
  unfold encodeText Utf8.encode
  induction text with
  | nil => rfl
  | cons c text ih =>
    rw [List.flatMap_cons, List.map_append, piecesFrom_encodeChar, ih, ← List.map_append,
      List.flatMap_cons]

/-- Octets in a row are decoded together. -/
theorem assemble_octets (run octets : List UInt8) :
    assemble run (octets.map .octet) = Utf8.decodeLossy (run ++ octets) := by
  induction octets generalizing run with
  | nil => rw [List.append_nil]; rfl
  | cons b octets ih =>
    rw [List.map_cons, assemble, ih, List.append_assoc]
    rfl

theorem map_readPlus_encodeChar {c : Char} (h : '%' ∉ (encodeChar c).map readPlus) :
    (encodeChar c).map readPlus = [c] := by
  unfold encodeChar at h ⊢
  by_cases hc : isUnreserved c = true
  · rw [if_pos hc, List.map_singleton, readPlus_of_ne]
    rintro rfl
    cases hc
  by_cases hspace : c = ' '
  · subst hspace
    rfl
  · rw [if_neg hc, if_neg hspace, map_readPlus_escapes] at h
    obtain ⟨b, tail, heq, -⟩ := Utf8.readChar_encodeChar c []
    rw [heq] at h
    exact absurd List.mem_cons_self h

/-- A text without escapes is its own code. -/
theorem map_readPlus_encodeText {text : List Char}
    (h : '%' ∉ (encodeText text).map readPlus) : (encodeText text).map readPlus = text := by
  unfold encodeText at h ⊢
  induction text with
  | nil => rfl
  | cons c text ih =>
    rw [List.flatMap_cons, List.map_append] at h ⊢
    rw [map_readPlus_encodeChar fun hm => h (List.mem_append_left _ hm),
      ih fun hm => h (List.mem_append_right _ hm)]
    rfl

/-- What form encoding writes is read back. -/
theorem decodeText_encodeText (text : List Char) : decodeText (encodeText text) = text := by
  have hplus : decodeText (encodeText text) = unescape ((encodeText text).map readPlus) := rfl
  rw [hplus, unescape]
  split
  · rw [piecesFrom_encodeText, assemble_octets, List.nil_append, Utf8.decodeLossy_encode]
  · next hpercent =>
    refine map_readPlus_encodeText fun hm => hpercent ?_
    rwa [List.contains_iff_mem]

/-! ## Names and values -/

theorem encodePair_ne_nil (pair : Pair) : (encodePair pair).isEmpty = false := by
  unfold encodePair
  cases encodeText pair.1.toList <;> rfl

theorem encodePair_chars {pair : Pair} {c : Char} (h : c ∈ encodePair pair) :
    isEncoded c = true ∨ c = '=' := by
  unfold encodePair at h
  rcases List.mem_append.mp h with h | h
  · exact .inl (isEncoded_encodeText h)
  · rcases List.mem_cons.mp h with rfl | h
    · exact .inr rfl
    · exact .inl (isEncoded_encodeText h)

/-- A pair is read back as it was written. -/
theorem decodePair_encodePair (pair : Pair) : decodePair (encodePair pair) = pair := by
  have hname : ∀ c ∈ encodeText pair.1.toList, (c == '=') = false := by
    intro c hc
    simpa using not_isEncoded (d := '=') rfl (isEncoded_encodeText hc)
  unfold decodePair encodePair
  rw [cutAt_append _ hname (by rfl)]
  simp only [Option.getD_some, decodeText_encodeText, String.ofList_toList]

/-- All names and values that form encoding writes are read back, in their order. -/
theorem decode_encode (pairs : List Pair) : decode (encode pairs) = pairs := by
  unfold decode encode
  cases pairs with
  | nil => rfl
  | cons pair rest =>
    have hparts : ∀ part ∈ (pair :: rest).map encodePair, '&' ∉ part := by
      intro part hpart hmem
      obtain ⟨p, -, rfl⟩ := List.mem_map.mp hpart
      rcases encodePair_chars hmem with h | h
      · cases h
      · cases h
    have hne : (pair :: rest).map encodePair ≠ [] := List.cons_ne_nil _ _
    rw [pieces_join hne hparts, List.filter_map, List.map_map]
    have hkeep : (pair :: rest).filter ((fun piece => !piece.isEmpty) ∘ encodePair) =
        pair :: rest := by
      rw [List.filter_eq_self]
      intro p _
      simp [encodePair_ne_nil p]
    rw [hkeep]
    exact (List.map_congr_left fun p _ => decodePair_encodePair p).trans (List.map_id' _)

theorem encode_chars {pairs : List Pair} {c : Char} (h : c ∈ encode pairs) :
    isEncoded c = true ∨ c = '=' ∨ c = '&' := by
  unfold encode at h
  rcases mem_join h with rfl | ⟨part, hpart, hc⟩
  · exact .inr (.inr rfl)
  · obtain ⟨pair, -, rfl⟩ := List.mem_map.mp hpart
    exact (encodePair_chars hc).imp_right .inl

end BranchCompare.Form
