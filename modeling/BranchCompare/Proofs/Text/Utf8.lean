import BranchCompare.Text.Utf8

/-!
# Reading back what UTF-8 writes

The octets of a character are read as this character, whatever follows them (`readChar_encodeChar`).
The one case that needs care is the gap of the surrogates, which no character lies in: the decoder
refuses the octets that would fill it.  Both readers therefore give back every text
(`decodeFrom_encode`, `decodeLossy_encode`).

Nothing else is read as a character: the bounds on the second octet leave out the forms that are too
long, the gap and what lies beyond the last character (`completes_of_readChar`).  So octets are decoded
just if they are those of a text (`decodeFrom_eq_ok_iff`).
-/

namespace BranchCompare.Text.Utf8

theorem octet_toNat {value : Nat} (h : value < 0x100) : (octet value).toNat = value := by
  unfold octet
  rw [UInt8.toNat_ofNat']
  omega

/-- The code of a character lies in no surrogate. -/
theorem code_cases (c : Char) : c.toNat < 0xD800 ∨ 0xDFFF < c.toNat ∧ c.toNat < 0x110000 :=
  c.valid

theorem readTail_octet {value read low high owed bits : Nat} (rest : List UInt8)
    (hbits : bits < 0x40) (hlow : low ≤ 0x80 + bits) (hhigh : 0x80 + bits ≤ high) :
    readTail value read low high (owed + 1) (octet (0x80 + bits) :: rest) =
      readTail (value * 0x40 + bits) (read + 1) 0x80 0xBF owed rest := by
  have hnat : (octet (0x80 + bits)).toNat = 0x80 + bits := octet_toNat (by omega)
  have hin : continues low high (octet (0x80 + bits)) = true := by
    unfold continues
    rw [hnat]
    simp [hlow, hhigh]
  rw [readTail, if_pos hin, hnat, Nat.add_sub_cancel_left]

/-- The octets of a character are read as this character. -/
theorem readChar_encodeChar (c : Char) (rest : List UInt8) :
    ∃ b tail, encodeChar c = b :: tail ∧ readChar b (tail ++ rest) = .char c (tail.length + 1) := by
  have hvalid := code_cases c
  have hchar : Char.ofNat c.toNat = c := Char.ofNat_toNat c
  generalize hcode : c.toNat = code at hvalid hchar
  unfold encodeChar
  simp only [hcode]
  by_cases h1 : code < 0x80
  · refine ⟨_, _, if_pos h1, ?_⟩
    unfold readChar
    rw [octet_toNat (by omega), if_pos h1, hchar]
    rfl
  by_cases h2 : code < 0x800
  · refine ⟨_, _, by rw [if_neg h1, if_pos h2], ?_⟩
    have hvalue : code / 0x40 * 0x40 + code % 0x40 = code := by omega
    unfold readChar
    rw [octet_toNat (by omega)]
    simp only [List.cons_append, List.nil_append]
    rw [if_neg (by omega), if_neg (by omega), if_pos (by omega), Nat.add_sub_cancel_left,
      readTail_octet _ (by omega) (by omega) (by omega), hvalue, readTail, hchar]
    rfl
  by_cases h3 : code < 0x10000
  · refine ⟨_, _, by rw [if_neg h1, if_neg h2, if_pos h3], ?_⟩
    have hvalue : (code / 0x1000 * 0x40 + code / 0x40 % 0x40) * 0x40 + code % 0x40 = code := by
      omega
    have htail : ∀ low high, low ≤ 0x80 + code / 0x40 % 0x40 → 0x80 + code / 0x40 % 0x40 ≤ high →
        readTail (code / 0x1000) 1 low high 2
          (octet (0x80 + code / 0x40 % 0x40) :: octet (0x80 + code % 0x40) :: rest) = .char c 3 := by
      intro low high hlow hhigh
      rw [readTail_octet _ (by omega) hlow hhigh,
        readTail_octet _ (by omega) (by omega) (by omega), hvalue, readTail, hchar]
    unfold readChar
    rw [octet_toNat (by omega)]
    simp only [List.cons_append, List.nil_append]
    rw [if_neg (by omega), if_neg (by omega), if_neg (by omega)]
    by_cases hlow : code / 0x1000 = 0
    · rw [hlow] at htail ⊢
      rw [if_pos rfl]
      exact htail _ _ (by omega) (by omega)
    by_cases hgap : code / 0x1000 = 0xD
    · rw [hgap] at htail ⊢
      rw [if_neg (by omega), if_pos rfl]
      exact htail _ _ (by omega) (by omega)
    · rw [if_neg (by omega), if_neg (by omega), if_pos (by omega), Nat.add_sub_cancel_left]
      exact htail _ _ (by omega) (by omega)
  · refine ⟨_, _, by rw [if_neg h1, if_neg h2, if_neg h3], ?_⟩
    have hvalue : ((code / 0x40000 * 0x40 + code / 0x1000 % 0x40) * 0x40 + code / 0x40 % 0x40) *
        0x40 + code % 0x40 = code := by omega
    have htail : ∀ low high, low ≤ 0x80 + code / 0x1000 % 0x40 →
        0x80 + code / 0x1000 % 0x40 ≤ high →
        readTail (code / 0x40000) 1 low high 3
          (octet (0x80 + code / 0x1000 % 0x40) :: octet (0x80 + code / 0x40 % 0x40) ::
            octet (0x80 + code % 0x40) :: rest) = .char c 4 := by
      intro low high hlow hhigh
      rw [readTail_octet _ (by omega) hlow hhigh,
        readTail_octet _ (by omega) (by omega) (by omega),
        readTail_octet _ (by omega) (by omega) (by omega), hvalue, readTail, hchar]
    unfold readChar
    rw [octet_toNat (by omega)]
    simp only [List.cons_append, List.nil_append]
    rw [if_neg (by omega), if_neg (by omega), if_neg (by omega), if_neg (by omega),
      if_neg (by omega), if_neg (by omega)]
    by_cases hlow : code / 0x40000 = 0
    · rw [hlow] at htail ⊢
      rw [if_pos rfl]
      exact htail _ _ (by omega) (by omega)
    by_cases hmid : code / 0x40000 < 4
    · rw [if_neg (by omega), if_pos (by omega), Nat.add_sub_cancel_left]
      exact htail _ _ (by omega) (by omega)
    · have hlast : code / 0x40000 = 4 := by omega
      rw [hlast] at htail ⊢
      rw [if_neg (by omega), if_neg (by omega), if_pos rfl]
      exact htail _ _ (by omega) (by omega)

/-- An ASCII character is coded by itself. -/
theorem encodeChar_ascii {c : Char} (h : c.toNat < 0x80) : encodeChar c = [octet c.toNat] := by
  unfold encodeChar
  exact if_pos h

theorem lossyFrom_skip (tail rest : List UInt8) :
    lossyFrom tail.length (tail ++ rest) = lossyFrom 0 rest := by
  induction tail with
  | nil => rfl
  | cons b tail ih => exact ih

/-- What was encoded is decoded without loss. -/
theorem lossyFrom_encode (cs : List Char) : lossyFrom 0 (encode cs) = cs := by
  unfold encode
  induction cs with
  | nil => rfl
  | cons c cs ih =>
    obtain ⟨b, tail, heq, hread⟩ := readChar_encodeChar c (cs.flatMap encodeChar)
    rw [List.flatMap_cons, heq, List.cons_append, lossyFrom, hread]
    simp only [Nat.add_sub_cancel]
    rw [lossyFrom_skip, ih]

theorem decodeFrom_skip (position : Nat) (tail rest : List UInt8) :
    decodeFrom position tail.length (tail ++ rest) =
      decodeFrom (position + tail.length) 0 rest := by
  induction tail generalizing position with
  | nil => rfl
  | cons b tail ih =>
    rw [List.length_cons, List.cons_append, decodeFrom, ih]
    congr 1
    omega

/-- What was encoded can be decoded. -/
theorem decodeFrom_encode (position : Nat) (cs : List Char) :
    decodeFrom position 0 (encode cs) = .ok cs := by
  unfold encode
  induction cs generalizing position with
  | nil => rfl
  | cons c cs ih =>
    obtain ⟨b, tail, heq, hread⟩ := readChar_encodeChar c (cs.flatMap encodeChar)
    rw [List.flatMap_cons, heq, List.cons_append, decodeFrom, hread]
    simp only [Nat.add_sub_cancel]
    rw [decodeFrom_skip, ih]
    rfl

/-- What UTF-8 writes is read back. -/
theorem decodeLossy_encode (cs : List Char) : decodeLossy (encode cs) = cs := lossyFrom_encode cs

/-! ## The texts of octets -/

theorem octet_of_toNat (b : UInt8) : octet b.toNat = b := UInt8.ofNat_toNat

theorem toNat_ofNat (code : Nat) (h : code < 0xD800 ∨ 0xDFFF < code ∧ code < 0x110000) :
    (Char.ofNat code).toNat = code := by
  have hvalid : code.isValidChar := h
  unfold Char.ofNat
  rw [dif_pos hvalid]
  exact UInt32.toNat_ofNatLT ..

/-- A tail that leads to a character begins with an octet in range. -/
theorem readTail_step {value read low high owed width : Nat} {octets : List UInt8} {c : Char}
    (hlow : 0x80 ≤ low) (hhigh : high ≤ 0xBF)
    (h : readTail value read low high (owed + 1) octets = .char c width) :
    ∃ bits rest, octets = octet (0x80 + bits) :: rest ∧ bits < 0x40 ∧ low ≤ 0x80 + bits ∧
      0x80 + bits ≤ high ∧
      readTail (value * 0x40 + bits) (read + 1) 0x80 0xBF owed rest = .char c width := by
  cases octets with
  | nil => cases h
  | cons b rest =>
    rw [readTail] at h
    split at h
    · next hin =>
      unfold continues at hin
      simp only [Bool.and_eq_true, decide_eq_true_eq] at hin
      have hb : 0x80 + (b.toNat - 0x80) = b.toNat := by omega
      refine ⟨b.toNat - 0x80, rest, ?_, by omega, by omega, by omega, h⟩
      rw [hb, octet_of_toNat]
    · cases h

/-- A character is complete when no octet is owed. -/
theorem readTail_done {value read low high width : Nat} {octets : List UInt8} {c : Char}
    (h : readTail value read low high 0 octets = .char c width) :
    c = Char.ofNat value ∧ width = read := by
  rw [readTail] at h
  cases h
  exact ⟨rfl, rfl⟩

/-- Characters of two octets, by their bits. -/
theorem encodeChar_two {high low : Nat} (hlead : 2 ≤ high) (hhigh : high < 0x20)
    (hlow : low < 0x40) :
    encodeChar (Char.ofNat (high * 0x40 + low)) = [octet (0xC0 + high), octet (0x80 + low)] := by
  have hcode := toNat_ofNat (high * 0x40 + low) (by omega)
  have h1 : (high * 0x40 + low) / 0x40 = high := by omega
  have h2 : (high * 0x40 + low) % 0x40 = low := by omega
  unfold encodeChar
  simp only [hcode]
  rw [if_neg (by omega), if_pos (by omega), h1, h2]

/-- Characters of three octets, by their bits. -/
theorem encodeChar_three {high mid low : Nat} (hhigh : high < 0x10) (hmid : mid < 0x40)
    (hlow : low < 0x40) (hshort : high = 0 → 0x20 ≤ mid) (hgap : high = 0xD → mid < 0x20) :
    encodeChar (Char.ofNat ((high * 0x40 + mid) * 0x40 + low)) =
      [octet (0xE0 + high), octet (0x80 + mid), octet (0x80 + low)] := by
  have hcode := toNat_ofNat ((high * 0x40 + mid) * 0x40 + low) (by omega)
  have h1 : ((high * 0x40 + mid) * 0x40 + low) / 0x1000 = high := by omega
  have h2 : ((high * 0x40 + mid) * 0x40 + low) / 0x40 % 0x40 = mid := by omega
  have h3 : ((high * 0x40 + mid) * 0x40 + low) % 0x40 = low := by omega
  unfold encodeChar
  simp only [hcode]
  rw [if_neg (by omega), if_neg (by omega), if_pos (by omega), h1, h2, h3]

/-- Characters of four octets, by their bits. -/
theorem encodeChar_four {high mid third low : Nat} (hhigh : high ≤ 4) (hmid : mid < 0x40)
    (hthird : third < 0x40) (hlow : low < 0x40) (hshort : high = 0 → 0x10 ≤ mid)
    (hlast : high = 4 → mid < 0x10) :
    encodeChar (Char.ofNat (((high * 0x40 + mid) * 0x40 + third) * 0x40 + low)) =
      [octet (0xF0 + high), octet (0x80 + mid), octet (0x80 + third), octet (0x80 + low)] := by
  have hcode := toNat_ofNat (((high * 0x40 + mid) * 0x40 + third) * 0x40 + low) (by omega)
  have h1 : (((high * 0x40 + mid) * 0x40 + third) * 0x40 + low) / 0x40000 = high := by omega
  have h2 : (((high * 0x40 + mid) * 0x40 + third) * 0x40 + low) / 0x1000 % 0x40 = mid := by omega
  have h3 : (((high * 0x40 + mid) * 0x40 + third) * 0x40 + low) / 0x40 % 0x40 = third := by omega
  have h4 : (((high * 0x40 + mid) * 0x40 + third) * 0x40 + low) % 0x40 = low := by omega
  unfold encodeChar
  simp only [hcode]
  rw [if_neg (by omega), if_neg (by omega), if_neg (by omega), h1, h2, h3, h4]

/-- The octets begin with what follows the octet `first` in the octets of a character, which are as
many as the width says. -/
def Completes (first : Nat) (c : Char) (width : Nat) (octets : List UInt8) : Prop :=
  ∃ tail rest, octets = tail ++ rest ∧ width = tail.length + 1 ∧ encodeChar c = octet first :: tail

variable {octets : List UInt8} {c : Char} {width : Nat}

/-- A lead of two octets is completed by the octets of its character. -/
theorem completes_two {high : Nat} (hlead : 2 ≤ high) (hhigh : high < 0x20)
    (h : readTail high 1 0x80 0xBF 1 octets = .char c width) :
    Completes (0xC0 + high) c width octets := by
  obtain ⟨low, rest, rfl, hlow, -, -, h⟩ := readTail_step (by omega) (by omega) h
  obtain ⟨rfl, rfl⟩ := readTail_done h
  exact ⟨[_], rest, rfl, rfl, encodeChar_two hlead hhigh hlow⟩

theorem completes_three (high : Nat) {least most : Nat} (hleast : 0x80 ≤ least) (hmost : most ≤ 0xBF)
    (hhigh : high < 0x10) (hshort : high = 0 → 0xA0 ≤ least) (hgap : high = 0xD → most ≤ 0x9F)
    (h : readTail high 1 least most 2 octets = .char c width) :
    Completes (0xE0 + high) c width octets := by
  obtain ⟨mid, rest, rfl, hmid, hfrom, hto, h⟩ := readTail_step hleast hmost h
  obtain ⟨low, rest, rfl, hlow, -, -, h⟩ := readTail_step (by omega) (by omega) h
  obtain ⟨rfl, rfl⟩ := readTail_done h
  exact ⟨[_, _], rest, rfl, rfl, encodeChar_three hhigh hmid hlow (by omega) (by omega)⟩

theorem completes_four (high : Nat) {least most : Nat} (hleast : 0x80 ≤ least) (hmost : most ≤ 0xBF)
    (hhigh : high ≤ 4) (hshort : high = 0 → 0x90 ≤ least) (hlast : high = 4 → most ≤ 0x8F)
    (h : readTail high 1 least most 3 octets = .char c width) :
    Completes (0xF0 + high) c width octets := by
  obtain ⟨mid, rest, rfl, hmid, hfrom, hto, h⟩ := readTail_step hleast hmost h
  obtain ⟨third, rest, rfl, hthird, -, -, h⟩ := readTail_step (by omega) (by omega) h
  obtain ⟨low, rest, rfl, hlow, -, -, h⟩ := readTail_step (by omega) (by omega) h
  obtain ⟨rfl, rfl⟩ := readTail_done h
  exact ⟨[_, _, _], rest, rfl, rfl,
    encodeChar_four hhigh hmid hthird hlow (by omega) (by omega)⟩

/-- The octets that are read as a character are the octets of this character. -/
theorem completes_of_readChar {b : UInt8} (h : readChar b octets = .char c width) :
    Completes b.toNat c width octets := by
  have hsplit : ∀ base, base ≤ b.toNat → base + (b.toNat - base) = b.toNat := fun base hbase => by
    omega
  unfold readChar at h
  simp only at h
  split at h
  · next hascii =>
    cases h
    have hcode := toNat_ofNat b.toNat (by omega)
    refine ⟨[], octets, rfl, rfl, ?_⟩
    rw [encodeChar_ascii (by omega), hcode]
  split at h
  · cases h
  split at h
  · rw [← hsplit 0xC0 (by omega)]
    exact completes_two (by omega) (by omega) h
  split at h
  · next hfirst =>
    rw [hfirst]
    exact completes_three 0 (by omega) (by omega) (by omega) (by omega) (by omega) h
  split at h
  · next hfirst =>
    rw [hfirst]
    exact completes_three 0xD (by omega) (by omega) (by omega) (by omega) (by omega) h
  split at h
  · rw [← hsplit 0xE0 (by omega)]
    exact completes_three _ (by omega) (by omega) (by omega) (by omega) (by omega) h
  split at h
  · next hfirst =>
    rw [hfirst]
    exact completes_four 0 (by omega) (by omega) (by omega) (by omega) (by omega) h
  split at h
  · rw [← hsplit 0xF0 (by omega)]
    exact completes_four _ (by omega) (by omega) (by omega) (by omega) (by omega) h
  split at h
  · next hfirst =>
    rw [hfirst]
    exact completes_four 4 (by omega) (by omega) (by omega) (by omega) (by omega) h
  · cases h

/-- What is decoded is the text of the octets that are not skipped. -/
theorem encode_of_decodeFrom {position skip : Nat} {octets : List UInt8} {cs : List Char}
    (h : decodeFrom position skip octets = .ok cs) : encode cs = octets.drop skip := by
  induction octets generalizing position skip cs with
  | nil =>
    cases skip <;> cases h <;> rfl
  | cons b octets ih =>
    cases skip with
    | succ skip => exact ih h
    | zero =>
      rw [decodeFrom] at h
      split at h
      · next c width hread =>
        obtain ⟨tail, rest, rfl, rfl, hchar⟩ := completes_of_readChar hread
        rw [Nat.add_sub_cancel] at h
        cases hrest : decodeFrom (position + 1) tail.length (tail ++ rest) with
        | error fault =>
          rw [hrest] at h
          cases h
        | ok later =>
          rw [hrest] at h
          cases h
          have hlater : encode later = rest := (ih hrest).trans List.drop_left
          show encodeChar c ++ encode later = _
          rw [hlater, hchar, octet_of_toNat]
          rfl
      · cases h

/-- Octets are decoded as a text just if they are the octets of this text. -/
theorem decodeFrom_eq_ok_iff {position : Nat} {octets : List UInt8} {cs : List Char} :
    decodeFrom position 0 octets = .ok cs ↔ encode cs = octets :=
  ⟨encode_of_decodeFrom, fun h => h ▸ decodeFrom_encode position cs⟩

end BranchCompare.Text.Utf8
