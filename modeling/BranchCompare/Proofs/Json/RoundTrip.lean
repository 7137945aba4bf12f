import BranchCompare.Json.Reader
import BranchCompare.Json.Writer
import BranchCompare.Proofs.Text.Utf8

/-!
# Reading back what the JSON writer writes

The reader takes each written character for the character it was made from, whatever stands behind
it (`readChars_writeChar`).  Four hexadecimal digits hold any code unit, and since no character lies
among the surrogates, an escape is joined with the next one exactly when both were written for one
character.  Texts follow by induction (`readText_writeText`), and from them objects whose fields are
texts (`read_writeIndented`): they come back with their fields in order, because the names differ.
-/

namespace BranchCompare.Text

theorem hex_succ {width : Nat} (hwidth : 0 < width) (value : Nat) :
    hex (width + 1) value = hex width (value / 16) ++ [(value % 16).digitChar] := by
  unfold hex
  by_cases hsmall : value < 16
  · have hzero : value / 16 = 0 := by omega
    have hmod : value % 16 = value := by omega
    obtain ⟨more, rfl⟩ : ∃ more, width = more + 1 := ⟨width - 1, by omega⟩
    rw [hzero, hmod, Nat.toDigits_of_lt_base hsmall, Nat.toDigits_of_lt_base (by decide)]
    simp [List.replicate_succ', Nat.digitChar]
  · rw [Nat.toDigits_of_base_le (by decide) (by omega)]
    simp [Nat.add_sub_add_right]

theorem hex_one {value : Nat} (h : value < 16) : hex 1 value = [value.digitChar] := by
  unfold hex
  rw [Nat.toDigits_of_lt_base h]
  rfl

/-- Four digits for a number of sixteen bits. -/
theorem hex_four {value : Nat} (h : value < 0x10000) :
    hex 4 value = [(value / 0x1000).digitChar, (value / 0x100 % 16).digitChar,
      (value / 0x10 % 16).digitChar, (value % 16).digitChar] := by
  have hthird : value / 16 / 16 = value / 0x100 := by omega
  have hfourth : value / 0x100 / 16 = value / 0x1000 := by omega
  rw [hex_succ (by decide), hex_succ (by decide), hex_succ (by decide), hthird, hfourth,
    hex_one (by omega)]
  rfl

theorem charOrReplacement_toNat (c : Char) : charOrReplacement c.toNat = c := by
  have hvalid : c.toNat.isValidChar := c.valid
  unfold charOrReplacement
  rw [dif_pos hvalid]
  rfl

end BranchCompare.Text

namespace BranchCompare.Json

open BranchCompare.Text

/-! ## Code units -/

/-- A hexadecimal digit is read as its value. -/
theorem hexDigit?_digitChar {value : Nat} (h : value < 16) :
    hexDigit? value.digitChar = some value := by
  have hall : ∀ v ∈ List.range 16, hexDigit? v.digitChar = some v := by decide
  exact hall value (List.mem_range.mpr h)

/-- A unit is written as an escape that is read as the unit. -/
theorem writeUnit_eq {unit : Nat} (h : unit < 0x10000) :
    ∃ a b c d, writeUnit unit = ['\\', 'u', a, b, c, d] ∧ hexUnit? a b c d = some unit := by
  have hvalue : ((unit / 0x1000 * 16 + unit / 0x100 % 16) * 16 + unit / 0x10 % 16) * 16 +
      unit % 16 = unit := by omega
  refine ⟨_, _, _, _, congrArg ('\\' :: 'u' :: ·) (hex_four h), ?_⟩
  unfold hexUnit?
  rw [hexDigit?_digitChar (by omega), hexDigit?_digitChar (by omega),
    hexDigit?_digitChar (by omega), hexDigit?_digitChar (by omega)]
  exact congrArg some hvalue

/-! ## Characters -/

theorem readChars_skip (quote text rest : List Char) :
    readChars quote text.length (text ++ rest) = readChars quote 0 rest := by
  induction text with
  | nil => rfl
  | cons c text ih => exact ih

/-- An escape stands for the character that is read from it. -/
theorem readChars_escape {quote escape : List Char} {c e : Char} {rest : List Char}
    (hread : readEscape quote (escape ++ e :: rest) = .ok (c, escape.length)) :
    readChars quote 0 ('\\' :: (escape ++ e :: rest)) =
      (readChars quote 0 (e :: rest)).map fun (chars, rest) => (c :: chars, rest) := by
  rw [readChars, if_neg (by decide), if_pos rfl, hread]
  simp only
  rw [readChars_skip]

/-- The escape of a character that takes one code unit. -/
theorem readChars_unit {c : Char} (h : c.toNat < 0x10000) (quote : List Char) (e : Char)
    (rest : List Char) :
    readChars quote 0 (writeUnit c.toNat ++ e :: rest) =
      (readChars quote 0 (e :: rest)).map fun (chars, rest) => (c :: chars, rest) := by
  obtain ⟨a₁, a₂, a₃, a₄, hwrite, hunit⟩ := writeUnit_eq h
  have hplain : ¬ (0xD800 ≤ c.toNat ∧ c.toNat < 0xDC00) := by
    have := Utf8.code_cases c
    omega
  have hread : readEscape quote (['u', a₁, a₂, a₃, a₄] ++ e :: rest) = .ok (c, 5) := by
    show readCodeEscape ('u' :: a₁ :: a₂ :: a₃ :: a₄ :: e :: rest) = _
    unfold readCodeEscape
    simp only [hunit]
    rw [if_neg hplain, charOrReplacement_toNat]
  rw [hwrite]
  exact readChars_escape hread

/-- The escapes of a character that takes a surrogate pair. -/
theorem readChars_pair {c : Char} (h : 0x10000 ≤ c.toNat) (quote : List Char) (e : Char)
    (rest : List Char) :
    readChars quote 0 (writeUnit (0xD800 + (c.toNat - 0x10000) / 0x400) ++
        writeUnit (0xDC00 + (c.toNat - 0x10000) % 0x400) ++ e :: rest) =
      (readChars quote 0 (e :: rest)).map fun (chars, rest) => (c :: chars, rest) := by
  have hlast := Utf8.code_cases c
  have hhighSize : 0xD800 + (c.toNat - 0x10000) / 0x400 < 0x10000 := by omega
  have hlowSize : 0xDC00 + (c.toNat - 0x10000) % 0x400 < 0x10000 := by omega
  obtain ⟨a₁, a₂, a₃, a₄, hhigh, hhighUnit⟩ := writeUnit_eq hhighSize
  obtain ⟨b₁, b₂, b₃, b₄, hlow, hlowUnit⟩ := writeUnit_eq hlowSize
  have hcode : 0x10000 + (0xD800 + (c.toNat - 0x10000) / 0x400 - 0xD800) * 0x400 +
      (0xDC00 + (c.toNat - 0x10000) % 0x400 - 0xDC00) = c.toNat := by omega
  have hjoin : readLowHalf (0xD800 + (c.toNat - 0x10000) / 0x400)
      ('\\' :: 'u' :: b₁ :: b₂ :: b₃ :: b₄ :: e :: rest) = .ok (c, 6) := by
    unfold readLowHalf
    simp only [hlowUnit]
    rw [if_pos (by omega), hcode, charOrReplacement_toNat]
  have hread : readEscape quote
      (['u', a₁, a₂, a₃, a₄, '\\', 'u', b₁, b₂, b₃, b₄] ++ e :: rest) = .ok (c, 11) := by
    show readCodeEscape ('u' :: a₁ :: a₂ :: a₃ :: a₄ :: '\\' :: 'u' :: b₁ :: b₂ :: b₃ :: b₄ :: e ::
      rest) = _
    unfold readCodeEscape
    simp only [hhighUnit]
    rw [if_pos (by omega), hjoin]
    rfl
  rw [hhigh, hlow]
  exact readChars_escape hread

/-- A written character is read as this character, if anything stands behind it. -/
theorem readChars_writeChar (quote : List Char) (c e : Char) (rest : List Char) :
    readChars quote 0 (writeChar c ++ e :: rest) =
      (readChars quote 0 (e :: rest)).map fun (chars, rest) => (c :: chars, rest) := by
  unfold writeChar
  split
  · next h => subst h; exact readChars_escape rfl
  split
  · next h => subst h; exact readChars_escape rfl
  split
  · next h => subst h; exact readChars_escape rfl
  split
  · next h => subst h; exact readChars_escape rfl
  split
  · next h => subst h; exact readChars_escape rfl
  split
  · next h => subst h; exact readChars_escape rfl
  split
  · next h => subst h; exact readChars_escape rfl
  split
  · next hquote hbackslash _ _ _ _ _ hplain =>
    show readChars quote 0 (c :: e :: rest) = _
    rw [readChars, if_neg hquote, if_neg hbackslash, if_neg (by omega)]
  split
  · next hunit => exact readChars_unit hunit quote e rest
  · next hunit => exact readChars_pair (Nat.le_of_not_lt hunit) quote e rest

/-! ## Texts -/

/-- Characters that were written are read up to the closing quote. -/
theorem readChars_writeChars (quote chars rest : List Char) :
    readChars quote 0 (chars.flatMap writeChar ++ '"' :: rest) = .ok (chars, rest) := by
  induction chars with
  | nil => rfl
  | cons c chars ih =>
    -- something follows each character: the next one or the closing quote
    obtain ⟨e, more, hmore⟩ : ∃ e more, chars.flatMap writeChar ++ '"' :: rest = e :: more := by
      cases chars.flatMap writeChar with
      | nil => exact ⟨_, _, rfl⟩
      | cons e more => exact ⟨_, _, rfl⟩
    rw [List.flatMap_cons, List.append_assoc, hmore, readChars_writeChar, ← hmore, ih]
    rfl

/-- A written text is read as the text. -/
theorem readText_writeText (text : String) (rest : List Char) :
    readText (writeText text ++ rest) = .ok (text, rest) := by
  unfold readText writeText
  simp only [List.cons_append, List.append_assoc, List.nil_append, List.drop_succ_cons,
    List.drop_zero]
  rw [readChars_writeChars]
  simp [Except.map]

theorem readValue_writeText (fuel : Nat) (text : String) (rest : List Char) :
    readValue (fuel + 1) (writeText text ++ rest) = .ok (.text text, rest) := by
  obtain ⟨body, hbody⟩ : ∃ body, writeText text ++ rest = '"' :: body := ⟨_, rfl⟩
  have hread := readText_writeText text rest
  rw [hbody] at hread ⊢
  rw [readValue, hread]
  rfl

/-! ## Objects -/

/-- A new line and the blanks after it are skipped. -/
theorem skipGap_newLine {c : Char} (hc : isGap c = false) (depth : Nat) (rest : List Char) :
    skipGap (newLine depth ++ c :: rest) = c :: rest := by
  have hspaces : ∀ count : Nat,
      (List.replicate count ' ' ++ c :: rest).dropWhile isGap = c :: rest := by
    intro count
    induction count with
    | zero => simp [hc]
    | succ count ih =>
      rw [List.replicate_succ, List.cons_append, List.dropWhile_cons_of_pos (by decide), ih]
  unfold skipGap newLine
  rw [List.cons_append, List.dropWhile_cons_of_pos (by decide), hspaces]

def textFields (entries : List (String × String)) : List (String × Json) :=
  entries.map fun entry => (entry.1, .text entry.2)

theorem keys_textFields (entries : List (String × String)) :
    OrderedMap.keys (textFields entries) = OrderedMap.keys entries := by
  simp [OrderedMap.keys, textFields]

/-- A written field is read, and then the brace that closes the object or the next field. -/
theorem readFields_field (fuel : Nat) (fields : List (String × Json)) (name value : String)
    (behind : List Char) :
    let written := writeText name ++ ':' :: ' ' :: (writeText value ++ behind)
    let read := OrderedMap.put name (.text value) fields
    (∀ rest, skipGap behind = '\x7d' :: rest →
      readFields (fuel + 2) fields written = .ok (read, rest)) ∧
    (∀ rest, skipGap behind = ',' :: rest →
      readFields (fuel + 2) fields written = readFields (fuel + 1) read (skipGap rest)) := by
  intro written read
  obtain ⟨body, hbody⟩ : ∃ body, written = '"' :: body := ⟨_, rfl⟩
  have hname : readText written = .ok (name, ':' :: ' ' :: (writeText value ++ behind)) :=
    readText_writeText name _
  have hcolon : skipGap (':' :: ' ' :: (writeText value ++ behind)) =
      ':' :: ' ' :: (writeText value ++ behind) := rfl
  have hvalue : skipGap (' ' :: (writeText value ++ behind)) = writeText value ++ behind := rfl
  rw [hbody] at hname ⊢
  constructor <;> intro rest hbehind
  · rw [readFields, hname]
    simp only [hcolon, hvalue, readValue_writeText, hbehind, read]
  · rw [readFields, hname]
    simp only [hcolon, hvalue, readValue_writeText, hbehind, read]

theorem name_not_mem {name : String} {value : Json} {fields more : List (String × Json)}
    (hnodup : (OrderedMap.keys (fields ++ (name, value) :: more)).Nodup) :
    name ∉ OrderedMap.keys fields := by
  intro hmem
  rw [OrderedMap.keys, List.map_append, List.nodup_append] at hnodup
  exact hnodup.2.2 _ hmem _ List.mem_cons_self rfl

/-- The written fields of an object, from the first on, and its closing brace. -/
theorem readFields_write (depth outer : Nat) (rest : List Char) (name value : String)
    (more : List (String × String)) (fields : List (String × Json)) (fuel : Nat)
    (hfuel : more.length + 2 ≤ fuel)
    (hnodup : (OrderedMap.keys (fields ++ textFields ((name, value) :: more))).Nodup) :
    readFields fuel fields (writeText name ++ ':' :: ' ' :: (writeText value ++
      (writeMoreFields depth (textFields more) ++ (newLine outer ++ '\x7d' :: rest)))) =
      .ok (fields ++ textFields ((name, value) :: more), rest) := by
  induction more generalizing name value fields fuel with
  | nil =>
    obtain ⟨less, rfl⟩ : ∃ less, fuel = less + 2 := ⟨fuel - 2, by simp at hfuel; omega⟩
    have hread := (readFields_field less fields name value (newLine outer ++ '\x7d' :: rest)).1 rest
      (skipGap_newLine rfl outer rest)
    rw [OrderedMap.put_of_not_mem (name_not_mem hnodup)] at hread
    exact hread
  | cons entry more ih =>
    obtain ⟨less, rfl⟩ : ∃ less, fuel = less + 2 := ⟨fuel - 2, by simp at hfuel; omega⟩
    have hwrite : writeMoreFields depth (textFields (entry :: more)) ++
        (newLine outer ++ '\x7d' :: rest) = ',' :: (newLine depth ++ (writeText entry.1 ++
          ':' :: ' ' :: (writeText entry.2 ++ (writeMoreFields depth (textFields more) ++
            (newLine outer ++ '\x7d' :: rest))))) := by
      simp [textFields, writeMoreFields, writeIndented, List.append_assoc]
    have hcomma : ∀ behind, skipGap (',' :: behind) = ',' :: behind := fun _ => rfl
    have hgap : ∀ behind, skipGap (newLine depth ++ (writeText entry.1 ++ behind)) =
        writeText entry.1 ++ behind := fun _ => skipGap_newLine rfl depth _
    have happend : fields ++ textFields ((name, value) :: entry :: more) =
        (fields ++ [(name, .text value)]) ++ textFields (entry :: more) := by
      simp [textFields]
    rw [hwrite, (readFields_field less fields name value _).2 _ (hcomma _),
      OrderedMap.put_of_not_mem (name_not_mem hnodup), hgap]
    rw [happend] at hnodup ⊢
    exact ih entry.1 entry.2 _ (less + 1) (by simp at hfuel; omega) hnodup

/-- Each field takes at least one character. -/
theorem length_writeMoreFields (depth : Nat) (fields : List (String × Json)) :
    fields.length ≤ (writeMoreFields depth fields).length := by
  induction fields with
  | nil => exact Nat.zero_le _
  | cons field fields ih =>
    simp only [writeMoreFields, List.length_append, List.length_cons]
    omega

theorem writeIndented_cons (name value : String) (more : List (String × String)) :
    (Json.object (textFields ((name, value) :: more))).writeIndented 0 =
      '\x7b' :: (newLine 1 ++ (writeText name ++ ':' :: ' ' :: (writeText value ++
        (writeMoreFields 1 (textFields more) ++ (newLine 0 ++ ['\x7d']))))) := by
  simp [textFields, writeIndented, List.append_assoc]

/-- An object is read from its first field on. -/
theorem readValue_open (fuel depth : Nat) (name : String) (behind : List Char) :
    readValue (fuel + 1) ('\x7b' :: (newLine depth ++ (writeText name ++ behind))) =
      (readFields fuel [] (writeText name ++ behind)).map
        fun (fields, rest) => (.object fields, rest) := by
  obtain ⟨body, hbody⟩ : ∃ body, writeText name ++ behind = '"' :: body := ⟨_, rfl⟩
  rw [readValue, hbody, skipGap_newLine rfl]
  rfl

/-- What is written for an object of texts is read as the object, if its names differ. -/
theorem readWhole_writeIndented {entries : List (String × String)}
    (hnodup : (OrderedMap.keys entries).Nodup) :
    readWhole ((Json.object (textFields entries)).writeIndented 0) =
      .ok (.object (textFields entries)) := by
  cases entries with
  | nil => rfl
  | cons entry more =>
    obtain ⟨name, value⟩ := entry
    have hopen : ∀ behind, skipGap ('\x7b' :: behind) = '\x7b' :: behind := fun _ => rfl
    have hlength := length_writeMoreFields 1 (textFields more)
    have hcount : (textFields more).length = more.length := List.length_map _
    rw [writeIndented_cons]
    unfold readWhole
    rw [hopen, readValue_open, readFields_write 1 0 [] name value more []]
    · rfl
    · simp only [List.length_cons, List.length_append]
      omega
    · rw [List.nil_append, keys_textFields]
      exact hnodup

theorem read_writeIndented {entries : List (String × String)}
    (hnodup : (OrderedMap.keys entries).Nodup) :
    read ((Json.object (textFields entries)).writeIndented 0) =
      .ok (.object (textFields entries)) := by
  have hwhole := readWhole_writeIndented hnodup
  -- a brace stands in front, so there is no byte order mark
  obtain ⟨body, hbody⟩ : ∃ body, (Json.object (textFields entries)).writeIndented 0 =
      '\x7b' :: body := by
    cases entries with
    | nil => exact ⟨_, rfl⟩
    | cons entry more => exact ⟨_, writeIndented_cons entry.1 entry.2 more⟩
  unfold read
  rw [hbody] at hwhole ⊢
  simp only [hwhole]
  rfl

/-! ## The characters of what is written -/

/-- A character that may stand in a written text: a line feed, or one that is no control
character. -/
def isShown (c : Char) : Bool := c == '\n' || 0x20 ≤ c.toNat

theorem isShown_writeUnit {unit : Nat} (h : unit < 0x10000) :
    ∀ c ∈ writeUnit unit, isShown c = true := by
  have hdigit : ∀ v ∈ List.range 16, isShown v.digitChar = true := by decide
  have hdigit : ∀ v, v < 16 → isShown v.digitChar = true := fun v hv =>
    hdigit v (List.mem_range.mpr hv)
  intro c hc
  unfold writeUnit at hc
  rw [hex_four h] at hc
  simp only [List.mem_cons, List.not_mem_nil, or_false] at hc
  rcases hc with rfl | rfl | rfl | rfl | rfl | rfl
  · rfl
  · rfl
  all_goals exact hdigit _ (by omega)

/-- No control character is written: it is escaped. -/
theorem isShown_writeChar (d : Char) : ∀ c ∈ writeChar d, isShown c = true := by
  have hmarks : ['"', '\\', 'n', 'r', 't', 'b', 'f'].all isShown = true := by decide
  have hescape : ∀ e ∈ ['"', '\\', 'n', 'r', 't', 'b', 'f'], ∀ c ∈ ['\\', e], isShown c = true := by
    intro e he
    rw [List.forall_mem_cons, List.forall_mem_singleton]
    exact ⟨rfl, List.all_eq_true.mp hmarks e he⟩
  have hlast := Utf8.code_cases d
  unfold writeChar
  split
  · exact hescape _ (by decide)
  split
  · exact hescape _ (by decide)
  split
  · exact hescape _ (by decide)
  split
  · exact hescape _ (by decide)
  split
  · exact hescape _ (by decide)
  split
  · exact hescape _ (by decide)
  split
  · exact hescape _ (by decide)
  split
  · next hplain =>
    intro c hc
    rw [List.mem_singleton.mp hc]
    simp [isShown, hplain.1]
  split
  · next hunit => exact isShown_writeUnit hunit
  · intro c hc
    rcases List.mem_append.mp hc with hc | hc
    · exact isShown_writeUnit (by omega) c hc
    · exact isShown_writeUnit (by omega) c hc

theorem isShown_writeText (text : String) : ∀ c ∈ writeText text, isShown c = true := by
  intro c hc
  simp only [writeText, List.cons_append, List.mem_cons, List.mem_append, List.not_mem_nil,
    or_false, List.mem_flatMap] at hc
  rcases hc with rfl | ⟨d, -, hd⟩ | rfl
  · rfl
  · exact isShown_writeChar d c hd
  · rfl

theorem isShown_newLine (depth : Nat) : ∀ c ∈ newLine depth, isShown c = true := by
  intro c hc
  rcases List.mem_cons.mp hc with rfl | hc
  · rfl
  · rw [List.eq_of_mem_replicate hc]
    rfl

theorem isShown_writeMoreFields (depth : Nat) (entries : List (String × String)) :
    ∀ c ∈ writeMoreFields depth (textFields entries), isShown c = true := by
  induction entries with
  | nil => exact nofun
  | cons entry entries ih =>
    intro c hc
    simp only [textFields, List.map_cons, writeMoreFields, writeIndented, List.cons_append,
      List.mem_cons, List.mem_append] at hc
    rcases hc with rfl | ((hc | hc) | rfl | rfl | hc) | hc
    · rfl
    · exact isShown_newLine depth c hc
    · exact isShown_writeText _ c hc
    · rfl
    · rfl
    · exact isShown_writeText _ c hc
    · exact ih c hc

/-- Apart from line breaks a written object holds shown characters only. -/
theorem isShown_writeIndented (entries : List (String × String)) :
    ∀ c ∈ (Json.object (textFields entries)).writeIndented 0, isShown c = true := by
  cases entries with
  | nil => exact List.all_eq_true.mp (by decide)
  | cons entry more =>
    intro c hc
    rw [writeIndented_cons] at hc
    simp only [List.mem_cons, List.mem_append, List.not_mem_nil, or_false] at hc
    rcases hc with rfl | hc | hc | rfl | rfl | hc | hc | hc | rfl
    · rfl
    · exact isShown_newLine 1 c hc
    · exact isShown_writeText _ c hc
    · rfl
    · rfl
    · exact isShown_writeText _ c hc
    · exact isShown_writeMoreFields 1 more c hc
    · exact isShown_newLine 0 c hc
    · rfl

end BranchCompare.Json
