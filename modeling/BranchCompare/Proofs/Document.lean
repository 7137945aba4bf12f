import BranchCompare.Document
import BranchCompare.Proofs.Json.RoundTrip

/-!
# Reading documents as JSON

A file is read in steps: its octets are decoded, the ends of its lines made the same, and the text is
read as JSON.  A text without control characters goes through the first two steps as it was written
(`textOf_encode`).

Two kinds of files are given up before it is known whether they hold JSON (`Unreadable`): those whose
octets are no text in UTF-8, and those with a whole number that has more digits than are converted.
Every other document holds a JSON value or none (`json?`).
-/

namespace BranchCompare.Document

/-- A text without control characters has no line breaks to unify. -/
theorem unifyLines_of_shown {text : List Char} (h : ∀ c ∈ text, Json.isShown c = true) :
    unifyLines text = text := by
  induction text with
  | nil => rfl
  | cons c rest ih =>
    have hc : c ≠ '\r' := by
      rintro rfl
      cases h '\r' List.mem_cons_self
    rw [unifyLines, if_neg hc, ih fun d hd => h d (List.mem_cons_of_mem c hd)]
    rintro more heq
    exact absurd heq hc

/-- A text without control characters is read as it was written. -/
theorem textOf_encode {text : List Char} (h : ∀ c ∈ text, Json.isShown c = true) :
    textOf (Text.Utf8.encode text) = .ok text := by
  unfold textOf Text.Encoding.decode
  simp only [Text.Utf8.decodeFrom_encode]
  exact congrArg Except.ok (unifyLines_of_shown h)

def json? : Document → Option Json
  | .file octets => (textOf octets).toOption.bind fun text => (Json.read text).toOption
  | _ => none

/-- The octets of a file give a text just if they are those of a text, up to the ends of its lines. -/
theorem textOf_eq_ok_iff {octets : List UInt8} {text : List Char} :
    textOf octets = .ok text ↔ ∃ written, Text.Utf8.encode written = octets ∧
      unifyLines written = text := by
  unfold textOf Text.Encoding.decode
  simp only
  cases hdecode : Text.Utf8.decodeFrom 0 0 octets with
  | error fault =>
    refine ⟨nofun, ?_⟩
    rintro ⟨written, hwritten, -⟩
    rw [Text.Utf8.decodeFrom_eq_ok_iff.mpr hwritten] at hdecode
    cases hdecode
  | ok decoded =>
    have hencode := Text.Utf8.decodeFrom_eq_ok_iff.mp hdecode
    constructor
    · intro h
      exact ⟨decoded, hencode, Except.ok.inj h⟩
    · rintro ⟨written, hwritten, rfl⟩
      rw [Text.Utf8.decodeFrom_eq_ok_iff.mpr hwritten] at hdecode
      cases hdecode
      rfl

/-- A file that is given up before it is known whether it holds JSON. -/
inductive Unreadable : Document → Prop where
  /-- No text in UTF-8 has these octets. -/
  | octets {octets : List UInt8} (h : ∀ text, Text.Utf8.encode text ≠ octets) :
    Unreadable (.file octets)
  /-- The text has a whole number with too many digits, and is JSON up to this number. -/
  | number {text : List Char} {count : Nat}
    (h : Json.read (unifyLines text) = .error (.tooManyDigits count)) : Unreadable (.ofText text)

theorem unreadable_of_textOf {octets : List UInt8} {fault : Text.DecodeFault}
    (h : textOf octets = .error fault) : Unreadable (.file octets) := by
  refine .octets fun text htext => ?_
  have hok := textOf_eq_ok_iff.mpr ⟨text, htext, rfl⟩
  rw [hok] at h
  cases h

/-- A file with a text cannot be read if a number of it has too many digits. -/
theorem unreadable_file_iff {octets : List UInt8} {text : List Char}
    (h : textOf octets = .ok text) :
    Unreadable (.file octets) ↔ ∃ count, Json.read text = .error (.tooManyDigits count) := by
  obtain ⟨written, rfl, rfl⟩ := textOf_eq_ok_iff.mp h
  constructor
  · intro hunreadable
    generalize hfile : Document.file (Text.Utf8.encode written) = document at hunreadable
    cases hunreadable with
    | octets hnone =>
      cases hfile
      exact absurd rfl (hnone written)
    | @number text count hread =>
      have hencode : Text.Utf8.encode written = Text.Utf8.encode text := Document.file.inj hfile
      have hsame := Text.Utf8.decodeFrom_encode 0 text
      rw [← hencode, Text.Utf8.decodeFrom_encode] at hsame
      cases hsame
      exact ⟨count, hread⟩
  · rintro ⟨count, hread⟩
    exact .number hread

theorem toOption_eq_some_iff {ε α : Type} {result : Except ε α} {a : α} :
    result.toOption = some a ↔ result = .ok a := by
  cases result <;> simp [Except.toOption]

/-- The value of a file is that of its text. -/
theorem json?_file_eq_some_iff {octets : List UInt8} {value : Json} :
    (Document.file octets).json? = some value ↔
      ∃ text, textOf octets = .ok text ∧ Json.read text = .ok value := by
  simp only [json?, Option.bind_eq_some_iff, toOption_eq_some_iff]

/-- A document that holds a JSON value is not given up. -/
theorem not_unreadable_of_json? {document : Document} {value : Json}
    (h : document.json? = some value) : ¬ document.Unreadable := by
  cases document with
  | absent | directory => cases h
  | file octets =>
    obtain ⟨text, htext, hread⟩ := json?_file_eq_some_iff.mp h
    rw [unreadable_file_iff htext]
    rintro ⟨count, hcount⟩
    rw [hcount] at hread
    cases hread

end BranchCompare.Document
