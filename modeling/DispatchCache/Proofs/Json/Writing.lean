import DispatchCache.Json.Writer
import DispatchCache.Proofs.Json.Assembling
import Mathlib.Data.List.Forall2
import Mathlib.Tactic.SplitIfs

/-! # What is written is JSON

Strings come between quotes with those characters escaped that must be, and records as objects over
several lines. Both are ways to write the tokens of their values. -/

namespace DispatchCache.Json

theorem hexValue_digitChar : ∀ n < 16, Text.hexValue (Nat.digitChar n) = some n := by decide

/-- A character may be given by its number if that has two digits at most. -/
theorem written_unit {n : Nat} (short : n < 256) : (Piece.unit n).Written
    ['\\', 'u', '0', '0', Nat.digitChar (n / 16), Nat.digitChar (n % 16)] := by
  have high := hexValue_digitChar (n / 16) (by omega)
  have low := hexValue_digitChar (n % 16) (by omega)
  have whole : 16 * (16 * (16 * 0 + 0) + n / 16) + n % 16 = n := by omega
  have written := Piece.Written.unit (by decide : Text.hexValue '0' = some 0)
    (by decide : Text.hexValue '0' = some 0) high low
  rwa [whole] at written

theorem joinPieces_unit {c : Char} (low : c.toNat < 0x20) (pieces : List Piece) :
    joinPieces (.unit c.toNat :: pieces) = (joinPieces pieces).map (c :: ·) := by
  have high : isHighSurrogate c.toNat = false := by
    simp only [isHighSurrogate, Bool.and_eq_false_imp, decide_eq_true_eq]
    omega
  have lowSurrogate : isLowSurrogate c.toNat = false := by
    simp only [isLowSurrogate, Bool.and_eq_false_imp, decide_eq_true_eq]
    omega
  rcases pieces with _ | ⟨_ | _, pieces⟩ <;> simp [joinPieces, high, lowSurrogate]

/-- Each character is written as itself, behind a slash, or by its number. -/
theorem exists_written_escapeChar (c : Char) :
    ∃ piece : Piece, piece.Written (escapeChar c) ∧
      ∀ pieces, joinPieces (piece :: pieces) = (joinPieces pieces).map (c :: ·) := by
  have escaped {mark : Char} (escape : ofEscape mark = some c) :
      ∃ piece : Piece, piece.Written ['\\', mark] ∧
        ∀ pieces, joinPieces (piece :: pieces) = (joinPieces pieces).map (c :: ·) :=
    ⟨.char c, .escaped escape, fun _ => rfl⟩
  unfold escapeChar
  split_ifs with quote slash backspace formFeed lineFeed return_ tab low
  · exact escaped (by rw [quote]; decide)
  · exact escaped (by rw [slash]; decide)
  · exact escaped (by rw [backspace]; decide)
  · exact escaped (by rw [formFeed]; decide)
  · exact escaped (by rw [lineFeed]; decide)
  · exact escaped (by rw [return_]; decide)
  · exact escaped (by rw [tab]; decide)
  · exact ⟨.unit c.toNat, written_unit (by omega), joinPieces_unit low⟩
  · exact ⟨.char c, .plain (Nat.not_lt.mp low) quote slash, fun _ => rfl⟩

theorem exists_between_escaped (chars : List Char) :
    ∃ pieces, Between pieces (chars.flatMap escapeChar) ∧ joinPieces pieces = some chars := by
  induction chars with
  | nil => exact ⟨[], .nil, rfl⟩
  | cons c chars ih =>
    obtain ⟨pieces, rest, joined⟩ := ih
    obtain ⟨piece, first, joins⟩ := exists_written_escapeChar c
    exact ⟨piece :: pieces, .cons first rest, by rw [joins, joined, Option.map_some]⟩

theorem written_quoted (text : String) : (Token.string (some text)).Written (quoted text) := by
  obtain ⟨pieces, between, joined⟩ := exists_between_escaped text.toList
  have written := Token.Written.string between
  rw [joined, Option.map_some, String.ofList_toList] at written
  exact written

theorem Token.Written.single {token : Token} {chars : List Char} (written : token.Written chars) :
    Json.Written [token] chars := by
  have alone := Json.Written.token written .nil
  rwa [List.append_nil] at alone

theorem written_blanks {chars : List Char} (blank : ∀ c ∈ chars, isBlank c = true) :
    Written [] chars := by
  induction chars with
  | nil => exact .nil
  | cons c chars ih =>
    obtain ⟨first, rest⟩ := List.forall_mem_cons.mp blank
    exact .blank first (ih rest)

theorem written_newline (depth : Nat) : Written [] (newline depth) := by
  refine .blank (by decide) (written_blanks fun c member => ?_)
  rw [List.eq_of_mem_replicate member]
  decide

/-- A field that is written with this key and this text for its value. -/
structure FieldWritten (field : Option String × Json) (text : String × List Char) : Prop where
  key : field.1 = some text.1
  value : Written field.2.tokens text.2

/-- A field on a line of its own. -/
def line (depth : Nat) (text : String × List Char) : List Char :=
  newline (depth + 1) ++ quoted text.1 ++ [':', ' '] ++ text.2

theorem FieldWritten.line {field : Option String × Json} {text : String × List Char}
    (written : FieldWritten field text) (depth : Nat) :
    Written (fieldTokens field) (line depth text) := by
  rcases field with ⟨_, value⟩
  obtain ⟨rfl, value⟩ := written
  have colon : Written [.colon] [':', ' '] :=
    Token.Written.colon.single.append (.blank (by decide) .nil)
  exact (((written_newline _).append (written_quoted text.1).single).append colon).append value

variable {fields : List (Option String × Json)} {texts : List (String × List Char)}

theorem written_laterFields (each : List.Forall₂ FieldWritten fields texts) (depth : Nat) :
    Written (laterFields fields)
      ((texts.map (line depth)).flatMap ([','] ++ ·) ++ newline depth ++ ['\x7d']) := by
  induction each with
  | nil => exact (written_newline depth).append Token.Written.closeObject.single
  | cons first _ ih =>
    have whole := (Token.Written.comma.single.append (first.line depth)).append ih
    simpa only [laterFields, List.map_cons, List.flatMap_cons, List.append_assoc,
      List.singleton_append, List.cons_append, List.nil_append] using whole

theorem intercalate_cons {α : Type} (between first : List α) (rest : List (List α)) :
    between.intercalate (first :: rest) = first ++ rest.flatMap (between ++ ·) := by
  induction rest generalizing first with
  | nil => rw [List.intercalate_singleton, List.flatMap_nil, List.append_nil]
  | cons next rest ih =>
    rw [List.intercalate_cons_cons, ih, List.flatMap_cons, List.append_assoc, List.append_assoc]

/-- A record is the object of its fields. -/
theorem written_record (each : List.Forall₂ FieldWritten fields texts) (depth : Nat) :
    Written (object fields).tokens (record texts depth) := by
  cases each with
  | nil => exact Token.Written.openObject.single.append Token.Written.closeObject.single
  | @cons field text fields texts first later =>
    have whole := (Token.Written.openObject.single.append (first.line depth)).append
      (written_laterFields later depth)
    have text_eq : record (text :: texts) depth = '\x7b' ::
        [','].intercalate (line depth text :: texts.map (line depth)) ++
          newline depth ++ ['\x7d'] :=
      rfl
    rw [text_eq, intercalate_cons]
    simpa only [tokens, List.append_assoc, List.singleton_append, List.cons_append,
      List.nil_append] using whole

end DispatchCache.Json
