import DispatchCache.Json.Token
import Mathlib.Data.List.Basic
import Mathlib.Data.List.Chain

/-! # How tokens are written

Tokens stand one after the other with blanks anywhere between them. A string may have any of its
characters escaped in any of the ways there are. Of two words or numbers that touch it could not be
told where the first one ends, but in the text of a value no two of them follow each other. Reading
a text of tokens gives the tokens back. -/

namespace DispatchCache.Json

/-- How a part of a string may be written. -/
inductive Piece.Written : Piece → List Char → Prop where
  | plain {c : Char} (visible : 0x20 ≤ c.toNat) (quote : c ≠ '"') (slash : c ≠ '\\') :
      Written (.char c) [c]
  | escaped {mark c : Char} (escape : ofEscape mark = some c) : Written (.char c) ['\\', mark]
  | unit {a b c d : Char} {i j k l : Nat} (first : Text.hexValue a = some i)
      (second : Text.hexValue b = some j) (third : Text.hexValue c = some k)
      (fourth : Text.hexValue d = some l) :
      Written (.unit (16 * (16 * (16 * i + j) + k) + l)) ['\\', 'u', a, b, c, d]

/-- How what stands between quotes may be written. -/
inductive Between : List Piece → List Char → Prop where
  | nil : Between [] []
  | cons {piece : Piece} {pieces : List Piece} {front chars : List Char}
      (first : piece.Written front) (rest : Between pieces chars) :
      Between (piece :: pieces) (front ++ chars)

/-- How a token may be written. -/
inductive Token.Written : Token → List Char → Prop where
  | openArray : Written .openArray ['[']
  | closeArray : Written .closeArray [']']
  | openObject : Written .openObject ['\x7b']
  | closeObject : Written .closeObject ['\x7d']
  | comma : Written .comma [',']
  | colon : Written .colon [':']
  | null : Written .null ['n', 'u', 'l', 'l']
  | yes : Written (.bool true) ['t', 'r', 'u', 'e']
  | no : Written (.bool false) ['f', 'a', 'l', 's', 'e']
  | number {chars : List Char} (isNumber : isNumber chars = true) :
      Written (.number (String.ofList chars)) chars
  | string {pieces : List Piece} {chars : List Char} (between : Between pieces chars) :
      Written (.string ((joinPieces pieces).map String.ofList)) ('"' :: chars ++ ['"'])

/-- How tokens may be written, with blanks anywhere between them. -/
inductive Written : List Token → List Char → Prop where
  | nil : Written [] []
  | blank {c : Char} {tokens : List Token} {chars : List Char} (blank : isBlank c = true)
      (rest : Written tokens chars) : Written tokens (c :: chars)
  | token {token : Token} {tokens : List Token} {front chars : List Char}
      (first : token.Written front) (rest : Written tokens chars) :
      Written (token :: tokens) (front ++ chars)

theorem Written.append {tokens more : List Token} {chars rest : List Char}
    (written : Written tokens chars) (later : Written more rest) :
    Written (tokens ++ more) (chars ++ rest) := by
  induction written with
  | nil => exact later
  | blank blank _ ih => exact .blank blank ih
  | token first _ ih =>
    rw [List.append_assoc]
    exact .token first ih

/-- Words and numbers, which end where something else begins. -/
def Token.isOpen : Token → Bool
  | .null | .bool _ | .number _ => true
  | _ => false

/-- Whether the second token may touch the first. -/
def Token.MayTouch (token next : Token) : Prop := ¬ (token.isOpen = true ∧ next.isOpen = true)

section Numbers

/-- The second text is what the first one leaves after some characters of numbers. -/
def Runs (chars rest : List Char) : Prop :=
  ∃ front, chars = front ++ rest ∧ ∀ c ∈ front, isNumberChar c = true

theorem Runs.refl (chars : List Char) : Runs chars chars := ⟨[], rfl, by simp⟩

theorem Runs.cons {c : Char} {chars rest : List Char} (first : isNumberChar c = true)
    (runs : Runs chars rest) : Runs (c :: chars) rest := by
  obtain ⟨front, rfl, all⟩ := runs
  exact ⟨c :: front, rfl, List.forall_mem_cons.mpr ⟨first, all⟩⟩

theorem Runs.trans {chars mid rest : List Char} (first : Runs chars mid) (second : Runs mid rest) :
    Runs chars rest := by
  obtain ⟨front, rfl, all⟩ := first
  obtain ⟨more, rfl, all'⟩ := second
  exact ⟨front ++ more, (List.append_assoc ..).symm, List.forall_mem_append.mpr ⟨all, all'⟩⟩

theorem isNumberChar_of_isDigit {c : Char} (digit : c.isDigit = true) : isNumberChar c = true := by
  simp [isNumberChar, digit]

variable {chars rest : List Char}

theorem exists_of_dropDigits (dropped : dropDigits chars = some rest) :
    Runs chars rest ∧ ∃ c tail, chars = c :: tail ∧ c.isDigit = true := by
  cases chars with
  | nil => cases dropped
  | cons c tail =>
    simp only [dropDigits, Option.ite_none_right_eq_some, Option.some.injEq] at dropped
    obtain ⟨digit, rfl⟩ := dropped
    have run : Runs tail (tail.dropWhile Char.isDigit) :=
      ⟨tail.takeWhile Char.isDigit, List.takeWhile_append_dropWhile.symm, fun d member =>
        isNumberChar_of_isDigit (List.all_eq_true.mp List.all_takeWhile d member)⟩
    exact ⟨run.cons (isNumberChar_of_isDigit digit), c, tail, rfl, digit⟩

theorem exists_of_dropWhole (dropped : dropWhole chars = some rest) :
    Runs chars rest ∧ ∃ c tail, chars = c :: tail ∧ c.isDigit = true := by
  unfold dropWhole at dropped
  split at dropped
  · cases dropped
    exact ⟨(Runs.refl rest).cons rfl, '0', rest, rfl, rfl⟩
  · exact exists_of_dropDigits dropped

theorem runs_of_dropFraction (dropped : dropFraction chars = some rest) : Runs chars rest := by
  unfold dropFraction at dropped
  split at dropped
  · exact (exists_of_dropDigits dropped).1.cons rfl
  · cases dropped
    exact .refl _

theorem runs_of_dropExponent (dropped : dropExponent chars = some rest) : Runs chars rest := by
  cases chars with
  | nil =>
    cases dropped
    exact .refl _
  | cons c tail =>
    simp only [dropExponent] at dropped
    split at dropped
    · next mark =>
      have first : isNumberChar c = true := by rcases mark with rfl | rfl <;> rfl
      refine Runs.cons first ?_
      split at dropped
      · exact (exists_of_dropDigits dropped).1.cons rfl
      · exact (exists_of_dropDigits dropped).1.cons rfl
      · exact (exists_of_dropDigits dropped).1
    · cases dropped
      exact .refl _

/-- A number begins with a digit or a dash and has no other characters than numbers have. -/
theorem exists_of_isNumber (number : isNumber chars = true) :
    ∃ c tail, chars = c :: tail ∧ (c.isDigit = true ∨ c = '-') ∧
      ∀ d ∈ tail, isNumberChar d = true := by
  have unsigned {chars : List Char}
      (number : ((dropWhole chars).bind dropFraction).bind dropExponent = some []) :
      Runs chars [] ∧ ∃ c tail, chars = c :: tail ∧ c.isDigit = true := by
    obtain ⟨behind, rest, exponent⟩ := Option.bind_eq_some_iff.mp number
    obtain ⟨mark, whole, fraction⟩ := Option.bind_eq_some_iff.mp rest
    obtain ⟨run, first⟩ := exists_of_dropWhole whole
    exact ⟨run.trans ((runs_of_dropFraction fraction).trans (runs_of_dropExponent exponent)), first⟩
  have all {chars : List Char} (run : Runs chars []) : ∀ d ∈ chars, isNumberChar d = true := by
    obtain ⟨front, rfl, all⟩ := run
    simpa using all
  unfold isNumber at number
  split at number
  · next tail =>
    exact ⟨'-', tail, rfl, .inr rfl, all (unsigned (of_decide_eq_true number)).1⟩
  · obtain ⟨run, c, tail, rfl, digit⟩ := unsigned (of_decide_eq_true number)
    exact ⟨c, tail, rfl, .inl digit, fun d member => all run d (List.mem_cons_of_mem c member)⟩

end Numbers

namespace Scan

variable {scan : Scan} {done : List Token}

/-- A character that goes on with no word and no number begins a new token. -/
theorem step_of_settled {c : Char} (settled : scan.settle = some ⟨.idle, done⟩)
    (apart : scan.mode ≠ .idle → c.isLower = false ∧ isNumberChar c = false) :
    scan.step c = start ⟨.idle, done⟩ c := by
  rcases scan with ⟨mode, tokens⟩
  cases mode with
  | idle =>
    obtain rfl : tokens = done := congrArg Scan.tokens (Option.some.inj settled)
    rfl
  | word chars =>
    simp only [step, apart (by simp), settled, Bool.false_eq_true, if_false, Option.bind_some]
  | number chars =>
    simp only [step, apart (by simp), settled, Bool.false_eq_true, if_false, Option.bind_some]
  | string pieces => cases settled
  | escape pieces => cases settled
  | hex pieces count value => cases settled

theorem foldlM_number {chars : List Char} (all : ∀ c ∈ chars, isNumberChar c = true)
    (read : List Char) :
    chars.foldlM step ⟨.number read, done⟩ = some ⟨.number (chars.reverse ++ read), done⟩ := by
  induction chars generalizing read with
  | nil => rfl
  | cons c chars ih =>
    obtain ⟨first, rest⟩ := List.forall_mem_cons.mp all
    have stepped : step ⟨.number read, done⟩ c = some ⟨.number (c :: read), done⟩ := if_pos first
    rw [List.foldlM_cons, stepped, Option.bind_eq_bind, Option.bind_some, ih rest,
      List.reverse_cons, List.append_assoc]
    rfl

theorem foldlM_piece {piece : Piece} {front : List Char} (written : piece.Written front)
    (pieces : List Piece) :
    front.foldlM step ⟨.string pieces, done⟩ = some ⟨.string (piece :: pieces), done⟩ := by
  cases written with
  | plain visible quote slash => simp [step, quote, slash, Nat.not_lt.mpr visible]
  | @escaped mark c escape =>
    have other : mark ≠ 'u' := by
      rintro rfl
      cases escape
    simp [step, other, escape]
  | unit first second third fourth => simp [step, first, second, third, fourth]

theorem foldlM_between {new : List Piece} {chars : List Char} (between : Between new chars)
    (pieces : List Piece) :
    chars.foldlM step ⟨.string pieces, done⟩ = some ⟨.string (new.reverse ++ pieces), done⟩ := by
  induction between generalizing pieces with
  | nil => rfl
  | cons first _ ih =>
    rw [List.foldlM_append, foldlM_piece first, Option.bind_eq_bind, Option.bind_some, ih,
      List.reverse_cons, List.append_assoc]
    rfl

theorem start_number {c : Char} (first : c.isDigit = true ∨ c = '-') :
    start ⟨.idle, done⟩ c = some ⟨.number [c], done⟩ := by
  rcases first with digit | rfl
  · have other (d : Char) (h : d.isDigit = false) : c ≠ d := by
      rintro rfl
      rw [digit] at h
      cases h
    simp [start, isBlank, digit, other ' ' rfl, other '\t' rfl, other '\n' rfl, other '\r' rfl,
      other '[' rfl, other ']' rfl, other '\x7b' rfl, other '\x7d' rfl, other ',' rfl,
      other ':' rfl, other '"' rfl]
  · rfl

/-- Reading a token from where nothing is being read. -/
theorem foldlM_token {token : Token} {front : List Char} (written : token.Written front)
    (done : List Token) :
    ∃ scan, front.foldlM step ⟨.idle, done⟩ = some scan ∧
      scan.settle = some ⟨.idle, token :: done⟩ ∧ (scan.mode ≠ .idle → token.isOpen = true) := by
  cases written with
  | null => exact ⟨_, rfl, rfl, fun _ => rfl⟩
  | yes => exact ⟨_, rfl, rfl, fun _ => rfl⟩
  | no => exact ⟨_, rfl, rfl, fun _ => rfl⟩
  | number number =>
    obtain ⟨c, tail, rfl, first, all⟩ := exists_of_isNumber number
    refine ⟨⟨.number (tail.reverse ++ [c]), done⟩, ?_, ?_, fun _ => rfl⟩
    · have begun : step ⟨.idle, done⟩ c = _ := start_number first
      rw [List.foldlM_cons, begun]
      exact foldlM_number all [c]
    · simp [settle, number, emit]
  | @string pieces chars between =>
    have read : ('"' :: chars).foldlM step ⟨.idle, done⟩ =
        some ⟨.string pieces.reverse, done⟩ := by
      have body : chars.foldlM step ⟨.string [], done⟩ = _ := foldlM_between between []
      rw [List.append_nil] at body
      exact body
    refine ⟨⟨.idle, _ :: done⟩, ?_, rfl, fun busy => absurd rfl busy⟩
    rw [List.foldlM_append, read]
    simp [step, emit]
  | _ => exact ⟨_, rfl, rfl, fun busy => absurd rfl busy⟩

/-- What a token begins with ends all that was being read, if the token is no word or number. -/
theorem exists_head_of_written {token : Token} {front : List Char} (written : token.Written front) :
    ∃ c rest, front = c :: rest ∧
      (token.isOpen = false → c.isLower = false ∧ isNumberChar c = false) := by
  cases written with
  | number number =>
    obtain ⟨c, tail, rfl, -⟩ := exists_of_isNumber number
    exact ⟨c, tail, rfl, fun closed => by cases closed⟩
  | null | yes | no => exact ⟨_, _, rfl, fun closed => by cases closed⟩
  | _ => exact ⟨_, _, rfl, fun _ => ⟨rfl, rfl⟩⟩

theorem foldlM_written {tokens : List Token} {chars : List Char} (written : Written tokens chars)
    (chain : tokens.IsChain Token.MayTouch) (settled : scan.settle = some ⟨.idle, done⟩)
    (apart : scan.mode ≠ .idle → ∀ token ∈ tokens.head?, token.isOpen = false) :
    (chars.foldlM step scan).bind settle = some ⟨.idle, tokens.reverse ++ done⟩ := by
  induction written generalizing scan done with
  | nil => exact settled
  | @blank c tokens chars blank rest ih =>
    have ends : c.isLower = false ∧ isNumberChar c = false := by
      simp only [isBlank, Bool.or_eq_true, decide_eq_true_eq] at blank
      rcases blank with ((rfl | rfl) | rfl) | rfl <;> decide
    have passed : scan.step c = some ⟨.idle, done⟩ :=
      (step_of_settled settled fun _ => ends).trans (if_pos blank)
    rw [List.foldlM_cons, passed]
    exact ih chain rfl fun busy => absurd rfl busy
  | @token token tokens front chars first rest ih =>
    obtain ⟨c, tail, rfl, ends⟩ := exists_head_of_written first
    obtain ⟨after, read, settled_after, busy_after⟩ := foldlM_token first done
    have moved : (c :: tail).foldlM step scan = some after := by
      rw [List.foldlM_cons, step_of_settled settled fun busy => ends (apart busy token rfl)]
      exact read
    have next : after.mode ≠ .idle → ∀ next ∈ tokens.head?, next.isOpen = false := by
      intro busy next isNext
      obtain ⟨more, rfl⟩ := List.head?_eq_some_iff.mp isNext
      have touch := (List.isChain_cons_cons.mp chain).1
      exact Bool.eq_false_iff.mpr fun opens => touch ⟨busy_after busy, opens⟩
    rw [List.foldlM_append, moved, Option.bind_eq_bind, Option.bind_some,
      ih chain.tail settled_after next, List.reverse_cons, List.append_assoc]
    rfl

end Scan

/-- Reading a text gives the tokens that are written there. -/
theorem tokens?_of_written {tokens : List Token} {text : String}
    (written : Written tokens text.toList) (chain : tokens.IsChain Token.MayTouch) :
    tokens? text = some tokens := by
  have read : (text.toList.foldlM Scan.step {}).bind Scan.settle =
      some ⟨.idle, tokens.reverse ++ []⟩ :=
    Scan.foldlM_written written chain rfl fun busy => absurd rfl busy
  rw [tokens?, read, Option.map_some, List.append_nil, List.reverse_reverse]

end DispatchCache.Json
