import Mathlib.Tactic.Common
import LeastSquares.Progress

/-!
# The lines of progress

The messages of a solve are formats with arguments. All of them can be written, whatever numbers a
solve has come to: integers and texts fit their directives, and so does what is no number.

* `Log.Message.fill_literals`, `Log.Message.fill_special`: **how a format is filled**, piece by piece.
* `Progress.right`: a text brought to a width.
* `Progress.columns_text`, `Progress.row_text`, `Progress.closing_text`: **the lines of a solve.**
* `Progress.message_legible`: **every event has a line.**
* `Log.Handler.write_standard`: **what a stream has of a record** through the standard template.
-/

namespace LeastSquares

/-! ### Conversions -/

namespace Conversion

/-- The conversion of a kind to a width, without flags. -/
abbrev plain (kind : Kind) (width : ℕ) (precision : Option ℕ) : Conversion :=
  ⟨kind, false, .none, width, precision⟩

theorem row_zero (c : Char) : row 0 c = "" := rfl

theorem signOf_none (negative : Bool) : signOf .none negative = Decimal.signText negative := by
  cases negative <;> rfl

/-- A number that fills its width is written as it stands. -/
theorem Numeral.pad_none {n : Numeral} {width : ℕ} (h : width ≤ n.body.length) :
    n.pad .none width = n.sign ++ n.mark ++ n.body := by
  have hmissing : width - (n.sign.length + n.mark.length + n.body.length) = 0 := by omega
  unfold Numeral.pad
  rw [hmissing]
  change row 0 ' ' ++ (n.sign ++ n.mark) ++ n.body = _
  rw [row_zero, String.empty_append]

end Conversion

namespace Progress

/-- A text brought to a width from the left. -/
def right (width : ℕ) (s : String) : String := Conversion.row (width - s.length) ' ' ++ s

end Progress

namespace Conversion

theorem ofInteger_natural (n : ℕ) : ofInteger .none 10 0 n = ⟨"", "", Nat.repr n⟩ := by
  have hsign : decide ((n : Int) < 0) = false := decide_eq_false (Int.not_lt.2 (Int.natCast_nonneg n))
  unfold ofInteger
  dsimp only
  rw [hsign, Nat.zero_sub, row_zero, String.empty_append]
  rfl

/-- **A natural number** in base ten. -/
theorem write_natural (width n : ℕ) :
    (plain (.integer 10) width none).write? (.integer n) =
      some (Progress.right width (Nat.repr n)) := by
  change some (Numeral.pad (ofInteger .none 10 0 n) .none width) = _
  rw [ofInteger_natural]
  unfold Numeral.pad Progress.right
  simp [Flags.none]

theorem exponentText_length (e : Int) : 2 ≤ (Decimal.exponentText e).length := by
  unfold Decimal.exponentText
  rw [String.length_append]
  split_ifs <;> exact Nat.le_add_right 2 _

/-- **A double in scientific text**: its digits fill the least width. -/
theorem write_scientific (places : ℕ) (x : Float) :
    (plain (.decimal .scientific) 1 (some places)).write? (.number x) =
      some (Decimal.scientific places x) := by
  change some (Numeral.pad (ofDouble .none .scientific places x) .none 1) = _
  have hnan : 1 ≤ "nan".length := by decide
  have hinf : 1 ≤ "inf".length := by decide
  unfold ofDouble Decimal.scientific Decimal.withSign
  cases Binary64.read x with
  | nan =>
    dsimp only
    rw [Numeral.pad_none hnan]
    rfl
  | infinite negative =>
    dsimp only
    rw [Numeral.pad_none hinf, signOf_none, String.append_empty]
  | finite negative m e =>
    dsimp only
    rw [Numeral.pad_none, signOf_none, String.append_empty]
    · rfl
    · dsimp only
      unfold Decimal.Digits.scientific
      rw [String.length_append]
      have := exponentText_length (Decimal.digitsOf (places + 1) (.ofBinary m e)).exponent
      omega

end Conversion

/-! ### Formats -/

namespace Log.Message

variable {rest : List (Piece Directive)} {arguments : List Argument} {t : String}

/-- **A character stands for itself.** -/
theorem fill_literals (cs : List Char) (h : fill? rest arguments = some t) :
    fill? (cs.map .literal ++ rest) arguments = some (String.ofList cs ++ t) := by
  induction cs with
  | nil =>
    rw [List.map_nil, List.nil_append, h, String.ofList_nil, String.empty_append]
  | cons c cs ih =>
    rw [List.map_cons, List.cons_append, fill?, ih, String.ofList_cons, String.append_assoc]
    rfl

theorem fill_nil : fill? [] [] = some "" := rfl

/-- **A directive converts the next argument.** -/
theorem fill_special {d : Directive} {c : Conversion} {a : Argument} {s : String}
    (hc : d.conversion? = some c) (hs : c.write? a.toValue = some s)
    (h : fill? rest arguments = some t) :
    fill? (.special d :: rest) (a :: arguments) = some (s ++ t) := by
  rw [fill?, hc, h, Option.bind_eq_bind, Option.bind_some, hs]
  rfl

end Log.Message

/-! ### Lines -/

namespace Progress

open Log (Argument Directive Message)

theorem columns_text : columns.text? = some "iter\t  anorm\t\t  cnorm\t\t  rnorm" := by
  decide +kernel

/-- A whole number, at least three characters wide. -/
abbrev counter : Directive := ⟨.none, some 3, none, 'd'⟩

/-- A number with two places after the point. -/
abbrev statistic : Directive := ⟨.none, some 1, some 2, 'e'⟩

/-- A whole number as it stands. -/
abbrev whole : Directive := ⟨.none, none, none, 'd'⟩

/-- A text as it stands. -/
abbrev words : Directive := ⟨.none, none, none, 's'⟩

theorem row_pieces : Message.parse? "%3d\t%1.2e\t%1.2e\t%1.2e" =
    some (.special counter :: (['\t'].map .literal ++
      .special statistic :: (['\t'].map .literal ++
        .special statistic :: (['\t'].map .literal ++ [.special statistic])))) := by
  decide +kernel

theorem closing_pieces : Message.parse? "stop %d after %d iterations: %s" =
    some ("stop ".toList.map .literal ++ .special whole ::
      (" after ".toList.map .literal ++ .special whole ::
        (" iterations: ".toList.map .literal ++ [.special words]))) := by
  decide +kernel

theorem statistic_text (a : Number) : (Conversion.plain (.decimal .scientific) 1 (some 2)).write?
    (Argument.number a).toValue = some (Decimal.scientific 2 a) :=
  Conversion.write_scientific 2 a

theorem whole_text (n : ℕ) : (Conversion.plain (.integer 10) 0 none).write?
    (Argument.integer n).toValue = some (Nat.repr n) := by
  rw [Argument.integer, Argument.toValue, Conversion.write_natural, right, Nat.zero_sub,
    Conversion.row_zero, String.empty_append]

theorem words_text (s : String) : (Conversion.plain .text 0 none).write?
    (Argument.text s).toValue = some s := by
  change some (Conversion.row (0 - s.length) ' ' ++ s) = some s
  rw [Nat.zero_sub, Conversion.row_zero, String.empty_append]

/-- **The row of an iteration.** -/
theorem row_text (n : ℕ) (test1 test2 test3 : Number) :
    (row (.integer n) test1 test2 test3).text? =
      some (right 3 (Nat.repr n) ++ "\t" ++ Decimal.scientific 2 test2 ++ "\t" ++
        Decimal.scientific 2 test3 ++ "\t" ++ Decimal.scientific 2 test1) := by
  have h1 := Message.fill_special (d := statistic) rfl (statistic_text test1) Message.fill_nil
  have h3 := Message.fill_special (d := statistic) rfl (statistic_text test3)
    (Message.fill_literals ['\t'] h1)
  have h2 := Message.fill_special (d := statistic) rfl (statistic_text test2)
    (Message.fill_literals ['\t'] h3)
  have hn := Message.fill_special (d := counter) (a := .integer n) rfl
    (Conversion.write_natural 3 n) (Message.fill_literals ['\t'] h2)
  have htext : (row (.integer n) test1 test2 test3).text? =
      Message.parse? "%3d\t%1.2e\t%1.2e\t%1.2e" >>= fun pieces =>
        Message.fill? pieces [.integer n, .number test2, .number test3, .number test1] := rfl
  rw [htext, row_pieces, Option.bind_eq_bind, Option.bind_some, hn]
  simp only [String.append_assoc, String.append_empty]

/-- **The closing line.** -/
theorem closing_text (stop : StopReason) (n : ℕ) :
    (closing stop (.integer n)).text? =
      some ("stop " ++ Nat.repr stop.code ++ " after " ++ Nat.repr n ++ " iterations: " ++
        stop.message) := by
  have hm := Message.fill_special (d := words) rfl (words_text stop.message) Message.fill_nil
  have hn := Message.fill_special (d := whole) rfl (whole_text n)
    (Message.fill_literals " iterations: ".toList hm)
  have hc := Message.fill_literals "stop ".toList (Message.fill_special (d := whole) rfl
    (whole_text stop.code) (Message.fill_literals " after ".toList hn))
  have htext : (closing stop (.integer n)).text? =
      Message.parse? "stop %d after %d iterations: %s" >>= fun pieces =>
        Message.fill? pieces [.integer stop.code, .integer n, .text stop.message] := rfl
  rw [htext, closing_pieces, Option.bind_eq_bind, Option.bind_some, hc]
  simp only [String.append_assoc, String.append_empty, String.ofList_toList]

/-- **Every event has a line.** -/
theorem message_legible (e : Event Double) : (message e).text?.isSome := by
  cases e with
  | title => rfl
  | columns => rw [message, columns_text, Option.isSome_some]
  | row n t => rw [message, row_text, Option.isSome_some]
  | closing stop n => rw [message, closing_text, Option.isSome_some]

end Progress

/-! ### Written lines -/

namespace Log

theorem Template.standard_pieces :
    parse? standard = some [.special ⟨"message", Progress.words⟩] := rfl

/-- **Through the standard template** a record is the text of its message. -/
theorem Template.render_standard (r : Record) : render? standard r = r.message.text? := by
  unfold render?
  rw [standard_pieces]
  cases r.message.text? with
  | none => rfl
  | some text =>
    have hfield : fill? r text ⟨"message", Progress.words⟩ = some text := Progress.words_text text
    simp [pieceText?, hfield]

/-- **A stream has the text of each message** on a line of its own. -/
theorem Handler.write_standard {r : Record} {text : String} (h : r.message.text? = some text)
    (sink : Sink) (level : Value) :
    (stream sink level Template.standard).write r = [⟨sink, text ++ "\n"⟩] := by
  rw [write, Template.render_standard, h]

end Log

end LeastSquares
