import ScopedCheck.Config.Basic
import ScopedCheck.Proofs.Config.Filler
import ScopedCheck.Proofs.Json.Grammar

namespace ScopedCheck.Config

open Json (Form Laid Spaced)
open Lenient (IsFiller IsLastFiller)

/-- Byte order marks before a text. -/
def marked (count : Nat) (text : List Char) : String :=
  String.ofList (List.replicate count byteOrderMark ++ text)

theorem parse_eq_ok_iff {path : Path} {text : String} {config : Config} :
    parse path text = .ok config ↔
      config.path = path ∧ (Json.parse (strictText text)).toOption = some (.object config.members) := by
  obtain ⟨path', members'⟩ := config
  cases h : Json.parse (strictText text) with
  | error refusal => simp [parse, h, Except.toOption]
  | ok v =>
    cases v with
    | object members => simp [parse, h, Except.toOption, eq_comm]
    | _ => simp [parse, h, Except.toOption]

theorem exists_ascii_of_isWord {word : List Char} (h : Json.IsWord word) :
    ∃ c rest, word = c :: rest ∧ c.toNat < 0x80 := by
  cases h with
  | null => exact ⟨_, _, rfl, by decide⟩
  | true => exact ⟨_, _, rfl, by decide⟩
  | false => exact ⟨_, _, rfl, by decide⟩
  | numeral text =>
    obtain ⟨c, rest, rfl, rfl | hc⟩ := Json.Numeral.exists_cons_of_isText text
    · exact ⟨_, _, rfl, by decide⟩
    · simp only [Char.isDigit, Bool.and_eq_true, decide_eq_true_eq, UInt32.le_iff_toNat_le] at hc
      have bound : c.toNat ≤ 57 := hc.2
      exact ⟨c, rest, rfl, by omega⟩

/-- Whether a text does not begin with a byte order mark. -/
def Unmarked (cs : List Char) : Prop :=
  ∀ c ∈ cs.head?, c ≠ byteOrderMark

theorem unmarked_append {g cs : List Char} (hg : Unmarked g) (hcs : Unmarked cs) :
    Unmarked (g ++ cs) := by
  cases g with
  | nil => exact hcs
  | cons c g => simpa [Unmarked] using hg

theorem unmarked_token (t : Json.Token) (cs : List Char) : Unmarked (t.text ++ cs) := by
  have ascii {c : Char} (h : c.toNat < 0x80) : c ≠ byteOrderMark := by
    rintro rfl
    exact absurd h (by decide)
  match t with
  | .mark m => cases m <;> simp [Unmarked, Json.Token.text, Json.Mark.char, byteOrderMark]
  | .literal body => simp [Unmarked, Json.Token.text, byteOrderMark]
  | .word word =>
    obtain ⟨c, rest, hc, small⟩ := exists_ascii_of_isWord word.isWord
    simpa [Unmarked, Json.Token.text, hc] using ascii small

theorem unmarked_filler {g : List Char} (h : IsFiller g) : Unmarked g := by
  cases h with
  | nil => simp [Unmarked]
  | @blank c cs hc _ =>
    suffices c ≠ byteOrderMark by simpa [Unmarked] using this
    rintro rfl
    exact absurd hc (by decide)
  | line => simp [Unmarked, byteOrderMark]
  | block => simp [Unmarked, byteOrderMark]

theorem unmarked_lastFiller {g : List Char} (h : IsLastFiller g) : Unmarked g := by
  cases h with
  | closed h => exact unmarked_filler h
  | line h _ => exact unmarked_append (unmarked_filler h) (by simp [Unmarked, byteOrderMark])

/-- No token begins with a byte order mark, and neither does what may stand before it. -/
theorem unmarked_of_laid {ts : List Json.Token} {cs : List Char}
    (h : Laid IsFiller IsLastFiller ts cs) : Unmarked cs := by
  cases h with
  | nil hg => exact unmarked_lastFiller hg
  | cons hg _ => exact unmarked_append (unmarked_filler hg) (unmarked_token _ _)

theorem strictText_marked (count : Nat) {cs : List Char} (h : Unmarked cs) :
    strictText (marked count cs) = Lenient.strip cs := by
  have kept : cs.dropWhile (· = byteOrderMark) = cs := by
    cases cs with
    | nil => rfl
    | cons c cs => exact List.dropWhile_cons_of_neg (by simpa using h c (by simp))
  have dropped : ∀ c ∈ List.replicate count byteOrderMark, decide (c = byteOrderMark) = true := by
    simp
  rw [strictText, marked, String.toList_ofList, List.dropWhile_append_of_pos dropped, kept]

theorem strictText_of_spaced {form : Form} {strict : String}
    (h : Spaced (form.tokens false) strict.toList) : strictText strict = strict.toList := by
  have := strictText_marked 0 (unmarked_of_laid (Lenient.laid_of_spaced h))
  rw [Lenient.strip_of_spaced h, marked, List.replicate_zero, List.nil_append,
    String.ofList_toList] at this
  exact this

/-- Whether a text holds the tokens of a form with anything that may stand between two tokens, and with
one comma too many in the arrays and objects of which the form says so. -/
def Loosens (form : Form) (loose : List Char) : Prop :=
  Laid IsFiller IsLastFiller (form.tokens true) loose

/-- A strict text consists of the tokens of some form, whatever it says of extra commas. Marks, blanks,
comments and extra commas do not change what is read. -/
theorem parse_loosened {path : Path} {strict : String} {config : Config}
    (strictly : (Json.parse strict.toList).isOk) (accepted : parse path strict = .ok config) :
    (∃ form : Form, Spaced (form.tokens false) strict.toList) ∧
    ∀ form : Form, Spaced (form.tokens false) strict.toList →
      ∀ loose, Loosens form loose → ∀ count, parse path (marked count loose) = .ok config := by
  constructor
  · cases h : Json.parse strict.toList with
    | error refusal => simp [h, Except.isOk, Except.toBool] at strictly
    | ok v => exact Json.exists_form h
  · intro form spaced loose loosens count
    obtain ⟨same, members⟩ := parse_eq_ok_iff.1 accepted
    refine parse_eq_ok_iff.2 ⟨same, ?_⟩
    rw [strictText_of_spaced spaced, Json.parse_spaced spaced] at members
    rw [strictText_marked count (unmarked_of_laid loosens),
      Json.parse_spaced (Lenient.spaced_strip loosens), members]

/-- Lays out tokens with a gap before each, and a last one at the end. -/
def layOut (last : List Char) : List (List Char) → List Json.Token → List Char
  | g :: gaps, t :: ts => g ++ (t.text ++ layOut last gaps ts)
  | _, _ => last

theorem laid_layOut {gap last : List Char → Prop} {l : List Char} (hl : last l)
    (gaps : List (List Char)) (ts : List Json.Token) (length : gaps.length = ts.length)
    (h : ∀ g ∈ gaps, gap g) : Laid gap last ts (layOut l gaps ts) := by
  induction ts generalizing gaps with
  | nil => cases gaps <;> exact .nil hl
  | cons t ts ih =>
    cases gaps with
    | nil => simp at length
    | cons g gaps =>
      have tail := ih gaps (by simpa using length) fun g' hg' => h g' (by simp [hg'])
      exact .cons (h g (by simp)) tail

/-- An object whose only literal in an array looks like a comment and a comma too many. -/
def quotingForm : Form :=
  .object [(⟨['a'], .plain (by decide) (by decide) (by decide) .nil⟩,
    .array [
      .literal ⟨['/', '/', ',', ']', '\\', '"'],
        .plain (by decide) (by decide) (by decide) (.plain (by decide) (by decide) (by decide)
          (.plain (by decide) (by decide) (by decide) (.plain (by decide) (by decide) (by decide)
            (.escape (by decide) .nil))))⟩,
      .word ⟨['1'], .numeral ⟨[], ['1'], [], [], .inl rfl, .inr ⟨⟨by decide, by simp⟩, by decide⟩,
        .inl rfl, .inl rfl, rfl⟩⟩] true)] true

theorem parse_loosened_quoting :
    parse ⟨"tsconfig.json"⟩
      (marked 2 "/*\"*/\x7b//]\n\"a\":[\"//,]\\\"\", 1,/*,]*/],\x7d//\x7b".toList) =
      .ok ⟨⟨"tsconfig.json"⟩, [("a", .array [.string "//,]\"", .number (.whole 1 (by decide))])]⟩ := by
  have strict : Spaced (quotingForm.tokens false) "\x7b\"a\":[\"//,]\\\"\",1]\x7d".toList :=
    laid_layOut Json.isBlanks_nil (List.replicate 9 []) _ rfl (by simp)
  have accepted : parse ⟨"tsconfig.json"⟩ "\x7b\"a\":[\"//,]\\\"\",1]\x7d" =
      .ok ⟨⟨"tsconfig.json"⟩, [("a", .array [.string "//,]\"", .number (.whole 1 (by decide))])]⟩ := by
    refine parse_eq_ok_iff.2 ⟨rfl, ?_⟩
    rw [strictText_of_spaced strict, Json.parse_spaced strict]
    rfl
  have strictly : (Json.parse "\x7b\"a\":[\"//,]\\\"\",1]\x7d".toList).isOk :=
    Json.isOk_parse_of_spaced strict rfl
  have quote : IsFiller ['/', '*', '"', '*', '/'] := @IsFiller.block ['"'] [] (by decide) .nil
  have bracket : IsFiller ['/', '/', ']', '\n'] := @IsFiller.line [']'] [] (by decide) .nil
  have comma : IsFiller ['/', '*', ',', ']', '*', '/'] :=
    @IsFiller.block [',', ']'] [] (by decide) .nil
  have blank : IsFiller [' '] := .blank rfl .nil
  have loose : Loosens quotingForm
      "/*\"*/\x7b//]\n\"a\":[\"//,]\\\"\", 1,/*,]*/],\x7d//\x7b".toList :=
    laid_layOut (.line .nil (by decide))
      [['/', '*', '"', '*', '/'], ['/', '/', ']', '\n'], [], [], [], [], [' '], [],
        ['/', '*', ',', ']', '*', '/'], [], []] _ rfl
      (by simp [quote, bracket, comma, blank, IsFiller.nil])
  exact (parse_loosened strictly accepted).2 quotingForm strict _ loose 2

end ScopedCheck.Config
