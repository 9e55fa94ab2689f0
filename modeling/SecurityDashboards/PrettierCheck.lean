import SecurityDashboards.Lib.LineDiff
import SecurityDashboards.Lib.TextLines

/-!
# The formatting check

The hunk headers, line ranges and fix mode of `scripts/prettier-check-changed.js`, and the text of a
difference as git writes it.
-/

namespace SecurityDashboards

namespace PrettierCheck

abbrev Text := List Char

/-! ## Hunk headers -/

/-- The text behind the one that is expected. -/
def expect : Text → Text → Option Text
  | [], text => some text
  | _ :: _, [] => none
  | c :: expected, d :: text => if c = d then expect expected text else none

/-- `(\d+)` -/
def number? (text : Text) : Option (ℕ × Text) :=
  if text.takeWhile Char.isDigit = [] then none
  else some (Nat.ofDigitChars 10 (text.takeWhile Char.isDigit) 0, text.dropWhile Char.isDigit)

/-- `(?:,(\d+))?` with the default of a missing count -/
def count (text : Text) : ℕ × Text :=
  match text with
  | ',' :: rest => (number? rest).getD (1, text)
  | _ => (1, text)

/-- `(\d+)(?:,(\d+))?` -/
def range? (text : Text) : Option (ℕ × ℕ × Text) :=
  (number? text).map fun (start, rest) => (start, count rest)

/-- A match of the expression for hunk headers at the beginning of the text. No choice that the
expression leaves can be taken back: behind a number there is no other digit, and a comma is neither
a digit nor a space. -/
def matchHeader (text : Text) : Option Hunk := do
  let rest ← expect "@@ -".toList text
  let (os, oc, rest) ← range? rest
  let rest ← expect " +".toList rest
  let (ns, nc, rest) ← range? rest
  let _ ← expect " @@".toList rest
  return { os := os, oc := oc, ns := ns, nc := nc }

/-- A character after which `^` matches in an expression with the flag `m`. -/
def isLineTerminator (c : Char) : Bool :=
  c = '\n' || c = '\r' || c = '\u2028' || c = '\u2029'

/-- The successive matches of `re.exec`. They lie on one line each, so that the next one starts on a
later line. -/
def headers (diff : Text) : List Hunk :=
  (diff.splitOnP isLineTerminator).filterMap matchHeader

/-! ## Line ranges -/

/-- An inclusive range of lines. -/
structure LineRange where
  first : ℕ
  last : ℕ
  le : first ≤ last
deriving DecidableEq

/-- The range of `count` lines, if there are any. -/
def lineRange? (start count : ℕ) : Option LineRange :=
  if h : 0 < count then some { first := start, last := start + count - 1, le := by omega }
  else none

inductive Side where
  | old
  | new
deriving DecidableEq

def hunkRanges (diff : Text) (side : Side) : List LineRange :=
  (headers diff).filterMap fun m =>
    match side with
    | .new => lineRange? m.ns m.nc
    | .old => lineRange? m.os m.oc

def overlaps (a b : List LineRange) : Bool :=
  a.any fun r => b.any fun r' => decide (r.first ≤ r'.last) && decide (r'.first ≤ r.last)

def intersect (a b : List LineRange) : List LineRange :=
  a.flatMap fun r => b.filterMap fun r' =>
    let lo := max r.first r'.first
    let hi := min r.last r'.last
    if h : lo ≤ hi then some { first := lo, last := hi, le := h } else none

/-- All lines of a file that does not exist at a base. -/
def wholeFile (source : Text) : LineRange where
  first := 1
  last := (source.splitOn '\n').length
  le := List.length_pos_iff.mpr (List.splitOn_ne_nil '\n' source)

/-- The ranges of the lines that differ from a base, from the difference to the base if there is
one. -/
def baseRanges (source : Text) (d : Option Text) : List LineRange :=
  match d with
  | some d => hunkRanges d .new
  | none => [wholeFile source]

/-- `written === null ? ranges : intersect(written, ranges)` -/
def narrow (source : Text) (written : Option (List LineRange)) (d : Option Text) :
    Option (List LineRange) :=
  match written with
  | none => some (baseRanges source d)
  | some written => some (intersect written (baseRanges source d))

/-- The ranges of the lines that differ from every base, or `none` without a base. -/
def writtenLines (source : Text) (differences : List (Option Text)) : Option (List LineRange) :=
  differences.foldl (narrow source) none

/-! ## Fix mode -/

/-- `h.oc > 0 && overlaps([[h.os, h.os + h.oc - 1]], written)` -/
def isKept (written : List LineRange) (h : Hunk) : Bool :=
  match lineRange? h.os h.oc with
  | some r => overlaps [r] written
  | none => false

/-- What the file has after the fix mode. -/
def fix (source formatted fdiff : Text) (written : List LineRange) : Text :=
  if formatted = source then source
  else if written.isEmpty then source
  else
    let wanted := hunkRanges fdiff .old
    let hits := wanted.filter fun w => overlaps [w] written
    if hits.isEmpty then source
    else
      let src := source.splitOn '\n'
      let dst := formatted.splitOn '\n'
      let keep := (headers fdiff).filter (isKept written)
      ['\n'].intercalate (keep.reverse.foldl (fun src h => h.apply dst src) src)

/-! ## Differences as git writes them -/

/-- One side of a hunk in its header, with a count unless it is 1. -/
def rangeText (start count : ℕ) : Text :=
  Nat.toDigits 10 start ++ if count = 1 then [] else ',' :: Nat.toDigits 10 count

def headerText (h : Hunk) : Text :=
  "@@ -".toList ++ (rangeText h.os h.oc ++ (" +".toList ++ (rangeText h.ns h.nc ++ " @@".toList)))

/-- A removed or added line, with the remark on a missing newline character. -/
def lineText (sign : Char) (line : TextLine) : List Text :=
  (sign :: line.text) ::
    if line.terminated then [] else ["\\ No newline at end of file".toList]

/-- The lines of the text of a difference. Behind every header there may be a heading. -/
def changeTexts (heading : Hunk → Text) (o n : ℕ) : List (Change TextLine) → List Text
  | [] => []
  | change :: changes =>
    (headerText (LineDiff.hunkAt o n change) ++ heading (LineDiff.hunkAt o n change)) ::
      (change.old.flatMap (lineText '-') ++ change.new.flatMap (lineText '+')) ++
      changeTexts heading (o + change.common.length + change.old.length)
        (n + change.common.length + change.new.length) changes

/-- The difference of a file and its formatted version without context, in the form of git: the lines
that differ, the lines before the first hunk, and what is behind the headers. -/
structure GitDiff (source formatted : Text) where
  diff : LineDiff TextLine
  preamble : List Text
  heading : Hunk → Text
  source_eq : diff.source = TextLine.linesOf source
  target_eq : diff.target = TextLine.linesOf formatted
  separated : diff.Separated
  same : source = formatted → diff.changes = []
  plain : ∀ line ∈ preamble, ¬ "@@".toList <+: line

namespace GitDiff

variable {source formatted : Text} (git : GitDiff source formatted)

def lines : List Text := git.preamble ++ changeTexts git.heading 0 0 git.diff.changes

/-- The text of the difference. -/
def text : Text := git.lines.flatMap fun line => line ++ ['\n']

/-- What looks like a header behind another line terminator than a newline. -/
def strayHeaders : List Hunk :=
  git.lines.flatMap fun line => (line.splitOnP isLineTerminator).tail.filterMap matchHeader

end GitDiff

/-! ## What the fix mode promises -/

def IsWritten (written : List LineRange) (line : ℕ) : Prop :=
  ∃ r ∈ written, r.first ≤ line ∧ line ≤ r.last

/-- The hunk replaces or deletes a written line. -/
def ReplacesWritten (written : List LineRange) (h : Hunk) : Prop :=
  ∃ line, h.os ≤ line ∧ line < h.os + h.oc ∧ IsWritten written line

theorem overlaps_iff {a b : List LineRange} :
    overlaps a b = true ↔ ∃ line, IsWritten a line ∧ IsWritten b line := by
  unfold overlaps IsWritten
  simp only [List.any_eq_true, Bool.and_eq_true, decide_eq_true_eq]
  constructor
  · rintro ⟨r, hr, r', hr', hle, hle'⟩
    have hfirst := r.le
    have hfirst' := r'.le
    exact ⟨max r.first r'.first, ⟨r, hr, by omega, by omega⟩, ⟨r', hr', by omega, by omega⟩⟩
  · rintro ⟨line, ⟨r, hr, hline, hline'⟩, ⟨r', hr', hline₂, hline₂'⟩⟩
    exact ⟨r, hr, r', hr', by omega, by omega⟩

theorem isKept_iff {written : List LineRange} {h : Hunk} :
    isKept written h = true ↔ ReplacesWritten written h := by
  unfold isKept lineRange? ReplacesWritten
  by_cases hcount : 0 < h.oc
  · rw [dif_pos hcount]
    dsimp only
    rw [overlaps_iff]
    refine exists_congr fun line => ?_
    have hmem : IsWritten [⟨h.os, h.os + h.oc - 1, by omega⟩] line ↔
        h.os ≤ line ∧ line < h.os + h.oc := by
      unfold IsWritten
      simp only [List.mem_singleton, exists_eq_left]
      omega
    rw [hmem, and_assoc]
  · rw [dif_neg hcount]
    refine iff_of_false Bool.false_ne_true ?_
    rintro ⟨line, hle, hlt, -⟩
    omega

instance (written : List LineRange) (h : Hunk) : Decidable (ReplacesWritten written h) :=
  decidable_of_iff (isKept written h = true) isKept_iff

/-- The source with exactly those hunks applied that replace or delete a written line. -/
def GitDiff.fixed {source formatted : Text} (git : GitDiff source formatted)
    (written : List LineRange) : Text :=
  TextLine.contents (git.diff.applied fun h => decide (ReplacesWritten written h))

/-- If the last hunk is applied, the source and the formatted version agree on ending with a newline,
or nothing is left. -/
def GitDiff.KeepsFinalNewline {source formatted : Text} (git : GitDiff source formatted)
    (written : List LineRange) : Prop :=
  ∀ h, git.diff.hunks.getLast? = some h → ReplacesWritten written h →
    formatted = [] ∨ (TextLine.EndsOpen source ↔ TextLine.EndsOpen formatted)

end PrettierCheck

end SecurityDashboards
