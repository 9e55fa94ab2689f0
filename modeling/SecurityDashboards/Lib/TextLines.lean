import SecurityDashboards.Lib.JsString
import SecurityDashboards.Lib.LineDiff

/-!
# The lines of a text

A line ends with a newline character, which the last line of a text may lack. Splitting a text at its
newline characters gives the same lines without them, and an empty one after the last newline.
-/

/-- A line without its newline character, and whether it has one. -/
structure TextLine where
  text : List Char
  terminated : Bool
deriving DecidableEq

namespace TextLine

def content (line : TextLine) : List Char :=
  if line.terminated then line.text ++ ['\n'] else line.text

/-- The text that the lines make. -/
def contents (lines : List TextLine) : List Char := lines.flatMap content

/-- The last line lacks its newline character. -/
def endsOpen (lines : List TextLine) : Bool := lines.getLast?.any fun line => !line.terminated

/-- The part of a text behind its last newline character. -/
def openPart (part : List Char) : List TextLine :=
  if part = [] then [] else [{ text := part, terminated := false }]

/-- The parts of a text between its newline characters, as lines. -/
def ofParts : List (List Char) → List TextLine
  | [] => []
  | [part] => openPart part
  | part :: parts => { text := part, terminated := true } :: ofParts parts

/-- The lines of a text. -/
def linesOf (text : List Char) : List TextLine := ofParts (text.splitOn '\n')

/-- What splitting a text at the newlines gives beyond its lines. -/
def emptyRest (endsOpen : Bool) : List (List Char) := if endsOpen then [] else [[]]

/-! ## Parts and lines -/

theorem ofParts_cons {parts : List (List Char)} (hne : parts ≠ []) (part : List Char) :
    ofParts (part :: parts) = { text := part, terminated := true } :: ofParts parts := by
  cases parts with
  | nil => exact absurd rfl hne
  | cons part' parts => rfl

theorem endsOpen_cons {lines : List TextLine} (hne : lines ≠ []) (line : TextLine) :
    endsOpen (line :: lines) = endsOpen lines := by
  unfold endsOpen
  rw [← List.singleton_append, List.getLast?_append_of_ne_nil _ hne]

theorem parts_eq {parts : List (List Char)} (hne : parts ≠ []) :
    parts = (ofParts parts).map text ++ emptyRest (endsOpen (ofParts parts)) := by
  induction parts with
  | nil => exact absurd rfl hne
  | cons part parts ih =>
    by_cases hparts : parts = []
    · subst hparts
      unfold ofParts openPart
      by_cases hpart : part = []
      · rw [if_pos hpart, hpart]
        rfl
      · rw [if_neg hpart]
        rfl
    · rw [ofParts_cons hparts]
      by_cases hlines : ofParts parts = []
      · have hlast := ih hparts
        rw [hlines] at hlast ⊢
        rw [hlast]
        rfl
      · rw [endsOpen_cons hlines, List.map_cons, List.cons_append, ← ih hparts]

/-- Splitting a text gives its lines without the newlines. -/
theorem splitOn_eq (text : List Char) :
    text.splitOn '\n' =
      (linesOf text).map TextLine.text ++ emptyRest (endsOpen (linesOf text)) :=
  parts_eq (List.splitOn_ne_nil '\n' text)

theorem contents_cons (line : TextLine) (lines : List TextLine) :
    contents (line :: lines) = line.content ++ contents lines := List.flatMap_cons

theorem contents_ofParts (parts : List (List Char)) :
    contents (ofParts parts) = ['\n'].intercalate parts := by
  induction parts with
  | nil => rfl
  | cons part parts ih =>
    by_cases hparts : parts = []
    · subst hparts
      rw [List.intercalate_singleton]
      unfold ofParts openPart
      by_cases hpart : part = []
      · rw [if_pos hpart, hpart]
        rfl
      · rw [if_neg hpart, contents_cons]
        exact List.append_nil part
    · rw [ofParts_cons hparts, contents_cons, ih, List.intercalate_cons_of_ne_nil hparts]
      rfl

/-- The lines of a text make the text. -/
theorem contents_linesOf (text : List Char) : contents (linesOf text) = text := by
  rw [linesOf, contents_ofParts, List.intercalate_splitOn]

theorem linesOf_eq_nil_iff {text : List Char} : linesOf text = [] ↔ text = [] := by
  constructor
  · intro h
    rw [← contents_linesOf text, h]
    rfl
  · rintro rfl
    rfl

theorem ofParts_allButLast (parts : List (List Char)) :
    LineDiff.AllButLast (fun line => line.terminated = true) (ofParts parts) := by
  induction parts with
  | nil => intro line hline; cases hline
  | cons part parts ih =>
    by_cases hparts : parts = []
    · subst hparts
      unfold ofParts openPart
      split
      · intro line hline; cases hline
      · intro line hline; cases hline
    · rw [ofParts_cons hparts, ← List.singleton_append]
      refine LineDiff.allButLast_append (fun line hline => ?_) ih
      rw [List.mem_singleton.mp hline]

/-- Only the last line of a text may lack its newline character. -/
theorem linesOf_allButLast (text : List Char) :
    LineDiff.AllButLast (fun line => line.terminated = true) (linesOf text) :=
  ofParts_allButLast _

/-! ## Joining lines -/

/-- Joined lines make their text if what splitting adds is added as well. -/
theorem intercalate_lines {lines : List TextLine}
    (h : LineDiff.AllButLast (fun line => line.terminated = true) lines) :
    ['\n'].intercalate (lines.map text ++ emptyRest (endsOpen lines)) = contents lines := by
  induction lines with
  | nil => rfl
  | cons line lines ih =>
    by_cases hlines : lines = []
    · subst hlines
      obtain ⟨text, terminated⟩ := line
      cases terminated with
      | false => exact List.intercalate_singleton.trans (List.append_nil text).symm
      | true =>
        show ['\n'].intercalate [text, []] = text ++ ['\n'] ++ []
        rw [List.intercalate_cons_cons, List.intercalate_singleton]
    · rw [← List.singleton_append, LineDiff.allButLast_append_iff hlines] at h
      obtain ⟨hline, hrest⟩ := h
      have hne : lines.map text ++ emptyRest (endsOpen lines) ≠ [] :=
        fun hnil => hlines (List.map_eq_nil_iff.mp (List.append_eq_nil_iff.mp hnil).1)
      rw [endsOpen_cons hlines, List.map_cons, List.cons_append,
        List.intercalate_cons_of_ne_nil hne, ih hrest, contents_cons, content,
        if_pos (hline line (List.mem_singleton_self line))]

theorem intercalate_concat_nil {parts : List (List Char)} (hne : parts ≠ []) :
    ['\n'].intercalate (parts ++ [[]]) = ['\n'].intercalate parts ++ ['\n'] := by
  induction parts with
  | nil => exact absurd rfl hne
  | cons part parts ih =>
    by_cases hparts : parts = []
    · subst hparts
      show ['\n'].intercalate [part, []] = ['\n'].intercalate [part] ++ ['\n']
      rw [List.intercalate_cons_cons, List.intercalate_singleton, List.intercalate_singleton,
        List.append_nil]
    · rw [List.cons_append, List.intercalate_cons_of_ne_nil (by simp), ih hparts,
        List.intercalate_cons_of_ne_nil hparts, List.append_assoc, List.append_assoc,
        List.append_assoc]

/-- Joined lines make their text only then, unless there are none. -/
theorem intercalate_lines_iff {lines : List TextLine}
    (h : LineDiff.AllButLast (fun line => line.terminated = true) lines) (hne : lines ≠ [])
    (isOpen : Bool) :
    ['\n'].intercalate (lines.map text ++ emptyRest isOpen) = contents lines ↔
      isOpen = endsOpen lines := by
  have hparts : lines.map text ≠ [] := fun hnil => hne (List.map_eq_nil_iff.mp hnil)
  have hlonger : ['\n'].intercalate (lines.map text ++ emptyRest false) =
      ['\n'].intercalate (lines.map text ++ emptyRest true) ++ ['\n'] := by
    show ['\n'].intercalate (lines.map text ++ [[]]) =
      ['\n'].intercalate (lines.map text ++ []) ++ ['\n']
    rw [List.append_nil, intercalate_concat_nil hparts]
  refine ⟨fun heq => ?_, fun heq => ?_⟩
  · rw [← intercalate_lines h] at heq
    cases isOpen with
    | false =>
      cases hopen : endsOpen lines with
      | false => rfl
      | true =>
        rw [hopen, hlonger] at heq
        exact absurd heq (by simp)
    | true =>
      cases hopen : endsOpen lines with
      | false =>
        rw [hopen, hlonger] at heq
        exact absurd heq (by simp)
      | true => rfl
  · rw [heq]
    exact intercalate_lines h

/-! ## The end of a text -/

/-- The text is not empty and ends with another character than a newline. -/
def EndsOpen (text : List Char) : Prop := ∃ c, text.getLast? = some c ∧ c ≠ '\n'

theorem mem_ofParts {parts : List (List Char)} :
    ∀ line ∈ ofParts parts, line.text ∈ parts ∧ (line.terminated = false → line.text ≠ []) := by
  induction parts with
  | nil => intro line hline; cases hline
  | cons part parts ih =>
    intro line hline
    by_cases hparts : parts = []
    · subst hparts
      unfold ofParts openPart at hline
      split at hline
      · cases hline
      · rename_i hpart
        rw [List.mem_singleton.mp hline]
        exact ⟨List.mem_cons_self, fun _ => hpart⟩
    · rw [ofParts_cons hparts] at hline
      rcases List.mem_cons.mp hline with rfl | hline
      · exact ⟨List.mem_cons_self, fun h => absurd h Bool.true_eq_false.mp⟩
      · exact ⟨List.mem_cons_of_mem part (ih line hline).1, (ih line hline).2⟩

theorem newline_not_mem {text : List Char} {line : TextLine} (hline : line ∈ linesOf text) :
    '\n' ∉ line.text := by
  intro hnewline
  have hpart := (mem_ofParts line hline).1
  rw [List.splitOn_eq_splitOnP] at hpart
  exact absurd (Js.of_mem_splitOnP line.text hpart '\n' hnewline).2 (by decide)

theorem contents_concat (lines : List TextLine) (line : TextLine) :
    contents (lines ++ [line]) = contents lines ++ line.content := by
  unfold contents
  rw [List.flatMap_append, List.flatMap_singleton]

theorem endsOpen_concat (lines : List TextLine) (line : TextLine) :
    endsOpen (lines ++ [line]) = !line.terminated := by
  unfold endsOpen
  rw [List.getLast?_concat]
  rfl

/-- The last line lacks its newline character exactly if the text ends with another one. -/
theorem endsOpen_linesOf_iff {text : List Char} :
    endsOpen (linesOf text) = true ↔ EndsOpen text := by
  have htext := contents_linesOf text
  obtain hnil | ⟨lines, line, hlines⟩ := List.eq_nil_or_concat' (linesOf text)
  · rw [hnil] at htext ⊢
    refine iff_of_false Bool.false_ne_true ?_
    rintro ⟨c, hc, -⟩
    rw [← htext] at hc
    cases hc
  · have hline : line ∈ linesOf text := by
      rw [hlines]
      exact List.mem_append_right lines (List.mem_singleton_self line)
    rw [hlines, contents_concat] at htext
    rw [hlines, endsOpen_concat]
    cases hterminated : line.terminated with
    | true =>
      refine iff_of_false Bool.false_ne_true ?_
      rintro ⟨c, hc, hne⟩
      rw [← htext, content, if_pos hterminated, ← List.append_assoc, List.getLast?_concat] at hc
      exact hne (Option.some.inj hc).symm
    | false =>
      refine iff_of_true rfl ?_
      have hnonempty := (mem_ofParts line hline).2 hterminated
      obtain hnil | ⟨before, c, hsplit⟩ := List.eq_nil_or_concat' line.text
      · exact absurd hnil hnonempty
      · refine ⟨c, ?_, ?_⟩
        · rw [← htext, content, if_neg (by rw [hterminated]; exact Bool.false_ne_true), hsplit,
            ← List.append_assoc, List.getLast?_concat]
        · rintro rfl
          refine newline_not_mem hline ?_
          rw [hsplit]
          exact List.mem_append_right before (List.mem_singleton_self _)

instance (text : List Char) : Decidable (EndsOpen text) :=
  decidable_of_iff (endsOpen (linesOf text) = true) endsOpen_linesOf_iff

end TextLine
