import SecurityDashboards.PrettierCheck

/-!
# Proofs: the formatting check

The headers that the script finds are those of the hunks and the stray ones. Splicing the kept hunks
from the last to the first gives the lines with these hunks applied, joined with the ending of the
source.
-/

namespace SecurityDashboards

namespace PrettierCheck

/-! ## Reading a header -/

section Header

theorem expect_append (expected rest : Text) : expect expected (expected ++ rest) = some rest := by
  induction expected with
  | nil => rfl
  | cons c expected ih => rw [List.cons_append, expect, if_pos rfl, ih]

theorem expect_eq_some {expected text rest : Text} (h : expect expected text = some rest) :
    text = expected ++ rest := by
  induction expected generalizing text with
  | nil => exact Option.some.inj h
  | cons c expected ih =>
    cases text with
    | nil => cases h
    | cons d text =>
      rw [expect] at h
      split at h
      · rename_i hcd
        rw [ih h, hcd, List.cons_append]
      · cases h

theorem isDigit_of_mem {n : ℕ} : ∀ c ∈ Nat.toDigits 10 n, c.isDigit = true :=
  fun _ hc => Nat.isDigit_of_mem_toDigits (by decide) (by decide) hc

theorem takeWhile_toDigits (n : ℕ) {c : Char} (hc : c.isDigit = false) (rest : Text) :
    (Nat.toDigits 10 n ++ c :: rest).takeWhile Char.isDigit = Nat.toDigits 10 n := by
  rw [List.takeWhile_append_of_pos isDigit_of_mem,
    List.takeWhile_cons_of_neg (by rw [hc]; exact Bool.false_ne_true), List.append_nil]

theorem dropWhile_toDigits (n : ℕ) {c : Char} (hc : c.isDigit = false) (rest : Text) :
    (Nat.toDigits 10 n ++ c :: rest).dropWhile Char.isDigit = c :: rest := by
  rw [List.dropWhile_append_of_pos isDigit_of_mem,
    List.dropWhile_cons_of_neg (by rw [hc]; exact Bool.false_ne_true)]

/-- A number ends at a character that is no digit. -/
theorem number?_toDigits (n : ℕ) {c : Char} (hc : c.isDigit = false) (rest : Text) :
    number? (Nat.toDigits 10 n ++ c :: rest) = some (n, c :: rest) := by
  unfold number?
  rw [takeWhile_toDigits n hc, dropWhile_toDigits n hc, if_neg Nat.toDigits_ne_nil,
    Nat.ofDigitChars_ten_toDigits]

theorem range?_rangeText (start c : ℕ) (rest : Text) :
    range? (rangeText start c ++ ' ' :: rest) = some (start, c, ' ' :: rest) := by
  unfold range? rangeText
  by_cases hc : c = 1
  · rw [if_pos hc, List.append_nil, number?_toDigits start (by decide), hc]
    rfl
  · rw [if_neg hc, List.append_assoc, List.cons_append, number?_toDigits start (by decide),
      Option.map_some]
    show some (start, (number? (Nat.toDigits 10 c ++ ' ' :: rest)).getD _) = _
    rw [number?_toDigits c (by decide)]
    rfl

/-- A header is read as the hunk that it was made of. -/
theorem matchHeader_headerText (h : Hunk) (rest : Text) :
    matchHeader (headerText h ++ rest) = some h := by
  have hnew : range? (rangeText h.ns h.nc ++ (" @@".toList ++ rest)) =
      some (h.ns, h.nc, " @@".toList ++ rest) :=
    range?_rangeText h.ns h.nc _
  have hold : range? (rangeText h.os h.oc ++
      (" +".toList ++ (rangeText h.ns h.nc ++ (" @@".toList ++ rest)))) =
      some (h.os, h.oc, " +".toList ++ (rangeText h.ns h.nc ++ (" @@".toList ++ rest))) :=
    range?_rangeText h.os h.oc _
  unfold matchHeader headerText
  rw [List.append_assoc, List.append_assoc, List.append_assoc, List.append_assoc, expect_append]
  show (range? _).bind _ = _
  rw [hold, Option.bind_some]
  show (expect _ _).bind _ = _
  rw [expect_append, Option.bind_some]
  show (range? _).bind _ = _
  rw [hnew, Option.bind_some]
  show (expect _ _).bind _ = _
  rw [expect_append]
  rfl

/-- Other lines have no header. -/
theorem matchHeader_eq_none {text : Text} (h : ¬ "@@".toList <+: text) :
    matchHeader text = none := by
  unfold matchHeader
  cases hexpect : expect "@@ -".toList text with
  | none => rfl
  | some rest =>
    refine absurd ?_ h
    rw [expect_eq_some hexpect]
    exact ⟨" -".toList ++ rest, rfl⟩

end Header

/-! ## The headers of a difference -/

section Split

variable {p : Char → Bool}

/-- Splitting leaves what is before the first character that splits. -/
theorem splitOnP_append_of_forall {before : Text} (h : ∀ c ∈ before, p c = false) (rest : Text) :
    (before ++ rest).splitOnP p = (rest.splitOnP p).modifyHead (before ++ ·) := by
  induction before with
  | nil =>
    obtain ⟨first, later, hsplit⟩ := List.exists_cons_of_ne_nil (List.splitOnP_ne_nil p rest)
    rw [List.nil_append, hsplit]
    rfl
  | cons c before ih =>
    obtain ⟨hc, hbefore⟩ := List.forall_mem_cons.mp h
    rw [List.cons_append, List.splitOnP_cons_eq_if_modifyHead,
      if_neg (by rw [hc]; exact Bool.false_ne_true), ih hbefore]
    obtain ⟨first, later, hsplit⟩ := List.exists_cons_of_ne_nil (List.splitOnP_ne_nil p rest)
    rw [hsplit]
    rfl

/-- The first part of a split text is its beginning. -/
theorem beginning_splitOnP {text first : Text} {later : List Text}
    (h : text.splitOnP p = first :: later) : first <+: text := by
  induction text generalizing first later with
  | nil =>
    rw [List.splitOnP_nil] at h
    rw [← (List.cons.inj h).1]
  | cons c text ih =>
    rw [List.splitOnP_cons_eq_if_modifyHead] at h
    split at h
    · rw [← (List.cons.inj h).1]
      exact List.nil_prefix
    · obtain ⟨first', later', hsplit⟩ := List.exists_cons_of_ne_nil (List.splitOnP_ne_nil p text)
      rw [hsplit] at h
      rw [← (List.cons.inj h).1]
      exact List.cons_prefix_cons.mpr ⟨rfl, ih hsplit⟩

theorem splitOnP_lines {separator : Char} (hseparator : p separator = true) (lines : List Text) :
    (lines.flatMap fun line => line ++ [separator]).splitOnP p =
      lines.flatMap (fun line => line.splitOnP p) ++ [[]] := by
  induction lines with
  | nil => rfl
  | cons line lines ih =>
    rw [List.flatMap_cons, List.append_assoc, List.singleton_append,
      List.splitOnP_append_cons _ _ hseparator, ih, List.flatMap_cons, List.append_assoc]

end Split

/-- The header that a line of a difference begins with. -/
def lineHeader (line : Text) : Option Hunk :=
  matchHeader ((line.splitOnP isLineTerminator).headD [])

theorem headers_lines (lines : List Text) :
    headers (lines.flatMap fun line => line ++ ['\n']) =
      lines.flatMap fun line =>
        (lineHeader line).toList ++
          (line.splitOnP isLineTerminator).tail.filterMap matchHeader := by
  unfold headers
  rw [splitOnP_lines (by decide), List.filterMap_append, List.filterMap_flatMap]
  have hempty : [([] : Text)].filterMap matchHeader = [] := rfl
  rw [hempty, List.append_nil]
  refine List.flatMap_congr fun line _ => ?_
  obtain ⟨first, later, hsplit⟩ :=
    List.exists_cons_of_ne_nil (List.splitOnP_ne_nil isLineTerminator line)
  unfold lineHeader
  rw [hsplit, List.filterMap_cons]
  cases hfirst : matchHeader first with
  | none => simp [hfirst]
  | some h => simp [hfirst]

/-- Stray headers that are not kept do not matter. -/
theorem filter_headers {keep : Hunk → Bool} {lines : List Text}
    (hstray : ∀ line ∈ lines, ∀ h ∈ (line.splitOnP isLineTerminator).tail.filterMap matchHeader,
      keep h = false) :
    (headers (lines.flatMap fun line => line ++ ['\n'])).filter keep =
      (lines.filterMap lineHeader).filter keep := by
  rw [headers_lines]
  induction lines with
  | nil => rfl
  | cons line lines ih =>
    obtain ⟨hline, hlines⟩ := List.forall_mem_cons.mp hstray
    have hnone : ((line.splitOnP isLineTerminator).tail.filterMap matchHeader).filter keep = [] :=
      List.filter_eq_nil_iff.mpr fun h hh => by
        rw [hline h hh]
        exact Bool.false_ne_true
    rw [List.flatMap_cons, List.filter_append, List.filter_append, hnone, List.append_nil, ih hlines,
      List.filterMap_cons]
    cases lineHeader line with
    | none => rfl
    | some h => exact (List.filter_append [h] _).symm

/-! ## The lines of a difference -/

section Lines

theorem lineHeader_of_plain {line : Text} (h : ¬ "@@".toList <+: line) : lineHeader line = none := by
  obtain ⟨first, later, hsplit⟩ :=
    List.exists_cons_of_ne_nil (List.splitOnP_ne_nil isLineTerminator line)
  unfold lineHeader
  rw [hsplit]
  exact matchHeader_eq_none fun hbegins => h (hbegins.trans (beginning_splitOnP hsplit))

theorem isLineTerminator_of_isDigit {c : Char} (hc : c.isDigit = true) :
    isLineTerminator c = false := by
  rw [← Bool.not_eq_true]
  intro h
  simp only [isLineTerminator, Bool.or_eq_true, decide_eq_true_eq] at h
  rcases h with ((rfl | rfl) | rfl) | rfl <;> exact absurd hc (by decide)

theorem isLineTerminator_of_mem_rangeText {start count : ℕ} :
    ∀ c ∈ rangeText start count, isLineTerminator c = false := by
  have hdigits (n : ℕ) : ∀ c ∈ Nat.toDigits 10 n, isLineTerminator c = false := fun c hc =>
    isLineTerminator_of_isDigit (isDigit_of_mem c hc)
  intro c hc
  unfold rangeText at hc
  rcases List.mem_append.mp hc with hc | hc
  · exact hdigits start c hc
  · split at hc
    · cases hc
    · rcases List.mem_cons.mp hc with rfl | hc
      · rfl
      · exact hdigits count c hc

theorem isLineTerminator_of_mem_headerText {h : Hunk} :
    ∀ c ∈ headerText h, isLineTerminator c = false := by
  unfold headerText
  refine List.forall_mem_append.mpr ⟨by decide, List.forall_mem_append.mpr ⟨?_, ?_⟩⟩
  · exact isLineTerminator_of_mem_rangeText
  · refine List.forall_mem_append.mpr ⟨by decide, List.forall_mem_append.mpr ⟨?_, by decide⟩⟩
    exact isLineTerminator_of_mem_rangeText

theorem lineHeader_headerText (h : Hunk) (heading : Text) :
    lineHeader (headerText h ++ heading) = some h := by
  obtain ⟨first, later, hsplit⟩ :=
    List.exists_cons_of_ne_nil (List.splitOnP_ne_nil isLineTerminator heading)
  unfold lineHeader
  rw [splitOnP_append_of_forall isLineTerminator_of_mem_headerText, hsplit]
  exact matchHeader_headerText h first

/-- Neither a removed or added line nor the remark has a header. -/
theorem filterMap_lineText {sign : Char} (hsign : sign ≠ '@') (lines : List TextLine) :
    (lines.flatMap (lineText sign)).filterMap lineHeader = [] := by
  rw [List.filterMap_eq_nil_iff]
  intro text htext
  obtain ⟨line, -, htext⟩ := List.mem_flatMap.mp htext
  refine lineHeader_of_plain fun hbegins => ?_
  unfold lineText at htext
  rcases List.mem_cons.mp htext with rfl | htext
  · exact hsign (List.cons_prefix_cons.mp hbegins).1.symm
  · split at htext
    · cases htext
    · rw [List.mem_singleton.mp htext] at hbegins
      exact absurd hbegins (by decide)

theorem filterMap_changeTexts (heading : Hunk → Text) (o n : ℕ) (changes : List (Change TextLine)) :
    (changeTexts heading o n changes).filterMap lineHeader = LineDiff.hunksFrom o n changes := by
  induction changes generalizing o n with
  | nil => rfl
  | cons change changes ih =>
    rw [changeTexts, List.cons_append, List.filterMap_cons_some (lineHeader_headerText _ _),
      List.filterMap_append, List.filterMap_append, filterMap_lineText (by decide),
      filterMap_lineText (by decide), ih]
    rfl

variable {source formatted : Text} (git : GitDiff source formatted)

/-- The headers at the beginning of lines are those of the hunks. -/
theorem filterMap_lines : git.lines.filterMap lineHeader = git.diff.hunks := by
  have hpreamble : git.preamble.filterMap lineHeader = [] :=
    List.filterMap_eq_nil_iff.mpr fun line hline => lineHeader_of_plain (git.plain line hline)
  unfold GitDiff.lines
  rw [List.filterMap_append, hpreamble, filterMap_changeTexts]
  rfl

/-- What the fix mode keeps, unless a stray header is among it. -/
theorem kept_headers {written : List LineRange}
    (hstray : ∀ h ∈ git.strayHeaders, ¬ ReplacesWritten written h) :
    (headers git.text).filter (isKept written) = git.diff.hunks.filter (isKept written) := by
  rw [← filterMap_lines]
  refine filter_headers fun line hline h hh => ?_
  have hnot := hstray h (List.mem_flatMap.mpr ⟨line, hline, hh⟩)
  rwa [← isKept_iff, Bool.not_eq_true] at hnot

end Lines

/-! ## The written lines -/

section Written

variable {a b : List LineRange} {line : ℕ}

/-- The lines that are in both lists of ranges. -/
theorem isWritten_intersect_iff :
    IsWritten (intersect a b) line ↔ IsWritten a line ∧ IsWritten b line := by
  unfold IsWritten intersect
  simp only [List.mem_flatMap, List.mem_filterMap]
  constructor
  · rintro ⟨both, ⟨r, hr, r', hr', hboth⟩, hline⟩
    split at hboth
    · rw [← Option.some.inj hboth] at hline
      dsimp only at hline
      exact ⟨⟨r, hr, by omega, by omega⟩, ⟨r', hr', by omega, by omega⟩⟩
    · cases hboth
  · rintro ⟨⟨r, hr, hline⟩, ⟨r', hr', hline'⟩⟩
    have hle : max r.first r'.first ≤ min r.last r'.last := by omega
    exact ⟨⟨_, _, hle⟩, ⟨r, hr, r', hr', dif_pos hle⟩, by dsimp only; omega⟩

theorem foldl_narrow (source : Text) (differences : List (Option Text)) (ranges : List LineRange) :
    ∃ written, differences.foldl (narrow source) (some ranges) = some written ∧
      ∀ line, IsWritten written line ↔
        IsWritten ranges line ∧ ∀ d ∈ differences, IsWritten (baseRanges source d) line := by
  induction differences generalizing ranges with
  | nil => exact ⟨ranges, rfl, fun line => by simp⟩
  | cons d differences ih =>
    obtain ⟨written, hwritten, hline⟩ := ih (intersect ranges (baseRanges source d))
    refine ⟨written, hwritten, fun line => ?_⟩
    rw [hline, isWritten_intersect_iff, List.forall_mem_cons, and_assoc]

/-- A line counts as written exactly if it differs from every base. -/
theorem isWritten_writtenLines_iff {source : Text} {differences : List (Option Text)}
    {written : List LineRange} (h : writtenLines source differences = some written) :
    IsWritten written line ↔ ∀ d ∈ differences, IsWritten (baseRanges source d) line := by
  cases differences with
  | nil => cases h
  | cons d differences =>
    obtain ⟨written', hwritten, hline⟩ := foldl_narrow source differences (baseRanges source d)
    have hsame : some written' = some written := hwritten.symm.trans h
    rw [← Option.some.inj hsame, hline, List.forall_mem_cons]

end Written

/-! ## The fix mode -/

section Fix

variable {source formatted fdiff : Text} {written : List LineRange}

theorem lineRange?_of_isKept {h : Hunk} (hkept : isKept written h = true) :
    ∃ r, lineRange? h.os h.oc = some r ∧ overlaps [r] written = true := by
  unfold isKept at hkept
  cases hrange : lineRange? h.os h.oc with
  | none => rw [hrange] at hkept; cases hkept
  | some r => rw [hrange] at hkept; exact ⟨r, rfl, hkept⟩

theorem oc_pos_of_isKept {h : Hunk} (hkept : isKept written h = true) : 0 < h.oc := by
  obtain ⟨line, hle, hlt, -⟩ := isKept_iff.mp hkept
  omega

theorem splice_none {hunks : List Hunk} (hnone : ∀ h ∈ hunks, isKept written h = false)
    (source formatted : Text) :
    ['\n'].intercalate ((hunks.filter (isKept written)).foldr
      (Hunk.apply (formatted.splitOn '\n')) (source.splitOn '\n')) = source := by
  have hfilter : hunks.filter (isKept written) = [] :=
    List.filter_eq_nil_iff.mpr fun h hh => by
      rw [hnone h hh]
      exact Bool.false_ne_true
  rw [hfilter, List.foldr_nil, List.intercalate_splitOn]

/-- The early exits leave the file as splicing no hunk does. -/
theorem fix_eq (hne : formatted ≠ source) :
    fix source formatted fdiff written =
      ['\n'].intercalate (((headers fdiff).filter (isKept written)).foldr
        (Hunk.apply (formatted.splitOn '\n')) (source.splitOn '\n')) := by
  unfold fix
  rw [if_neg hne]
  split
  · rename_i hempty
    rw [splice_none fun h _ => ?_]
    rw [List.isEmpty_iff.mp hempty, ← Bool.not_eq_true]
    intro hkept
    obtain ⟨line, -, -, r, hr, -⟩ := isKept_iff.mp hkept
    cases hr
  · dsimp only
    split
    · rename_i hhits
      rw [splice_none fun h hh => ?_]
      rw [← Bool.not_eq_true]
      intro hkept
      obtain ⟨r, hrange, hoverlaps⟩ := lineRange?_of_isKept hkept
      have hwanted : r ∈ hunkRanges fdiff .old := List.mem_filterMap.mpr ⟨h, hh, hrange⟩
      have hhit : r ∈ (hunkRanges fdiff .old).filter fun w => overlaps [w] written :=
        List.mem_filter.mpr ⟨hwanted, hoverlaps⟩
      rw [List.isEmpty_iff.mp hhits] at hhit
      cases hhit
    · rw [List.foldl_reverse]

/-- The lines with the kept hunks applied, joined with the ending of the source. -/
theorem fix_git (git : GitDiff source formatted) (hne : formatted ≠ source)
    (hstray : ∀ h ∈ git.strayHeaders, ¬ ReplacesWritten written h) :
    fix source formatted git.text written =
      ['\n'].intercalate ((git.diff.applied (isKept written)).map TextLine.text ++
        TextLine.emptyRest (TextLine.endsOpen (TextLine.linesOf source))) := by
  rw [fix_eq hne, kept_headers git hstray, TextLine.splitOn_eq source,
    TextLine.splitOn_eq formatted, ← git.source_eq, ← git.target_eq,
    LineDiff.foldr_apply_map TextLine.text fun h => oc_pos_of_isKept]

theorem endsOpen_congr {lines lines' : List TextLine} (h : lines.getLast? = lines'.getLast?) :
    TextLine.endsOpen lines = TextLine.endsOpen lines' := by
  unfold TextLine.endsOpen
  rw [h]

theorem fixed_eq (git : GitDiff source formatted) (written : List LineRange) :
    git.fixed written = TextLine.contents (git.diff.applied (isKept written)) := by
  have hkeep : (fun h => decide (ReplacesWritten written h)) = isKept written := by
    funext h
    rw [Bool.eq_iff_iff, decide_eq_true_iff, isKept_iff]
  unfold GitDiff.fixed
  rw [hkeep]

/-- Where nothing is to be formatted, nothing changes. -/
theorem fixed_of_same (git : GitDiff source formatted) (hsame : source = formatted)
    (written : List LineRange) : git.fixed written = source := by
  have hchanges := git.same hsame
  have hsource : git.diff.applied (isKept written) = git.diff.source := by
    unfold LineDiff.applied LineDiff.source
    rw [hchanges]
    rfl
  rw [fixed_eq, hsource, git.source_eq, TextLine.contents_linesOf]

theorem applied_allButLast (git : GitDiff source formatted) (written : List LineRange) :
    LineDiff.AllButLast (fun line => line.terminated = true)
      (git.diff.applied (isKept written)) := by
  refine LineDiff.allButLast_applied git.separated ?_ ?_ _
  · rw [git.source_eq]
    exact TextLine.linesOf_allButLast source
  · rw [git.target_eq]
    exact TextLine.linesOf_allButLast formatted

/-- If the last hunk is not kept, the text ends as the source does. -/
theorem fix_of_not_kept (git : GitDiff source formatted) (hne : formatted ≠ source)
    (hstray : ∀ h ∈ git.strayHeaders, ¬ ReplacesWritten written h)
    (hnot : ∀ h, git.diff.hunks.getLast? = some h → isKept written h = false) :
    fix source formatted git.text written = git.fixed written := by
  have hend : TextLine.endsOpen (TextLine.linesOf source) =
      TextLine.endsOpen (git.diff.applied (isKept written)) := by
    rw [← git.source_eq]
    exact endsOpen_congr (LineDiff.getLast?_applied_of_not_kept git.separated hnot).symm
  rw [fix_git git hne hstray, hend, fixed_eq]
  exact TextLine.intercalate_lines (applied_allButLast git written)

/-- If the last hunk is kept, the text has to end as the formatted version does. -/
theorem fix_iff_of_kept (git : GitDiff source formatted) (hne : formatted ≠ source)
    (hstray : ∀ h ∈ git.strayHeaders, ¬ ReplacesWritten written h)
    (hkept : ∀ h, git.diff.hunks.getLast? = some h → isKept written h = true) :
    fix source formatted git.text written = git.fixed written ↔
      formatted = [] ∨ (TextLine.EndsOpen source ↔ TextLine.EndsOpen formatted) := by
  have hlast : (git.diff.applied (isKept written)).getLast? =
      (TextLine.linesOf formatted).getLast? := by
    rw [← git.target_eq]
    exact LineDiff.getLast?_applied_of_kept git.separated hkept
  rw [fix_git git hne hstray, fixed_eq]
  by_cases hformatted : formatted = []
  · have happlied : git.diff.applied (isKept written) = [] := by
      rw [TextLine.linesOf_eq_nil_iff.mpr hformatted] at hlast
      exact List.getLast?_eq_none_iff.mp hlast
    refine iff_of_true ?_ (Or.inl hformatted)
    rw [happlied]
    cases TextLine.endsOpen (TextLine.linesOf source) with
    | false => rfl
    | true => rfl
  · have happlied : git.diff.applied (isKept written) ≠ [] := by
      intro hnil
      rw [hnil] at hlast
      exact hformatted
        (TextLine.linesOf_eq_nil_iff.mp (List.getLast?_eq_none_iff.mp hlast.symm))
    rw [TextLine.intercalate_lines_iff (applied_allButLast git written) happlied,
      endsOpen_congr hlast, or_iff_right hformatted, Bool.eq_iff_iff,
      TextLine.endsOpen_linesOf_iff, TextLine.endsOpen_linesOf_iff]

/-- Unless a stray header is among the kept ones, the fix mode applies exactly the hunks that replace
or delete a written line if and only if it keeps the newline at the end that these hunks ask for. -/
theorem fix_exactly_iff (git : GitDiff source formatted) (written : List LineRange)
    (hstray : ∀ h ∈ git.strayHeaders, ¬ ReplacesWritten written h) :
    fix source formatted git.text written = git.fixed written ↔ git.KeepsFinalNewline written := by
  by_cases hsame : formatted = source
  · have hhunks : git.diff.hunks = [] := by
      unfold LineDiff.hunks
      rw [git.same hsame.symm]
      rfl
    refine iff_of_true ?_ fun h hlast => ?_
    · rw [fixed_of_same git hsame.symm]
      exact if_pos hsame
    · rw [hhunks] at hlast
      cases hlast
  · unfold GitDiff.KeepsFinalNewline
    cases hlast : git.diff.hunks.getLast? with
    | none =>
      refine iff_of_true (fix_of_not_kept git hsame hstray fun h hh => ?_) fun h hh => ?_
      · rw [hlast] at hh
        cases hh
      · cases hh
    | some last =>
      by_cases hkept : isKept written last = true
      · rw [fix_iff_of_kept git hsame hstray fun h hh => ?_]
        · constructor
          · exact fun h _ _ _ => h
          · exact fun h => h last rfl (isKept_iff.mp hkept)
        · rw [hlast] at hh
          rwa [← Option.some.inj hh]
      · refine iff_of_true (fix_of_not_kept git hsame hstray fun h hh => ?_) fun h hh hreplaces => ?_
        · rw [hlast] at hh
          rw [← Option.some.inj hh]
          exact Bool.eq_false_iff.mpr hkept
        · rw [← Option.some.inj hh] at hreplaces
          exact absurd (isKept_iff.mpr hreplaces) hkept

end Fix

namespace Sample

def looseSource : Text := "let a=1;\nlet b=2;\n".toList

def looseFormatted : Text := "let a = 1;\nlet b = 2;\n".toList

/-- Both lines are to be formatted. -/
def looseDiff : GitDiff looseSource looseFormatted where
  diff :=
    { changes := [
        { common := []
          old := [⟨"let a=1;".toList, true⟩, ⟨"let b=2;".toList, true⟩]
          new := [⟨"let a = 1;".toList, true⟩, ⟨"let b = 2;".toList, true⟩] }]
      final := [] }
  preamble := ["--- a/sample.js".toList, "+++ b/sample.js".toList]
  heading _ := []
  source_eq := by decide
  target_eq := by decide
  separated := by intro change hchange; cases hchange
  same := by decide
  plain := by decide

theorem looseDiff_fixed :
    fix looseSource looseFormatted looseDiff.text [⟨2, 2, by decide⟩] =
      looseDiff.fixed [⟨2, 2, by decide⟩] :=
  (fix_exactly_iff looseDiff [⟨2, 2, by decide⟩] (by decide)).mpr
    fun _ _ _ => Or.inr (by decide)

def openSource : Text := "let a = 1".toList

def openFormatted : Text := "let a = 1;\n".toList

def openDiff : GitDiff openSource openFormatted where
  diff :=
    { changes := [
        { common := []
          old := [⟨"let a = 1".toList, false⟩]
          new := [⟨"let a = 1;".toList, true⟩] }]
      final := [] }
  preamble := ["--- a/sample.js".toList, "+++ b/sample.js".toList]
  heading _ := []
  source_eq := by decide
  target_eq := by decide
  separated := by intro change hchange; cases hchange
  same := by decide
  plain := by decide

/-- The hunk adds the newline at the end of the file, and the fix mode does not. -/
theorem openDiff_newlineLost :
    fix openSource openFormatted openDiff.text [⟨1, 1, by decide⟩] = "let a = 1;".toList ∧
      openDiff.fixed [⟨1, 1, by decide⟩] = "let a = 1;\n".toList ∧
      fix openSource openFormatted openDiff.text [⟨1, 1, by decide⟩] ≠
        openDiff.fixed [⟨1, 1, by decide⟩] := by
  decide

def straySource : Text := "x\r@@ -3 +1 @@\nb\nc\n".toList

def strayFormatted : Text := "x;\nb\nc\n".toList

def strayDiff : GitDiff straySource strayFormatted where
  diff :=
    { changes := [
        { common := []
          old := [⟨"x\r@@ -3 +1 @@".toList, true⟩]
          new := [⟨"x;".toList, true⟩] }]
      final := [⟨"b".toList, true⟩, ⟨"c".toList, true⟩] }
  preamble := []
  heading _ := []
  source_eq := by decide
  target_eq := by decide
  separated := by intro change hchange; cases hchange
  same := by decide
  plain := by decide

/-- A stray header overwrites a line that is in no hunk. -/
example : fix straySource strayFormatted strayDiff.text [⟨3, 3, by decide⟩] =
    "x\r@@ -3 +1 @@\nb\nx;\n".toList := by decide

end Sample

end PrettierCheck

end SecurityDashboards
