import SecurityDashboards.Lib.JsString

/-!
# What a replacement leaves as it is

A replacement text stands for itself exactly if it has none of the patterns `$$`, `$&`, `` $` `` and
`$'`, and what is replaced is the first occurrence.
-/

namespace Js

/-- The characters that make a pattern after a dollar sign. -/
def patternChars : List Char := ['$', '&', '`', '\'']

/-- The text has a pattern. -/
def HasPattern (l : List Char) : Prop := ∃ c ∈ patternChars, ['$', c] <:+: l

instance (l : List Char) : Decidable (HasPattern l) :=
  List.decidableBEx (fun c => ['$', c] <:+: l) patternChars

/-- The text is empty or starts with another character. -/
def Foreign (l : List Char) : Prop := ∀ c rest, l = c :: rest → c ∉ patternChars

theorem foreign_nil : Foreign [] := by
  intro c rest h
  cases h

theorem foreign_cons {c : Char} (hc : c ∉ patternChars) (l : List Char) : Foreign (c :: l) := by
  intro d rest h
  rwa [← (List.cons.inj h).1]

theorem not_hasPattern_nil : ¬HasPattern [] := by
  rintro ⟨c, -, h⟩
  cases List.infix_nil.mp h

theorem hasPattern_cons_iff {c : Char} {l : List Char} :
    HasPattern (c :: l) ↔ (c = '$' ∧ ∃ d ∈ patternChars, ∃ rest, l = d :: rest) ∨ HasPattern l := by
  constructor
  · rintro ⟨d, hd, h⟩
    rcases List.infix_cons_iff.mp h with ⟨rest, h⟩ | h
    · obtain ⟨hc, hl⟩ := List.cons.inj h
      exact Or.inl ⟨hc.symm, d, hd, rest, hl.symm⟩
    · exact Or.inr ⟨d, hd, h⟩
  · rintro (⟨rfl, d, hd, rest, rfl⟩ | ⟨d, hd, h⟩)
    · exact ⟨d, hd, [], rest, rfl⟩
    · exact ⟨d, hd, List.infix_cons h⟩

theorem not_hasPattern_of_not_mem {l : List Char} (h : '$' ∉ l) : ¬HasPattern l := by
  rintro ⟨c, -, hoccurs⟩
  exact h (hoccurs.subset List.mem_cons_self)

/-- No pattern goes beyond the end of a text if another character follows. -/
theorem hasPattern_append_iff (l : List Char) {rest : List Char} (hrest : Foreign rest) :
    HasPattern (l ++ rest) ↔ HasPattern l ∨ HasPattern rest := by
  induction l with
  | nil =>
    rw [List.nil_append]
    exact ⟨Or.inr, fun h => h.resolve_left not_hasPattern_nil⟩
  | cons c l ih =>
    rw [List.cons_append, hasPattern_cons_iff, hasPattern_cons_iff, ih, or_assoc]
    refine or_congr_left (and_congr_right fun _ => ?_)
    cases l with
    | nil =>
      constructor
      · rintro ⟨d, hd, rest', hrest'⟩
        exact absurd hd (hrest d rest' hrest')
      · rintro ⟨d, -, rest', hrest'⟩
        cases hrest'
    | cons e l =>
      constructor
      · rintro ⟨d, hd, rest', hrest'⟩
        exact ⟨d, hd, l, by rw [(List.cons.inj hrest').1]⟩
      · rintro ⟨d, hd, rest', hrest'⟩
        exact ⟨d, hd, l ++ rest, by rw [(List.cons.inj hrest').1, List.cons_append]⟩

section

variable {before matched after : List Char}

/-- A pattern stands for a dollar sign or for one of the texts. -/
theorem substitution_pattern (before matched after : List Char) {c : Char} (hc : c ∈ patternChars)
    (l : List Char) :
    ∃ text, (text = ['$'] ∨ text = matched ∨ text = before ∨ text = after) ∧
      substitution before matched after ('$' :: c :: l) =
        text ++ substitution before matched after l := by
  simp only [patternChars, List.mem_cons, List.not_mem_nil, or_false] at hc
  rcases hc with rfl | rfl | rfl | rfl
  · exact ⟨['$'], Or.inl rfl, rfl⟩
  · exact ⟨matched, Or.inr (Or.inl rfl), rfl⟩
  · exact ⟨before, Or.inr (Or.inr (Or.inl rfl)), rfl⟩
  · exact ⟨after, Or.inr (Or.inr (Or.inr rfl)), rfl⟩

/-! ## Running behind -/

/-- Characters of patterns by which a replacement runs behind its text. -/
structure IsBehind (behind : List Char) : Prop where
  ne_nil : behind ≠ []
  isPattern : ∀ c ∈ behind, c ∈ patternChars

theorem IsBehind.append {behind more : List Char} (hbehind : ∀ c ∈ behind, c ∈ patternChars)
    (hmore : IsBehind more) : IsBehind (behind ++ more) := by
  refine ⟨List.append_ne_nil_of_right_ne_nil behind hmore.ne_nil, fun c hc => ?_⟩
  rcases List.mem_append.mp hc with hc | hc
  · exact hbehind c hc
  · exact hmore.isPattern c hc

theorem isBehind_pair {c : Char} (hc : c ∈ patternChars) : IsBehind ['$', c] := by
  refine ⟨List.cons_ne_nil _ _, fun d hd => ?_⟩
  rcases List.mem_cons.mp hd with rfl | hd
  · decide
  · rwa [List.mem_singleton.mp hd]

/-- A plain character is written and left behind. -/
theorem behind_of_plain {behind l : List Char} {c : Char} (h : IsBehind behind) (hc : c ≠ '$')
    (heq : substitution before matched after (c :: l) = behind ++ c :: l) :
    ∃ behind', IsBehind behind' ∧ substitution before matched after l = behind' ++ l := by
  obtain ⟨first, rest, rfl⟩ := List.exists_cons_of_ne_nil h.ne_nil
  rw [substitution_cons hc] at heq
  obtain ⟨rfl, heq⟩ := List.cons.inj heq
  refine ⟨rest ++ [c], IsBehind.append (fun d hd => h.isPattern d (List.mem_cons_of_mem _ hd)) ?_,
    by simpa using heq⟩
  refine ⟨List.cons_ne_nil _ _, fun d hd => ?_⟩
  rw [List.mem_singleton.mp hd]
  exact h.isPattern c List.mem_cons_self

/-- A pattern writes at most one character of patterns, and leaves two behind. -/
theorem behind_of_pattern (hmatched : Foreign matched) (hbefore : Foreign before)
    (hafter : Foreign after) {behind l : List Char} {c : Char}
    (hbehind : ∀ d ∈ behind, d ∈ patternChars) (hc : c ∈ patternChars)
    (heq : substitution before matched after ('$' :: c :: l) = behind ++ '$' :: c :: l) :
    ∃ behind', IsBehind behind' ∧ substitution before matched after l = behind' ++ l := by
  obtain ⟨text, htext, hsub⟩ := substitution_pattern before matched after hc l
  have hall := IsBehind.append hbehind (isBehind_pair hc)
  have heq' : text ++ substitution before matched after l = (behind ++ ['$', c]) ++ l := by
    rw [← hsub, heq]
    simp
  by_cases hdollar : text = ['$']
  · have hrest : (behind ++ ['$', c]).tail ≠ [] := by
      cases behind <;> simp
    refine ⟨(behind ++ ['$', c]).tail,
      ⟨hrest, fun d hd => hall.isPattern d (List.mem_of_mem_tail hd)⟩, ?_⟩
    have htail := congrArg List.tail heq'
    rwa [hdollar, List.singleton_append, List.tail_cons,
      List.tail_append_of_ne_nil hall.ne_nil] at htail
  · have hforeign : Foreign text := by
      rcases htext with rfl | rfl | rfl | rfl
      · exact absurd rfl hdollar
      · exact hmatched
      · exact hbefore
      · exact hafter
    cases text with
    | nil => exact ⟨behind ++ ['$', c], hall, heq'⟩
    | cons d text =>
      obtain ⟨first, rest, hfirst⟩ := List.exists_cons_of_ne_nil hall.ne_nil
      rw [hfirst] at heq'
      refine absurd ?_ (hforeign d text rfl)
      rw [(List.cons.inj heq').1]
      exact hall.isPattern first (by rw [hfirst]; exact List.mem_cons_self)

/-- A dollar sign without a pattern cannot follow. -/
theorem not_behind_of_dollar {behind l : List Char} {c : Char} (h : IsBehind behind)
    (hc : c ∉ patternChars) :
    substitution before matched after ('$' :: c :: l) ≠ behind ++ '$' :: c :: l := by
  intro heq
  obtain ⟨first, rest, rfl⟩ := List.exists_cons_of_ne_nil h.ne_nil
  have hne : c ≠ '$' := by
    rintro rfl
    exact hc (by decide)
  rw [substitution_dollar hc, substitution_cons hne] at heq
  have hrest := (List.cons.inj heq).2
  cases rest with
  | nil => exact hne (List.cons.inj hrest).1
  | cons second rest =>
    rw [(List.cons.inj hrest).1] at hc
    exact hc (h.isPattern second (List.mem_cons_of_mem _ List.mem_cons_self))

/-- A replacement that runs behind never catches up. -/
theorem substitution_ne_append (hmatched : Foreign matched) (hbefore : Foreign before)
    (hafter : Foreign after) {behind : List Char} (h : IsBehind behind) (l : List Char) :
    substitution before matched after l ≠ behind ++ l := by
  induction hn : l.length using Nat.strongRecOn generalizing l behind with
  | _ n ih =>
    intro heq
    cases l with
    | nil =>
      rw [List.append_nil] at heq
      exact h.ne_nil heq.symm
    | cons c l =>
      have hlength : l.length < n := by
        rw [← hn, List.length_cons]
        omega
      by_cases hc : c = '$'
      · subst hc
        cases l with
        | nil =>
          obtain ⟨first, rest, rfl⟩ := List.exists_cons_of_ne_nil h.ne_nil
          have hshort := congrArg List.length heq
          simp [substitution] at hshort
        | cons d l =>
          by_cases hd : d ∈ patternChars
          · obtain ⟨behind', h', heq'⟩ :=
              behind_of_pattern hmatched hbefore hafter h.isPattern hd heq
            have hlength' : l.length < n := by
              rw [List.length_cons] at hlength
              omega
            exact ih l.length hlength' h' l rfl heq'
          · exact not_behind_of_dollar h hd heq
      · obtain ⟨behind', h', heq'⟩ := behind_of_plain h hc heq
        exact ih l.length hlength h' l rfl heq'

/-! ## Texts that stand for themselves -/

theorem substitution_of_not_hasPattern {l : List Char} (h : ¬HasPattern l) :
    substitution before matched after l = l := by
  induction l with
  | nil => rfl
  | cons c l ih =>
    rw [hasPattern_cons_iff, not_or] at h
    have hl := ih h.2
    by_cases hc : c = '$'
    · subst hc
      cases l with
      | nil => rfl
      | cons d l =>
        have hd : d ∉ patternChars := fun hd => h.1 ⟨rfl, d, hd, l, rfl⟩
        rw [substitution_dollar hd, hl]
    · rw [substitution_cons hc, hl]

/-- A replacement text stands for itself exactly if it has no pattern. -/
theorem substitution_eq_self_iff (hmatched : Foreign matched) (hbefore : Foreign before)
    (hafter : Foreign after) {l : List Char} :
    substitution before matched after l = l ↔ ¬HasPattern l := by
  refine ⟨fun heq => ?_, substitution_of_not_hasPattern⟩
  induction l with
  | nil => exact not_hasPattern_nil
  | cons c l ih =>
    rw [hasPattern_cons_iff, not_or]
    by_cases hc : c = '$'
    · subst hc
      cases l with
      | nil =>
        refine ⟨?_, not_hasPattern_nil⟩
        rintro ⟨-, d, -, rest, h⟩
        cases h
      | cons d l =>
        by_cases hd : d ∈ patternChars
        · obtain ⟨behind, hbehind, hsub⟩ :=
            behind_of_pattern hmatched hbefore hafter (fun _ h => absurd h List.not_mem_nil) hd heq
          exact absurd hsub (substitution_ne_append hmatched hbefore hafter hbehind l)
        · rw [substitution_dollar hd] at heq
          refine ⟨?_, ih (List.cons.inj heq).2⟩
          rintro ⟨-, e, he, rest, h⟩
          rw [← (List.cons.inj h).1] at he
          exact hd he
    · rw [substitution_cons hc] at heq
      exact ⟨fun h => hc h.1, ih (List.cons.inj heq).2⟩

end

/-! ## The first occurrence -/

/-- The pattern does not occur in the text before this place. -/
def FirstAt (pattern before text : List Char) : Prop :=
  ∀ first last, text = first ++ pattern ++ last → before.length ≤ first.length

theorem firstAt_iff {pattern before text : List Char} :
    FirstAt pattern before text ↔ ∀ i < before.length, ¬pattern <+: text.drop i := by
  constructor
  · rintro h i hi ⟨last, hlast⟩
    have hsplit : text = text.take i ++ pattern ++ last := by
      rw [List.append_assoc, hlast, List.take_append_drop]
    have hlength := h (text.take i) last hsplit
    rw [List.length_take] at hlength
    omega
  · rintro h first last rfl
    by_contra hlength
    refine h first.length (Nat.lt_of_not_le hlength) ⟨last, ?_⟩
    rw [List.append_assoc, List.drop_left]

instance (pattern before text : List Char) : Decidable (FirstAt pattern before text) :=
  decidable_of_iff _ firstAt_iff.symm

theorem exists_firstAt {pattern text : List Char} (h : pattern <:+: text) :
    ∃ before after, text = before ++ pattern ++ after ∧ FirstAt pattern before text := by
  induction text with
  | nil =>
    refine ⟨[], [], ?_, fun _ _ _ => Nat.zero_le _⟩
    rw [List.infix_nil.mp h]
    rfl
  | cons c text ih =>
    by_cases hprefix : pattern <+: c :: text
    · obtain ⟨after, hafter⟩ := hprefix
      exact ⟨[], after, hafter.symm, fun _ _ _ => Nat.zero_le _⟩
    · obtain ⟨before, after, htext, hfirst⟩ := ih ((List.infix_cons_iff.mp h).resolve_left hprefix)
      refine ⟨c :: before, after, by rw [htext]; rfl, fun first last hsplit => ?_⟩
      cases first with
      | nil => exact absurd ⟨last, hsplit.symm⟩ hprefix
      | cons d first => exact Nat.succ_le_succ (hfirst first last (List.cons.inj hsplit).2)

/-- The first occurrence is replaced. -/
theorem replaceFrom_of_firstAt {pattern : List Char} (hpattern : pattern ≠ [])
    (replacement : List Char) {before : List Char} (start after : List Char)
    (hfirst : FirstAt pattern before (before ++ pattern ++ after)) :
    replaceFrom pattern replacement start (before ++ pattern ++ after) =
      before ++ substitution (start ++ before) pattern after replacement ++ after := by
  induction before generalizing start with
  | nil =>
    obtain ⟨c, rest, rfl⟩ := List.exists_cons_of_ne_nil hpattern
    have hprefix : (c :: rest).isPrefixOf (c :: (rest ++ after)) = true := by
      rw [List.isPrefixOf_iff_prefix]
      exact ⟨after, rfl⟩
    have hdrop : (c :: (rest ++ after)).drop (c :: rest).length = after := by
      rw [← List.cons_append, List.drop_left]
    rw [List.nil_append, List.cons_append, replaceFrom, if_pos hprefix]
    simp only [hdrop, List.append_nil, List.nil_append]
  | cons c before ih =>
    have hnot : ¬pattern.isPrefixOf (c :: (before ++ pattern ++ after)) = true := by
      rw [List.isPrefixOf_iff_prefix]
      rintro ⟨last, hlast⟩
      have hlength := hfirst [] last hlast.symm
      simp at hlength
    have hrest : FirstAt pattern before (before ++ pattern ++ after) := by
      intro first last hsplit
      have hlength := hfirst (c :: first) last (congrArg (c :: ·) hsplit)
      exact Nat.le_of_succ_le_succ hlength
    have hih := ih (start ++ [c]) hrest
    rw [List.append_assoc start [c], List.singleton_append] at hih
    rw [List.cons_append, List.cons_append, replaceFrom, if_neg hnot, hih]
    rfl

/-! ## Replacing a text at its place

Where the text that is replaced stands behind a quotation mark and has none, an earlier occurrence
can be replaced with the same result only if the text is the end of its replacement. -/

theorem exists_append_singleton {q : Char} {start rest text : List Char}
    (h : start ++ rest = text ++ [q]) (hrest : rest ≠ []) : ∃ rest', rest = rest' ++ [q] := by
  rcases List.eq_nil_or_concat rest with hnil | ⟨rest', c, rfl⟩
  · exact absurd hnil hrest
  · rw [List.concat_eq_append, ← List.append_assoc] at h
    rw [List.concat_eq_append, (List.cons.inj (List.append_inj_right' h rfl)).1]
    exact ⟨rest', rfl⟩

/-- What stands after the last quotation mark. -/
theorem afterLast_unique {q : Char} {start start' rest rest' : List Char} (hrest : q ∉ rest)
    (hrest' : q ∉ rest') (h : start ++ q :: rest = start' ++ q :: rest') : rest = rest' := by
  rcases List.append_eq_append_iff.mp h with ⟨more, -, hmore⟩ | ⟨more, -, hmore⟩
  · cases more with
    | nil => exact (List.cons.inj hmore).2
    | cons c more =>
      rw [(List.cons.inj hmore).2] at hrest
      exact absurd (List.mem_append_right _ List.mem_cons_self) hrest
  · cases more with
    | nil => exact (List.cons.inj hmore).2.symm
    | cons c more =>
      rw [(List.cons.inj hmore).2] at hrest'
      exact absurd (List.mem_append_right _ List.mem_cons_self) hrest'

theorem exists_afterLast {q : Char} {text : List Char} (h : q ∈ text) :
    ∃ start rest, text = start ++ q :: rest ∧ q ∉ rest := by
  obtain ⟨rest, start, hsplit, hrest⟩ := List.eq_append_cons_of_mem (List.mem_reverse.mpr h)
  refine ⟨start.reverse, rest.reverse, ?_, by simpa using hrest⟩
  have htext := congrArg List.reverse hsplit
  simpa using htext

section

variable {q : Char} {pattern replacement before after : List Char}

/-- An earlier occurrence is followed by a quotation mark and the later one. -/
theorem exists_of_earlier {first last start : List Char} (hq : q ∉ pattern)
    (hbefore : before = start ++ [q]) (hlength : first.length < before.length)
    (h : before ++ pattern ++ after = first ++ pattern ++ last) :
    ∃ between, before = first ++ pattern ++ between ++ [q] ∧
      last = between ++ q :: pattern ++ after := by
  rw [List.append_assoc, List.append_assoc] at h
  rcases List.append_eq_append_iff.mp h.symm with ⟨d, hd, hrest⟩ | ⟨d, hd, -⟩
  · have hne : d ≠ [] := by
      rintro rfl
      rw [hd, List.append_nil] at hlength
      exact lt_irrefl _ hlength
    obtain ⟨d', rfl⟩ := exists_append_singleton (hd.symm.trans hbefore) hne
    rcases List.append_eq_append_iff.mp hrest with ⟨e, he, hlast⟩ | ⟨e, he, -⟩
    · have hne' : e ≠ [] := by
        rintro rfl
        rw [List.append_nil] at he
        exact hq (he ▸ List.mem_append_right _ (List.mem_singleton_self q))
      obtain ⟨between, rfl⟩ := exists_append_singleton he.symm hne'
      refine ⟨between, ?_, by rw [hlast]; simp⟩
      rw [hd, he]
      simp
    · exact absurd (he ▸ List.mem_append_left _ (List.mem_append_right _ (List.mem_singleton_self q)))
        hq
  · rw [hd, List.length_append] at hlength
    omega

/-- If an earlier occurrence is replaced as if it were the later one, the text is the end of its
replacement. -/
theorem exists_end_of_earlier {first last start replaced : List Char} (hq : q ∉ pattern)
    (hbefore : before = start ++ [q]) (hlength : first.length < before.length)
    (h : before ++ pattern ++ after = first ++ pattern ++ last)
    (hreplaced : first ++ replaced ++ last = before ++ replacement ++ after) :
    ∃ text, q :: replacement = text ++ q :: pattern := by
  obtain ⟨between, hsplit, hlast⟩ := exists_of_earlier hq hbefore hlength h
  have hsame : (first ++ (replaced ++ between ++ q :: pattern)) ++ after =
      (first ++ (pattern ++ between ++ q :: replacement)) ++ after := by
    calc (first ++ (replaced ++ between ++ q :: pattern)) ++ after
        = first ++ replaced ++ last := by rw [hlast]; simp
      _ = before ++ replacement ++ after := hreplaced
      _ = (first ++ (pattern ++ between ++ q :: replacement)) ++ after := by rw [hsplit]; simp
  have hends := List.append_cancel_left (List.append_cancel_right hsame)
  obtain ⟨text, rest, htext, hrest⟩ := exists_afterLast (List.mem_cons_self (a := q) (l := replacement))
  rw [htext, ← List.append_assoc] at hends
  rw [htext, ← afterLast_unique hq hrest hends]
  exact ⟨text, rfl⟩

/-- A text that stands behind a quotation mark is replaced there, and by the replacement as it is,
exactly if it does not occur before and the replacement has no pattern. -/
theorem replaceFrom_eq_iff (hpattern : pattern ≠ []) (hforeign : Foreign pattern)
    (hforeignBefore : Foreign before) (hforeignAfter : Foreign after) (hq : before = [] ∨
      (q ∉ pattern ∧ ∃ start, before = start ++ [q]))
    (hend : q ∉ pattern → ∀ text, q :: replacement ≠ text ++ q :: pattern) :
    replaceFrom pattern replacement [] (before ++ pattern ++ after) =
        before ++ replacement ++ after ↔
      FirstAt pattern before (before ++ pattern ++ after) ∧ ¬HasPattern replacement := by
  constructor
  · intro heq
    have hinfix : pattern <:+: before ++ pattern ++ after := ⟨before, after, rfl⟩
    obtain ⟨first, last, hsplit, hfirst⟩ := exists_firstAt hinfix
    have hplace : before.length ≤ first.length := by
      rcases hq with hnil | ⟨hq, start, hbefore⟩
      · rw [hnil]
        exact Nat.zero_le _
      · by_contra hlength
        have hreplaced := replaceFrom_of_firstAt hpattern replacement [] last (hsplit ▸ hfirst)
        rw [hsplit] at heq
        obtain ⟨text, htext⟩ := exists_end_of_earlier hq hbefore (Nat.lt_of_not_le hlength) hsplit
          (hreplaced.symm.trans heq)
        exact hend hq text htext
    have hfirstAt : FirstAt pattern before (before ++ pattern ++ after) := fun first' last' h =>
      hplace.trans (hfirst first' last' h)
    refine ⟨hfirstAt, (substitution_eq_self_iff hforeign hforeignBefore hforeignAfter).mp ?_⟩
    rw [replaceFrom_of_firstAt hpattern replacement [] after hfirstAt] at heq
    exact List.append_cancel_left (List.append_cancel_right heq)
  · rintro ⟨hfirst, hplain⟩
    rw [replaceFrom_of_firstAt hpattern replacement [] after hfirst,
      substitution_of_not_hasPattern hplain]

end

end Js
