import Mathlib.Algebra.Ring.Nat
import Mathlib.Data.List.Infix

/-!
# JavaScript strings

The string methods that the code calls with an ASCII argument, on the characters of a string. On
such arguments they agree with the methods on UTF-16 code units.
-/

namespace Js

/-- A statement about the characters of a text is decided along the text, not along all characters. -/
instance (priority := 2000) decidableForallChar (p : Char → Prop) [DecidablePred p] (l : List Char) :
    Decidable (∀ c ∈ l, p c) :=
  List.decidableBAll p l

/-- `s.startsWith(start)` -/
def startsWith (s start : String) : Bool := start.toList.isPrefixOf s.toList

/-- `s.endsWith(suffix)` -/
def endsWith (s suffix : String) : Bool := suffix.toList.isSuffixOf s.toList

/-- `s.split(separator)` -/
def split (s : String) (separator : Char) : List String :=
  (s.toList.splitOn separator).map String.ofList

/-- `s.length`, in UTF-16 code units. -/
def length (s : String) : ℕ := (s.toList.map fun c => if c.toNat < 65536 then 1 else 2).sum

/-- White space and line terminators, which `trim` removes. -/
def isWhiteSpace (c : Char) : Bool :=
  [0x09, 0x0A, 0x0B, 0x0C, 0x0D, 0x20, 0xA0, 0x1680, 0x2028, 0x2029, 0x202F, 0x205F, 0x3000,
    0xFEFF].contains c.toNat || decide (0x2000 ≤ c.toNat ∧ c.toNat ≤ 0x200A)

/-- `s.trim() === ''` -/
def isBlank (s : String) : Bool := s.toList.all isWhiteSpace

/-- `parseInt(s, 10)`: the digits after white space and a sign, up to the first other character.
`none` is `NaN`. -/
def parseInt (s : String) : Option ℤ :=
  let text := s.toList.dropWhile isWhiteSpace
  let unsigned := if text.head? = some '-' ∨ text.head? = some '+' then text.tail else text
  let digits := unsigned.takeWhile Char.isDigit
  if digits = [] then none
  else
    let n : ℤ := digits.foldl (fun n c => 10 * n + (c.toNat - 48)) 0
    some (if text.head? = some '-' then -n else n)

/-- `s.includes(t)` -/
def includes (s t : String) : Bool := decide (t.toList <:+: s.toList)

/-- The first occurrence of the pattern is replaced. -/
def replaceFirst (pattern replacement : List Char) : List Char → List Char
  | [] => if pattern.isEmpty then replacement else []
  | c :: l =>
    if pattern.isPrefixOf (c :: l) then replacement ++ (c :: l).drop pattern.length
    else c :: replaceFirst pattern replacement l

/-- What the text of a replacement stands for: `$$` is a dollar sign, `$&` the text that is replaced,
and two more patterns are the texts before and after it. -/
def substitution (before matched after : List Char) : List Char → List Char
  | [] => []
  | '$' :: '$' :: l => '$' :: substitution before matched after l
  | '$' :: '&' :: l => matched ++ substitution before matched after l
  | '$' :: '`' :: l => before ++ substitution before matched after l
  | '$' :: '\'' :: l => after ++ substitution before matched after l
  | c :: l => c :: substitution before matched after l

/-- The first occurrence of the pattern in a text is replaced; `before` is what stands before it. -/
def replaceFrom (pattern replacement before : List Char) : List Char → List Char
  | [] => if pattern.isEmpty then substitution before pattern [] replacement else []
  | c :: l =>
    if pattern.isPrefixOf (c :: l) then
      let after := (c :: l).drop pattern.length
      substitution before pattern after replacement ++ after
    else c :: replaceFrom pattern replacement (before ++ [c]) l

/-- `s.replace(pattern, replacement)` -/
def replaceString (s pattern replacement : String) : String :=
  String.ofList (replaceFrom pattern.toList replacement.toList [] s.toList)

/-- `s.replace(pattern, replacement)` for a replacement without `$`. -/
def replace (s pattern replacement : String) : String :=
  String.ofList (replaceFirst pattern.toList replacement.toList s.toList)

theorem startsWith_iff {s start : String} : startsWith s start = true ↔ ∃ t, s = start ++ t := by
  rw [startsWith, List.isPrefixOf_iff_prefix]
  constructor
  · rintro ⟨l, hl⟩
    refine ⟨String.ofList l, ?_⟩
    rw [← String.toList_inj, String.toList_append, String.toList_ofList, hl]
  · rintro ⟨t, rfl⟩
    exact ⟨t.toList, (String.toList_append).symm⟩

/-- What a string starts with is replaced first. -/
theorem replace_append (s t replacement : String) :
    replace (s ++ t) s replacement = replacement ++ t := by
  have hchars : replaceFirst s.toList replacement.toList (s.toList ++ t.toList) =
      replacement.toList ++ t.toList := by
    cases h : s.toList ++ t.toList with
    | nil =>
      obtain ⟨hs, ht⟩ := List.append_eq_nil_iff.mp h
      simp [replaceFirst, hs, ht]
    | cons c l =>
      have hprefix : s.toList.isPrefixOf (c :: l) = true := by
        rw [← h, List.isPrefixOf_iff_prefix]
        exact List.prefix_append _ _
      rw [replaceFirst, if_pos hprefix, ← h, List.drop_left]
  rw [replace, String.toList_append, hchars, ← String.toList_inj, String.toList_ofList,
    String.toList_append]

theorem startsWith_append (s t : String) : startsWith (s ++ t) s = true := by
  simp [startsWith]

/-- The parts of a split text consist of characters of the text that do not split. -/
theorem of_mem_splitOnP {p : Char → Bool} {l : List Char} :
    ∀ segment ∈ l.splitOnP p, ∀ c ∈ segment, c ∈ l ∧ p c = false := by
  induction l with
  | nil => simp
  | cons d l ih =>
    intro segment hsegment c hc
    rw [List.splitOnP_cons_eq_if_modifyHead] at hsegment
    by_cases hd : p d = true
    · rw [if_pos hd] at hsegment
      rcases List.mem_cons.mp hsegment with rfl | hsegment
      · cases hc
      · obtain ⟨hmem, hp⟩ := ih segment hsegment c hc
        exact ⟨List.mem_cons_of_mem _ hmem, hp⟩
    · rw [if_neg hd] at hsegment
      obtain ⟨first, rest, hsplit⟩ := List.exists_cons_of_ne_nil (List.splitOnP_ne_nil p l)
      rw [hsplit] at hsegment ih
      rcases List.mem_cons.mp hsegment with rfl | hsegment
      · rcases List.mem_cons.mp hc with rfl | hc
        · exact ⟨List.mem_cons_self, by simpa using hd⟩
        · obtain ⟨hmem, hp⟩ := ih first List.mem_cons_self c hc
          exact ⟨List.mem_cons_of_mem _ hmem, hp⟩
      · obtain ⟨hmem, hp⟩ := ih segment (List.mem_cons_of_mem _ hsegment) c hc
        exact ⟨List.mem_cons_of_mem _ hmem, hp⟩

/-- A string without the separator is not cut. -/
theorem split_of_not_mem {s : String} {separator : Char} (h : separator ∉ s.toList) :
    split s separator = [s] := by
  rw [split, List.splitOn_eq_singleton h]
  simp

/-- The first cut comes at the first separator. -/
theorem split_append {s t : String} {separator : Char} (h : separator ∉ s.toList) :
    split (s ++ (String.singleton separator ++ t)) separator = s :: split t separator := by
  simp only [split, String.toList_append, String.toList_singleton, List.cons_append,
    List.nil_append, List.splitOn_append_cons_self_of_not_mem h, List.map_cons,
    String.ofList_toList]

/-! ## Replacements -/

theorem substitution_cons {before matched after : List Char} {c : Char} (hc : c ≠ '$') (l : List Char) :
    substitution before matched after (c :: l) = c :: substitution before matched after l := by
  rw [substitution]
  all_goals
    intros
    exact absurd ‹c = '$'› hc

/-- A text without dollar signs stands for itself. -/
theorem substitution_append {before matched after l : List Char} (hl : '$' ∉ l) (rest : List Char) :
    substitution before matched after (l ++ rest) = l ++ substitution before matched after rest := by
  induction l with
  | nil => rfl
  | cons c l ih =>
    have hc : c ≠ '$' := fun h => hl (h ▸ List.mem_cons_self)
    rw [List.cons_append, substitution_cons hc, ih fun h => hl (List.mem_cons_of_mem _ h),
      List.cons_append]

/-- A dollar sign that no pattern begins with stands for itself. -/
theorem substitution_dollar {before matched after : List Char} {c : Char}
    (hc : c ∉ ['$', '&', '`', '\'']) (l : List Char) :
    substitution before matched after ('$' :: c :: l) =
      '$' :: substitution before matched after (c :: l) := by
  rw [substitution]
  all_goals
    rintro rest - heq
    injection heq with heq
    exact hc (by rw [heq]; decide)

/-- Where nothing stands before or after the text that is replaced, a text without `$&` stands for a
selection of its characters. -/
theorem substitution_select (matched : List Char) {c : Char} (hc : c ∉ ['$', '&', '`', '\''])
    (rest : List Char) {l : List Char} (hl : ¬ ['$', '&'] <:+: l) :
    ∃ l' : List Char, (∀ d ∈ l', d ∈ l) ∧ substitution [] matched [] (l ++ c :: rest) =
      l' ++ substitution [] matched [] (c :: rest) := by
  induction hn : l.length using Nat.strongRecOn generalizing l with
  | _ n ih =>
    cases l with
    | nil => exact ⟨[], by simp, rfl⟩
    | cons d l =>
      have htail : ¬ ['$', '&'] <:+: l := fun h => hl (List.infix_cons h)
      have hshorter : l.length < n := by
        rw [← hn, List.length_cons]
        omega
      obtain ⟨l', hmem, heq⟩ := ih l.length hshorter htail rfl
      by_cases hd : d = '$'
      · subst hd
        cases l with
        | nil => exact ⟨['$'], by simp, substitution_dollar hc rest⟩
        | cons e l =>
          have htail' : ¬ ['$', '&'] <:+: l := fun h => htail (List.infix_cons h)
          have hshorter : l.length < n := by
            rw [← hn, List.length_cons, List.length_cons]
            omega
          obtain ⟨l'', hmem'', heq''⟩ := ih l.length hshorter htail' rfl
          have hsub : ∀ d ∈ l'', d ∈ '$' :: e :: l := fun d hd =>
            List.mem_cons_of_mem _ (List.mem_cons_of_mem _ (hmem'' d hd))
          by_cases hpattern : e ∈ ['$', '&', '`', '\'']
          · simp only [List.mem_cons, List.not_mem_nil, or_false] at hpattern
            rcases hpattern with rfl | rfl | rfl | rfl
            · refine ⟨'$' :: l'', ?_, congrArg ('$' :: ·) heq''⟩
              intro d hd
              rcases List.mem_cons.mp hd with rfl | hd
              · exact List.mem_cons_self
              · exact hsub d hd
            · exact absurd ⟨[], l, rfl⟩ hl
            · exact ⟨l'', hsub, heq''⟩
            · exact ⟨l'', hsub, heq''⟩
          · refine ⟨'$' :: l', ?_, ?_⟩
            · intro d hd
              rcases List.mem_cons.mp hd with rfl | hd
              · exact List.mem_cons_self
              · exact List.mem_cons_of_mem _ (hmem d hd)
            · exact (substitution_dollar hpattern _).trans (congrArg ('$' :: ·) heq)
      · refine ⟨d :: l', ?_, ?_⟩
        · intro d' hd'
          rcases List.mem_cons.mp hd' with rfl | hd'
          · exact List.mem_cons_self
          · exact List.mem_cons_of_mem _ (hmem d' hd')
        · exact (substitution_cons hd _).trans (congrArg (d :: ·) heq)

/-- A string that is replaced as a whole. -/
theorem replaceString_self (s replacement : String) :
    replaceString s s replacement =
      String.ofList (substitution [] s.toList [] replacement.toList) := by
  have hself : ∀ l : List Char, replaceFrom l replacement.toList [] l =
      substitution [] l [] replacement.toList := by
    intro l
    cases l with
    | nil => rfl
    | cons c l =>
      have hprefix : (c :: l).isPrefixOf (c :: l) = true := by
        rw [List.isPrefixOf_iff_prefix]
      rw [replaceFrom, if_pos hprefix, List.drop_length, List.append_nil]
  rw [replaceString, hself]

end Js
