import SecurityDashboards.CookieSplitter
import SecurityDashboards.SampleServer

/-!
# Proofs: the split cookies round trip

A value that is cut into cookies is what is read back, later in the same request and on the next
request of the browser, whatever was queued or held before.
-/

namespace SecurityDashboards

theorem splitCookieName_inj {cookiePrefix : String} {i j : ℕ}
    (h : splitCookieName cookiePrefix i = splitCookieName cookiePrefix j) : i = j := by
  have hrepr : Nat.repr (i + 1) = Nat.repr (j + 1) := (String.append_right_inj cookiePrefix).mp h
  have hdigits : Nat.toDigits 10 (i + 1) = Nat.toDigits 10 (j + 1) := by
    rw [← Nat.toList_repr, ← Nat.toList_repr, hrepr]
  have hsucc := congrArg (fun digits => Nat.ofDigitChars 10 digits 0) hdigits
  simp only [Nat.ofDigitChars_ten_toDigits] at hsucc
  omega

/-- The pieces cover the value. -/
theorem length_le_splitValueAt {length n : ℕ} (hn : 0 < n) :
    length ≤ n * splitValueAt length n := by
  unfold splitValueAt
  split
  · have hdiv := Nat.div_add_mod (length + n - 1) n
    have hmod := Nat.mod_lt (length + n - 1) hn
    omega
  · omega

theorem flatMap_chunk_splitValueAt {n : ℕ} (hn : 0 < n) (value : Text) :
    (List.range n).flatMap (Chunks.chunk (splitValueAt value.length n) value) = value :=
  Chunks.flatMap_chunk_of_le (length_le_splitValueAt hn)

/-! ## Writing -/

theorem lookup_split {states : States} {cookiePrefix : String} {value : Text} {n i : ℕ}
    (hi : i < n) :
    (splitValueIntoCookies states cookiePrefix value n).lookup (splitCookieName cookiePrefix i) =
      some (if (Chunks.chunk (splitValueAt value.length n) value i).isEmpty then none
        else some (Chunks.chunk (splitValueAt value.length n) value i)) := by
  unfold splitValueIntoCookies
  generalize splitValueAt value.length n = size
  induction n with
  | zero => omega
  | succ n ih =>
    rw [List.range_succ, List.foldl_append]
    simp only [List.foldl_cons, List.foldl_nil, List.lookup_cons]
    by_cases hin : i = n
    · subst hin; simp
    · have hne : (splitCookieName cookiePrefix i == splitCookieName cookiePrefix n) = false := by
        simpa using fun h => hin (splitCookieName_inj h)
      rw [hne]
      exact ih (by omega)

/-- The browser applies a piece of the value, or clears the cookie where the piece is empty. -/
theorem split_applyStates {states : States} {cookiePrefix : String} {value : Text} {n i : ℕ}
    (hi : i < n) (browser : Browser) :
    ((browser.applyStates (splitValueIntoCookies states cookiePrefix value n)).split
      (splitCookieName cookiePrefix i)).getD [] =
        Chunks.chunk (splitValueAt value.length n) value i := by
  simp only [Browser.applyStates, lookup_split hi]
  generalize Chunks.chunk _ _ i = piece
  cases piece with
  | nil => rfl
  | cons a l => rfl

/-- What is written in a request is in the browser after its response. -/
theorem holds_applyStates {runtime : Runtime} {states states' : States} {content : String}
    {options : ExtraAuthStorageOptions}
    (h : setExtraAuthStorage runtime states (.str content) options = .ok states')
    (browser : Browser) : (browser.applyStates states').Holds runtime options content := by
  intro i hi
  cases h
  exact split_applyStates hi browser

/-- A value that fits is cut into fragments of at most the maximum length. -/
theorem length_fragment_le {states : States} {cookiePrefix : String} {value fragment : Text}
    {n i : ℕ} (hfits : value.length ≤ n * maxLengthPerCookie) (hi : i < n)
    (h : (splitValueIntoCookies states cookiePrefix value n).lookup
      (splitCookieName cookiePrefix i) = some (some fragment)) :
    fragment.length ≤ maxLengthPerCookie := by
  have hsize : splitValueAt value.length n = maxLengthPerCookie := if_neg (by omega)
  rw [lookup_split hi, hsize, Option.some.injEq] at h
  split at h
  · cases h
  · obtain rfl := Option.some.inj h
    rw [Chunks.chunk_eq, List.length_take]
    omega

/-! ## Reading -/

/-- A later request reads the pieces that the browser holds. -/
theorem unsplit_of_chunks {cookiePrefix : String} {value : Text} {n : ℕ} {request : Request}
    (hn : 0 < n)
    (h : ∀ i < n, (request.cookies.split (splitCookieName cookiePrefix i)).getD [] =
      Chunks.chunk (splitValueAt value.length n) value i) :
    unsplitCookiesIntoValue request [] cookiePrefix n = value := by
  have hread : (List.range n).flatMap (fun i =>
        (request.cookies.split (splitCookieName cookiePrefix i)).getD []) =
      (List.range n).flatMap (Chunks.chunk (splitValueAt value.length n) value) :=
    List.flatMap_congr fun i hi => h i (List.mem_range.mp hi)
  have hvalue := hread.trans (flatMap_chunk_splitValueAt hn value)
  simpa [unsplitCookiesIntoValue] using hvalue

/-- The text of a stored value is not empty. -/
theorem encoded_ne_nil (runtime : Runtime) (content : String) :
    Buffer.toBase64 (runtime.deflateSync content) ≠ [] := by
  intro h
  have hbuffer : runtime.deflateSync content = [] := by
    rw [← Buffer.fromBase64_toBase64 (runtime.deflateSync content), h]
    rfl
  have hempty := runtime.inflate_empty
  rw [← hbuffer, runtime.inflate_deflate] at hempty
  cases hempty

theorem unsplit_of_holds {runtime : Runtime} {options : ExtraAuthStorageOptions} {content : String}
    {request : Request} (hn : 0 < options.additionalCookies)
    (h : request.cookies.Holds runtime options content) :
    unsplitCookiesIntoValue request [] options.cookiePrefix options.additionalCookies =
      Buffer.toBase64 (runtime.deflateSync content) :=
  unsplit_of_chunks hn h

theorem getExtra_of_holds {runtime : Runtime} {options : ExtraAuthStorageOptions}
    {content : String} {request : Request} (hn : 0 < options.additionalCookies)
    (h : request.cookies.Holds runtime options content) :
    getExtraAuthStorageValue runtime request [] options = .ok content := by
  simp only [getExtraAuthStorageValue, gt_iff_lt, hn, if_true, unsplit_of_holds hn h,
    Buffer.fromBase64_toBase64, runtime.inflate_deflate, Except.mapError]

theorem unsplit_of_split {states : States} {cookiePrefix : String} {n : ℕ} (hn : 0 < n)
    (value : Text) (request : Request) :
    unsplitCookiesIntoValue request (splitValueIntoCookies states cookiePrefix value n)
      cookiePrefix n = value := by
  have hread : (List.range n).flatMap (fun i =>
        (((splitValueIntoCookies states cookiePrefix value n).lookup
          (splitCookieName cookiePrefix i)).getD none).getD []) =
      (List.range n).flatMap (Chunks.chunk (splitValueAt value.length n) value) := by
    refine List.flatMap_congr fun i hi => ?_
    rw [lookup_split (List.mem_range.mp hi)]
    generalize Chunks.chunk _ _ i = piece
    cases piece <;> rfl
  rw [unsplitCookiesIntoValue, lookup_split hn]
  simp only [Option.isSome_some, if_true]
  rw [hread, flatMap_chunk_splitValueAt hn]

/-- The same request reads what it has just written. -/
theorem getExtra_of_set {runtime : Runtime} {options : ExtraAuthStorageOptions} {content : String}
    {states states' : States} (hn : 0 < options.additionalCookies)
    (h : setExtraAuthStorage runtime states (.str content) options = .ok states')
    (request : Request) : getExtraAuthStorageValue runtime request states' options = .ok content := by
  cases h
  simp only [getExtraAuthStorageValue, gt_iff_lt, hn, if_true, unsplit_of_split hn,
    Buffer.fromBase64_toBase64, runtime.inflate_deflate, Except.mapError]

/-- Cutting a value into cookies and reading it back gives the value: in the same request, and from
the cookies that the browser has afterwards. What was queued and held before does not matter. -/
theorem split_round_trip (runtime : Runtime) (states : States) (browser : Browser)
    (cookiePrefix : String) (value : Text) (n : ℕ) (hn : 1 ≤ n) :
    (∀ request, unsplitCookiesIntoValue request
      (splitValueIntoCookies states cookiePrefix value n) cookiePrefix n = value) ∧
    (∀ later : Request,
      later.cookies = browser.applyStates (splitValueIntoCookies states cookiePrefix value n) →
      unsplitCookiesIntoValue later [] cookiePrefix n = value) ∧
    (value.length ≤ n * maxLengthPerCookie → ∀ i < n, ∀ fragment,
      (splitValueIntoCookies states cookiePrefix value n).lookup
        (splitCookieName cookiePrefix i) = some (some fragment) →
      fragment.length ≤ maxLengthPerCookie) ∧
    ∀ content, ∃ states',
      setExtraAuthStorage runtime states (.str content) ⟨cookiePrefix, n⟩ = .ok states' ∧
      (∀ request, getExtraAuthStorageValue runtime request states' ⟨cookiePrefix, n⟩ =
        .ok content) ∧
      ∀ later : Request, later.cookies = browser.applyStates states' →
        getExtraAuthStorageValue runtime later [] ⟨cookiePrefix, n⟩ = .ok content := by
  have hadditional : 0 < ExtraAuthStorageOptions.additionalCookies ⟨cookiePrefix, n⟩ := hn
  refine ⟨unsplit_of_split hn value, fun later hlater => ?_, fun hfits i hi fragment hlookup => ?_,
    fun content => ⟨_, rfl, fun request => ?_, fun later hlater => ?_⟩⟩
  · refine unsplit_of_chunks hn fun i hi => ?_
    rw [hlater]
    exact split_applyStates hi browser
  · exact length_fragment_le hfits hi hlookup
  · exact getExtra_of_set hadditional rfl request
  · refine getExtra_of_holds hadditional ?_
    rw [hlater]
    exact holds_applyStates rfl browser

/-- The token of the sample server over three cookies, where older ones are still around. -/
theorem Sample.split_round_trip_token :
    unsplitCookiesIntoValue
        { url := { pathname := "/" }
          cookies := Browser.applyStates {} (splitValueIntoCookies
            [("extra2", some [7]), ("extra3", none)] "extra" tokenText 3) } [] "extra" 3 =
      tokenText :=
  (split_round_trip runtime [("extra2", some [7]), ("extra3", none)] {} "extra" tokenText 3
    (by decide)).2.1 _ rfl

theorem states_ne_nil {runtime : Runtime} {options : ExtraAuthStorageOptions} {content : String}
    {states states' : States} (hn : 0 < options.additionalCookies)
    (h : setExtraAuthStorage runtime states (.str content) options = .ok states') :
    states' ≠ [] := by
  cases h
  intro hnil
  have hlookup : (splitValueIntoCookies states options.cookiePrefix
      (Buffer.toBase64 (runtime.deflateSync content)) options.additionalCookies).lookup
        (splitCookieName options.cookiePrefix 0) = some _ := lookup_split hn
  rw [hnil] at hlookup
  cases hlookup

end SecurityDashboards
