import SecurityDashboards.SignInOptions
import SecurityDashboards.SampleServer

/-!
# Proofs: sign-in options
-/

namespace SecurityDashboards

variable {runtime : Runtime} {config : SecurityPluginConfig}

/-! ## Texts -/

theorem toLowerCase_supported (text : String) (h : text ∈ supportedAuthTypes) :
    runtime.toLowerCase text = text := by
  have hascii : ∀ text ∈ supportedAuthTypes, ∀ c ∈ text.toList, c.toNat < 128 := by decide
  have hlower : ∀ text ∈ supportedAuthTypes, asciiToLowerCase text = text := by decide
  rw [runtime.toLowerCase_ascii text (hascii text h), hlower text h]

theorem AuthType.key_mem (authType : AuthType) : authType.key ∈ supportedAuthTypes := by
  cases authType <;> decide

theorem AuthType.key_injective : Function.Injective AuthType.key := by
  intro a b h
  cases a <;> cases b <;> first | rfl | exact absurd h (by decide)

theorem AuthType.ofKey_eq_some_iff {key : String} {authType : AuthType} :
    AuthType.ofKey key = some authType ↔ authType.key = key := by
  constructor
  · intro h
    have hkey := List.find?_some h
    exact beq_iff_eq.mp hkey
  · rintro rfl
    cases authType <;> decide

/-! ## The types of a server -/

/-- The handler that `init` builds for a configured type. -/
def handlerFor (runtime : Runtime) (authType : String) : Except JsError AuthType :=
  match AuthType.ofKey (runtime.toLowerCase authType) with
  | some t => .ok t
  | none => .error (.error ("Unsupported authentication type: " ++ authType))

theorem handlerFor_eq_ok_iff {text : String} {authType : AuthType} :
    handlerFor runtime text = .ok authType ↔ authType.key = runtime.toLowerCase text := by
  rw [← AuthType.ofKey_eq_some_iff, handlerFor]
  cases AuthType.ofKey (runtime.toLowerCase text) with
  | none => exact iff_of_false (fun h => nomatch h) (fun h => nomatch h)
  | some t => simp only [Except.ok.injEq, Option.some.injEq]

/-- The types that `init` finds are those that are configured. -/
theorem mem_of_mapM_handlerFor {texts : List String} {types : List AuthType}
    (h : texts.mapM (handlerFor runtime) = .ok types) (authType : AuthType) :
    authType ∈ types ↔ ∃ text ∈ texts, authType.key = runtime.toLowerCase text := by
  induction texts generalizing types with
  | nil =>
    rw [List.mapM_nil] at h
    cases h
    exact iff_of_false List.not_mem_nil fun ⟨_, h, _⟩ => List.not_mem_nil h
  | cons text texts ih =>
    rw [List.mapM_cons] at h
    obtain ⟨first, hfirst, h⟩ := Except.bind_eq_ok_iff.mp h
    obtain ⟨rest, hrest, h⟩ := Except.bind_eq_ok_iff.mp h
    cases h
    rw [List.mem_cons, ih hrest, List.exists_mem_cons_iff]
    refine or_congr ?_ Iff.rfl
    rw [← handlerFor_eq_ok_iff, hfirst, Except.ok.injEq, eq_comm]

theorem mapM_handlerFor_isOk {texts : List String} :
    (∃ types, texts.mapM (handlerFor runtime) = .ok types) ↔
      ∀ text ∈ texts, ∃ authType : AuthType, authType.key = runtime.toLowerCase text := by
  induction texts with
  | nil => exact iff_of_true ⟨[], rfl⟩ (List.forall_mem_nil _)
  | cons text texts ih =>
    rw [List.forall_mem_cons, ← ih, List.mapM_cons]
    cases hfirst : handlerFor runtime text with
    | error e =>
      refine iff_of_false (fun ⟨_, h⟩ => nomatch h) ?_
      rintro ⟨⟨authType, hkey⟩, -⟩
      rw [handlerFor_eq_ok_iff.mpr hkey] at hfirst
      cases hfirst
    | ok first =>
      have hkey := handlerFor_eq_ok_iff.mp hfirst
      cases texts.mapM (handlerFor runtime) with
      | error e => exact iff_of_false (fun ⟨_, h⟩ => nomatch h) fun ⟨_, _, h⟩ => nomatch h
      | ok rest => exact iff_of_true ⟨_, rfl⟩ ⟨⟨first, hkey⟩, _, rfl⟩

/-- `auth.type` stands for the type in a server. -/
def Stands (runtime : Runtime) (texts : List String) (authType : AuthType) : Prop :=
  (∃ text ∈ texts, authType.key = runtime.toLowerCase text) ∨
    ∃ text, texts = [text] ∧ runtime.toLowerCase text = "" ∧ authType = .basic

theorem mem_types_iff {scheme : Scheme} (h : getAuthenticationHandler runtime config = .ok scheme)
    (authType : AuthType) :
    authType ∈ scheme.types ↔ Stands runtime config.auth.type authType := by
  unfold getAuthenticationHandler at h
  unfold Stands
  split at h
  · rename_i text htype
    rw [htype]
    by_cases hempty : runtime.toLowerCase text = ""
    · simp only [hempty, if_true] at h
      cases h
      have hkey : authType.key ≠ "" := by cases authType <;> decide
      simp [Scheme.types, hempty, hkey]
    · simp only [hempty, if_false] at h
      cases hkey : AuthType.ofKey (runtime.toLowerCase text) with
      | none => rw [hkey] at h; cases h
      | some t =>
        rw [hkey] at h
        cases h
        rw [AuthType.ofKey_eq_some_iff] at hkey
        have hone : ¬∃ text', [text] = [text'] ∧ runtime.toLowerCase text' = "" ∧
            authType = .basic := by
          rintro ⟨_, heq, hlower, -⟩
          cases heq
          exact hempty hlower
        rw [or_iff_left hone, Scheme.types, List.mem_singleton]
        simp only [List.mem_singleton, exists_eq_left, ← hkey]
        exact AuthType.key_injective.eq_iff.symm
  · rename_i hmany
    have hone : ¬∃ text, config.auth.type = [text] ∧ runtime.toLowerCase text = "" ∧
        authType = .basic := by
      rintro ⟨text, htype, -⟩
      exact hmany text htype
    split at h
    · cases hmap : config.auth.type.mapM (handlerFor runtime) with
      | error e =>
        have hinit : MultipleAuthentication.init runtime config.auth.type = .error e := by
          unfold MultipleAuthentication.init
          exact (congrArg (· >>= _) hmap)
        rw [hinit] at h
        cases h
      | ok types =>
        have hinit : MultipleAuthentication.init runtime config.auth.type = .ok types.eraseDups := by
          unfold MultipleAuthentication.init
          exact (congrArg (· >>= _) hmap)
        rw [hinit] at h
        cases h
        rw [Scheme.types, List.mem_eraseDups, mem_of_mapM_handlerFor hmap, or_iff_left hone]
    · cases h

/-- When there is an authentication for a configuration. -/
theorem starts_iff : (∃ scheme, getAuthenticationHandler runtime config = .ok scheme) ↔
    (∃ text, config.auth.type = [text] ∧
      (runtime.toLowerCase text = "" ∨ ∃ a : AuthType, a.key = runtime.toLowerCase text)) ∨
    (∀ text, config.auth.type ≠ [text]) ∧ config.auth.multiple_auth_enabled = true ∧
      ∀ text ∈ config.auth.type, ∃ a : AuthType, a.key = runtime.toLowerCase text := by
  unfold getAuthenticationHandler
  split
  · rename_i text htype
    rw [htype, or_iff_left (fun h => h.1 text rfl)]
    simp only [List.cons.injEq, and_true, exists_eq_left']
    by_cases hempty : runtime.toLowerCase text = ""
    · simp [hempty]
    · simp only [hempty, if_false, false_or]
      cases hkey : AuthType.ofKey (runtime.toLowerCase text) with
      | none =>
        refine iff_of_false (fun ⟨_, h⟩ => nomatch h) ?_
        rintro ⟨a, ha⟩
        rw [AuthType.ofKey_eq_some_iff.mpr ha] at hkey
        cases hkey
      | some a => exact iff_of_true ⟨_, rfl⟩ ⟨a, AuthType.ofKey_eq_some_iff.mp hkey⟩
  · rename_i hmany
    have hone : ¬∃ text, config.auth.type = [text] ∧
        (runtime.toLowerCase text = "" ∨ ∃ a : AuthType, a.key = runtime.toLowerCase text) :=
      fun ⟨text, htype, _⟩ => hmany text htype
    rw [or_iff_right hone, and_iff_right hmany]
    split
    · rename_i henabled
      rw [and_iff_right henabled, ← mapM_handlerFor_isOk]
      have hinit : MultipleAuthentication.init runtime config.auth.type =
          config.auth.type.mapM (handlerFor runtime) >>= fun types => pure types.eraseDups := rfl
      rw [hinit]
      cases config.auth.type.mapM (handlerFor runtime) with
      | error e => exact iff_of_false (fun ⟨_, h⟩ => nomatch h) fun ⟨_, h⟩ => nomatch h
      | ok types => exact iff_of_true ⟨_, rfl⟩ ⟨_, rfl⟩
    · rename_i henabled
      exact iff_of_false (fun ⟨_, h⟩ => nomatch h) fun ⟨h, _⟩ => henabled h

/-! ## The form -/

/-- The lower case of an empty text only is empty. -/
def KeepsText (runtime : Runtime) : Prop := ∀ text, runtime.toLowerCase text = "" → text = ""

theorem key_of_starts (hlower : KeepsText runtime) {scheme : Scheme}
    (h : getAuthenticationHandler runtime config = .ok scheme) (hempty : config.auth.type ≠ [""])
    {text : String} (htext : text ∈ config.auth.type) :
    ∃ a : AuthType, a.key = runtime.toLowerCase text := by
  rcases starts_iff.mp ⟨scheme, h⟩ with ⟨one, htype, hkey⟩ | ⟨-, -, hkeys⟩
  · rw [htype, List.mem_singleton] at htext
    rw [htext]
    exact hkey.resolve_left fun hone => hempty (by rw [htype, hlower one hone])
  · exact hkeys text htext

theorem mem_authOpts_text {option text : String} :
    text ∈ authOpts runtime (.text option) ↔
      text = (if option = "" then BASIC else runtime.toLowerCase option) ∧
        text ≠ PROXY ∧ text ≠ JWT := by
  unfold authOpts
  by_cases hoption : option = ""
  · simp [hoption]
  · simp [hoption]

theorem mem_authOpts_array {options : List String} (hne : options ≠ []) {text : String} :
    text ∈ authOpts runtime (.array options) ↔
      (text ∈ options ∧ options ≠ [""] ∨ options = [""] ∧ text = BASIC) ∧
        text ≠ PROXY ∧ text ≠ JWT := by
  unfold authOpts
  by_cases hoptions : options = [""]
  · simp [hoptions]
  · simp [hoptions, hne]

theorem not_hidden {authType : AuthType} (hshown : authType ≠ .proxy ∧ authType ≠ .jwt)
    {text : String} (h : runtime.toLowerCase text = authType.key) : text ≠ PROXY ∧ text ≠ JWT := by
  constructor
  · rintro rfl
    rw [toLowerCase_supported PROXY (by decide)] at h
    have hkey : AuthType.key .proxy = authType.key := h
    exact hshown.1 (AuthType.key_injective hkey).symm
  · rintro rfl
    rw [toLowerCase_supported JWT (by decide)] at h
    have hkey : AuthType.key .jwt = authType.key := h
    exact hshown.2 (AuthType.key_injective hkey).symm

theorem key_ne_empty (authType : AuthType) : authType.key ≠ "" := by cases authType <;> decide

theorem toLowerCase_empty : runtime.toLowerCase "" = "" :=
  toLowerCase_supported "" (by decide)

/-- Only the basic type stands for an empty text. -/
theorem stands_empty (authType : AuthType) :
    Stands runtime [""] authType ↔ runtime.toLowerCase BASIC = authType.key := by
  have hbasic : runtime.toLowerCase BASIC = AuthType.key .basic :=
    toLowerCase_supported BASIC (by decide)
  rw [Stands, hbasic, AuthType.key_injective.eq_iff]
  simp only [List.mem_singleton, exists_eq_left, toLowerCase_empty, key_ne_empty, false_or,
    List.cons.injEq, and_true, exists_eq_left', true_and]
  exact eq_comm

/-- A text that is not empty stands for the type of its name. -/
theorem stands_iff (hlower : KeepsText runtime) {texts : List String} (hempty : texts ≠ [""])
    (authType : AuthType) :
    Stands runtime texts authType ↔ ∃ text ∈ texts, authType.key = runtime.toLowerCase text := by
  refine or_iff_left ?_
  rintro ⟨text, rfl, htext, -⟩
  exact hempty (by rw [hlower text htext])

/-- The options of the form are the texts of the types that the server accepts, up to their case. -/
theorem exists_authOpt_iff (hlower : KeepsText runtime) {options : AuthOptions}
    (htype : config.auth.type = options.types) (hoptions : options.types ≠ []) {scheme : Scheme}
    (h : getAuthenticationHandler runtime config = .ok scheme) {authType : AuthType}
    (hshown : authType ≠ .proxy ∧ authType ≠ .jwt) :
    (∃ text ∈ authOpts runtime options, runtime.toLowerCase text = authType.key) ↔
      authType ∈ scheme.types := by
  rw [mem_types_iff h, htype]
  have hbasic : BASIC ≠ PROXY ∧ BASIC ≠ JWT := by decide
  cases options with
  | text option =>
    simp only [mem_authOpts_text, AuthOptions.types]
    by_cases hoption : option = ""
    · subst hoption
      rw [stands_empty]
      simp only [if_true, and_assoc, exists_eq_left, ne_eq, hbasic.1, hbasic.2, not_false_eq_true,
        true_and]
    · rw [stands_iff hlower (by simpa using hoption)]
      simp only [if_neg hoption, and_assoc, exists_eq_left, List.mem_singleton]
      have hmem : option ∈ config.auth.type := by
        rw [htype]
        exact List.mem_singleton_self option
      obtain ⟨a, ha⟩ := key_of_starts hlower h (by simpa [htype, AuthOptions.types] using hoption) hmem
      rw [← ha, toLowerCase_supported a.key a.key_mem, eq_comm (b := a.key)]
      refine ⟨fun hkey => hkey.2.2, fun hkey => ?_⟩
      have hlow : runtime.toLowerCase a.key = authType.key := by
        rw [toLowerCase_supported a.key a.key_mem, hkey]
      exact ⟨(not_hidden hshown hlow).1, (not_hidden hshown hlow).2, hkey⟩
  | array options =>
    have hne : options ≠ [] := hoptions
    simp only [mem_authOpts_array hne, AuthOptions.types]
    by_cases hempty : options = [""]
    · subst hempty
      rw [stands_empty]
      simp [hbasic]
    · rw [stands_iff hlower hempty]
      constructor
      · rintro ⟨text, ⟨⟨hmem, -⟩ | ⟨hone, -⟩, -⟩, hkey⟩
        · exact ⟨text, hmem, hkey.symm⟩
        · exact absurd hone hempty
      · rintro ⟨text, hmem, hkey⟩
        exact ⟨text, ⟨Or.inl ⟨hmem, hempty⟩, not_hidden hshown hkey.symm⟩, hkey.symm⟩

variable {props : LoginPageProps}

theorem logIn_mem_formOptions {options : AuthOptions} :
    FormRow.logIn ∈ (formOptions runtime props options).1 ↔
      ∃ text ∈ authOpts runtime options, runtime.toLowerCase text = AuthType.key .basic := by
  unfold formOptions
  rw [List.mem_append, List.mem_flatMap, List.mem_flatMap, or_iff_left]
  · refine exists_congr fun text => and_congr_right fun _ => ?_
    unfold formBody
    by_cases hbasic : runtime.toLowerCase text = BASIC
    · simp [hbasic, AuthType.key]
    · simp [hbasic, AuthType.key]
  · rintro ⟨text, -, hrow⟩
    unfold formBodyOp renderLoginButton at hrow
    split at hrow
    · simp at hrow
    · split at hrow <;> simp at hrow

/-- The types that have a button. -/
theorem button_mem_formOptions {options : AuthOptions} {authType : AuthType}
    (hbutton : authType = .openId ∨ authType = .saml) :
    (∃ href, FormRow.loginButton authType.key href ∈ (formOptions runtime props options).1) ↔
      ∃ text ∈ authOpts runtime options, runtime.toLowerCase text = authType.key := by
  have hanonymous : authType.key ≠ ANONYMOUS := by rcases hbutton with rfl | rfl <;> decide
  have hform : ∀ several text href,
      FormRow.loginButton authType.key href ∉ formBody runtime props several text := by
    intro several text href hrow
    unfold formBody renderLoginButton at hrow
    split at hrow
    · split at hrow <;> split at hrow <;> simp [hanonymous] at hrow
    · cases hrow
  have hbuttons : ∀ text, (∃ href, FormRow.loginButton authType.key href ∈
      formBodyOp runtime props text) ↔ runtime.toLowerCase text = authType.key := by
    intro text
    have hne : OPEN_ID ≠ SAML := by decide
    unfold formBodyOp renderLoginButton
    by_cases hopenId : runtime.toLowerCase text = OPEN_ID
    · rcases hbutton with rfl | rfl <;> simp [hopenId, AuthType.key, hne, hne.symm]
    · by_cases hsaml : runtime.toLowerCase text = SAML
      · rcases hbutton with rfl | rfl <;> simp [hsaml, AuthType.key, hne, hne.symm]
      · rcases hbutton with rfl | rfl <;> simp [hopenId, hsaml, AuthType.key]
  unfold formOptions
  simp only [List.mem_append, List.mem_flatMap, hform, and_false, exists_false, false_or]
  constructor
  · rintro ⟨href, text, hmem, hrow⟩
    exact ⟨text, hmem, (hbuttons text).mp ⟨href, hrow⟩⟩
  · rintro ⟨text, hmem, hkey⟩
    obtain ⟨href, hrow⟩ := (hbuttons text).mpr hkey
    exact ⟨href, text, hmem, hrow⟩

/-- A render sets state if there is an option of no case. -/
theorem formOptions_sets_iff {options : AuthOptions} :
    (formOptions runtime props options).2 ≠ none ↔
      ∃ text ∈ authOpts runtime options, runtime.toLowerCase text ∉ [BASIC, OPEN_ID, SAML] := by
  unfold formOptions
  rw [ne_eq, Option.map_eq_none_iff, List.getLast?_eq_none_iff, List.filterMap_eq_nil_iff]
  simp only [not_forall, loginError, List.contains_iff_mem]
  refine exists_congr fun text => ?_
  rw [exists_prop]
  refine and_congr_right fun _ => ?_
  by_cases hmem : runtime.toLowerCase text ∈ [BASIC, OPEN_ID, SAML]
  · simp only [hmem, if_true, not_true_eq_false]
  · simp only [hmem, if_false, reduceCtorEq, not_false_eq_true]

/-- A type that is not offered by the form is left out if it is written in lower case only. -/
theorem sets_iff_capitalizesHidden (hlower : KeepsText runtime) {options : AuthOptions}
    (htype : config.auth.type = options.types) (hoptions : options.types ≠ []) {scheme : Scheme}
    (h : getAuthenticationHandler runtime config = .ok scheme) :
    (formOptions runtime props options).2 ≠ none ↔ CapitalizesHidden runtime options := by
  unfold CapitalizesHidden
  have hkinds : ∀ a : AuthType, a.key ∉ [BASIC, OPEN_ID, SAML] ↔ a.key = PROXY ∨ a.key = JWT := by
    intro a
    cases a <;> decide
  have hbasic : runtime.toLowerCase BASIC ∈ [BASIC, OPEN_ID, SAML] := by
    rw [toLowerCase_supported BASIC (by decide)]
    decide
  rw [formOptions_sets_iff]
  cases options with
  | text option =>
    refine iff_of_false ?_ fun ⟨_, heq, _⟩ => nomatch heq
    rintro ⟨text, hmem, hnot⟩
    rw [mem_authOpts_text] at hmem
    obtain ⟨htext, hproxy, hjwt⟩ := hmem
    by_cases hoption : option = ""
    · rw [htext, if_pos hoption] at hnot
      exact hnot hbasic
    · rw [if_neg hoption] at htext
      have hempty : config.auth.type ≠ [""] := by simpa [htype, AuthOptions.types] using hoption
      obtain ⟨a, ha⟩ := key_of_starts hlower h hempty
        (by rw [htype]; exact List.mem_singleton_self option)
      rw [← ha] at htext
      rw [htext, toLowerCase_supported a.key a.key_mem, hkinds, ← htext] at hnot
      exact hnot.elim hproxy hjwt
  | array options =>
    have hne : options ≠ [] := hoptions
    simp only [AuthOptions.array.injEq, exists_eq_left']
    by_cases hempty : options = [""]
    · refine iff_of_false ?_ ?_
      · rintro ⟨text, hmem, hnot⟩
        obtain ⟨⟨-, hne'⟩ | ⟨-, rfl⟩, -⟩ := (mem_authOpts_array hne).mp hmem
        · exact hne' hempty
        · exact hnot hbasic
      · rintro ⟨text, hmem, -, hdifferent⟩
        rw [hempty, List.mem_singleton] at hmem
        rw [hmem] at hdifferent
        exact hdifferent toLowerCase_empty
    · have htypes : config.auth.type = options := htype
      have hkey : ∀ text ∈ options, ∃ a : AuthType, a.key = runtime.toLowerCase text :=
        fun text hmem => key_of_starts hlower h (htypes ▸ hempty) (htypes ▸ hmem)
      refine exists_congr fun text => ?_
      rw [mem_authOpts_array hne]
      constructor
      · rintro ⟨⟨⟨hmem, -⟩ | ⟨hone, -⟩, hproxy, hjwt⟩, hnot⟩
        · obtain ⟨a, ha⟩ := hkey text hmem
          rw [← ha, hkinds, ha] at hnot
          refine ⟨hmem, hnot, fun hsame => ?_⟩
          rw [hsame] at hnot
          exact hnot.elim hproxy hjwt
        · exact absurd hone hempty
      · rintro ⟨hmem, hhidden, hdifferent⟩
        refine ⟨⟨Or.inl ⟨hmem, hempty⟩, ?_, ?_⟩, ?_⟩
        · rintro rfl
          exact hdifferent (toLowerCase_supported PROXY (by decide))
        · rintro rfl
          exact hdifferent (toLowerCase_supported JWT (by decide))
        · obtain ⟨a, ha⟩ := hkey text hmem
          rw [← ha, hkinds, ha]
          exact hhidden

/-- A page whose every render sets state is not shown. -/
theorem loginPage_of_sets {options : AuthOptions} (h : (formOptions runtime props options).2 ≠ none)
    (renders : ℕ) (state : LoginState) :
    LoginPage runtime props options renders state = .error tooManyRerenders := by
  induction renders generalizing state with
  | zero => rfl
  | succ renders ih =>
    rcases hoptions : formOptions runtime props options with ⟨rows, _ | set⟩
    · exact absurd (by rw [hoptions]) h
    · simp only [LoginPage, hoptions]
      exact ih set

theorem loginPage_of_quiet {options : AuthOptions} (h : (formOptions runtime props options).2 = none)
    (renders : ℕ) (state : LoginState) :
    LoginPage runtime props options (renders + 1) state =
      .ok { rows := (formOptions runtime props options).1
            errorLabel := if state.loginFailed then some state.loginError else none } := by
  rcases hoptions : formOptions runtime props options with ⟨rows, _ | set⟩
  · simp only [LoginPage, hoptions]
  · rw [hoptions] at h
    cases h

/-- The login page is never shown if an array names the JWT or the proxy type in other than lower case
letters. Otherwise it offers what the server accepts: the form for the basic type, and the buttons of the
OpenID and the SAML type. -/
theorem login_page_offers_what_is_accepted (hlower : KeepsText runtime) {options : AuthOptions}
    (htype : config.auth.type = options.types)
    (hvalid : validateAuthOptions runtime options = .ok ()) {scheme : Scheme}
    (h : getAuthenticationHandler runtime config = .ok scheme) (props : LoginPageProps)
    (renders : ℕ) (state : LoginState) :
    (CapitalizesHidden runtime options →
      LoginPage runtime props options renders state = .error tooManyRerenders) ∧
      (¬CapitalizesHidden runtime options →
        ∃ form, LoginPage runtime props options (renders + 1) state = .ok form ∧
          (FormRow.logIn ∈ form.rows ↔ .basic ∈ scheme.types) ∧
          (∀ authType, authType = .openId ∨ authType = .saml →
            ((∃ href, FormRow.loginButton authType.key href ∈ form.rows) ↔
              authType ∈ scheme.types)) ∧
          form.errorLabel = if state.loginFailed then some state.loginError else none) := by
  have hoptions : options.types ≠ [] := by
    rintro hnone
    cases options with
    | text option => cases hnone
    | array options =>
      obtain rfl : options = [] := hnone
      cases hvalid
  have hsets : (formOptions runtime props options).2 ≠ none ↔ CapitalizesHidden runtime options :=
    sets_iff_capitalizesHidden hlower htype hoptions h
  refine ⟨fun hhidden => loginPage_of_sets (hsets.mpr hhidden) renders state, fun hhidden => ?_⟩
  have hquiet : (formOptions runtime props options).2 = none :=
    not_not.mp fun hset => hhidden (hsets.mp hset)
  refine ⟨_, loginPage_of_quiet hquiet renders state, ?_, ?_, rfl⟩
  · rw [logIn_mem_formOptions]
    exact exists_authOpt_iff hlower htype hoptions h (by decide)
  · intro authType hbutton
    rw [button_mem_formOptions hbutton]
    exact exists_authOpt_iff hlower htype hoptions h (by rcases hbutton with rfl | rfl <;> decide)

theorem Sample.keepsText : KeepsText Sample.runtime := by
  intro text h
  have hlist : (String.ofList (text.toList.map Char.toLower)).toList = "".toList :=
    congrArg String.toList h
  rw [String.toList_ofList] at hlist
  exact String.toList_injective (List.map_eq_nil_iff.mp hlist)

/-- The basic type with two others, of which one is not written in lower case. -/
def Sample.threeTypes : List String := ["basicauth", "SAML", "Jwt"]

def Sample.threeTypesConfig : SecurityPluginConfig :=
  { auth := { type := Sample.threeTypes, multiple_auth_enabled := true } }

/-- The scheme of its server, and what its login page reads. -/
def Sample.threeTypesScheme : Scheme := .multiple [.basic, .saml, .jwt]

def Sample.loginProps : LoginPageProps :=
  { serverBasePath := "", anonymous_auth_enabled := true, page := Whatwg.Location.root }

theorem Sample.three_types_start :
    getAuthenticationHandler Sample.runtime Sample.threeTypesConfig = .ok Sample.threeTypesScheme :=
  rfl

/-- The same types in other letters. -/
def Sample.lowerTypes : List String := ["basicauth", "SAML", "jwt"]

def Sample.lowerTypesConfig : SecurityPluginConfig :=
  { auth := { type := Sample.lowerTypes, multiple_auth_enabled := true } }

/-- With `jwt` in capital letters, the page of the same server is never shown. -/
theorem Sample.three_types_offered :
    (∃ form, LoginPage Sample.runtime Sample.loginProps (.array Sample.lowerTypes) 25 {} = .ok form ∧
        FormRow.logIn ∈ form.rows ∧
        ∃ href, FormRow.loginButton AuthType.saml.key href ∈ form.rows) ∧
      LoginPage Sample.runtime Sample.loginProps (.array Sample.threeTypes) 25 {} =
        .error tooManyRerenders := by
  have hstarts : getAuthenticationHandler Sample.runtime Sample.lowerTypesConfig =
      .ok Sample.threeTypesScheme := rfl
  have hlower : ¬CapitalizesHidden Sample.runtime (.array Sample.lowerTypes) := by
    rintro ⟨texts, heq, text, hmem, hhidden, hdifferent⟩
    have hnone : ∀ text ∈ Sample.lowerTypes, (Sample.runtime.toLowerCase text = PROXY ∨
        Sample.runtime.toLowerCase text = JWT) → Sample.runtime.toLowerCase text = text := by decide
    rw [← AuthOptions.array.inj heq] at hmem
    exact hdifferent (hnone text hmem hhidden)
  obtain ⟨form, hform, hlogIn, hbuttons, -⟩ := (login_page_offers_what_is_accepted
    Sample.keepsText rfl rfl hstarts Sample.loginProps 24 {}).2
    hlower
  refine ⟨⟨form, hform, hlogIn.mpr (by decide), (hbuttons .saml (Or.inr rfl)).mpr (by decide)⟩, ?_⟩
  exact (login_page_offers_what_is_accepted Sample.keepsText rfl rfl Sample.three_types_start
    Sample.loginProps 25 {}).1 ⟨_, rfl, "Jwt", by decide, Or.inr (by decide), by decide⟩

/-! ## The configurations that have an authentication -/

theorem lower_supported {options : AuthOptions} (hvalid : validateAuthOptions runtime options = .ok ())
    {text : String} (htext : text ∈ options.types) :
    runtime.toLowerCase text ∈ supportedAuthTypes := by
  have hall : ∀ value, validateAuthType runtime value = .ok () → ∀ text ∈ value,
      runtime.toLowerCase text ∈ supportedAuthTypes := by
    intro value hvalue text htext
    unfold validateAuthType at hvalue
    cases hfound : value.find? fun authVal =>
        !supportedAuthTypes.contains (runtime.toLowerCase authVal) with
    | some authVal => rw [hfound] at hvalue; cases hvalue
    | none =>
      have hnot := List.find?_eq_none.mp hfound text htext
      rwa [Bool.not_eq_true, Bool.not_eq_false', List.contains_iff_mem] at hnot
  cases options with
  | text option => exact hall [option] hvalid text htext
  | array options =>
    unfold validateAuthOptions at hvalid
    simp only at hvalid
    split at hvalid
    · cases hvalid
    · split at hvalid
      · cases hvalid
      · exact hall options hvalid text htext

theorem exists_key_iff {text : String} (h : text ∈ supportedAuthTypes) :
    (∃ a : AuthType, a.key = text) ↔ text ≠ "" ∧ text ∉ ["kerberos", "proxycache"] := by
  constructor
  · rintro ⟨a, rfl⟩
    cases a <;> decide
  · rintro ⟨hempty, hmissing⟩
    simp only [supportedAuthTypes, List.mem_cons, List.not_mem_nil, or_false, not_or] at h hmissing
    rcases h with h | h | h | h | h | h | h | h
    · exact absurd h hempty
    · exact ⟨.basic, h.symm⟩
    · exact ⟨.jwt, h.symm⟩
    · exact ⟨.openId, h.symm⟩
    · exact ⟨.saml, h.symm⟩
    · exact ⟨.proxy, h.symm⟩
    · exact absurd h hmissing.1
    · exact absurd h hmissing.2

/-- Of the values that the schema accepts, there is an authentication for those that name no type
without an implementation, and for several types only if that is enabled and none of them is empty. -/
theorem accepted_options_start_iff (hlower : KeepsText runtime) {options : AuthOptions}
    (htype : config.auth.type = options.types)
    (hvalid : validateAuthOptions runtime options = .ok ()) :
    (∃ scheme, getAuthenticationHandler runtime config = .ok scheme) ↔
      (∀ text ∈ options.types, runtime.toLowerCase text ∉ ["kerberos", "proxycache"]) ∧
        (options.types.length = 1 ∨
          config.auth.multiple_auth_enabled = true ∧ "" ∉ options.types) := by
  have hempty : ∀ text, runtime.toLowerCase text = "" ↔ text = "" :=
    fun text => ⟨hlower text, fun h => by rw [h]; exact toLowerCase_empty⟩
  have hkey : ∀ text ∈ options.types, (∃ a : AuthType, a.key = runtime.toLowerCase text) ↔
      text ≠ "" ∧ runtime.toLowerCase text ∉ ["kerberos", "proxycache"] := by
    intro text htext
    rw [exists_key_iff (lower_supported hvalid htext), ne_eq, hempty]
  rw [starts_iff, htype]
  by_cases hone : ∃ text, options.types = [text]
  · obtain ⟨text, htext⟩ := hone
    rw [htext] at hkey ⊢
    rw [or_iff_left fun h => h.1 text rfl]
    simp only [List.cons.injEq, and_true, exists_eq_left', List.mem_singleton, forall_eq,
      List.length_singleton, true_or, hkey text (List.mem_singleton_self text), hempty]
    by_cases htext : text = ""
    · subst htext
      rw [toLowerCase_empty]
      exact iff_of_true (Or.inl rfl) (by decide)
    · simp only [htext, false_or, ne_eq, not_false_eq_true, true_and]
  · have hmany : ∀ text, options.types ≠ [text] := fun text h => hone ⟨text, h⟩
    have hlength : options.types.length ≠ 1 := fun h =>
      hone ((List.length_eq_one_iff).mp h)
    have hnone : ¬∃ text, options.types = [text] ∧
        (runtime.toLowerCase text = "" ∨ ∃ a : AuthType, a.key = runtime.toLowerCase text) := by
      rintro ⟨text, htext, -⟩
      exact hmany text htext
    rw [or_iff_right hnone, and_iff_right hmany, or_iff_right hlength, and_left_comm]
    refine and_congr_right fun _ => ?_
    constructor
    · intro h
      refine ⟨fun text htext => ((hkey text htext).mp (h text htext)).2, fun htext => ?_⟩
      exact ((hkey "" htext).mp (h "" htext)).1 rfl
    · rintro ⟨hmissing, hnonempty⟩ text htext
      refine (hkey text htext).mpr ⟨fun h => hnonempty (h ▸ htext), hmissing text htext⟩

end SecurityDashboards
