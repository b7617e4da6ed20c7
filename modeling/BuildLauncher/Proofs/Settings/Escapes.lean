import BuildLauncher.Proofs.Settings.Assembling

/-!
# Failures that are no user errors

Invalid settings and invalid TOML are told to the user in one line. `assemble_escapes` lists all else
that can keep settings from being assembled, on every platform.
-/
namespace BuildLauncher

open Checking Files Environment

namespace Settings

variable {v : View} {env : Environment} {request : SettingsRequest} {f : Failure}

section Search

/-- What a search accepts has passed the test. -/
theorem firstAccepted_eq_some {test : Path → Except Error Bool} {paths : List Path} {path : Path}
    (h : firstAccepted test paths = .ok (some path)) : test path = .ok true := by
  induction paths with
  | nil => simp [firstAccepted] at h
  | cons first rest ih =>
    rw [firstAccepted] at h
    split at h
    · contradiction
    · rename_i htest
      obtain rfl := Option.some.inj (Except.ok.inj h)
      exact htest
    · exact ih h

/-- The file that is chosen is there. -/
theorem isFile_of_chooseConfig {path : Path} (h : chooseConfig v env request = .ok (some path)) :
    v.isFile path = .ok true := by
  have hnamed {text : String}
      (h : (do return if ← v.isFile (Path.ofText text) then some (Path.ofText text) else none :
        Except Error (Option Path)) = .ok (some path)) : v.isFile path = .ok true := by
    obtain ⟨found, hfound, h⟩ := bind_eq_ok h
    cases found with
    | false => simp [pure, Except.pure] at h
    | true =>
      obtain rfl := Option.some.inj (Except.ok.inj h)
      exact hfound
  unfold chooseConfig at h
  split at h
  · exact hnamed h
  · unfold findConfig at h
    split at h
    · exact hnamed h
    · obtain ⟨start, -, h⟩ := bind_eq_ok h
      obtain ⟨levels, -, h⟩ := bind_eq_ok h
      exact firstAccepted_eq_some h

end Search

section Reading

variable [Platform]

/-- What comes after a descent fails, or there are not calls enough for the descent. -/
theorem follow_bind_eq_error {α : Type} {d : Descent} {next : Except Failure α} :
    (follow d >>= fun _ => next) = .error f ↔
      Platform.exhaustion d = some f ∨ follow d = .ok () ∧ next = .error f := by
  rw [← follow_eq_error]
  cases follow d with
  | error e => simp
  | ok followed => simp

/-- A document that is not UTF-8, that nests too deeply or has an integer with too many digits is no
user error. -/
theorem readDocument_escapes {path : Path} (hfile : v.isFile path = .ok true) :
    readDocument v path = .error f ∧ f.isUserError = false ↔
      (∃ fault, Text.decode (octetsAt v path) = .error fault ∧ .notUtf8 fault = f) ∨
      ∃ text, Text.decode (octetsAt v path) = .ok text ∧
        (Platform.exhaustion (.readDocument (Toml.newlines text)) = some f ∨
          follow (.readDocument (Toml.newlines text)) = .ok () ∧
            ∃ digits rest, Toml.read (Toml.newlines text) = .error ⟨.hugeInteger digits, rest⟩ ∧
              .hugeInteger digits = f) := by
  simp only [readDocument, hfile, mapError_ok, ok_bind, Bool.not_true, Bool.false_eq_true, if_false]
  cases Text.decode (octetsAt v path) with
  | error fault =>
    simp only [mapError_error, error_bind, Except.error.injEq, reduceCtorEq, false_and,
      exists_false, or_false, exists_eq_left']
    exact ⟨fun h => h.1, fun h => ⟨h, h ▸ rfl⟩⟩
  | ok text =>
    simp only [mapError_ok, ok_bind, reduceCtorEq, false_and, exists_false, false_or,
      Except.ok.injEq, exists_eq_left']
    rw [← follow_eq_error]
    cases hfollow : follow (.readDocument (Toml.newlines text)) with
    | error e =>
      have hescapes := Platform.isUserError_exhaustion (follow_eq_error.mp hfollow)
      simp only [error_bind, Except.error.injEq, reduceCtorEq, false_and, or_false]
      exact and_iff_left_of_imp fun h => h ▸ hescapes
    | ok followed =>
      simp only [ok_bind, reduceCtorEq, true_and, false_or]
      cases Toml.read (Toml.newlines text) with
      | ok fields => simp [pure, Except.pure]
      | error fault =>
        obtain ⟨problem, rest⟩ := fault
        cases problem
        case hugeInteger digits =>
          simp only [throw_eq_error, Except.error.injEq, Toml.Fault.mk.injEq,
            Toml.Problem.hugeInteger.injEq]
          exact ⟨fun h => ⟨digits, rest, ⟨rfl, rfl⟩, h.1⟩,
            fun ⟨_, _, ⟨hdigits, _⟩, h⟩ => hdigits ▸ h ▸ ⟨rfl, rfl⟩⟩
        -- Any other problem is told to the user.
        all_goals
          simp only [throw_eq_error, Except.error.injEq, Toml.Fault.mk.injEq, reduceCtorEq,
            false_and, exists_false, iff_false, not_and]
          rintro rfl
          exact Bool.noConfusion

end Reading

section Variables

variable [Platform]

/-- Of two sections that cannot be read the layout is reported. -/
theorem environmentFields_eq_error :
    environmentFields env = .error f ↔
      Platform.exhaustion (.readVariables env.folded) = some f ∨
      follow (.readVariables env.folded) = .ok () ∧
        ((env.Unreadable "layout" ["readonly"] ∧ f = .unreadableVariable "layout") ∨
          (¬env.Unreadable "layout" ["readonly"] ∧ env.Unreadable "runner" [] ∧
            f = .unreadableVariable "runner")) := by
  have hlayout : ∀ key ∈ listKeys ["readonly"], splitNested key.toList = [key.toList] := by
    decide +kernel
  have hrunner : ∀ key ∈ listKeys [], splitNested key.toList = [key.toList] := by
    decide +kernel
  rw [environmentFields, follow_bind_eq_error]
  simp only [bind_eq_error, section?_eq_error hlayout, section?_eq_error hrunner,
    ← section?_ok_iff hlayout LayoutSection.fieldNames]
  simp [pure, Except.pure, and_comm]

end Variables

section Assembling

/-- The path that the first source gives for the launcher directory, or the working directory where
none does. What is no text is no path. -/
def namedDir (v : View) (arguments : Fields) (chosen : Option Path) (merged : Fields) :
    Except Error (Option Path) :=
  let ofValue : Value → Option Path
    | .text s => some (Path.ofText s)
    | _ => none
  match arguments.get? "base_dir", chosen, merged.get? "base_dir" with
  | some value, _, _ => .ok (ofValue value)
  | none, some path, _ => .ok (some path)
  | none, none, some value => .ok (ofValue value)
  | none, none, none => v.currentPath.map some

variable [Platform]

theorem checkBaseDir_eq_error {path : Path} {culprit : Culprit} :
    checkBaseDir v env path culprit = .error f ↔
      Platform.exhaustion (.resolve v path) = some f ∨
      follow (.resolve v path) = .ok () ∧
        ∃ e, launcherDir v env path = .error e ∧ e ≠ .nulCharacter ∧ .files e = f := by
  rw [checkBaseDir, follow_bind_eq_error]
  refine or_congr_right (and_congr_right fun _ => ?_)
  split <;> simp_all [pure, Except.pure, throw_eq_error]

theorem baseDirOf_eq_error {arguments merged : Fields} {chosen : Option Path} :
    baseDirOf v env arguments chosen merged = .error f ↔
      (∃ e, namedDir v arguments chosen merged = .error e ∧ .files e = f) ∨
      ∃ path, namedDir v arguments chosen merged = .ok (some path) ∧
        (Platform.exhaustion (.resolve v path) = some f ∨
          follow (.resolve v path) = .ok () ∧
            ∃ e, launcherDir v env path = .error e ∧ e ≠ .nulCharacter ∧ .files e = f) := by
  simp only [baseDirOf, namedDir]
  cases arguments.get? "base_dir" with
  | some value => cases value <;> simp [checkBaseDir_eq_error]
  | none =>
    cases chosen with
    | some path => simp [checkBaseDir_eq_error]
    | none =>
      cases merged.get? "base_dir" with
      | some value => cases value <;> simp [checkBaseDir_eq_error]
      | none =>
        cases v.currentPath with
        | error e => simp
        | ok path => simp [checkBaseDir_eq_error]

/-- The failures that are no user errors, each with what leads to it. -/
inductive Escape (v : View) (env : Environment) (request : SettingsRequest) : Failure → Prop
  | deepSearch {f : Failure}
      (exhausted :
        Platform.exhaustion (.search v env request.configPath request.baseDir) = some f) :
      Escape v env request f
  | noSearch {e : Error}
      (searched : follow (.search v env request.configPath request.baseDir) = .ok ())
      (choice : chooseConfig v env request = .error e) :
      Escape v env request (.files e)
  | noDirectory {config : Option Path} {e : Error}
      (searched : follow (.search v env request.configPath request.baseDir) = .ok ())
      (choice : chooseConfig v env request = .ok config)
      (directory : chooseBaseDir v env request config = .error e) :
      Escape v env request (.files e)
  | notUtf8 {path : Path} {chosen : Option Path} {fault : Text.Utf8Fault}
      (choice : Chosen v env request (some path) chosen)
      (octets : Text.decode (octetsAt v path) = .error fault) :
      Escape v env request (.notUtf8 fault)
  | deepDocument {path : Path} {chosen : Option Path} {text : List Char} {f : Failure}
      (choice : Chosen v env request (some path) chosen)
      (octets : Text.decode (octetsAt v path) = .ok text)
      (exhausted : Platform.exhaustion (.readDocument (Toml.newlines text)) = some f) :
      Escape v env request f
  | hugeInteger {path : Path} {chosen : Option Path} {text : List Char} {digits : Nat}
      {rest : List Char} (choice : Chosen v env request (some path) chosen)
      (octets : Text.decode (octetsAt v path) = .ok text)
      (followed : follow (.readDocument (Toml.newlines text)) = .ok ())
      (document : Toml.read (Toml.newlines text) = .error ⟨.hugeInteger digits, rest⟩) :
      Escape v env request (.hugeInteger digits)
  | deepVariables {config chosen : Option Path} {document : Fields} {f : Failure}
      (choice : Chosen v env request config chosen)
      (document : readDocument? v config = .ok document)
      (exhausted : Platform.exhaustion (.readVariables env.folded) = some f) :
      Escape v env request f
  | layout {config chosen : Option Path} {document : Fields}
      (choice : Chosen v env request config chosen)
      (document : readDocument? v config = .ok document)
      (followed : follow (.readVariables env.folded) = .ok ())
      (unreadable : env.Unreadable "layout" ["readonly"]) :
      Escape v env request (.unreadableVariable "layout")
  | runner {config chosen : Option Path} {document : Fields}
      (choice : Chosen v env request config chosen)
      (document : readDocument? v config = .ok document)
      (followed : follow (.readVariables env.folded) = .ok ())
      (readable : ¬env.Unreadable "layout" ["readonly"]) (unreadable : env.Unreadable "runner" []) :
      Escape v env request (.unreadableVariable "runner")
  | deepMerge {config chosen : Option Path} {document environment : Fields} {f : Failure}
      (choice : Chosen v env request config chosen)
      (documentRead : readDocument? v config = .ok document)
      (environmentRead : environmentFields env = .ok environment)
      (exhausted : Platform.exhaustion ((request.sources env document).merge environment) = some f) :
      Escape v env request f
  | nowhere {config chosen : Option Path} {document environment : Fields} {e : Error}
      (gathered : Gathered v env request config chosen document environment)
      (directory : namedDir v (argumentFields request.given) chosen
        ((request.sources env document).merged environment) = .error e) :
      Escape v env request (.files e)
  | deepPath {config chosen : Option Path} {document environment : Fields} {path : Path} {f : Failure}
      (gathered : Gathered v env request config chosen document environment)
      (directory : namedDir v (argumentFields request.given) chosen
        ((request.sources env document).merged environment) = .ok (some path))
      (exhausted : Platform.exhaustion (.resolve v path) = some f) :
      Escape v env request f
  | noPath {config chosen : Option Path} {document environment : Fields} {path : Path} {e : Error}
      (gathered : Gathered v env request config chosen document environment)
      (directory : namedDir v (argumentFields request.given) chosen
        ((request.sources env document).merged environment) = .ok (some path))
      (followed : follow (.resolve v path) = .ok ())
      (unresolved : launcherDir v env path = .error e) (possible : e ≠ .nulCharacter) :
      Escape v env request (.files e)

theorem Escape.assemble_eq (h : Escape v env request f) :
    assemble v env request = .error f ∧ f.isUserError = false := by
  cases h with
  | deepSearch exhausted =>
    exact ⟨by rw [assemble, follow_eq_error.mpr exhausted, error_bind],
      Platform.isUserError_exhaustion exhausted⟩
  | noSearch searched choice =>
    exact ⟨by simp only [assemble, searched, choice, ok_bind, mapError_error, error_bind], rfl⟩
  | noDirectory searched choice directory =>
    exact ⟨by simp only [assemble, searched, choice, directory, mapError_ok, ok_bind,
      mapError_error, error_bind], rfl⟩
  | notUtf8 choice octets =>
    have hread := (readDocument_escapes (isFile_of_chooseConfig choice.configChosen)).mpr
      (.inl ⟨_, octets, rfl⟩)
    rw [assemble_eq_of_chosen choice, readDocument?, hread.1]
    exact ⟨rfl, rfl⟩
  | deepDocument choice octets exhausted =>
    have hread := (readDocument_escapes (isFile_of_chooseConfig choice.configChosen)).mpr
      (.inr ⟨_, octets, .inl exhausted⟩)
    rw [assemble_eq_of_chosen choice, readDocument?, hread.1]
    exact ⟨rfl, hread.2⟩
  | hugeInteger choice octets followed document =>
    have hread := (readDocument_escapes (isFile_of_chooseConfig choice.configChosen)).mpr
      (.inr ⟨_, octets, .inr ⟨followed, _, _, document, rfl⟩⟩)
    rw [assemble_eq_of_chosen choice, readDocument?, hread.1]
    exact ⟨rfl, rfl⟩
  | deepVariables choice document exhausted =>
    rw [assemble_eq_of_chosen choice, document, ok_bind,
      environmentFields_eq_error.mpr (.inl exhausted)]
    exact ⟨rfl, Platform.isUserError_exhaustion exhausted⟩
  | layout choice document followed unreadable =>
    rw [assemble_eq_of_chosen choice, document, ok_bind,
      environmentFields_eq_error.mpr (.inr ⟨followed, .inl ⟨unreadable, rfl⟩⟩)]
    exact ⟨rfl, rfl⟩
  | runner choice document followed readable unreadable =>
    rw [assemble_eq_of_chosen choice, document, ok_bind,
      environmentFields_eq_error.mpr (.inr ⟨followed, .inr ⟨readable, unreadable, rfl⟩⟩)]
    exact ⟨rfl, rfl⟩
  | deepMerge choice documentRead environmentRead exhausted =>
    rw [assemble_eq_of_chosen choice, documentRead, ok_bind, environmentRead, ok_bind,
      follow_eq_error.mpr exhausted]
    exact ⟨rfl, Platform.isUserError_exhaustion exhausted⟩
  | nowhere gathered directory =>
    rw [gathered.assemble_eq, baseDirOf_eq_error.mpr (.inl ⟨_, directory, rfl⟩)]
    exact ⟨rfl, rfl⟩
  | deepPath gathered directory exhausted =>
    rw [gathered.assemble_eq, baseDirOf_eq_error.mpr (.inr ⟨_, directory, .inl exhausted⟩)]
    exact ⟨rfl, Platform.isUserError_exhaustion exhausted⟩
  | noPath gathered directory followed unresolved possible =>
    rw [gathered.assemble_eq, baseDirOf_eq_error.mpr
      (.inr ⟨_, directory, .inr ⟨followed, _, unresolved, possible, rfl⟩⟩)]
    exact ⟨rfl, rfl⟩

/-- A failure keeps the choices from being made, or comes after them. -/
theorem escape_or_chosen (h : assemble v env request = .error f) :
    Escape v env request f ∨ ∃ config chosen, Chosen v env request config chosen := by
  rw [assemble, follow_bind_eq_error] at h
  obtain hdeep | ⟨hsearched, h⟩ := h
  · exact .inl (.deepSearch hdeep)
  cases hconfig : chooseConfig v env request with
  | error e =>
    simp only [hconfig, mapError_error, error_bind, Except.error.injEq] at h
    exact .inl (h ▸ .noSearch hsearched hconfig)
  | ok config =>
    cases hchosen : chooseBaseDir v env request config with
    | error e =>
      simp only [hconfig, hchosen, mapError_ok, ok_bind, mapError_error, error_bind,
        Except.error.injEq] at h
      exact .inl (h ▸ .noDirectory hsearched hconfig hchosen)
    | ok chosen => exact .inr ⟨config, chosen, hsearched, hconfig, hchosen⟩

/-- With the choices made, a failure that is no user error keeps the sources from being gathered, or
comes after that. -/
theorem Chosen.escape_or_gathered {config chosen : Option Path}
    (choice : Chosen v env request config chosen) (h : assemble v env request = .error f)
    (hf : f.isUserError = false) :
    Escape v env request f ∨ ∃ document environment,
      Gathered v env request config chosen document environment := by
  rw [assemble_eq_of_chosen choice, bind_eq_error] at h
  obtain hread | ⟨document, hdocument, h⟩ := h
  · cases config with
    | none => contradiction
    | some path =>
      obtain ⟨fault, hfault, rfl⟩ | ⟨text, htext, hdeep | ⟨hfollowed, digits, rest, hdigits, rfl⟩⟩ :=
        (readDocument_escapes (isFile_of_chooseConfig choice.configChosen)).mp ⟨hread, hf⟩
      · exact .inl (.notUtf8 choice hfault)
      · exact .inl (.deepDocument choice htext hdeep)
      · exact .inl (.hugeInteger choice htext hfollowed hdigits)
  rw [bind_eq_error] at h
  obtain henv | ⟨environment, henv, h⟩ := h
  · obtain hdeep | ⟨hfollowed, ⟨hlayout, rfl⟩ | ⟨hlayout, hrunner, rfl⟩⟩ :=
      environmentFields_eq_error.mp henv
    · exact .inl (.deepVariables choice hdocument hdeep)
    · exact .inl (.layout choice hdocument hfollowed hlayout)
    · exact .inl (.runner choice hdocument hfollowed hlayout hrunner)
  rw [follow_bind_eq_error] at h
  obtain hdeep | ⟨hfollowed, h⟩ := h
  · exact .inl (.deepMerge choice hdocument henv hdeep)
  · exact .inr ⟨document, environment, choice, hdocument, henv, hfollowed⟩

/-- Assembling settings fails with a user error, or in one of the ways of `Escape`. -/
theorem assemble_escapes :
    assemble v env request = .error f ∧ f.isUserError = false ↔ Escape v env request f := by
  refine ⟨?_, Escape.assemble_eq⟩
  rintro ⟨h, hf⟩
  obtain hescape | ⟨config, chosen, choice⟩ := escape_or_chosen h
  · exact hescape
  obtain hescape | ⟨document, environment, gathered⟩ := choice.escape_or_gathered h hf
  · exact hescape
  rw [gathered.assemble_eq, bind_eq_error] at h
  obtain hbaseDir | ⟨baseDir, -, h⟩ := h
  · obtain ⟨e, hdir, rfl⟩ | ⟨path, hdir, hdeep | ⟨hresolved, e, hpath, hpossible, rfl⟩⟩ :=
      baseDirOf_eq_error.mp hbaseDir
    · exact .nowhere gathered hdir
    · exact .deepPath gathered hdir hdeep
    · exact .noPath gathered hdir hresolved hpath hpossible
  · -- Issues with the settings are told to the user.
    unfold settle at h
    split at h
    · contradiction
    · obtain rfl := Except.error.inj h
      contradiction

end Assembling

/-- An object that is not closed is no user error. -/
theorem assemble_unclosed : ∃ f,
    assemble ⟨⟨[]⟩, some []⟩ [("RETH_BUILD_LAYOUT", "\x7b")] ⟨none, none, []⟩ = .error f ∧
      f.isUserError = false := by
  have hescapes : (match
      assemble ⟨⟨[]⟩, some []⟩ [("RETH_BUILD_LAYOUT", "\x7b")] ⟨none, none, []⟩ with
      | .ok _ => true
      | .error f => f.isUserError) = false := by
    decide +kernel
  split at hescapes
  · contradiction
  · rename_i f hf
    exact ⟨f, hf, hescapes⟩

end Settings
end BuildLauncher
