import ReefCards.Proofs.Settings.Run
import ReefCards.Proofs.Text.Numeral
import ReefCards.Proofs.Text.Trim

/-!
# Shown settings given back

What is shown for a setting is written apart from what is read for it: fields with commas between
them, a width in digits, a path as it is. It can be given back all the same, since changes make only
settings that are read from what is shown for them. Main statements: `Made.setAll`,
`Made.set_shown_iff` and `shown_given_back`.
-/

namespace ReefCards

/-- What is written as the name of a field is that field. -/
theorem Field.written_name (field : Field) : written (Named.name field) = .ok field := by
  cases field <;> decide

/-- The name of a field is a word without commas. -/
theorem Field.name_is_word (field : Field) :
    Named.name field ≠ [] ∧ ',' ∉ Named.name field ∧
      ∀ c ∈ Named.name field, Text.isBlank c = false := by
  have hblank : (Named.name field).any Text.isBlank = false := by cases field <;> decide
  refine ⟨by cases field <;> decide, by cases field <;> decide, fun c hc => ?_⟩
  exact eq_false_of_ne_true (List.any_eq_false.1 hblank c hc)

namespace Settings

variable {settings changed : Settings} {key value : Text}

/-- A path that was read from a value is read from itself. -/
theorem readPath_of_readPath {path : Text} (h : readPath value = some path) :
    readPath path = some path := by
  rw [readPath] at h
  split at h
  · cases h
  · next hpath =>
    obtain rfl := Option.some.inj h
    rw [readPath, Text.trim_trim, if_neg hpath]

/-- Fields are read from their names with commas between them. -/
theorem readFields_join {fields : List Field} (h : fields ≠ []) :
    readFields (Text.join "," (fields.map Named.name)) = .ok fields := by
  have hsplit : (Text.join "," (fields.map Named.name)).splitOnP (· = ',') =
      fields.map Named.name :=
    List.splitOn_intercalate ',' (List.forall_mem_map.2 fun field _ => field.name_is_word.2.1)
      (by simpa using h)
  have htrim : (fields.map Named.name).map Text.trim = fields.map Named.name := by
    rw [List.map_map]
    exact List.map_congr_left fun field _ => Text.trim_of_not_blank field.name_is_word.2.2
  have hkeep : ((fields.map Named.name).filter fun name => !name.isEmpty) =
      fields.map Named.name :=
    List.filter_eq_self.2 (List.forall_mem_map.2 fun field _ => by simp [field.name_is_word.1])
  have hread : ((fields.map Named.name).mapM fun name =>
      (Field.written name).mapError SettingProblem.unknownField) = .ok fields := by
    refine mapM_eq_ok_iff.2 (List.forall₂_map_left_iff.2 (List.forall₂_same.2 fun field _ => ?_))
    rw [Field.written_name]
    rfl
  rw [readFields, hsplit, htrim, hkeep, hread]
  cases fields with
  | nil => exact absurd rfl h
  | cons field rest => rfl

/-- A width is read from its digits. -/
theorem readWidth_decimal {width : Nat} (hpos : 1 ≤ width) (hlt : width < widthLimit) :
    readWidth (Text.decimal width) = .ok width := by
  have htrim : Text.trim (Text.decimal width) = Text.decimal width :=
    Text.trim_of_not_blank fun c hc => Text.isBlank_of_isDigit (Text.isDigit_of_mem_decimal hc)
  rw [readWidth, htrim, Text.natural?_decimal _ _ hlt]
  cases width with
  | zero => cases hpos
  | succ width => rfl

/-- Settings as changes make them: they are sound, and the path, if there is one, is read from
itself. -/
structure Made (settings : Settings) : Prop extends settings.Sound where
  readPath_eq : ∀ path ∈ settings.cardsPath, readPath path = some path

/-- The default settings need no change. -/
theorem made_default : ({} : Settings).Made := ⟨sound_default, nofun⟩

/-- A change makes settings of settings that changes made. -/
theorem Made.set (h : settings.Made) (hset : settings.set key value = .ok changed) :
    changed.Made := by
  refine ⟨h.toSound.set hset, fun path hpath => ?_⟩
  obtain ⟨-, rfl⟩ | ⟨fields, -, -, rfl⟩ | ⟨lineWidth, -, -, rfl⟩ := set_eq_ok_iff.1 hset
  · exact readPath_of_readPath hpath
  · exact h.readPath_eq path hpath
  · exact h.readPath_eq path hpath

/-- Changes one after the other make settings, of settings that changes made. -/
theorem Made.setAll {changes : List (Text × Text)} (h : settings.Made)
    (hset : settings.setAll changes = .ok changed) : changed.Made := by
  induction changes generalizing settings with
  | nil =>
    cases hset
    exact h
  | cons change rest ih =>
    obtain ⟨next, hnext, hrest⟩ := bind_eq_ok_iff.1 hset
    exact ih (h.set hnext) hrest

/-- Every setting is shown under its name. -/
theorem get?_name (settings : Settings) (setting : Setting) :
    settings.get? (Named.name setting) = some (settings.shown setting) := by
  rw [get?, Named.exactly?_name, Option.map_some]

/-- A setting that is given back as it is shown stays as it is, except for the path if there is
none: what is shown then would be taken for one. -/
theorem Made.set_shown_iff (h : settings.Made) (setting : Setting) :
    settings.set (Named.name setting) (settings.shown setting) = .ok settings ↔
      (setting = .cardsPath → settings.cardsPath ≠ none) := by
  rw [Settings.set, Named.exactly?_name]
  cases setting with
  | cardsPath =>
    cases hpath : settings.cardsPath with
    | none =>
      refine iff_of_false (fun hset => ?_) (fun hne => hne rfl rfl)
      have hread : readPath "(embedded)" = none := by
        simpa [shown, hpath] using congrArg Settings.cardsPath (Except.ok.inj hset)
      exact absurd hread (by decide)
    | some path =>
      refine iff_of_true ?_ (fun _ => Option.some_ne_none path)
      have hread : readPath (settings.shown .cardsPath) = settings.cardsPath := by
        rw [shown, hpath]
        exact h.readPath_eq path hpath
      simp only [hread]
  | fields =>
    refine iff_of_true ?_ (by simp)
    simp only [shown, readFields_join h.fields_ne_nil]
    rfl
  | lineWidth =>
    refine iff_of_true ?_ (by simp)
    simp only [shown, readWidth_decimal h.lineWidth_pos h.lineWidth_lt]
    rfl

/-- Changes the setting of this name in place. What was done before a problem came up stays done. -/
def assign (key value : Text) : ExceptT SettingProblem (StateM Settings) Unit :=
  match (Named.exactly? key : Option Setting) with
  | some .cardsPath => modify fun settings => { settings with cardsPath := readPath value }
  | some .fields => do
    let fields ← MonadExcept.ofExcept (readFields value)
    modify fun settings => { settings with fields }
  | some .lineWidth => do
    let lineWidth ← MonadExcept.ofExcept (readWidth value)
    modify fun settings => { settings with lineWidth }
  | none => throw (.unknownKey key)

/-- A change in place leaves the changed settings, or it fails and leaves the settings as they
were. -/
theorem run_assign_cases (settings : Settings) (key value : Text) :
    (∃ changed, settings.set key value = .ok changed ∧
        (assign key value).run settings = (.ok (), changed)) ∨
      ∃ problem, settings.set key value = .error problem ∧
        (assign key value).run settings = (.error problem, settings) := by
  unfold Settings.set assign
  cases (Named.exactly? key : Option Setting) with
  | none => exact .inr ⟨_, rfl, rfl⟩
  | some setting =>
    cases setting with
    | cardsPath => exact .inl ⟨_, rfl, rfl⟩
    | fields =>
      cases readFields value with
      | error problem => exact .inr ⟨problem, rfl, rfl⟩
      | ok fields => exact .inl ⟨_, rfl, rfl⟩
    | lineWidth =>
      cases readWidth value with
      | error problem => exact .inr ⟨problem, rfl, rfl⟩
      | ok lineWidth => exact .inl ⟨_, rfl, rfl⟩

/-- What is shown for a setting can be given back. In settings that were made of the default ones by
changes, each setting is shown as a value which, given back under its name, leaves the settings as
they are; only when there is no path, what is shown for it would be taken for one. Whatever the
settings and whichever the value, a change that is carried out in place leaves the changed settings
or else fails and leaves all settings as they were. -/
theorem shown_given_back {changes : List (Text × Text)}
    (h : ({} : Settings).setAll changes = .ok settings) :
    (∀ setting : Setting, ∃ value, settings.get? (Named.name setting) = some value ∧
        (settings.set (Named.name setting) value = .ok settings ↔
          (setting = .cardsPath → settings.cardsPath ≠ none))) ∧
      ∀ (others : Settings) (key value : Text),
        (∃ changed, others.set key value = .ok changed ∧
            (assign key value).run others = (.ok (), changed)) ∨
          ∃ problem, others.set key value = .error problem ∧
            (assign key value).run others = (.error problem, others) := by
  have hmade : settings.Made := made_default.setAll h
  refine ⟨fun setting => ⟨settings.shown setting, settings.get?_name setting, ?_⟩, run_assign_cases⟩
  exact hmade.set_shown_iff setting

/-- Fields in any letters and with empty items, a path between blanks and a width with a plus sign
and zeros are all given back as they are shown. -/
theorem shown_given_back_loosely_written :
    let changes : List (Text × Text) := [("index_fields", " description ,, NAME"),
      ("cards_path", " my cards.json
"), ("line_width", " +0080 ")]
    let settings : Settings :=
      { cardsPath := some "my cards.json".toList, fields := [.description, .name], lineWidth := 80 }
    ({} : Settings).setAll changes = .ok settings ∧
      ∀ setting : Setting, ∃ value, settings.get? (Named.name setting) = some value ∧
        settings.set (Named.name setting) value = .ok settings := by
  intro changes settings
  have hchanges : ({} : Settings).setAll changes = .ok settings := by decide
  refine ⟨hchanges, fun setting => ?_⟩
  obtain ⟨value, hvalue, hset⟩ := (shown_given_back hchanges).1 setting
  exact ⟨value, hvalue, hset.2 fun _ => nofun⟩

end Settings
end ReefCards
