import Mathlib.Tactic.Basic
import Multipath.Config.Reading

/-!
# What a configuration that was read guarantees

A setting is taken over only if its value fits, and the two limits are compared at the end, so a
configuration that was read is one that the tables can be built for.

Results:
1. `Codec.ofText_eq_ok_iff`, `Codec.ofText_eq_error_iff`: which texts are refused, and why.
2. `assign?_eq_some_iff`, `readMember_eq_some_iff`: what one member does.
   `fits_of_ofJson?`: all settings stay within their bounds.
-/

namespace Multipath.Config

/-! ## 1. Texts -/

variable {text : String} {config : Config}

theorem validate_eq_ok_iff : config.validate = .ok () ↔ config.warnNodes ≤ config.maxNodes := by
  unfold validate
  split
  · next ordered => exact iff_of_true rfl ordered
  · next crossed => exact iff_of_false nofun crossed

namespace Codec

variable {codec : Codec}

theorem ofText_eq_ok_iff : codec.ofText text = .ok config ↔
    (codec.parse? text >>= codec.fill? {}) = some config ∧ config.warnNodes ≤ config.maxNodes := by
  unfold ofText
  cases codec.parse? text >>= codec.fill? {} with
  | none => exact iff_of_false nofun nofun
  | some read =>
    dsimp only
    rw [Option.some.injEq, validate]
    split
    · next ordered =>
      constructor
      · rintro ⟨⟩
        exact ⟨rfl, ordered⟩
      · rintro ⟨rfl, -⟩
        rfl
    · next crossed =>
      refine iff_of_false nofun ?_
      rintro ⟨rfl, ordered⟩
      exact crossed ordered

theorem ofText_eq_error_iff {cause : ConfigError} : codec.ofText text = .error cause ↔
    (codec.parse? text >>= codec.fill? {}) = none ∧ cause = .invalidJson ∨
      ∃ config, (codec.parse? text >>= codec.fill? {}) = some config ∧
        config.maxNodes < config.warnNodes ∧
        cause = .thresholds config.warnNodes config.maxNodes := by
  unfold ofText
  cases codec.parse? text >>= codec.fill? {} with
  | none => simp [eq_comm]
  | some read =>
    simp only [validate, reduceCtorEq, false_and, Option.some.injEq, exists_eq_left', false_or]
    split
    · next ordered => exact iff_of_false nofun fun crossed => Nat.not_lt.2 ordered crossed.1
    · next crossed =>
      rw [and_iff_right (Nat.not_le.1 crossed)]
      constructor
      · rintro ⟨⟩
        rfl
      · rintro rfl
        rfl

theorem ofText_of_refused {document : Json.Value} (parsed : codec.parse? text = some document)
    (refused : codec.fill? {} document = none) : codec.ofText text = .error .invalidJson := by
  refine ofText_eq_error_iff.2 (Or.inl ⟨?_, rfl⟩)
  rw [parsed]
  exact refused

end Codec

theorem ofText_eq_ok_iff : ofText text = .ok config ↔
    (Json.Value.ofText? text >>= ofJson?) = some config ∧ config.warnNodes ≤ config.maxNodes :=
  Codec.ofText_eq_ok_iff

theorem ofText_eq_error_iff {cause : ConfigError} : ofText text = .error cause ↔
    (Json.Value.ofText? text >>= ofJson?) = none ∧ cause = .invalidJson ∨
      ∃ config, (Json.Value.ofText? text >>= ofJson?) = some config ∧
        config.maxNodes < config.warnNodes ∧
        cause = .thresholds config.warnNodes config.maxNodes :=
  Codec.ofText_eq_error_iff

/-! ## 2. Bounds -/

def Fits (config : Config) : Prop := ∀ setting, config.get setting < setting.bound

theorem fits_default : Fits {} := by
  intro setting
  cases setting <;> decide

theorem get_set_of_ne {setting other : Setting} (apart : other ≠ setting) (value : Nat) :
    (config.set setting value).get other = config.get other := by
  cases setting <;> cases other <;> first | rfl | exact absurd rfl apart

theorem Fits.set (fits : config.Fits) {setting : Setting} {value : Nat}
    (small : value < setting.bound) : (config.set setting value).Fits := by
  intro other
  by_cases same : other = setting
  · subst same
    cases other with
    | maxNodes => exact small
    | warnNodes => exact small
    | hashSeed => exact UInt32.toNat_lt_size _
  · rw [get_set_of_ne same]
    exact fits other

theorem assign?_eq_some_iff {setting : Setting} {value : Json.Value} {next : Config} :
    config.assign? setting value = some next ↔
      ∃ number < setting.bound, value = .natural number ∧ next = config.set setting number := by
  unfold Config.assign?
  split
  · next number =>
    split
    · next small =>
      rw [Option.some.injEq]
      constructor
      · rintro rfl
        exact ⟨number, small, rfl, rfl⟩
      · rintro ⟨_, -, ⟨⟩, rfl⟩
        rfl
    · next large =>
      refine iff_of_false nofun ?_
      rintro ⟨_, small, ⟨⟩, -⟩
      exact large small
  · next other =>
    refine iff_of_false nofun ?_
    rintro ⟨number, -, rfl, -⟩
    exact other number rfl

theorem Fits.assign? (fits : config.Fits) {setting : Setting} {value : Json.Value}
    {result : Config} (assigned : config.assign? setting value = some result) : result.Fits := by
  obtain ⟨number, small, -, rfl⟩ := assign?_eq_some_iff.1 assigned
  exact fits.set small

/-- What each step of a reading keeps holds at the end of it. -/
theorem holds_of_foldlM {α β : Type} {step : α → β → Option α} {holds : α → Prop}
    (kept : ∀ state item next, holds state → step state item = some next → holds next)
    {items : List β} {start last : α} (initial : holds start)
    (done : items.foldlM step start = some last) : holds last := by
  induction items generalizing start with
  | nil =>
    cases done
    exact initial
  | cons item rest ih =>
    rw [List.foldlM_cons] at done
    obtain ⟨next, stepped, further⟩ := Option.bind_eq_some_iff.1 done
    exact ih (kept start item next initial stepped) further

/-- Members with other keys are passed over. -/
theorem readMember_eq_some_iff {state next : Config × List Setting}
    {member : Option String × Json.Value} :
    readMember state member = some next ↔ ∃ key, member.1 = some key ∧
      (Setting.ofKey? key = none ∧ next = state ∨
        ∃ setting config, Setting.ofKey? key = some setting ∧ setting ∉ state.2 ∧
          state.1.assign? setting member.2 = some config ∧
          next = (config, setting :: state.2)) := by
  unfold readMember
  rw [Option.bind_eq_bind, Option.bind_eq_some_iff]
  refine exists_congr fun key => and_congr_right fun _ => ?_
  cases Setting.ofKey? key with
  | none => simp [eq_comm]
  | some setting =>
    dsimp only
    split
    · next taken =>
      refine iff_of_false nofun ?_
      rintro (⟨⟨⟩, -⟩ | ⟨_, _, ⟨⟩, fresh, -, -⟩)
      exact fresh taken
    · next fresh =>
      rw [Option.bind_eq_bind, Option.bind_eq_some_iff]
      constructor
      · rintro ⟨config, assigned, ⟨⟩⟩
        exact Or.inr ⟨setting, config, rfl, fresh, assigned, rfl⟩
      · rintro (⟨⟨⟩, -⟩ | ⟨_, config, ⟨⟩, -, assigned, rfl⟩)
        exact ⟨config, assigned, rfl⟩

theorem Fits.readMember {state next : Config × List Setting} {member : Option String × Json.Value}
    (fits : state.1.Fits) (read : Config.readMember state member = some next) : next.1.Fits := by
  obtain ⟨key, -, ⟨-, rfl⟩ | ⟨setting, config, -, -, assigned, rfl⟩⟩ :=
    readMember_eq_some_iff.1 read
  · exact fits
  · exact fits.assign? assigned

theorem fits_of_ofJson? {value : Json.Value} (read : ofJson? value = some config) :
    config.Fits := by
  unfold ofJson? fill? at read
  split at read
  · obtain ⟨state, done, rfl⟩ := Option.map_eq_some_iff.1 read
    have kept : ∀ (state : Config × List Setting) member next, state.1.Fits →
        readMember state member = some next → next.1.Fits :=
      fun _ _ _ fits => fits.readMember
    exact holds_of_foldlM kept fits_default done
  · split at read
    · exact holds_of_foldlM (fun state item next fits => fits.assign?) fits_default read
    · cases read
  · cases read

end Multipath.Config
