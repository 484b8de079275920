import Multipath.Proofs.Config.Limits
import Multipath.Proofs.Json.Objects

/-!
# What is known of a codec

Parsing JSON, filling a record from an object and writing one are the work of libraries.
`Codec.Documented` is what is relied on: an object is parsed to its members, and the members are gone
through in their order, where each sets one field and the first one that cannot be taken ends it.
What a whole object gives, and what becomes of its text, is not among it.

Results:
1. `writesSettings_compact`: a text without white space.
2. `mem_given_iff`: the settings that members were read for.
3. `json_documented`: the codec of the programs is as documented.
-/

namespace Multipath

theorem Setting.ofKey?_eq_some_iff {key : String} {setting : Setting} :
    Setting.ofKey? key = some setting ↔ setting.key = key := by
  constructor
  · intro found
    have passes := List.find?_some found
    exact of_decide_eq_true passes
  · rintro rfl
    cases setting <;> decide

theorem Setting.key_injective : Function.Injective Setting.key := by
  intro setting other same
  have known := Setting.ofKey?_eq_some_iff.2 same
  rw [Setting.ofKey?_eq_some_iff.2 rfl] at known
  exact (Option.some.inj known).symm

namespace Config

/-! ## 1. Texts of settings -/

/-- The members that give these integers. -/
def objectOf (given : List (Setting × ℤ)) : List (String × ℤ) :=
  given.map fun member => (member.1.key, member.2)

/-- The text is an object that gives these integers, in any spelling of its keys and with any white
space. -/
def WritesSettings (given : List (Setting × ℤ)) (text : String) : Prop :=
  Json.Written (Json.objectTokens (objectOf given)) text.toList

def settings (config : Config) : List (Setting × ℤ) :=
  Setting.all.map fun setting => (setting, (config.get setting : ℤ))

theorem plain_key (setting : Setting) : ∀ c ∈ setting.key.toList, Json.Plain c := by
  have plain : setting.key.toList.all (Json.Plain ·) = true := by
    cases setting <;> decide
  exact fun c present => of_decide_eq_true (List.all_eq_true.1 plain c present)

/-- Objects may be written without white space. -/
theorem writesSettings_compact {given : List (Setting × ℤ)} {text : String}
    (compact : text.toList =
      ['{'] ++ [','].intercalate ((objectOf given).map Json.compactMember) ++ ['}']) :
    WritesSettings given text := by
  rw [WritesSettings, compact]
  refine Json.written_compact fun member listed => ?_
  obtain ⟨⟨setting, _⟩, -, rfl⟩ := List.mem_map.1 listed
  exact plain_key setting

/-- What the libraries behind a codec say of it. -/
structure Codec.Documented (codec : Codec) : Prop where
  parse : ∀ (members : List (String × ℤ)) (text : String),
    Json.Written (Json.objectTokens members) text.toList →
    codec.parse? text = some (.object (members.map Json.memberValue))
  /-- A field without a member has its default. -/
  missing : ∀ defaults, codec.fill? defaults (.object []) = some defaults
  /-- A field takes the value of the member with its key. -/
  field : ∀ defaults members config (setting : Setting) number,
    codec.fill? defaults (.object members) = some config →
    some setting.key ∉ members.map Prod.fst → number < setting.bound →
    codec.fill? defaults (.object (members ++ [(some setting.key, .natural number)])) =
      some (config.set setting number)
  /-- No field has two members. -/
  repeated : ∀ defaults members (setting : Setting) content,
    some setting.key ∈ members.map Prod.fst →
    codec.fill? defaults (.object (members ++ [(some setting.key, content)])) = none
  /-- The value of a member has the type of its field. -/
  unfit : ∀ defaults members (setting : Setting) content,
    (∀ number < setting.bound, content ≠ .natural number) →
    codec.fill? defaults (.object (members ++ [(some setting.key, content)])) = none
  /-- Nothing is read after a member that cannot be taken. -/
  refused : ∀ defaults members member, codec.fill? defaults (.object members) = none →
    codec.fill? defaults (.object (members ++ [member])) = none
  /-- The fields are written in their order. -/
  write : ∀ config : Config, config.Fits → WritesSettings config.settings (codec.write config)

/-! ## 2. Members -/

variable {defaults config : Config} {members : List (Option String × Json.Value)}
  {member : Option String × Json.Value} {setting : Setting}
  {state first last : Config × List Setting}

theorem mem_given_of_readMember (read : readMember first member = some last) :
    setting ∈ last.2 ↔ some setting.key = member.1 ∨ setting ∈ first.2 := by
  obtain ⟨key, keyed, ⟨unknown, rfl⟩ | ⟨taken, config, found, -, -, rfl⟩⟩ :=
    readMember_eq_some_iff.1 read
  · rw [keyed, Option.some.injEq, ← Setting.ofKey?_eq_some_iff, unknown]
    simp
  · rw [keyed, Option.some.injEq, ← Setting.ofKey?_eq_some_iff, found, Option.some.injEq,
      List.mem_cons, eq_comm]

theorem mem_given_iff (read : members.foldlM readMember first = some last) :
    setting ∈ last.2 ↔ some setting.key ∈ members.map Prod.fst ∨ setting ∈ first.2 := by
  induction members generalizing first with
  | nil =>
    cases read
    simp
  | cons member rest ih =>
    rw [List.foldlM_cons, Option.bind_eq_bind, Option.bind_eq_some_iff] at read
    obtain ⟨next, here, later⟩ := read
    rw [ih later, mem_given_of_readMember here, List.map_cons, List.mem_cons, or_left_comm, or_assoc]

theorem fill?_object_eq_some_iff : fill? defaults (.object members) = some config ↔
    ∃ given, members.foldlM readMember (defaults, []) = some (config, given) := by
  rw [fill?, Option.map_eq_some_iff]
  simp

theorem fill?_concat_eq_some_iff : fill? defaults (.object (members ++ [member])) = some config ↔
    ∃ state given, members.foldlM readMember (defaults, []) = some state ∧
      readMember state member = some (config, given) := by
  rw [fill?_object_eq_some_iff, List.foldlM_append]
  simp only [Option.bind_eq_bind, Option.bind_eq_some_iff, List.foldlM_cons, List.foldlM_nil,
    Option.pure_def, Option.some.injEq, exists_eq_right]
  rw [exists_comm]

theorem readMember_setting_iff {content : Json.Value} {next : Config × List Setting} :
    readMember state (some setting.key, content) = some next ↔
      setting ∉ state.2 ∧ ∃ number < setting.bound, content = .natural number ∧
        next = (state.1.set setting number, setting :: state.2) := by
  have known : Setting.ofKey? setting.key = some setting := Setting.ofKey?_eq_some_iff.2 rfl
  rw [readMember_eq_some_iff]
  constructor
  · rintro ⟨_, ⟨⟩, ⟨unknown, -⟩ | ⟨_, _, found, fresh, assigned, rfl⟩⟩
    · cases known.symm.trans unknown
    · cases known.symm.trans found
      obtain ⟨number, small, isNumber, rfl⟩ := assign?_eq_some_iff.1 assigned
      exact ⟨fresh, number, small, isNumber, rfl⟩
  · rintro ⟨fresh, number, small, isNumber, rfl⟩
    exact ⟨_, rfl, Or.inr ⟨setting, _, known, fresh,
      assign?_eq_some_iff.2 ⟨number, small, isNumber, rfl⟩, rfl⟩⟩

/-- One more member for a setting. -/
theorem fill?_setting_iff {content : Json.Value} :
    fill? defaults (.object (members ++ [(some setting.key, content)])) = some config ↔
      ∃ earlier number, fill? defaults (.object members) = some earlier ∧
        some setting.key ∉ members.map Prod.fst ∧ number < setting.bound ∧
        content = .natural number ∧ earlier.set setting number = config := by
  rw [fill?_concat_eq_some_iff]
  constructor
  · rintro ⟨⟨earlier, given⟩, _, read, taken⟩
    obtain ⟨fresh, number, small, isNumber, next⟩ := readMember_setting_iff.1 taken
    cases next
    refine ⟨earlier, number, fill?_object_eq_some_iff.2 ⟨given, read⟩, fun listed => ?_, small,
      isNumber, rfl⟩
    exact fresh ((mem_given_iff read).2 (Or.inl listed))
  · rintro ⟨earlier, number, filled, fresh, small, isNumber, rfl⟩
    obtain ⟨given, read⟩ := fill?_object_eq_some_iff.1 filled
    refine ⟨(earlier, given), setting :: given, read, readMember_setting_iff.2
      ⟨fun listed => ?_, number, small, isNumber, rfl⟩⟩
    exact fresh (((mem_given_iff read).1 listed).resolve_right List.not_mem_nil)

/-! ## 3. The codec of the programs -/

theorem renderMember_eq (config : Config) (setting : Setting) :
    config.renderMember setting = Json.compactMember (setting.key, (config.get setting : ℤ)) := by
  simp only [renderMember, Json.compactMember, List.append_assoc, List.cons_append, List.nil_append]
  rfl

theorem writesSettings_render (config : Config) : WritesSettings config.settings config.render := by
  refine writesSettings_compact ?_
  rw [render, String.toList_ofList, objectOf, settings, List.map_map, List.map_map,
    List.map_congr_left fun setting _ => config.renderMember_eq setting]
  rfl

theorem json_documented : json.Documented where
  parse _ _ := Json.ofText?_of_written
  missing _ := rfl
  field _ _ earlier _ number filled fresh small :=
    fill?_setting_iff.2 ⟨earlier, number, filled, fresh, small, rfl, rfl⟩
  repeated _ _ _ _ twice := by
    refine Option.eq_none_iff_forall_ne_some.2 fun config filled => ?_
    obtain ⟨_, _, _, fresh, _⟩ := fill?_setting_iff.1 filled
    exact fresh twice
  unfit _ _ _ _ unfit := by
    refine Option.eq_none_iff_forall_ne_some.2 fun config filled => ?_
    obtain ⟨_, number, _, _, small, isNumber, _⟩ := fill?_setting_iff.1 filled
    exact unfit number small isNumber
  refused _ _ _ refused := by
    refine Option.eq_none_iff_forall_ne_some.2 fun config filled => ?_
    obtain ⟨state, _, read, _⟩ := fill?_concat_eq_some_iff.1 filled
    cases refused.symm.trans (fill?_object_eq_some_iff.2 ⟨state.2, read⟩)
  write config _ := writesSettings_render config

end Config

end Multipath
