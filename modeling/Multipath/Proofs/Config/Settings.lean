import Mathlib.Data.List.Induction
import Mathlib.Data.List.Nodup
import Multipath.Proofs.Config.Codecs

/-!
# Configurations as objects of settings

An object gives integers for some of the settings, in any order. The others keep their defaults, and
only then are the two limits compared. So a limit that is given alone is compared with the default of
the other one. All this is so with any codec that is as documented.

Results:
1. `overridden_concat`: one more setting over the defaults.
2. `Documented.fill?_eq_some_iff`: which objects are taken over.
   `Documented.fill?_of_twice`, `Documented.fill?_of_listed`: what is refused wherever it stands.
3. `Documented.ofText_eq_ok_iff`: texts. `Documented.ofText_write_iff`: what a codec has written.
4. `Codec.ofText_settings`: all of this together.
-/

namespace Multipath

namespace Config

/-! ## 1. Defaults -/

/-- No setting is given twice, and every integer fits its setting. -/
structure Acceptable (given : List (Setting × ℤ)) : Prop where
  distinct : (given.map Prod.fst).Nodup
  inRange : ∀ member ∈ given, 0 ≤ member.2 ∧ member.2 < member.1.bound

def valueOf (given : List (Setting × ℤ)) (setting : Setting) : ℕ :=
  match given.lookup setting with
  | some value => value.toNat
  | none => ({} : Config).get setting

/-- The default configuration, but for what is given. -/
def overridden (given : List (Setting × ℤ)) : Config where
  maxNodes := valueOf given .maxNodes
  warnNodes := valueOf given .warnNodes
  hashSeed := UInt32.ofNat (valueOf given .hashSeed)

variable {given earlier : List (Setting × ℤ)} {setting : Setting} {value : ℤ}

theorem acceptable_nil : Acceptable [] := ⟨List.nodup_nil, nofun⟩

theorem Acceptable.left (acceptable : Acceptable (earlier ++ given)) : Acceptable earlier := by
  have distinct := acceptable.distinct
  rw [List.map_append] at distinct
  exact ⟨distinct.of_append_left, fun member listed =>
    acceptable.inRange member (List.mem_append_left _ listed)⟩

theorem acceptable_concat_iff : Acceptable (earlier ++ [(setting, value)]) ↔
    Acceptable earlier ∧ setting ∉ earlier.map Prod.fst ∧ 0 ≤ value ∧ value < setting.bound := by
  have distinct_iff : ((earlier ++ [(setting, value)]).map Prod.fst).Nodup ↔
      (earlier.map Prod.fst).Nodup ∧ setting ∉ earlier.map Prod.fst := by
    rw [List.map_append, List.map_singleton, List.nodup_append_comm, List.singleton_append,
      List.nodup_cons, and_comm]
  constructor
  · intro acceptable
    exact ⟨acceptable.left, (distinct_iff.1 acceptable.distinct).2,
      acceptable.inRange (setting, value) (by simp)⟩
  · rintro ⟨⟨distinct, inRange⟩, fresh, small⟩
    exact ⟨distinct_iff.2 ⟨distinct, fresh⟩,
      List.forall_mem_append.2 ⟨inRange, List.forall_mem_singleton.2 small⟩⟩

theorem valueOf_concat (fresh : setting ∉ earlier.map Prod.fst) (value : ℤ) (other : Setting) :
    valueOf (earlier ++ [(setting, value)]) other =
      if other = setting then value.toNat else valueOf earlier other := by
  unfold valueOf
  rw [List.lookup_append]
  by_cases same : other = setting
  · subst same
    have absent : earlier.lookup other = none := by
      rw [List.lookup_eq_none_iff]
      intro member listed
      rw [bne_iff_ne]
      rintro rfl
      exact fresh (List.mem_map_of_mem listed)
    rw [if_pos rfl, absent, List.lookup_cons_self]
    rfl
  · have absent : List.lookup other [(setting, value)] = none := by
      rw [List.lookup_cons, beq_false_of_ne same]
      rfl
    rw [if_neg same, absent, Option.or_none]

theorem overridden_concat (fresh : setting ∉ earlier.map Prod.fst) (value : ℤ) :
    overridden (earlier ++ [(setting, value)]) = (overridden earlier).set setting value.toNat := by
  simp only [overridden, valueOf_concat fresh]
  cases setting <;> rfl

theorem Fits.acceptable_settings {config : Config} (fits : config.Fits) :
    Acceptable config.settings := by
  have all : config.settings.map Prod.fst = Setting.all := rfl
  refine ⟨?_, fun member listed => ?_⟩
  · rw [all]
    decide
  · obtain ⟨setting, -, rfl⟩ := List.mem_map.1 listed
    exact ⟨Int.natCast_nonneg _, Int.ofNat_lt.2 (fits setting)⟩

theorem overridden_settings (config : Config) : overridden config.settings = config := by
  show Config.mk config.maxNodes config.warnNodes (UInt32.ofNat config.hashSeed.toNat) = config
  rw [UInt32.ofNat_toNat]

/-! ## 2. Objects -/

/-- The members that give these integers, as they are parsed. -/
def membersOf (given : List (Setting × ℤ)) : List (Option String × Json.Value) :=
  (objectOf given).map Json.memberValue

theorem membersOf_concat (earlier : List (Setting × ℤ)) (setting : Setting) (value : ℤ) :
    membersOf (earlier ++ [(setting, value)]) =
      membersOf earlier ++ [(some setting.key, Json.integerValue value)] := by
  simp only [membersOf, objectOf, List.map_append, List.map_singleton, Json.memberValue]

theorem key_mem_membersOf_iff :
    some setting.key ∈ (membersOf given).map Prod.fst ↔ setting ∈ given.map Prod.fst := by
  have keys : (membersOf given).map Prod.fst =
      (given.map Prod.fst).map fun setting => some setting.key := by
    simp only [membersOf, objectOf, List.map_map]
    rfl
  rw [keys]
  exact List.mem_map_of_injective fun _ _ same => Setting.key_injective (Option.some.inj same)

theorem integerValue_ne_natural {setting : Setting} {value : ℤ}
    (unfit : ¬ (0 ≤ value ∧ value < setting.bound)) :
    ∀ number < setting.bound, Json.integerValue value ≠ .natural number := by
  intro number small same
  have isNumber : value = (number : ℤ) := Json.integerValue_injective same
  subst isNumber
  exact unfit ⟨Int.natCast_nonneg number, Int.ofNat_lt.2 small⟩

namespace Codec.Documented

variable {codec : Codec} (documented : codec.Documented) {config : Config}
  {members : List (Option String × Json.Value)} {text : String}
include documented

/-- One more integer is taken over if it is for another setting and fits it. -/
theorem fill?_concat_iff :
    codec.fill? {} (.object (membersOf (earlier ++ [(setting, value)]))) = some config ↔
      ∃ before, codec.fill? {} (.object (membersOf earlier)) = some before ∧
        setting ∉ earlier.map Prod.fst ∧ (0 ≤ value ∧ value < setting.bound) ∧
        before.set setting value.toNat = config := by
  rw [membersOf_concat]
  by_cases twice : some setting.key ∈ (membersOf earlier).map Prod.fst
  · rw [documented.repeated {} _ setting _ twice]
    refine iff_of_false nofun ?_
    rintro ⟨_, -, fresh, -⟩
    exact fresh (key_mem_membersOf_iff.1 twice)
  by_cases inRange : 0 ≤ value ∧ value < setting.bound
  swap
  · rw [documented.unfit {} _ setting _ (integerValue_ne_natural inRange)]
    refine iff_of_false nofun ?_
    rintro ⟨_, -, -, fits, -⟩
    exact inRange fits
  cases filled : codec.fill? {} (.object (membersOf earlier)) with
  | none =>
    rw [documented.refused {} _ _ filled]
    exact iff_of_false nofun nofun
  | some before =>
    obtain ⟨number, rfl⟩ := Int.eq_ofNat_of_zero_le inRange.1
    have taken := documented.field {} _ before setting number filled twice
      (Int.ofNat_lt.1 inRange.2)
    rw [show Json.integerValue (number : ℤ) = .natural number from rfl, taken, Option.some.injEq]
    constructor
    · rintro rfl
      exact ⟨before, rfl, mt key_mem_membersOf_iff.2 twice, inRange, rfl⟩
    · rintro ⟨_, ⟨⟩, -, -, rfl⟩
      rfl

theorem fill?_eq_some_iff :
    codec.fill? {} (.object (membersOf given)) = some config ↔
      Acceptable given ∧ overridden given = config := by
  induction given using List.reverseRecOn generalizing config with
  | nil =>
    have missing : codec.fill? {} (.object (membersOf [])) = some {} := documented.missing {}
    rw [missing, and_iff_right acceptable_nil, Option.some.injEq]
    rfl
  | append_singleton earlier member ih =>
    obtain ⟨setting, value⟩ := member
    rw [documented.fill?_concat_iff, acceptable_concat_iff]
    simp only [ih]
    constructor
    · rintro ⟨_, ⟨acceptable, rfl⟩, fresh, inRange, rfl⟩
      exact ⟨⟨acceptable, fresh, inRange⟩, overridden_concat fresh value⟩
    · rintro ⟨⟨acceptable, fresh, inRange⟩, rfl⟩
      exact ⟨_, ⟨acceptable, rfl⟩, fresh, inRange, (overridden_concat fresh value).symm⟩

theorem fill?_append_of_refused {later : List (Option String × Json.Value)}
    (refused : codec.fill? {} (.object members) = none) :
    codec.fill? {} (.object (members ++ later)) = none := by
  induction later using List.reverseRecOn with
  | nil => rwa [List.append_nil]
  | append_singleton later member ih =>
    rw [← List.append_assoc]
    exact documented.refused {} _ member ih

/-- A setting that is given twice is refused, whatever else is in the object. -/
theorem fill?_of_twice {first second : Json.Value}
    (twice : [(some setting.key, first), (some setting.key, second)].Sublist members) :
    codec.fill? {} (.object members) = none := by
  obtain ⟨before, after, rfl, listed, further⟩ := List.cons_sublist_iff.1 twice
  obtain ⟨between, later, rfl⟩ := List.append_of_mem (List.singleton_sublist.1 further)
  rw [← List.append_assoc, List.append_cons]
  refine documented.fill?_append_of_refused (documented.repeated {} _ setting second ?_)
  exact List.mem_map_of_mem (List.mem_append_left _ listed)

/-- So is one whose value does not fit it. -/
theorem fill?_of_listed {content : Json.Value} (listed : (some setting.key, content) ∈ members)
    (unfit : ∀ number < setting.bound, content ≠ .natural number) :
    codec.fill? {} (.object members) = none := by
  obtain ⟨before, later, rfl⟩ := List.append_of_mem listed
  rw [List.append_cons]
  exact documented.fill?_append_of_refused (documented.unfit {} _ setting content unfit)

/-! ## 3. Texts -/

theorem read_eq_some_iff (written : WritesSettings given text) :
    (codec.parse? text >>= codec.fill? {}) = some config ↔
      Acceptable given ∧ overridden given = config := by
  rw [documented.parse _ _ written]
  exact documented.fill?_eq_some_iff

theorem ofText_eq_ok_iff (written : WritesSettings given text) :
    codec.ofText text = .ok config ↔
      (Acceptable given ∧ overridden given = config) ∧ config.warnNodes ≤ config.maxNodes := by
  rw [Codec.ofText_eq_ok_iff, documented.read_eq_some_iff written]

theorem ofText_eq_thresholds (written : WritesSettings given text) (acceptable : Acceptable given)
    (crossed : (overridden given).maxNodes < (overridden given).warnNodes) :
    codec.ofText text =
      .error (.thresholds (overridden given).warnNodes (overridden given).maxNodes) :=
  Codec.ofText_eq_error_iff.2
    (Or.inr ⟨_, (documented.read_eq_some_iff written).2 ⟨acceptable, rfl⟩, crossed, rfl⟩)

theorem ofText_eq_invalidJson (written : WritesSettings given text)
    (refused : ¬ Acceptable given) : codec.ofText text = .error .invalidJson := by
  refine Codec.ofText_eq_error_iff.2 (Or.inl ⟨?_, rfl⟩)
  refine Option.eq_none_iff_forall_ne_some.2 fun config read => ?_
  exact refused ((documented.read_eq_some_iff written).1 read).1

/-- The limit on the nodes alone is compared with the default of the other limit. -/
theorem ofText_maxNodes_iff {number : ℕ} (small : number < Word.wordBound)
    (written : WritesSettings [(.maxNodes, (number : ℤ))] text) :
    (∃ config, codec.ofText text = .ok config) ↔ 10000 ≤ number := by
  have acceptable : Acceptable [(.maxNodes, (number : ℤ))] := by
    refine acceptable_concat_iff.2 ⟨acceptable_nil, List.not_mem_nil, ?_, ?_⟩
    · exact Int.natCast_nonneg number
    · exact Int.ofNat_lt.2 small
  simp only [documented.ofText_eq_ok_iff written, acceptable, true_and, exists_eq_left']
  exact Iff.rfl

/-- A configuration is read again from what it is written as exactly when its limits are in order. -/
theorem ofText_write_iff (fits : config.Fits) :
    codec.ofText (codec.write config) = .ok config ↔ config.validate = .ok () := by
  rw [documented.ofText_eq_ok_iff (documented.write config fits), overridden_settings,
    validate_eq_ok_iff]
  simp only [fits.acceptable_settings, true_and]

end Codec.Documented

/-! ## 4. All outcomes -/

/-- The outcome for every object of integers for settings, in any order and spelling and with any
white space. In particular the limit on the nodes alone has to reach the default of the other one,
and what a configuration is written as is read again exactly when it is valid. Besides, no object is
taken over that gives a setting twice or with a value that does not fit it. -/
theorem Codec.ofText_settings {codec : Codec} (documented : codec.Documented) :
    (∀ given text, WritesSettings given text →
      (Acceptable given → (overridden given).warnNodes ≤ (overridden given).maxNodes →
        codec.ofText text = .ok (overridden given)) ∧
      (Acceptable given → (overridden given).maxNodes < (overridden given).warnNodes →
        codec.ofText text =
          .error (.thresholds (overridden given).warnNodes (overridden given).maxNodes)) ∧
      (¬ Acceptable given → codec.ofText text = .error .invalidJson)) ∧
    (∀ (number : ℕ) (text : String), number < Word.wordBound →
      WritesSettings [(.maxNodes, (number : ℤ))] text →
      ((∃ config, codec.ofText text = .ok config) ↔ 10000 ≤ number)) ∧
    (∀ config : Config, config.Fits →
      (codec.ofText (codec.write config) = .ok config ↔ config.validate = .ok ())) ∧
    ∀ (text : String) (members : List (Option String × Json.Value)),
      codec.parse? text = some (.object members) → ∀ setting : Setting,
      ((∃ first second, [(some setting.key, first), (some setting.key, second)].Sublist members) ∨
        ∃ content, (some setting.key, content) ∈ members ∧
          ∀ number < setting.bound, content ≠ .natural number) →
      codec.ofText text = .error .invalidJson := by
  refine ⟨fun given text written => ⟨fun acceptable ordered => ?_,
    fun acceptable crossed => documented.ofText_eq_thresholds written acceptable crossed,
    fun refused => documented.ofText_eq_invalidJson written refused⟩,
    fun number text small written => documented.ofText_maxNodes_iff small written,
    fun config fits => documented.ofText_write_iff fits, fun text members parsed setting fault => ?_⟩
  · exact (documented.ofText_eq_ok_iff written).2 ⟨⟨acceptable, rfl⟩, ordered⟩
  · refine ofText_of_refused parsed ?_
    rcases fault with ⟨first, second, twice⟩ | ⟨content, listed, unfit⟩
    · exact documented.fill?_of_twice twice
    · exact documented.fill?_of_listed listed unfit

/-- A key may be spelled with an escape. -/
theorem ofText_spaced :
    ofText "\x7b \"\\u006dax_nodes\"\t: 9999 \x7d" = .error (.thresholds 10000 9999) ∧
    (¬ ∃ config, ofText "\x7b \"\\u006dax_nodes\"\t: 9999 \x7d" = .ok config) ∧
    ofText "\x7b\"hash_seed\":7,\"max_nodes\":20000\x7d" = .ok ⟨20000, 10000, 7⟩ ∧
    ofText "\x7b\"warn_nodes\":-1\x7d" = .error .invalidJson ∧
    ofText "\x7b\"hash_seed\":7,\"note\":[],\"hash_seed\":7\x7d" = .error .invalidJson ∧
    ofText ({} : Config).render = .ok {} := by
  obtain ⟨outcomes, alone, rendered, refused⟩ := Codec.ofText_settings json_documented
  have plain : Json.StringBody "ax_nodes".toList ("ax_nodes".toList.map Json.StringPart.char) :=
    Json.stringBody_plain fun c present =>
      plain_key .maxNodes c (List.mem_cons_of_mem 'm' present)
  have key : Json.StringBody ('\\' :: 'u' :: '0' :: '0' :: '6' :: 'd' :: "ax_nodes".toList)
      (.unit 0x6d :: "ax_nodes".toList.map Json.StringPart.char) :=
    .unit (w := 0) (x := 0) (y := 6) (z := 13) rfl rfl rfl rfl plain
  have solid : ∀ c ∈ Json.integerText 9999, Json.endsWord c = false :=
    fun _ => Json.endsWord_of_mem_integerText
  have limit : Json.Written [.word "9999".toList, .closeObject] ("9999".toList ++ [' ', '}']) :=
    .word (by decide) solid
      (fun c first => by cases first; rfl) (.space rfl (.sign rfl .nil))
  have spaced : WritesSettings [(.maxNodes, 9999)] "\x7b \"\\u006dax_nodes\"\t: 9999 \x7d" :=
    .sign rfl (.space rfl (.string key (.space rfl (.sign (c := ':') rfl (.space rfl limit)))))
  have fits : Acceptable [(.maxNodes, 9999)] := ⟨by decide, by decide⟩
  have pair : WritesSettings [(.hashSeed, 7), (.maxNodes, 20000)]
      "\x7b\"hash_seed\":7,\"max_nodes\":20000\x7d" := writesSettings_compact (by decide +kernel)
  have fitPair : Acceptable [(.hashSeed, 7), (.maxNodes, 20000)] := ⟨by decide, by decide⟩
  have negative : WritesSettings [(.warnNodes, -1)] "\x7b\"warn_nodes\":-1\x7d" :=
    writesSettings_compact (by decide +kernel)
  have unfit : ¬ Acceptable [(.warnNodes, -1)] := fun fits => absurd fits.inRange (by decide)
  have twice : Json.Value.ofText? "\x7b\"hash_seed\":7,\"note\":[],\"hash_seed\":7\x7d" =
      some (.object [(some "hash_seed", .natural 7), (some "note", .list []),
        (some "hash_seed", .natural 7)]) := rfl
  refine ⟨(outcomes _ _ spaced).2.1 fits (by decide), ?_, (outcomes _ _ pair).1 fitPair (by decide),
    (outcomes _ _ negative).2.2 unfit, ?_, (rendered _ fits_default).2 (by decide)⟩
  · exact mt (alone 9999 _ (by decide) spaced).1 (by decide)
  · exact refused _ _ twice .hashSeed (Or.inl ⟨_, _, .cons_cons _ (.cons _ (.refl _))⟩)

end Config

end Multipath
