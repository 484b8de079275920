import Mathlib.Data.List.Forall2

/-!
# Steps that may fail

Reading and checking are done in steps, and the first step that fails decides the outcome.

Results:
1. `bind_eq_ok_iff`, `mapError_eq_ok_iff`: steps succeed together exactly when each of them does.
   `bind_eq_error_iff`, `mapError_eq_error_iff`: otherwise the first of them that fails is named.
2. `mapM_map_eq_ok`: a list is read back when each of its items is.
3. `mapM_eq_ok_iff_forall₂`, `forall_mem_of_mapM_eq_ok`: lists are read item by item, so what holds
   of everything that is read holds of a list of it.
4. `exists_foldlM_range`: a counting loop runs to its end when an invariant carries every step.
5. `foldlM_eq_error_iff_firstBad`: a loop over a list fails for the first item that is bad after the
   ones before it.
6. `Mirrors.bind`, `Mirrors.foldlM`: two computations that end alike step by step end alike as a
   whole.
-/

namespace Multipath

variable {α β γ δ ε ε' ε'' : Type}

theorem ok_bind (value : α) (next : α → Except ε β) : Except.ok value >>= next = next value := rfl

theorem bind_eq_ok_iff {first : Except ε α} {next : α → Except ε β} {result : β} :
    first >>= next = .ok result ↔ ∃ value, first = .ok value ∧ next value = .ok result := by
  cases first with
  | error fault => exact iff_of_false nofun nofun
  | ok value =>
    constructor
    · intro succeeded
      exact ⟨value, rfl, succeeded⟩
    · rintro ⟨_, ⟨⟩, succeeded⟩
      exact succeeded

theorem mapError_eq_ok_iff {checked : Except ε α} {name : ε → ε'} {result : α} :
    checked.mapError name = .ok result ↔ checked = .ok result := by
  cases checked with
  | error fault => exact iff_of_false nofun nofun
  | ok value =>
    show (Except.ok value : Except ε' α) = .ok result ↔ _
    rw [Except.ok.injEq, Except.ok.injEq]

theorem bind_eq_error_iff {first : Except ε α} {next : α → Except ε β} {fault : ε} :
    first >>= next = .error fault ↔
      first = .error fault ∨ ∃ value, first = .ok value ∧ next value = .error fault := by
  cases first with
  | error other =>
    constructor
    · rintro ⟨⟩
      exact Or.inl rfl
    · rintro (⟨⟨⟩⟩ | ⟨value, ⟨⟩, -⟩)
      rfl
  | ok value =>
    constructor
    · intro failed
      exact Or.inr ⟨value, rfl, failed⟩
    · rintro (⟨⟨⟩⟩ | ⟨_, ⟨⟩, failed⟩)
      exact failed

theorem mapError_eq_error_iff {checked : Except ε α} {name : ε → ε'} {fault : ε'} :
    checked.mapError name = .error fault ↔
      ∃ cause, checked = .error cause ∧ name cause = fault := by
  cases checked with
  | error cause =>
    show (Except.error (name cause) : Except ε' α) = .error fault ↔ _
    simp only [Except.error.injEq, exists_eq_left']
  | ok value => exact iff_of_false nofun nofun

theorem eq_ok_get {checked : Except ε α} (succeeds : checked.toOption.isSome = true) :
    checked = .ok (checked.toOption.get succeeds) := by
  cases checked with
  | error fault => cases succeeds
  | ok value => rfl

theorem mapM_map_eq_ok {write : α → β} {read : β → Except ε α} {items : List α}
    (inverse : ∀ item ∈ items, read (write item) = .ok item) :
    (items.map write).mapM read = .ok items := by
  induction items with
  | nil => rfl
  | cons item rest ih =>
    rw [List.forall_mem_cons] at inverse
    rw [List.map_cons, List.mapM_cons, inverse.1, ih inverse.2]
    rfl

theorem forall_mem_of_mapM_eq_ok {read : α → Except ε β} {holds : β → Prop}
    (each : ∀ item result, read item = .ok result → holds result) {items : List α}
    {results : List β} (done : items.mapM read = .ok results) :
    ∀ result ∈ results, holds result := by
  induction items generalizing results with
  | nil =>
    cases done
    simp
  | cons item rest ih =>
    rw [List.mapM_cons] at done
    obtain ⟨first, readFirst, further⟩ := bind_eq_ok_iff.1 done
    obtain ⟨others, readOthers, made⟩ := bind_eq_ok_iff.1 further
    cases made
    exact List.forall_mem_cons.2 ⟨each item first readFirst, ih readOthers⟩

/-- A list is read item by item, in its order. -/
theorem mapM_eq_ok_iff_forall₂ {read : α → Except ε β} {spells : α → β → Prop} {items : List α}
    (each : ∀ item ∈ items, ∀ result, read item = .ok result ↔ spells item result)
    {results : List β} : items.mapM read = .ok results ↔ List.Forall₂ spells items results := by
  induction items generalizing results with
  | nil =>
    rw [List.mapM_nil, List.forall₂_nil_left_iff]
    constructor
    · rintro ⟨⟩
      rfl
    · rintro rfl
      rfl
  | cons item rest ih =>
    rw [List.forall_mem_cons] at each
    rw [List.mapM_cons, List.forall₂_cons_left_iff]
    constructor
    · intro done
      obtain ⟨first, readFirst, further⟩ := bind_eq_ok_iff.1 done
      obtain ⟨others, readOthers, made⟩ := bind_eq_ok_iff.1 further
      cases made
      exact ⟨first, others, (each.1 first).1 readFirst, (ih each.2).1 readOthers, rfl⟩
    · rintro ⟨first, others, spellsFirst, spellOthers, rfl⟩
      rw [(each.1 first).2 spellsFirst, ok_bind, (ih each.2).2 spellOthers, ok_bind]
      rfl

/-- The invariant says how far the loop has come. It holds at the start, and wherever it holds the
next step succeeds and keeps it. -/
theorem exists_foldlM_range {m : Type → Type} [Monad m] [LawfulMonad m] (step : α → Nat → m α)
    (holds : Nat → α → Prop) {start : α} {count : Nat} (initial : holds 0 start)
    (next : ∀ i < count, ∀ state, holds i state →
      ∃ state', step state i = pure state' ∧ holds (i + 1) state') :
    ∃ last, (List.range count).foldlM step start = pure last ∧ holds count last := by
  induction count with
  | zero => exact ⟨start, rfl, initial⟩
  | succ count ih =>
    obtain ⟨state, looped, holdsState⟩ := ih fun i before => next i (Nat.lt_succ_of_lt before)
    obtain ⟨last, stepped, holdsLast⟩ := next count (Nat.lt_succ_self count) state holdsState
    refine ⟨last, ?_, holdsLast⟩
    rw [List.range_succ, List.foldlM_append, looped, pure_bind, List.foldlM_cons, stepped, pure_bind,
      List.foldlM_nil]

/-- `fault` is what is wrong with the first item of the list that is bad. Whether an item is bad may
depend on the ones before it, and those are sound. -/
def FirstBad (sound : List α → Prop) (bad : List α → α → ε → Prop) (items : List α) (fault : ε) :
    Prop :=
  ∃ earlier item later, items = earlier ++ item :: later ∧ sound earlier ∧ bad earlier item fault

theorem foldlM_eq_error_iff {step : β → α → Except ε β} {items : List α} {start : β} {fault : ε} :
    items.foldlM step start = .error fault ↔
      ∃ earlier item later state, items = earlier ++ item :: later ∧
        earlier.foldlM step start = .ok state ∧ step state item = .error fault := by
  constructor
  · intro failed
    induction items generalizing start with
    | nil => cases failed
    | cons item rest ih =>
      rw [List.foldlM_cons] at failed
      rcases bind_eq_error_iff.1 failed with here | ⟨state, passed, further⟩
      · exact ⟨[], item, rest, start, rfl, rfl, here⟩
      · obtain ⟨earlier, bad, later, last, rfl, looped, there⟩ := ih further
        refine ⟨item :: earlier, bad, later, last, rfl, ?_, there⟩
        rw [List.foldlM_cons, passed, ok_bind, looped]
  · rintro ⟨earlier, item, later, state, rfl, looped, here⟩
    rw [List.foldlM_append, looped, ok_bind, List.foldlM_cons, here]
    rfl

/-- `sound` says which lists the loop gets through, and `bad` why it stops after one of them. -/
theorem foldlM_eq_error_iff_firstBad {step : β → α → Except ε β} {start : β}
    {sound : List α → Prop} {bad : List α → α → ε → Prop}
    (runs : ∀ earlier, sound earlier ↔ ∃ state, earlier.foldlM step start = .ok state)
    (stops : ∀ earlier state, earlier.foldlM step start = .ok state →
      ∀ item fault, step state item = .error fault ↔ bad earlier item fault)
    {items : List α} {fault : ε} :
    items.foldlM step start = .error fault ↔ FirstBad sound bad items fault := by
  rw [foldlM_eq_error_iff]
  constructor
  · rintro ⟨earlier, item, later, state, split, looped, failed⟩
    exact ⟨earlier, item, later, split, (runs earlier).2 ⟨state, looped⟩,
      (stops earlier state looped item fault).1 failed⟩
  · rintro ⟨earlier, item, later, split, passed, isBad⟩
    obtain ⟨state, looped⟩ := (runs earlier).1 passed
    exact ⟨earlier, item, later, state, split, looped,
      (stops earlier state looped item fault).2 isBad⟩

/-- The second computation ends as the first one does: with a result that is related to the other
one's, or with the same fault under another name. -/
inductive Mirrors (name : ε → ε') (related : α → β → Prop) : Except ε α → Except ε' β → Prop
  | ok {value : α} {image : β} : related value image → Mirrors name related (.ok value) (.ok image)
  | error (fault : ε) : Mirrors name related (.error fault) (.error (name fault))

namespace Mirrors

variable {name : ε → ε'} {related : α → β → Prop} {first : Except ε α} {other : Except ε' β}

theorem exists_of_ok {image : β} (mirrors : Mirrors name related first (.ok image)) :
    ∃ value, first = .ok value ∧ related value image := by
  cases mirrors with
  | ok same => exact ⟨_, rfl, same⟩

theorem exists_image {value : α} (mirrors : Mirrors name related (.ok value) other) :
    ∃ image, other = .ok image ∧ related value image := by
  cases mirrors with
  | ok same => exact ⟨_, rfl, same⟩

theorem eq_error_iff {fault : ε'} (mirrors : Mirrors name related first other) :
    other = .error fault ↔ ∃ cause, first = .error cause ∧ name cause = fault := by
  cases mirrors with
  | ok same => exact iff_of_false nofun nofun
  | error cause => simp only [Except.error.injEq, exists_eq_left']

theorem bind {further : γ → δ → Prop} {next : α → Except ε γ} {nextOther : β → Except ε' δ}
    (mirrors : Mirrors name related first other)
    (step : ∀ value image, related value image →
      Mirrors name further (next value) (nextOther image)) :
    Mirrors name further (first >>= next) (other >>= nextOther) := by
  cases mirrors with
  | ok same => exact step _ _ same
  | error fault => exact .error fault

/-- The related results are those of the two computations. -/
theorem with_ok (mirrors : Mirrors name related first other) :
    Mirrors name (fun value image => related value image ∧ first = .ok value ∧ other = .ok image)
      first other := by
  cases mirrors with
  | ok same => exact .ok ⟨same, rfl, rfl⟩
  | error fault => exact .error fault

theorem mapError {rename : ε → ε''} {name : ε'' → ε'}
    (mirrors : Mirrors (name ∘ rename) related first other) :
    Mirrors name related (first.mapError rename) other := by
  cases mirrors with
  | ok same => exact .ok same
  | error fault => exact .error (rename fault)

theorem foldlM {item : Type} {step : α → item → Except ε α} {stepOther : β → item → Except ε' β}
    (kept : ∀ value image, related value image → ∀ next,
      Mirrors name related (step value next) (stepOther image next))
    {items : List item} {start : α} {startOther : β} (initial : related start startOther) :
    Mirrors name related (items.foldlM step start) (items.foldlM stepOther startOther) := by
  induction items generalizing start startOther with
  | nil => exact .ok initial
  | cons next rest ih =>
    rw [List.foldlM_cons, List.foldlM_cons]
    exact (kept start startOther initial next).bind fun _ _ => ih

end Mirrors

end Multipath
