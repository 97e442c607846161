import Mathlib.Data.List.Nodup
import Mathlib.Tactic.SplitIfs
import MountCensus.Settings.DotList

/-!
No setting is kept twice: the settings given one by one make a table whose keys are all different
(`nodup_keys_ofDotList`). Putting an entry into a table adds its key only if it is new
(`keys_eq_withKey`), so every value on the way has different keys
(`HasDistinctKeys`), those that are read from a text included (`hasDistinctKeys_of_ofText`).
-/

set_option autoImplicit false

namespace MountCensus.Settings

def keys (entries : List (String × Value)) : List String :=
  entries.map (·.1)

/-- The entries of a table, if the value is one, have different keys. Nothing is said of what they
hold. -/
def HasDistinctKeys : Value → Prop
  | .table entries => (keys entries).Nodup
  | _ => True

/-! ### Entries that are put in -/

/-- Some keys with another one behind them, unless they have it. -/
def withKey (key : String) (names : List String) : List String :=
  if key ∈ names then names else names ++ [key]

theorem nodup_withKey {names : List String} (h : names.Nodup) (key : String) :
    (withKey key names).Nodup := by
  unfold withKey
  split_ifs with hkey
  · exact h
  · rw [← List.concat_eq_append]
    exact h.concat hkey

theorem withKey_cons_self (key : String) (names : List String) :
    withKey key (key :: names) = key :: names :=
  if_pos List.mem_cons_self

theorem withKey_cons_of_ne {key other : String} (h : other ≠ key) (names : List String) :
    withKey key (other :: names) = other :: withKey key names := by
  unfold withKey
  split_ifs <;> simp_all

/-- Going down the entries to the first with the key, or to their end, adds the key only if it is
new. -/
theorem keys_eq_withKey (into : List (String × Value) → List (String × Value)) {key : String}
    (hnil : keys (into []) = [key])
    (hself : ∀ old rest, keys (into ((key, old) :: rest)) = key :: keys rest)
    (hother : ∀ other old rest, other ≠ key →
      keys (into ((other, old) :: rest)) = other :: keys (into rest))
    (entries : List (String × Value)) : keys (into entries) = withKey key (keys entries) := by
  induction entries with
  | nil => exact hnil
  | cons entry rest ih =>
    obtain ⟨other, old⟩ := entry
    by_cases h : other = key
    · subst h
      rw [hself]
      exact (withKey_cons_self other (keys rest)).symm
    · rw [hother other old rest h, ih]
      exact (withKey_cons_of_ne h (keys rest)).symm

theorem keys_putEntry (entries : List (String × Value)) (key : String) (value : Value) :
    keys (putEntry entries key value) = withKey key (keys entries) := by
  refine keys_eq_withKey (putEntry · key value) rfl ?_ ?_ entries
  · intro old rest
    simp [putEntry, keys]
  · intro other old rest h
    simp [putEntry, keys, h]

theorem keys_mergeEntry (key : String) (value : Value) (entries : List (String × Value)) :
    keys (mergeEntry key value entries) = withKey key (keys entries) := by
  refine keys_eq_withKey (mergeEntry key value) ?_ ?_ ?_ entries
  · simp [mergeEntry, keys]
  · intro old rest
    simp [mergeEntry, keys]
  · intro other old rest h
    simp [mergeEntry, keys, h]

theorem nodup_mergeEntries (later : List (String × Value)) :
    ∀ entries : List (String × Value), (keys entries).Nodup →
      (keys (mergeEntries entries later)).Nodup := by
  induction later with
  | nil =>
    intro entries h
    rwa [mergeEntries]
  | cons entry rest ih =>
    obtain ⟨key, value⟩ := entry
    intro entries h
    rw [mergeEntries]
    refine ih _ ?_
    rw [keys_mergeEntry]
    exact nodup_withKey h key

theorem HasDistinctKeys.overlay {place value : Value} (hplace : HasDistinctKeys place)
    (hvalue : HasDistinctKeys value) : HasDistinctKeys (overlay place value) := by
  unfold Settings.overlay
  split
  · exact nodup_mergeEntries _ _ hplace
  · exact hvalue

theorem HasDistinctKeys.put {place value : Value} (hplace : HasDistinctKeys place)
    (hvalue : HasDistinctKeys value) (way : List String) :
    HasDistinctKeys (put place value way) := by
  cases way with
  | nil => exact hplace.overlay hvalue
  | cons component way =>
    cases place with
    | table entries =>
      rw [Settings.put, HasDistinctKeys, keys_putEntry]
      exact nodup_withKey hplace component
    | list items =>
      rw [Settings.put]
      split <;> trivial
    | _ => exact List.nodup_singleton component

/-! ### Values that are read -/

/-- A word stands for no table. -/
theorem hasDistinctKeys_plainValue (word : List Char) : HasDistinctKeys (plainValue word) := by
  unfold plainValue
  dsimp only
  -- the five special words, then numbers and texts
  iterate 5
    split
    · trivial
  split <;> trivial

theorem hasDistinctKeys_of_scalar {inFlow : Bool} {text after : List Char} {value : Value}
    (h : scalar inFlow text = some (value, after)) : HasDistinctKeys value := by
  unfold scalar at h
  split at h
  · obtain ⟨_, -, heq⟩ := Option.map_eq_some_iff.mp h
    rw [← (Prod.mk.inj heq).1]
    trivial
  · obtain ⟨_, -, heq⟩ := Option.map_eq_some_iff.mp h
    rw [← (Prod.mk.inj heq).1]
    trivial
  · split_ifs at h
    rw [← (Prod.mk.inj (Option.some.inj h)).1]
    exact hasDistinctKeys_plainValue _

/-- What has been found inside of braces so far has different keys, so the table that is made of it
in the end has. -/
theorem hasDistinctKeys_of_flowEntries (fuel : Nat) :
    ∀ (found : List (String × Value)) (text after : List Char) (value : Value),
      (keys found).Nodup → flowEntries fuel found text = some (value, after) →
        HasDistinctKeys value := by
  induction fuel with
  | zero =>
    intro found text after value _ h
    simp [flowEntries] at h
  | succ fuel ih =>
    intro found text after value hfound h
    unfold flowEntries at h
    split at h
    · cases h
      exact hfound
    · obtain ⟨⟨key, behindKey⟩, -, h⟩ := Option.bind_eq_some_iff.mp h
      have hmore (entry : Value) : (keys (putEntry found (keyText key) entry)).Nodup := by
        rw [keys_putEntry]
        exact nodup_withKey hfound (keyText key)
      dsimp only at h
      -- with a value behind the key or without one, the table goes on in the same way
      split at h
      all_goals
        obtain ⟨⟨entry, behind⟩, -, h⟩ := Option.bind_eq_some_iff.mp h
        dsimp only at h
        split at h
        · exact ih _ _ _ _ (hmore entry) h
        · cases h
          exact hmore entry
        · cases h

theorem exists_list_of_flowItems (fuel : Nat) :
    ∀ (found : List Value) (text after : List Char) (value : Value),
      flowItems fuel found text = some (value, after) → ∃ items, value = .list items := by
  induction fuel with
  | zero =>
    intro found text after value h
    simp [flowItems] at h
  | succ fuel ih =>
    intro found text after value h
    unfold flowItems at h
    split at h
    · cases h
      exact ⟨_, rfl⟩
    · obtain ⟨⟨first, behindFirst⟩, -, h⟩ := Option.bind_eq_some_iff.mp h
      dsimp only at h
      split at h
      on_goal 1 => obtain ⟨entry, -, h⟩ := Option.bind_eq_some_iff.mp h
      all_goals
        obtain ⟨⟨item, behind⟩, -, h⟩ := Option.bind_eq_some_iff.mp h
        dsimp only at h
        split at h
        · exact ih _ _ _ _ h
        · cases h
          exact ⟨_, rfl⟩
        · cases h

theorem hasDistinctKeys_of_flowValue {fuel : Nat} {text after : List Char} {value : Value}
    (h : flowValue fuel text = some (value, after)) : HasDistinctKeys value := by
  cases fuel with
  | zero => simp [flowValue] at h
  | succ fuel =>
    unfold flowValue at h
    split at h
    · obtain ⟨items, rfl⟩ := exists_list_of_flowItems fuel _ _ _ _ h
      trivial
    · exact hasDistinctKeys_of_flowEntries fuel [] _ _ _ List.nodup_nil h
    · exact hasDistinctKeys_of_scalar h

theorem ite_bind {α β : Type} (c : Prop) [Decidable c] (x y : Option α) (f : α → Option β) :
    (if c then x >>= f else y >>= f) = (if c then x else y) >>= f :=
  (apply_ite (· >>= f) c x y).symm

theorem hasDistinctKeys_of_whole {fuel : Nat} {keyed : Bool} {text : List Char} {value : Value}
    (h : node.whole fuel keyed text = some value) : HasDistinctKeys value := by
  unfold node.whole at h
  dsimp only at h
  rw [ite_bind] at h
  obtain ⟨⟨first, behind⟩, hfirst, h⟩ := Option.bind_eq_some_iff.mp h
  have hdistinct : HasDistinctKeys first := by
    split_ifs at hfirst
    · exact hasDistinctKeys_of_flowValue hfirst
    · exact hasDistinctKeys_of_scalar hfirst
  dsimp only at h
  split at h
  · cases h
    exact hdistinct
  · split_ifs at h
    obtain ⟨entry, -, rfl⟩ := Option.map_eq_some_iff.mp h
    exact List.nodup_singleton _
  · cases h

theorem hasDistinctKeys_of_node {fuel : Nat} {keyed : Bool} {text : List Char} {value : Value}
    (h : node fuel keyed text = some value) : HasDistinctKeys value := by
  cases fuel with
  | zero => simp [node] at h
  | succ fuel =>
    unfold node at h
    dsimp only at h
    split at h
    · cases h
      trivial
    · split_ifs at h
      · obtain ⟨item, -, rfl⟩ := Option.map_eq_some_iff.mp h
        trivial
      · exact hasDistinctKeys_of_whole h
    · exact hasDistinctKeys_of_whole h

theorem hasDistinctKeys_of_ofText {text : String} {value : Value} (h : ofText text = .ok value) :
    HasDistinctKeys value := by
  unfold ofText at h
  split at h
  · rename_i hnode
    cases h
    exact hasDistinctKeys_of_node hnode
  · cases h

/-! ### Settings one by one -/

theorem HasDistinctKeys.addSetting {table next : Value} {setting : String}
    (htable : HasDistinctKeys table) (h : addSetting table setting = .ok next) :
    HasDistinctKeys next := by
  rcases hparts : splitSetting setting with ⟨key, _ | text⟩
  · simp only [Settings.addSetting, hparts] at h
    cases h
    have hnull : HasDistinctKeys .null := trivial
    exact htable.put hnull _
  · simp only [Settings.addSetting, hparts] at h
    cases hvalue : ofText text with
    | error failure =>
      rw [hvalue] at h
      cases h
    | ok value =>
      rw [hvalue] at h
      cases h
      exact htable.put (hasDistinctKeys_of_ofText hvalue) _

theorem hasDistinctKeys_foldlM_addSetting (settings : List String) :
    ∀ table final : Value, HasDistinctKeys table →
      settings.foldlM addSetting table = .ok final → HasDistinctKeys final := by
  induction settings with
  | nil =>
    intro table final htable h
    cases h
    exact htable
  | cons setting rest ih =>
    intro table final htable h
    rw [List.foldlM_cons] at h
    cases hnext : addSetting table setting with
    | error failure =>
      rw [hnext] at h
      cases h
    | ok next =>
      rw [hnext] at h
      exact ih next final (htable.addSetting hnext) h

/-- The keys of the settings are all different. -/
theorem nodup_keys_ofDotList {settings : List String} {options : List (String × Value)}
    (h : ofDotList settings = .ok options) : (options.map (·.1)).Nodup := by
  unfold ofDotList at h
  cases hfinal : settings.foldlM addSetting (.table []) with
  | error failure =>
    rw [hfinal] at h
    cases h
  | ok final =>
    have hdistinct := hasDistinctKeys_foldlM_addSetting settings (.table []) _ List.nodup_nil hfinal
    rw [hfinal] at h
    cases final with
    | table entries =>
      cases h
      exact hdistinct
    | _ =>
      cases h
      exact List.nodup_nil

end MountCensus.Settings
