import UtilityCss.Config.Basic
import UtilityCss.Proofs.Failure.Outcome
import UtilityCss.Proofs.Json.Keys

/-!
# Configuration — what is not reported

A configuration is read from a value of any shape.  What is checked is the names of its settings;
what else can go wrong is not checked for, and a misuse.

**What slips through** (`misused_ofJson_iff`).  Reading ends with a misuse if and only if the value
does not yield names; or yields names of settings but is no table; or the settings of the cache are
no table, or one with a key that is no name; or the blocklist does not yield keys — the first of
these decides, and an unknown setting before it is reported.

What an operation needs of a value is said in terms of what the value yields when it is gone through
(`Json.Yields`, `Json.IsTable`).
-/

namespace UtilityCss.Config

open Json

variable {j : Json} {items keys : List Json}

/-! ### Keys and tables -/

/-- A value yields keys if its distinct keys can be listed. -/
theorem yields_isKey_iff : Yields IsKey j ↔ ∃ keys, distinctKeys j = .ok keys := by
  rw [distinctKeys, Yields]
  cases helements : j.elements? with
  | none => simp
  | some items =>
      cases hkeys : Json.distinctKeys? items <;>
        simp [← distinctKeys?_isSome_iff, hkeys]

/-- The distinct keys of a value are those among what it yields. -/
theorem distinctKeys_eq_ok_iff :
    distinctKeys j = .ok keys ↔
      ∃ items, j.elements? = some items ∧ Json.distinctKeys? items = some keys := by
  rw [distinctKeys]
  cases j.elements? with
  | none => simp
  | some items => cases hkeys : Json.distinctKeys? items <;> simp [hkeys]

/-- To list the keys of a value that does not yield keys is a misuse. -/
theorem misused_distinctKeys_iff : Misused (distinctKeys j) ↔ ¬ Yields IsKey j := by
  rw [yields_isKey_iff, distinctKeys]
  split <;> simp

theorem tableOf_eq_ok_iff {table : Table} : tableOf j = .ok table ↔ Table.ofJson j = .ok table := by
  rw [tableOf]
  cases Table.ofJson j <;> simp

/-- To take a value that is no table for one is a misuse. -/
theorem misused_tableOf_iff : Misused (tableOf j) ↔ ¬ IsTable j := by
  rw [isTable_iff, tableOf]
  cases Table.ofJson j <;> simp

/-! ### Names -/

/-- What holds of names only holds of all that a value yields if it holds of its keys. -/
theorem yields_iff {kind : Json → Prop} (hkind : ∀ j, kind j → IsName j) :
    Yields kind j ↔ ∃ keys, distinctKeys j = .ok keys ∧ ∀ key ∈ keys, kind key := by
  simp only [distinctKeys_eq_ok_iff]
  constructor
  · rintro ⟨items, hitems, hall⟩
    have hkeys : ∀ item ∈ items, IsKey item := by
      intro item hitem
      obtain ⟨t, rfl⟩ := hkind item (hall item hitem)
      rfl
    obtain ⟨keys, hkeys⟩ := distinctKeys?_isSome_iff.2 hkeys
    obtain ⟨hsub, -⟩ := distinctKeys?_cases hkeys
    exact ⟨keys, ⟨items, hitems, hkeys⟩, fun key hkey => hall key (hsub key hkey)⟩
  · rintro ⟨keys, ⟨items, hitems, hkeys⟩, hall⟩
    obtain ⟨-, hrep⟩ := distinctKeys?_cases hkeys
    refine ⟨items, hitems, fun item hitem => ?_⟩
    obtain ⟨key, hkey, hsame⟩ := hrep item hitem
    obtain ⟨t, rfl⟩ := hkind key (hall key hkey)
    rw [sameKey_string.1 hsame]
    exact hall _ hkey

/-- A value does not yield names only if it does not yield keys, or if one of its keys is no
name. -/
theorem not_yields_isName_iff :
    ¬ Yields IsName j ↔
      ¬ Yields IsKey j ∨ ∃ keys, distinctKeys j = .ok keys ∧ ∃ key ∈ keys, ¬ IsName key := by
  rw [yields_iff fun _ h => h, yields_isKey_iff]
  cases hkeys : distinctKeys j with
  | error failure => simp
  | ok keys => simp

/-- A value is the same key as a known name if it is that name. -/
theorem mem_known_iff {known : List Json} (hknown : ∀ name ∈ known, IsName name) :
    known.any (Json.sameKey j) ↔ j ∈ known := by
  rw [List.any_eq_true]
  constructor
  · rintro ⟨name, hname, hsame⟩
    obtain ⟨t, rfl⟩ := hknown name hname
    rwa [sameKey_string.1 hsame]
  · intro hj
    obtain ⟨t, rfl⟩ := hknown j hj
    exact ⟨_, hj, sameKey_string.2 rfl⟩

/-- Keys cannot be sorted as texts if one of them is no name. -/
theorem sortedNames?_eq_none_iff : sortedNames? keys = none ↔ ∃ key ∈ keys, ¬ IsName key := by
  rw [sortedNames?]
  split
  next h =>
      rw [beq_iff_eq, List.filterMap_length_eq_length] at h
      refine iff_of_false (by simp) ?_
      rintro ⟨key, hkey, hnot⟩
      have hname := h key hkey
      cases key with
      | string t => exact hnot ⟨t, rfl⟩
      | null | bool | number | array | object => cases hname
  next h =>
      rw [beq_iff_eq, List.filterMap_length_eq_length] at h
      have hall : ¬ ∀ key ∈ keys, IsName key := by
        intro hnames
        refine h fun key hkey => ?_
        obtain ⟨t, rfl⟩ := hnames key hkey
        rfl
      simpa using hall

section

variable {label : String} {known : List Json} (hknown : ∀ name ∈ known, IsName name)
include hknown

/-- Keys are all known, or one is not: then they are reported if they are names. -/
theorem checkKeys_cases (label : String) (keys : List Json) :
    ((∀ key ∈ keys, key ∈ known) ∧ checkKeys label known keys = .ok ()) ∨
    ((∃ key ∈ keys, key ∉ known) ∧ (∀ key ∈ keys, IsName key) ∧
      ∃ message, checkKeys label known keys = .error (.badConfig message)) ∨
    ((∃ key ∈ keys, ¬ IsName key) ∧ Misused (checkKeys label known keys)) := by
  have hfilter (key : Json) :
      key ∈ keys.filter (fun k => !known.any (Json.sameKey k)) ↔ key ∈ keys ∧ key ∉ known := by
    rw [List.mem_filter, Bool.not_eq_true', ← Bool.not_eq_true, mem_known_iff hknown]
  have hunknown : ¬ ((keys.filter fun k => !known.any (Json.sameKey k)) = []) ↔
      ∃ key ∈ keys, key ∉ known := by
    rw [List.eq_nil_iff_forall_not_mem]
    simp only [hfilter]
    simp
  have hnames : (∃ key ∈ keys.filter (fun k => !known.any (Json.sameKey k)), ¬ IsName key) ↔
      ∃ key ∈ keys, ¬ IsName key := by
    constructor
    · rintro ⟨key, hkey, hnot⟩
      exact ⟨key, ((hfilter key).1 hkey).1, hnot⟩
    · rintro ⟨key, hkey, hnot⟩
      exact ⟨key, (hfilter key).2 ⟨hkey, fun h => hnot (hknown key h)⟩, hnot⟩
  rw [checkKeys]
  split
  next hnone =>
      have hall := mt hunknown.2 (not_not_intro hnone)
      exact .inl ⟨by simpa using hall, rfl⟩
  next hsome =>
      refine .inr ?_
      split
      next shown hshown =>
          have hall : ¬ ∃ key ∈ keys, ¬ IsName key := by
            rw [← hnames, ← sortedNames?_eq_none_iff, hshown]
            simp
          exact .inl ⟨hunknown.1 hsome, by simpa using hall, _, rfl⟩
      next hshown => exact .inr ⟨hnames.1 (sortedNames?_eq_none_iff.1 hshown), misused_error⟩

/-- A check of keys succeeds if all of them are known. -/
theorem checkKeys_ok_iff : checkKeys label known keys = .ok () ↔ ∀ key ∈ keys, key ∈ known := by
  obtain ⟨hall, hok⟩ | ⟨⟨key, hkey, hnot⟩, -, message, herror⟩ |
    ⟨⟨key, hkey, hnot⟩, kind, herror⟩ := checkKeys_cases hknown label keys
  · exact iff_of_true hok hall
  · rw [herror]
    exact iff_of_false nofun fun hall => hnot (hall key hkey)
  · rw [herror]
    exact iff_of_false nofun fun hall => hnot (hknown key (hall key hkey))

/-- A check of keys is a misuse if one of them is no name: what is unknown would be sorted for the
report. -/
theorem misused_checkKeys_iff :
    Misused (checkKeys label known keys) ↔ ∃ key ∈ keys, ¬ IsName key := by
  obtain ⟨hall, hok⟩ | ⟨-, hnames, message, herror⟩ | ⟨hnot, hmisused⟩ :=
    checkKeys_cases hknown label keys
  · rw [hok]
    refine iff_of_false not_misused_ok ?_
    rintro ⟨key, hkey, hnot⟩
    exact hnot (hknown key (hall key hkey))
  · rw [herror]
    refine iff_of_false nofun ?_
    rintro ⟨key, hkey, hnot⟩
    exact hnot (hnames key hkey)
  · exact iff_of_true hmisused hnot

end

theorem isName_of_mem_names : ∀ name ∈ names, IsName name := by
  simp [names, named, Json.str, IsName]

theorem isName_of_mem_cacheNames : ∀ name ∈ cacheNames, IsName name := by
  simp [cacheNames, named, Json.str, IsName]

/-! ### What is not reported -/

/-- What goes wrong with the settings of a cache and is not reported: they are no table, or a key of
the table is no name. -/
inductive CacheSlips (j : Json) : Prop where
  | table (htruthy : j.isTruthy) (h : ¬ IsTable j)
  | key {table : Table} {key : Json} (htruthy : j.isTruthy) (htable : Table.ofJson j = .ok table)
      (hkey : key ∈ table.keys) (h : ¬ IsName key)

/-- What goes wrong with a configuration and is not reported. -/
inductive Slips (j : Json) : Prop where
  /-- What it yields are not all names. -/
  | names (h : ¬ Yields IsName j)
  /-- It yields names of settings, but has no values for them. -/
  | table (hnames : Yields (· ∈ Config.names) j) (h : ¬ IsTable j)
  | cache {table : Table} (hnames : Yields (· ∈ Config.names) j)
      (htable : Table.ofJson j = .ok table)
      (h : CacheSlips ((table.get? (named "cache")).getD .null))
  /-- The blocklist cannot be gone through, or something that it yields is no key. -/
  | blocklist {table : Table} {options : CacheOptions} {listed : Json}
      (hnames : Yields (· ∈ Config.names) j) (htable : Table.ofJson j = .ok table)
      (hcache : readCache ((table.get? (named "cache")).getD .null) = .ok options)
      (hlisted : table.get? (named "blocklist") = some listed) (h : ¬ Yields IsKey listed)

/-- **The settings of a cache** are a misuse if they are no table, or if a key of the table is no
name. Settings that count as missing are not looked at. -/
theorem misused_readCache_iff : Misused (readCache j) ↔ CacheSlips j := by
  rw [readCache]
  by_cases htruthy : j.isTruthy
  · simp only [htruthy, if_true, misused_bind, misused_tableOf_iff, tableOf_eq_ok_iff,
      misused_checkKeys_iff isName_of_mem_cacheNames]
    constructor
    · rintro (h | ⟨table, htable, ⟨key, hkey, h⟩ | ⟨-, -, h⟩⟩)
      · exact .table htruthy h
      · exact .key htruthy htable hkey h
      · exact absurd h not_misused_ok
    · rintro (⟨-, h⟩ | ⟨-, htable, hkey, h⟩)
      · exact .inl h
      · exact .inr ⟨_, htable, .inl ⟨_, hkey, h⟩⟩
  · simp only [htruthy]
    refine iff_of_false not_misused_ok ?_
    rintro (⟨h, -⟩ | ⟨h, -, -, -⟩) <;> exact absurd h htruthy

/-- **What slips through.** -/
theorem misused_ofJson_iff : Misused (ofJson j) ↔ Slips j := by
  have hknown : Yields (· ∈ names) j ↔
      ∃ keys, distinctKeys j = .ok keys ∧ ∀ key ∈ keys, key ∈ names :=
    yields_iff isName_of_mem_names
  rw [ofJson]
  simp only [misused_bind, misused_distinctKeys_iff, misused_tableOf_iff, tableOf_eq_ok_iff,
    misused_checkKeys_iff isName_of_mem_names, checkKeys_ok_iff isName_of_mem_names,
    misused_readCache_iff]
  constructor
  · rintro (h | ⟨keys, hkeys, h | ⟨-, hall, h⟩⟩)
    · exact .names (not_yields_isName_iff.2 (.inl h))
    · exact .names (not_yields_isName_iff.2 (.inr ⟨keys, hkeys, h⟩))
    have hnames := hknown.2 ⟨keys, hkeys, hall⟩
    obtain h | ⟨table, htable, h | ⟨options, hcache, h⟩⟩ := h
    · exact .table hnames h
    · exact .cache hnames htable h
    split at h
    next listed hlisted =>
        rw [misused_bind, misused_distinctKeys_iff] at h
        obtain h | ⟨_, -, h⟩ := h
        · exact .blocklist hnames htable hcache hlisted h
        · exact absurd h not_misused_ok
    next => exact absurd h not_misused_ok
  · rintro (h | ⟨hnames, h⟩ | ⟨hnames, htable, h⟩ | ⟨hnames, htable, hcache, hlisted, h⟩)
    · obtain h | ⟨keys, hkeys, h⟩ := not_yields_isName_iff.1 h
      · exact .inl h
      · exact .inr ⟨keys, hkeys, .inl h⟩
    · obtain ⟨keys, hkeys, hall⟩ := hknown.1 hnames
      exact .inr ⟨keys, hkeys, .inr ⟨(), hall, .inl h⟩⟩
    · obtain ⟨keys, hkeys, hall⟩ := hknown.1 hnames
      exact .inr ⟨keys, hkeys, .inr ⟨(), hall, .inr ⟨_, htable, .inl h⟩⟩⟩
    · obtain ⟨keys, hkeys, hall⟩ := hknown.1 hnames
      refine .inr ⟨keys, hkeys, .inr ⟨(), hall, .inr ⟨_, htable, .inr ⟨_, hcache, ?_⟩⟩⟩⟩
      rw [hlisted]
      exact misused_bind.2 (.inl (misused_distinctKeys_iff.2 h))

/-! ### What is reported -/

/-- A failure of a configuration. -/
def IsReport (failure : Failure) : Prop :=
  ∃ message, failure = .badConfig message

theorem reports_distinctKeys (j : Json) : Reports IsReport (distinctKeys j) := by
  rw [distinctKeys]
  split
  · exact reports_ok
  · exact reports_misuse

theorem reports_tableOf {reported : Failure → Prop} (j : Json) : Reports reported (tableOf j) := by
  rw [tableOf]
  split
  · exact reports_ok
  · exact reports_misuse

/-- Unknown settings are reported, or it is a misuse to look for them. -/
theorem reports_checkKeys (label : String) (known keys : List Json) :
    Reports IsReport (checkKeys label known keys) := by
  rw [checkKeys]
  split
  · exact reports_ok
  · split
    · exact reports_error ⟨_, rfl⟩
    · exact reports_misuse

/-- Unknown settings of the cache are reported, or it is a misuse to look for them. -/
theorem reports_readCache (j : Json) : Reports IsReport (readCache j) := by
  have hread (table : Table) :
      Reports IsReport (checkKeys "Unknown cache keys: " cacheNames table.keys) :=
    reports_checkKeys _ _ _
  rw [readCache]
  split
  · exact (reports_tableOf j).bind fun table => (hread table).bind fun _ => reports_ok
  · exact reports_ok.bind fun table => (hread table).bind fun _ => reports_ok

/-- A configuration that cannot be read is reported, or it is a misuse. -/
theorem reports_ofJson (j : Json) : Reports IsReport (ofJson j) := by
  refine (reports_distinctKeys j).bind fun keys => ?_
  refine (reports_checkKeys _ _ keys).bind fun _ => ?_
  refine (reports_tableOf j).bind fun table => ?_
  refine (reports_readCache _).bind fun options => ?_
  split
  · exact (reports_distinctKeys _).bind fun _ => reports_ok
  · exact reports_ok

end UtilityCss.Config
