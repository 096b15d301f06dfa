import UtilityCss.Proofs.Cache.Views
import UtilityCss.Proofs.Compiler.Accounting

/-!
# Compilers — what a compilation leaves in the cache

Nothing that a compilation stores or finds in the cache is evicted before its end, whatever else was
there before, if the cache holds as many entries as there are class strings.

**What has been used stands last** (`Retains`).  The entries that a compilation has used, each class
string's once, are the last ones of the store, in the order of the class strings.  When an entry has
to go for a new one, the used ones are fewer than the capacity, so it is one of the others
(`Retains.tail`).  An entry that was there before may be stale, and is dropped when its class string
is read.

One class string is `Retains.compileString`, and class strings one after the other are
`Retains.entered`.  In the end the cache finds the style sheet of every class string that has come
to one, and none of the others (`Retains.ready`).
-/

namespace UtilityCss

namespace Cache

/-! ### Looking up -/

namespace Store

variable {s : Store} {key k : Text} {e : Entry}

theorem find?_without_of_ne (h : k ≠ key) : (s.without key).lookup k = s.find? k := by
  rw [without, find?]
  induction s.entries with
  | nil => rfl
  | cons entry rest ih =>
      obtain ⟨k', e'⟩ := entry
      by_cases hkey : k' = key
      · have hne : (k == k') = false := by simpa [hkey] using h
        rw [List.filter_cons_of_neg (by simp [hkey]), ih, List.lookup_cons, hne]
      · rw [List.filter_cons_of_pos (by simpa using hkey), List.lookup_cons, List.lookup_cons, ih]

/-- Reading a key does not change what is found for another one. -/
theorem find?_get_of_ne (h : k ≠ key) : (s.get key).2.find? k = s.find? k := by
  have hne : (k == key) = false := by simpa using h
  rcases get_cases s key with ⟨-, hg⟩ | ⟨-, -, hg⟩ | ⟨e, -, -, -, hg⟩ | ⟨e, -, -, -, hg⟩ <;> rw [hg]
  · rfl
  · rw [find?, List.lookup_append, find?_without_of_ne h, List.lookup_cons, hne]
    exact Option.or_none
  · exact find?_without_of_ne h

/-- The store after a key has been read with success: its entry has gone to the end. -/
theorem get_eq_some {value : Text} (h : (s.get key).1 = some value) :
    ∃ e, s.isLive e = true ∧ e.value = value ∧
      (s.get key).2 = { s with entries := s.without key ++ [(key, e)], hits := s.hits + 1 } := by
  rcases get_cases s key with ⟨-, hg⟩ | ⟨-, -, hg⟩ | ⟨e, -, -, hlive, hg⟩ | ⟨e, -, -, -, hg⟩ <;>
    rw [hg] at h ⊢
  · cases h
  · cases h
  · exact ⟨e, hlive, Option.some.inj h, rfl⟩
  · cases h

/-- The store after a key has been missed: it has no entry of the key. -/
theorem get_eq_none (henabled : s.enabled = true) (h : (s.get key).1 = none) :
    (s.get key).2 = { s with entries := s.without key, misses := s.misses + 1 } := by
  rcases get_cases s key with ⟨hoff, -⟩ | ⟨-, hf, hg⟩ | ⟨e, -, -, -, hg⟩ | ⟨e, -, -, -, hg⟩
  · rw [henabled] at hoff
    cases hoff
  · have hwithout : s.without key = s.entries :=
      List.filter_eq_self.2 fun ⟨k, e⟩ he => by simpa using ne_of_find?_eq_none hf he
    rw [hg, hwithout]
  · rw [hg] at h
    cases h
  · rw [hg]

end Store

/-! ### Caches whose entries never expire -/

/-- An enabled cache of a capacity whose entries never expire. -/
structure Endless (n : Int) (c : Cache) : Prop where
  capacity : capacityOf c.maxSize = .ok (.int n)
  lifetime : ∃ l, lifetimeOf c.lifetime = .ok l
  room : c.store.capacity = .int n
  endless : c.store.lifetime.isInfinite = true
  enabled : c.store.enabled = true

variable {n : Int} {c c' : Cache}

theorem Endless.of_sameSettings (h : Endless n c) (hsame : c.SameSettings c') : Endless n c' where
  capacity := hsame.maxSize ▸ h.capacity
  lifetime := hsame.lifetime ▸ h.lifetime
  room := hsame.storeCapacity.trans h.room
  endless := hsame.storeLifetime ▸ h.endless
  enabled := hsame.storeEnabled.trans h.enabled

theorem endless_create {maxSize lifetime enabled : Json} {now : Number}
    (hcapacity : capacityOf maxSize = .ok (.int n)) (henabled : enabled.isTruthy)
    (hlifetime : (valueOr (lifetimeOf lifetime)).isInfinite) :
    Endless n (create maxSize lifetime enabled now) where
  capacity := hcapacity
  lifetime := by
    cases hl : lifetimeOf lifetime with
    | error misuse =>
        rw [hl] at hlifetime
        cases hlifetime
    | ok l => exact ⟨l, hl⟩
  room := congrArg valueOr hcapacity
  endless := hlifetime
  enabled := henabled

theorem Endless.get_eq (h : Endless n c) (key : Text) :
    c.get key = (.ok (c.store.get key).1, { c with store := (c.store.get key).2 }) := by
  obtain ⟨l, hl⟩ := h.lifetime
  exact guarded_of_ok c _ hl _

end Cache

namespace Compiler

open Cache (Store Entry Endless)

/-! ### What is kept -/

namespace Line

/-- What the cache has of a class string when it has been compiled: a style sheet that is not empty,
or one that it had before. -/
def kept? (line : Line) : Option Text :=
  match line with
  | .hit _ css => some css
  | .miss .. => if line.piece.css.isEmpty then none else some line.piece.css

variable {line : Line} {css : Text}

theorem css_of_kept? (h : line.kept? = some css) : line.piece.css = css := by
  cases line with
  | hit raw css' => exact Option.some.inj h
  | miss raw items yields =>
      rw [kept?] at h
      split at h
      · cases h
      · exact Option.some.inj h

/-- What is not kept has been missed, and its style sheet is empty. -/
theorem of_kept?_eq_none (h : line.kept? = none) :
    (∃ items yields, line = .miss line.raw items yields) ∧ line.piece.css = [] := by
  cases line with
  | hit raw css => cases h
  | miss raw items yields =>
      rw [kept?] at h
      split at h
      next hempty => exact ⟨⟨items, yields, rfl⟩, List.isEmpty_iff.1 hempty⟩
      next => cases h

/-- The cache finds what is kept of the class string, and nothing if nothing is. -/
def Ready (s : Store) (line : Line) : Prop :=
  (∀ css, line.kept? = some css →
    ∃ e, s.find? line.raw = some e ∧ s.isLive e = true ∧ e.value = css) ∧
  (line.kept? = none → s.find? line.raw = none)

end Line

/-! ### The used entries are the last ones -/

variable {ledger earlier : List Line} {line : Line} {raw css : Text} {s : Store} {n : Int}
  {before used : List (Text × Entry)} {e : Entry} {c after : Compiler}

/-- The entries of what is kept of class strings that have been compiled, in order; they are
live. -/
structure Keeps (s : Store) (ledger : List Line) (used : List (Text × Entry)) : Prop where
  values : used.map (fun entry => (entry.1, entry.2.value)) =
    ledger.filterMap fun line => line.kept?.map (line.raw, ·)
  live : ∀ entry ∈ used, s.isLive entry.2 = true

/-- The entries of what is kept stand at the end of the store, and those before are of other
keys. -/
def Retains (ledger : List Line) (s : Store) : Prop :=
  ∃ before used, s.entries = before ++ used ∧ Keeps s ledger used ∧
    ∀ line ∈ ledger, line.raw ∉ before.map Prod.fst

theorem retains_nil (s : Store) : Retains [] s :=
  ⟨s.entries, [], (List.append_nil _).symm, ⟨rfl, List.forall_mem_nil _⟩, List.forall_mem_nil _⟩

theorem Keeps.line_of_mem (h : Keeps s ledger used) {entry : Text × Entry} (hentry : entry ∈ used) :
    ∃ line ∈ ledger, line.raw = entry.1 ∧ line.kept? = some entry.2.value := by
  have hmem : (entry.1, entry.2.value) ∈
      used.map (fun entry : Text × Entry => (entry.1, entry.2.value)) :=
    List.mem_map_of_mem hentry
  rw [h.values] at hmem
  obtain ⟨line, hline, hkept⟩ := List.mem_filterMap.1 hmem
  obtain ⟨css, hcss, hpair⟩ := Option.map_eq_some_iff.1 hkept
  obtain ⟨hraw, rfl⟩ := Prod.mk.inj hpair
  exact ⟨line, hline, hraw, hcss⟩

theorem Keeps.mem_of_kept? (h : Keeps s ledger used) (hline : line ∈ ledger)
    (hkept : line.kept? = some css) : ∃ e, (line.raw, e) ∈ used ∧ e.value = css := by
  have hmem : (line.raw, css) ∈ used.map (fun entry => (entry.1, entry.2.value)) := by
    rw [h.values]
    exact List.mem_filterMap.2 ⟨line, hline, by rw [hkept]; rfl⟩
  obtain ⟨entry, hentry, hpair⟩ := List.mem_map.1 hmem
  obtain ⟨hraw, hvalue⟩ := Prod.mk.inj hpair
  exact ⟨entry.2, hraw ▸ hentry, hvalue⟩

theorem Keeps.length_le (h : Keeps s ledger used) : used.length ≤ ledger.length := by
  have hlength := congrArg List.length h.values
  rw [List.length_map] at hlength
  rw [hlength]
  exact List.length_filterMap_le _ _

/-- The class strings are distinct, so the entries are of distinct keys. -/
theorem Keeps.nodup (h : Keeps s ledger used) (hnodup : (ledger.map Line.raw).Nodup) :
    (used.map Prod.fst).Nodup := by
  have hkeys : (used.map Prod.fst).Sublist (ledger.map Line.raw) := by
    have hfirst : used.map Prod.fst =
        (used.map fun entry => (entry.1, entry.2.value)).map Prod.fst := by
      rw [List.map_map]
      rfl
    rw [hfirst, h.values]
    clear h hnodup hfirst
    induction ledger with
    | nil => exact .refl _
    | cons line ledger ih =>
        cases hkept : line.kept? with
        | none =>
            rw [List.filterMap_cons_none (by rw [hkept]; rfl)]
            exact ih.cons _
        | some css =>
            rw [List.filterMap_cons_some (by rw [hkept]; rfl)]
            exact ih.cons_cons _
  exact hkeys.nodup hnodup

/-- One more entry, of a class string of which it is what is kept. -/
theorem Keeps.concat (h : Keeps s ledger used) (hlive : s.isLive e = true)
    (hkept : line.kept? = some e.value) :
    Keeps s (ledger ++ [line]) (used ++ [(line.raw, e)]) where
  values := by
    rw [List.map_append, h.values, List.filterMap_append]
    simp [hkept]
  live := List.forall_mem_append.2 ⟨h.live, List.forall_mem_singleton.2 hlive⟩

theorem Keeps.concat_none (h : Keeps s ledger used) (hkept : line.kept? = none) :
    Keeps s (ledger ++ [line]) used where
  values := by
    rw [h.values, List.filterMap_append]
    simp [hkept]
  live := h.live

/-- Taking the entry of a new class string out of the store leaves the used ones. -/
theorem Retains.without (h : Retains ledger s) (hfresh : raw ∉ ledger.map Line.raw) :
    Retains ledger { s with entries := s.without raw } := by
  obtain ⟨before, used, hentries, hused, hbefore⟩ := h
  have hother : used.filter (·.1 != raw) = used := by
    refine List.filter_eq_self.2 fun entry hentry => ?_
    obtain ⟨line, hline, hraw, -⟩ := hused.line_of_mem hentry
    have hne : entry.1 ≠ raw := by
      rintro rfl
      exact hfresh (hraw ▸ List.mem_map_of_mem hline)
    simpa using hne
  refine ⟨before.filter (·.1 != raw), used, ?_, ⟨hused.values, hused.live⟩,
    fun line hline hmem => ?_⟩
  · show s.without raw = _
    rw [Store.without, hentries, List.filter_append, hother]
  · exact hbefore line hline ((List.filter_sublist.map Prod.fst).mem hmem)

/-- Putting the entry of a new class string behind the others. -/
theorem Retains.concat (h : Retains ledger s) (hfresh : line.raw ∉ s.entries.map Prod.fst)
    (hlive : s.isLive e = true) (hkept : line.kept? = some e.value) :
    Retains (ledger ++ [line]) { s with entries := s.entries ++ [(line.raw, e)] } := by
  obtain ⟨before, used, hentries, hused, hbefore⟩ := h
  have hnew := hused.concat hlive hkept
  refine ⟨before, used ++ [(line.raw, e)], by rw [hentries, List.append_assoc],
    ⟨hnew.values, hnew.live⟩, ?_⟩
  refine List.forall_mem_append.2 ⟨hbefore, List.forall_mem_singleton.2 fun hmem => hfresh ?_⟩
  rw [hentries, List.map_append]
  exact List.mem_append_left _ hmem

/-- **Making room.**  As long as fewer class strings have been compiled than the store has places,
the first entry of a full store is none of theirs. -/
theorem Retains.tail (h : Retains ledger s) (hlength : ledger.length < s.entries.length) :
    Retains ledger { s with entries := s.entries.tail } := by
  obtain ⟨before, used, hentries, hused, hbefore⟩ := h
  have hused_le := hused.length_le
  cases before with
  | nil =>
      rw [hentries, List.nil_append] at hlength
      omega
  | cons first before =>
      refine ⟨before, used, by rw [hentries]; rfl, ⟨hused.values, hused.live⟩,
        fun line hline hmem => hbefore line hline (List.mem_cons_of_mem _ hmem)⟩

/-- The counts do not matter. -/
theorem Retains.recount {entries : List (Text × Entry)} (h : Retains ledger { s with entries })
    (hits misses : Nat) : Retains ledger { s with entries, hits, misses } := by
  obtain ⟨before, used, hentries, hused, hbefore⟩ := h
  exact ⟨before, used, hentries, ⟨hused.values, hused.live⟩, hbefore⟩

/-! ### One class string -/

/-- A class string that is served. -/
theorem Retains.hit (h : Retains ledger s) (hfresh : raw ∉ ledger.map Line.raw)
    (hget : (s.get raw).1 = some css) : Retains (ledger ++ [.hit raw css]) (s.get raw).2 := by
  obtain ⟨e, hlive, rfl, hafter⟩ := Store.get_eq_some hget
  rw [hafter]
  have hbehind : Retains (ledger ++ [.hit raw e.value])
      { s with entries := s.without raw ++ [(raw, e)] } :=
    (h.without hfresh).concat (Cache.not_mem_without s raw) hlive rfl
  exact hbehind.recount (s.hits + 1) s.misses

/-- A class string that is missed: the store has no entry of it then. -/
theorem Retains.missed (h : Retains ledger s) (hfresh : raw ∉ ledger.map Line.raw)
    (henabled : s.enabled = true) (hget : (s.get raw).1 = none) :
    Retains ledger (s.get raw).2 ∧ raw ∉ (s.get raw).2.entries.map Prod.fst := by
  rw [Store.get_eq_none henabled hget]
  exact ⟨(h.without hfresh).recount s.hits (s.misses + 1), Cache.not_mem_without s raw⟩

/-- Nothing is kept of a class string that is missed. -/
theorem Retains.pass (h : Retains ledger s) (hfresh : line.raw ∉ s.entries.map Prod.fst)
    (hkept : line.kept? = none) : Retains (ledger ++ [line]) s := by
  obtain ⟨before, used, hentries, hused, hbefore⟩ := h
  refine ⟨before, used, hentries, hused.concat_none hkept, ?_⟩
  refine List.forall_mem_append.2 ⟨hbefore, List.forall_mem_singleton.2 fun hmem => hfresh ?_⟩
  rw [hentries, List.map_append]
  exact List.mem_append_left _ hmem

/-- The style sheet of a class string that is missed is kept, as the last entry. -/
theorem Retains.set (h : Retains ledger s) (hfresh : line.raw ∉ s.entries.map Prod.fst)
    (henabled : s.enabled = true) (hcapacity : s.capacity = .int n)
    (hendless : s.lifetime.isInfinite = true) (hroom : (ledger.length : Int) < n)
    (hkept : line.kept? = some css) : Retains (ledger ++ [line]) (s.set line.raw css) := by
  have hlive : s.isLive ⟨css, s.now, s.version⟩ = true := by
    rw [Store.isLive, hendless, beq_self_eq_true]
    rfl
  have hpositive : s.accepts = true := by
    have hn : ¬ n ≤ 0 := by omega
    simp [Store.accepts, henabled, hcapacity, Number.le, hn]
  rcases Store.set_cases s line.raw css with ⟨ha, -⟩ | ⟨-, hf, -⟩ | ⟨-, -, hfull, hset⟩ |
    ⟨-, -, -, hset⟩
  · rw [hpositive] at ha
    cases ha
  · exact absurd (Store.find?_isSome_iff.1 hf) hfresh
  · have hlength : n ≤ (s.entries.length : Int) := by
      simpa [Store.isFull, hcapacity, Number.le] using hfull
    rw [hset]
    refine (h.tail (by omega)).concat (fun hmem => hfresh ?_) hlive hkept
    rw [List.map_tail] at hmem
    exact List.mem_of_mem_tail hmem
  · rw [hset]
    exact h.concat hfresh hlive hkept

/-- The store after a style sheet has been kept. -/
theorem store_keep (hcapacity : Cache.capacityOf c.cache.maxSize = .ok (.int n)) (raw css : Text) :
    (c.keep raw css).1 = .ok () ∧ (c.keep raw css).2.1.cache.store =
      if css.isEmpty then c.cache.store else c.cache.store.set raw css := by
  rw [keep]
  split
  · exact ⟨rfl, rfl⟩
  · rw [Cache.set, Cache.guarded_of_ok c.cache _ hcapacity]
    exact ⟨rfl, rfl⟩

/-- From a store that retains class strings, the cache finds what is kept of each of them. -/
theorem Retains.ready (h : Retains ledger s) (hnodup : (ledger.map Line.raw).Nodup)
    (hline : line ∈ ledger) : line.Ready s := by
  obtain ⟨before, used, hentries, hused, hbefore⟩ := h
  have hbehind : s.find? line.raw = Store.find? { s with entries := used } line.raw := by
    have hnone : Store.find? { s with entries := before } line.raw = none :=
      Option.not_isSome_iff_eq_none.1 fun hsome =>
        hbefore line hline (Store.find?_isSome_iff.1 hsome)
    rw [Store.find?] at hnone
    rw [Store.find?, hentries, List.lookup_append, hnone]
    exact Option.none_or
  rw [Line.Ready, hbehind]
  constructor
  · intro css hkept
    obtain ⟨e, he, hvalue⟩ := hused.mem_of_kept? hline hkept
    have hfind : Store.find? { s with entries := used } line.raw = some e :=
      (Store.find?_eq_some_iff (s := { s with entries := used }) (hused.nodup hnodup)).2 he
    exact ⟨e, hfind, hused.live _ he, hvalue⟩
  · intro hkept
    refine Option.eq_none_iff_forall_ne_some.2 fun e hfind => ?_
    obtain ⟨line', hline', hraw, hkept'⟩ := hused.line_of_mem (Store.mem_of_find? hfind)
    obtain rfl := List.inj_on_of_nodup_map hnodup hline' hline hraw
    rw [hkept] at hkept'
    cases hkept'

variable [Platform]

/-- **One class string.**  Its entry, if there is one, is the last one then. -/
theorem Retains.compileString (h : Retains ledger c.cache.store) (hvalid : c.registry.Valid)
    (hendless : Endless n c.cache) (hfresh : line.raw ∉ ledger.map Line.raw)
    (hroom : (ledger.length : Int) < n) {effects : Effects}
    (hstep : c.compileString line.raw = (.ok line.piece, after, effects))
    (hevents : effects.events = line.events) : Retains (ledger ++ [line]) after.cache.store := by
  obtain ⟨css, hget, hpiece, rfl, rfl⟩ | ⟨hget, later, hnew, rfl⟩ := compileString_eq_ok hstep
  · -- it has been served, so its line says so
    cases line with
    | hit raw css' =>
        obtain rfl : css' = css := congrArg Piece.css hpiece
        exact h.hit hfresh hget
    | miss raw items yields => cases hevents
  · cases line with
    | hit raw css => cases hevents
    | miss raw items yields =>
        obtain ⟨hread, hgone⟩ := h.missed hfresh hendless.enabled hget
        obtain ⟨registry, effects, -, -, ⟨failure, -, hfails⟩ | ⟨piece, -, hkeeps⟩⟩ :=
          compileAnew_cases (c := c.afterRead raw) hvalid raw
        · rw [Line.raw, hfails] at hnew
          cases hnew
        · obtain ⟨hok, hstore⟩ :=
            store_keep (c := { c.afterRead raw with registry }) hendless.capacity raw piece.css
          rw [Line.raw, hkeeps, hok] at hnew
          obtain ⟨hpiece, hrest⟩ := Prod.mk.inj hnew
          obtain ⟨hafter, -⟩ := Prod.mk.inj hrest
          obtain rfl := Except.ok.inj hpiece
          rw [← hafter, hstore]
          have hline : (Line.miss raw items yields).raw ∉
              (c.cache.store.get raw).2.entries.map Prod.fst := hgone
          by_cases hempty : (Line.miss raw items yields).piece.css.isEmpty
          · rw [if_pos hempty]
            exact hread.pass hline (if_pos hempty)
          · obtain ⟨-, -, hcapacity, hlifetime, henabled⟩ :=
              hendless.of_sameSettings (c.cache.sameSettings_get raw)
            rw [hendless.get_eq] at hcapacity hlifetime henabled
            rw [if_neg hempty]
            exact hread.set hline henabled hcapacity hlifetime hroom (if_neg hempty)

theorem Entered.sameInputs (h : Entered c ledger after) (hvalid : c.registry.Valid) :
    SameInputs c after ∧ after.registry.Valid := by
  induction h with
  | nil c => exact ⟨.refl c, hvalid⟩
  | @cons c next after line ledger effects hstep hevents hrest ih =>
      obtain ⟨hsame, hnext⟩ := sameInputs_compileString hvalid line.raw
      rw [hstep] at hsame hnext
      obtain ⟨hsame', hafter⟩ := ih hnext
      exact ⟨hsame.trans hsame', hafter⟩

/-- **Class strings** one after the other.  The used entries are as many as the class strings at
most, so that there is room for them. -/
theorem Retains.entered (h : Retains earlier c.cache.store) (hvalid : c.registry.Valid)
    (hendless : Endless n c.cache) (hentered : Entered c ledger after)
    (hnodup : ((earlier ++ ledger).map Line.raw).Nodup)
    (hroom : ((earlier ++ ledger).length : Int) ≤ n) :
    Retains (earlier ++ ledger) after.cache.store := by
  induction hentered generalizing earlier with
  | nil c =>
      rw [List.append_nil]
      exact h
  | @cons c next after line ledger effects hstep hevents hrest ih =>
      have hsplit : earlier ++ line :: ledger = earlier ++ [line] ++ ledger := by simp
      have hfresh : line.raw ∉ earlier.map Line.raw := by
        rw [List.map_append, List.map_cons] at hnodup
        exact fun hmem => (List.nodup_append.1 hnodup).2.2 _ hmem _ List.mem_cons_self rfl
      obtain ⟨-, hnext⟩ := sameInputs_compileString hvalid line.raw
      have hsettings := sameSettings_compileString hvalid line.raw
      rw [hstep] at hnext hsettings
      have hlength : (earlier.length : Int) < n := by
        rw [List.length_append, List.length_cons] at hroom
        omega
      rw [hsplit] at hnodup hroom ⊢
      exact ih (h.compileString hvalid hendless hfresh hlength hstep hevents) hnext
        (hendless.of_sameSettings hsettings) hnodup hroom

end Compiler

end UtilityCss
