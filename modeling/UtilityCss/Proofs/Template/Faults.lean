import Mathlib.Data.List.TakeWhile
import UtilityCss.Template.Fill

/-!
# Templates — faults that are caught

A template that cannot be filled gives no declarations, and the fault is caught: it is said in the
log and nothing else happens.  Some faults are not caught; those are misuses.

* The name of a field may go on behind the capture or value that it begins with, with an attribute
  or with a place that is no number (`Field.Snags`).  What comes of an attribute is up to the
  platform, and a text has no places but numbers.
* The layout of a field may ask for a text that is wider than the memory holds, once the fields in
  it are filled (`Field.Overflows`).

If no field of a template snags or overflows, neither its own fields nor those of their layouts,
then every fault of filling it is caught (`caught_fill`).

Filling is a row of steps, and a row of steps whose faults are caught is one (`Caught.bind`), so
each step is looked at on its own.  Where nothing snags, what is taken from a text is a text again
(`GivesText`).
-/

namespace UtilityCss.Template

variable {α β : Type}

/-! ### What is caught -/

/-- The result is no misuse: if it is a fault, it is one that is caught. -/
def Caught (r : Except Fault α) : Prop :=
  ∀ fault, r = .error fault → fault.misuse? = none

theorem caught_ok {a : α} : Caught (.ok a : Except Fault α) :=
  nofun

theorem caught_error {fault : Fault} (h : fault.misuse? = none) :
    Caught (.error fault : Except Fault α) := by
  rintro _ ⟨⟩
  exact h

/-- Steps whose faults are caught are one such step in a row. -/
theorem Caught.bind {r : Except Fault α} {f : α → Except Fault β} (h : Caught r)
    (hf : ∀ a, r = .ok a → Caught (f a)) : Caught (r >>= f) := by
  cases r with
  | error fault => exact caught_error (h fault rfl)
  | ok a => exact hf a rfl

theorem Caught.map {r : Except Fault α} (h : Caught r) (f : α → β) : Caught (r.map f) := by
  cases r with
  | error fault => exact caught_error (h fault rfl)
  | ok a => exact caught_ok

/-! ### Reading -/

/-- A number that is too long is caught. -/
theorem caught_readNumber (n count : Nat) (t : Text) : Caught (readNumber n count t) := by
  induction t generalizing n count with
  | nil => exact caught_ok
  | cons c rest ih =>
      rw [readNumber]
      split
      · exact caught_ok
      · split
        · exact caught_error rfl
        · exact ih _ _

theorem caught_readIndex (t : Text) : Caught (readIndex t) := by
  rw [readIndex]
  split
  next fault h => exact caught_error (caught_readNumber 0 0 t fault h)
  next => exact caught_ok

/-- A field that is not closed, or whose name holds a brace, is caught. -/
theorem caught_readName (bracket : Bool) (t : Text) : Caught (readName bracket t) := by
  induction t generalizing bracket with
  | nil => exact caught_error rfl
  | cons c rest ih =>
      rw [readName]
      split
      · exact (ih _).map _
      · split
        · exact caught_error rfl
        · split
          · exact caught_ok
          · exact (ih _).map _

/-- A layout that is not closed is caught. -/
theorem caught_readLayout (depth : Nat) (t : Text) : Caught (readLayout depth t) := by
  induction t generalizing depth with
  | nil => exact caught_error rfl
  | cons c rest ih =>
      rw [readLayout.eq_def]
      dsimp only
      split
      · exact (ih _).map _
      · split
        · split
          · exact caught_ok
          · exact (ih _).map _
        · exact (ih _).map _

/-- A field that cannot be read is caught. -/
theorem caught_readField (t : Text) : Caught (readField t) := by
  have hlayout : ∀ name conversion rest, Caught (readFieldLayout name conversion rest) :=
    fun _ _ _ => (caught_readLayout 0 _).map _
  rw [readField]
  split
  next fault h => exact caught_error (caught_readName false t fault h)
  next name stop rest _ =>
      split
      · exact caught_ok
      · split
        · exact hlayout _ _ _
        · split
          · exact caught_error rfl
          · exact caught_error rfl
          · split
            · exact caught_ok
            · split
              · exact hlayout _ _ _
              · exact caught_error rfl

/-- A template that cannot be read is caught. -/
theorem caught_readParts {fuel : Nat} {t : Text} {fault : Fault}
    (h : (readParts fuel t).2 = some fault) : fault.misuse? = none := by
  induction fuel generalizing t with
  | zero => cases h
  | succ fuel ih =>
      rw [readParts] at h
      split at h
      · cases h
      · cases h
        rfl
      · split at h
        · exact ih h
        · split at h
          · cases h
            rfl
          · split at h
            next fault' hfield =>
                cases h
                exact caught_readField _ _ hfield
            next => exact ih h

/-! ### Fields -/

/-- What is taken from a text is more than a character by its number: an attribute, or a character
by something that is no number, perhaps of a character that is taken first. -/
inductive Snags : Text → Prop
  | attribute {rest : Text} (hname : rest.takeWhile (!isAccess ·) ≠ []) : Snags ('.' :: rest)
  | index {name after : Text} (hname : ']' ∉ name) (hne : name ≠ [])
      (hnumber : readIndex name = .ok none) : Snags ('[' :: name ++ ']' :: after)
  | later {name after : Text} {i : Nat} (hname : ']' ∉ name)
      (hnumber : readIndex name = .ok (some i)) (h : Snags after) :
      Snags ('[' :: name ++ ']' :: after)

/-- The name of a field asks for more than characters of its capture or value. -/
def Field.Snags (field : Field) : Prop :=
  Template.Snags (field.name.dropWhile (!isAccess ·))

/-- The text before the bracket that closes, and what stands behind it. -/
theorem eq_of_dropWhile_bracket {rest after : Text} {c : Char}
    (h : rest.dropWhile (· != ']') = c :: after) :
    ']' ∉ rest.takeWhile (· != ']') ∧ rest = rest.takeWhile (· != ']') ++ ']' :: after := by
  have hc : c = ']' := by
    have := List.head?_dropWhile_not (· != ']') rest
    simpa [h] using this
  subst hc
  refine ⟨fun hmem => ?_, ?_⟩
  · simpa using List.mem_takeWhile_imp hmem
  · rw [← h, List.takeWhile_append_dropWhile]

section

variable [Objects]

/-- The result is a text, or a fault that is caught. -/
def GivesText (r : Except Fault (Value Objects.Object)) : Prop :=
  (∃ t, r = .ok (.text t)) ∨ ∃ fault, r = .error fault ∧ fault.misuse? = none

theorem givesText_ok {t : Text} : GivesText (.ok (.text t)) :=
  .inl ⟨t, rfl⟩

theorem givesText_error {fault : Fault} (h : fault.misuse? = none) : GivesText (.error fault) :=
  .inr ⟨fault, rfl, h⟩

/-- What is done with a text only has to be looked at for texts. -/
theorem GivesText.caught_bind {r : Except Fault (Value Objects.Object)}
    {f : Value Objects.Object → Except Fault α} (h : GivesText r)
    (hf : ∀ t, Caught (f (.text t))) : Caught (r >>= f) := by
  obtain ⟨t, rfl⟩ | ⟨fault, rfl, hfault⟩ := h
  · exact hf t
  · exact caught_error hfault

/-- A bracket that holds nothing, a number or a number that is too long. -/
theorem givesText_itemAt (t : Text) {name : Text} (h : name = [] ∨ readIndex name ≠ .ok none) :
    GivesText (itemAt (.text t) name) := by
  rw [itemAt]
  cases hindex : readIndex name with
  | error fault => exact givesText_error (caught_readIndex name fault hindex)
  | ok index =>
      cases index with
      | none =>
          obtain rfl := h.resolve_right fun hne => hne hindex
          exact givesText_error rfl
      | some i =>
          dsimp only [bind, Except.bind]
          cases t[i]? with
          | none => exact givesText_error rfl
          | some c => exact givesText_ok

/-- What is found in brackets behind a text is found by a number. -/
theorem readIndex_of_itemAt {t name : Text} {v : Value Objects.Object}
    (h : itemAt (.text t) name = .ok v) : ∃ i, readIndex name = .ok (some i) := by
  rw [itemAt] at h
  cases hindex : readIndex name with
  | error fault =>
      rw [hindex] at h
      cases h
  | ok index =>
      cases index with
      | some i => exact ⟨i, rfl⟩
      | none =>
          rw [hindex] at h
          change (if name.isEmpty then throw Fault.emptyAccess else throw Fault.indexNotNumber) =
            Except.ok v at h
          split at h <;> cases h

/-- Characters by their numbers are texts. -/
theorem givesText_access (fuel : Nat) (t : Text) {path : Text} (h : ¬ Snags path) :
    GivesText (access fuel (.text t) path) := by
  induction fuel generalizing t path with
  | zero => exact givesText_ok
  | succ fuel ih =>
      cases path with
      | nil => exact givesText_ok
      | cons c rest =>
          rw [access]
          split
          next hdot =>
              obtain rfl := eq_of_beq hdot
              dsimp only
              split
              · exact givesText_error rfl
              next hname => exact absurd (.attribute (by simpa using hname)) h
          next =>
              split
              next hbracket =>
                  obtain rfl := eq_of_beq hbracket
                  split
                  · exact givesText_error rfl
                  next c' after hclose =>
                      obtain ⟨hname, hrest⟩ := eq_of_dropWhile_bracket hclose
                      have hitem : GivesText (itemAt (.text t) (rest.takeWhile (· != ']'))) := by
                        refine givesText_itemAt t ?_
                        refine or_iff_not_imp_left.2 fun hne hnumber => h ?_
                        rw [hrest]
                        exact .index hname hne hnumber
                      obtain ⟨u, hu⟩ | ⟨fault, hfault, hcaught⟩ := hitem
                      · rw [hu]
                        refine ih u fun hafter => h ?_
                        obtain ⟨i, hi⟩ := readIndex_of_itemAt hu
                        rw [hrest]
                        exact .later hname hi hafter
                      · rw [hfault]
                        exact givesText_error hcaught
              · exact givesText_error rfl

/-- A conversion gives a text, or its letter is unknown. -/
theorem givesText_convert (conversion : Option Char) (t : Text) :
    GivesText (convert conversion (.text t)) := by
  cases conversion with
  | none => exact givesText_ok
  | some c =>
      cases hletter : Conversion.ofLetter? c with
      | none =>
          simp only [convert, hletter]
          exact givesText_error rfl
      | some conversion =>
          simp only [convert, hletter]
          exact givesText_ok

end

/-! ### Layouts -/

theorem caught_takeNumber (t : Text) : Caught (Layout.takeNumber t) := by
  rw [Layout.takeNumber]
  split
  next fault h => exact caught_error (caught_readNumber 0 0 t fault h)
  next => exact caught_ok

/-- A comma and an underscore, in whatever order, are caught. -/
theorem caught_takeSeparator (t : Text) : Caught (Layout.takeSeparator t) := by
  rw [Layout.takeSeparator]
  dsimp only
  split
  · exact caught_error rfl
  · split
    · exact caught_error rfl
    · exact caught_ok
  · exact caught_ok

/-- A point without a number behind it is caught. -/
theorem caught_takePrecision (t : Text) : Caught (Layout.takePrecision t) := by
  rw [Layout.takePrecision.eq_def]
  split
  next rest =>
      split
      next fault h => exact caught_error (caught_takeNumber rest fault h)
      next => exact caught_error rfl
      next => exact caught_ok
  next => exact caught_ok

/-- A layout that cannot be read is caught. -/
theorem caught_readLayoutText (t : Text) : Caught (Layout.read t) := by
  rw [Layout.read]
  dsimp only
  refine (caught_takeNumber _).bind fun width _ => ?_
  refine (caught_takeSeparator _).bind fun separator _ => ?_
  refine (caught_takePrecision _).bind fun precision _ => ?_
  have hlast : ∀ (s kind : Char) (l : Layout), Caught (do
      if Layout.takesSeparator s kind then pure () else throw (.separatorRefused s kind)
      return l) := by
    intro s kind l
    split
    · exact caught_ok
    · exact caught_error rfl
  obtain ⟨separator, rest⟩ := separator
  cases separator with
  | none =>
      split
      · exact caught_ok
      · exact caught_ok
      · exact caught_error rfl
  | some s =>
      split
      · exact hlast s 's' _
      next c _ => exact hlast s c _
      · exact caught_error rfl

/-- What a layout asks for that a text cannot have is caught. -/
theorem caught_of_refused? {l : Layout} {fault : Fault} (h : l.refused? = some fault) :
    fault.misuse? = none := by
  rw [Layout.refused?] at h
  repeat' split at h
  all_goals cases h
  all_goals rfl

section

variable [Room]

/-- A layout asks for a text that is wider than the memory holds. -/
def Layout.IsTooWide (layout : Text) : Prop :=
  ∃ l, Layout.read layout = .ok l ∧ Room.holdsText (l.width.getD 0) = false

/-- To lay out a text is caught if it need not be wider than the memory holds. -/
theorem caught_apply {layout : Text} (h : ¬ Layout.IsTooWide layout) (t : Text) :
    Caught (Layout.apply layout t) := by
  rw [Layout.apply]
  split
  · exact caught_ok
  · split
    next fault hread => exact caught_error (caught_readLayoutText layout fault hread)
    next l hread =>
        split
        next fault hrefused => exact caught_error (caught_of_refused? hrefused)
        next =>
            have hholds : Room.holdsText (l.width.getD 0) = true := by
              by_contra hnot
              exact h ⟨l, hread, Bool.eq_false_iff.2 hnot⟩
            rw [if_pos (by rw [Layout.fits, hholds, Bool.or_true])]
            exact caught_ok

end

/-! ### Filling -/

/-- The fields of a template. -/
def fieldsOf (t : Text) : List Field :=
  (read t).1.filterMap fun
    | .field field => some field
    | .literal _ => none

/-- The fields of a template and of the layouts of its fields, up to a depth. -/
def fieldsTo : Nat → Text → List Field
  | 0, _ => []
  | depth + 1, t =>
    (fieldsOf t).flatMap fun field =>
      field :: if field.nested then fieldsTo depth field.layout else []

/-- The fields that are filled when a template is: its own, and those of their layouts. -/
def fields (t : Text) : List Field :=
  fieldsTo maxDepth t

/-- A field that names nothing there is, or is numbered where others are not, is caught. -/
theorem caught_lookup (f : Filling) (numbering : Numbering) (first : Text) :
    Caught (f.lookup numbering first) := by
  have hcapture : ∀ i, Caught (f.capture i) := by
    intro i
    rw [Filling.capture]
    split
    · exact caught_ok
    · exact caught_error rfl
  refine (caught_readIndex first).bind fun index _ => ?_
  cases index with
  | some i =>
      have hmanual : Caught numbering.useManual := by
        cases numbering with
        | automatic n => exact caught_error rfl
        | undecided | manual => exact caught_ok
      exact hmanual.bind fun _ _ => (hcapture i).bind fun _ _ => caught_ok
  | none =>
      have hnext : Caught numbering.next := by
        cases numbering with
        | manual => exact caught_error rfl
        | undecided | automatic n => exact caught_ok
      dsimp only
      split
      · exact hnext.bind fun _ _ => (hcapture _).bind fun _ _ => caught_ok
      · split
        · exact caught_ok
        · exact caught_error rfl

section

variable [Objects] [Room]

/-- What the layout of a field comes to when the fields in it are filled. -/
def Field.LaysOut (f : Filling) (field : Field) (layout : Text) : Prop :=
  if field.nested then
    ∃ depth numbering after, fillTo f depth numbering field.layout = .ok (layout, after)
  else layout = field.layout

/-- The layout of a field comes to ask for a text that is wider than the memory holds. -/
def Field.Overflows (f : Filling) (field : Field) : Prop :=
  ∃ layout, field.LaysOut f layout ∧ Layout.IsTooWide layout

/-- A field that does not snag, with a layout that can be filled or fails with what is caught. -/
theorem caught_fillField {expand : Numbering → Text → Except Fault (Text × Numbering)} {f : Filling}
    {field : Field} (hsnags : ¬ field.Snags)
    (hexpand : field.nested → ∀ numbering, Caught (expand numbering field.layout) ∧
      ∀ layout after, expand numbering field.layout = .ok (layout, after) →
        ¬ Layout.IsTooWide layout)
    (hplain : ¬ field.nested → ¬ Layout.IsTooWide field.layout) (numbering : Numbering) :
    Caught (fillField expand f numbering field) := by
  refine (caught_lookup f numbering _).bind fun found _ => ?_
  refine (givesText_access _ found.1 hsnags).caught_bind fun taken => ?_
  refine (givesText_convert _ taken).caught_bind fun converted => ?_
  have hlast : ∀ layout : Text × Numbering, ¬ Layout.IsTooWide layout.1 → Caught (do
      return (← format layout.1 (.text converted), layout.2)) :=
    fun _ hwide => (caught_apply hwide converted).bind fun _ _ => caught_ok
  dsimp only
  split
  next hnested =>
      obtain ⟨hcaught, hwide⟩ := hexpand hnested found.2
      exact hcaught.bind fun layout hlayout => hlast layout (hwide _ _ hlayout)
  next hnested => exact hlast (field.layout, found.2) (hplain hnested)

/-- If the faults of all fields are caught, so are those of the parts in a row. -/
theorem caught_fillParts {expand : Numbering → Text → Except Fault (Text × Numbering)} {f : Filling}
    {parts : List Part}
    (h : ∀ field, .field field ∈ parts → ∀ numbering, Caught (fillField expand f numbering field))
    (numbering : Numbering) : Caught (fillParts expand f numbering parts) := by
  induction parts generalizing numbering with
  | nil => exact caught_ok
  | cons part rest ih =>
      have ih := ih fun field hfield => h field (List.mem_cons_of_mem _ hfield)
      cases part with
      | literal t => exact (ih numbering).bind fun _ _ => caught_ok
      | field field =>
          refine (h field List.mem_cons_self numbering).bind fun found _ => ?_
          exact (ih found.2).bind fun _ _ => caught_ok

/-- By induction on the depth: the fields of a layout are filled as those of a template of less
depth. -/
theorem caught_fillTo (f : Filling) {depth : Nat} {t : Text}
    (h : ∀ field ∈ fieldsTo depth t, ¬ field.Snags ∧ ¬ field.Overflows f) (numbering : Numbering) :
    Caught (fillTo f depth numbering t) := by
  induction depth generalizing t numbering with
  | zero => exact caught_error rfl
  | succ depth ih =>
      rw [fieldsTo] at h
      have hparts : ∀ numbering, Caught (fillParts (fillTo f depth) f numbering (read t).1) := by
        refine caught_fillParts fun field hfield => ?_
        have hfield : field ∈ fieldsOf t := List.mem_filterMap.2 ⟨.field field, hfield, rfl⟩
        have hall := fun inner hinner =>
          h inner (List.mem_flatMap.2 ⟨field, hfield, hinner⟩)
        obtain ⟨hsnags, hoverflows⟩ := hall field List.mem_cons_self
        refine caught_fillField hsnags (fun hnested numbering => ⟨?_, fun layout after hfill => ?_⟩)
          fun hnested => ?_
        · refine ih (fun inner hinner => hall inner (List.mem_cons_of_mem _ ?_)) numbering
          rwa [if_pos hnested]
        · refine fun hwide => hoverflows ⟨layout, ?_, hwide⟩
          rw [Field.LaysOut, if_pos hnested]
          exact ⟨depth, numbering, after, hfill⟩
        · refine fun hwide => hoverflows ⟨field.layout, ?_, hwide⟩
          rw [Field.LaysOut, if_neg hnested]
      rw [fillTo]
      dsimp only
      split
      next fault hfault => exact caught_error (hparts numbering fault hfault)
      next =>
          split
          next fault hfault => exact caught_error (caught_readParts hfault)
          next => exact caught_ok

/-- **Faults that are caught.**  If no field of a template or of a layout in it asks for more than
characters of a text, or for a text that is wider than the memory holds, then filling the template
gives a text or a fault that is caught. -/
theorem caught_fill (f : Filling) {t : Text}
    (h : ∀ field ∈ fields t, ¬ field.Snags ∧ ¬ field.Overflows f) : Caught (fill f t) :=
  (caught_fillTo f h .undecided).map _

end

end UtilityCss.Template
