import UtilityCss.Proofs.Document.Reading
import UtilityCss.Template.Fill

/-!
# Templates — the check is exact

Two readers look at a template.  The check of a rule reads all of it and looks at the keys of its
fields; filling goes through it with what there is to fill it with.  Each numbers the fields without
a key for itself.

A template is plain (`Plain`) if its fields are ASCII texts without access, conversion or layout,
and fields without a number do not stand beside numbered ones.  Of a plain template the check says
exactly whether it can be filled (`Plain.isOk_fill_iff`), and what it is filled to can be told from
its text (`Expands`).

* `Cut`: a template that can be read is cut into texts and fields.
* `lookup_cases`: what a field can stand for.
* `expands_of_fillParts`, `isOk_fillParts`: filling the parts.
-/

namespace UtilityCss.Template

/-! ### The fields of a text -/

/-- The opening brace. -/
def opening : Char := '\x7b'

/-- The closing brace. -/
def closing : Char := '\x7d'

@[simp] theorem isOpening_iff {c : Char} : isOpening c ↔ c = opening := by
  rw [isOpening, beq_iff_eq, ← Char.toNat_inj]
  rfl

@[simp] theorem isClosing_iff {c : Char} : isClosing c ↔ c = closing := by
  rw [isClosing, beq_iff_eq, ← Char.toNat_inj]
  rfl

@[simp] theorem isBrace_iff {c : Char} : isBrace c ↔ c = opening ∨ c = closing := by
  rw [isBrace, Bool.or_eq_true, isOpening_iff, isClosing_iff]

/-- The texts of the replacement fields of a template, each from its opening brace to the next
closing one.  A doubled opening brace opens none.  `inside` is the text of a field so far. -/
def fieldTexts (inside : Option Text) : Text → List Text
  | [] => []
  | c :: rest =>
    match inside with
    | some w =>
      if c == closing then w :: fieldTexts none rest else fieldTexts (some (w ++ [c])) rest
    | none =>
      match rest with
      | [] => []
      | d :: after =>
        if c == opening && d == opening then fieldTexts none after
        else if c == opening then fieldTexts (some []) (d :: after)
        else fieldTexts none (d :: after)

/-- The text of a field is plain: ASCII, and without access, conversion and layout.  A number has no
more than nine digits. -/
structure PlainField (w : Text) : Prop where
  ascii : ∀ c ∈ w, c.toNat < 128
  bare : ∀ c ∈ w, c ≠ '.' ∧ c ≠ '[' ∧ c ≠ '!' ∧ c ≠ ':'
  short : w.all Text.isAsciiDigit → w.length ≤ 9

/-- A template is plain if its fields are, and fields without a number do not stand beside numbered
ones.  The fields without a number are no more than there are numbers that can be read. -/
structure Plain (t : Text) : Prop where
  fields : ∀ w ∈ fieldTexts none t, PlainField w
  unmixed : [] ∈ fieldTexts none t →
    ∀ w ∈ fieldTexts none t, w.all Text.isAsciiDigit → w = []
  few : (fieldTexts none t).count [] ≤ 10 ^ Number.maxDigits

instance (w : Text) : Decidable (PlainField w) :=
  decidable_of_iff (w.all (fun c => c.toNat < 128) = true ∧
    w.all (fun c => c ≠ '.' ∧ c ≠ '[' ∧ c ≠ '!' ∧ c ≠ ':') = true ∧
    (w.all Text.isAsciiDigit → w.length ≤ 9))
    ⟨fun ⟨ascii, bare, short⟩ => ⟨by simpa using ascii, by simpa using bare, short⟩,
      fun h => ⟨by simpa using h.ascii, by simpa using h.bare, h.short⟩⟩

instance (t : Text) : Decidable (Plain t) :=
  decidable_of_iff ((∀ w ∈ fieldTexts none t, PlainField w) ∧
    ([] ∈ fieldTexts none t → ∀ w ∈ fieldTexts none t, w.all Text.isAsciiDigit → w = []) ∧
    (fieldTexts none t).count [] ≤ 10 ^ Number.maxDigits)
    ⟨fun ⟨fields, unmixed, few⟩ => ⟨fields, unmixed, few⟩,
      fun h => ⟨h.fields, h.unmixed, h.few⟩⟩

/-- What a template says if it is filled: doubled braces stand for one, a field without a number is
replaced by the next capture, counted from `n`, one with a number by the capture of that number, and
the field of the value by the value. -/
inductive Expands (captures : List Text) (value : Text) : Nat → Text → Text → Prop
  | done {n : Nat} : Expands captures value n [] []
  | char {n : Nat} {c : Char} {t u : Text} (hc : c ≠ opening ∧ c ≠ closing)
      (h : Expands captures value n t u) : Expands captures value n (c :: t) (c :: u)
  | brace {n : Nat} {c : Char} {t u : Text} (hc : c = opening ∨ c = closing)
      (h : Expands captures value n t u) : Expands captures value n (c :: c :: t) (c :: u)
  | next {n : Nat} {found t u : Text} (hfound : captures[n]? = some found)
      (h : Expands captures value (n + 1) t u) :
      Expands captures value n (opening :: closing :: t) (found ++ u)
  | numbered {n : Nat} {digits found t u : Text} (hne : digits ≠ [])
      (hdigits : digits.all Text.isAsciiDigit)
      (hfound : captures[Text.digitsValue digits]? = some found)
      (h : Expands captures value n t u) :
      Expands captures value n (opening :: digits ++ closing :: t) (found ++ u)
  | value {n : Nat} {t u : Text} (h : Expands captures value n t u) :
      Expands captures value n (opening :: "value".toList ++ closing :: t) (value ++ u)

theorem fieldTexts_cons {c : Char} {t : Text} (hc : c ≠ opening) :
    fieldTexts none (c :: t) = fieldTexts none t := by
  cases t with
  | nil => rfl
  | cons d t => simp [fieldTexts, hc]

theorem fieldTexts_append {lit t : Text} (h : opening ∉ lit) :
    fieldTexts none (lit ++ t) = fieldTexts none t := by
  induction lit with
  | nil => rfl
  | cons c lit ih =>
      rw [List.mem_cons, not_or] at h
      rw [List.cons_append, fieldTexts_cons (Ne.symm h.1), ih h.2]

theorem fieldTexts_brace {c : Char} {t : Text} (hc : c = opening ∨ c = closing) :
    fieldTexts none (c :: c :: t) = fieldTexts none t := by
  rcases hc with rfl | rfl
  · simp [fieldTexts]
  · have hne : closing ≠ opening := by decide
    rw [fieldTexts_cons hne, fieldTexts_cons hne]

theorem fieldTexts_inside {v w t : Text} (h : closing ∉ w) :
    fieldTexts (some v) (w ++ closing :: t) = (v ++ w) :: fieldTexts none t := by
  induction w generalizing v with
  | nil => simp [fieldTexts]
  | cons c w ih =>
      rw [List.mem_cons, not_or] at h
      have hc : (c == closing) = false := by simpa using Ne.symm h.1
      rw [List.cons_append, fieldTexts.eq_def]
      simp only [hc, Bool.false_eq_true, if_false]
      rw [ih h.2, List.append_assoc, List.singleton_append]

theorem fieldTexts_field {w t : Text} (hopening : w.head? ≠ some opening) (h : closing ∉ w) :
    fieldTexts none (opening :: w ++ closing :: t) = w :: fieldTexts none t := by
  have hstart : fieldTexts none (opening :: w ++ closing :: t) =
      fieldTexts (some []) (w ++ closing :: t) := by
    cases w with
    | nil => rfl
    | cons c w =>
        have hc : c ≠ opening := by simpa using hopening
        simp [fieldTexts, hc]
  rw [hstart, fieldTexts_inside h, List.nil_append]

/-! ### Reading -/

/-- A template that can be read is cut into texts and fields. -/
inductive Cut : Text → List Part → Prop
  | last {lit : Text} (hlit : ∀ c ∈ lit, isBrace c = false) :
      Cut lit (if lit.isEmpty then [] else [.literal lit])
  | brace {lit t : Text} {c : Char} {parts : List Part} (hlit : ∀ c ∈ lit, isBrace c = false)
      (hc : isBrace c) (h : Cut t parts) :
      Cut (lit ++ c :: c :: t) (.literal (lit ++ [c]) :: parts)
  | field {lit w t : Text} {parts : List Part} (hlit : ∀ c ∈ lit, isBrace c = false)
      (hw : ∀ c ∈ w, isBrace c = false) (h : Cut t parts) :
      Cut (lit ++ (opening :: w ++ closing :: t)) (.literal lit :: .field { name := w } :: parts)

/-- The name of a plain field goes up to its closing brace. -/
theorem readName_of_bare {w t : Text} (hbare : ∀ c ∈ w, c ≠ '.' ∧ c ≠ '[' ∧ c ≠ '!' ∧ c ≠ ':')
    (hclosing : closing ∉ w) :
    readName false (w ++ closing :: t) =
      if opening ∈ w then .error .braceInName else .ok (w, closing, t) := by
  induction w with
  | nil => rfl
  | cons c w ih =>
      rw [List.forall_mem_cons] at hbare
      obtain ⟨⟨-, hbracket, hbang, hcolon⟩, hbare⟩ := hbare
      rw [List.mem_cons, not_or] at hclosing
      have hc : isClosing c = false := by
        simpa [← Bool.not_eq_true] using Ne.symm hclosing.1
      rw [List.cons_append, readName]
      by_cases hopening : c = opening
      · simp [hopening, isOpening_iff.2]
      · have hc' : isOpening c = false := by simpa [← Bool.not_eq_true] using hopening
        simp only [hc, hc', hcolon, hbang, hbracket, Bool.false_eq_true, if_false, Bool.or_false,
          beq_false_of_ne, ne_eq, not_false_eq_true]
        rw [ih hbare hclosing.2]
        have hmem : opening ∈ c :: w ↔ opening ∈ w := by simp [Ne.symm hopening]
        simp only [hmem]
        split <;> rfl

theorem not_readLayout_of_not_mem {t : Text} (h : closing ∉ t) (depth : Nat) :
    ∀ r, readLayout depth t ≠ .ok r := by
  induction t generalizing depth with
  | nil => nofun
  | cons c t ih =>
      rw [List.mem_cons, not_or] at h
      have hc : isClosing c = false := by simpa [← Bool.not_eq_true] using Ne.symm h.1
      have hmap {depth : Nat} {f : Text × Text → Text × Text} :
          ∀ r, (readLayout depth t).map f ≠ .ok r := by
        cases hread : readLayout depth t with
        | error fault => nofun
        | ok r => exact absurd hread (ih h.2 depth r)
      rw [readLayout.eq_def]
      dsimp only
      split
      · exact hmap
      · simp only [hc, Bool.false_eq_true, if_false]
        exact hmap

/-- Behind a name there is what the text has behind it. -/
theorem eq_of_readName {bracket : Bool} {t name rest : Text} {stop : Char}
    (h : readName bracket t = .ok (name, stop, rest)) :
    t = name ++ stop :: rest ∧ (isClosing stop ∨ stop = ':' ∨ stop = '!') := by
  induction t generalizing bracket name with
  | nil => cases h
  | cons c t ih =>
      have hmap {b : Bool} (h : (readName b t).map (fun r => (c :: r.1, r.2)) =
          .ok (name, stop, rest)) :
          c :: t = name ++ stop :: rest ∧ (isClosing stop ∨ stop = ':' ∨ stop = '!') := by
        cases hread : readName b t with
        | error fault => rw [hread] at h; cases h
        | ok r =>
            obtain ⟨n, s, r⟩ := r
            rw [hread] at h
            cases h
            obtain ⟨ht, hs⟩ := ih hread
            exact ⟨by rw [ht, List.cons_append], hs⟩
      rw [readName] at h
      split at h
      · exact hmap h
      · split at h
        · cases h
        · split at h
          next hstop =>
              cases h
              refine ⟨rfl, ?_⟩
              simpa [or_assoc] using hstop
          next => exact hmap h

/-- A field that is not closed cannot be read. -/
theorem not_readField_of_not_mem {t : Text} (h : closing ∉ t) : ∀ r, readField t ≠ .ok r := by
  have hlayout {name : Text} {conversion : Option Char} {rest : Text} (hrest : closing ∉ rest) :
      ∀ r, readFieldLayout name conversion rest ≠ .ok r := by
    intro r hr
    rw [readFieldLayout] at hr
    cases hread : readLayout 0 rest with
    | error fault => rw [hread] at hr; cases hr
    | ok r => exact not_readLayout_of_not_mem hrest 0 r hread
  rw [readField]
  split
  next => nofun
  next name stop rest hname =>
      obtain ⟨rfl, hstop⟩ := eq_of_readName hname
      simp only [List.mem_append, List.mem_cons, not_or] at h
      obtain ⟨-, hne, hrest⟩ := h
      have hopen : ¬ isClosing stop := fun hc => hne (isClosing_iff.1 hc).symm
      rw [if_neg hopen]
      split
      · exact hlayout hrest
      · split
        · nofun
        · nofun
        next c d after =>
            simp only [List.mem_cons, not_or] at hrest
            have hd : ¬ isClosing d := fun hd => hrest.2.1 (isClosing_iff.1 hd).symm
            rw [if_neg hd]
            split
            · exact hlayout hrest.2.2
            · nofun

/-- A template that can be read, and has bare fields, is cut. -/
theorem cut_of_readParts {fuel : Nat} {t : Text} {parts : List Part} (hfuel : t.length < fuel)
    (h : readParts fuel t = (parts, none))
    (hbare : ∀ w ∈ fieldTexts none t, ∀ c ∈ w, c ≠ '.' ∧ c ≠ '[' ∧ c ≠ '!' ∧ c ≠ ':') :
    Cut t parts := by
  induction fuel generalizing t parts with
  | zero => omega
  | succ fuel ih =>
      have hsplit : t.takeWhile (!isBrace ·) ++ t.dropWhile (!isBrace ·) = t :=
        List.takeWhile_append_dropWhile
      have hlit : ∀ c ∈ t.takeWhile (!isBrace ·), isBrace c = false := fun c hc => by
        simpa using List.mem_takeWhile_imp hc
      have hnone : opening ∉ t.takeWhile (!isBrace ·) := fun hmem => by
        simpa [isBrace_iff.2] using hlit opening hmem
      have hhead := List.head?_dropWhile_not (!isBrace ·) t
      rw [readParts] at h
      generalize t.takeWhile (!isBrace ·) = lit at hsplit hlit hnone h
      split at h
      next hdrop =>
          rw [hdrop, List.append_nil] at hsplit
          cases h
          exact hsplit ▸ .last hlit
      next brace hdrop => cases h
      next brace next after hdrop =>
          rw [hdrop] at hhead hsplit
          have hbrace : isBrace brace := by simpa using hhead
          subst hsplit
          rw [fieldTexts_append hnone] at hbare
          simp only [List.length_append, List.length_cons] at hfuel
          split at h
          next hdouble =>
              obtain rfl := eq_of_beq hdouble
              rw [fieldTexts_brace (isBrace_iff.1 hbrace)] at hbare
              cases hrest : readParts fuel after with
              | mk rest fault =>
                  rw [hrest] at h
                  cases h
                  exact .brace hlit hbrace (ih (by omega) hrest hbare)
          next hsingle =>
              split at h
              next => cases h
              next hopen =>
                  obtain rfl : brace = opening :=
                    (isBrace_iff.1 hbrace).resolve_right fun hc => hopen (isClosing_iff.2 hc)
                  split at h
                  next => cases h
                  next field rest hfield =>
                      -- the field goes up to the first closing brace
                      have hclosed : closing ∈ next :: after := not_not.1 fun hno =>
                        not_readField_of_not_mem hno _ hfield
                      obtain ⟨w, t', hw, hfirst⟩ := List.eq_append_cons_of_mem hclosed
                      have hstart : w.head? ≠ some opening := by
                        cases w with
                        | nil => simp
                        | cons c w =>
                            obtain rfl : next = c := by simpa using congrArg List.head? hw
                            simpa using hsingle
                      have hlength := congrArg List.length hw
                      simp only [List.length_append, List.length_cons] at hlength
                      rw [hw, ← List.cons_append, fieldTexts_field hstart hfirst,
                        List.forall_mem_cons] at hbare
                      rw [hw, readField, readName_of_bare hbare.1 hfirst] at hfield
                      by_cases hinner : opening ∈ w
                      · simp [hinner] at hfield
                      · simp only [hinner, if_false, isClosing_iff.2, if_true] at hfield
                        cases hfield
                        have hw' : ∀ c ∈ w, isBrace c = false := fun c hc => by
                          refine Bool.not_eq_true _ ▸ fun hc' => ?_
                          rcases isBrace_iff.1 hc' with rfl | rfl
                          · exact hinner hc
                          · exact hfirst hc
                        cases hrest : readParts fuel rest with
                        | mk parts' fault =>
                            rw [hrest] at h
                            cases h
                            rw [hw, ← List.cons_append]
                            exact .field hlit hw' (ih (by omega) hrest hbare.2)

/-- The names of the fields are their texts. -/
theorem Cut.names {t : Text} {parts : List Part} (h : Cut t parts) :
    (parts.filterMap fun
      | .field f => some f.name
      | .literal _ => none) = fieldTexts none t := by
  have hnone {lit : Text} (hlit : ∀ c ∈ lit, isBrace c = false) : opening ∉ lit := fun hmem => by
    simpa [isBrace_iff.2] using hlit opening hmem
  induction h with
  | @last lit hlit =>
      have htexts : fieldTexts none (lit ++ []) = [] := fieldTexts_append (hnone hlit)
      rw [List.append_nil] at htexts
      rw [htexts]
      split <;> rfl
  | @brace lit t c parts hlit hc h ih =>
      rw [fieldTexts_append (hnone hlit), fieldTexts_brace (isBrace_iff.1 hc), ← ih]
      rfl
  | @field lit w t parts hlit hw h ih =>
      have hclosing : closing ∉ w := fun hmem => by
        simpa [isBrace_iff.2] using hw closing hmem
      have hstart : w.head? ≠ some opening := fun hhead =>
        hnone hw (List.mem_of_mem_head? hhead)
      rw [fieldTexts_append (hnone hlit), fieldTexts_field hstart hclosing, ← ih]
      rfl

/-! ### Numbers -/

theorem readNumber_of_digits {w : Text} {n k : Nat} (count : Nat) (hw : w.all Text.isAsciiDigit)
    (hn : n < 10 ^ k) (hk : k + w.length ≤ 18) :
    readNumber n count w =
      .ok (w.foldl (fun n c => 10 * n + (c.toNat - 48)) n, count + w.length, []) := by
  induction w generalizing n k count with
  | nil => rfl
  | cons c w ih =>
      rw [List.all_cons, Bool.and_eq_true] at hw
      rw [List.length_cons] at hk
      have hc := Text.isAsciiDigit_iff.1 hw.1
      have hsmall : 10 ^ k ≤ 10 ^ 17 := Nat.pow_le_pow_right (by decide) (by omega)
      have hpow : 10 ^ (k + 1) = 10 * 10 ^ k := by rw [Nat.pow_succ, Nat.mul_comm]
      have hmax : ¬ n > (maxNumber - (c.toNat - 48)) / 10 := by
        rw [maxNumber]
        omega
      rw [readNumber, Text.decimalValue?_of_isAsciiDigit hw.1]
      dsimp only
      rw [if_neg hmax, ih (k := k + 1) _ hw.2 (by omega) (by omega), List.foldl_cons,
        List.length_cons]
      simp only [Nat.add_assoc, Nat.add_comm 1]

theorem readIndex_of_digits {w : Text} (hne : w ≠ []) (hw : w.all Text.isAsciiDigit)
    (hshort : w.length ≤ 9) : readIndex w = .ok (some (Text.digitsValue w)) := by
  rw [readIndex, readNumber_of_digits (k := 0) 0 hw (by decide) (by omega)]
  simp [hne, Text.digitsValue]

/-- A number is read from decimal digits only. -/
theorem isDecimal_of_readNumber {w : Text} {n count m count' : Nat}
    (h : readNumber n count w = .ok (m, count', [])) : ∀ c ∈ w, Text.isDecimal c := by
  induction w generalizing n count with
  | nil => nofun
  | cons c w ih =>
      rw [readNumber] at h
      rw [List.forall_mem_cons]
      split at h
      · cases h
      next d hd =>
          split at h
          · cases h
          · exact ⟨by rw [Text.isDecimal, hd]; rfl, ih h⟩

theorem PlainField.digits_of_readIndex {w : Text} {i : Nat} (hw : PlainField w)
    (h : readIndex w = .ok (some i)) : w ≠ [] ∧ w.all Text.isAsciiDigit := by
  rw [readIndex] at h
  cases hread : readNumber 0 0 w with
  | error fault => rw [hread] at h; cases h
  | ok r =>
      obtain ⟨n, count, rest⟩ := r
      rw [hread] at h
      dsimp only at h
      split at h
      · cases h
      next hnumber =>
          simp only [Bool.or_eq_true, Bool.not_eq_true', not_or, Bool.not_eq_false] at hnumber
          obtain rfl := List.isEmpty_iff.1 hnumber.2
          refine ⟨?_, List.all_eq_true.2 fun c hc => ?_⟩
          · rintro rfl
            cases hread
            exact hnumber.1 rfl
          · have hdecimal := isDecimal_of_readNumber hread c hc
            rw [Text.isDecimal, Text.decimalValue?, if_pos (hw.ascii c hc)] at hdecimal
            rw [Text.isAsciiDigit]
            split at hdecimal
            · assumption
            · cases hdecimal

/-! ### Fields -/

/-- The number of the next field without one. -/
def Numbering.count : Numbering → Nat
  | .automatic n => n
  | .undecided | .manual => 0

/-- The fields to come go together with the numbering. -/
def Numbering.Allows (names : List Text) : Numbering → Prop
  | .undecided => [] ∉ names ∨ ∀ w ∈ names, w.all Text.isAsciiDigit → w = []
  | .manual => [] ∉ names
  | .automatic _ => ∀ w ∈ names, w.all Text.isAsciiDigit → w = []

/-- What a field can stand for, and the numbering after it. -/
inductive Finds (f : Filling) (numbering : Numbering) : Text → Text × Numbering → Prop
  | next {found : Text}
      (hnext : numbering.next = .ok (numbering.count, .automatic (numbering.count + 1)))
      (hfound : f.captures[numbering.count]? = some found) :
      Finds f numbering [] (found, .automatic (numbering.count + 1))
  | numbered {w found : Text} (hne : w ≠ []) (hdigits : w.all Text.isAsciiDigit)
      (hmanual : numbering.useManual = .ok .manual)
      (hfound : f.captures[Text.digitsValue w]? = some found) : Finds f numbering w (found, .manual)
  | value : Finds f numbering "value".toList (f.value, numbering)

theorem Filling.capture_eq_ok_iff {f : Filling} {i : Nat} {found : Text} :
    f.capture i = .ok found ↔ f.captures[i]? = some found := by
  rw [Filling.capture]
  split <;> simp_all

theorem bind_eq_ok {α β : Type} {r : Except Fault α} {f : α → Except Fault β} {b : β} :
    r >>= f = .ok b ↔ ∃ a, r = .ok a ∧ f a = .ok b := by
  cases r with
  | error fault => simp [bind, Except.bind]
  | ok a => simp [bind, Except.bind]

section

variable {f : Filling} {numbering after : Numbering} {w found : Text} {names : List Text}
  {groups : Nat}

/-- A plain field stands for a capture, by its number or in turn, or for the value. -/
theorem PlainField.lookup_eq_ok_iff {r : Text × Numbering} (hw : PlainField w) :
    f.lookup numbering w = .ok r ↔ Finds f numbering w r := by
  constructor
  · intro h
    rw [Filling.lookup] at h
    obtain ⟨index, hindex, hrest⟩ := bind_eq_ok.1 h
    clear h
    cases index with
    | some i =>
        obtain ⟨hne, hdigits⟩ := hw.digits_of_readIndex hindex
        obtain rfl : Text.digitsValue w = i := by
          simpa [readIndex_of_digits hne hdigits (hw.short hdigits)] using hindex
        obtain ⟨numbering', hmanual, hlast⟩ := bind_eq_ok.1 hrest
        obtain ⟨found, hcapture, hr⟩ := bind_eq_ok.1 hlast
        obtain rfl : numbering' = .manual := by cases numbering <;> cases hmanual <;> rfl
        cases hr
        exact .numbered hne hdigits hmanual (Filling.capture_eq_ok_iff.1 hcapture)
    | none =>
        dsimp only at hrest
        split at hrest
        next hempty =>
            obtain ⟨⟨n, numbering'⟩, hnext, hlast⟩ := bind_eq_ok.1 hrest
            obtain ⟨found, hcapture, hr⟩ := bind_eq_ok.1 hlast
            obtain ⟨rfl, rfl⟩ :
                n = numbering.count ∧ numbering' = .automatic (numbering.count + 1) := by
              cases numbering <;> cases hnext <;> exact ⟨rfl, rfl⟩
            cases hr
            obtain rfl := List.isEmpty_iff.1 hempty
            exact .next hnext (Filling.capture_eq_ok_iff.1 hcapture)
        next =>
            split at hrest
            next hvalue =>
                obtain rfl := eq_of_beq hvalue
                cases hrest
                exact .value
            next => cases hrest
  · intro h
    cases h with
    | next hnext hfound =>
        have hcapture := Filling.capture_eq_ok_iff.2 hfound
        exact bind_eq_ok.2 ⟨none, rfl, bind_eq_ok.2 ⟨_, hnext, bind_eq_ok.2 ⟨_, hcapture, rfl⟩⟩⟩
    | numbered hne hdigits hmanual hfound =>
        have hindex := readIndex_of_digits hne hdigits (hw.short hdigits)
        have hcapture := Filling.capture_eq_ok_iff.2 hfound
        exact bind_eq_ok.2
          ⟨_, hindex, bind_eq_ok.2 ⟨_, hmanual, bind_eq_ok.2 ⟨_, hcapture, rfl⟩⟩⟩
    | value => rfl

/-- The fields after one that has been found go together with the numbering after it. -/
theorem Finds.allows (h : Finds f numbering w (found, after))
    (hallows : numbering.Allows (w :: names)) : after.Allows names := by
  cases h with
  | next hnext hfound =>
      intro v hv hdigits
      cases numbering with
      | undecided =>
          exact (hallows.resolve_left fun hno => hno List.mem_cons_self) v
            (List.mem_cons_of_mem _ hv) hdigits
      | automatic n => exact hallows v (List.mem_cons_of_mem _ hv) hdigits
      | manual => cases hnext
  | numbered hne hdigits hmanual hfound =>
      intro hmem
      cases numbering with
      | undecided =>
          refine hallows.resolve_right (fun hall => ?_) (List.mem_cons_of_mem _ hmem)
          exact hne (hall w List.mem_cons_self hdigits)
      | automatic n => cases hmanual
      | manual => exact hallows (List.mem_cons_of_mem _ hmem)
  | value =>
      cases numbering with
      | undecided =>
          exact hallows.imp (fun hno hmem => hno (List.mem_cons_of_mem _ hmem))
            fun hall v hv => hall v (List.mem_cons_of_mem _ hv)
      | automatic n => exact fun v hv => hallows v (List.mem_cons_of_mem _ hv)
      | manual => exact fun hmem => hallows (List.mem_cons_of_mem _ hmem)

/-- The key that the check of a rule gives to a field. -/
def Numbering.key (numbering : Numbering) (w : Text) : Text :=
  if w.isEmpty then Text.ofNat numbering.count else w

theorem PlainField.isAccess (hw : PlainField w) : ∀ c ∈ w, isAccess c = false := fun c hc => by
  obtain ⟨hdot, hbracket, -⟩ := hw.bare c hc
  simp [Template.isAccess, hdot, hbracket]

/-- The whole text of a plain field is its first name. -/
theorem PlainField.takeWhile_eq (hw : PlainField w) :
    w.takeWhile (!Template.isAccess ·) = w :=
  List.takeWhile_eq_self_iff.2 fun c hc => by simp [hw.isAccess c hc]

theorem PlainField.key_mem_fieldKeys (hw : PlainField w) :
    numbering.key w ∈ Document.fieldKeys numbering.count (w :: names) := by
  rw [Document.fieldKeys, hw.takeWhile_eq, Numbering.key]
  split <;> exact List.mem_cons_self

/-- The check and filling number the fields alike. -/
theorem Finds.fieldKeys_eq (hw : PlainField w) (h : Finds f numbering w (found, after)) :
    Document.fieldKeys numbering.count (w :: names) =
      numbering.key w :: Document.fieldKeys after.count names := by
  rw [Document.fieldKeys, hw.takeWhile_eq]
  cases h with
  | next => rfl
  | numbered hne hdigits hmanual hfound =>
      have hcount : numbering.count = 0 := by cases numbering <;> cases hmanual <;> rfl
      have hempty : w.isEmpty = false := by simpa using hne
      simp [hempty, Numbering.key, hcount, show Numbering.manual.count = 0 from rfl]
  | value => rfl

theorem Finds.count_eq (h : Finds f numbering w (found, after)) :
    after.count + names.count [] = numbering.count + (w :: names).count [] := by
  cases h with
  | next => simp [Numbering.count]; omega
  | numbered hne hdigits hmanual hfound =>
      have hcount : numbering.count = 0 := by cases numbering <;> cases hmanual <;> rfl
      rw [List.count_cons_of_ne hne, hcount]
      rfl
  | value => rw [List.count_cons_of_ne (by decide)]

/-- What the check asks of the key of a plain field. -/
theorem PlainField.fills_key_iff (hw : PlainField w)
    (hcount : w = [] → numbering.count < 10 ^ Number.maxDigits) :
    Document.Fills groups (numbering.key w) ↔
      (w = [] ∧ numbering.count ≤ groups) ∨
      (w ≠ [] ∧ w.all Text.isAsciiDigit ∧ Text.digitsValue w ≤ groups) ∨
      w = "value".toList := by
  by_cases hempty : w = []
  · -- the number of an automatic field is read back from its digits
    subst hempty
    have hread := Number.readInt?_ofNat (hcount rfl)
    have hvalue : Text.ofNat numbering.count ≠ "value".toList := fun heq => by
      have hv : Text.isAsciiDigit 'v' :=
        Number.isAsciiDigit_of_mem_ofNat (by rw [heq]; exact List.mem_cons_self)
      exact absurd hv (by decide)
    have hkey : numbering.key [] = Text.ofNat numbering.count := rfl
    have hne : Text.ofNat numbering.count ≠ [] := Nat.toDigits_ne_nil
    have hdigits : (Text.ofNat numbering.count).all Text.isDigit := List.all_eq_true.2 fun c hc =>
      Text.isDigit_of_isAsciiDigit (Number.isAsciiDigit_of_mem_ofNat hc)
    rw [hkey, Document.Fills, hread, or_iff_right hvalue]
    simp [hne, hdigits]
  · have hkey : numbering.key w = w := by simp [Numbering.key, hempty]
    have hdigits : w.all Text.isDigit ↔ w.all Text.isAsciiDigit := by
      rw [List.all_eq_true, List.all_eq_true]
      exact forall₂_congr fun c hc => Text.isDigit_iff_of_ascii (hw.ascii c hc)
    rw [hkey, Document.Fills, hdigits]
    constructor
    · rintro (hvalue | ⟨hne, hall, n, hn, hle⟩)
      · exact .inr (.inr hvalue)
      · rw [Number.readInt?_of_ascii hne hall ((hw.short hall).trans (by decide))] at hn
        cases hn
        exact .inr (.inl ⟨hne, hall, by omega⟩)
    · rintro (⟨h, -⟩ | ⟨hne, hall, hle⟩ | hvalue)
      · exact absurd h hempty
      · refine .inr ⟨hne, hall, _, ?_, Int.ofNat_le.2 hle⟩
        exact Number.readInt?_of_ascii hne hall ((hw.short hall).trans (by decide))
      · exact .inl hvalue

/-- A field that has been found passes the check. -/
theorem Finds.fills {r : Text × Numbering} (hw : PlainField w) (h : Finds f numbering w r)
    (hcaptures : f.captures.length = groups + 1)
    (hcount : w = [] → numbering.count < 10 ^ Number.maxDigits) :
    Document.Fills groups (numbering.key w) := by
  have hbound {i : Nat} {found : Text} (hfound : f.captures[i]? = some found) : i ≤ groups := by
    obtain ⟨hlt, -⟩ := List.getElem?_eq_some_iff.1 hfound
    omega
  rw [hw.fills_key_iff hcount]
  cases h with
  | next hnext hfound => exact .inl ⟨rfl, hbound hfound⟩
  | numbered hne hdigits hmanual hfound => exact .inr (.inl ⟨hne, hdigits, hbound hfound⟩)
  | value => exact .inr (.inr rfl)

/-- A field that passes the check is found, if it goes together with the numbering. -/
theorem exists_finds (hw : PlainField w) (hallows : numbering.Allows (w :: names))
    (hcaptures : f.captures.length = groups + 1)
    (hcount : w = [] → numbering.count < 10 ^ Number.maxDigits)
    (hfills : Document.Fills groups (numbering.key w)) :
    ∃ found after, Finds f numbering w (found, after) := by
  have hfound {i : Nat} (hi : i ≤ groups) : ∃ found, f.captures[i]? = some found :=
    ⟨_, List.getElem?_eq_getElem (by omega)⟩
  rcases (hw.fills_key_iff hcount).1 hfills with ⟨rfl, hle⟩ | ⟨hne, hdigits, hle⟩ | rfl
  · obtain ⟨found, hfound⟩ := hfound hle
    refine ⟨found, _, .next ?_ hfound⟩
    cases numbering with
    | undecided | automatic => rfl
    | manual => exact absurd List.mem_cons_self hallows
  · obtain ⟨found, hfound⟩ := hfound hle
    refine ⟨found, _, .numbered hne hdigits ?_ hfound⟩
    cases numbering with
    | undecided | manual => rfl
    | automatic n => exact absurd (hallows w List.mem_cons_self hdigits) hne
  · exact ⟨f.value, numbering, .value⟩

variable {t u : Text}

/-- The check goes over the first field and then over the others. -/
theorem forall_fills_cons (hw : PlainField w) (h : Finds f numbering w (found, after)) :
    (∀ key ∈ Document.fieldKeys numbering.count (w :: names), Document.Fills groups key) ↔
      Document.Fills groups (numbering.key w) ∧
        ∀ key ∈ Document.fieldKeys after.count names, Document.Fills groups key := by
  rw [h.fieldKeys_eq hw, List.forall_mem_cons]

/-- Numbers for the fields without one do not run out before the first field. -/
theorem count_lt (hcount : numbering.count + (w :: names).count [] ≤ 10 ^ Number.maxDigits)
    (hw : w = []) : numbering.count < 10 ^ Number.maxDigits := by
  subst hw
  rw [List.count_cons_self] at hcount
  omega

/-- Text without braces is taken over. -/
theorem expands_append {captures : List Text} {value lit : Text} {n : Nat}
    (hlit : ∀ c ∈ lit, isBrace c = false) (h : Expands captures value n t u) :
    Expands captures value n (lit ++ t) (lit ++ u) := by
  induction lit with
  | nil => exact h
  | cons c lit ih =>
      rw [List.forall_mem_cons] at hlit
      have hc : c ≠ opening ∧ c ≠ closing := by
        rw [← not_or, ← isBrace_iff]
        simp [hlit.1]
      exact .char hc (ih hlit.2)

/-- A field is replaced by what it stands for. -/
theorem Finds.expands (h : Finds f numbering w (found, after))
    (hrest : Expands f.captures f.value after.count t u) :
    Expands f.captures f.value numbering.count (opening :: w ++ closing :: t) (found ++ u) := by
  cases h with
  | next hnext hfound => exact .next hfound hrest
  | numbered hne hdigits hmanual hfound =>
      have hcount : numbering.count = 0 := by cases numbering <;> cases hmanual <;> rfl
      exact .numbered hne hdigits hfound (hcount ▸ hrest)
  | value => exact .value hrest

/-! ### Plain templates -/

theorem Plain.allows (h : Plain t) : Numbering.undecided.Allows (fieldTexts none t) := by
  by_cases hmem : [] ∈ fieldTexts none t
  · exact .inr (h.unmixed hmem)
  · exact .inl hmem

/-- A plain template that can be read is cut. -/
theorem Plain.cut (h : Plain t) (hread : (read t).2 = none) : Cut t (read t).1 :=
  cut_of_readParts (Nat.lt_succ_self _) (Prod.ext rfl hread) fun w hw => (h.fields w hw).bare

/-! ### Filling -/

variable [Objects] [Room] {expand : Numbering → Text → Except Fault (Text × Numbering)}
  {parts : List Part}

theorem PlainField.fillField_eq (hw : PlainField w) :
    fillField expand f numbering { name := w } = f.lookup numbering w := by
  have hpath : w.dropWhile (!Template.isAccess ·) = [] :=
    List.dropWhile_eq_nil_iff.2 fun c hc => by simp [hw.isAccess c hc]
  have haccess (fuel : Nat) (v : Value Objects.Object) : access fuel v [] = .ok v := by
    cases fuel <;> rfl
  rw [fillField]
  simp only [hw.takeWhile_eq, hpath, haccess]
  cases f.lookup numbering w <;> rfl

/-- What the parts of a cut template are filled to can be told from its text. -/
theorem expands_of_fillParts (hcut : Cut t parts) (hplain : ∀ w ∈ fieldTexts none t, PlainField w)
    (h : fillParts expand f numbering parts = .ok (u, after)) :
    Expands f.captures f.value numbering.count t u := by
  rw [← hcut.names] at hplain
  induction hcut generalizing numbering u with
  | @last lit hlit =>
      have hu : u = lit := by
        split at h
        next hempty =>
            cases h
            exact (List.isEmpty_iff.1 hempty).symm
        next =>
            cases h
            exact List.append_nil lit
      have hnothing : Expands f.captures f.value numbering.count [] [] := .done
      have hdone := expands_append hlit hnothing
      rw [List.append_nil] at hdone
      exact hu ▸ hdone
  | @brace lit t c parts hlit hc hcut ih =>
      obtain ⟨⟨v, numbering'⟩, hrest, hu⟩ := bind_eq_ok.1 h
      cases hu
      rw [List.append_assoc, List.singleton_append]
      exact expands_append hlit (.brace (isBrace_iff.1 hc) (ih hplain hrest))
  | @field lit w t parts hlit hw hcut ih =>
      obtain ⟨⟨v, numbering'⟩, hfields, hu⟩ := bind_eq_ok.1 h
      obtain ⟨⟨found, next⟩, hfound, hv⟩ := bind_eq_ok.1 hfields
      obtain ⟨⟨rest, last⟩, hrest, hlast⟩ := bind_eq_ok.1 hv
      cases hu
      cases hlast
      have hplain' : PlainField w ∧ _ := List.forall_mem_cons.1 hplain
      rw [hplain'.1.fillField_eq, hplain'.1.lookup_eq_ok_iff] at hfound
      exact expands_append hlit (hfound.expands (ih hplain'.2 hrest))

/-- **The check is exact**, for the parts of a cut template. -/
theorem isOk_fillParts_iff (hcut : Cut t parts) (hplain : ∀ w ∈ fieldTexts none t, PlainField w)
    (hallows : numbering.Allows (fieldTexts none t))
    (hcaptures : f.captures.length = groups + 1)
    (hcount : numbering.count + (fieldTexts none t).count [] ≤ 10 ^ Number.maxDigits) :
    (∃ r, fillParts expand f numbering parts = .ok r) ↔
      ∀ key ∈ Document.fieldKeys numbering.count (fieldTexts none t),
        Document.Fills groups key := by
  rw [← hcut.names] at hplain hallows hcount ⊢
  induction hcut generalizing numbering with
  | @last lit hlit =>
      refine iff_of_true ?_ ?_
      · split
        · exact ⟨_, rfl⟩
        · exact ⟨_, rfl⟩
      · split <;> nofun
  | @brace lit t c parts hlit hc hcut ih =>
      refine Iff.trans ?_ (ih hplain hallows hcount)
      constructor
      · rintro ⟨r, hr⟩
        obtain ⟨rest, hrest, -⟩ := bind_eq_ok.1 hr
        exact ⟨rest, hrest⟩
      · rintro ⟨rest, hrest⟩
        exact ⟨_, bind_eq_ok.2 ⟨rest, hrest, rfl⟩⟩
  | @field lit w t parts hlit hw hcut ih =>
      have hplain' : PlainField w ∧ _ := List.forall_mem_cons.1 hplain
      have hnumber := count_lt hcount
      constructor
      · rintro ⟨r, hr⟩
        obtain ⟨filled, hfilled, -⟩ := bind_eq_ok.1 hr
        obtain ⟨⟨found, after⟩, hfound, hr⟩ := bind_eq_ok.1 hfilled
        obtain ⟨rest, hrest, -⟩ := bind_eq_ok.1 hr
        rw [hplain'.1.fillField_eq, hplain'.1.lookup_eq_ok_iff] at hfound
        refine (forall_fills_cons hplain'.1 hfound).2
          ⟨hfound.fills hplain'.1 hcaptures hnumber, ?_⟩
        refine (ih hplain'.2 (hfound.allows hallows) ?_).1 ⟨rest, hrest⟩
        rwa [hfound.count_eq]
      · intro hfills
        obtain ⟨found, after, hfound⟩ := exists_finds hplain'.1 hallows hcaptures hnumber
          (hfills _ hplain'.1.key_mem_fieldKeys)
        have hlater := ((forall_fills_cons hplain'.1 hfound).1 hfills).2
        obtain ⟨rest, hrest⟩ :=
          (ih hplain'.2 (hfound.allows hallows) (by rwa [hfound.count_eq])).2 hlater
        rw [← hplain'.1.lookup_eq_ok_iff, ← hplain'.1.fillField_eq] at hfound
        exact ⟨_, bind_eq_ok.2
          ⟨_, bind_eq_ok.2 ⟨_, hfound, bind_eq_ok.2 ⟨rest, hrest, rfl⟩⟩, rfl⟩⟩

/-- A template is filled if it can be read and its parts are filled. -/
theorem fill_eq_ok_iff :
    fill f t = .ok u ↔ (read t).2 = none ∧
      ∃ after, fillParts (fillTo f 1) f .undecided (read t).1 = .ok (u, after) := by
  rw [fill, maxDepth, fillTo]
  cases hparts : fillParts (fillTo f 1) f .undecided (read t).1 with
  | error fault => simp [hparts, Except.map]
  | ok r =>
      obtain ⟨v, after⟩ := r
      cases hfault : (read t).2 with
      | some fault => simp [hparts, hfault, Except.map]
      | none => simp [hparts, hfault, Except.map]

/-- A plain template is filled to what it says. -/
theorem Plain.expands (h : Plain t) (hfill : fill f t = .ok u) :
    Expands f.captures f.value 0 t u := by
  obtain ⟨hread, after, hparts⟩ := fill_eq_ok_iff.1 hfill
  exact expands_of_fillParts (h.cut hread) h.fields hparts

/-- **The check is exact.**  A plain template can be filled with a number of captures if and only if
it passes the check for the groups that give them. -/
theorem Plain.isOk_fill_iff (h : Plain t) (hcaptures : f.captures.length = groups + 1) :
    (∃ u, fill f t = .ok u) ↔ Document.TemplateFits groups t := by
  simp only [fill_eq_ok_iff, Document.TemplateFits]
  cases hread : read t with
  | mk parts fault =>
      cases fault with
      | some fault => simp [fieldNames, hread]
      | none =>
          have hcut : Cut t parts := by simpa [hread] using h.cut (by rw [hread])
          have hnames : fieldNames t = .ok (fieldTexts none t) := by
            rw [fieldNames, hread]
            exact congrArg Except.ok hcut.names
          have hiff : (∃ r, fillParts (fillTo f 1) f .undecided parts = .ok r) ↔ _ :=
            isOk_fillParts_iff hcut h.fields h.allows hcaptures
              (by simpa [Numbering.count] using h.few)
          simp only [hnames, true_and, Except.ok.injEq, exists_eq_left']
          refine Iff.trans ?_ hiff
          constructor
          · rintro ⟨u, after, hu⟩
            exact ⟨_, hu⟩
          · rintro ⟨r, hr⟩
            exact ⟨r.1, r.2, hr⟩

end

end UtilityCss.Template
