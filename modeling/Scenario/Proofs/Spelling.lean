import Mathlib.Data.List.Forall2
import Mathlib.Data.List.TakeWhile
import Scenario.Proofs.Truncation

/-! # Spellings of numerals

Digits, signs and points may be typed in full width, and blanks may stand at
either end. Blanks are taken off before the widths are folded, which makes no
difference: no character becomes a blank, or stops being one, by another width.
-/

namespace Scenario

namespace Text

/-- The second character stands for the first: it is the same, or the full-width counterpart of an
    ASCII digit, sign or point. -/
inductive Spells : Char → Char → Prop where
  | itself (c : Char) : Spells c c
  | digit {c wide : Char} (ascii : c.isDigit) (code : wide.toNat = c.toNat + 0xFEE0) : Spells c wide
  | plus : Spells '+' '＋'
  | hyphen : Spells '-' '－'
  | minus : Spells '-' '−'
  | point : Spells '.' '．'

/-- The second text is the first with blanks around it. -/
def Padded (body text : List Char) : Prop :=
  ∃ before after, text = before ++ body ++ after ∧ (∀ c ∈ before, isBlank c) ∧
    ∀ c ∈ after, isBlank c

/-- The second text spells the first one out, with blanks around it. -/
def Respells (text typed : String) : Prop :=
  ∃ body, List.Forall₂ Spells text.toList body ∧ Padded body typed.toList

theorem trim_append_left {before : List Char} (blank : ∀ c ∈ before, isBlank c) (rest : List Char) :
    trim (before ++ rest) = trim rest := by
  rw [trim, trim, List.dropWhile_append_of_pos blank]

theorem trim_append_right {after : List Char} (blank : ∀ c ∈ after, isBlank c) (body : List Char) :
    trim (body ++ after) = trim body := by
  have blank' : ∀ c ∈ after.reverse, isBlank c := fun c listed =>
    blank c (List.mem_reverse.mp listed)
  rw [trim, trim, List.dropWhile_append]
  split
  · next empty =>
      rw [List.isEmpty_iff.mp empty, List.dropWhile_eq_nil_iff.mpr blank]
  · rw [List.reverse_append, List.dropWhile_append_of_pos blank']

theorem trim_of_unblank {cs : List Char} (unblank : ∀ c ∈ cs, isBlank c = false) :
    trim cs = cs := by
  have whole (part : List Char) (unblank : ∀ c ∈ part, isBlank c = false) :
      part.dropWhile isBlank = part := by
    cases part with
    | nil => rfl
    | cons c rest => simp [unblank c]
  rw [trim, whole cs unblank, whole cs.reverse (by simpa using unblank), List.reverse_reverse]

theorem trim_padded {body text : List Char} (padded : Padded body text) :
    trim text = trim body := by
  obtain ⟨before, after, rfl, blankBefore, blankAfter⟩ := padded
  rw [trim_append_right blankAfter, trim_append_left blankBefore]

theorem padded_trim (text : List Char) : Padded (trim text) text := by
  let rest := text.dropWhile isBlank
  refine ⟨text.takeWhile isBlank, (rest.reverse.takeWhile isBlank).reverse, ?_, ?_, ?_⟩
  · have tail : rest = trim text ++ (rest.reverse.takeWhile isBlank).reverse := by
      rw [trim, ← List.reverse_append, List.takeWhile_append_dropWhile, List.reverse_reverse]
    rw [List.append_assoc, ← tail, List.takeWhile_append_dropWhile]
  · exact fun c listed => List.mem_takeWhile_imp listed
  · exact fun c listed => List.mem_takeWhile_imp (List.mem_reverse.mp listed)

/-- Neither the ASCII marks nor their full-width counterparts are blanks. -/
theorem isBlank_of_mark {c : Char} (mark : 0x20 < c.toNat ∧ c.toNat < 0x7F ∨ 0xFF00 < c.toNat) :
    isBlank c = false := by
  simp only [isBlank, Bool.or_eq_false_iff, Bool.and_eq_false_iff, decide_eq_false_iff_not,
    beq_eq_false_iff_ne]
  omega

theorem isDigit_iff {c : Char} : c.isDigit ↔ 0x30 ≤ c.toNat ∧ c.toNat ≤ 0x39 :=
  Char.isDigit_iff_toNat

theorem foldWidth_wide {c wide : Char} (ascii : c.isDigit) (code : wide.toNat = c.toNat + 0xFEE0) :
    foldWidth wide = c := by
  have range := isDigit_iff.mp ascii
  have inside : 0xFF10 ≤ wide.toNat ∧ wide.toNat ≤ 0xFF19 := by omega
  have same : wide.toNat - 0xFF10 + '0'.toNat = c.toNat := by
    rw [show '0'.toNat = 0x30 from rfl]
    omega
  unfold foldWidth
  dsimp only
  rw [if_pos inside, same, Char.ofNat_toNat]

theorem foldWidth_ascii {c : Char} (ascii : c.toNat < 0x80) : foldWidth c = c := by
  unfold foldWidth
  dsimp only
  rw [if_neg (by omega), if_neg (by omega), if_neg (by omega), if_neg (by omega)]

namespace Spells

theorem isBlank_eq {c typed : Char} (spelled : Spells c typed) : isBlank typed = isBlank c := by
  cases spelled with
  | itself => rfl
  | digit ascii code =>
      have range := isDigit_iff.mp ascii
      have narrow : isBlank c = false := isBlank_of_mark (.inl (by omega))
      have wide : isBlank typed = false := isBlank_of_mark (.inr (by omega))
      rw [narrow, wide]
  | plus | hyphen | minus | point => decide

theorem foldWidth_eq {c typed : Char} (spelled : Spells c typed) :
    foldWidth typed = foldWidth c := by
  cases spelled with
  | itself => rfl
  | digit ascii code =>
      have range := isDigit_iff.mp ascii
      rw [foldWidth_wide ascii code, foldWidth_ascii (by omega)]
  | plus | hyphen | minus | point => decide

end Spells

/-- Folding undoes a spelling, and does no more. -/
theorem spells_foldWidth (c : Char) : Spells (foldWidth c) c := by
  unfold foldWidth
  dsimp only
  -- each branch of the folding undoes one rule
  split
  · next inside =>
      have codes : ∀ value < 10, (Char.ofNat (value + '0'.toNat)).toNat = value + 0x30 := by
        decide
      have code := codes (c.toNat - 0xFF10) (by omega)
      exact .digit (isDigit_iff.mpr (by omega)) (by omega)
  · split
    · next dash =>
        rcases dash with hyphen | minus
        · cases Char.toNat_inj.mp (hyphen.trans (show 0xFF0D = '－'.toNat by decide))
          exact .hyphen
        · cases Char.toNat_inj.mp (minus.trans (show 0x2212 = '−'.toNat by decide))
          exact .minus
    · split
      · next plus =>
          cases Char.toNat_inj.mp (plus.trans (show 0xFF0B = '＋'.toNat by decide))
          exact .plus
      · split
        · next point =>
            cases Char.toNat_inj.mp (point.trans (show 0xFF0E = '．'.toNat by decide))
            exact .point
        · exact .itself c

theorem forall₂_dropWhile {cs typed : List Char} (spelled : List.Forall₂ Spells cs typed) :
    List.Forall₂ Spells (cs.dropWhile isBlank) (typed.dropWhile isBlank) := by
  induction spelled with
  | nil => exact .nil
  | cons first rest ih =>
      simp only [List.dropWhile_cons, first.isBlank_eq]
      split
      · exact ih
      · exact .cons first rest

theorem forall₂_trim {cs typed : List Char} (spelled : List.Forall₂ Spells cs typed) :
    List.Forall₂ Spells (trim cs) (trim typed) :=
  List.rel_reverse (forall₂_dropWhile (List.rel_reverse (forall₂_dropWhile spelled)))

theorem map_foldWidth {cs typed : List Char} (spelled : List.Forall₂ Spells cs typed) :
    typed.map foldWidth = cs.map foldWidth := by
  induction spelled with
  | nil => rfl
  | cons first rest ih => rw [List.map_cons, List.map_cons, first.foldWidth_eq, ih]

theorem numeral_eq {text typed : String} (respelled : Respells text typed) :
    numeral typed = numeral text := by
  obtain ⟨body, spelled, padded⟩ := respelled
  rw [numeral, numeral, trim_padded padded, map_foldWidth (forall₂_trim spelled)]

end Text

/-- Numeric texts convert alike in every spelling: with digits, signs and points in either width,
    and with blanks at the ends or none. -/
theorem Kind.coerce_respelled {text typed : String} (respelled : Text.Respells text typed) :
    Kind.float.coerce? (.string typed) = Kind.float.coerce? (.string text) ∧
      Kind.int.coerce? (.string typed) = Kind.int.coerce? (.string text) := by
  have same := Text.numeral_eq respelled
  constructor
  · simp only [coerce?, Json.toDouble?, same]
  · simp only [coerce?, Json.toWord?, same]

/-- A text with an exponent, typed in full width apart from one digit and the letter. -/
theorem Kind.coerce_wide_exponent :
    Text.Respells "-12.5e+1" "　−１2．５e＋１\n" ∧
      Kind.float.coerce? (.string "　−１2．５e＋１\n") =
        some (.float (.finite ⟨true, 0x1F400000000000, -46, by decide⟩)) ∧
      Kind.int.coerce? (.string "　−１2．５e＋１\n") = none := by
  have respelled : Text.Respells "-12.5e+1" "　−１2．５e＋１\n" := by
    refine ⟨"−１2．５e＋１".toList, ?_, ['　'], ['\n'], by decide,
      List.forall_mem_singleton.mpr (by decide), List.forall_mem_singleton.mpr (by decide)⟩
    exact .cons .minus (.cons (.digit (by decide) (by decide)) (.cons (.itself _)
      (.cons .point (.cons (.digit (by decide) (by decide)) (.cons (.itself _) (.cons .plus
        (.cons (.digit (by decide) (by decide)) .nil)))))))
  obtain ⟨float, int⟩ := Kind.coerce_respelled respelled
  exact ⟨respelled, by rw [float]; rfl, by rw [int]; rfl⟩

end Scenario
