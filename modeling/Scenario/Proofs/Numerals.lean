import Mathlib.Data.List.Induction
import Mathlib.Data.Nat.Digits.Defs
import Scenario.Proofs.Spelling

/-! # Whole numerals

The language of the texts that convert to whole numbers, and the number each
stands for: blanks, at most one sign, at least one digit, blanks. Signs and
digits come in both widths, and any number of zeros may lead.
-/

namespace Scenario

namespace Text

/-- A sign as it may be typed, none included, and the factor it stands for. -/
inductive Sign : List Char → Int → Prop where
  | none : Sign [] 1
  | plus : Sign ['+'] 1
  | widePlus : Sign ['＋'] 1
  | hyphen : Sign ['-'] (-1)
  | wideHyphen : Sign ['－'] (-1)
  | minus : Sign ['−'] (-1)

/-- A digit as it may be typed, and its value. -/
inductive Digit : Char → Nat → Prop where
  | ascii {c : Char} {value : Nat} (small : value < 10) (code : c.toNat = '0'.toNat + value) :
      Digit c value
  | wide {c : Char} {value : Nat} (small : value < 10) (code : c.toNat = '０'.toNat + value) :
      Digit c value

/-- A whole number as it may be typed: a sign, then the decimal digits from the highest one down. -/
inductive Whole : List Char → Int → Prop where
  | intro {sign run : List Char} {factor : Int} {digits : List Nat} (signed : Sign sign factor)
      (typed : List.Forall₂ Digit run digits) (nonempty : digits ≠ []) :
      Whole (sign ++ run) (factor * (Nat.ofDigits 10 digits.reverse : Nat))

namespace Digit

theorem small {c : Char} {value : Nat} (digit : Digit c value) : value < 10 := by
  cases digit with
  | ascii small | wide small => exact small

theorem code {c : Char} {value : Nat} (digit : Digit c value) :
    c.toNat = 0x30 + value ∨ c.toNat = 0xFF10 + value := by
  cases digit with
  | ascii small code => exact .inl code
  | wide small code => exact .inr code

theorem isBlank_eq_false {c : Char} {value : Nat} (digit : Digit c value) : isBlank c = false := by
  apply isBlank_of_mark
  have small := digit.small
  have code := digit.code
  omega

theorem foldWidth_eq {c : Char} {value : Nat} (digit : Digit c value) :
    foldWidth c = Nat.digitChar value := by
  have small := digit.small
  have named := Nat.toNat_digitChar_of_lt_ten small
  rcases digit.code with ascii | wide
  · have same : c = Nat.digitChar value := Char.toNat_inj.mp (by omega)
    rw [foldWidth_ascii (by omega), same]
  · exact foldWidth_wide (isDigit_iff.mpr (by omega)) (by omega)

theorem isDigit {c : Char} {value : Nat} (digit : Digit c value) : (foldWidth c).isDigit := by
  rw [digit.foldWidth_eq, Nat.isDigit_digitChar]
  exact decide_eq_true digit.small

/-- No other characters become digits when widths are folded. -/
theorem of_isDigit {c : Char} (digit : (foldWidth c).isDigit) : ∃ value, Digit c value := by
  have spelled := spells_foldWidth c
  generalize foldWidth c = folded at digit spelled
  have range := isDigit_iff.mp digit
  cases spelled with
  | itself => exact ⟨c.toNat - 0x30, .ascii (by omega) (Nat.add_sub_of_le range.1).symm⟩
  | digit ascii code =>
      have above : 0xFF10 ≤ c.toNat := by omega
      exact ⟨c.toNat - 0xFF10, .wide (by omega) (Nat.add_sub_of_le above).symm⟩
  | plus | hyphen | minus | point => cases digit

end Digit

theorem map_foldWidth_digits {run : List Char} {digits : List Nat}
    (typed : List.Forall₂ Digit run digits) :
    run.map foldWidth = digits.map Nat.digitChar ∧ ∀ value ∈ digits, value < 10 := by
  induction typed with
  | nil => exact ⟨rfl, nofun⟩
  | cons first rest ih =>
      obtain ⟨same, small⟩ := ih
      rw [List.map_cons, List.map_cons, first.foldWidth_eq, same]
      exact ⟨rfl, List.forall_mem_cons.mpr ⟨first.small, small⟩⟩

theorem exists_digits {run : List Char} (digits : (run.map foldWidth).all Char.isDigit) :
    ∃ values, List.Forall₂ Digit run values := by
  induction run with
  | nil => exact ⟨[], .nil⟩
  | cons c rest ih =>
      rw [List.map_cons, List.all_cons, Bool.and_eq_true] at digits
      obtain ⟨value, first⟩ := Digit.of_isDigit digits.1
      obtain ⟨values, later⟩ := ih digits.2
      exact ⟨value :: values, .cons first later⟩

theorem digitsValue_map_digitChar {digits : List Nat} (small : ∀ value ∈ digits, value < 10) :
    digitsValue (digits.map Nat.digitChar) = Nat.ofDigits 10 digits.reverse := by
  -- the loop goes on at the end of the digits
  induction digits using List.reverseRecOn with
  | nil => rfl
  | append_singleton digits last ih =>
      have value := Nat.toNat_digitChar_of_lt_ten (small last (by simp))
      have front := ih fun value listed => small value (List.mem_append_left _ listed)
      rw [List.map_append, digitsValue, List.foldl_append, ← digitsValue, front,
        List.reverse_append, List.reverse_singleton, List.singleton_append, Nat.ofDigits_cons]
      simp only [List.map_cons, List.map_nil, List.foldl_cons, List.foldl_nil, value,
        Char.reduceToNat]
      omega

theorem natural?_eq_some_iff {run : List Char} {n : Nat} :
    natural? (run.map foldWidth) = some n ↔
      ∃ digits, List.Forall₂ Digit run digits ∧ digits ≠ [] ∧
        n = Nat.ofDigits 10 digits.reverse := by
  constructor
  · intro read
    unfold natural? at read
    split at read
    · next accepted =>
        rw [Bool.and_eq_true] at accepted
        obtain ⟨digits, typed⟩ := exists_digits accepted.2
        obtain ⟨same, small⟩ := map_foldWidth_digits typed
        refine ⟨digits, typed, ?_, ?_⟩
        · rintro rfl
          simp [same] at accepted
        · rw [same, digitsValue_map_digitChar small] at read
          exact (Option.some.inj read).symm
    · cases read
  · rintro ⟨digits, typed, nonempty, rfl⟩
    obtain ⟨same, small⟩ := map_foldWidth_digits typed
    have some : (digits.map Nat.digitChar).isEmpty = false := by simpa using nonempty
    have all : (digits.map Nat.digitChar).all Char.isDigit := by
      simp only [List.all_map, List.all_eq_true, Function.comp_apply, Nat.isDigit_digitChar]
      exact fun value listed => decide_eq_true (small value listed)
    rw [natural?, same, some, all, digitsValue_map_digitChar small]
    rfl

theorem integer?_of_splitSign {cs digits : List Char} {negative : Bool}
    (split : splitSign cs = (negative, digits)) :
    integer? cs = (natural? digits).map fun n : Nat => if negative then -(n : Int) else n := by
  rw [integer?, split]
  dsimp only
  cases natural? digits <;> rfl

theorem splitSign_of_no_sign {c : Char} (notHyphen : c ≠ '-') (notPlus : c ≠ '+')
    (rest : List Char) : splitSign (c :: rest) = (false, c :: rest) := by
  unfold splitSign
  split
  · next same => exact absurd (List.head_eq_of_cons_eq same) notHyphen
  · next same => exact absurd (List.head_eq_of_cons_eq same) notPlus
  · rfl

namespace Sign

theorem apply {sign : List Char} {factor : Int} (signed : Sign sign factor) (n : Nat) :
    (if decide (factor < 0) then -(n : Int) else n) = factor * n := by
  cases signed <;> simp

theorem splitSign_eq {sign run : List Char} {factor : Int} {digits : List Nat}
    (signed : Sign sign factor) (typed : List.Forall₂ Digit run digits) :
    splitSign ((sign ++ run).map foldWidth) = (decide (factor < 0), run.map foldWidth) := by
  cases signed with
  | none =>
      cases typed with
      | nil => rfl
      | cons first rest =>
          -- a digit is not taken for a sign
          apply splitSign_of_no_sign
          · intro hyphen
            cases hyphen ▸ first.isDigit
          · intro plus
            cases plus ▸ first.isDigit
  | plus | widePlus | hyphen | wideHyphen | minus => rfl

/-- Every text has a sign in front, where none counts as one. -/
theorem exists_split (cs : List Char) :
    ∃ sign run factor, cs = sign ++ run ∧ Sign sign factor ∧
      splitSign (cs.map foldWidth) = (decide (factor < 0), run.map foldWidth) := by
  cases cs with
  | nil => exact ⟨[], [], 1, rfl, .none, rfl⟩
  | cons c rest =>
      have spelled := spells_foldWidth c
      rw [List.map_cons]
      by_cases hyphen : foldWidth c = '-'
      · rw [hyphen] at spelled ⊢
        cases spelled with
        | itself => exact ⟨['-'], rest, -1, rfl, .hyphen, rfl⟩
        | hyphen => exact ⟨['－'], rest, -1, rfl, .wideHyphen, rfl⟩
        | minus => exact ⟨['−'], rest, -1, rfl, .minus, rfl⟩
        | digit ascii => cases ascii
      · by_cases plus : foldWidth c = '+'
        · rw [plus] at spelled ⊢
          cases spelled with
          | itself => exact ⟨['+'], rest, 1, rfl, .plus, rfl⟩
          | plus => exact ⟨['＋'], rest, 1, rfl, .widePlus, rfl⟩
          | digit ascii => cases ascii
        · exact ⟨[], c :: rest, 1, rfl, .none, splitSign_of_no_sign hyphen plus _⟩

end Sign

theorem integer?_eq_some_iff {cs : List Char} {i : Int} :
    integer? (cs.map foldWidth) = some i ↔ Whole cs i := by
  constructor
  · intro read
    obtain ⟨sign, run, factor, rfl, signed, split⟩ := Sign.exists_split cs
    rw [integer?_of_splitSign split, Option.map_eq_some_iff] at read
    obtain ⟨n, digits, rfl⟩ := read
    obtain ⟨digits, typed, nonempty, rfl⟩ := natural?_eq_some_iff.mp digits
    rw [signed.apply]
    exact .intro signed typed nonempty
  · rintro ⟨signed, typed, nonempty⟩
    rw [integer?_of_splitSign (signed.splitSign_eq typed),
      natural?_eq_some_iff.mpr ⟨_, typed, nonempty, rfl⟩, Option.map_some, signed.apply]

theorem Whole.trim_eq {cs : List Char} {i : Int} (whole : Whole cs i) : trim cs = cs := by
  obtain ⟨signed, typed, -⟩ := whole
  apply trim_of_unblank
  rw [List.forall_mem_append]
  constructor
  · cases signed with
    | none => exact nofun
    | plus | widePlus | hyphen | wideHyphen | minus =>
        exact List.forall_mem_singleton.mpr (by decide)
  · induction typed with
    | nil => exact nofun
    | cons first rest ih => exact List.forall_mem_cons.mpr ⟨first.isBlank_eq_false, ih⟩

/-- The texts that are read as whole numbers are those of the language, blanks at the ends apart. -/
theorem integer?_numeral_eq_some_iff {text : String} {i : Int} :
    integer? (numeral text) = some i ↔ ∃ body, Padded body text.toList ∧ Whole body i := by
  rw [numeral, integer?_eq_some_iff]
  constructor
  · intro whole
    exact ⟨trim text.toList, padded_trim text.toList, whole⟩
  · rintro ⟨body, padded, whole⟩
    rw [trim_padded padded, whole.trim_eq]
    exact whole

end Text

/-- A text converts to a whole number exactly if it is one sign at most and one digit at least, in
    any widths and with any blanks at its ends, and the signed decimal value is a word: then it
    converts to that. So each word is read back from its decimal digits, whatever zeros lead them
    and however they and the sign are typed. -/
theorem Kind.coerce_int_text (text : String) :
    (∀ arg, Kind.int.coerce? (.string text) = some arg ↔
      ∃ word : Word, arg = .int word ∧
        ∃ body, Text.Padded body text.toList ∧ Text.Whole body word.value) ∧
    ∀ (word : Word) (factor : Int) (sign run : List Char) (zeros : Nat),
      Text.Sign sign factor → factor * word.value.natAbs = word.value →
      List.Forall₂ Text.Digit run
        (List.replicate zeros 0 ++ (Nat.digits 10 word.value.natAbs).reverse) →
      run ≠ [] → Text.Padded (sign ++ run) text.toList →
      Kind.int.coerce? (.string text) = some (.int word) := by
  have converts (arg : Arg) : Kind.int.coerce? (.string text) = some arg ↔
      ∃ word : Word, arg = .int word ∧
        ∃ body, Text.Padded body text.toList ∧ Text.Whole body word.value := by
    rw [Kind.coerce?_int_eq_some_iff]
    apply exists_congr
    intro word
    rw [Json.toWord?, Option.bind_eq_some_iff, and_comm, eq_comm]
    simp only [Word.ofInt?_eq_some_iff, exists_eq_right', Text.integer?_numeral_eq_some_iff]
  refine ⟨converts, ?_⟩
  intro word factor sign run zeros signed value typed nonempty padded
  apply (converts _).mpr
  refine ⟨word, rfl, sign ++ run, padded, ?_⟩
  have digits : List.replicate zeros 0 ++ (Nat.digits 10 word.value.natAbs).reverse ≠ [] := by
    intro empty
    rw [empty] at typed
    cases typed
    exact nonempty rfl
  have whole := Text.Whole.intro signed typed digits
  rw [List.reverse_append, List.reverse_reverse, List.reverse_replicate,
    Nat.ofDigits_append_replicate_zero, Nat.ofDigits_digits, value] at whole
  exact whole

theorem Kind.coerce_int_mixed_widths :
    Kind.int.coerce? (.string "　−0４2\n") = some (.int ⟨-42, by decide⟩) := by
  refine (Kind.coerce_int_text _).2 ⟨-42, by decide⟩ (-1) ['−'] "0４2".toList 1 .minus rfl ?_
    (by decide) ⟨['　'], ['\n'], by decide, List.forall_mem_singleton.mpr (by decide),
      List.forall_mem_singleton.mpr (by decide)⟩
  have digits : Nat.digits 10 (Int.natAbs (-42)) = [2, 4] := by norm_num
  rw [digits]
  exact .cons (.ascii (by decide) (by decide)) (.cons (.wide (by decide) (by decide))
    (.cons (.ascii (by decide) (by decide)) .nil))

end Scenario
