import Mathlib.Data.List.Basic
import Scenario.Discovery
import Scenario.Dispatch.Error

/-! # Quoted texts

A quoted text ends where its quotation mark says, and no two texts are quoted alike,
so a message that quotes a name is about that name and no other.
-/

namespace Scenario

namespace Text

/-! ## Digits -/

/-- A run ends at the first character that is not in it. -/
theorem run_cancel {run other rest later : List Char} {stop : Char} (outside : stop ∉ run)
    (outsideOther : stop ∉ other) (same : run ++ stop :: rest = other ++ stop :: later) :
    run = other ∧ rest = later := by
  induction run generalizing other with
  | nil =>
      cases other with
      | nil => exact ⟨rfl, List.tail_eq_of_cons_eq same⟩
      | cons d more =>
          exact absurd (List.head_eq_of_cons_eq same) (List.ne_of_not_mem_cons outsideOther)
  | cons c run ih =>
      cases other with
      | nil =>
          exact absurd (List.head_eq_of_cons_eq same).symm (List.ne_of_not_mem_cons outside)
      | cons d more =>
          obtain ⟨first, others⟩ := List.cons.inj same
          obtain ⟨run, after⟩ := ih (List.not_mem_of_not_mem_cons outside)
            (List.not_mem_of_not_mem_cons outsideOther) others
          exact ⟨List.cons_eq_cons.mpr ⟨first, run⟩, after⟩

variable {base : Nat}

theorem mem_toDigits (more : 1 < base) {n : Nat} {c : Char} (member : c ∈ Nat.toDigits base n) :
    ∃ d < base, c = d.digitChar := by
  induction n using Nat.strongRecOn with
  | ind n ih =>
      by_cases small : n < base
      · rw [Nat.toDigits_of_lt_base small, List.mem_singleton] at member
        exact ⟨n, small, member⟩
      · have above : base ≤ n := Nat.le_of_not_lt small
        rw [Nat.toDigits_of_base_le more above, List.mem_append, List.mem_singleton] at member
        rcases member with higher | last
        · exact ih _ (Nat.div_lt_self (by omega) more) higher
        · exact ⟨n % base, Nat.mod_lt n (by omega), last⟩

theorem digitChar_injOn : ∀ d < 16, ∀ e < 16, d.digitChar = e.digitChar → d = e := by
  decide

/-- Different numbers have different digits, up to base 16. -/
theorem toDigits_injective (more : 1 < base) (upTo : base ≤ 16) {n m : Nat}
    (same : Nat.toDigits base n = Nat.toDigits base m) : n = m := by
  have digit {d e : Nat} (small : d < base) (smallOther : e < base)
      (same : d.digitChar = e.digitChar) : d = e :=
    digitChar_injOn d (Nat.lt_of_lt_of_le small upTo) e (Nat.lt_of_lt_of_le smallOther upTo) same
  induction n using Nat.strongRecOn generalizing m with
  | ind n ih =>
      have several {k : Nat} (above : base ≤ k) (d : Char) : Nat.toDigits base k ≠ [d] := by
        rw [Nat.toDigits_of_base_le more above]
        intro single
        rcases List.append_eq_singleton_iff.mp single with ⟨empty, -⟩ | ⟨-, empty⟩
        · exact Nat.toDigits_ne_nil empty
        · cases empty
      rcases Nat.lt_or_ge n base with small | above <;>
        rcases Nat.lt_or_ge m base with smallOther | aboveOther
      · rw [Nat.toDigits_of_lt_base small, Nat.toDigits_of_lt_base smallOther] at same
        exact digit small smallOther (List.singleton_inj.mp same)
      · rw [Nat.toDigits_of_lt_base small] at same
        exact absurd same.symm (several aboveOther _)
      · rw [Nat.toDigits_of_lt_base smallOther] at same
        exact absurd same (several above _)
      · rw [Nat.toDigits_of_base_le more above, Nat.toDigits_of_base_le more aboveOther] at same
        obtain ⟨higher, last⟩ := List.append_inj' same rfl
        have quotient := ih _ (Nat.div_lt_self (by omega) more) higher
        have remainder := digit (Nat.mod_lt n (by omega)) (Nat.mod_lt m (by omega))
          (List.singleton_inj.mp last)
        rw [← Nat.div_add_mod n base, ← Nat.div_add_mod m base, quotient, remainder]

/-- Digits up to a character that is none are those of one number. -/
theorem toDigits_cancel (more : 1 < base) (upTo : base ≤ 16) {n m : Nat} {stop : Char}
    {rest later : List Char} (noDigit : ∀ d < 16, Nat.digitChar d ≠ stop)
    (same : Nat.toDigits base n ++ stop :: rest = Nat.toDigits base m ++ stop :: later) :
    n = m ∧ rest = later := by
  have outside (k : Nat) : stop ∉ Nat.toDigits base k := by
    intro member
    obtain ⟨d, small, isDigit⟩ := mem_toDigits more member
    exact noDigit d (Nat.lt_of_lt_of_le small upTo) isDigit.symm
  obtain ⟨digits, after⟩ := run_cancel (outside n) (outside m) same
  exact ⟨toDigits_injective more upTo digits, after⟩

/-- A number ends at the space after it. -/
theorem number_cancel {n m : Nat} {rest later : String}
    (same : toString n ++ (" " ++ rest) = toString m ++ (" " ++ later)) : n = m ∧ rest = later := by
  have chars := congrArg String.toList same
  rw [Nat.toString_eq_ofList_toDigits, Nat.toString_eq_ofList_toDigits] at chars
  simp only [String.toList_append, String.toList_ofList] at chars
  obtain ⟨numbers, after⟩ := toDigits_cancel (by decide) (by decide) (by decide) chars
  exact ⟨numbers, String.toList_inj.mp after⟩

/-! ## Characters -/

/-- What a letter after a backslash stands for. -/
def meant? : Char → Option Char
  | '0' => some '\x00'
  | 't' => some '\t'
  | 'r' => some '\r'
  | 'n' => some '\n'
  | '"' => some '"'
  | '\\' => some '\\'
  | _ => none

/-- The ways in which a character is quoted: as itself, by a letter or by its code. -/
inductive QuotedAs : Char → List Char → Prop where
  | plain {c : Char} (noMark : c ≠ '"') (noSlash : c ≠ '\\') : QuotedAs c [c]
  | letter {c letter : Char} (stands : meant? letter = some c) : QuotedAs c ['\\', letter]
  | code {c : Char} : QuotedAs c (spelledOut c)

theorem quotedAs_quotedChar (c : Char) : QuotedAs c (quotedChar c) := by
  unfold quotedChar
  split
  case h_7 noMark noSlash =>
    split
    · exact .plain noMark noSlash
    · exact .code
  all_goals exact .letter rfl

theorem spelledOut_cancel {c d : Char} {rest later : List Char}
    (same : spelledOut c ++ rest = spelledOut d ++ later) : c = d ∧ rest = later := by
  simp only [spelledOut, hex, List.cons_append, List.nil_append, List.append_assoc,
    List.cons.injEq, true_and] at same
  obtain ⟨code, after⟩ := toDigits_cancel (by decide) (by decide) (by decide) same
  exact ⟨Char.toNat_inj.mp code, after⟩

/-- How a character is quoted says where it ends. -/
theorem QuotedAs.cancel {c d : Char} {cs ds rest later : List Char} (quoted : QuotedAs c cs)
    (other : QuotedAs d ds) (same : cs ++ rest = ds ++ later) : c = d ∧ rest = later := by
  have notCode {letter e : Char} (stands : meant? letter = some e) : letter ≠ 'u' := by
    rintro rfl
    cases stands
  cases quoted with
  | plain noMark noSlash =>
      cases other with
      | plain => exact List.cons.inj same
      | letter => exact absurd (List.head_eq_of_cons_eq same) noSlash
      | code => exact absurd (List.head_eq_of_cons_eq same) noSlash
  | letter stands =>
      cases other with
      | plain noMark noSlash => exact absurd (List.head_eq_of_cons_eq same).symm noSlash
      | letter standsOther =>
          obtain ⟨-, same⟩ := List.cons.inj same
          obtain ⟨rfl, after⟩ := List.cons.inj same
          exact ⟨Option.some.inj (stands.symm.trans standsOther), after⟩
      | code =>
          exact absurd (List.head_eq_of_cons_eq (List.tail_eq_of_cons_eq same)) (notCode stands)
  | code =>
      cases other with
      | plain noMark noSlash => exact absurd (List.head_eq_of_cons_eq same).symm noSlash
      | letter stands =>
          exact absurd (List.head_eq_of_cons_eq (List.tail_eq_of_cons_eq same)).symm
            (notCode stands)
      | code => exact spelledOut_cancel same

/-- No quoted character begins with a quotation mark. -/
theorem QuotedAs.ne_mark {c : Char} {cs rest later : List Char} (quoted : QuotedAs c cs) :
    cs ++ rest ≠ '"' :: later := by
  intro same
  cases quoted with
  | plain noMark => exact noMark (List.head_eq_of_cons_eq same)
  | letter | code => cases List.head_eq_of_cons_eq same

/-! ## Texts -/

theorem quotedChars_cancel {text other rest later : List Char}
    (same : text.flatMap quotedChar ++ '"' :: rest = other.flatMap quotedChar ++ '"' :: later) :
    text = other ∧ rest = later := by
  induction text generalizing other with
  | nil =>
      cases other with
      | nil => exact ⟨rfl, List.tail_eq_of_cons_eq same⟩
      | cons d more =>
          rw [List.flatMap_cons, List.append_assoc] at same
          exact absurd same.symm (quotedAs_quotedChar d).ne_mark
  | cons c text ih =>
      rw [List.flatMap_cons, List.append_assoc] at same
      cases other with
      | nil => exact absurd same (quotedAs_quotedChar c).ne_mark
      | cons d more =>
          rw [List.flatMap_cons, List.append_assoc] at same
          obtain ⟨first, others⟩ := (quotedAs_quotedChar c).cancel (quotedAs_quotedChar d) same
          obtain ⟨texts, after⟩ := ih others
          exact ⟨List.cons_eq_cons.mpr ⟨first, texts⟩, after⟩

/-- A quoted text says what it quotes and where it ends, whatever comes after it. -/
theorem quoted_cancel {text other rest later : String}
    (same : quoted text ++ rest = quoted other ++ later) : text = other ∧ rest = later := by
  have chars := congrArg String.toList same
  simp only [quoted, String.toList_append, String.toList_ofList, List.cons_append,
    List.append_assoc, List.nil_append, List.cons.injEq, true_and] at chars
  obtain ⟨texts, after⟩ := quotedChars_cancel chars
  exact ⟨String.toList_inj.mp texts, String.toList_inj.mp after⟩

/-- A text whose characters all show and need no backslash stands in quotation marks as it is. -/
theorem quoted_of_plain {text : String} (plain : ∀ c ∈ text.toList,
    isPrintable c = true ∧ isExtending c = false ∧ c ≠ '"' ∧ c ≠ '\\') :
    quoted text = "\"" ++ text ++ "\"" := by
  have own : ∀ c ∈ text.toList, quotedChar c = [c] := by
    intro c member
    obtain ⟨shows, alone, noMark, noSlash⟩ := plain c member
    unfold quotedChar
    split
    case h_7 =>
      rw [shows, alone]
      rfl
    case h_5 => exact absurd rfl noMark
    case h_6 => exact absurd rfl noSlash
    all_goals exact absurd shows (by decide)
  rw [← String.toList_inj, quoted, List.flatMap_congr own]
  simp

end Text

/-! ## Messages -/

/-- The message for a speaker with nothing to say is about that speaker. -/
theorem DispatchError.message_missingText_inj {speaker other : String} :
    (missingText speaker).message = (missingText other).message ↔ speaker = other := by
  constructor
  · intro same
    have text : "dialogue for speaker " ++ Text.quoted speaker ++ " has no text in arg1" =
        "dialogue for speaker " ++ Text.quoted other ++ " has no text in arg1" := same
    rw [String.append_assoc, String.append_assoc, String.append_right_inj] at text
    exact (Text.quoted_cancel text).1
  · rintro rfl
    rfl

theorem Report.logEntry_text (report : Report) :
    report.logEntry.text = "discovered unknown opcode " ++ (Text.quoted report.opcode ++
      (" at command #" ++ (toString report.firstIndex ++ (" " ++
        ("with " ++ (toString report.arity ++ (" " ++ "argument(s)"))))))) := by
  rw [logEntry, LogEntry.debug]
  simp only [String.append_assoc]
  rfl

/-- The log entry for an unknown name is about that name, its first use and its arity. -/
theorem Report.logEntry_inj {report other : Report} :
    report.logEntry = other.logEntry ↔ report.opcode = other.opcode ∧
      report.firstIndex = other.firstIndex ∧ report.arity = other.arity := by
  constructor
  · intro same
    have text := congrArg LogEntry.text same
    simp only [logEntry_text, String.append_right_inj] at text
    obtain ⟨opcode, numbers⟩ := Text.quoted_cancel text
    rw [String.append_right_inj] at numbers
    obtain ⟨first, counts⟩ := Text.number_cancel numbers
    rw [String.append_right_inj] at counts
    exact ⟨opcode, first, (Text.number_cancel counts).1⟩
  · rintro ⟨opcode, first, arity⟩
    rw [logEntry, logEntry, opcode, first, arity]

end Scenario
