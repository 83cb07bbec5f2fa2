import Scenario.Stubs

/-! # One stub, one line

The compact form of a value has no control characters: numbers and words have
none, and in strings and keys they are spelled out. So nothing observed ends the
line of a stub. Only the opcode name, which is written as it is, can do that.
-/

namespace Scenario

namespace Text

/-- No control characters, and so no line ends. -/
def Unbroken (chars : List Char) : Prop :=
  ∀ c ∈ chars, ' ' ≤ c

@[simp] theorem unbroken_nil : Unbroken [] := nofun

@[simp] theorem unbroken_cons {c : Char} {rest : List Char} :
    Unbroken (c :: rest) ↔ ' ' ≤ c ∧ Unbroken rest :=
  List.forall_mem_cons

@[simp] theorem unbroken_append {before later : List Char} :
    Unbroken (before ++ later) ↔ Unbroken before ∧ Unbroken later :=
  List.forall_mem_append

theorem Unbroken.sublist {part chars : List Char} (unbroken : Unbroken chars)
    (within : part.Sublist chars) : Unbroken part :=
  fun c member => unbroken c (within.subset member)

theorem Unbroken.flatMap {α : Type} {items : List α} {chars : α → List Char}
    (each : ∀ item ∈ items, Unbroken (chars item)) : Unbroken (items.flatMap chars) := by
  intro c member
  obtain ⟨item, listed, inside⟩ := List.mem_flatMap.mp member
  exact each item listed c inside

theorem Unbroken.intercalate {between : List Char} {parts : List (List Char)}
    (unbroken : Unbroken between) (each : ∀ part ∈ parts, Unbroken part) :
    Unbroken (between.intercalate parts) := by
  induction parts with
  | nil => exact unbroken_nil
  | cons part rest ih =>
      obtain ⟨first, later⟩ := List.forall_mem_cons.mp each
      cases rest with
      | nil => simpa using first
      | cons next more => simp [List.intercalate_cons_cons, first, unbroken, ih later]

theorem Unbroken.count_lineEnd {chars : List Char} (unbroken : Unbroken chars) :
    chars.count '\n' = 0 := by
  apply List.count_eq_zero.mpr
  intro member
  exact absurd (unbroken '\n' member) (by decide)

@[simp] theorem unbroken_toDigits (n : Nat) : Unbroken (Nat.toDigits 10 n) := by
  intro c member
  have digit := Nat.isDigit_of_mem_toDigits (by decide) (by decide) member
  simp only [Char.isDigit, Bool.and_eq_true, decide_eq_true_eq] at digit
  exact Nat.le_trans (by decide) digit.1

@[simp] theorem unbroken_int (i : Int) : Unbroken i.repr.toList := by
  cases i with
  | ofNat n =>
      have unsigned : (Int.ofNat n).repr = n.repr := rfl
      rw [unsigned]
      simp
  | negSucc n =>
      have signed : (Int.negSucc n).repr = "-" ++ (n + 1).repr := rfl
      simp [signed]

end Text

open Text (Unbroken unbroken_nil unbroken_append)

namespace Binary64.Layout

theorem zeros_unbroken (n : Int) : Unbroken (zeros n).toList := by
  intro c member
  rw [zeros, String.toList_ofList] at member
  rw [(List.mem_replicate.mp member).2]
  decide

theorem position_unbroken (layout : Layout) {digits : List Char} (unbroken : Unbroken digits)
    (point : Int) : Unbroken (layout.position digits point).toList := by
  simp only [position]
  split
  · simp [zeros_unbroken, unbroken]
  · split
    · cases layout.wholeFraction <;> simp [zeros_unbroken, unbroken]
    · simp [unbroken.sublist (List.take_sublist _ _), unbroken.sublist (List.drop_sublist _ _)]

theorem scientific_unbroken (layout : Layout) {digits : List Char} (unbroken : Unbroken digits)
    (exponent : Int) : Unbroken (layout.scientific digits exponent).toList := by
  simp only [scientific]
  split <;> split <;>
    simp [unbroken.sublist (List.take_sublist _ _), unbroken.sublist (List.tail_sublist _)]

theorem finite_unbroken (layout : Layout) (x : Finite) : Unbroken (layout.finite x).toList := by
  have digits := Text.unbroken_toDigits (x.shortest layout.tie).digits
  have magnitude : Unbroken (layout.magnitude (x.shortest layout.tie)).toList := by
    simp only [Layout.magnitude]
    split
    · exact layout.position_unbroken digits _
    · exact layout.scientific_unbroken digits _
  unfold finite
  cases x.negative <;> simp [magnitude]

end Binary64.Layout

namespace Json

theorem hexDigit_shows {n : Nat} (small : n < 16) : ' ' ≤ hexDigit n := by
  revert n
  decide

theorem escapedChar_unbroken (c : Char) : Unbroken (escapedChar c) := by
  unfold escapedChar
  split
  case h_8 =>
    split
    · next control =>
        have code : c.toNat < 0x20 := control
        have high : c.toNat / 16 < 16 := by omega
        have low : c.toNat % 16 < 16 := by omega
        simp [hexDigit_shows high, hexDigit_shows low]
    · next shows => simpa using shows
  all_goals simp

theorem stringChars_unbroken (text : String) : Unbroken (stringChars text) := by
  have escaped : Unbroken (text.toList.flatMap escapedChar) :=
    Unbroken.flatMap fun c _ => escapedChar_unbroken c
  simp [stringChars, escaped]

mutual

/-- The compact form of a value has no control characters, at any depth. -/
theorem compactChars_unbroken (value : Json) : Unbroken (compactChars value) := by
  cases value with
  | null => simp [compactChars]
  | bool value => cases value <;> simp [compactChars]
  | number n =>
      cases n with
      | whole value bounded => simp [compactChars, numberChars, Number.text]
      | double x => exact numberLayout.finite_unbroken x
  | string text => exact stringChars_unbroken text
  | array items => simp [compactChars, compactItems_unbroken items]
  | object fields => simp [compactChars, compactFields_unbroken fields]

theorem compactItems_unbroken (items : List Json) : Unbroken (compactItems items) := by
  cases items with
  | nil => exact unbroken_nil
  | cons item rest =>
      cases rest with
      | nil => exact compactChars_unbroken item
      | cons next later =>
          simp [compactItems, compactChars_unbroken item, compactItems_unbroken (next :: later)]

theorem compactFields_unbroken (fields : List (String × Json)) :
    Unbroken (compactFields fields) := by
  cases fields with
  | nil => exact unbroken_nil
  | cons field rest =>
      obtain ⟨key, value⟩ := field
      cases rest with
      | nil =>
          simp [compactFields, stringChars_unbroken key, compactChars_unbroken value]
      | cons next later =>
          simp [compactFields, stringChars_unbroken key, compactChars_unbroken value,
            compactFields_unbroken (next :: later)]

end

end Json

/-- A text has one part more than there are places to part it. -/
theorem Text.length_splitOn (chars : List Char) (c : Char) :
    (chars.splitOn c).length = chars.count c + 1 := by
  induction chars with
  | nil => rfl
  | cons first rest ih =>
      rw [List.splitOn_eq_splitOnP] at ih ⊢
      rw [List.splitOnP_cons_eq_if_modifyHead, List.count_cons]
      by_cases same : first = c <;> simp [same, ih]

namespace Report

/-- After the opcode name a stub has no control characters. -/
theorem stub_toList (report : Report) :
    ∃ rest, report.stub.toList = report.opcode.toList ++ rest ∧ Unbroken rest := by
  obtain ⟨opcode, place, observed⟩ := report
  have params : Unbroken
      (String.join (observed.map fun arg => s!", arg{arg.position}")).toList := by
    rw [String.toList_join, List.flatMap_map]
    exact Unbroken.flatMap fun arg _ => by simp [toString]
  have values : Unbroken (", ".intercalate (observed.map fun arg => arg.value.compact)).toList := by
    rw [String.toList_intercalate]
    refine Unbroken.intercalate (by simp) fun part listed => ?_
    obtain ⟨text, written, rfl⟩ := List.mem_map.mp listed
    obtain ⟨arg, -, rfl⟩ := List.mem_map.mp written
    rw [Json.compact, String.toList_ofList]
    exact Json.compactChars_unbroken arg.value
  have hint : Unbroken (if observed.isEmpty then "" else " // observed: " ++
      ", ".intercalate (observed.map fun arg => arg.value.compact)).toList := by
    split
    · simp
    · rw [String.toList_append, unbroken_append]
      exact ⟨by simp, values⟩
  simp only [stub, String.toList_append, List.append_assoc]
  refine ⟨_, rfl, ?_⟩
  simp only [unbroken_append, params, hint, true_and, and_true]
  exact ⟨by simp, by simp⟩

theorem count_stub (report : Report) :
    report.stub.toList.count '\n' = report.opcode.toList.count '\n' := by
  obtain ⟨rest, split, unbroken⟩ := report.stub_toList
  rw [split, List.count_append, unbroken.count_lineEnd, Nat.add_zero]

theorem stubLines_cons (report : Report) (rest : List Report) :
    (stubLines (report :: rest)).toList =
      report.stub.toList ++ '\n' :: (stubLines rest).toList := by
  simp [stubLines]

theorem count_stubLines (reports : List Report) :
    (stubLines reports).toList.count '\n' =
      reports.length + (reports.flatMap (·.opcode.toList)).count '\n' := by
  induction reports with
  | nil => rfl
  | cons report rest ih =>
      rw [stubLines_cons, List.count_append, List.count_cons_self, count_stub, ih,
        List.flatMap_cons, List.count_append, List.length_cons]
      omega

theorem splitOn_stubLines {reports : List Report}
    (plain : ∀ report ∈ reports, '\n' ∉ report.opcode.toList) :
    (stubLines reports).toList.splitOn '\n' = reports.map (·.stub.toList) ++ [[]] := by
  induction reports with
  | nil => rfl
  | cons report rest ih =>
      obtain ⟨first, later⟩ := List.forall_mem_cons.mp plain
      have whole : '\n' ∉ report.stub.toList := by
        rwa [← List.count_eq_zero, count_stub, List.count_eq_zero]
      have apart : ∀ c ∈ report.stub.toList, (c == '\n') = false := by
        intro c member
        exact beq_false_of_ne fun same => whole (same ▸ member)
      rw [stubLines_cons, List.splitOn_eq_splitOnP,
        List.splitOnP_append_cons_of_forall_mem apart _ (by decide), ← List.splitOn_eq_splitOnP,
        ih later]
      rfl

/-- Values never break a stub's line. The line ends of the output are one for each report and those
    in the reported names, whatever was observed. So there are as many as reports just if no name
    has one, and just then the lines of the output are the stubs, with nothing after the last. -/
theorem stubLines_break_in_names (reports : List Report) :
    let output := (stubLines reports).toList
    output.count '\n' = reports.length + (reports.flatMap (·.opcode.toList)).count '\n' ∧
      (output.count '\n' = reports.length ↔
        ∀ report ∈ reports, '\n' ∉ report.opcode.toList) ∧
      (output.splitOn '\n' = reports.map (·.stub.toList) ++ [[]] ↔
        ∀ report ∈ reports, '\n' ∉ report.opcode.toList) := by
  intro output
  have counted : output.count '\n' =
      reports.length + (reports.flatMap (·.opcode.toList)).count '\n' := count_stubLines reports
  have enough : output.count '\n' = reports.length ↔
      ∀ report ∈ reports, '\n' ∉ report.opcode.toList := by
    rw [counted, Nat.add_eq_left, List.count_eq_zero, List.mem_flatMap]
    simp
  refine ⟨counted, enough, fun split => enough.mp ?_, splitOn_stubLines⟩
  have lines := congrArg List.length split
  rw [Text.length_splitOn, List.length_append, List.length_map, List.length_singleton] at lines
  exact Nat.add_right_cancel lines

end Report

end Scenario
