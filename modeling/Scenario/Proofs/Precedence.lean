import Scenario.Proofs.Routing

/-! # Precedence

Which rule routes a command shows in its opcode name and its first two argument
slots: a separator comes before a registered name, and that before a line
without a tag. What was discovered before only tells a first sighting from a
repeat.
-/

namespace Scenario

namespace Command

/-- The line that a command speaks, by its opcode name and its first two argument slots. -/
def line? (command : Command) : Option Line :=
  if '：' ∈ command.opcode.toList then
    (command.arg? 1).map fun text => ⟨.tagged command.opcode, text⟩
  else if Opcode.lookup? command.opcode = none ∧ command.arg? 0 = none then
    (command.arg? 1).map fun text => ⟨.untagged command.opcode, text⟩
  else none

/-- All that becomes of a command of an unknown opcode: it is the first sighting of its name, or one
    more. -/
def Sighted (command : Command) (outcome : Outcome) : Prop :=
  outcome = .ok (.discovered (.ofCommand command)) ∨ outcome = .ok .repeated

variable {command : Command}

theorem settled?_of_spoken {text : Json} (tag : '：' ∈ command.opcode.toList)
    (spoken : command.arg? 1 = some text) :
    command.settled? = some (.ok (.dialogue ⟨.tagged command.opcode, text⟩)) := by
  simp [settled?, taggedLine?, isTag_iff.mpr tag, textSlot, spoken, Except.map]

theorem settled?_of_mute (tag : '：' ∈ command.opcode.toList) (mute : command.arg? 1 = none) :
    command.settled? = some (.error (.missingText command.opcode)) := by
  simp [settled?, taggedLine?, isTag_iff.mpr tag, textSlot, mute, Except.map]

theorem settled?_of_unregistered (untagged : '：' ∉ command.opcode.toList)
    (unregistered : Opcode.lookup? command.opcode = none) :
    command.settled? =
      if command.arg? 0 = none then
        (command.arg? 1).map fun text => .ok (.dialogue ⟨.untagged command.opcode, text⟩)
      else none := by
  simp only [settled?, taggedLine?_eq_none_iff.mpr untagged, unregistered, untaggedLine?, textSlot]
  cases command.arg? 0 <;> simp [Function.comp_def]

/-- Two rules make lines of commands, and no third. -/
theorem settled?_dialogue_iff {line : Line} :
    command.settled? = some (.ok (.dialogue line)) ↔ command.line? = some line := by
  unfold line?
  by_cases tag : '：' ∈ command.opcode.toList
  · rw [if_pos tag]
    cases spoken : command.arg? 1 with
    | some text => simp [settled?_of_spoken tag spoken]
    | none => simp [settled?_of_mute tag spoken]
  · rw [if_neg tag]
    cases registered : Opcode.lookup? command.opcode with
    | some opcode =>
        rw [settled?_of_registered tag registered, Opcode.dispatch]
        cases opcode.bind command.present <;> simp
    | none =>
        rw [settled?_of_unregistered tag registered]
        by_cases free : command.arg? 0 = none <;> simp [free]

/-- Tagged and untagged speakers are told apart by their labels. -/
theorem speaker_of_line? {line : Line} (spoken : command.line? = some line) :
    (line.speaker = .tagged command.opcode ∧ '：' ∈ command.opcode.toList) ∨
      (line.speaker = .untagged command.opcode ∧ '：' ∉ command.opcode.toList ∧
        Opcode.lookup? command.opcode = none) := by
  unfold line? at spoken
  split at spoken
  · next tag =>
      obtain ⟨text, -, rfl⟩ := Option.map_eq_some_iff.mp spoken
      exact .inl ⟨rfl, tag⟩
  · next untagged =>
      split at spoken
      · next free =>
          obtain ⟨text, -, rfl⟩ := Option.map_eq_some_iff.mp spoken
          exact .inr ⟨rfl, untagged, free.1⟩
      · cases spoken

end Command

namespace Discovery

theorem classify_sighted (discovery : Discovery) {command : Command}
    (reaches : command.settled? = none) : command.Sighted (discovery.classify command).1 := by
  by_cases seen : command.opcode ∈ discovery.seen
  · exact .inr (by rw [classify_of_seen reaches seen])
  · exact .inl (by rw [classify_of_unseen reaches seen])

theorem classify_dialogue_iff {discovery : Discovery} {command : Command} {line : Line} :
    (discovery.classify command).1 = .ok (.dialogue line) ↔ command.line? = some line :=
  (classify_eq_iff (by simp) (by simp)).trans Command.settled?_dialogue_iff

/-- Routing goes by precedence, whatever was discovered before. Any two states route a command
    alike, unless it is of an unknown opcode for both. A separator in the name makes a tagged line
    of it, with the whole name as its label, or is the error that there is no text; else a
    registered name makes an operation of it, or is the error that its arguments do not bind; else a
    second argument without a first makes a line of it that is not tagged; else its opcode is
    unknown. So labels with a separator are tagged, and others are neither tagged nor registered. -/
theorem classify_by_precedence (command : Command) :
    (∀ first second : Discovery,
        (first.classify command).1 = (second.classify command).1 ∨
          command.Sighted (first.classify command).1 ∧
            command.Sighted (second.classify command).1) ∧
      ∀ discovery : Discovery,
        let outcome := (discovery.classify command).1
        ('：' ∈ command.opcode.toList →
            (∀ text, command.arg? 1 = some text →
              outcome = .ok (.dialogue ⟨.tagged command.opcode, text⟩)) ∧
            (command.arg? 1 = none → outcome = .error (.missingText command.opcode))) ∧
          ('：' ∉ command.opcode.toList → ∀ opcode, (command.opcode, opcode) ∈ Opcode.names →
            (∀ binding, opcode.bind command.present = .ok binding →
              outcome = .ok (.operation (.ofBinding binding) binding.fallbacks)) ∧
            (∀ error, opcode.bind command.present = .error error →
              outcome = .error (.unbound error))) ∧
          ('：' ∉ command.opcode.toList → (∀ opcode, (command.opcode, opcode) ∉ Opcode.names) →
            (∀ text, command.arg? 1 = some text → command.arg? 0 = none →
              outcome = .ok (.dialogue ⟨.untagged command.opcode, text⟩)) ∧
            (command.arg? 1 = none ∨ (command.arg? 0).isSome → command.Sighted outcome)) ∧
          ∀ line, outcome = .ok (.dialogue line) →
            (∀ label, line.speaker = .tagged label → '：' ∈ label.toList) ∧
            (∀ label, line.speaker = .untagged label →
              '：' ∉ label.toList ∧ ∀ opcode, (label, opcode) ∉ Opcode.names) := by
  have settles (discovery : Discovery) {outcome : Outcome}
      (settled : command.settled? = some outcome) : (discovery.classify command).1 = outcome := by
    rw [classify_of_settled discovery settled]
  constructor
  · intro first second
    cases settled : command.settled? with
    | some outcome => exact .inl (by rw [settles first settled, settles second settled])
    | none => exact .inr ⟨first.classify_sighted settled, second.classify_sighted settled⟩
  intro discovery outcome
  refine ⟨fun tag => ⟨?_, ?_⟩, fun untagged opcode listed => ?_,
    fun untagged unlisted => ⟨?_, ?_⟩, fun line spoken => ?_⟩
  · intro text spoken
    exact settles discovery (Command.settled?_of_spoken tag spoken)
  · intro mute
    exact settles discovery (Command.settled?_of_mute tag mute)
  · have registered := Opcode.lookup?_eq_some_iff.mpr listed
    have dispatched : outcome = opcode.dispatch command.present :=
      settles discovery (Command.settled?_of_registered untagged registered)
    constructor
    · intro binding bound
      rw [dispatched, Opcode.dispatch, bound]
    · intro error unbound
      rw [dispatched, Opcode.dispatch, unbound]
  · intro text spoken free
    have unregistered := Opcode.lookup?_eq_none_iff.mpr unlisted
    apply settles discovery
    rw [Command.settled?_of_unregistered untagged unregistered, if_pos free, spoken,
      Option.map_some]
  · intro unspoken
    have unregistered := Opcode.lookup?_eq_none_iff.mpr unlisted
    apply discovery.classify_sighted
    rw [Command.settled?_of_unregistered untagged unregistered]
    rcases unspoken with mute | filled
    · simp [mute]
    · rw [if_neg (Option.ne_none_iff_isSome.mpr filled)]
  · rcases Command.speaker_of_line? (classify_dialogue_iff.mp spoken) with
      ⟨own, tag⟩ | ⟨own, untagged, unregistered⟩
    · rw [own]
      constructor
      · rintro label ⟨⟩
        exact tag
      · rintro label ⟨⟩
    · rw [own]
      constructor
      · rintro label ⟨⟩
      · rintro label ⟨⟩
        exact ⟨untagged, Opcode.lookup?_eq_none_iff.mp unregistered⟩

/-- The separator counts though the name before it is registered. -/
example : (empty.classify ⟨0, "bgm：", .primary, fun _ => none, []⟩).1 =
    .error (.missingText "bgm：") := by rfl

end Discovery

end Scenario
