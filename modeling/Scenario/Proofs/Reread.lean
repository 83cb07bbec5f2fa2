import Scenario.Json.Reader
import Scenario.Proofs.Written

/-! # Reading what is written

A JSON text of a value is read as that value, however its tokens are spelled and
spaced, unless it has doubles or its containers are nested too deep.
-/

namespace Scenario.Json

/-- All numbers are whole, and at most `depth` containers are open at once. -/
inductive Readable : Nat → Json → Prop where
  | null {depth : Nat} : Readable depth .null
  | bool {depth : Nat} {value : Bool} : Readable depth (.bool value)
  | whole {depth : Nat} {value : Int}
      {bounded : -0x8000000000000000 ≤ value ∧ value < 0x10000000000000000} :
      Readable depth (.number (.whole value bounded))
  | string {depth : Nat} {text : String} : Readable depth (.string text)
  | array {depth : Nat} {items : List Json} (each : ∀ item ∈ items, Readable depth item) :
      Readable (depth + 1) (.array items)
  | object {depth : Nat} {fields : List (String × Json)}
      (each : ∀ field ∈ fields, Readable depth field.2) : Readable (depth + 1) (.object fields)

mutual

/-- The tokens of a value. -/
def tokens : Json → List Token
  | .null => [.word .null]
  | .bool value => [.word (.bool value)]
  | .number n => [.word (.number n)]
  | .string text => [.string text]
  | .array items => .openArray :: itemTokens items ++ [.closeArray]
  | .object fields => .openObject :: fieldTokens fields ++ [.closeObject]

def itemTokens : List Json → List Token
  | [] => []
  | [item] => tokens item
  | item :: rest => tokens item ++ .comma :: itemTokens rest

def fieldTokens : List (String × Json) → List Token
  | [] => []
  | [(key, value)] => .string key :: .colon :: tokens value
  | (key, value) :: rest => .string key :: .colon :: tokens value ++ .comma :: fieldTokens rest

end

/-! ## Characters -/

namespace Token

/-- The machine stands between tokens, or in a word that is complete, after these tokens. -/
inductive Settled : State × List Token → List Token → Prop where
  | between {tokens : List Token} : Settled (.between, tokens) tokens
  | word {cs : List Char} {value : Json} {tokens : List Token}
      (read : ofWord? cs.reverse = some value) :
      Settled (.inWord cs, tokens) (.word value :: tokens)

/-- The character ends a word. -/
def Ends (c : Char) : Prop :=
  c = '"' ∨ (ofMark? c).isSome ∨ isSpace c

theorem Settled.step {state : State × List Token} {tokens : List Token}
    (settled : Settled state tokens) {c : Char} (ends : Ends c) :
    step? state c = some (outside tokens c) := by
  cases settled with
  | between => rfl
  | word read =>
      unfold Ends at ends
      rw [step?, if_pos ends, read]
      rfl

theorem Settled.finish {state : State × List Token} {tokens : List Token}
    (settled : Settled state tokens) : finish? state = some tokens.reverse := by
  cases settled with
  | between => rfl
  | word read =>
      rw [finish?, read]
      rfl

theorem Settled.mark {state : State × List Token} {tokens : List Token}
    (settled : Settled state tokens) {c : Char} {token : Token} (mark : ofMark? c = some token) :
    step? state c = some (.between, token :: tokens) := by
  have noQuote : c ≠ '"' := by
    rintro rfl
    cases mark
  rw [settled.step (.inr (.inl (by rw [mark]; rfl))), outside, if_neg noQuote, mark]

theorem outside_space {c : Char} (space : isSpace c = true) (tokens : List Token) :
    outside tokens c = (.between, tokens) := by
  have noQuote : c ≠ '"' := by
    rintro rfl
    cases space
  have noMark : ofMark? c = none := by
    simp only [isSpace, Bool.or_eq_true, beq_iff_eq] at space
    rcases space with ((rfl | rfl) | rfl) | rfl <;> rfl
  rw [outside, if_neg noQuote, noMark]
  simp [space]

theorem between_blank {cs : List Char} (blank : Blank cs) (tokens : List Token) :
    cs.foldlM step? (.between, tokens) = some (.between, tokens) := by
  induction cs with
  | nil => rfl
  | cons c rest ih =>
      obtain ⟨space, later⟩ := blank_cons.mp blank
      rw [List.foldlM_cons, step?, outside_space space]
      exact ih later

/-- White space leaves a machine that is settled so. -/
theorem Settled.blank {state : State × List Token} {tokens : List Token}
    (settled : Settled state tokens) {cs : List Char} (blank : Blank cs) :
    ∃ after, cs.foldlM step? state = some after ∧ Settled after tokens := by
  cases cs with
  | nil => exact ⟨state, rfl, settled⟩
  | cons c rest =>
      obtain ⟨space, later⟩ := blank_cons.mp blank
      refine ⟨(.between, tokens), ?_, .between⟩
      rw [List.foldlM_cons, settled.step (.inr (.inr space)), outside_space space]
      exact between_blank later tokens

/-- The characters are cut into these tokens. -/
def Cuts (cs : List Char) (tokens : List Token) : Prop :=
  ∀ before, ∃ after, cs.foldlM step? (.between, before) = some after ∧
    Settled after (tokens.reverse ++ before)

theorem cuts_blank {space : List Char} (blank : Blank space) : Cuts space [] :=
  fun tokens => ⟨_, between_blank blank tokens, .between⟩

theorem Cuts.spaced {cs : List Char} {tokens : List Token} (cuts : Cuts cs tokens)
    {space spaceAfter : List Char} (blank : Blank space) (blankAfter : Blank spaceAfter) :
    Cuts (space ++ cs ++ spaceAfter) tokens := by
  intro before
  obtain ⟨inside, run, settled⟩ := cuts before
  obtain ⟨after, rest, settledAfter⟩ := settled.blank blankAfter
  refine ⟨after, ?_, settledAfter⟩
  rw [List.foldlM_append, List.foldlM_append, between_blank blank]
  simpa [run] using rest

/-- A mark is a token of its own, and ends the one before it. -/
theorem Cuts.mark {cs later : List Char} {tokens others : List Token} (cuts : Cuts cs tokens)
    {c : Char} {token : Token} (mark : ofMark? c = some token) (cutsLater : Cuts later others) :
    Cuts (cs ++ c :: later) (tokens ++ token :: others) := by
  intro before
  obtain ⟨inside, run, settled⟩ := cuts before
  obtain ⟨after, rest, settledAfter⟩ := cutsLater (token :: (tokens.reverse ++ before))
  refine ⟨after, ?_, by simpa using settledAfter⟩
  rw [List.foldlM_append, run]
  simpa [settled.mark mark] using rest

/-- A run of other characters is one word. -/
theorem cuts_word {cs : List Char} {value : Json} (nonempty : cs ≠ [])
    (goesOn : ∀ c ∈ cs, ¬ Ends c) (read : ofWord? cs = some value) : Cuts cs [.word value] := by
  intro tokens
  have collect (held : List Char) (rest : List Char) (goesOn : ∀ c ∈ rest, ¬ Ends c) :
      rest.foldlM step? (.inWord held, tokens) = some (.inWord (rest.reverse ++ held), tokens) := by
    induction rest generalizing held with
    | nil => rfl
    | cons c rest ih =>
        obtain ⟨first, later⟩ := List.forall_mem_cons.mp goesOn
        unfold Ends at first
        rw [List.foldlM_cons, step?, if_neg first]
        simpa using ih (c :: held) later
  obtain ⟨c, rest, rfl⟩ := List.exists_cons_of_ne_nil nonempty
  obtain ⟨first, later⟩ := List.forall_mem_cons.mp goesOn
  simp only [Ends, not_or, Bool.not_eq_true, Option.isSome_eq_false_iff, Option.isNone_iff_eq_none]
    at first
  obtain ⟨noQuote, noMark, noSpace⟩ := first
  refine ⟨(.inWord (rest.reverse ++ [c]), tokens), ?_, .word (by simpa using read)⟩
  rw [List.foldlM_cons, step?, outside, if_neg noQuote, noMark]
  simpa [noSpace] using collect [c] rest later

/-- The code of a character is no half of a pair. -/
theorem takeUnit?_toNat (c : Char) (held : List Char) :
    takeUnit? held none c.toNat = some (.inString (c :: held)) := by
  have valid : c.toNat < 0xD800 ∨ 0xDFFF < c.toNat ∧ c.toNat < 0x110000 := c.valid
  have noHigh : ¬ (0xD800 ≤ c.toNat ∧ c.toNat < 0xDC00) := by omega
  have noLow : ¬ (0xDC00 ≤ c.toNat ∧ c.toNat < 0xE000) := by omega
  simp only [takeUnit?, if_neg noHigh, if_neg noLow, Char.ofNat_toNat]

/-- A spelling of a character adds it to the string. -/
theorem char_run {c : Char} {cs : List Char} (written : CharWritten c cs) (held : List Char)
    (tokens : List Token) :
    cs.foldlM step? (.inString held, tokens) = some (.inString (c :: held), tokens) := by
  cases written with
  | plain shows noMark noSlash => simp [step?, noMark, noSlash, Char.not_lt.mpr shows]
  | @escape letter stands =>
      have noUnit : letter ≠ 'u' := by
        rintro rfl
        cases stands
      simp [step?, noUnit, stands]
  | @code digits values four read code =>
      obtain ⟨d₃, d₂, d₁, d₀, rfl⟩ := List.length_eq_four.mp four
      simp only [List.mapM_cons, List.mapM_nil, Option.bind_eq_bind, Option.bind_eq_some_iff]
        at read
      obtain ⟨v₃, read₃, _, ⟨v₂, read₂, _, ⟨v₁, read₁, _, ⟨v₀, read₀, _, ⟨⟩, ⟨⟩⟩, ⟨⟩⟩, ⟨⟩⟩, ⟨⟩⟩ :=
        read
      have unit : 16 * (16 * (16 * v₃ + v₂) + v₁) + v₀ = c.toNat := by simpa using code
      simp [step?, read₃, read₂, read₁, read₀, unit, takeUnit?_toNat]

/-- A string in quotes is a token. -/
theorem cuts_string {text : String} {cs : List Char} (written : StringWritten text cs) :
    Cuts cs [.string text] := by
  intro tokens
  obtain ⟨parts, spelled, rfl⟩ := written
  have collect (held : List Char) (text : List Char) (parts : List (List Char))
      (spelled : List.Forall₂ CharWritten text parts) :
      parts.flatten.foldlM step? (.inString held, tokens) =
        some (.inString (text.reverse ++ held), tokens) := by
    induction spelled generalizing held with
    | nil => rfl
    | cons first rest ih =>
        rw [List.flatten_cons, List.foldlM_append, char_run first]
        simpa using ih _
  refine ⟨(.between, .string text :: tokens), ?_, .between⟩
  have opened : step? (.between, tokens) '"' = some (.inString [], tokens) := rfl
  rw [List.cons_append, List.foldlM_cons, opened]
  simp [List.foldlM_append, collect [] text.toList parts spelled, step?]

theorem not_ends_of_isDigit {c : Char} (digit : c.isDigit = true) : ¬ Ends c := by
  rintro (rfl | mark | space)
  · cases digit
  · unfold ofMark? at mark
    split at mark <;> first | cases digit | cases mark
  · simp only [isSpace, Bool.or_eq_true, beq_iff_eq] at space
    rcases space with ((rfl | rfl) | rfl) | rfl <;> cases digit

end Token

/-! ## Numbers -/

namespace Literal

theorem whole?_eq_some {cs run rest : List Char} (read : whole? cs = some (run, rest)) :
    cs = run ++ rest ∧ run ≠ [] ∧ ∀ c ∈ run, c.isDigit = true := by
  obtain ⟨⟨digits, after⟩, split, read⟩ := Option.bind_eq_some_iff.mp read
  have same : digits = run ∧ after = rest := by
    dsimp only at read
    split at read
    · cases read
    · cases read
      exact ⟨rfl, rfl⟩
  obtain ⟨rfl, rfl⟩ := same
  rw [digits?, List.span_eq_takeWhile_dropWhile] at split
  split at split
  · cases split
  · next some =>
      cases split
      refine ⟨List.takeWhile_append_dropWhile.symm, ?_, List.all_eq_true.mp List.all_takeWhile⟩
      intro none
      exact some _ (by rw [none])

theorem fraction?_eq_none {cs rest : List Char} (read : fraction? cs = some (none, rest)) :
    cs = rest := by
  unfold fraction? at read
  split at read
  · obtain ⟨_, -, ⟨⟩⟩ := Option.map_eq_some_iff.mp read
  · cases read
    rfl

theorem exponent?_eq_none {cs : List Char} (read : exponent? cs = some none) : cs = [] := by
  unfold exponent? at read
  split at read
  · rfl
  · obtain ⟨_, -, ⟨⟩⟩ := Option.map_eq_some_iff.mp read

theorem unsigned?_digits {cs run : List Char} {sign negative : Bool}
    (read : unsigned? sign cs = some ⟨negative, run, none, none⟩) :
    sign = negative ∧ cs = run ∧ run ≠ [] ∧ ∀ c ∈ run, c.isDigit = true := by
  obtain ⟨⟨whole, afterWhole⟩, wholeRead, read⟩ := Option.bind_eq_some_iff.mp read
  obtain ⟨⟨fraction, afterFraction⟩, fractionRead, read⟩ := Option.bind_eq_some_iff.mp read
  obtain ⟨exponent, exponentRead, read⟩ := Option.map_eq_some_iff.mp read
  cases read
  obtain ⟨rfl, nonempty, digits⟩ := whole?_eq_some wholeRead
  cases fraction?_eq_none fractionRead
  cases exponent?_eq_none exponentRead
  exact ⟨rfl, List.append_nil _, nonempty, digits⟩

/-- A literal of digits alone has nothing else but a sign. -/
theorem ofChars?_digits {cs run : List Char} {negative : Bool}
    (read : ofChars? cs = some ⟨negative, run, none, none⟩) :
    cs = (if negative then ['-'] else []) ++ run ∧ run ≠ [] ∧ ∀ c ∈ run, c.isDigit = true := by
  by_cases minus : cs.head? = some '-'
  · obtain ⟨rest, rfl⟩ := List.head?_eq_some_iff.mp minus
    rw [ofChars?_minus] at read
    obtain ⟨rfl, rfl, digits⟩ := unsigned?_digits read
    exact ⟨rfl, digits⟩
  · rw [ofChars?_of_unsigned minus] at read
    obtain ⟨rfl, rfl, digits⟩ := unsigned?_digits read
    exact ⟨rfl, digits⟩

end Literal

theorem not_ends_minus : ¬ Token.Ends '-' := by
  unfold Token.Ends
  decide

/-- A literal of a whole number is one word, and is read as the number. -/
theorem Number.Written.word {value : Int}
    {bounded : -0x8000000000000000 ≤ value ∧ value < 0x10000000000000000} {cs : List Char}
    (written : (Number.whole value bounded).Written cs) :
    cs ≠ [] ∧ (∀ c ∈ cs, ¬ Token.Ends c) ∧
      Token.ofWord? cs = some (.number (.whole value bounded)) := by
  obtain ⟨literal, read, denotes⟩ := written
  cases denotes with
  | @whole negative run _ _ sign magnitude =>
      have signed :
          (if negative then -(Text.digitsValue run : Int) else Text.digitsValue run) = value := by
        rw [magnitude, sign]
        split
        · next below =>
            rw [decide_eq_true_eq] at below
            omega
        · next above =>
            rw [decide_eq_true_eq] at above
            omega
      have noMinusZero : ¬ (negative = true ∧ Text.digitsValue run = 0) := by
        rintro ⟨minus, zero⟩
        rw [sign, decide_eq_true_eq] at minus
        omega
      have number : Number.ofChars? cs = some (.whole value bounded) := by
        simp only [Number.ofChars?, read, Option.bind_some, Literal.number?, Option.isSome_none,
          Bool.false_eq_true, or_self, if_false, signed, dif_pos bounded, if_neg noMinusZero]
      have noName : cs ≠ "null".toList ∧ cs ≠ "true".toList ∧ cs ≠ "false".toList := by
        refine ⟨?_, ?_, ?_⟩ <;> rintro rfl <;> cases number
      refine ⟨?_, ?_, ?_⟩
      · rintro rfl
        cases number
      · obtain ⟨rfl, -, digits⟩ := Literal.ofChars?_digits read
        refine List.forall_mem_append.mpr
          ⟨?_, fun c member => Token.not_ends_of_isDigit (digits c member)⟩
        cases negative with
        | false => exact List.forall_mem_nil _
        | true => exact List.forall_mem_singleton.mpr not_ends_minus
      · rw [Token.ofWord?, if_neg noName.1, if_neg noName.2.1, if_neg noName.2.2, number]
        rfl

/-! ## Values -/

open Token (Cuts Ends cuts_blank cuts_string cuts_word isSpace ofMark?)

theorem Spaced.cuts {value : Json} {cs : List Char}
    (cutsValue : ∀ cs, Written value cs → Cuts cs (tokens value)) (spaced : Spaced value cs) :
    Cuts cs (tokens value) := by
  obtain ⟨blank, written, blankAfter⟩ := spaced
  exact (cutsValue _ written).spaced blank blankAfter

theorem FieldWritten.cuts {key : String} {value : Json} {cs : List Char}
    (cutsValue : ∀ cs, Written value cs → Cuts cs (tokens value))
    (written : FieldWritten (key, value) cs) : Cuts cs (.string key :: .colon :: tokens value) := by
  obtain ⟨blank, named, blankAfter, spaced⟩ := written
  exact ((cuts_string named).spaced blank blankAfter).mark rfl (spaced.cuts cutsValue)

mutual

/-- A JSON text of a value is cut into the tokens of the value. -/
theorem Written.cuts {value : Json} {depth : Nat} (readable : Readable depth value)
    {cs : List Char} (written : Written value cs) : Cuts cs (tokens value) := by
  have empty := cuts_blank blank_nil
  cases value with
  | null =>
      cases written
      exact cuts_word (List.cons_ne_nil _ _) (by simp [Ends, ofMark?, isSpace]) rfl
  | bool value =>
      cases written
      · exact cuts_word (List.cons_ne_nil _ _) (by simp [Ends, ofMark?, isSpace]) rfl
      · exact cuts_word (List.cons_ne_nil _ _) (by simp [Ends, ofMark?, isSpace]) rfl
  | number n =>
      cases readable
      cases written with
      | number literal =>
          obtain ⟨nonempty, goesOn, read⟩ := literal.word
          exact cuts_word nonempty goesOn read
  | string text =>
      cases written with
      | string quoted => exact cuts_string quoted
  | array items =>
      cases readable with
      | array each =>
          cases written with
          | array listed =>
              exact empty.mark rfl ((cuts_items each listed).mark rfl empty)
  | object fields =>
      cases readable with
      | object each =>
          cases written with
          | object listed =>
              exact empty.mark rfl ((cuts_fields each listed).mark rfl empty)

theorem cuts_items {items : List Json} {depth : Nat}
    (readable : ∀ item ∈ items, Readable depth item) {cs : List Char}
    (listed : Listed Spaced items cs) : Cuts cs (itemTokens items) := by
  cases items with
  | nil =>
      cases listed with
      | none blank => exact cuts_blank blank
  | cons item rest =>
      obtain ⟨first, later⟩ := List.forall_mem_cons.mp readable
      cases rest with
      | nil =>
          cases listed with
          | last spaced => exact spaced.cuts fun _ written => Written.cuts first written
      | cons next more =>
          cases listed with
          | more spaced others =>
              exact (spaced.cuts fun _ written => Written.cuts first written).mark rfl
                (cuts_items later others)

theorem cuts_fields {fields : List (String × Json)} {depth : Nat}
    (readable : ∀ field ∈ fields, Readable depth field.2) {cs : List Char}
    (listed : Listed FieldWritten fields cs) : Cuts cs (fieldTokens fields) := by
  cases fields with
  | nil =>
      cases listed with
      | none blank => exact cuts_blank blank
  | cons field rest =>
      obtain ⟨key, value⟩ := field
      obtain ⟨first, later⟩ := List.forall_mem_cons.mp readable
      cases rest with
      | nil =>
          cases listed with
          | last written => exact written.cuts fun _ written => Written.cuts first written
      | cons next more =>
          cases listed with
          | more written others =>
              exact (written.cuts fun _ written => Written.cuts first written).mark rfl
                (cuts_fields later others)

end

/-! ## Tokens -/

namespace Reading

/-- The first item of an array is read as any other. -/
theorem read_first_item (item : Json) (rest : List Json) (outer : List Frame) :
    (itemTokens (item :: rest)).foldlM step? (.atFirstItem outer) =
      (itemTokens (item :: rest)).foldlM step? (.atValue (.array [] :: outer)) := by
  cases item <;> cases rest <;> rfl

/-- The first key of an object is read as any other. -/
theorem read_first_field (field : String × Json) (rest : List (String × Json))
    (outer : List Frame) :
    (fieldTokens (field :: rest)).foldlM step? (.atFirstKey outer) =
      (fieldTokens (field :: rest)).foldlM step? (.atKey [] outer) := by
  cases rest <;> rfl

mutual

/-- The tokens of a value are read as the value, wherever one may stand. -/
theorem read_tokens {value : Json} {depth : Nat} (readable : Readable depth value)
    {outer : List Frame} (fits : outer.length + depth ≤ depthLimit) :
    (tokens value).foldlM step? (.atValue outer) = some (place value outer) := by
  cases value with
  | null | bool value | number n | string text => rfl
  | array items =>
      cases readable with
      | @array inner _ each =>
          have deeper : outer.length + (inner + 1) ≤ depthLimit := fits
          have opened : step? (.atValue outer) .openArray = some (.atFirstItem outer) :=
            if_pos (by omega)
          rw [tokens, List.cons_append, List.foldlM_cons, opened]
          cases items with
          | nil => rfl
          | cons item rest =>
              have inside := read_items each (List.cons_ne_nil item rest) [] deeper
              simp only [Option.bind_eq_bind, Option.bind_some, List.foldlM_append,
                read_first_item, inside]
              simp [step?]
  | object fields =>
      cases readable with
      | @object inner _ each =>
          have deeper : outer.length + (inner + 1) ≤ depthLimit := fits
          have opened : step? (.atValue outer) .openObject = some (.atFirstKey outer) :=
            if_pos (by omega)
          rw [tokens, List.cons_append, List.foldlM_cons, opened]
          cases fields with
          | nil => rfl
          | cons field rest =>
              have inside := read_fields each (List.cons_ne_nil field rest) [] deeper
              simp only [Option.bind_eq_bind, Option.bind_some, List.foldlM_append,
                read_first_field, inside]
              simp [step?]

theorem read_items {items : List Json} {depth : Nat}
    (readable : ∀ item ∈ items, Readable depth item) (nonempty : items ≠ []) (held : List Json)
    {outer : List Frame} (fits : outer.length + (depth + 1) ≤ depthLimit) :
    (itemTokens items).foldlM step? (.atValue (.array held :: outer)) =
      some (.afterItem (items.reverse ++ held) outer) := by
  cases items with
  | nil => exact absurd rfl nonempty
  | cons item rest =>
      obtain ⟨first, later⟩ := List.forall_mem_cons.mp readable
      have deeper : (Frame.array held :: outer).length + depth ≤ depthLimit := by
        rw [List.length_cons]
        omega
      have read := read_tokens first deeper
      cases rest with
      | nil => exact read
      | cons next more =>
          have others := read_items later (List.cons_ne_nil next more) (item :: held) fits
          rw [itemTokens, List.foldlM_append, read]
          · simpa [step?, place] using others
          · exact List.cons_ne_nil next more

theorem read_fields {fields : List (String × Json)} {depth : Nat}
    (readable : ∀ field ∈ fields, Readable depth field.2) (nonempty : fields ≠ [])
    (held : List (String × Json)) {outer : List Frame}
    (fits : outer.length + (depth + 1) ≤ depthLimit) :
    (fieldTokens fields).foldlM step? (.atKey held outer) =
      some (.afterMember (fields.reverse ++ held) outer) := by
  cases fields with
  | nil => exact absurd rfl nonempty
  | cons field rest =>
      obtain ⟨key, value⟩ := field
      obtain ⟨first, later⟩ := List.forall_mem_cons.mp readable
      have deeper : (Frame.object key held :: outer).length + depth ≤ depthLimit := by
        rw [List.length_cons]
        omega
      have read := read_tokens first deeper
      cases rest with
      | nil => exact read
      | cons next more =>
          have others := read_fields later (List.cons_ne_nil next more) ((key, value) :: held) fits
          have own : (Token.string key :: .colon :: tokens value).foldlM step? (.atKey held outer) =
              some (.afterMember ((key, value) :: held) outer) := read
          rw [fieldTokens, List.foldlM_append, own]
          · simpa [step?] using others
          · exact List.cons_ne_nil next more

end

end Reading

/-- A JSON text of a value is read as the value, with any white space around it, if all its numbers
    are whole and it is not nested too deep. -/
theorem ofTextAsWritten?_of_spaced {value : Json} (readable : Readable Reading.depthLimit value)
    {cs : List Char} (spaced : Spaced value cs) :
    ofTextAsWritten? (String.ofList cs) = some value := by
  have cuts : Cuts cs (tokens value) := spaced.cuts fun _ written => written.cuts readable
  obtain ⟨after, run, settled⟩ := cuts []
  have cut : Token.ofChars? cs = some (tokens value) := by
    rw [Token.ofChars?, run]
    simpa using settled.finish
  have read : (tokens value).foldlM Reading.step? (.atValue []) = some (.complete value) :=
    Reading.read_tokens readable (Nat.le_of_eq (Nat.zero_add _))
  simp only [ofTextAsWritten?, String.toList_ofList, cut, read, bind, Option.bind]
  rfl

/-- A text is a JSON text of one such value at most. -/
theorem Written.unique {value other : Json} (readable : Readable Reading.depthLimit value)
    (otherReadable : Readable Reading.depthLimit other) {cs : List Char}
    (written : Written value cs) (writtenOther : Written other cs) : value = other := by
  have read := ofTextAsWritten?_of_spaced readable written.spaced
  have readOther := ofTextAsWritten?_of_spaced otherReadable writtenOther.spaced
  exact Option.some.inj (read.symm.trans readOther)

/-- Both forms of a value are read as the value. -/
theorem ofTextAsWritten?_compact {value : Json} (readable : Readable Reading.depthLimit value) :
    ofTextAsWritten? value.compact = some value :=
  ofTextAsWritten?_of_spaced readable (compactChars_written value).spaced

theorem ofTextAsWritten?_indented {value : Json} (readable : Readable Reading.depthLimit value) :
    ofTextAsWritten? value.indented = some value :=
  ofTextAsWritten?_of_spaced readable (indentedChars_written 0 value).spaced

end Scenario.Json
