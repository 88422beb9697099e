/-
  Descent/Proofs/Tables.lean
  ==========================
  **Tables of text** — fields between commas, rows on lines, and how they are read.

  A field may be put between quotes, and then a quote inside of it is written twice.  In the
  repetition that reads such a field a pair of quotes is one round, and the quote that closes
  the field starts a round that fails on its second character.  The repetition gives that
  quote back, since it is a free one, and so is the choice in it.

  A field may also be nothing at all.  Then neither the field nor the choice that it is in
  takes anything, and still the row is read.  Behind the last row the whole of this happens
  once more: a row of one field without characters is read from the end of the text, and
  since it takes nothing it ends the repetition and is not counted (`Table.row_halts`).
-/
import Descent.Proofs.Delimited

namespace Descent

namespace Table

/-! ### The grammar -/

/-- A character between quotes; a quote is written twice. -/
def inner : Parser := (Parser.char (.except '"')).or ((Parser.string "\"\"").yielding (.char '"'))

def quoted : Parser :=
  .map Value.asText
    (.contained (.many false inner) (.char (.exactly '"')) (.char (.exactly '"')))

def bare : Parser := .text (.many false (.char (.outside [',', '\r', '\n'])))

def field : Parser := quoted.xor bare

def row : Parser := (Parser.delimited false field (.char (.exactly ','))).before .lineTerminator

def records : Parser := .many true row

/-! ### Tables as texts -/

def doubled (field : List Char) : List Char :=
  field.flatMap fun ch => if ch = '"' then ['"', '"'] else [ch]

/-- How a field is written: between quotes, or as it is if it can be told from its
    surroundings. -/
inductive WritesField : List Char → List Char → Prop
  | quoted (field : List Char) : WritesField field ('"' :: (doubled field ++ ['"']))
  | bare {field : List Char} (hplain : ∀ ch ∈ field, ch ∉ [',', '\r', '\n'])
    (hstart : '"' ∉ field.head?) : WritesField field field

/-- How a row is written: its fields with commas between them, and the end of the line. -/
inductive WritesRow : List (List Char) → List Char → Prop
  | intro {fields texts : List (List Char)} {ending : List Char}
    (hfields : List.Forall₂ WritesField fields texts) (hending : ending ∈ [['\n'], ['\r', '\n']]) :
    WritesRow fields ([','].intercalate texts ++ ending)

/-- How a table is written: one row behind the other. -/
inductive Writes : List (List (List Char)) → List Char → Prop
  | intro {rows : List (List (List Char))} {lines : List (List Char)}
    (hrows : List.Forall₂ WritesRow rows lines) : Writes rows lines.flatten

theorem exists_writesRow (fields : List (List Char)) : ∃ line, WritesRow fields line := by
  have hfields : List.Forall₂ WritesField fields
      (fields.map fun field => '"' :: (doubled field ++ ['"'])) := by
    rw [List.forall₂_map_right_iff, List.forall₂_same]
    exact fun field _ => .quoted field
  exact ⟨_, .intro hfields List.mem_cons_self⟩

theorem exists_writes (rows : List (List (List Char))) : ∃ text, Writes rows text := by
  choose line hline using exists_writesRow
  have hrows : List.Forall₂ WritesRow rows (rows.map line) := by
    rw [List.forall₂_map_right_iff, List.forall₂_same]
    exact fun fields _ => hline fields
  exact ⟨_, .intro hrows⟩

/-! ### Fields -/

section Reading

variable {σ : Type} [Traced σ] {call : Handle → Matcher σ} {s : σ} {fields texts : List (List Char)}
  {content text rest line ending : List Char}

def Ends (rest : List Char) : Prop := ∀ ch ∈ rest.head?, ch ∈ [',', '\r', '\n']

def EndsRow (rest : List Char) : Prop := ∀ ch ∈ rest.head?, ch ∈ ['\r', '\n']

theorem EndsRow.ends (h : EndsRow rest) : Ends rest :=
  fun ch hch => List.mem_cons_of_mem ',' (h ch hch)

theorem Ends.no_quote (h : Ends rest) : '"' ∉ rest.head? := by
  intro hquote
  exact absurd (h '"' hquote) (by decide)

theorem endsRow_of_ending (h : ending ∈ [['\n'], ['\r', '\n']]) (rest : List Char) :
    EndsRow (ending ++ rest) := by
  simp only [List.mem_cons, List.not_mem_nil, or_false] at h
  rcases h with rfl | rfl
  · rintro _ ⟨⟩
    decide
  · rintro _ ⟨⟩
    decide

theorem no_quote_ahead (h : '"' ∉ rest.head?) :
    ∀ ch ∈ rest.head?, ¬ (CharClass.exactly '"').accepts ch = true := by
  intro ch hch haccepts
  obtain rfl : ch = '"' := of_decide_eq_true haccepts
  exact h hch

/-- One round for each character, also where two are written for one. -/
theorem inner_rounds (call : Handle → Matcher σ) (s : σ) (content rest : List Char) :
    (inner.matcher call).Rounds s (doubled content) rest (content.map .char) := by
  induction content with
  | nil => exact .nil rest
  | cons ch content ih =>
    rw [doubled, List.flatMap_cons, ← doubled, List.map_cons]
    by_cases hquote : ch = '"'
    · subst hquote
      rw [if_pos rfl]
      refine .cons ?_ (List.cons_ne_nil _ _) ih
      apply Matcher.Declines.choice
      · apply Parser.char_declines
        rintro _ ⟨⟩
        decide
      · exact (Parser.string_reads call s "\"\"" _).map _
    · rw [if_neg hquote]
      refine .cons ?_ (List.cons_ne_nil _ _) ih
      apply Matcher.Reads.choice _ (List.cons_ne_nil _ _)
      apply Parser.char_reads
      simp [CharClass.except, CharClass.avoiding, hquote]

/-- A quote with no other one behind it ends the rounds. -/
theorem inner_halts (h : '"' ∉ rest.head?) :
    (inner.matcher call).Halts false s ('"' :: rest) := by
  apply Matcher.Fails.halts
  apply Matcher.Fails.either
  · apply Matcher.Declines.fails
    apply Parser.char_declines
    rintro _ ⟨⟩
    decide
  · apply Matcher.Fails.map
    apply Parser.string_fails
    rintro ⟨more, hmore⟩
    obtain rfl : '"' :: more = rest := List.tail_eq_of_cons_eq hmore
    exact h rfl

theorem quoted_reads (h : '"' ∉ rest.head?) :
    (quoted.matcher call).Reads s ('"' :: (doubled content ++ ['"'])) rest
      (.str (String.ofList content)) := by
  have hquote : ∀ rest, ((Parser.char (.exactly '"')).matcher call).Reads s ['"'] rest
      (.char '"') := fun rest => Parser.char_reads (by decide)
  have hinner := (inner_rounds call s content ('"' :: rest)).many (inner_halts h)
  have hclosed := (hinner.and (hquote rest)).map Value.first
  have hopened := ((hquote _).and hclosed).map Value.second
  rw [← Parser.asText_chars]
  exact hopened.map Value.asText

theorem bare_reads (hplain : ∀ ch ∈ content, ch ∉ [',', '\r', '\n']) (hrest : Ends rest) :
    (bare.matcher call).Reads s content rest (.str (String.ofList content)) := by
  apply Matcher.Reads.text
  apply Parser.chars_read
  · intro ch hch
    simpa [CharClass.outside, CharClass.avoiding] using hplain ch hch
  · intro ch hch houtside
    simp only [CharClass.outside, CharClass.avoiding, Bool.not_eq_true',
      List.contains_eq_mem, decide_eq_false_iff_not] at houtside
    exact houtside (hrest ch hch)

theorem field_reads (h : WritesField content text) (hrest : Ends rest) :
    (field.matcher call).Reads s text rest (.str (String.ofList content)) := by
  cases h with
  | quoted => exact (quoted_reads hrest.no_quote).choice (List.cons_ne_nil _ _)
  | bare hplain hstart =>
    have hquote : '"' ∉ (content ++ rest).head? := by
      cases content with
      | nil => exact hrest.no_quote
      | cons ch content => exact hstart
    apply Matcher.Declines.choice _ (bare_reads hplain hrest)
    exact (Parser.char_declines (no_quote_ahead hquote)).and.map _ |>.map _

def HasField (text : List Char) (v : Value) : Prop :=
  ∃ content, WritesField content text ∧ v = .str (String.ofList content)

theorem delimits_fields (call : Handle → Matcher σ) (s : σ) :
    Parser.Delimits call s field (.char (.exactly ',')) [','] (.char ',') HasField Ends where
  nonempty := List.cons_ne_nil _ _
  reads_mark rest := Parser.char_reads (by decide)
  reads_item := by
    rintro text _ rest ⟨content, htext, rfl⟩ hrest
    exact field_reads htext hrest
  stops more := by
    rintro _ ⟨⟩
    decide

/-! ### Rows -/

theorem lineTerminator_reads (call : Handle → Matcher σ) (s : σ)
    (h : ending ∈ [['\n'], ['\r', '\n']]) (rest : List Char) :
    ∃ v, (Parser.lineTerminator.matcher call).Reads s ending rest v := by
  suffices hends : ∃ v, (((Parser.string "\r\n").or (.string "\n")).matcher call).Reads s ending
      rest v ∧ ending ≠ [] by
    obtain ⟨v, hread, hne⟩ := hends
    exact ⟨v, (((hread.choice hne).named "line end").choice hne).named "new line"⟩
  simp only [List.mem_cons, List.not_mem_nil, or_false] at h
  rcases h with rfl | rfl
  · refine ⟨_, Matcher.Fails.or ?_ (Parser.string_reads call s "\n" rest), List.cons_ne_nil _ _⟩
    apply Parser.string_fails
    simp
  · refine ⟨_, (Parser.string_reads call s "\r\n" rest).choice ?_, List.cons_ne_nil _ _⟩
    decide

theorem lineTerminator_reads_nil :
    (Parser.lineTerminator.matcher call).Reads s [] [] (.str "") := by
  have hfails : ∀ literal : String, literal.toList ≠ [] →
      ((Parser.string literal).matcher call).Fails s [] :=
    fun literal hne => (Parser.string_declines_nil hne).fails
  have hend : (Parser.endOfInput.matcher call).Reads s [] [] .unit :=
    fun c hc => Parser.endOfInput_of_atEnd call s hc
  have hline : (Parser.lineEnd.matcher call).Fails s [] :=
    (((hfails "\r\n" (by decide)).either (hfails "\n" (by decide))).either
      (hfails "\r" (by decide))).named "line end"
  exact (hline.or (hend.map fun _ => .str "")).named "new line"

theorem row_reads (hfields : List.Forall₂ WritesField fields texts) (hne : fields ≠ [])
    (hrest : EndsRow (ending ++ rest)) {v : Value}
    (hending : (Parser.lineTerminator.matcher call).Reads s ending rest v) :
    (row.matcher call).Reads s ([','].intercalate texts ++ ending) rest (.texts fields) := by
  have hcomma : ((Parser.char (.exactly ',')).matcher call).Declines s (ending ++ rest) := by
    apply Parser.char_declines
    intro ch hch haccepts
    obtain rfl : ch = ',' := of_decide_eq_true haccepts
    exact absurd (hrest ',' hch) (by decide)
  have htexts : texts ≠ [] := by
    rintro rfl
    exact hne (List.forall₂_nil_right_iff.mp hfields)
  have hvalues : List.Forall₂ HasField texts
      (fields.map fun content => .str (String.ofList content)) := by
    rw [List.forall₂_map_right_iff]
    exact hfields.flip.imp fun text content htext => ⟨content, htext, rfl⟩
  have hread := (delimits_fields call s).reads false hrest.ends hcomma hvalues htexts
  exact (hread.and hending).map Value.first

/-- At the end of the text a row of one empty field is read, which ends the rows. -/
theorem row_halts : (row.matcher call).Halts true s [] := by
  have hfield : WritesField [] [] := .bare (List.forall_mem_nil _) (by decide)
  have hnone : EndsRow ([] ++ []) := by
    rintro _ ⟨⟩
  exact (row_reads (.cons hfield .nil) (List.cons_ne_nil _ _) hnone lineTerminator_reads_nil).halts

theorem row_rounds {rows : List (List (List Char))} {lines : List (List Char)}
    (h : List.Forall₂ WritesRow rows lines) (hrows : ∀ fields ∈ rows, fields ≠ []) :
    (row.matcher call).Rounds s lines.flatten [] (rows.map Value.texts) := by
  induction h with
  | nil => exact .nil []
  | @cons fields line rows lines hline _ ih =>
    obtain ⟨hfirst, hmore⟩ := List.forall_mem_cons.mp hrows
    cases hline with
    | intro hfields hending =>
      obtain ⟨v, hread⟩ := lineTerminator_reads call s hending (lines.flatten ++ [])
      have hends := endsRow_of_ending hending (lines.flatten ++ [])
      refine .cons (row_reads hfields hfirst hends hread) ?_ (ih hmore)
      apply List.append_ne_nil_of_right_ne_nil
      rintro rfl
      exact absurd hending (by decide)

end Reading

end Table

/-- **Tables are read back.**  Every table whose rows have fields can be written, and however
    that is done, field by field with quotes or without them and row by row with either end of
    a line, the parser for tables comes back with its rows. -/
theorem World.table_read_back (rows : List (List (List Char)))
    (hrows : ∀ fields ∈ rows, fields ≠ []) (w : World) :
    (∃ text, Table.Writes rows text) ∧
    ∀ text, Table.Writes rows text →
      ∃ w', w.parse Table.records text = some (.ok (.list (rows.map Value.texts)), w') := by
  refine ⟨Table.exists_writes rows, ?_⟩
  rintro _ ⟨hlines⟩
  apply parse_of_reads
  intro n u
  exact (Table.row_rounds hlines hrows).many Table.row_halts

/-- A field with a quote at its end, an empty field behind it, and a row of nothing else. -/
theorem World.table_read_back_quotes :
    let rows := [[['h', '"'], []], [[]]]
    let text := ['"', 'h', '"', '"', '"', ',', '\r', '\n', '\n']
    (∀ fields ∈ rows, fields ≠ []) ∧ Table.Writes rows text ∧
      ∃ w', empty.parse Table.records text = some (.ok (.list (rows.map Value.texts)), w') := by
  intro rows text
  have hrows : ∀ fields ∈ rows, fields ≠ [] := by decide
  have hempty : Table.WritesField [] [] := .bare (List.forall_mem_nil _) (by decide)
  have hfirst : Table.WritesRow [['h', '"'], []] ['"', 'h', '"', '"', '"', ',', '\r', '\n'] :=
    .intro (.cons (.quoted _) (.cons hempty .nil)) (by decide : ['\r', '\n'] ∈ _)
  have hsecond : Table.WritesRow [[]] ['\n'] :=
    .intro (.cons hempty .nil) (by decide : ['\n'] ∈ _)
  have htext : Table.Writes rows text := .intro (.cons hfirst (.cons hsecond .nil))
  obtain ⟨-, hread⟩ := table_read_back rows hrows empty
  exact ⟨hrows, htext, hread text htext⟩

end Descent
