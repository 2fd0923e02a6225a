import Stackwright.Proofs.Json.Compact
import Stackwright.Proofs.Json.Words

/-!
# Lexemes of printed text

The text that is printed for a value with one member or item a line is cut into the lexemes of that
value (`lex?_pretty`), as long as its whole numbers have 64 bits and it has no other numbers.
-/

namespace Stackwright.Json

/-- The ways in which a character is written between quotes. -/
inductive Escape (c : Char) : List Char → Prop
  | plain (quote : c ≠ '"') (backslash : c ≠ '\\') (large : 32 ≤ c.toNat) : Escape c [c]
  | short (s : Char) (means : shortEscape? s = some c) : Escape c ['\\', s]
  | code (a b : Char) (means : Text.number? 16 ['0', '0', a, b] = some c.toNat)
      (small : c.toNat < 32) (apart : ∀ x ∈ [a, b], x ≠ '"' ∧ x ≠ '\\') :
      Escape c ['\\', 'u', '0', '0', a, b]

/-- Every character is written as one unit that can be read. -/
theorem escape_escapeChar (c : Char) : Escape c (escapeChar c) := by
  by_cases special : c ∈ escaped
  · have shorts : ∀ c ∈ ['"', '\\', '\n', '\r', '\t', '\x08', '\x0c'],
        ∃ s ∈ ['"', '\\', 'n', 'r', 't', 'b', 'f'], escapeChar c = ['\\', s] ∧
          shortEscape? s = some c := by decide
    have codes : ∀ c ∈ escaped, c ∉ ['"', '\\', '\n', '\r', '\t', '\x08', '\x0c'] →
        escapeChar c = ['\\', 'u', '0', '0', hexDigit (c.toNat / 16), hexDigit (c.toNat % 16)] ∧
          Text.number? 16 ['0', '0', hexDigit (c.toNat / 16), hexDigit (c.toNat % 16)] =
            some c.toNat ∧ c.toNat < 32 ∧
          ∀ x ∈ [hexDigit (c.toNat / 16), hexDigit (c.toNat % 16)], x ≠ '"' ∧ x ≠ '\\' := by
      decide +kernel
    by_cases abbreviated : c ∈ ['"', '\\', '\n', '\r', '\t', '\x08', '\x0c']
    · obtain ⟨s, _, spelled, means⟩ := shorts c abbreviated
      exact spelled ▸ .short s means
    · obtain ⟨spelled, means, small, apart⟩ := codes c special abbreviated
      exact spelled ▸ .code _ _ means small apart
  · have large : 32 ≤ c.toNat := by
      refine Nat.le_of_not_lt fun small => special ?_
      simp only [escaped, List.mem_cons]
      exact .inr (.inr (List.mem_map.mpr ⟨c.toNat, List.mem_range.mpr small, Char.ofNat_toNat c⟩))
    rw [escapeChar_of_not_mem special]
    refine .plain ?_ ?_ large <;> rintro rfl <;> exact special (by decide)

/-- Inside a text a written character is passed over as a whole. -/
theorem lex?_escape {c : Char} {code : List Char} (escape : Escape c code) (rest seen : List Char)
    (done : List Lexeme) :
    lex? (code ++ rest) (.content seen false) done =
      lex? rest (.content (code.reverse ++ seen) false) done := by
  cases escape with
  | plain quote backslash large => simp [lex?, quote, backslash]
  | short s means => simp [lex?]
  | code a b means small apart =>
    simp only [List.forall_mem_cons] at apart
    simp [lex?, apart]

/-- A plain character is joined as it is. -/
theorem joinUnits_char (c : Char) (us : List Unit16) :
    joinUnits (.char c :: us) = (joinUnits us).map (c :: ·) := by
  rw [joinUnits]
  cases joinUnits us <;> rfl

/-- An escaped control character is joined as that character. -/
theorem joinUnits_escape {c : Char} (small : c.toNat < 32) (us : List Unit16) :
    joinUnits (.escape c.toNat :: us) = (joinUnits us).map (c :: ·) := by
  have low : ¬ 0xDC00 ≤ c.toNat := by omega
  have high : ¬ 0xD800 ≤ c.toNat := by omega
  rw [joinUnits.eq_def]
  simp only [low, high, decide_false, Bool.false_and, Bool.false_eq_true, if_false,
    Char.ofNat_toNat]
  cases joinUnits us <;> rfl

/-- A written character is read as one unit, which joins to the character. -/
theorem units?_escape {c : Char} {code : List Char} (escape : Escape c code) {rest : List Char}
    {units : List Unit16} (read : units? rest = some units) :
    ∃ u, units? (code ++ rest) = some (u :: units) ∧
      ∀ us, joinUnits (u :: us) = (joinUnits us).map (c :: ·) := by
  cases escape with
  | plain quote backslash large =>
    refine ⟨.char c, ?_, joinUnits_char c⟩
    simp [units?, read, backslash, large, guard]
  | short s means =>
    have other : s ≠ 'u' := by
      rintro rfl
      cases means
    refine ⟨.char c, ?_, joinUnits_char c⟩
    simp [units?, read, means, other]
  | code a b means small apart =>
    refine ⟨.escape c.toNat, ?_, joinUnits_escape small⟩
    simp [units?, read, means]

/-- What is between the quotes reads as the characters. -/
theorem exists_units?_escaped (cs : List Char) :
    ∃ units, units? (cs.flatMap escapeChar) = some units ∧ joinUnits units = .ok cs := by
  induction cs with
  | nil => exact ⟨[], by simp [units?], by simp [joinUnits]⟩
  | cons c rest ih =>
    obtain ⟨units, read, joined⟩ := ih
    obtain ⟨u, first, steps⟩ := units?_escape (escape_escapeChar c) read
    exact ⟨u :: units, first, by rw [steps, joined]; rfl⟩

/-- Inside a text written characters are passed over. -/
theorem lex?_escaped (cs rest seen : List Char) (done : List Lexeme) :
    lex? (cs.flatMap escapeChar ++ rest) (.content seen false) done =
      lex? rest (.content ((cs.flatMap escapeChar).reverse ++ seen) false) done := by
  induction cs generalizing seen with
  | nil => rfl
  | cons c tail ih =>
    rw [List.flatMap_cons, List.append_assoc, lex?_escape (escape_escapeChar c), ih,
      List.reverse_append, List.append_assoc]

/-- A quoted text is one lexeme, with the text that was quoted. -/
theorem lex?_quote (s : String) (rest : List Char) (done : List Lexeme) :
    lex? ((quote s).toList ++ rest) .nothing done = lex? rest .nothing (.text (.ok s) :: done) := by
  obtain ⟨units, read, joined⟩ := exists_units?_escaped s.toList
  have opening : ∀ after, lex? ('"' :: after) .nothing done = lex? after (.content [] false) done :=
    fun after => by simp [lex?, isBlank]
  rw [toList_quote, List.cons_append, opening, List.append_assoc, lex?_escaped]
  simp [lex?, read, joined, Except.map]

/-- The text is over, or goes on with a blank or with a mark. -/
def Stops (rest : List Char) : Prop := ∀ c ∈ rest.head?, isBlank c = true ∨ (mark? c).isSome = true

/-- A character that may stand in a word. -/
def IsWordly (c : Char) : Prop := isBlank c = false ∧ c ≠ '"' ∧ mark? c = none

theorem isWordly_of_not_mem {c : Char}
    (plain : c ∉ [' ', '\t', '\n', '\r', '"', '[', ']', '{', '}', ',', ':']) : IsWordly c := by
  simp only [List.mem_cons, List.not_mem_nil, or_false, not_or] at plain
  refine ⟨by simp [isBlank, plain], by simp [plain], ?_⟩
  unfold mark?
  simp [plain]

/-- The characters of a word are collected. -/
theorem lex?_word_append {word : List Char} (wordly : ∀ c ∈ word, IsWordly c)
    (rest seen : List Char) (done : List Lexeme) :
    lex? (word ++ rest) (.word seen) done = lex? rest (.word (word.reverse ++ seen)) done := by
  induction word generalizing seen with
  | nil => rfl
  | cons c tail ih =>
    obtain ⟨blank, quote, mark⟩ := wordly c List.mem_cons_self
    rw [List.cons_append, lex?]
    simp only [blank, quote, mark, Bool.false_eq_true, if_false]
    rw [ih fun d member => wordly d (List.mem_cons_of_mem c member), List.reverse_cons,
      List.append_assoc]
    rfl

/-- A word that stands for a value is one lexeme, with this value. -/
theorem lex?_word {word : List Char} {value : Written} (wordly : ∀ c ∈ word, IsWordly c)
    (means : atom? word = some value) (filled : word ≠ []) {rest : List Char} (stops : Stops rest)
    (done : List Lexeme) :
    lex? (word ++ rest) .nothing done = lex? rest .nothing (.atom value :: done) := by
  obtain ⟨c, tail, rfl⟩ := List.exists_cons_of_ne_nil filled
  obtain ⟨blank, quote, mark⟩ := wordly c List.mem_cons_self
  rw [List.cons_append, lex?]
  simp only [blank, quote, mark, Bool.false_eq_true, if_false]
  rw [lex?_word_append fun d member => wordly d (List.mem_cons_of_mem c member)]
  have flushed : flush? (tail.reverse ++ [c]) done = some (.atom value :: done) := by
    simp [flush?, means]
  cases rest with
  | nil => simp [lex?, flushed]
  | cons next after =>
    rcases stops next rfl with ends | ends
    · simp [lex?, flushed, ends]
    · obtain ⟨lexeme, marked⟩ := Option.isSome_iff_exists.mp ends
      have unquoted : next ≠ '"' := by
        rintro rfl
        cases marked
      by_cases ends : isBlank next = true <;> simp [lex?, flushed, ends, unquoted, marked]

/-- A printed whole number is one lexeme, with this number. -/
theorem lex?_integer {n : Int} (fits : Fits n) {rest : List Char} (stops : Stops rest)
    (done : List Lexeme) :
    lex? ((toString n).toList ++ rest) .nothing done =
      lex? rest .nothing (.atom (.integer n) :: done) := by
  have wordly : ∀ c ∈ (toString n).toList, IsWordly c := by
    intro c member
    have apart : ∀ d ∈ [' ', '\t', '\n', '\r', '"', '[', ']', '{', '}', ',', ':'],
        ¬ (d.isDigit = true ∨ d = '-') := by decide
    refine isWordly_of_not_mem fun special => apart c special ?_
    exact isDigit_or_minus_of_mem_toString member
  exact lex?_word wordly (atom?_toString fits) (toString_int_ne_nil n) stops done

theorem lex?_bool (b : Bool) {rest : List Char} (stops : Stops rest) (done : List Lexeme) :
    lex? ((compact (.bool b)).toList ++ rest) .nothing done =
      lex? rest .nothing (.atom (.bool b) :: done) := by
  have wordly : ∀ b, ∀ c ∈ (compact (.bool b)).toList, IsWordly c := by
    unfold IsWordly
    decide
  cases b <;> exact lex?_word (wordly _) (by rfl) (by decide) stops done

/-- A value that its text gives back: no name is repeated, whole numbers have 64 bits, other numbers
and null do not occur, and at most `depth` containers stand inside each other. -/
inductive Portable : Nat → Json → Prop
  | bool {depth : Nat} (b : Bool) : Portable depth (.bool b)
  | integer {depth : Nat} {n : Int} (fits : Fits n) : Portable depth (.integer n)
  | string {depth : Nat} (s : String) : Portable depth (.string s)
  | array {depth : Nat} {items : List Json} (each : ∀ item ∈ items, Portable depth item) :
      Portable (depth + 1) (.array items)
  | object {depth : Nat} {members : List (String × Json)}
      (distinct : (members.map Prod.fst).Nodup)
      (each : ∀ member ∈ members, Portable depth member.2) : Portable (depth + 1) (.object members)

mutual

/-- The lexemes of a value. -/
def lexemes : Json → List Lexeme
  | .null => [.atom .null]
  | .bool b => [.atom (.bool b)]
  | .integer n => [.atom (.integer n)]
  | .float x => [.atom (.float x)]
  | .string s => [.text (.ok s)]
  | .array [] => [.openArray, .closeArray]
  | .array (item :: rest) => .openArray :: (lexemes item ++ itemLexemes rest ++ [.closeArray])
  | .object [] => [.openObject, .closeObject]
  | .object ((name, value) :: rest) =>
    .openObject :: .text (.ok name) :: .colon :: (lexemes value ++ memberLexemes rest
      ++ [.closeObject])

/-- The lexemes of the items after the first. -/
def itemLexemes : List Json → List Lexeme
  | [] => []
  | item :: rest => .comma :: (lexemes item ++ itemLexemes rest)

/-- The lexemes of the members after the first. -/
def memberLexemes : List (String × Json) → List Lexeme
  | [] => []
  | (name, value) :: rest =>
    .comma :: .text (.ok name) :: .colon :: (lexemes value ++ memberLexemes rest)

end

/-- The printed text of the value, at any level, has the lexemes of the value. -/
def Lexes (j : Json) : Prop := ∀ level rest done, Stops rest →
  lex? ((prettyAt level j).toList ++ rest) .nothing done =
    lex? rest .nothing ((lexemes j).reverse ++ done)

/-- Line ends and indentation are skipped. -/
theorem lex?_newline (level : Nat) (rest : List Char) (done : List Lexeme) :
    lex? ((newline level).toList ++ rest) .nothing done = lex? rest .nothing done := by
  have blanks : ∀ n, lex? (List.replicate n ' ' ++ rest) .nothing done =
      lex? rest .nothing done := by
    intro n
    induction n with
    | zero => rfl
    | succ n ih => simp [List.replicate_succ, lex?, isBlank, ih]
  simp [newline, lex?, isBlank, blanks]

/-- A mark is one lexeme. -/
theorem lex?_mark {c : Char} {mark : Lexeme} (marked : mark? c = some mark)
    (other : isBlank c = false ∧ c ≠ '"') (rest : List Char) (done : List Lexeme) :
    lex? (c :: rest) .nothing done = lex? rest .nothing (mark :: done) := by
  simp [lex?, marked, other]

/-- A word stops at a line end. -/
theorem stops_newline (level : Nat) (rest : List Char) :
    Stops ((newline level).toList ++ rest) := by
  rw [newline, String.toList_append, List.append_assoc]
  rintro c ⟨⟩
  exact .inl (by decide)

theorem stops_cons {c : Char} (marked : (mark? c).isSome = true) (rest : List Char) :
    Stops (c :: rest) := by
  rintro d ⟨⟩
  exact .inr marked

/-- A word stops where the next items of a list follow. -/
theorem stops_prettyItems (level : Nat) (items : List Json) {rest : List Char}
    (stops : Stops rest) : Stops ((prettyItems level items).toList ++ rest) := by
  cases items with
  | nil => exact stops
  | cons item tail =>
    simp only [prettyItems, String.toList_append, List.append_assoc]
    exact stops_cons (by decide) _

theorem stops_prettyMembers (level : Nat) (members : List (String × Json)) {rest : List Char}
    (stops : Stops rest) : Stops ((prettyMembers level members).toList ++ rest) := by
  cases members with
  | nil => exact stops
  | cons member tail =>
    simp only [prettyMembers, String.toList_append, List.append_assoc]
    exact stops_cons (by decide) _

/-- Printed items have the lexemes of the items, with commas between. -/
theorem lex?_prettyItems {items : List Json} (each : ∀ item ∈ items, Lexes item) (level : Nat)
    {rest : List Char} (stops : Stops rest) (done : List Lexeme) :
    lex? ((prettyItems level items).toList ++ rest) .nothing done =
      lex? rest .nothing ((itemLexemes items).reverse ++ done) := by
  induction items generalizing done with
  | nil => rfl
  | cons item tail ih =>
    rw [List.forall_mem_cons] at each
    have comma : ",".toList = [','] := rfl
    simp only [prettyItems, String.toList_append, List.append_assoc, comma, List.cons_append,
      List.nil_append]
    rw [lex?_mark rfl (by decide), lex?_newline,
      each.1 level _ _ (stops_prettyItems level tail stops), ih each.2]
    simp [itemLexemes]

/-- A printed member has the lexemes of its name and its value. -/
theorem lex?_member {name : String} {value : Json} (lexes : Lexes value) (level : Nat)
    {rest : List Char} (stops : Stops rest) (done : List Lexeme) :
    lex? ((quote name).toList ++ (':' :: ' ' :: ((prettyAt level value).toList ++ rest))) .nothing
        done =
      lex? rest .nothing ((lexemes value).reverse ++ .colon :: .text (.ok name) :: done) := by
  have blank : ∀ after more, lex? (' ' :: after) .nothing more = lex? after .nothing more :=
    fun after more => by simp [lex?, isBlank]
  rw [lex?_quote, lex?_mark rfl (by decide), blank, lexes level _ _ stops]

theorem lex?_prettyMembers {members : List (String × Json)}
    (each : ∀ member ∈ members, Lexes member.2) (level : Nat)
    {rest : List Char} (stops : Stops rest) (done : List Lexeme) :
    lex? ((prettyMembers level members).toList ++ rest) .nothing done =
      lex? rest .nothing ((memberLexemes members).reverse ++ done) := by
  induction members generalizing done with
  | nil => rfl
  | cons member tail ih =>
    rw [List.forall_mem_cons] at each
    have comma : ",".toList = [','] := rfl
    have colon : ": ".toList = [':', ' '] := rfl
    simp only [prettyMembers, String.toList_append, List.append_assoc, comma, colon,
      List.cons_append, List.nil_append]
    rw [lex?_mark rfl (by decide), lex?_newline,
      lex?_member each.1 level (stops_prettyMembers level tail stops), ih each.2]
    simp [memberLexemes]

/-- A printed list has its lexemes if its items have theirs. -/
theorem lexes_array {items : List Json} (each : ∀ item ∈ items, Lexes item) :
    Lexes (.array items) := by
  intro level rest done stops
  cases items with
  | nil =>
    have empty : "[]".toList = ['[', ']'] := rfl
    simp only [prettyAt, empty, List.cons_append, List.nil_append]
    rw [lex?_mark rfl (by decide), lex?_mark rfl (by decide)]
    rfl
  | cons item tail =>
    rw [List.forall_mem_cons] at each
    have opening : "[".toList = ['['] := rfl
    have closing : "]".toList = [']'] := rfl
    simp only [prettyAt, String.toList_append, List.append_assoc, opening, closing,
      List.cons_append, List.nil_append]
    rw [lex?_mark rfl (by decide), lex?_newline,
      each.1 _ _ _ (stops_prettyItems _ tail (stops_newline level _)),
      lex?_prettyItems each.2 _ (stops_newline level _), lex?_newline, lex?_mark rfl (by decide)]
    simp [lexemes]

theorem lexes_object {members : List (String × Json)}
    (each : ∀ member ∈ members, Lexes member.2) : Lexes (.object members) := by
  intro level rest done stops
  cases members with
  | nil =>
    have empty : "\x7b\x7d".toList = ['{', '}'] := rfl
    simp only [prettyAt, empty, List.cons_append, List.nil_append]
    rw [lex?_mark rfl (by decide), lex?_mark rfl (by decide)]
    rfl
  | cons member tail =>
    rw [List.forall_mem_cons] at each
    have opening : "\x7b".toList = ['{'] := rfl
    have closing : "\x7d".toList = ['}'] := rfl
    have colon : ": ".toList = [':', ' '] := rfl
    simp only [prettyAt, String.toList_append, List.append_assoc, opening, closing, colon,
      List.cons_append, List.nil_append]
    rw [lex?_mark rfl (by decide), lex?_newline,
      lex?_member each.1 _ (stops_prettyMembers _ tail (stops_newline level _)),
      lex?_prettyMembers each.2 _ (stops_newline level _), lex?_newline,
      lex?_mark rfl (by decide)]
    simp [lexemes]

/-- A portable value is printed with its lexemes. -/
theorem lexes_of_portable {depth : Nat} {j : Json} (portable : Portable depth j) : Lexes j := by
  induction portable with
  | bool b =>
    intro level rest done stops
    have same : prettyAt level (.bool b) = compact (.bool b) := by
      cases b <;> simp only [prettyAt, compact]
    rw [same, lex?_bool b stops]
    simp [lexemes]
  | integer fits =>
    intro level rest done stops
    rw [prettyAt, lex?_integer fits stops]
    simp [lexemes]
  | string s =>
    intro level rest done _
    rw [prettyAt, lex?_quote]
    simp [lexemes]
  | array _ ih => exact lexes_array ih
  | object _ _ ih => exact lexes_object ih

/-- The printed text of a portable value has the lexemes of the value. -/
theorem lex?_pretty {depth : Nat} {j : Json} (portable : Portable depth j) :
    lex? j.pretty.toList .nothing [] = some (lexemes j) := by
  have ends : Stops [] := by
    rintro c ⟨⟩
  have cut := lexes_of_portable portable 0 [] [] ends
  rw [List.append_nil, List.append_nil] at cut
  rw [pretty, cut, lex?, List.reverse_reverse]

end Stackwright.Json
