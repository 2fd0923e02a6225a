import Mathlib.Data.List.Chain
import Stackwright.Proofs.Expr.Placeholders

/-!
# Substitution texts composed of pieces

A substitution text is a row of pieces, each a literal text or a placeholder, and it may end in an
opener that is never closed. Reading the placeholders of a composed text gives back the names that
were put in, in order and with repetitions, all but those that start with an exclamation mark. Every
text is composed so, hence reading comes to an end on every text and no other reader of names does
the same (`placeholders_composed`).
-/

namespace Stackwright.Expr

/-- A piece of a substitution text. -/
inductive Piece where
  | literal (text : String)
  | placeholder (name : String)
deriving DecidableEq, Repr

namespace Piece

def text : Piece → String
  | .literal text => text
  | .placeholder name => "$\x7b" ++ name ++ "\x7d"

/-- The name that the piece puts in; one that starts with an exclamation mark stands for itself. -/
def name? : Piece → Option String
  | .literal _ => none
  | .placeholder name => if name.toList.head? = some '!' then none else some name

def IsLiteral : Piece → Prop
  | .literal _ => True
  | .placeholder _ => False

/-- A literal text holds no opener, and a name holds no closing brace. -/
def Plain : Piece → Prop
  | .literal text => ¬ ['$', '{'] <:+: text.toList
  | .placeholder name => '}' ∉ name.toList

instance : DecidablePred IsLiteral
  | .literal _ => .isTrue trivial
  | .placeholder _ => .isFalse id

instance : DecidablePred Plain
  | .literal text => inferInstanceAs (Decidable (¬ ['$', '{'] <:+: text.toList))
  | .placeholder name => inferInstanceAs (Decidable ('}' ∉ name.toList))

end Piece

/-- A way to compose a substitution text. A literal may be empty or end in a dollar sign, and a name
may hold further openers. -/
structure Composition where
  pieces : List Piece
  /-- What follows an opener that is never closed, if there is one. -/
  unclosed : Option String := none
  plain : ∀ piece ∈ pieces, piece.Plain
  /-- No two literals are adjacent, since an opener could arise between them. -/
  apart : pieces.IsChain fun a b => ¬ (a.IsLiteral ∧ b.IsLiteral)
  staysOpen : ∀ rest ∈ unclosed, '}' ∉ rest.toList

namespace Composition

/-- What follows the pieces. -/
def ending (c : Composition) : String := c.unclosed.elim "" fun rest => "$\x7b" ++ rest

/-- The pieces one after the other, and then the opener that is never closed. -/
def text (c : Composition) : String := String.join (c.pieces.map Piece.text) ++ c.ending

/-- The names that are put in. -/
def names (c : Composition) : List String := c.pieces.filterMap Piece.name?

/-- The ending alone. -/
def ofEnding (unclosed : Option String) (staysOpen : ∀ rest ∈ unclosed, '}' ∉ rest.toList) :
    Composition :=
  ⟨[], unclosed, fun _ absent => (List.not_mem_nil absent).elim, .nil, staysOpen⟩

/-- One more piece before the others. -/
def cons (piece : Piece) (c : Composition) (plain : piece.Plain)
    (apart : ∀ next ∈ c.pieces.head?, ¬ (piece.IsLiteral ∧ next.IsLiteral)) : Composition where
  pieces := piece :: c.pieces
  unclosed := c.unclosed
  plain := List.forall_mem_cons.mpr ⟨plain, c.plain⟩
  apart := List.isChain_cons.mpr ⟨apart, c.apart⟩
  staysOpen := c.staysOpen

/-- Without the first piece. -/
def tail (c : Composition) : Composition where
  pieces := c.pieces.tail
  unclosed := c.unclosed
  plain := fun piece member => c.plain piece (List.mem_of_mem_tail member)
  apart := c.apart.tail
  staysOpen := c.staysOpen

/-- A composition without pieces is the text of its ending. -/
theorem text_ofEnding (unclosed : Option String)
    (staysOpen : ∀ rest ∈ unclosed, '}' ∉ rest.toList) :
    (ofEnding unclosed staysOpen).text = unclosed.elim "" fun rest => "$\x7b" ++ rest := by
  rw [text, ofEnding, List.map_nil, String.join_nil, String.empty_append, ending]

@[simp] theorem pieces_tail (c : Composition) : c.tail.pieces = c.pieces.tail := rfl

@[simp] theorem ending_tail (c : Composition) : c.tail.ending = c.ending := rfl

/-- The text of a composition is that of its first piece and of the rest. -/
theorem text_of_pieces {c : Composition} {piece : Piece} {rest : List Piece}
    (pieces : c.pieces = piece :: rest) : c.text = piece.text ++ c.tail.text := by
  rw [text, text, pieces_tail, ending_tail, pieces, List.map_cons, String.join_cons,
    String.append_assoc, List.tail_cons]

/-- A piece put in front puts its text in front. -/
theorem text_cons {piece : Piece} {c : Composition} (plain : piece.Plain)
    (apart : ∀ next ∈ c.pieces.head?, ¬ (piece.IsLiteral ∧ next.IsLiteral)) :
    (c.cons piece plain apart).text = piece.text ++ c.text :=
  text_of_pieces rfl

end Composition

/-- An opener that is never closed opens no placeholder. -/
theorem placeholders_unclosed {rest : String} (unclosed : '}' ∉ rest.toList) :
    placeholders ("$\x7b" ++ rest) = [] := by
  have text : ("$\x7b" ++ rest).toList = '$' :: '{' :: rest.toList := by simp
  rw [placeholders, text, placeholdersOf_unclosed (splitClose_eq_none_iff.mpr unclosed),
    List.map_nil]

/-- Where a literal must not begin, the text does not go on with an opening brace. -/
theorem head?_join_append_ne {pieces : List Piece} {ending : String}
    (begins : ∀ piece ∈ pieces.head?, ¬ piece.IsLiteral) (ends : ending.toList.head? ≠ some '{') :
    (String.join (pieces.map Piece.text) ++ ending).toList.head? ≠ some '{' := by
  cases pieces with
  | nil => simpa [String.join_nil] using ends
  | cons piece rest =>
    cases piece with
    | literal text => exact (begins _ (List.head?_cons ..) trivial).elim
    | placeholder name => simp [String.join_cons, Piece.text]

/-- Each piece gives back its name, and what follows the pieces none. -/
theorem placeholders_join_append {pieces : List Piece} {ending : String}
    (plain : ∀ piece ∈ pieces, piece.Plain)
    (apart : pieces.IsChain fun a b => ¬ (a.IsLiteral ∧ b.IsLiteral))
    (silent : placeholders ending = []) (ends : ending.toList.head? ≠ some '{') :
    placeholders (String.join (pieces.map Piece.text) ++ ending) =
      pieces.filterMap Piece.name? := by
  induction pieces with
  | nil => simpa [String.join_nil] using silent
  | cons piece rest ih =>
    obtain ⟨follows, apartRest⟩ := List.isChain_cons.mp apart
    have readRest := ih (fun p member => plain p (List.mem_cons_of_mem _ member)) apartRest
    have here := plain piece List.mem_cons_self
    rw [List.map_cons, String.join_cons, String.append_assoc]
    cases piece with
    | literal text =>
      have separate := head?_join_append_ne
        (fun next first literal => follows next first ⟨trivial, literal⟩) ends
      rw [Piece.text, placeholders_append here fun _ => separate, readRest]
      rfl
    | placeholder name =>
      have braces : (Piece.placeholder name).text = Stackwright.placeholder name := rfl
      rw [braces, placeholders_placeholder_append here, readRest, List.filterMap_cons, Piece.name?]
      split <;> rfl

/-- The placeholders of a composed text are the names that it was composed of. -/
theorem placeholders_text (c : Composition) : placeholders c.text = c.names := by
  apply placeholders_join_append c.plain c.apart
  · cases open? : c.unclosed with
    | none => simp [Composition.ending, open?, placeholders, placeholdersOf]
    | some rest =>
      rw [Composition.ending, open?, Option.elim_some]
      exact placeholders_unclosed (c.staysOpen rest open?)
  · cases open? : c.unclosed <;> simp [Composition.ending, open?]

/-- A literal can be put before a composed text that does not begin with one. -/
theorem exists_composition_literal {literal : List Char} (plain : ¬ ['$', '{'] <:+: literal)
    (c : Composition) (begins : ∀ piece ∈ c.pieces.head?, ¬ piece.IsLiteral) :
    ∃ c' : Composition, c'.text.toList = literal ++ c.text.toList := by
  have plainPiece : (Piece.literal (String.ofList literal)).Plain := by
    simpa [Piece.Plain] using plain
  refine ⟨c.cons _ plainPiece fun next first literals => begins next first literals.2, ?_⟩
  rw [Composition.text_cons, String.toList_append, Piece.text, String.toList_ofList]

/-- A character can be put before a composed text if no opener arises: it joins the literal that
the text begins with, or is one. -/
theorem exists_composition_char {first : Char} (c : Composition)
    (noOpener : ∀ rest, first = '$' → c.text.toList = '{' :: rest → False) :
    ∃ c' : Composition, c'.text.toList = first :: c.text.toList := by
  by_cases begins : ∀ piece ∈ c.pieces.head?, ¬ piece.IsLiteral
  · have plain : ¬ ['$', '{'] <:+: [first] := fun inner => by simpa using inner.length_le
    exact exists_composition_literal plain c begins
  · obtain ⟨text, rest, pieces⟩ : ∃ text rest, c.pieces = .literal text :: rest := by
      cases pieces : c.pieces with
      | nil => simp [pieces] at begins
      | cons piece rest => cases piece <;> simp_all [Piece.IsLiteral]
    have plainText : (Piece.literal text).Plain := c.plain _ (by simp [pieces])
    have whole : c.text.toList = text.toList ++ c.tail.text.toList := by
      rw [Composition.text_of_pieces pieces, String.toList_append, Piece.text]
    have plainLonger : ¬ ['$', '{'] <:+: first :: text.toList := by
      rw [List.infix_cons_iff]
      rintro (⟨more, opens⟩ | inner)
      · rw [List.cons_append, List.cons.injEq] at opens
        refine noOpener (more ++ c.tail.text.toList) opens.1.symm ?_
        rw [whole, ← opens.2]
        rfl
      · exact plainText inner
    have follows := (List.isChain_cons.mp (pieces ▸ c.apart)).1
    have beginsRest : ∀ next ∈ c.tail.pieces.head?, ¬ next.IsLiteral := by
      intro next begun literal
      rw [Composition.pieces_tail, pieces, List.tail_cons] at begun
      exact follows next begun ⟨trivial, literal⟩
    obtain ⟨longer, spelled⟩ := exists_composition_literal plainLonger c.tail beginsRest
    exact ⟨longer, by rw [spelled, whole, List.cons_append]⟩

/-- The pieces are what the reader meets in its rounds. -/
theorem exists_composition (text : List Char) : ∃ c : Composition, c.text.toList = text := by
  induction text using placeholdersOf.induct with
  | case1 text name after found _ escaped ih | case2 text name after found _ plain ih =>
    obtain ⟨c, rfl⟩ := ih
    obtain ⟨rfl, closed⟩ := splitClose_some found
    have plainPiece : (Piece.placeholder (String.ofList name)).Plain := by
      simpa [Piece.Plain] using closed
    refine ⟨c.cons _ plainPiece fun _ _ literals => literals.1.elim, ?_⟩
    rw [Composition.text_cons, String.toList_append]
    simp [Piece.text]
  | case3 text unclosed =>
    refine ⟨.ofEnding (some (String.ofList text)) ?_, ?_⟩
    · simpa using splitClose_eq_none_iff.mp unclosed
    · simp [Composition.text_ofEnding]
  | case4 first text noOpener ih =>
    obtain ⟨c, rfl⟩ := ih
    exact exists_composition_char c noOpener
  | case5 => exact ⟨.ofEnding none (by simp), by simp [Composition.text_ofEnding]⟩

/-- **Placeholders of composed texts.** The placeholders of a composed text are the names that were
put in; every text is composed in some way, so reading names from texts like this is reading
placeholders. -/
theorem placeholders_composed :
    (∀ c : Composition, placeholders c.text = c.names) ∧
      (∀ text, ∃ c : Composition, c.text = text) ∧
      ∀ read : String → List String, (∀ c : Composition, read c.text = c.names) →
        read = placeholders := by
  have composed : ∀ text, ∃ c : Composition, c.text = text := by
    intro text
    obtain ⟨c, spelled⟩ := exists_composition text.toList
    exact ⟨c, String.toList_inj.mp spelled⟩
  refine ⟨placeholders_text, composed, fun read inverts => funext fun text => ?_⟩
  obtain ⟨c, rfl⟩ := composed text
  rw [inverts, placeholders_text]

/-- A dollar sign before an opener, an opener inside a name, an escaped name, and an opener that is
never closed. -/
def tangled : Composition where
  pieces := [.literal "$", .placeholder "a$\x7bb", .placeholder "!c", .literal "-$"]
  unclosed := some "d"
  plain := by decide
  apart := by decide
  staysOpen := by decide

example : placeholders tangled.text = ["a$\x7bb"] := by decide +kernel

end Stackwright.Expr
