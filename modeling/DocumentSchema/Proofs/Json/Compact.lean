import DocumentSchema.Proofs.Json.RoundTrip

/-!
JSON text without blanks.

The text that `Json.compact` writes is cut into the same pieces as the text on several lines
(`cutsTo_compact`), so that it is read as the same structure (`treeOfText?_compact`).
-/

namespace DocumentSchema.Json

/-- Texts with commas between them, ahead of a closing bracket. -/
theorem cutsAt_commaSeparated {lines : List String} {ls : List (List Lexeme)} (closing : Char)
    (mark : isMark closing = true)
    (each : List.Forall₂ (fun line l => CutsTo line.toList l) lines ls) :
    CutsAt ((commaSeparated lines).toList ++ [closing]) (separated ls ++ [.mark closing]) := by
  induction each with
  | nil => exact cutsAt_mark mark
  | @cons line l lines ls here others ih =>
    cases others with
    | nil =>
      simpa [commaSeparated, separated] using
        here.append ⟨closing, [], rfl, .inl mark⟩ (cutsAt_mark mark)
    | @cons next m lines ls =>
      have comma := (cutsAt_mark (c := ',') rfl).append ih
      have ends : EndsWord (',' :: ((commaSeparated (next :: lines)).toList ++ [closing])) :=
        ⟨',', _, rfl, .inl rfl⟩
      simpa [commaSeparated, separated] using here.append ends comma

mutual

theorem cutsTo_compact (j : Json) (numbers : j.NumbersReadBack) :
    CutsTo j.compact.toList j.pieces := by
  match j with
  | .null =>
    rw [compact, pieces]
    exact cutsTo_word (List.cons_ne_nil _ _) (List.all_eq_true.1 rfl)
  | .bool true =>
    rw [compact, pieces, if_pos rfl]
    exact cutsTo_word (List.cons_ne_nil _ _) (List.all_eq_true.1 rfl)
  | .bool false =>
    rw [compact, pieces, if_neg Bool.false_ne_true]
    exact cutsTo_word (List.cons_ne_nil _ _) (List.all_eq_true.1 rfl)
  | .int n => exact (wordTree?_number (ofChars?_int numbers)).1
  | .float x => exact (wordTree?_number numbers).1
  | .str text => exact (cutsAt_quote text).cutsTo
  | .array items =>
    have rest := cutsAt_commaSeparated ']' rfl (cutsTo_compactItems items numbers)
    rw [compact, pieces]
    simpa using ((cutsAt_mark (c := '[') rfl).append rest).cutsTo
  | .object members =>
    have rest := cutsAt_commaSeparated '\x7d' rfl (cutsTo_compactMembers members numbers)
    rw [compact, pieces]
    simpa using ((cutsAt_mark (c := '\x7b') rfl).append rest).cutsTo
termination_by structural j

theorem cutsTo_compactItems (items : List Json) (numbers : ItemsReadBack items) :
    List.Forall₂ (fun line l => CutsTo line.toList l) (compactItems items) (itemPieces items) := by
  match items with
  | [] => exact .nil
  | item :: rest =>
    exact .cons (cutsTo_compact item numbers.1) (cutsTo_compactItems rest numbers.2)
termination_by structural items

theorem cutsTo_compactMembers (members : List (String × Json))
    (numbers : MembersReadBack members) :
    List.Forall₂ (fun line l => CutsTo line.toList l) (compactMembers members)
      (memberPieces members) := by
  match members with
  | [] => exact .nil
  | (name, member) :: rest =>
    have line := ((cutsAt_quote name).append (cutsAt_mark (c := ':') rfl)).append_cutsTo
      (cutsTo_compact member numbers.1)
    refine .cons ?_ (cutsTo_compactMembers rest numbers.2)
    simpa [String.toList_append] using line
termination_by structural members

end

/-- The text that is written without blanks has the structure of the value. -/
theorem treeOfText?_compact {j : Json} (numbers : j.NumbersReadBack) :
    treeOfText? j.compact = some j.tree := by
  have cut := lexemes?_of_cutsTo (cutsTo_compact j numbers)
  have read := reads_pieces j numbers [] .value (.inl rfl)
  rw [treeOfText?, cut]
  simp only [Option.bind_eq_bind, Option.bind_some, read]
  rfl

end DocumentSchema.Json
