import EventMapLint.Report
import Mathlib.Data.List.Infix

/-! The text of a parse error read back. A separator of two different characters cannot begin in a piece that is free
of it and end behind that piece, so a joined text falls apart again where it was joined. -/

namespace EventMapLint

namespace Text

/-- A text around the first place where two characters follow each other: what is before them, and what is behind. -/
def cut? (first second : Char) : List Char → Option (List Char × List Char)
  | [] | [_] => none
  | c :: d :: rest =>
      if c = first ∧ d = second then some ([], rest)
      else (cut? first second (d :: rest)).map fun (before, after) => (c :: before, after)

section

variable {first second : Char}

theorem cut?_here (rest : List Char) : cut? first second (first :: second :: rest) = some ([], rest) := by
  rw [cut?, if_pos ⟨rfl, rfl⟩]

theorem cut?_further {c : Char} {rest : List Char} (other : ¬ [first, second] <+: c :: rest) :
    cut? first second (c :: rest) = (cut? first second rest).map fun (before, after) => (c :: before, after) := by
  cases rest with
  | nil => rfl
  | cons d rest =>
    rw [cut?, if_neg]
    rintro ⟨rfl, rfl⟩
    exact other (List.prefix_append [c, d] rest)

theorem cut?_of_free {before : List Char} (free : ¬ [first, second] <:+: before ++ [first]) (after : List Char) :
    cut? first second (before ++ first :: second :: after) = some (before, after) := by
  induction before with
  | nil => exact cut?_here after
  | cons c before ih =>
    rw [List.cons_append, List.infix_cons_iff, not_or] at free
    obtain ⟨start, further⟩ := free
    -- A separator at the front would lie within `before` and the character behind it.
    have other : ¬ [first, second] <+: c :: (before ++ first :: second :: after) := by
      intro begins
      exact start (List.prefix_of_prefix_length_le begins ⟨second :: after, by simp⟩ (by simp))
    rw [List.cons_append, cut?_further other, ih further]
    rfl

/-- A text is cut where the separator stands and has not stood before. -/
theorem cut?_eq_some_iff {text before after : List Char} :
    cut? first second text = some (before, after) ↔
      text = before ++ first :: second :: after ∧ ¬ [first, second] <:+: before ++ [first] := by
  constructor
  · intro found
    induction text generalizing before with
    | nil => cases found
    | cons c rest ih =>
      by_cases here : [first, second] <+: c :: rest
      · obtain ⟨rest, same⟩ := here
        rw [← same, List.cons_append, List.singleton_append, cut?_here] at found
        cases found
        exact ⟨same.symm, fun inside => absurd inside.length_le (by simp)⟩
      · rw [cut?_further here] at found
        obtain ⟨⟨before, after⟩, later, same⟩ := Option.map_eq_some_iff.mp found
        cases same
        obtain ⟨rfl, free⟩ := ih later
        refine ⟨rfl, ?_⟩
        rw [List.cons_append, List.infix_cons_iff, not_or]
        exact ⟨fun begins => here (begins.trans ⟨second :: after, by simp⟩), free⟩
  · rintro ⟨rfl, free⟩
    exact cut?_of_free free after

theorem cut?_eq_none {text : List Char} (free : ¬ [first, second] <:+: text) : cut? first second text = none := by
  refine Option.eq_none_iff_forall_ne_some.mpr ?_
  rintro ⟨before, after⟩ found
  obtain ⟨rfl, _⟩ := cut?_eq_some_iff.mp found
  exact free ⟨before, after, by simp⟩

theorem length_lt_of_cut? {text before after : List Char} (found : cut? first second text = some (before, after)) :
    after.length < text.length := by
  obtain ⟨rfl, _⟩ := cut?_eq_some_iff.mp found
  simp only [List.length_append, List.length_cons]
  omega

end

/-- The pieces of a text that is cut again and again, from left to right. -/
def pieces (first second : Char) (text : List Char) : List (List Char) :=
  match _ : cut? first second text with
  | none => [text]
  | some (before, after) => before :: pieces first second after
termination_by text.length
decreasing_by exact length_lt_of_cut? ‹_›

section

variable {first second : Char}

theorem pieces_of_free {text : List Char} (free : ¬ [first, second] <:+: text) : pieces first second text = [text] := by
  rw [pieces]
  split
  · rfl
  · rename_i found
    cases (cut?_eq_none free).symm.trans found

theorem pieces_of_cut? {text before after : List Char} (found : cut? first second text = some (before, after)) :
    pieces first second text = before :: pieces first second after := by
  rw [pieces]
  split
  · rename_i missing
    cases missing.symm.trans found
  · rename_i found'
    cases found'.symm.trans found
    rfl

/-- The separator does not begin with the last character of a piece and end behind it. -/
theorem free_concat (distinct : first ≠ second) {piece : List Char} (free : ¬ [first, second] <:+: piece) :
    ¬ [first, second] <:+: piece ++ [first] := by
  intro inside
  rcases List.infix_concat_iff.mp inside with ⟨before, ends⟩ | within
  · have last := congrArg List.getLast? ends
    rw [List.getLast?_concat, List.getLast?_append] at last
    exact distinct (Option.some.inj last).symm
  · exact free within

/-- What lacks the first character of the separator brings no separator in when it is put before a text. -/
theorem free_append {before text : List Char} (absent : first ∉ before) (free : ¬ [first, second] <:+: text) :
    ¬ [first, second] <:+: before ++ text := by
  induction before with
  | nil => exact free
  | cons c before ih =>
    have ⟨other, absent⟩ : first ≠ c ∧ first ∉ before := by simpa using absent
    rw [List.cons_append, List.infix_cons_iff, not_or]
    exact ⟨fun begins => other (List.cons_prefix_cons.mp begins).1, ih absent⟩

theorem cut?_append (distinct : first ≠ second) {piece : List Char} (free : ¬ [first, second] <:+: piece)
    (after : List Char) : cut? first second (piece ++ first :: second :: after) = some (piece, after) :=
  cut?_of_free (free_concat distinct free) after

theorem pieces_intercalate (distinct : first ≠ second) {texts : List (List Char)} (nonempty : texts ≠ [])
    (free : ∀ text ∈ texts, ¬ [first, second] <:+: text) :
    pieces first second ([first, second].intercalate texts) = texts := by
  induction texts with
  | nil => exact absurd rfl nonempty
  | cons text more ih =>
    have ⟨own, others⟩ := List.forall_mem_cons.mp free
    cases more with
    | nil => rw [List.intercalate_singleton, pieces_of_free own]
    | cons next more =>
      have cut := cut?_append distinct own ([first, second].intercalate (next :: more))
      rw [List.intercalate_cons_cons, List.append_assoc, List.cons_append, List.singleton_append, pieces_of_cut? cut,
        ih (List.cons_ne_nil next more) others]

end

end Text

open Text

namespace LintError

/-- A filename and reasons in which nothing looks like what stands between them in the text of a parse error. -/
structure Plain (filename : String) (messages : List String) : Prop where
  filename : ¬ [':', ' '] <:+: filename.toList
  nonempty : messages ≠ []
  messages : ∀ message ∈ messages, ¬ [';', ' '] <:+: message.toList

theorem toList_message_parse (filename : String) (messages : List String) :
    (parse filename messages).message.toList =
      ("failed to parse " ++ filename).toList ++ ':' :: ' ' :: [';', ' '].intercalate (messages.map String.toList) := by
  have form : (parse filename messages).message =
      "failed to parse " ++ filename ++ ": " ++ "; ".intercalate messages := rfl
  rw [form, String.toList_append, String.toList_append, String.toList_intercalate, List.append_assoc]
  rfl

section

variable {filename other : String} {messages others : List String}

theorem Plain.cut?_message (plain : Plain filename messages) :
    cut? ':' ' ' (parse filename messages).message.toList =
      some (("failed to parse " ++ filename).toList, [';', ' '].intercalate (messages.map String.toList)) := by
  rw [toList_message_parse]
  apply cut?_append (by decide)
  rw [String.toList_append]
  exact free_append (by decide) plain.filename

theorem Plain.pieces_intercalate (plain : Plain filename messages) :
    pieces ';' ' ' ([';', ' '].intercalate (messages.map String.toList)) = messages.map String.toList := by
  apply Text.pieces_intercalate (by decide)
  · exact fun none => plain.nonempty (List.map_eq_nil_iff.mp none)
  · exact List.forall_mem_map.mpr plain.messages

theorem Plain.eq_of_message_eq (plain : Plain filename messages) (plain' : Plain other others)
    (same : (parse filename messages).message = (parse other others).message) :
    filename = other ∧ messages = others := by
  have cut := plain.cut?_message
  rw [same, plain'.cut?_message, Option.some.injEq, Prod.mk.injEq] at cut
  obtain ⟨before, reasons⟩ := cut
  constructor
  · rw [String.toList_append, String.toList_append, List.append_cancel_left_eq] at before
    exact (String.toList_inj.mp before).symm
  · have split := plain.pieces_intercalate
    rw [← reasons, plain'.pieces_intercalate] at split
    exact (List.map_injective_iff.mpr (fun _ _ => String.toList_inj.mp) split).symm

end

/-- The text of a parse error can be read back. Before the first colon with a blank behind it stands the filename, and
what follows falls apart into the reasons where a semicolon has a blank behind it. So errors of one text are equal. -/
theorem message_parse_read_back (filename : String) (messages : List String) (plain : Plain filename messages) :
    (∃ reasons,
      cut? ':' ' ' (parse filename messages).message.toList = some (("failed to parse " ++ filename).toList, reasons) ∧
        (pieces ';' ' ' reasons).map String.ofList = messages) ∧
    ∀ other others, Plain other others → (parse other others).message = (parse filename messages).message →
      parse other others = parse filename messages := by
  constructor
  · refine ⟨_, plain.cut?_message, ?_⟩
    rw [plain.pieces_intercalate, List.map_map]
    simp
  · intro other others plain' same
    obtain ⟨rfl, rfl⟩ := plain'.eq_of_message_eq plain same
    rfl

/-- The filename ends with a colon, and of the reasons one ends with a semicolon, one is empty and one starts with a
blank. -/
theorem message_parse_read_back_edges :
    Plain "a.js:" ["b;", "", " c"] ∧ (parse "a.js:" ["b;", "", " c"]).message = "failed to parse a.js:: b;; ;  c" ∧
      ∃ reasons,
        cut? ':' ' ' (parse "a.js:" ["b;", "", " c"]).message.toList =
          some (("failed to parse " ++ "a.js:").toList, reasons) ∧
        (pieces ';' ' ' reasons).map String.ofList = ["b;", "", " c"] := by
  have plain : Plain "a.js:" ["b;", "", " c"] := ⟨by decide, by decide, by decide⟩
  exact ⟨plain, by decide, (message_parse_read_back "a.js:" ["b;", "", " c"] plain).1⟩

end LintError

end EventMapLint
