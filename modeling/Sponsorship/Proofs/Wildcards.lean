import Sponsorship.Sql.Selection

/-!
# Sponsorship.Proofs.Wildcards

What the pattern of a search stands for.

* `Wild`, `pieces?`: a pattern piece by piece; a backslash takes the next character as it is.
* `Matches`, `Like`: the texts that a pattern stands for. A percent sign may stand for any of several
  parts of a text, so this is a relation.
* `guarded`: a backslash before each of one character; `escaped_eq_guarded` puts the escapes of a text
  together from three of these, of which the one for the backslash comes first.
* `search_patterns_exact`: the pattern that a search is sent with stands for the texts that contain the
  text that is looked for.
-/

namespace Sponsorship.Sql

/-! ## Patterns -/

/-- What a piece of a pattern stands for. -/
inductive Wild
  | anyText
  | anyChar
  | exactly (c : Char)
  deriving DecidableEq

/-- The pieces of a pattern; none if it ends in a backslash with nothing after it. -/
def pieces? : List Char → Option (List Wild)
  | [] => some []
  | ['\\'] => none
  | '\\' :: c :: rest => (pieces? rest).map (.exactly c :: ·)
  | '%' :: rest => (pieces? rest).map (.anyText :: ·)
  | '_' :: rest => (pieces? rest).map (.anyChar :: ·)
  | c :: rest => (pieces? rest).map (.exactly c :: ·)

/-- The texts that pieces stand for, one after the other. -/
inductive Matches : List Wild → List Char → Prop
  | nil : Matches [] []
  | anyText (skipped : List Char) {ws : List Wild} {cs : List Char} (h : Matches ws cs) :
      Matches (.anyText :: ws) (skipped ++ cs)
  | anyChar (c : Char) {ws : List Wild} {cs : List Char} (h : Matches ws cs) :
      Matches (.anyChar :: ws) (c :: cs)
  | exactly (c : Char) {ws : List Wild} {cs : List Char} (h : Matches ws cs) :
      Matches (.exactly c :: ws) (c :: cs)

/-- The text is one of those that the pattern stands for. -/
def Like (text pattern : String) : Prop :=
  ∃ ws, pieces? pattern.toList = some ws ∧ Matches ws text.toList

theorem matches_nil {cs : List Char} : Matches [] cs ↔ cs = [] :=
  ⟨fun h => by cases h; rfl, fun h => h ▸ .nil⟩

theorem matches_anyText {ws : List Wild} {cs : List Char} :
    Matches (.anyText :: ws) cs ↔ ∃ skipped rest, skipped ++ rest = cs ∧ Matches ws rest := by
  constructor
  · intro h
    cases h with
    | anyText skipped h => exact ⟨skipped, _, rfl, h⟩
  · rintro ⟨skipped, rest, rfl, h⟩
    exact .anyText skipped h

/-- Characters that stand for themselves stand for one text. -/
theorem matches_exactly {t : List Char} {ws : List Wild} {cs : List Char} :
    Matches (t.map .exactly ++ ws) cs ↔ ∃ rest, t ++ rest = cs ∧ Matches ws rest := by
  induction t generalizing cs with
  | nil => simp
  | cons c t ih =>
    rw [List.map_cons, List.cons_append]
    constructor
    · intro h
      cases h with
      | exactly _ h =>
        obtain ⟨rest, rfl, hrest⟩ := ih.mp h
        exact ⟨rest, rfl, hrest⟩
    · rintro ⟨rest, rfl, hrest⟩
      exact .exactly c (ih.mpr ⟨rest, rfl, hrest⟩)

/-! ## Escapes -/

/-- An escaped character is one piece, whatever comes after it. -/
theorem pieces?_escapedChar (c : Char) (rest : List Char) :
    pieces? (escapedChar c ++ rest) = (pieces? rest).map (.exactly c :: ·) := by
  unfold escapedChar
  split
  · rfl
  · rename_i h
    simp only [not_or] at h
    obtain ⟨hbackslash, hpercent, hunderscore⟩ := h
    rw [List.singleton_append, pieces?] <;> simp_all

theorem pieces?_escaped (t rest : List Char) :
    pieces? (escaped t ++ rest) = (pieces? rest).map (t.map .exactly ++ ·) := by
  induction t with
  | nil => simp [escaped]
  | cons c t ih =>
    have hcons : escaped (c :: t) = escapedChar c ++ escaped t := rfl
    rw [hcons, List.append_assoc, pieces?_escapedChar, ih, Option.map_map]
    rfl

/-- The text with a backslash before every `c`. -/
def guarded (c : Char) (t : List Char) : List Char :=
  t.flatMap fun x => if x = c then ['\\', c] else [x]

/-- The backslashes of a text come first: later they would not be told from those of the escapes. -/
theorem escaped_eq_guarded (t : List Char) :
    escaped t = guarded '_' (guarded '%' (guarded '\\' t)) := by
  unfold escaped guarded
  rw [List.flatMap_assoc, List.flatMap_assoc]
  congr 1
  funext c
  unfold escapedChar
  by_cases hbackslash : c = '\\'
  · subst hbackslash; decide
  by_cases hpercent : c = '%'
  · subst hpercent; decide
  by_cases hunderscore : c = '_'
  · subst hunderscore; decide
  simp [hbackslash, hpercent, hunderscore]

example : guarded '\\' (guarded '%' ['%']) ≠ escaped ['%'] := by decide

/-! ## Searches -/

theorem containing_toList (t : String) : (containing t).toList = '%' :: escaped t.toList ++ ['%'] :=
  String.toList_ofList

/-- The pattern for what contains a text: the text itself between two places for any text. -/
theorem pieces?_containing (t : String) : pieces? (containing t).toList =
    some (.anyText :: (t.toList.map .exactly ++ [.anyText])) := by
  rw [containing_toList, List.cons_append, pieces?, pieces?_escaped]
  rfl

theorem like_containing_iff (t s : String) : Like s (containing t) ↔ t.toList <:+: s.toList := by
  unfold Like
  rw [pieces?_containing]
  simp only [Option.some.injEq, exists_eq_left', matches_anyText, matches_exactly, matches_nil]
  constructor
  · rintro ⟨before, _, hs, _, rfl, after, _, rfl, rfl⟩
    exact ⟨before, after, by simpa using hs⟩
  · rintro ⟨before, after, hs⟩
    exact ⟨before, t.toList ++ after, by simpa using hs, after, rfl, after, [], by simp, rfl⟩

/-- The name filter of a search is sent with the pattern for the name that is looked for, if one is
given. The pattern for a text is the text, with backslashes before its backslashes, its percent signs
and its underscores in this order, between percent signs. It is a whole pattern, and it stands for
exactly the texts that contain the text. -/
theorem search_patterns_exact :
    (∀ criteria : SearchCriteria,
      ((filters criteria).find? fun f => f.front = " AND o.name ILIKE ").map Filter.value =
        criteria.givenName?.map containing) ∧
    ∀ t : String,
      (containing t).toList =
        '%' :: guarded '_' (guarded '%' (guarded '\\' t.toList)) ++ ['%'] ∧
      (pieces? (containing t).toList).isSome = true ∧
      ∀ s : String, Like s (containing t) ↔ t.toList <:+: s.toList := by
  refine ⟨fun criteria => ?_, fun t => ⟨?_, ?_, like_containing_iff t⟩⟩
  · unfold filters
    cases criteria.givenName? <;> cases criteria.givenItem? <;> cases criteria.givenVariant? <;>
      simp
  · rw [containing_toList, escaped_eq_guarded]
  · rw [pieces?_containing]
    rfl

end Sponsorship.Sql
