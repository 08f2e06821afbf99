/-
This file finds the placeholders of a text: what stands between two opening braces and the first
two closing braces behind them. The search goes on behind a placeholder, so placeholders do not
overlap, and opening braces that are never closed are ordinary text.
-/

import ChatFlow.Text.Blank

namespace ChatFlow

/-- A placeholder, with the text before it back to the placeholder before. -/
structure Placeholder where
  before : List Char
  inside : List Char
deriving DecidableEq, Repr

/-- A text cut at its placeholders, and what stands behind the last one. -/
structure Pieces where
  placeholders : List Placeholder
  rest : List Char
deriving DecidableEq, Repr

namespace Pieces

/-- Cuts a text at the first place where a character stands twice, and drops the two. -/
def cutPair (mark : Char) : List Char → Option (List Char × List Char)
  | first :: second :: rest =>
    if first = mark && second = mark then some ([], rest)
    else (cutPair mark (second :: rest)).map fun (before, after) => (first :: before, after)
  | _ => none

theorem length_of_cutPair {mark : Char} {text before after : List Char}
    (found : cutPair mark text = some (before, after)) :
    before.length + after.length + 2 = text.length := by
  fun_induction cutPair mark text generalizing before after with
  | case1 first second rest both => simp_all
  | case2 first second rest both inductionHypothesis =>
    obtain ⟨⟨start, last⟩, inner, joined⟩ := Option.map_eq_some_iff.1 found
    cases joined
    have := inductionHypothesis inner
    simp only [List.length_cons] at *
    omega
  | case3 => simp at found

/-- The first placeholder of a text, and what stands behind it. -/
def next? (text : List Char) : Option (Placeholder × List Char) :=
  match cutPair '\x7b' text with
  | none => none
  | some (before, opened) =>
    (cutPair '\x7d' opened).map fun (inside, after) => ({ before, inside }, after)

theorem length_of_next? {text after : List Char} {placeholder : Placeholder}
    (found : next? text = some (placeholder, after)) :
    placeholder.inside.length + after.length < text.length := by
  unfold next? at found
  split at found
  · simp at found
  · rename_i before opened first
    obtain ⟨⟨inside, last⟩, second, joined⟩ := Option.map_eq_some_iff.1 found
    cases joined
    have := length_of_cutPair first
    have := length_of_cutPair second
    simp only
    omega

/-- A text cut at its placeholders. -/
def ofText (text : List Char) : Pieces :=
  match _found : next? text with
  | none => ⟨[], text⟩
  | some (placeholder, after) =>
    let pieces := ofText after
    { pieces with placeholders := placeholder :: pieces.placeholders }
termination_by text.length
decreasing_by
  have := length_of_next? _found
  omega

/-- What a placeholder holds is shorter than the text. -/
theorem length_lt_of_mem {text : List Char} {placeholder : Placeholder}
    (member : placeholder ∈ (ofText text).placeholders) :
    placeholder.inside.length < text.length := by
  fun_induction ofText text with
  | case1 => simp at member
  | case2 text first after found pieces inductionHypothesis =>
    have := length_of_next? found
    rcases List.mem_cons.1 member with rfl | member
    · omega
    · have := inductionHypothesis member
      omega

/-- The expressions in the placeholders, without the blanks around them. -/
def expressions (text : List Char) : List (List Char) :=
  (ofText text).placeholders.map fun placeholder => Text.trim placeholder.inside

end Pieces

end ChatFlow
