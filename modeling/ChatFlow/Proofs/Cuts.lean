/-
This file says where texts are cut: behind a beginning, at the first occurrence of a character, at
the first place where a character stands twice, and at a placeholder, which is two cuts of the last
kind. Each cut is described by how the pieces make up the text and by what the first of them is free
of.
-/

import ChatFlow.Expression.Placeholder
import ChatFlow.Text.Search
import Mathlib.Data.List.Infix

namespace ChatFlow

namespace Text

theorem afterStart_eq_some_iff {beginning text rest : List Char} :
    afterStart beginning text = some rest ↔ text = beginning ++ rest := by
  fun_induction afterStart beginning text with
  | case1 text => exact Option.some_inj
  | case2 expected beginning => exact iff_of_false nofun nofun
  | case3 beginning letter text inductionHypothesis =>
    rw [inductionHypothesis, List.cons_append, List.cons_inj_right]
  | case4 expected beginning letter text other =>
    exact iff_of_false nofun fun same => other (List.cons.inj same).1.symm

theorem behind_eq_some_iff {beginning text rest : String} :
    behind beginning text = some rest ↔ text = beginning ++ rest := by
  rw [behind, Option.map_eq_some_iff, ← String.toList_inj, String.toList_append]
  constructor
  · rintro ⟨letters, found, rfl⟩
    rw [afterStart_eq_some_iff.mp found, String.toList_ofList]
  · intro same
    exact ⟨rest.toList, afterStart_eq_some_iff.mpr same, String.ofList_toList⟩

/-- A cut of a text that goes on behind its first character. -/
theorem map_cons_eq_some_iff {cut : Option (List Char × List Char)} {first : Char}
    {before after : List Char} :
    (cut.map fun (start, rest) => (first :: start, rest)) = some (before, after) ↔
      ∃ start, before = first :: start ∧ cut = some (start, after) := by
  rw [Option.map_eq_some_iff]
  constructor
  · rintro ⟨⟨start, rest⟩, found, same⟩
    cases same
    exact ⟨start, rfl, found⟩
  · rintro ⟨start, rfl, found⟩
    exact ⟨(start, after), found, rfl⟩

/-- A text is cut at the separator before which there is none. -/
theorem splitOnce_eq_some_iff {separator : Char} {text before after : List Char} :
    splitOnce separator text = some (before, after) ↔
      text = before ++ separator :: after ∧ separator ∉ before := by
  fun_induction splitOnce separator text generalizing before with
  | case1 => simp
  | case2 rest =>
    cases before with
    | nil => simp
    | cons letter letters => grind
  | case3 first rest other inductionHypothesis =>
    rw [map_cons_eq_some_iff]
    simp only [inductionHypothesis]
    cases before with
    | nil => grind
    | cons letter letters => grind

theorem splitOnce_eq_none_iff {separator : Char} {text : List Char} :
    splitOnce separator text = none ↔ separator ∉ text := by
  induction text with
  | nil => simp [splitOnce]
  | cons letter rest inductionHypothesis =>
    rw [splitOnce, List.mem_cons, not_or]
    split
    · rename_i same
      exact iff_of_false (Option.some_ne_none _) fun apart => apart.1 same.symm
    · rename_i other
      rw [Option.map_eq_none_iff, inductionHypothesis]
      exact (and_iff_right (Ne.symm other)).symm

end Text

namespace Pieces

theorem pair_infix_cons_iff {mark first : Char} {rest : List Char} :
    [mark, mark] <:+: first :: rest ↔
      (first = mark ∧ rest.head? = some mark) ∨ [mark, mark] <:+: rest := by
  have second : [mark] <+: rest ↔ rest.head? = some mark := by
    cases rest with
    | nil => simp
    | cons letter letters => simp [eq_comm]
  rw [List.infix_cons_iff, List.cons_prefix_cons, second, eq_comm]

/-- A text is cut at the two marks before which no two marks stand side by side, the first of the
two included. -/
theorem cutPair_eq_some_iff {mark : Char} {text before after : List Char} :
    cutPair mark text = some (before, after) ↔
      text = before ++ mark :: mark :: after ∧ ¬ [mark, mark] <:+: before ++ [mark] := by
  have single : ¬ [mark, mark] <:+: [mark] := fun inside => by simpa using inside.length_le
  have next (letters : List Char) : (letters ++ [mark]).head? =
      (letters ++ mark :: mark :: after).head? := by
    rw [List.head?_append, List.head?_append, List.head?_cons, List.head?_cons]
  fun_induction cutPair mark text generalizing before with
  | case1 first second rest both =>
    rw [Bool.and_eq_true, decide_eq_true_iff, decide_eq_true_iff] at both
    obtain ⟨rfl, rfl⟩ := both
    cases before with
    | nil => simp [single]
    | cons letter letters =>
      refine iff_of_false (fun same => by cases same) ?_
      rintro ⟨joined, apart⟩
      have behind : second :: rest = letters ++ second :: second :: after :=
        (List.cons.inj joined).2
      rw [List.cons_append, pair_infix_cons_iff, next, ← behind] at apart
      exact apart (.inl ⟨(List.cons.inj joined).1.symm, rfl⟩)
  | case2 first second rest other inductionHypothesis =>
    rw [Text.map_cons_eq_some_iff]
    simp only [inductionHypothesis]
    cases before with
    | nil => grind
    | cons letter letters =>
      simp only [List.cons_append, pair_infix_cons_iff, next]
      grind
  | case3 text short =>
    refine iff_of_false (Option.some_ne_none _).symm ?_
    rintro ⟨rfl, -⟩
    cases before with
    | nil => exact short _ _ _ rfl
    | cons letter letters => cases letters <;> exact short _ _ _ rfl

theorem cutPair_eq_none_iff {mark : Char} {text : List Char} :
    cutPair mark text = none ↔ ¬ [mark, mark] <:+: text := by
  fun_induction cutPair mark text with
  | case1 first second rest both =>
    rw [Bool.and_eq_true, decide_eq_true_iff, decide_eq_true_iff] at both
    simp [pair_infix_cons_iff, both]
  | case2 first second rest other inductionHypothesis =>
    rw [Option.map_eq_none_iff, inductionHypothesis, @pair_infix_cons_iff _ first]
    grind
  | case3 text short =>
    refine iff_of_true rfl fun inside => ?_
    have long := inside.length_le
    cases text with
    | nil => simp at long
    | cons first rest =>
      cases rest with
      | nil => simp at long
      | cons second rest => exact short _ _ _ rfl

/-- A placeholder is found between the first two opening braces and the first two closing braces
behind them. -/
theorem next?_eq_some_iff {text after : List Char} {placeholder : Placeholder} :
    next? text = some (placeholder, after) ↔
      text = placeholder.before ++
          '\x7b' :: '\x7b' :: (placeholder.inside ++ '\x7d' :: '\x7d' :: after) ∧
        ¬ ['\x7b', '\x7b'] <:+: placeholder.before ++ ['\x7b'] ∧
        ¬ ['\x7d', '\x7d'] <:+: placeholder.inside ++ ['\x7d'] := by
  constructor
  · intro found
    unfold next? at found
    split at found
    · cases found
    · rename_i before opened first
      obtain ⟨⟨inside, last⟩, second, joined⟩ := Option.map_eq_some_iff.mp found
      cases joined
      obtain ⟨rfl, unopened⟩ := cutPair_eq_some_iff.mp first
      obtain ⟨rfl, unclosed⟩ := cutPair_eq_some_iff.mp second
      exact ⟨rfl, unopened, unclosed⟩
  · rintro ⟨rfl, unopened, unclosed⟩
    rw [next?, cutPair_eq_some_iff.mpr ⟨rfl, unopened⟩]
    dsimp only
    rw [cutPair_eq_some_iff.mpr ⟨rfl, unclosed⟩]
    rfl

theorem ofText_of_next? {text after : List Char} {placeholder : Placeholder}
    (found : next? text = some (placeholder, after)) :
    ofText text = ⟨placeholder :: (ofText after).placeholders, (ofText after).rest⟩ := by
  rw [ofText]
  split
  · rename_i missing
    rw [found] at missing
    cases missing
  · rename_i first rest same
    cases found.symm.trans same
    rfl

theorem ofText_of_next?_eq_none {text : List Char} (missing : next? text = none) :
    ofText text = ⟨[], text⟩ := by
  rw [ofText]
  split
  · rfl
  · rename_i found
    rw [missing] at found
    cases found

end Pieces
end ChatFlow
