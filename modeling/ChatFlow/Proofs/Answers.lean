/-
This file says how far the text of an answer names the answer. Answers are written as the handles
that they lead to, and a text that can be read is the handle of what is read.

Behind the word for a choice a handle is cut at its first colon. An answer is therefore read back
from its handle unless it is a choice from a menu with a colon in its identifier; then what stands
behind the colon goes to the value, and the handle is read as a choice that overlaps this one.
-/

import ChatFlow.Proofs.Components
import ChatFlow.Proofs.Cuts

namespace ChatFlow

namespace Interaction

/-- A pressed button, or a choice from a menu without a colon in its identifier. -/
inductive Plain : Interaction → Prop where
  | button (id : String) : Plain (.button id)
  | select {menu : String} (whole : ':' ∉ menu.toList) (value : String) : Plain (.select menu value)

theorem plain_select_iff {menu value : String} :
    (select menu value).Plain ↔ ':' ∉ menu.toList :=
  ⟨fun | .select whole _ => whole, fun whole => .select whole value⟩

/-- A text is read as the plain answer whose handle it is. -/
theorem ofText?_eq_some_iff {text : String} {response : Interaction} :
    ofText? text = some response ↔ response.handle = text ∧ response.Plain := by
  rw [ofText?]
  split
  · rename_i id pressed
    rw [Text.behind_eq_some_iff] at pressed
    rw [Option.some_inj]
    constructor
    · rintro rfl
      exact ⟨pressed.symm, .button id⟩
    · rintro ⟨same, _⟩
      have shared : response.handle = (button id).handle := same.trans pressed
      rcases handle_eq_handle_iff.mp shared with equal | overlaps | overlaps
      · exact equal.symm
      · cases overlaps
      · cases overlaps
  · rename_i other
    simp only [Option.bind_eq_bind, Option.bind_eq_some_iff, Text.behind_eq_some_iff, Prod.exists,
      Text.splitOnce_eq_some_iff]
    constructor
    · rintro ⟨rest, rfl, menu, value, ⟨cut, whole⟩, same⟩
      cases same
      refine ⟨?_, plain_select_iff.mpr (by rwa [String.toList_ofList])⟩
      rw [← String.toList_inj, toList_handle_select, String.toList_append, cut]
      simp only [String.toList_ofList]
    · rintro ⟨rfl, plain⟩
      cases plain with
      | button id =>
        have pressed : Text.behind "button:" (button id).handle = some id :=
          Text.behind_eq_some_iff.mpr rfl
        rw [pressed] at other
        cases other
      | @select menu whole value =>
        refine ⟨menu ++ ":" ++ value, ?_, menu.toList, value.toList, ⟨?_, whole⟩, ?_⟩
        · rw [handle, optionHandle, String.append_assoc, String.append_assoc, String.append_assoc]
        · rw [String.toList_append, String.toList_append, List.append_assoc]
          rfl
        · rw [String.ofList_toList, String.ofList_toList]
          rfl

/-- A choice from a menu with a colon in its identifier shares its handle with a plain choice of
another value from another menu. -/
theorem exists_overlaps_of_not_plain {response : Interaction} (mixed : ¬ response.Plain) :
    ∃ menu value other choice, response = select menu value ∧
      (select other choice).Overlaps response ∧ (select other choice).Plain ∧
      other ≠ menu ∧ choice ≠ value := by
  cases response with
  | button id => exact absurd (.button id) mixed
  | select menu value =>
    rw [plain_select_iff, Classical.not_not] at mixed
    obtain ⟨front, back, letters, whole⟩ := List.eq_append_cons_of_mem mixed
    have joined : menu = String.ofList front ++ ":" ++ String.ofList back := by
      rw [← String.toList_inj, letters]
      simp
    rw [← String.toList_ofList (l := front)] at whole
    refine ⟨menu, value, String.ofList front, String.ofList back ++ ":" ++ value, rfl, ?_,
      .select whole _, fun same => ?_, fun same => ?_⟩
    · rw [joined]
      exact .select _ _ value
    · have longer := congrArg String.length (same.trans joined)
      simp only [String.length_append] at longer
      have : ":".length = 1 := rfl
      omega
    · have longer := congrArg String.length same
      simp only [String.length_append] at longer
      have : ":".length = 1 := rfl
      omega

/-- A text that is read as an answer is the handle of this answer. An answer is read back from its
handle just when it is plain; any other is read as a choice of another value from another menu. -/
theorem ofText?_handle (text : String) (response : Interaction) :
    (ofText? text = some response → response.handle = text) ∧
      (ofText? response.handle = some response ↔ response.Plain) ∧
      (¬ response.Plain → ∃ menu value other choice, response = select menu value ∧
        ofText? response.handle = some (select other choice) ∧ other ≠ menu ∧ choice ≠ value) := by
  refine ⟨fun read => (ofText?_eq_some_iff.mp read).1, ?_, fun mixed => ?_⟩
  · rw [ofText?_eq_some_iff, and_iff_right rfl]
  · obtain ⟨menu, value, other, choice, chosen, overlaps, plain, apart⟩ :=
      exists_overlaps_of_not_plain mixed
    have shared : (select other choice).handle = response.handle :=
      handle_eq_handle_iff.mpr (.inr (.inl overlaps))
    exact ⟨menu, value, other, choice, chosen, ofText?_eq_some_iff.mpr ⟨shared, plain⟩, apart⟩

/-- The morning of a Monday, chosen from a menu for the times of a day, is read as a time of another
menu. -/
theorem ofText?_handle_of_colon :
    ¬ (select "day:mon" "am").Plain ∧
      ∃ other choice, ofText? (select "day:mon" "am").handle = some (select other choice) ∧
        other ≠ "day:mon" ∧ choice ≠ "am" := by
  have mixed : ¬ (select "day:mon" "am").Plain := by
    rw [plain_select_iff]
    decide
  obtain ⟨menu, value, other, choice, chosen, found⟩ :=
    (ofText?_handle "select:day:mon:am" (select "day:mon" "am")).2.2 mixed
  cases chosen
  exact ⟨mixed, other, choice, found⟩

end Interaction

end ChatFlow
