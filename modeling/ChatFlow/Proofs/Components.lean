/-
This file says of which messages nothing is reported: those whose buttons and menus are complete and
whose answers all have a handle to leave by.

The scans of buttons, of menus and of the options of a menu go by the same rule. A name is passed if
it shows something and was not seen before, and only such a name is seen from then on. So the names
that a scan passes are proper (`ProperNames`), and what it leaves unchecked behind a name that it
reports cannot matter: the message is not silent then.

Names are checked one kind at a time, but an answer leaves by a handle in which its names stand in a
row. A colon in the identifier of a menu can therefore make two answers of a silent message leave by
one handle, and nothing else can.
-/

import ChatFlow.Proofs.Blanks
import ChatFlow.Run.Action
import ChatFlow.Validation.Components
import Mathlib.Data.List.Nodup

namespace ChatFlow

/-! ### Names -/

theorem reportUnless_eq_nil_iff {fine : Bool} {finding : ComponentFinding} :
    reportUnless fine finding = [] ↔ fine = true := by
  cases fine <;> simp [reportUnless]

/-- The name is there when it shows something. -/
theorem isMissing_eq_false_iff {text : String} : isMissing text = false ↔ Text.Shows text :=
  Text.isBlankText_eq_false_iff

/-- Names that can tell things apart: every one of them shows something, and none is repeated. -/
structure ProperNames (names : List String) : Prop where
  shown : ∀ name ∈ names, Text.Shows name
  apart : names.Nodup

/-- Proper names, none of them seen before. -/
structure FreshNames (seen names : List String) : Prop extends ProperNames names where
  unseen : ∀ name ∈ names, name ∉ seen

theorem freshNames_nil (seen : List String) : FreshNames seen [] where
  shown := List.forall_mem_nil _
  apart := List.nodup_nil
  unseen := List.forall_mem_nil _

theorem freshNames_iff {names : List String} : FreshNames [] names ↔ ProperNames names :=
  ⟨fun fresh => fresh.toProperNames, fun proper => ⟨proper, fun _ _ => List.not_mem_nil⟩⟩

/-- The first of some names is fresh, and the others still are when it has been seen. -/
theorem freshNames_cons_iff {seen names : List String} {name : String} :
    FreshNames seen (name :: names) ↔
      (Text.Shows name ∧ name ∉ seen) ∧ FreshNames (nowSeen seen name) names := by
  constructor
  · rintro ⟨⟨shown, apart⟩, unseen⟩
    have shows := shown name List.mem_cons_self
    rw [List.nodup_cons] at apart
    refine ⟨⟨shows, unseen name List.mem_cons_self⟩, ⟨?_, apart.2⟩, fun other member => ?_⟩
    · exact fun other member => shown other (List.mem_cons_of_mem _ member)
    · rw [nowSeen, isMissing_eq_false_iff.mpr shows, if_neg Bool.false_ne_true, List.mem_cons]
      rintro (rfl | before)
      · exact apart.1 member
      · exact unseen other (List.mem_cons_of_mem _ member) before
  · rintro ⟨⟨shows, new⟩, ⟨shown, apart⟩, unseen⟩
    rw [nowSeen, isMissing_eq_false_iff.mpr shows, if_neg Bool.false_ne_true] at unseen
    refine ⟨⟨List.forall_mem_cons.mpr ⟨shows, shown⟩, List.nodup_cons.mpr ⟨?_, apart⟩⟩,
      List.forall_mem_cons.mpr ⟨new, fun other member before => ?_⟩⟩
    · exact fun member => unseen name member List.mem_cons_self
    · exact unseen other member (List.mem_cons_of_mem _ before)

variable {handles seen : List String} {number : Nat}

/-- Nothing is said of a name that shows something, is new and has its handle. -/
theorem checkNamed_eq_nil_iff {name handle : String}
    {nameless repeated unwired : ComponentFinding} :
    checkNamed handles seen name handle nameless repeated unwired = [] ↔
      (Text.Shows name ∧ name ∉ seen) ∧ handle ∈ handles := by
  rw [checkNamed, ← isMissing_eq_false_iff]
  split
  · rename_i missing
    simp [missing]
  · rename_i given
    rw [Bool.not_eq_true] at given
    split
    · rename_i before
      simp [List.contains_iff_mem.mp before]
    · rename_i new
      rw [List.contains_iff_mem] at new
      rw [reportUnless_eq_nil_iff, List.contains_iff_mem]
      exact ⟨fun wired => ⟨⟨given, new⟩, wired⟩, And.right⟩

/-! ### Buttons -/

/-- The buttons that can be an answer: those that are no links. -/
def pressable (buttons : List Button) : List Button :=
  buttons.filter (·.style ≠ .link)

/-- A button says what it is for and, if it is a link, where it leads. -/
structure Button.Complete (button : Button) : Prop where
  labelled : Text.Shows button.label
  linked : button.style = .link → ∃ url, button.url = some url ∧ Text.Shows url

theorem linked_iff {url : Option String} :
    (!(url.map isMissing).getD true) = true ↔ ∃ text, url = some text ∧ Text.Shows text := by
  cases url with
  | none => simp
  | some text => simp [isMissing_eq_false_iff]

/-- Nothing is said of buttons that are complete and of which those to press have fresh names and
their handles. -/
theorem checkButtons_eq_nil_iff {buttons : List Button} :
    checkButtons handles seen number buttons = [] ↔
      (∀ button ∈ buttons, button.Complete) ∧
        FreshNames seen ((pressable buttons).map (·.id)) ∧
          ∀ button ∈ pressable buttons, buttonHandle button.id ∈ handles := by
  induction buttons generalizing seen number with
  | nil => simp [checkButtons, pressable, freshNames_nil]
  | cons button rest inductionHypothesis =>
    rw [checkButtons, List.append_eq_nil_iff, inductionHypothesis, checkButton,
      List.append_eq_nil_iff, reportUnless_eq_nil_iff, Bool.not_eq_true', isMissing_eq_false_iff,
      List.forall_mem_cons]
    by_cases link : button.style = .link
    · have further : pressable (button :: rest) = pressable rest :=
        List.filter_cons_of_neg (by simpa using link)
      have complete : button.Complete ↔ Text.Shows button.label ∧
          ∃ url, button.url = some url ∧ Text.Shows url :=
        ⟨fun ⟨labelled, linked⟩ => ⟨labelled, linked link⟩,
          fun ⟨labelled, linked⟩ => ⟨labelled, fun _ => linked⟩⟩
      rw [if_pos link, if_pos link, reportUnless_eq_nil_iff, linked_iff, further, complete]
      tauto
    · have further : pressable (button :: rest) = button :: pressable rest :=
        List.filter_cons_of_pos (by simpa using link)
      have complete : button.Complete ↔ Text.Shows button.label :=
        ⟨fun ⟨labelled, _⟩ => labelled, fun labelled => ⟨labelled, fun same => absurd same link⟩⟩
      rw [if_neg link, if_neg link, checkNamed_eq_nil_iff, further, complete, List.map_cons,
        freshNames_cons_iff, List.forall_mem_cons]
      tauto

/-! ### Menus -/

theorem checkOptions_eq_nil_iff {menu : String} {options : List SelectOption} :
    checkOptions handles menu seen number options = [] ↔
      (∀ option ∈ options, Text.Shows option.label) ∧ FreshNames seen (options.map (·.value)) ∧
        ∀ option ∈ options, optionHandle menu option.value ∈ handles := by
  induction options generalizing seen number with
  | nil => simp [checkOptions, freshNames_nil]
  | cons option rest inductionHypothesis =>
    rw [checkOptions, List.append_eq_nil_iff, inductionHypothesis, checkOption,
      List.append_eq_nil_iff, reportUnless_eq_nil_iff, Bool.not_eq_true', isMissing_eq_false_iff,
      checkNamed_eq_nil_iff, List.map_cons, freshNames_cons_iff, List.forall_mem_cons,
      List.forall_mem_cons]
    tauto

/-- A menu has options, and each says what it is for and has a value of its own. -/
structure SelectMenu.Complete (menu : SelectMenu) : Prop where
  filled : menu.options ≠ []
  labelled : ∀ option ∈ menu.options, Text.Shows option.label
  values : ProperNames (menu.options.map (·.value))

theorem checkMenu_eq_nil_iff {menu : SelectMenu} :
    checkMenu handles seen number menu = [] ↔
      (Text.Shows menu.id ∧ menu.id ∉ seen) ∧ menu.Complete ∧
        ∀ option ∈ menu.options, optionHandle menu.id option.value ∈ handles := by
  rw [checkMenu, ← isMissing_eq_false_iff]
  split
  · rename_i missing
    simp [missing]
  · rename_i given
    rw [Bool.not_eq_true] at given
    split
    · rename_i before
      simp [List.contains_iff_mem.mp before]
    · rename_i new
      rw [List.contains_iff_mem] at new
      rw [List.append_eq_nil_iff, reportUnless_eq_nil_iff, Bool.not_eq_true',
        List.isEmpty_eq_false_iff, checkOptions_eq_nil_iff, freshNames_iff]
      constructor
      · rintro ⟨filled, labelled, values, wired⟩
        exact ⟨⟨given, new⟩, ⟨filled, labelled, values⟩, wired⟩
      · rintro ⟨_, ⟨filled, labelled, values⟩, wired⟩
        exact ⟨filled, labelled, values, wired⟩

/-- Nothing is said of menus that are complete, have fresh names, and whose options have their
handles. -/
theorem checkMenus_eq_nil_iff {menus : List SelectMenu} :
    checkMenus handles seen number menus = [] ↔
      FreshNames seen (menus.map (·.id)) ∧ (∀ menu ∈ menus, menu.Complete) ∧
        ∀ menu ∈ menus, ∀ option ∈ menu.options, optionHandle menu.id option.value ∈ handles := by
  induction menus generalizing seen number with
  | nil => simp [checkMenus, freshNames_nil]
  | cons menu rest inductionHypothesis =>
    rw [checkMenus, List.append_eq_nil_iff, inductionHypothesis, checkMenu_eq_nil_iff,
      List.map_cons, freshNames_cons_iff, List.forall_mem_cons, List.forall_mem_cons]
    tauto

/-! ### Messages -/

namespace InteractiveMessage

variable {message : InteractiveMessage}

theorem mem_dynamicHandles_iff {handle : String} :
    handle ∈ message.dynamicHandles ↔
      (∃ button ∈ pressable message.buttons, buttonHandle button.id = handle) ∨
        ∃ menu ∈ message.selectMenus, ∃ option ∈ menu.options,
          optionHandle menu.id option.value = handle := by
  simp only [dynamicHandles, pressable, List.mem_append, List.mem_map, List.mem_flatMap]

/-- All that the handles of a message are asked for: those of its buttons, and those of the options
of its menus. -/
theorem forall_mem_dynamicHandles_iff :
    (∀ handle ∈ message.dynamicHandles, handle ∈ handles) ↔
      (∀ button ∈ pressable message.buttons, buttonHandle button.id ∈ handles) ∧
        ∀ menu ∈ message.selectMenus, ∀ option ∈ menu.options,
          optionHandle menu.id option.value ∈ handles := by
  constructor
  · intro wired
    exact ⟨fun button member => wired _ (mem_dynamicHandles_iff.mpr (.inl ⟨button, member, rfl⟩)),
      fun menu member option inside =>
        wired _ (mem_dynamicHandles_iff.mpr (.inr ⟨menu, member, option, inside, rfl⟩))⟩
  · rintro ⟨buttons, menus⟩ handle member
    rcases mem_dynamicHandles_iff.mp member with ⟨button, among, rfl⟩ | choice
    · exact buttons button among
    · obtain ⟨menu, among, option, inside, rfl⟩ := choice
      exact menus menu among option inside

/-- A message is complete when its buttons and menus are, their names tell them apart, and every
answer has a handle. -/
structure Complete (message : InteractiveMessage) (handles : List String) : Prop where
  buttonLabels : ∀ button ∈ message.buttons, Text.Shows button.label
  links : ∀ button ∈ message.buttons, button.style = .link →
    ∃ url, button.url = some url ∧ Text.Shows url
  buttonNames : ProperNames ((pressable message.buttons).map (·.id))
  menuNames : ProperNames (message.selectMenus.map (·.id))
  filled : ∀ menu ∈ message.selectMenus, menu.options ≠ []
  optionLabels : ∀ menu ∈ message.selectMenus, ∀ option ∈ menu.options, Text.Shows option.label
  optionValues : ∀ menu ∈ message.selectMenus, ProperNames (menu.options.map (·.value))
  wired : ∀ handle ∈ message.dynamicHandles, handle ∈ handles

theorem checkComponents_iff_parts :
    checkComponents message handles = [] ↔
      ((∀ button ∈ message.buttons, button.Complete) ∧
          ∀ menu ∈ message.selectMenus, menu.Complete) ∧
        (ProperNames ((pressable message.buttons).map (·.id)) ∧
          ProperNames (message.selectMenus.map (·.id))) ∧
            ∀ handle ∈ message.dynamicHandles, handle ∈ handles := by
  rw [checkComponents, List.append_eq_nil_iff, checkButtons_eq_nil_iff, checkMenus_eq_nil_iff,
    freshNames_iff, freshNames_iff, forall_mem_dynamicHandles_iff]
  tauto

/-- Nothing is reported of the components of a message just when the message is complete: what is
left out behind a name that is reported hides no fault of a message that is not. -/
theorem checkComponents_eq_nil_iff (message : InteractiveMessage) (handles : List String) :
    checkComponents message handles = [] ↔ message.Complete handles := by
  rw [checkComponents_iff_parts]
  constructor
  · rintro ⟨⟨buttons, menus⟩, ⟨buttonNames, menuNames⟩, wired⟩
    exact {
      buttonLabels := fun button member => (buttons button member).labelled
      links := fun button member => (buttons button member).linked
      buttonNames := buttonNames
      menuNames := menuNames
      filled := fun menu member => (menus menu member).filled
      optionLabels := fun menu member => (menus menu member).labelled
      optionValues := fun menu member => (menus menu member).values
      wired := wired }
  · intro complete
    refine ⟨⟨fun button member => ?_, fun menu member => ?_⟩,
      ⟨complete.buttonNames, complete.menuNames⟩, complete.wired⟩
    · exact ⟨complete.buttonLabels button member, complete.links button member⟩
    · exact ⟨complete.filled menu member, complete.optionLabels menu member,
        complete.optionValues menu member⟩

end InteractiveMessage

/-! ### The answers that a message offers -/

/-- The message offers the answer: one of its buttons that is no link is pressed, or an option of
one of its menus is chosen. -/
inductive InteractiveMessage.Offers (message : InteractiveMessage) : Interaction → Prop where
  | button (button : Button) (member : button ∈ message.buttons)
      (pressed : button.style ≠ .link) : Offers message (.button button.id)
  | select (menu : SelectMenu) (member : menu ∈ message.selectMenus) (option : SelectOption)
      (inside : option ∈ menu.options) : Offers message (.select menu.id option.value)

/-- The choices that a menu offers, in order. -/
def SelectMenu.answers (menu : SelectMenu) : List Interaction :=
  menu.options.map fun option => .select menu.id option.value

namespace InteractiveMessage

/-- The answers that a message offers, in the order of its components. -/
def answers (message : InteractiveMessage) : List Interaction :=
  (pressable message.buttons).map (fun button => .button button.id) ++
    message.selectMenus.flatMap SelectMenu.answers

variable {message : InteractiveMessage}

theorem mem_answers_iff {response : Interaction} :
    response ∈ message.answers ↔ message.Offers response := by
  simp only [answers, SelectMenu.answers, pressable, List.mem_append, List.mem_map,
    List.mem_filter, List.mem_flatMap, decide_eq_true_iff]
  constructor
  · rintro (⟨button, ⟨member, pressed⟩, rfl⟩ | ⟨menu, member, option, inside, rfl⟩)
    · exact .button button member pressed
    · exact .select menu member option inside
  · rintro (⟨button, member, pressed⟩ | ⟨menu, member, option, inside⟩)
    · exact .inl ⟨button, ⟨member, pressed⟩, rfl⟩
    · exact .inr ⟨menu, member, option, inside, rfl⟩

theorem dynamicHandles_eq_map :
    message.dynamicHandles = message.answers.map Interaction.handle := by
  rw [answers, List.map_append, List.map_map, List.map_flatMap, dynamicHandles]
  simp only [SelectMenu.answers, List.map_map]
  rfl

theorem Offers.handle_mem {response : Interaction} (offers : message.Offers response) :
    response.handle ∈ message.dynamicHandles := by
  rw [dynamicHandles_eq_map]
  exact List.mem_map_of_mem (mem_answers_iff.mpr offers)

theorem nodup_answers (buttons : ((pressable message.buttons).map (·.id)).Nodup)
    (menus : (message.selectMenus.map (·.id)).Nodup)
    (options : ∀ menu ∈ message.selectMenus, (menu.options.map (·.value)).Nodup) :
    message.answers.Nodup := by
  have press : Function.Injective Interaction.button := fun _ _ => Interaction.button.inj
  have choose (menu : String) : Function.Injective (Interaction.select menu) :=
    fun _ _ same => (Interaction.select.inj same).2
  refine List.Nodup.append ?_ (List.nodup_flatMap.mpr ⟨fun menu member => ?_, ?_⟩) ?_
  · have pressed := List.Nodup.map press buttons
    rwa [List.map_map] at pressed
  · have chosen := List.Nodup.map (choose menu.id) (options menu member)
    rwa [List.map_map] at chosen
  · refine (List.pairwise_map.mp menus).imp fun {menu other} apart response here there => ?_
    obtain ⟨option, _, rfl⟩ := List.mem_map.mp here
    obtain ⟨choice, _, same⟩ := List.mem_map.mp there
    exact apart (Interaction.select.inj same).1.symm
  · intro response pressed chosen
    obtain ⟨button, _, rfl⟩ := List.mem_map.mp pressed
    obtain ⟨menu, _, among⟩ := List.mem_flatMap.mp chosen
    obtain ⟨option, _, same⟩ := List.mem_map.mp among
    cases same

end InteractiveMessage

/-! ### Handles that two answers share -/

namespace Interaction

/-- Two choices of which the second has in the identifier of its menu, behind a colon, what the
first has at the beginning of its value. -/
inductive Overlaps : Interaction → Interaction → Prop where
  | select (menu rest value : String) :
    Overlaps (.select menu (rest ++ ":" ++ value)) (.select (menu ++ ":" ++ rest) value)

theorem toList_handle_button (id : String) :
    (button id).handle.toList = "button:".toList ++ id.toList :=
  String.toList_append

theorem toList_handle_select (menu value : String) :
    (select menu value).handle.toList =
      "select:".toList ++ (menu.toList ++ ':' :: value.toList) := by
  rw [handle, optionHandle]
  simp only [String.toList_append, List.append_assoc]
  rfl

theorem handle_button_ne_select (id menu value : String) :
    (button id).handle ≠ (select menu value).handle := by
  intro same
  replace same := congrArg String.toList same
  rw [toList_handle_button, toList_handle_select] at same
  have first : 'b' = 's' := (List.cons.inj same).1
  revert first
  decide

/-- Two choices leave by one handle when they are the same or overlap. -/
theorem overlaps_of_append {menu value other choice : String} {between : List Char}
    (further : other.toList = menu.toList ++ between)
    (same : ':' :: value.toList = between ++ ':' :: choice.toList) :
    select menu value = select other choice ∨
      (select menu value).Overlaps (select other choice) := by
  cases between with
  | nil =>
    rw [List.append_nil, String.toList_inj] at further
    have equal : value = choice := String.toList_inj.mp (List.cons.inj same).2
    exact .inl (by rw [further, equal])
  | cons colon rest =>
    obtain ⟨rfl, tail⟩ := List.cons.inj same
    have front : other = menu ++ ":" ++ String.ofList rest := by
      rw [← String.toList_inj, further]
      simp
    have back : value = String.ofList rest ++ ":" ++ choice := by
      rw [← String.toList_inj, tail]
      simp
    rw [front, back]
    exact .inr (.select _ _ _)

/-- Two answers leave by one handle just when they are the same or overlap. -/
theorem handle_eq_handle_iff {first second : Interaction} :
    first.handle = second.handle ↔
      first = second ∨ first.Overlaps second ∨ second.Overlaps first := by
  constructor
  · intro same
    cases first with
    | button id =>
      cases second with
      | button other =>
        replace same := congrArg String.toList same
        rw [toList_handle_button, toList_handle_button, List.append_cancel_left_eq,
          String.toList_inj] at same
        exact .inl (congrArg button same)
      | select menu value => exact absurd same (handle_button_ne_select id menu value)
    | select menu value =>
      cases second with
      | button id => exact absurd same.symm (handle_button_ne_select id menu value)
      | select other choice =>
        replace same := congrArg String.toList same
        rw [toList_handle_select, toList_handle_select, List.append_cancel_left_eq,
          List.append_eq_append_iff] at same
        rcases same with ⟨between, further, rest⟩ | ⟨between, further, rest⟩
        · exact (overlaps_of_append further rest).imp_right .inl
        · exact (overlaps_of_append further rest).imp Eq.symm .inr
  · have shared : ∀ {first second : Interaction}, first.Overlaps second →
        first.handle = second.handle := by
      rintro _ _ ⟨menu, rest, value⟩
      rw [← String.toList_inj, toList_handle_select, toList_handle_select]
      simp
    rintro (rfl | overlaps | overlaps)
    · rfl
    · exact shared overlaps
    · exact (shared overlaps).symm

theorem Overlaps.ne {first second : Interaction} (overlaps : first.Overlaps second) :
    first ≠ second := by
  obtain ⟨menu, rest, value⟩ := overlaps
  intro same
  have longer := congrArg (List.length ∘ String.toList) (Interaction.select.inj same).1
  simp at longer

end Interaction

namespace InteractiveMessage

variable {message : InteractiveMessage}

/-- The message offers two choices that overlap. -/
def Clashes (message : InteractiveMessage) : Prop :=
  ∃ first second, message.Offers first ∧ message.Offers second ∧ first.Overlaps second

/-- The answers to a message leave by handles of their own unless the message clashes. -/
theorem eq_of_handle_eq_iff :
    (∀ first second, message.Offers first → message.Offers second →
        first.handle = second.handle → first = second) ↔ ¬ message.Clashes := by
  constructor
  · rintro apart ⟨first, second, here, there, overlaps⟩
    have same : first.handle = second.handle :=
      Interaction.handle_eq_handle_iff.mpr (.inr (.inl overlaps))
    exact overlaps.ne (apart first second here there same)
  · intro clear first second here there same
    rcases Interaction.handle_eq_handle_iff.mp same with equal | overlaps | overlaps
    · exact equal
    · exact absurd ⟨first, second, here, there, overlaps⟩ clear
    · exact absurd ⟨second, first, there, here, overlaps⟩ clear

/-- Without a colon in the identifier of a menu no choices overlap. -/
theorem not_clashes_of_no_colon
    (plain : ∀ menu ∈ message.selectMenus, ':' ∉ menu.id.toList) : ¬ message.Clashes := by
  rintro ⟨first, second, _, there, overlaps⟩
  cases there with
  | button => cases overlaps
  | select menu member option inside =>
    generalize named : menu.id = id at overlaps
    obtain ⟨front, rest, value⟩ := overlaps
    refine plain menu member ?_
    rw [named]
    simp

/-- The names of a message of which nothing is reported need not keep its answers apart. Two of its
handles are the same, and one answer is taken for another, just when two choices overlap, which
takes a colon in the identifier of a menu. -/
theorem nodup_dynamicHandles_iff (message : InteractiveMessage) (handles : List String)
    (silent : checkComponents message handles = []) :
    (message.dynamicHandles.Nodup ↔ ¬ message.Clashes) ∧
      ((∀ first second, message.Offers first → message.Offers second →
          first.handle = second.handle → first = second) ↔ ¬ message.Clashes) ∧
      ((∀ menu ∈ message.selectMenus, ':' ∉ menu.id.toList) → ¬ message.Clashes) := by
  refine ⟨?_, eq_of_handle_eq_iff, not_clashes_of_no_colon⟩
  obtain ⟨⟨_, menus⟩, ⟨buttonNames, menuNames⟩, _⟩ := checkComponents_iff_parts.mp silent
  have apart : message.answers.Nodup := nodup_answers buttonNames.apart menuNames.apart
    fun menu member => (menus menu member).values.apart
  rw [dynamicHandles_eq_map, List.nodup_map_iff_inj_on apart, ← eq_of_handle_eq_iff]
  simp only [mem_answers_iff]
  exact ⟨fun each first second here there => each first here second there,
    fun each first here second there => each first second here there⟩

/-- A message with one menu for the day and one for the part of a day. -/
def visitTimes : InteractiveMessage where
  content := ⟨"When do you come?"⟩
  buttons := []
  selectMenus := [
    { id := "day", placeholder := "", options := [{ label := "Monday", value := "mon:am" }] },
    { id := "day:mon", placeholder := "", options := [{ label := "Early", value := "am" }] }]
  timeoutMs := none
  responseVariable := none

/-- Nothing is reported of the message, and still its two choices leave by one handle. -/
theorem visitTimes_share_handle :
    checkComponents visitTimes ["select:day:mon:am"] = [] ∧
      visitTimes.dynamicHandles = ["select:day:mon:am", "select:day:mon:am"] ∧
      visitTimes.Clashes ∧ ¬ visitTimes.dynamicHandles.Nodup := by
  have silent : checkComponents visitTimes ["select:day:mon:am"] = [] := by decide +kernel
  have clashes : visitTimes.Clashes :=
    ⟨.select "day" "mon:am", .select "day:mon" "am", mem_answers_iff.mp (by decide +kernel),
      mem_answers_iff.mp (by decide +kernel), .select "day" "mon" "am"⟩
  exact ⟨silent, by decide +kernel, clashes, fun apart =>
    (nodup_dynamicHandles_iff visitTimes _ silent).1.mp apart clashes⟩

end InteractiveMessage

end ChatFlow
