/-
This file looks at the buttons and menus of a message that waits for an answer: their labels and
names, and whether each answer has a handle it can leave by.

A name that is blank or repeated is reported in place of a missing handle, since no handle could
be right for it. Links are never answered and need no handle.
-/

import ChatFlow.Validation.Finding

namespace ChatFlow

open ComponentFinding

/-- The finding, unless all is well. -/
def reportUnless (fine : Bool) (finding : ComponentFinding) : List ComponentFinding :=
  if fine then [] else [finding]

/-- There is nothing in a text but blanks. -/
def isMissing (text : String) : Bool :=
  Text.isBlankText text

/-- What is wrong with the name of a component, or with the handle for it, given the names
before. -/
def checkNamed (handles seen : List String) (name handle : String)
    (nameless repeated unwired : ComponentFinding) : List ComponentFinding :=
  if isMissing name then [nameless]
  else if seen.contains name then [repeated]
  else reportUnless (handles.contains handle) unwired

/-- The names seen behind one more, which counts unless it is blank. -/
def nowSeen (seen : List String) (name : String) : List String :=
  if isMissing name then seen else name :: seen

/-! ### Buttons -/

/-- What is wrong with a button, given the identifiers before. -/
def checkButton (handles seen : List String) (number : Nat) (button : Button) :
    List ComponentFinding :=
  reportUnless (!isMissing button.label) (buttonWithoutLabel number) ++
    if button.style = .link then
      reportUnless (!(button.url.map isMissing).getD true) (linkWithoutUrl number)
    else
      checkNamed handles seen button.id (buttonHandle button.id) (buttonWithoutId number)
        (repeatedButton button.id) (unwiredButton button.id)

/-- What is wrong with some buttons, given the identifiers before and the number of the first. -/
def checkButtons (handles : List String) :
    (seen : List String) → (number : Nat) → List Button → List ComponentFinding
  | _, _, [] => []
  | seen, number, button :: rest =>
    let further := if button.style = .link then seen else nowSeen seen button.id
    checkButton handles seen number button ++ checkButtons handles further (number + 1) rest

/-! ### Menus -/

/-- What is wrong with an option of a menu, given the values before. -/
def checkOption (handles : List String) (menu : String) (seen : List String) (number : Nat)
    (option : SelectOption) : List ComponentFinding :=
  reportUnless (!isMissing option.label) (optionWithoutLabel number menu) ++
    checkNamed handles seen option.value (optionHandle menu option.value)
      (optionWithoutValue number menu) (repeatedOption option.value menu)
      (unwiredOption option.value menu)

/-- What is wrong with some options of a menu. -/
def checkOptions (handles : List String) (menu : String) :
    (seen : List String) → (number : Nat) → List SelectOption → List ComponentFinding
  | _, _, [] => []
  | seen, number, option :: rest =>
    checkOption handles menu seen number option ++
      checkOptions handles menu (nowSeen seen option.value) (number + 1) rest

/-- What is wrong with a menu, given the identifiers before. The options of a menu without a name
of its own are not looked at. -/
def checkMenu (handles seen : List String) (number : Nat) (menu : SelectMenu) :
    List ComponentFinding :=
  if isMissing menu.id then [menuWithoutId number]
  else if seen.contains menu.id then [repeatedMenu menu.id]
  else
    reportUnless (!menu.options.isEmpty) (menuWithoutOptions menu.id) ++
      checkOptions handles menu.id [] 1 menu.options

/-- What is wrong with some menus. -/
def checkMenus (handles : List String) :
    (seen : List String) → (number : Nat) → List SelectMenu → List ComponentFinding
  | _, _, [] => []
  | seen, number, menu :: rest =>
    checkMenu handles seen number menu ++
      checkMenus handles (nowSeen seen menu.id) (number + 1) rest

/-- What is wrong with the components of a message, given the handles that edges leave by. -/
def checkComponents (message : InteractiveMessage) (handles : List String) :
    List ComponentFinding :=
  checkButtons handles [] 1 message.buttons ++ checkMenus handles [] 1 message.selectMenus

end ChatFlow
